import LinkStubs.CommandLine.Script.System

/-!
Carrying out commands, scripts and programs.
-/

namespace LinkStubs.Script

/-- What commands inside of others are carried out by. A command is tested where its status is looked
at, so that it may fail. -/
structure Evaluator where
  command : Command → Bool → Sh Unit
  script : Octets → Sh Unit

namespace Sh

variable (k : Evaluator)

def redirectAll : List Redirection → Sh Bool
  | [] => return true
  | r :: rs => do
    let good ← match r with
      | .file descriptor mode name =>
        openFile descriptor mode (Octets.toText (← textOf k.script name))
      | .document text => do
        let input ← textOf k.script text
        modify ({ · with input })
        pure true
      | .copy descriptor source => do
        let source ← textOf k.script source
        let ports := (← get).ports
        redirect descriptor
          (((String.ofList source).toNat?.bind (fun n => ports.lookup n)).getD .nowhere)
        pure true
    if good then redirectAll rs else return false

/-- Does something with redirections; where one fails, a part of the shell itself ends the shell. -/
def redirected (own : Bool) (rs : List Redirection) (x : Sh Unit) : Sh Unit :=
  if rs.isEmpty then x
  else keepingPorts do
    if ← redirectAll k rs then x
    else if own then leaveWith 2
    else setStatus 2

def runToEnd (text : Octets) : Sh Unit := do
  tryCatch (k.script text) (fun stop => if stop = .killed then throw stop else return ())
  let s ← get
  if let some action := s.traps.lookup 0 then
    modify ({ · with traps := [] })
    k.script action
    setStatus s.status

def runShell (args : List Octets) : Sh Unit := subshell do
  let (flags, args) := if args.head? = some ['-'] then ([], args.drop 1) else Program.flagged args
  modify ({ · with flags, functions := [], traps := [], status := 0 })
  match flags.contains 'c', args with
  | true, text :: args =>
    modify ({ · with name := args.head?.getD "sh".toList, arguments := args.drop 1 })
    runToEnd k text
  | false, path :: args =>
    modify ({ · with name := path, arguments := args })
    match ← attempt (·.readBytes (Octets.toText path)) with
    | some content => runToEnd k (Octets.ofBytes content)
    | none => leaveWith 2
  | _, [] => runToEnd k (← get).input

/-- Executes a file. A script is run by the program that it names, which may be a script. The result
is why that is not possible. -/
def execute : Nat → Octets → List Octets → Sh (Option FileError)
  | 0, _, _ => return some .tooManyLevels
  | levels + 1, path, args => do
    let tree := (← get).tree
    match tree.find (Octets.toText path) with
    | .error e => return some e
    | .ok .directory | .ok (.file _ false) => return some .permissionDenied
    | .ok (.file content true) =>
      match System.programName? content, System.interpreter? content with
      | some name, _ =>
        setStatus 0
        if System.shells.contains name then runShell k args
        else if name == "echo" then print ([' '].intercalate args ++ ['\n'])
        else ((Program.all.lookup name).getD (fun _ => return ())) args
        return none
      | none, some (interpreter, argument) =>
        execute levels interpreter (argument.toList ++ path :: args)
      | none, none => return some .badExecutable

/-- How many programs may run each other before one of them is reached that is no script. -/
def maxLevels : Nat := 6

/-- Runs a program from a shell. What no program can run is taken for a script. -/
def runProgram (name : Octets) (args : List Octets) : Sh Unit := do
  match System.pathOf (← get).tree name with
  | .error _ => setStatus 127
  | .ok path =>
    let x : Sh Unit := do
      match ← execute k maxLevels path args with
      | none => return ()
      | some .badExecutable => runShell k (path :: args)
      | some .permissionDenied => setStatus 126
      | some _ => setStatus 127
    tryCatch x (fun stop => if stop = .killed then setStatus 137 else throw stop)

/-- The commands that are parts of a shell and end it where they fail. -/
def ownCommand? (name : String) : Option (List Octets → Sh Unit) :=
  let quiet (x : List Octets → Sh Unit) : Option (List Octets → Sh Unit) :=
    some (fun args => do
      setStatus 0
      x args)
  match name with
  | ":" => quiet (fun _ => return ())
  | "exit" => some (fun args => do leaveWith ((← Builtin.count (← get).status args) % 256))
  | "return" => some (fun args => do
      setStatus ((← Builtin.count (← get).status args) % 256)
      throw .leaveFunction)
  | "break" => quiet (fun args => do throw (.leaveLoops (← Builtin.count 1 args) false))
  | "continue" => quiet (fun args => do throw (.leaveLoops (← Builtin.count 1 args) true))
  | "eval" => quiet (fun args => k.script ([' '].intercalate args))
  | "." => quiet (fun args => do
      match ← attempt (·.readBytes (Octets.toText (args.head?.getD []))) with
      | some content => k.script (Octets.ofBytes content)
      | none => leaveWith 2)
  | "exec" => quiet (fun args => do
      if let name :: args := args then
        runProgram k name args
        throw .leave)
  | "set" => quiet Builtin.setAll
  | "shift" => quiet Builtin.shift
  | "trap" => quiet Builtin.trap
  | "export" | "readonly" => quiet Builtin.assignAll
  | "unset" => quiet Builtin.unset
  | _ => none

/-- The other commands that need no program. -/
def builtin? (name : String) : Option (List Octets → Sh Unit) :=
  match name with
  | "read" => some Builtin.read
  | "cd" => some Builtin.cd
  | "kill" => some (Builtin.kill k.script)
  | name => Program.all.lookup name

def call (body : Command) (tested : Bool) (args : List Octets) : Sh Unit := do
  let outer := (← get).arguments
  modify ({ · with arguments := args })
  let back : Sh Unit := modify ({ · with arguments := outer })
  tryCatch (k.command body tested) (fun stop => do
    back
    if stop = .leaveFunction then return () else throw stop)
  back

def assignWords (assignments : List (Octets × Word)) : Sh Unit :=
  for (name, word) in assignments do
    assign name (← textOf k.script word)

def simple (assignments : List (Octets × Word)) (words : List Word) (rs : List Redirection)
    (tested : Bool) : Sh Unit := do
  let args ← argumentsOf k.script words
  match args with
  | [] =>
    redirected k false rs (return ())
    assignWords k assignments
    let runs := (assignments.map (·.2) ++ words).flatten.any (fun p => p matches .output ..)
    if !runs && rs.isEmpty then setStatus 0
  | name :: args =>
    let s ← get
    match ownCommand? k (String.ofList name), s.functions.lookup name with
    | some x, _ =>
      assignWords k assignments
      if name == "exec".toList && args.isEmpty then
        if ← redirectAll k rs then setStatus 0 else leaveWith 2
      else redirected k true rs (x args)
    | none, body =>
      redirected k false rs do
        assignWords k assignments
        match body, builtin? k (String.ofList name) with
        | some body, _ => call k body tested args
        | none, some x =>
          setStatus 0
          x args
        | none, none => runProgram k name args
        for (name, _) in assignments do
          assign name ((s.bindings.lookup name).getD [])

/-- Does the body of a loop; the result is whether the loop goes on. -/
def turn (body : Command) (tested : Bool) : Sh Bool :=
  tryCatch (do k.command body tested; return true) (fun stop =>
    match stop with
    | .leaveLoops (levels + 2) again => throw (.leaveLoops (levels + 1) again)
    | .leaveLoops _ again => return again
    | stop => throw stop)

def loop (goal : Bool) (condition body : Command) (tested : Bool) : Nat → Nat → Sh Unit
  | 0, _ => throw .killed
  | fuel + 1, status => do
    k.command condition true
    if ((← get).status == 0) != goal then setStatus status
    else if ← turn k body tested then
      loop goal condition body tested fuel (← get).status

def forEach (name : Octets) (body : Command) (tested : Bool) : List Octets → Sh Unit
  | [] => return ()
  | value :: values => do
    assign name value
    if ← turn k body tested then forEach name body tested values

def choose (cs : Octets) (tested : Bool) : List (List Word × Command) → Sh Unit
  | [] => setStatus 0
  | (patterns, body) :: arms => do
    let fields ← patterns.mapM (fieldOf k.script)
    if fields.any (·.fits cs) then k.command body tested else choose cs tested arms

/-- How often a loop may be gone through, and how deep commands may lie within each other. -/
def maxDepth : Nat := 100000

def runCommand (c : Command) (tested : Bool) : Sh Unit := do
  let leaveOnFailure : Sh Unit := do
    let s ← get
    if s.status ≠ 0 && !tested && s.flags.contains 'e' then throw .leave
  match c with
  | .simple assignments words rs =>
    simple k assignments words rs tested
    leaveOnFailure
  | .redirected body rs => redirected k false rs (k.command body tested)
  | .sequence first second =>
    k.command first tested
    k.command second tested
  | .both first second =>
    k.command first true
    if (← get).status = 0 then k.command second tested
  | .either first second =>
    k.command first true
    if (← get).status ≠ 0 then k.command second tested
  | .negation body =>
    k.command body true
    setStatus (if (← get).status = 0 then 1 else 0)
  | .pipe source target =>
    keepingPorts do
      let input ← output (k.command source true)
      subshell do
        modify ({ · with input })
        k.command target tested
    leaveOnFailure
  | .subshell body =>
    subshell (k.command body tested)
    leaveOnFailure
  | .conditional condition body alternative =>
    k.command condition true
    k.command (if (← get).status = 0 then body else alternative) tested
  | .loop goal condition body => loop k goal condition body tested maxDepth 0
  | .forEach name words body =>
    let values ← argumentsOf k.script words
    setStatus 0
    forEach k name body tested values
  | .choose subject arms => choose k (← textOf k.script subject) tested arms
  | .define name body =>
    modify (fun s => { s with functions := (name, body) :: s.functions.filter (·.1 != name) })
    setStatus 0

def runLines : Nat → Octets → Sh Unit
  | 0, _ => return ()
  | fuel + 1, cs => do
    match Reader.nextLine cs with
    | none => leaveWith 2
    | some none => return ()
    | some (some (found, rest)) =>
      k.command found false
      runLines fuel rest

end Sh

/-- The evaluator for commands up to a depth. -/
def evaluator : Nat → Evaluator
  | 0 => { command := fun _ _ => throw .killed, script := fun _ => throw .killed }
  | fuel + 1 =>
    { command := fun c tested s => (Sh.runCommand (evaluator fuel) c tested).run s
      script := fun cs s => (Sh.runLines (evaluator fuel) (cs.length + 1) cs).run s }

/-- What a program comes to. A program that is killed has no status. -/
inductive ProgramRun where
  | refused (reason : FileError)
  | finished (status : Option Nat) (output : ByteArray)

/-- Runs a program on a tree of files: what it comes to, and the tree that it leaves. -/
def runProgram (tree : FileTree) (environment : List (String × String)) (program : String)
    (arguments : List String) : ProgramRun × FileTree :=
  let start : Shell :=
    { tree := System.install tree
      bindings := (System.environment ++ environment).map
        (fun (name, value) => (Octets.ofText name, Octets.ofText value)) }
  match System.pathOf start.tree (Octets.ofText program) with
  | .error e => (.refused e, tree)
  | .ok path =>
    let run := Sh.execute (evaluator Sh.maxDepth) Sh.maxLevels path (arguments.map Octets.ofText)
    let (result, s) : Except Stop (Option FileError) × Shell := run.run start
    let output := Octets.toBytes s.collected.reverse
    let left := System.uninstall tree s.tree
    match result with
    | .ok (some e) => (.refused e, left)
    | .error .killed => (.finished none output, left)
    | _ => (.finished (some s.status) output, left)

end LinkStubs.Script
