import LinkStubs.Check
import LinkStubs.CommandLine.Arguments

/-!
The commands of the program, and what running it comes to.
-/

namespace LinkStubs.CommandLine

inductive Command where
  | generate (options : GenerateOptions)
  | check (inputs : List String)
  deriving DecidableEq, Repr

structure Call where
  command : Command
  threshold : Level
  deriving DecidableEq, Repr

/-- Being verbose counts before being quiet. -/
def thresholdOf (switches : List Switch) : Level :=
  if switches.contains .verbose then .debug
  else if switches.contains .quiet then .warn
  else .info

/-- The command called `name`, with the switches that stand behind it. -/
def readCommand (name : String) (args : List String) : Except UsageError (Command × List Switch) := do
  match name with
  | "generate" =>
    let given ← Given.ofArguments (Grammar.generate ++ Grammar.shared) args
    return (.generate (← given.generateOptions), given.switches)
  | "check" =>
    let given ← Given.ofArguments (Grammar.check ++ Grammar.shared) args
    return (.check (← given.checkInputs), given.switches)
  | "help" =>
    match args with
    | [] => .error .help
    | [topic] =>
      if ["generate", "check", "help"].contains topic then .error .help else .error .noCommand
    | _ => .error .noCommand
  | _ => .error .noCommand

/-- Reads switches up to the name of a command, and then the command. -/
def readCall (given : Given) : List String → Except UsageError Call
  | [] => .error .noCommand
  | arg :: args => do
    match arg.toList with
    | ['-', '-'] => .error .noCommand
    | '-' :: _ :: _ =>
      let grammar := Grammar.help ++ Grammar.version ++ Grammar.shared
      let reading ← Reading.takeArgument grammar { given } arg
      readCall reading.given args
    | _ =>
      let (command, switches) ← readCommand arg args
      if given.switches.contains .verbose && given.switches.contains .quiet then .error .conflict
      else return ⟨command, thresholdOf (given.switches ++ switches)⟩

def Call.ofArguments (args : List String) : Except UsageError Call :=
  readCall {} args

def versionText : String := "dotstub 0.1.0\n"

def helpText : String :=
  Text.unlines [
    "Usage: dotstub [-v | -q] generate -t <type> -o <directory> [options] <file>...",
    "       dotstub [-v | -q] check <file>..." ]

/-- What becomes of a process that panics. -/
inductive PanicStrategy where
  | unwind
  | abort
  deriving DecidableEq, Repr

/-- The status of such a process; that of an aborted one is as a shell gives it. -/
def PanicStrategy.status : PanicStrategy → Nat
  | .unwind => 101
  | .abort => 134

/-- What surrounds a process: what its output and its last message can be written to, and how it was
built. -/
structure Host where
  console : Console := fun _ _ => none
  /-- Why the message that a command fails with cannot be written. -/
  messages : String → Option FileError := fun _ => none
  panic : PanicStrategy := .unwind

structure Outcome where
  status : Nat
  output : String := ""
  log : List LogEvent := []
  failure : Option String := none
  tree : FileTree

/-- The outcome of arguments that ask for no command. Help that cannot be printed is no failure. -/
def usageOutcome (host : Host) (tree : FileTree) : UsageError → Outcome
  | .help => { status := 0, output := (host.console.pass "" helpText).2, tree }
  | .version => { status := 0, output := (host.console.pass "" versionText).2, tree }
  | _ => { status := 2, tree }

/-- The paths that a command names; `surrounding` names the defaults where the command does not. -/
def Command.paths (surrounding : Option String) : Command → List String
  | .check inputs => inputs
  | .generate o =>
    o.inputs ++ [o.output, o.intermediate] ++ o.extraStubHeader.toList
      ++ (o.config <|> surrounding).toList

/-- The import tool that a command calls, if its defaults can be had. -/
def Command.tool (tree : FileTree) (surrounding : Option String) : Command → Option String
  | .check _ => none
  | .generate o =>
    match o.libTool, o.config <|> surrounding with
    | some tool, _ => some tool
    | none, none => none
    | none, some path => (Defaults.ofFile tree path).toOption.map (·.libTool)

/-- Carries a command out; the result is why it was not allowed to print, if it was not. -/
def Command.run (tools : Toolbox) (surrounding : Option String) :
    Command → Run (Option FileError)
  | .generate options => do
    let _ ← Run.generateWith tools surrounding options
    return none
  | .check inputs => Check.run inputs

def failureText (e : GenerationError) : String :=
  "dotstub: " ++ e.message

/-- The status of a process whose command came to a result. A text of its own that the program
cannot write makes it panic. -/
def statusOf (host : Host) : Except GenerationError (Option FileError) → Nat
  | .ok none => 0
  | .ok (some _) => host.panic.status
  | .error e =>
    match host.messages (failureText e) with
    | none => e.status
    | some _ => host.panic.status

def outcomeOf (host : Host) (threshold : Level)
    (result : Except GenerationError (Option FileError)) (s : Session) : Outcome :=
  let status := statusOf host result
  match result with
  | .ok _ => { status, output := s.output, log := LogEvent.shown threshold s.log, tree := s.tree }
  | .error e =>
    { status
      output := s.output
      log := LogEvent.shown threshold (s.log ++ [.failed e.code])
      failure := if (host.messages (failureText e)).isNone then some (failureText e) else none
      tree := s.tree }

/-- Runs the program on its arguments; `surrounding` names a file of defaults for generations that
name none. -/
def run (tools : Toolbox) (surrounding : Option String) (tree : FileTree) (args : List String)
    (host : Host := {}) : Outcome :=
  match Call.ofArguments args with
  | .error e => usageOutcome host tree e
  | .ok call =>
    let (result, s) :=
      (call.command.run tools surrounding).start { tree, console := host.console }
    outcomeOf host call.threshold result s

end LinkStubs.CommandLine
