import LinkStubs.CommandLine.Flag

/-!
Reading arguments: flags in their short and long forms, values attached or apart, and inputs
anywhere between them. A value that stands apart is judged when the next flag or input comes.
-/

namespace LinkStubs.CommandLine

/-- Why arguments are not carried out; asking for help or the version is one such reason. -/
inductive UsageError where
  | missingRequired
  | invalidValue
  | unknownArgument
  | conflict
  | tooManyValues
  | noCommand
  | help
  | version
  deriving DecidableEq, Repr

structure Given where
  settings : List (Setting × String) := []
  switches : List Switch := []
  inputs : List String := []
  deriving DecidableEq, Repr

/-- What is still open: a flag with or without its value, or inputs in a row. -/
inductive Pending where
  | nothing
  | setting (s : Setting) (value : Option String)
  | inputs (paths : List String)
  deriving DecidableEq, Repr

structure Reading where
  given : Given := {}
  pending : Pending := .nothing
  deriving DecidableEq, Repr

namespace Given

/-- Takes a setting with its value; none may be given twice. -/
def addSetting (g : Given) (s : Setting) (value : String) : Except UsageError Given :=
  if (g.settings.lookup s).isSome then .error .conflict
  else if s.accepts value then .ok { g with settings := g.settings ++ [(s, value)] }
  else .error .invalidValue

def addInputs (g : Given) (paths : List String) : Except UsageError Given :=
  if paths.any String.isEmpty then .error .invalidValue
  else .ok { g with inputs := g.inputs ++ paths }

def addSwitch (g : Given) (s : Switch) : Except UsageError Given :=
  match s with
  | .help => .error .help
  | .version => .error .version
  | s =>
    if g.switches.contains s then .error .conflict
    else .ok { g with switches := g.switches ++ [s] }

end Given

namespace Reading

def settle (r : Reading) : Except UsageError Given :=
  match r.pending with
  | .nothing => .ok r.given
  | .setting _ none => .error .invalidValue
  | .setting s (some value) => r.given.addSetting s value
  | .inputs paths => r.given.addInputs paths

/-- Takes a flag with a value that is attached to it, if there is one. -/
def takeFlag (r : Reading) (flag : Flag) (attached : Option String) :
    Except UsageError Reading := do
  match flag, attached with
  | .switch _, some _ => .error .tooManyValues
  | .switch s, none => return { given := ← (← r.settle).addSwitch s }
  | .setting s, some value => return { given := ← (← r.settle).addSetting s value }
  | .setting s, none => return { given := ← r.settle, pending := .setting s none }

/-- Takes an argument that is no flag: a value that is waited for, or an input. -/
def takeValue (r : Reading) (value : String) : Except UsageError Reading := do
  match r.pending with
  | .setting s none => return { r with pending := .setting s (some value) }
  | .inputs paths => return { r with pending := .inputs (paths ++ [value]) }
  | _ => return { given := ← r.settle, pending := .inputs [value] }

def takeInput (r : Reading) (path : String) : Except UsageError Reading := do
  match r.pending with
  | .inputs paths => return { r with pending := .inputs (paths ++ [path]) }
  | _ => return { given := ← r.settle, pending := .inputs [path] }

def takeLong (g : Grammar) (r : Reading) (cs : List Char) : Except UsageError Reading :=
  let name := cs.takeWhile (· != '=')
  let value := match cs.dropWhile (· != '=') with
    | [] => none
    | _ :: value => some (String.ofList value)
  match g.long? (String.ofList name) with
  | some flag => r.takeFlag flag value
  | none => .error .unknownArgument

/-- The value behind a short flag, which an equals sign may set off. -/
def attachedValue : List Char → Option String
  | [] => none
  | '=' :: cs => some (String.ofList cs)
  | cs => some (String.ofList cs)

def takeShorts (g : Grammar) (r : Reading) : List Char → Except UsageError Reading
  | [] => .ok r
  | c :: cs =>
    match g.short? c with
    | none => .error .unknownArgument
    | some (.setting s) => r.takeFlag (.setting s) (attachedValue cs)
    | some (.switch s) => do takeShorts g (← r.takeFlag (.switch s) none) cs

def takeArgument (g : Grammar) (r : Reading) (arg : String) : Except UsageError Reading :=
  match arg.toList with
  | '-' :: '-' :: cs => takeLong g r cs
  | ['-'] => r.takeValue arg
  | '-' :: cs => takeShorts g r cs
  | _ => r.takeValue arg

def takeInputs (r : Reading) : List String → Except UsageError Given
  | [] => r.settle
  | path :: paths => do takeInputs (← r.takeInput path) paths

/-- Takes arguments in order. After two dashes alone there are only inputs. -/
def takeAll (g : Grammar) (r : Reading) : List String → Except UsageError Given
  | [] => r.settle
  | arg :: args =>
    if arg = "--" then r.takeInputs args
    else do takeAll g (← r.takeArgument g arg) args

end Reading

def Given.ofArguments (g : Grammar) (args : List String) : Except UsageError Given := do
  let given ← Reading.takeAll g {} args
  if given.switches.contains .verbose && given.switches.contains .quiet then .error .conflict
  else return given

def Given.generateOptions (given : Given) : Except UsageError GenerateOptions :=
  let value (s : Setting) : Option String := given.settings.lookup s
  match value .output, (value .kind).bind ArtifactKind.ofText?, given.inputs with
  | some output, some kind, input :: inputs =>
    .ok {
      inputs := input :: inputs
      output
      kind
      intermediateDir := value .intermediateDir
      stubfileName := value .stubfileName
      pathFromSource := value .pathFromSource
      extraStubHeader := value .extraStubHeader
      moduleName := value .moduleName
      exportMark := value .exportMark
      loggingFunction := value .loggingFunction
      loggingInclude := value .loggingInclude
      libTool := value .libTool
      config := value .config }
  | _, _, _ => .error .missingRequired

def Given.checkInputs (given : Given) : Except UsageError (List String) :=
  if given.inputs.isEmpty then .error .missingRequired else .ok given.inputs

end LinkStubs.CommandLine
