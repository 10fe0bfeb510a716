import LinkStubs.Console
import LinkStubs.Generation.Plan

/-!
Carrying out a plan: directories are made, files are written, and the import tool is called for one
library after the other.
-/

namespace LinkStubs

/-- What a command works on and leaves behind. -/
structure Session where
  tree : FileTree
  log : List LogEvent := []
  /-- Everything printed so far. -/
  output : String := ""
  console : Console := fun _ _ => none
  /-- The calls of tools so far. -/
  invocations : List Invocation := []

/-- A step of a command. What it did before a failure stays done. -/
abbrev Run (α : Type) := ExceptT GenerationError (StateM Session) α

namespace Run

/-- A result that touches nothing but the log. -/
def ofLogged {α : Type} (x : Logged α) : Run α := do
  let s ← get
  let (result, log) := x.run.run s.log
  set { s with log }
  match result with
  | .ok a => return a
  | .error e => throw e

def log (e : LogEvent) : Run Unit :=
  ofLogged (note e)

/-- Prints a text; the result is why it is refused, if it is. -/
def print (text : String) : Run (Option FileError) := do
  let s ← get
  let (refusal, taken) := s.console.pass s.output text
  set { s with output := s.output ++ taken }
  return refusal

def forward (program text : String) : Run Unit := do
  match ← print text with
  | none => return ()
  | some reason => throw (.files (.output program reason))

def makeDirectory (path : String) : Run Unit := do
  let s ← get
  let (failure, tree) := s.tree.makeDirectories path
  set { s with tree }
  match failure with
  | none => return ()
  | some reason => throw (.files (.directory path reason))

def makeDirectories (o : GenerateOptions) : Run Unit := do
  makeDirectory o.output
  makeDirectory o.intermediate

def writeFile (f : PendingFile) : Run String := do
  let s ← get
  match s.tree.writeText f.path f.contents with
  | .error reason => throw (.files (.file f.path reason))
  | .ok tree =>
    set { s with tree }
    log (.wroteFile f.path f.contents.utf8ByteSize)
    return f.path

/-- Writes files in order; the result is their paths. -/
def writeFiles : List PendingFile → Run (List String)
  | [] => return []
  | f :: fs => do
    let path ← writeFile f
    let paths ← writeFiles fs
    return path :: paths

def invoke (tools : Toolbox) (invocation : Invocation) : Run ToolRun := do
  log (.runningTool invocation)
  let s ← get
  let (run, tree) := tools s.invocations invocation s.tree
  set { s with tree, invocations := s.invocations ++ [invocation] }
  return run

def makeLibrary (tools : Toolbox) (program : String) (machine : TargetMachine)
    (job : LibraryJob) : Run (List String) := do
  let definitions ← writeFile job.definitions
  let run ← invoke tools (.makeLibrary program machine definitions job.library)
  match run with
  | .refused reason => throw (.tool (.notStarted program reason))
  | .finished status output =>
    -- What a failed tool has said is passed on as well, so its status comes second.
    forward program (ImportTool.filterOutput (Text.decodeLossy output))
    if status = some 0 then
      log (.wroteLibrary job.library)
      return [definitions, job.library]
    else throw (.tool (.failed job.library definitions status))

/-- Makes libraries in order, up to the first that fails. -/
def makeLibraries (tools : Toolbox) (program : String) (machine : TargetMachine) :
    List LibraryJob → Run (List String)
  | [] => return []
  | job :: jobs => do
    let paths ← makeLibrary tools program machine job
    let others ← makeLibraries tools program machine jobs
    return paths ++ others

/-- Carries out a plan; the result is the paths of everything made. -/
def carryOut (tools : Toolbox) (o : GenerateOptions) (d : Defaults) (plan : Plan) :
    Run (List String) := do
  makeDirectories o
  match plan with
  | .files pending => writeFiles pending
  | .libraries machine jobs => makeLibraries tools (o.libTool.getD d.libTool) machine jobs

/-- Generates everything that options and defaults ask for. -/
def generate (tools : Toolbox) (o : GenerateOptions) (d : Defaults) : Run (List String) := do
  let s ← get
  let plan ← ofLogged (Plan.make s.tree o d)
  carryOut tools o d plan

/-- The defaults of a command: from the file that its options name, else from the file that its
surroundings name, else built in. -/
def loadDefaults (named surrounding : Option String) : Run Defaults := do
  match named <|> surrounding with
  | none => return {}
  | some path =>
    let s ← get
    match Defaults.ofFile s.tree path with
    | .error fault => throw (.defaults fault)
    | .ok defaults =>
      log (.loadedDefaults path)
      return defaults

def generateWith (tools : Toolbox) (surrounding : Option String) (o : GenerateOptions) :
    Run (List String) := do
  let defaults ← loadDefaults o.config surrounding
  generate tools o defaults

def start {α : Type} (x : Run α) (s : Session) : Except GenerationError α × Session :=
  x.run.run s

end Run

end LinkStubs
