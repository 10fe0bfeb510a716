import LinkStubs.Defaults
import LinkStubs.Options
import LinkStubs.SourceError

/-!
Why a command fails, how that is said, and the status that the process leaves with.
-/

namespace LinkStubs

/-- What a generation needs of the system and cannot have: a file, a directory, or standard output
for what a tool has printed. -/
inductive FileFault where
  | extraHeader (path : String) (reason : FileError)
  | directory (path : String) (reason : FileError)
  | file (path : String) (reason : FileError)
  | output (program : String) (reason : FileError)
  deriving DecidableEq, Repr

def FileFault.message : FileFault → String
  | .extraHeader path reason =>
    "Cannot read extra stub header " ++ path ++ ": " ++ reason.message
  | .directory path reason => "Cannot create directory " ++ path ++ ": " ++ reason.message
  | .file path reason => "Cannot write " ++ path ++ ": " ++ reason.message
  | .output program reason => "Cannot forward " ++ program ++ " output: " ++ reason.message

inductive ToolFault where
  | notStarted (program : String) (reason : FileError)
  | failed (library definitions : String) (status : Option Int)
  deriving DecidableEq, Repr

namespace ToolFault

/-- The tool's own status; one where it has none. -/
def code : ToolFault → Int
  | .notStarted .. => 1
  | .failed _ _ status => status.getD 1

def text : ToolFault → String
  | .notStarted program reason => "Failed to run " ++ program ++ ": " ++ reason.message
  | .failed library definitions _ => "Failed creating " ++ library ++ " for " ++ definitions

def message (f : ToolFault) : String :=
  f.text ++ " (exit code " ++ toString f.code ++ ")"

end ToolFault

inductive GenerationError where
  | source (e : SourceError)
  | emit (e : EmitError)
  | files (fault : FileFault)
  | options (fault : OptionFault)
  | defaults (fault : DefaultsFault)
  | tool (fault : ToolFault)
  deriving DecidableEq, Repr

namespace GenerationError

def message : GenerationError → String
  | .source e => e.message
  | .emit e => "Code generation failed: " ++ e.message
  | .files fault => "File system error: " ++ fault.message
  | .options fault => "Invalid options: " ++ fault.message
  | .defaults fault => "Configuration error: " ++ fault.message
  | .tool fault => fault.message

/-- The code of an error: the tool's where a tool failed, and one otherwise. -/
def code : GenerationError → Int
  | .tool fault => fault.code
  | _ => 1

/-- A code as the status of a process, which has eight bits; one where it does not fit. -/
def statusOf (code : Int) : Nat :=
  if 0 ≤ code && code ≤ 255 then code.toNat else 1

def status (e : GenerationError) : Nat :=
  statusOf e.code

end GenerationError

end LinkStubs
