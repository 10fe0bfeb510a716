import LinkStubs.FileTree
import LinkStubs.Text.Lines

/-!
The tool that makes import libraries: how it is called, what a call can come to, and what of its
output is passed on.
-/

namespace LinkStubs

/-- The machine that a library is made for. -/
inductive TargetMachine where
  | x86
  | x64
  deriving DecidableEq, Repr

def TargetMachine.text : TargetMachine → String
  | .x86 => "X86"
  | .x64 => "X64"

structure Invocation where
  program : String
  arguments : List String
  deriving DecidableEq, Repr

/-- The call that makes the library at `library` from the definitions at `definitions`. -/
def Invocation.makeLibrary (program : String) (machine : TargetMachine)
    (definitions library : String) : Invocation where
  program
  arguments :=
    ["/nologo", "/machine:" ++ machine.text, "/def:" ++ definitions, "/out:" ++ library]

inductive ToolRun where
  | refused (reason : FileError)
  | finished (status : Option Int) (output : ByteArray)
  deriving DecidableEq

/-- What invocations do: given those before it, an invocation and the files, what comes of it and
the files that it leaves. -/
abbrev Toolbox := List Invocation → Invocation → FileTree → ToolRun × FileTree

namespace ImportTool

/-- The start of the line that the tool prints for every library. -/
def progress : String := "   Creating library"

/-- The tool's output without its progress, each line ended by a newline. -/
def filterOutput (output : String) : String :=
  Text.unlines
    (((Text.lines output.toList).filter
      (fun line => !progress.toList.isPrefixOf line)).map String.ofList)

end ImportTool

end LinkStubs
