import LinkStubs.CommandLine.Outcome
import LinkStubs.CommandLine.Script.Run

/-!
The program as it stands on a system, with tools that are installed there or are scripts.
-/

namespace LinkStubs.Toolbox

/-- The tools of a system with a few installed programs, and with scripts among its files, which are
told the values of `environment`. A name without a slash is looked up among the installed
programs. -/
def system (environment : List (String × String)) : Toolbox := fun _ invocation tree =>
  let program := invocation.program
  if (program :: invocation.arguments).any (fun s => s.toList.contains '\x00') then
    (.refused .nulInArgument, tree)
  else if FileTree.maxName < program.utf8ByteSize && !program.toList.contains '/' then
    (.refused .nameTooLong, tree)
  else
    match Script.runProgram tree environment program invocation.arguments with
    | (.refused reason, tree) => (.refused reason, tree)
    | (.finished status output, tree) => (.finished (status.map Int.ofNat) output, tree)

end LinkStubs.Toolbox
