import LinkStubs.Generation.Run

/-!
Checking signature files: reading them all and saying what each holds.
-/

namespace LinkStubs

structure ModuleSummary where
  module : String
  enumerator : String
  signatures : Nat
  deriving DecidableEq, Repr

namespace ModuleSummary

def ofModule (m : StubModule) : ModuleSummary :=
  ⟨m.name, m.identifiers.enumerator, m.signatures.length⟩

def text (s : ModuleSummary) : String :=
  s.module ++ ": " ++ toString s.signatures ++ " signatures (" ++ s.enumerator ++ ")"

/-- The report on a summary whose module has the identifier of an earlier one; the first such one is
named. -/
def shared (earlier : List ModuleSummary) (s : ModuleSummary) : Option Collision :=
  (earlier.find? (fun other => other.enumerator = s.enumerator)).map
    (fun other => .sharedIdentifier other.module s.module s.enumerator)

end ModuleSummary

namespace Check

/-- The summaries in `earlier` and those of the files behind them, one file after the other. -/
def summariesAfter (tree : FileTree) (earlier : List ModuleSummary) :
    List String → Logged (List ModuleSummary)
  | [] => return earlier
  | path :: paths => do
    match Signature.readFile tree path with
    | .error e => throw (.source e)
    | .ok signatures =>
      let summary := ModuleSummary.ofModule ⟨Path.moduleName path, signatures⟩
      noteAll ((summary.shared earlier).toList.map .collision)
      summariesAfter tree (earlier ++ [summary]) paths

/-- The summaries of files, in order; there is none unless all files can be read. -/
def summaries (tree : FileTree) (inputs : List String) : Logged (List ModuleSummary) :=
  summariesAfter tree [] inputs

/-- Prints lines, up to the first that is refused; the result is why it is. -/
def printLines : List String → Run (Option FileError)
  | [] => return none
  | line :: lines => do
    match ← Run.print (line ++ "\n") with
    | none => printLines lines
    | some reason => return some reason

def run (inputs : List String) : Run (Option FileError) := do
  let s ← get
  let found ← Run.ofLogged (summaries s.tree inputs)
  printLines (found.map (·.text))

end Check

end LinkStubs
