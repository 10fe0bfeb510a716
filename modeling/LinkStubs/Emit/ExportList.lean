import LinkStubs.StubUnit
import LinkStubs.Text.Lines

/-!
Module definitions: the name of a library and the names that it exports.
-/

namespace LinkStubs

structure ExportList where
  library : String
  exports : List String
  deriving DecidableEq, Repr

namespace ExportList

def ofSignatures (library : String) (signatures : List Signature) : ExportList :=
  ⟨library, signatures.map (·.name)⟩

def ofModule (m : StubModule) : ExportList :=
  ofSignatures m.name m.signatures

def exportCount (e : ExportList) : Nat :=
  e.exports.length

def lines (e : ExportList) : List String :=
  ["LIBRARY " ++ e.library, "EXPORTS"] ++ e.exports.map ("  " ++ ·)

def text (e : ExportList) : String :=
  Text.unlines e.lines

end ExportList

end LinkStubs
