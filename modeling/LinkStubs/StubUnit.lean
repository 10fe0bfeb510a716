import LinkStubs.Identifier
import LinkStubs.Signature
import LinkStubs.Text.Case

/-!
Modules, the signatures of one file each, and units, the modules of one run.
-/

namespace LinkStubs

/-- The signatures of one file, loaded together. -/
structure StubModule where
  name : String
  signatures : List Signature
  deriving DecidableEq, Repr, Inhabited

/-- The entries of a list that stand second among their equals, in order. -/
def secondOccurrences (seen : List String) : List String → List String
  | [] => []
  | x :: xs =>
    if seen.count x = 1 then x :: secondOccurrences (x :: seen) xs
    else secondOccurrences (x :: seen) xs

namespace StubModule

def identifiers (m : StubModule) : Identifier.Family :=
  .ofModule m.name

def duplicateNames (m : StubModule) : List String :=
  secondOccurrences [] (m.signatures.map (·.name))

end StubModule

/-- What one header and one implementation are written for. -/
structure StubUnit where
  /-- The modules in the order in which they are numbered and loaded. -/
  modules : List StubModule
  /-- The namespace of the functions that manage modules. -/
  nameSpace : String
  guard : String
  /-- The path by which the implementation includes the header. -/
  includePath : String
  deriving DecidableEq, Repr

namespace StubUnit

def nameSpaceOf (sourcePath : String) : String :=
  Text.lower (String.ofList (sourcePath.toList.map (fun c => if c = '/' then '_' else c)))

def includePathOf (sourcePath stubName : String) : String :=
  if sourcePath.isEmpty then stubName ++ ".h"
  else
    String.ofList (sourcePath.toList.reverse.dropWhile (· == '/')).reverse
      ++ "/" ++ stubName ++ ".h"

/-- The unit of some modules whose stubs are called `stubName` and belong at `sourcePath`. -/
def ofModules (modules : List StubModule) (sourcePath stubName : String) : StubUnit where
  modules
  nameSpace := nameSpaceOf sourcePath
  guard := Text.upper (nameSpaceOf sourcePath) ++ "_"
  includePath := includePathOf sourcePath stubName

def signatures (u : StubUnit) : List Signature :=
  u.modules.flatMap (·.signatures)

end StubUnit

end LinkStubs
