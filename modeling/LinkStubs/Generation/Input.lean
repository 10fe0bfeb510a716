import LinkStubs.FileTree
import LinkStubs.Signature.Reading
import LinkStubs.StubUnit

/-!
Signature files as modules: one file is one module, named after the file.
-/

namespace LinkStubs

/-- The signatures in the file at a path; a fault says which file it is in. -/
def Signature.readFile (tree : FileTree) (path : String) : Except SourceError (List Signature) :=
  match tree.readText path with
  | .error reason =>
    .error ((SourceError.io ("cannot read signature file: " ++ reason.message)).inContext path)
  | .ok text =>
    match readSource text with
    | .error e => .error (e.inContext path)
    | .ok signatures => .ok signatures

namespace StubModule

def readFile (tree : FileTree) (path : String) : Except SourceError StubModule :=
  match Signature.readFile tree path with
  | .error e => .error e
  | .ok signatures => .ok ⟨Path.moduleName path, signatures⟩

/-- The modules of files, up to the first file that has a fault, and that fault. -/
def readFiles (tree : FileTree) : List String → List StubModule × Option SourceError
  | [] => ([], none)
  | path :: paths =>
    match readFile tree path with
    | .error e => ([], some e)
    | .ok m =>
      let (ms, fault) := readFiles tree paths
      (m :: ms, fault)

end StubModule

end LinkStubs
