import LinkStubs.Emit.StubPair
import LinkStubs.Generation.Input
import LinkStubs.Log

/-!
Plans: everything that a generation is going to write, worked out before anything is written. A
plan is made from the files as they are and changes none of them.
-/

namespace LinkStubs

structure PendingFile where
  path : String
  contents : String
  deriving DecidableEq, Repr

/-- An import library and the definitions that it is made from. -/
structure LibraryJob where
  definitions : PendingFile
  library : String
  deriving DecidableEq, Repr

inductive Plan where
  | files (pending : List PendingFile)
  | libraries (machine : TargetMachine) (jobs : List LibraryJob)
  deriving DecidableEq, Repr

namespace Plan

def readModules (tree : FileTree) (inputs : List String) : Logged (List StubModule) := do
  let (modules, fault) := StubModule.readFiles tree inputs
  noteAll ((inputs.zip modules).map (fun (path, m) => .parsed path m.name m.signatures.length))
  match fault with
  | some e => throw (.source e)
  | none => return modules

/-- The settings of a generation: options count before defaults, even if they are empty. -/
def settings (o : GenerateOptions) (d : Defaults) : Settings where
  exportMark := o.exportMark.getD d.exportMark
  loggingFunction := o.loggingFunction.getD d.loggingFunction
  loggingInclude := o.loggingInclude.getD d.loggingInclude

/-- Settings together with the extra header, if there is to be one. -/
def fullSettings (tree : FileTree) (o : GenerateOptions) (d : Defaults) :
    Except FileFault Settings :=
  match o.extraStubHeader with
  | none => .ok (settings o d)
  | some path =>
    match tree.readText path with
    | .ok text => .ok ((settings o d).withExtraHeader text)
    | .error reason => .error (.extraHeader path reason)

def unitOf (o : GenerateOptions) (modules : List StubModule) : StubUnit :=
  .ofModules modules (o.pathFromSource.getD "") (o.stubfileName.getD "")

/-- What the generation of a pair reports. -/
def pairEvents (u : StubUnit) : List LogEvent :=
  (Collision.ofModules u.modules).map .collision
    ++ u.modules.map (fun m => .emitting m.name m.signatures.length)
    ++ [.generatedPair u.nameSpace u.modules.length u.signatures.length]

/-- The implementation and the header of a pair of stubs. -/
def posixFiles (o : GenerateOptions) (pair : StubPair) : List PendingFile :=
  let name := o.stubfileName.getD ""
  [ ⟨Path.join o.intermediate (name ++ ".cc"), pair.implementation⟩,
    ⟨Path.join o.output (name ++ ".h"), pair.header⟩ ]

def posix (tree : FileTree) (o : GenerateOptions) (d : Defaults) (modules : List StubModule) :
    Logged Plan := do
  let unit := unitOf o modules
  match fullSettings tree o d with
  | .error fault => throw (.files fault)
  | .ok settings =>
    match StubPair.generate settings unit with
    | .error e => throw (.emit e)
    | .ok pair =>
      noteAll (pairEvents unit)
      return .files (posixFiles o pair)

/-- The definitions of all modules together, under the name that the options give. -/
def windowsDef (o : GenerateOptions) (modules : List StubModule) : Logged Plan := do
  let name := o.moduleName.getD ""
  match Path.fileStem? name.toList with
  -- The inputs have been read by now; options alone are judged before that.
  | none => throw (.options (.noFileName name))
  | some stem =>
    let list := ExportList.ofSignatures name (modules.flatMap (·.signatures))
    note (.generatedExports name list.exportCount)
    return .files [⟨Path.join o.output (String.ofList stem ++ ".def"), list.text⟩]

def libraryJob (o : GenerateOptions) (m : StubModule) : LibraryJob where
  definitions :=
    ⟨Path.join o.intermediate (m.name ++ ".def"), (ExportList.ofModule m).text⟩
  library := Path.join o.output (m.name ++ ".lib")

/-- The definitions and the library of every module. -/
def windowsLibraries (machine : TargetMachine) (o : GenerateOptions)
    (modules : List StubModule) : Logged Plan := do
  noteAll (modules.map (fun m => .generatedExports m.name m.signatures.length))
  return .libraries machine (modules.map (libraryJob o))

/-- The plan for options and defaults. -/
def make (tree : FileTree) (o : GenerateOptions) (d : Defaults) : Logged Plan := do
  match o.fault? with
  | some fault => throw (.options fault)
  | none =>
    note (.starting o.kind o.inputs.length o.output)
    let modules ← readModules tree o.inputs
    match o.kind with
    | .posixStubs => posix tree o d modules
    | .windowsDef => windowsDef o modules
    | .windowsLib => windowsLibraries .x86 o modules
    | .windowsLibX64 => windowsLibraries .x64 o modules

end Plan

end LinkStubs
