import LinkStubs.Path

/-!
The options of a generation, and the combinations that are accepted.
-/

namespace LinkStubs

/-- What is generated. -/
inductive ArtifactKind where
  | posixStubs
  | windowsLib
  | windowsLibX64
  | windowsDef
  deriving DecidableEq, Repr

namespace ArtifactKind

def text : ArtifactKind → String
  | .posixStubs => "posix_stubs"
  | .windowsLib => "windows_lib"
  | .windowsLibX64 => "windows_lib_x64"
  | .windowsDef => "windows_def"

def all : List ArtifactKind := [.posixStubs, .windowsLib, .windowsLibX64, .windowsDef]

def ofText? (text : String) : Option ArtifactKind :=
  all.find? (fun kind => kind.text = text)

end ArtifactKind

structure GenerateOptions where
  inputs : List String
  /-- The directory of headers and libraries. -/
  output : String
  kind : ArtifactKind
  /-- The directory of all other files; the output directory if there is none. -/
  intermediateDir : Option String := none
  stubfileName : Option String := none
  pathFromSource : Option String := none
  extraStubHeader : Option String := none
  moduleName : Option String := none
  exportMark : Option String := none
  loggingFunction : Option String := none
  loggingInclude : Option String := none
  libTool : Option String := none
  config : Option String := none
  deriving DecidableEq, Repr

/-- What is wrong with a combination of options. -/
inductive OptionFault where
  | noStubfileName
  | noPathFromSource
  | noModuleName
  | noFileName (moduleName : String)
  deriving DecidableEq, Repr

def OptionFault.message : OptionFault → String
  | .noStubfileName => "posix_stubs requires --stubfile-name"
  | .noPathFromSource => "posix_stubs requires --path-from-source"
  | .noModuleName => "windows_def requires --module-name"
  | .noFileName moduleName => "Cannot derive a file name from module name " ++ moduleName

namespace GenerateOptions

def intermediate (o : GenerateOptions) : String :=
  o.intermediateDir.getD o.output

/-- The first option that the kind of artifact needs and that is not there. -/
def fault? (o : GenerateOptions) : Option OptionFault :=
  match o.kind with
  | .posixStubs =>
    if o.stubfileName.all String.isEmpty then some .noStubfileName
    else if o.pathFromSource.isNone then some .noPathFromSource
    else none
  | .windowsDef => if o.moduleName.all String.isEmpty then some .noModuleName else none
  | .windowsLib | .windowsLibX64 => none

end GenerateOptions

end LinkStubs
