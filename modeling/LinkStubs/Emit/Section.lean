import LinkStubs.Emit.ExportList
import LinkStubs.Emit.Frame
import LinkStubs.Emit.ModuleParts
import LinkStubs.Emit.Umbrella

/-!
Sections: everything that a generated file is put together from. A section is a list of lines.
-/

namespace LinkStubs

inductive Section where
  | headerPreamble (guard nameSpace loggingInclude : String)
  | headerCloser (guard nameSpace : String)
  | implementationPreamble (headerPath : String) (extra : Option String)
  | externCOpen
  | externCClose
  | nameSpaceOpen (name : String)
  | nameSpaceClose (name : String)
  | pointerDeclaration (s : Signature)
  | stub (s : Signature)
  | moduleStubs (m : StubModule) (mark : String)
  | readyCheck (m : StubModule)
  | loader (m : StubModule) (log : String)
  | unloader (m : StubModule)
  | prototypes (m : StubModule)
  | umbrellaEnum (ms : List StubModule)
  | umbrellaPrototype
  | umbrella (ms : List StubModule) (log : String)
  | exportList (e : ExportList)

namespace Section

def lines : Section → List String
  | .headerPreamble guard nameSpace loggingInclude =>
    Emit.headerPreamble guard nameSpace loggingInclude
  | .headerCloser guard nameSpace => Emit.headerCloser guard nameSpace
  | .implementationPreamble headerPath extra => Emit.implementationPreamble headerPath extra
  | .externCOpen => Emit.externCOpen
  | .externCClose => Emit.externCClose
  | .nameSpaceOpen name => Emit.nameSpaceOpen name
  | .nameSpaceClose name => Emit.nameSpaceClose name
  | .pointerDeclaration s => [Emit.pointerDeclaration s]
  | .stub s => Emit.stub s
  | .moduleStubs m mark => Emit.moduleStubs m mark
  | .readyCheck m => Emit.readyCheck m
  | .loader m log => Emit.loader m log
  | .unloader m => Emit.unloader m
  | .prototypes m => Emit.prototypes m
  | .umbrellaEnum ms => Emit.umbrellaEnum ms
  | .umbrellaPrototype => Emit.umbrellaPrototype
  | .umbrella ms log => Emit.umbrella ms log
  | .exportList e => e.lines

/-- Writes a section behind what a writer holds. -/
def render (s : Section) (w : Writer) : Writer :=
  w.lines s.lines

def text (s : Section) : String :=
  Text.unlines s.lines

def renderAll (sections : List Section) (w : Writer) : Writer :=
  sections.foldl (fun w s => s.render w) w

end Section

end LinkStubs
