import LinkStubs.Emit.Section
import LinkStubs.Emit.Settings

/-!
The pair of files for a unit: a header that declares the functions that manage its modules, and an
implementation with the stubs and those functions.
-/

namespace LinkStubs

namespace StubUnit

def headerSections (u : StubUnit) (settings : Settings) : List Section :=
  [.headerPreamble u.guard u.nameSpace settings.loggingInclude]
    ++ u.modules.map .prototypes
    ++ [.umbrellaEnum u.modules, .umbrellaPrototype, .headerCloser u.guard u.nameSpace]

/-- The three functions that manage a module. -/
def lifecycle (settings : Settings) (m : StubModule) : List Section :=
  [.readyCheck m, .loader m settings.loggingFunction, .unloader m]

def implementationSections (u : StubUnit) (settings : Settings) : List Section :=
  [.implementationPreamble u.includePath settings.extraHeader, .externCOpen]
    ++ u.modules.map (fun m => .moduleStubs m settings.exportMark)
    ++ [.externCClose, .nameSpaceOpen u.nameSpace]
    ++ u.modules.flatMap (lifecycle settings)
    ++ [.umbrella u.modules settings.loggingFunction, .nameSpaceClose u.nameSpace]

end StubUnit

/-- What a generated pair amounts to. -/
structure Statistics where
  modules : Nat
  signatures : Nat
  headerLines : Nat
  implementationLines : Nat
  deriving DecidableEq, Repr

structure StubPair where
  header : String
  implementation : String
  statistics : Statistics
  deriving DecidableEq, Repr

namespace StubPair

def render (sections : List Section) : Writer :=
  Section.renderAll sections {}

def ofUnit (u : StubUnit) (settings : Settings) : StubPair :=
  let header := render (u.headerSections settings)
  let implementation := render (u.implementationSections settings)
  { header := header.text
    implementation := implementation.text
    statistics :=
      { modules := u.modules.length
        signatures := u.signatures.length
        headerLines := header.lineCount
        implementationLines := implementation.lineCount } }

/-- The pair for a unit. Settings are judged first, then the unit must have a module. -/
def generate (settings : Settings) (u : StubUnit) : Except EmitError StubPair :=
  match settings.fault? with
  | some fault => .error fault
  | none => if u.modules.isEmpty then .error .noModules else .ok (ofUnit u settings)

theorem generate_of_accepted {settings : Settings} {u : StubUnit} (h : settings.fault? = none)
    (hms : u.modules ≠ []) : generate settings u = .ok (ofUnit u settings) := by
  rw [generate, h]
  exact if_neg (by simpa using hms)

theorem generate_eq_ok {settings : Settings} {u : StubUnit} {pair : StubPair}
    (h : generate settings u = .ok pair) :
    settings.fault? = none ∧ u.modules ≠ [] ∧ pair = ofUnit u settings := by
  rw [generate] at h
  split at h
  · cases h
  · rename_i haccepted
    split at h
    · cases h
    · rename_i hms
      cases h
      exact ⟨haccepted, by simpa using hms, rfl⟩

end StubPair

end LinkStubs
