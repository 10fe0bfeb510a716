import LinkStubs.StubUnit

/-!
Names that meet: modules that give rise to the same identifier, and functions declared twice in a
module. Both are reported and neither is refused.
-/

namespace LinkStubs

inductive Collision where
  /-- Two modules with one identifier. -/
  | sharedIdentifier (first second identifier : String)
  /-- A name with two signatures in one module. -/
  | repeatedSignature (module signature : String)
  deriving DecidableEq, Repr

namespace Collision

/-- The report on a module that shares its identifier with one of `candidates`; the first such
candidate is named. -/
def shared (candidates : List String) (module : String) : Option Collision :=
  let identifier := Identifier.enumerator module
  (candidates.find? (fun other => Identifier.enumerator other = identifier)).map
    (fun other => .sharedIdentifier other module identifier)

/-- The collisions of modules that come after `earlier`, the latest of which stands first. -/
def ofModulesAfter (earlier : List String) : List StubModule → List Collision
  | [] => []
  | m :: ms =>
    (shared earlier m.name).toList
      ++ m.duplicateNames.map (.repeatedSignature m.name)
      ++ ofModulesAfter (m.name :: earlier) ms

/-- The collisions of the modules of a unit; a module is reported with the latest one before it
that has its identifier. -/
def ofModules (modules : List StubModule) : List Collision :=
  ofModulesAfter [] modules

/-- The shared identifiers of modules that come after `earlier`, the earliest of which stands
first. -/
def ofFilesAfter (earlier : List String) : List StubModule → List Collision
  | [] => []
  | m :: ms => (shared earlier m.name).toList ++ ofFilesAfter (earlier ++ [m.name]) ms

/-- The shared identifiers of modules that are only looked at; a module is reported with the
earliest one before it that has its identifier. -/
def ofFiles (modules : List StubModule) : List Collision :=
  ofFilesAfter [] modules

end Collision

end LinkStubs
