import LinkStubs.Proofs.Checking
import LinkStubs.Proofs.Collisions
import Mathlib.Data.List.Forall2
import Mathlib.Data.Finset.Card

/-!
The two reports on shared identifiers. A generation remembers the latest module of every identifier
and a check searches its summaries from the first one on, so both report the same modules and
differ only in the earlier module that they name.
-/

namespace LinkStubs.Collision

def sharersBefore (ms : List StubModule) (place : StubModule × Nat) : List StubModule :=
  (ms.take place.2).filter (fun n => n.identifiers.enumerator = place.1.identifiers.enumerator)

/-- The report that the module at a place shares its identifier with another. -/
def sharedWith (place : StubModule × Nat) (n : StubModule) : Collision :=
  .sharedIdentifier n.name place.1.name place.1.identifiers.enumerator

def identifierReports (log : List LogEvent) : List Collision :=
  (log.filterMap LogEvent.collision?).filter isShared

theorem shared_ofFront (candidates : List StubModule) (place : StubModule × Nat) :
    shared (candidates.map (·.name)) place.1.name =
      (candidates.filter (fun n =>
        n.identifiers.enumerator = place.1.identifiers.enumerator)).head?.map
          (sharedWith place) := by
  rw [shared, List.find?_map, Option.map_map, List.head?_filter]
  rfl

theorem shared_latest (ms : List StubModule) (place : StubModule × Nat) :
    shared ((ms.take place.2).reverse.map (·.name)) place.1.name =
      (sharersBefore ms place).getLast?.map (sharedWith place) := by
  rw [shared_ofFront, List.filter_reverse, List.head?_reverse, sharersBefore]

theorem sharedReports_eq_latest (ms : List StubModule) :
    sharedReports ms = ms.zipIdx.filterMap
      (fun place => (sharersBefore ms place).getLast?.map (sharedWith place)) := by
  rw [sharedReports_places]
  exact congrArg (ms.zipIdx.filterMap ·) (funext fun place => shared_latest ms place)

theorem ofFiles_eq_earliest (ms : List StubModule) :
    ofFiles ms = ms.zipIdx.filterMap
      (fun place => (sharersBefore ms place).head?.map (sharedWith place)) := by
  rw [ofFiles_places]
  exact congrArg (ms.zipIdx.filterMap ·) (funext fun place => shared_ofFront _ place)

/-- Two reports on one module, which name the same other one if the identifier is that of two
modules at most. -/
inductive Paired (ms : List StubModule) : Collision → Collision → Prop
  | mk {latest earliest second identifier : String}
      (same : ms.countP (·.identifiers.enumerator = identifier) ≤ 2 → latest = earliest) :
      Paired ms (.sharedIdentifier latest second identifier)
        (.sharedIdentifier earliest second identifier)

/-- The module at a place has its identifier besides those before it. -/
theorem length_sharersBefore {ms : List StubModule} {place : StubModule × Nat}
    (h : place ∈ ms.zipIdx) :
    (sharersBefore ms place).length <
      ms.countP (·.identifiers.enumerator = place.1.identifiers.enumerator) := by
  obtain ⟨hlt, hplace⟩ := List.getElem?_eq_some_iff.mp (List.mem_zipIdx_iff_getElem?.mp h)
  have hsplit : ms = ms.take place.2 ++ place.1 :: ms.drop (place.2 + 1) := by
    rw [← hplace, ← List.drop_eq_getElem_cons hlt, List.take_append_drop]
  conv_rhs => rw [hsplit]
  rw [List.countP_append, List.countP_cons_of_pos (by simp), List.countP_eq_length_filter,
    sharersBefore]
  omega

theorem paired_of_place {ms : List StubModule} {place : StubModule × Nat}
    (h : place ∈ ms.zipIdx) :
    Option.Rel (Paired ms) ((sharersBefore ms place).getLast?.map (sharedWith place))
      ((sharersBefore ms place).head?.map (sharedWith place)) := by
  have hlt := length_sharersBefore h
  cases hs : sharersBefore ms place with
  | nil => exact .none
  | cons first others =>
    rw [hs, List.length_cons] at hlt
    rw [List.getLast?_cons, List.head?_cons]
    refine .some (.mk fun hle => ?_)
    obtain rfl : others = [] := List.length_eq_zero_iff.mp (by omega)
    rfl

/-- Of modules behind others, those are reported that come with no identifier of their own. -/
theorem length_sharedAfter (earlier : List String) (ms : List StubModule) :
    (sharedAfter earlier ms).length +
        ((earlier ++ ms.map (·.name)).map Identifier.enumerator).toFinset.card =
      ms.length + (earlier.map Identifier.enumerator).toFinset.card := by
  induction ms generalizing earlier with
  | nil => simp [sharedAfter, ofModulesAfter]
  | cons m ms ih =>
    -- One more module is one more report or one more identifier, never both.
    have hstep : (shared earlier m.name).toList.length +
        ((m.name :: earlier).map Identifier.enumerator).toFinset.card =
          1 + (earlier.map Identifier.enumerator).toFinset.card := by
      rw [List.map_cons, List.toFinset_cons]
      cases hs : shared earlier m.name with
      | none =>
        have hnew : Identifier.enumerator m.name ∉
            (earlier.map Identifier.enumerator).toFinset := by
          simpa using shared_eq_none_iff.mp hs
        rw [Finset.card_insert_of_notMem hnew, Option.toList_none, List.length_nil]
        omega
      | some c =>
        have hold : Identifier.enumerator m.name ∈
            (earlier.map Identifier.enumerator).toFinset := by
          by_contra hnew
          have hnone : shared earlier m.name = none :=
            shared_eq_none_iff.mpr (by simpa using hnew)
          rw [hs] at hnone
          cases hnone
        rw [Finset.insert_eq_of_mem hold]
        rfl
    have hset : ((earlier ++ (m :: ms).map (·.name)).map Identifier.enumerator).toFinset =
        ((m.name :: earlier ++ ms.map (·.name)).map Identifier.enumerator).toFinset :=
      List.toFinset_eq_of_perm _ _ (List.Perm.map _ List.perm_middle)
    have hrest := ih (m.name :: earlier)
    rw [sharedAfter_cons, List.length_append, List.length_cons, hset]
    omega

/-- How the reports on identifiers that a generation makes on modules go together with those that
a check makes on them. -/
structure Agree (ms : List StubModule) (generated checked : List Collision) : Prop where
  /-- One report for each module behind one that shares its identifier, in order. -/
  latest : generated = ms.zipIdx.filterMap
    (fun place => (sharersBefore ms place).getLast?.map (sharedWith place))
  earliest : checked = ms.zipIdx.filterMap
    (fun place => (sharersBefore ms place).head?.map (sharedWith place))
  paired : List.Forall₂ (Paired ms) generated checked
  counted : generated.length + (ms.map (·.identifiers.enumerator)).toFinset.card = ms.length

theorem agree (ms : List StubModule) : Agree ms (sharedReports ms) (ofFiles ms) where
  latest := sharedReports_eq_latest ms
  earliest := ofFiles_eq_earliest ms
  paired := by
    rw [sharedReports_eq_latest, ofFiles_eq_earliest]
    refine List.rel_filterMap (R := fun place other => place = other ∧ place ∈ ms.zipIdx) ?_
      (List.forall₂_same.mpr fun place hplace => ⟨rfl, hplace⟩)
    rintro place _ ⟨rfl, hplace⟩
    exact paired_of_place hplace
  counted := by
    have hcount := length_sharedAfter [] ms
    rw [List.nil_append, List.map_map, List.map_nil, List.toFinset_nil, Finset.card_empty] at hcount
    exact hcount

theorem collisions_noted (found : List Collision) :
    (found.map LogEvent.collision).filterMap LogEvent.collision? = found := by
  rw [List.filterMap_map]
  exact List.filterMap_some

theorem identifierReports_collisions (found : List Collision) :
    identifierReports (found.map .collision) = found.filter isShared := by
  rw [identifierReports, collisions_noted]

/-- A generation logs no other collisions than those of its unit. -/
theorem collisions_pairEvents (u : StubUnit) :
    (Plan.pairEvents u).filterMap LogEvent.collision? = ofModules u.modules := by
  have hothers :
      (u.modules.map (fun m => LogEvent.emitting m.name m.signatures.length)).filterMap
        LogEvent.collision? = [] := by
    simp [List.filterMap_eq_nil_iff, LogEvent.collision?]
  rw [Plan.pairEvents, List.filterMap_append, List.filterMap_append, hothers, List.append_nil,
    collisions_noted]
  exact List.append_nil _

theorem identifierReports_pairEvents (u : StubUnit) :
    identifierReports (Plan.pairEvents u) = sharedReports u.modules := by
  rw [identifierReports, collisions_pairEvents]
  rfl

/-- All reports that a check makes are on identifiers. -/
theorem ofFiles_isShared (ms : List StubModule) : ∀ c ∈ ofFiles ms, isShared c = true := by
  intro c hc
  rw [ofFiles_eq_earliest] at hc
  obtain ⟨place, -, hc⟩ := List.mem_filterMap.mp hc
  obtain ⟨n, -, rfl⟩ := Option.map_eq_some_iff.mp hc
  rfl

/-- Generating from inputs that can be read, and checking them, reports the same modules. -/
theorem reports_agree {tree : FileTree} {inputs : List String} {log : List LogEvent}
    {modules : List StubModule}
    (h : ((Plan.readModules tree inputs).run.run log).1 = .ok modules)
    (path stubName : String) :
    Agree modules
      (identifierReports (Plan.pairEvents (.ofModules modules path stubName)))
      (identifierReports ((Check.summaries tree inputs).run.run []).2) := by
  have hread := Plan.readModules_eq_ok_iff.mp h
  have hchecked : identifierReports ((Check.summaries tree inputs).run.run []).2 =
      ofFiles modules := by
    rw [Check.summaries_run, hread, List.nil_append, identifierReports_collisions]
    exact List.filter_eq_self.mpr (ofFiles_isShared modules)
  rw [identifierReports_pairEvents, hchecked]
  exact agree modules

/-- Three files whose modules have one identifier. -/
def threeSharers : FileTree where
  entries :=
    [ (["lib-a.sigs"], .file "int f2(int a)\n".toUTF8 false),
      (["lib+a.sigs"], .file "".toUTF8 false),
      (["lib--a.sigs"], .file "int f2(void)\n".toUTF8 false) ]

/-- The last of three files is reported with the second by a generation and with the first by a
check. -/
theorem reports_agree_of_three :
    ∃ modules, ((Plan.readModules threeSharers
        ["lib-a.sigs", "lib+a.sigs", "lib--a.sigs"]).run.run []).1 = .ok modules ∧
      Agree modules
        [ .sharedIdentifier "lib-a" "lib+a" "kModuleLibA",
          .sharedIdentifier "lib+a" "lib--a" "kModuleLibA" ]
        [ .sharedIdentifier "lib-a" "lib+a" "kModuleLibA",
          .sharedIdentifier "lib-a" "lib--a" "kModuleLibA" ] := by
  have hread : ((Plan.readModules threeSharers
      ["lib-a.sigs", "lib+a.sigs", "lib--a.sigs"]).run.run []).1 =
      .ok [ ⟨"lib-a", [⟨"int", "f2", ["int a"], none⟩]⟩, ⟨"lib+a", []⟩,
        ⟨"lib--a", [⟨"int", "f2", ["void"], none⟩]⟩ ] := by decide +kernel
  have hgenerated : identifierReports (Plan.pairEvents (.ofModules
      [ ⟨"lib-a", [⟨"int", "f2", ["int a"], none⟩]⟩, ⟨"lib+a", []⟩,
        ⟨"lib--a", [⟨"int", "f2", ["void"], none⟩]⟩ ] "media" "stubs")) =
      [ .sharedIdentifier "lib-a" "lib+a" "kModuleLibA",
        .sharedIdentifier "lib+a" "lib--a" "kModuleLibA" ] := by decide +kernel
  have hchecked : identifierReports ((Check.summaries threeSharers
      ["lib-a.sigs", "lib+a.sigs", "lib--a.sigs"]).run.run []).2 =
      [ .sharedIdentifier "lib-a" "lib+a" "kModuleLibA",
        .sharedIdentifier "lib-a" "lib--a" "kModuleLibA" ] := by decide +kernel
  rw [← hgenerated, ← hchecked]
  exact ⟨_, hread, reports_agree hread "media" "stubs"⟩

end LinkStubs.Collision
