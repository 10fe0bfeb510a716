import LinkStubs.Proofs.Reports

/-!
The names that a module declares more than once, and the reports on them. A name is found where it
stands for the second time, which is one place however often it stands, so that it is reported once.
-/

namespace LinkStubs

/-- A name that stands at a place for the second time. -/
def SecondAt (names : List String) (place : Nat) (name : String) : Prop :=
  names[place]? = some name ∧ (names.take place).count name = 1

/-- The names that stand more than once among some, each of them once. -/
structure Repeats (names repeated : List String) : Prop where
  once : repeated.Nodup
  mem_iff : ∀ name, name ∈ repeated ↔ 2 ≤ names.count name
  ordered : ∃ places : List Nat, places.Pairwise (· < ·) ∧
    List.Forall₂ (SecondAt names) places repeated
  nil_iff : repeated = [] ↔ names.Nodup

variable {seen xs : List String} {name : String}

/-- Behind names that hold it once at most, a name stands for the second time if they and the rest
hold it twice. -/
theorem mem_secondOccurrences :
    name ∈ secondOccurrences seen xs ↔ seen.count name ≤ 1 ∧ 2 ≤ seen.count name + xs.count name := by
  -- Both sides of the counts change together where `name` itself is passed.
  induction xs generalizing seen with
  | nil =>
    simp only [secondOccurrences, List.not_mem_nil, List.count_nil, false_iff]
    omega
  | cons x xs ih =>
    by_cases hx : x = name
    · subst hx
      rw [secondOccurrences, List.count_cons_self]
      split
      · rename_i hone
        simp only [List.mem_cons, true_or, true_iff]
        omega
      · rw [ih, List.count_cons_self]
        omega
    · have hname : name ≠ x := Ne.symm hx
      rw [secondOccurrences, List.count_cons_of_ne hx]
      split
      · rw [List.mem_cons, ih, List.count_cons_of_ne hx, or_iff_right hname]
      · rw [ih, List.count_cons_of_ne hx]

theorem secondOccurrences_nodup (seen xs : List String) : (secondOccurrences seen xs).Nodup := by
  induction xs generalizing seen with
  | nil => exact List.nodup_nil
  | cons x xs ih =>
    rw [secondOccurrences]
    split
    · rename_i hone
      refine List.nodup_cons.mpr ⟨fun hm => ?_, ih (x :: seen)⟩
      have hcount := (mem_secondOccurrences.mp hm).1
      rw [List.count_cons_self] at hcount
      omega
    · exact ih (x :: seen)

/-- The names that are found behind some stand at places behind those, one after the other. -/
theorem secondOccurrences_ordered (earlier rest : List String) :
    ∃ places : List Nat, places.Pairwise (· < ·) ∧ (∀ place ∈ places, earlier.length ≤ place) ∧
      List.Forall₂ (SecondAt (earlier ++ rest)) places
        (secondOccurrences earlier.reverse rest) := by
  induction rest generalizing earlier with
  | nil => exact ⟨[], .nil, by simp, .nil⟩
  | cons x rest ih =>
    -- The names before are given backwards, so the next one goes to the other end of `earlier`.
    obtain ⟨places, hsorted, hbehind, hsecond⟩ := ih (earlier ++ [x])
    rw [List.append_assoc, List.singleton_append, List.reverse_append, List.reverse_singleton,
      List.singleton_append] at hsecond
    rw [List.length_append, List.length_singleton] at hbehind
    rw [secondOccurrences]
    split
    · rename_i hone
      rw [List.count_reverse] at hone
      have hfound : SecondAt (earlier ++ x :: rest) earlier.length x :=
        ⟨by simp, by rw [List.take_left, hone]⟩
      refine ⟨earlier.length :: places, List.pairwise_cons.mpr ⟨hbehind, hsorted⟩, ?_,
        .cons hfound hsecond⟩
      simp only [List.forall_mem_cons]
      exact ⟨Nat.le_refl _, fun place hplace => Nat.le_of_succ_le (hbehind place hplace)⟩
    · exact ⟨places, hsorted, fun place hplace => Nat.le_of_succ_le (hbehind place hplace), hsecond⟩

example : secondOccurrences [] ["b2", "a1", "a1", "b2", "a1"] = ["a1", "b2"] := by decide

theorem StubModule.duplicateNames_repeats (m : StubModule) :
    Repeats (m.signatures.map (·.name)) m.duplicateNames where
  once := secondOccurrences_nodup [] _
  mem_iff name := by
    rw [StubModule.duplicateNames, mem_secondOccurrences, List.count_nil]
    omega
  ordered := by
    obtain ⟨places, hsorted, -, hsecond⟩ :=
      secondOccurrences_ordered [] (m.signatures.map (·.name))
    exact ⟨places, hsorted, hsecond⟩
  nil_iff := m.duplicateNames_eq_nil_iff

namespace Collision

/-- What is reported on the module at a place: its identifier, if an earlier module has it too, and
then the names that it declares more than once. -/
def reportsAt (ms : List StubModule) (place : StubModule × Nat) : List Collision :=
  ((sharersBefore ms place).getLast?.map (sharedWith place)).toList
    ++ place.1.duplicateNames.map (.repeatedSignature place.1.name)

theorem ofModules_places (ms : List StubModule) :
    ofModules ms = ms.zipIdx.flatMap (reportsAt ms) := by
  have hplaces := flatMap_places
    (fun earlier => ofModulesAfter (earlier.reverse.map (·.name)))
    (fun earlier m => (shared (earlier.reverse.map (·.name)) m.name).toList
      ++ m.duplicateNames.map (.repeatedSignature m.name)) (fun _ => rfl)
    (fun earlier m rest => by
      rw [ofModulesAfter, List.reverse_append, List.reverse_singleton, List.singleton_append,
        List.map_cons]) ms
  rw [ofModules, ← List.map_nil, ← List.reverse_nil, hplaces]
  refine congrArg (ms.zipIdx.flatMap ·) (funext fun place => ?_)
  rw [shared_latest, reportsAt]

/-- How a generation reports the names that the modules of its unit declare more than once. -/
structure ReportsRepeats (u : StubUnit) : Prop where
  repeats : ∀ m ∈ u.modules, Repeats (m.signatures.map (·.name)) m.duplicateNames
  /-- Module by module, one report for each such name, in their order. -/
  reported : ofModules u.modules = u.modules.zipIdx.flatMap (reportsAt u.modules)
  logged : (Plan.pairEvents u).filterMap LogEvent.collision? = ofModules u.modules

theorem reports_repeats (u : StubUnit) : ReportsRepeats u where
  repeats m _ := m.duplicateNames_repeats
  reported := ofModules_places u.modules
  logged := collisions_pairEvents u

end Collision

end LinkStubs
