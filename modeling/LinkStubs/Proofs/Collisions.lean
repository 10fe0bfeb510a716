import LinkStubs.Collision
import LinkStubs.Emit.StubPair
import LinkStubs.Proofs.Identifiers
import LinkStubs.Proofs.Source
import Mathlib.Data.List.Flatten
import Mathlib.Data.List.Nodup
import Mathlib.Tactic.Tauto

/-!
What the reports on collisions tell. Identifiers are compared between modules, and by their
enumerators alone, which is enough for all of them. Names are compared within a module only, so a
name that two modules share is a collision nobody reports: only where modules share no names either
is nothing defined twice.
-/

namespace LinkStubs

/-- Behind names that are told apart, a list has no second occurrence where it repeats neither them
nor itself. -/
theorem secondOccurrences_eq_nil_iff {seen xs : List String} (h : seen.Nodup) :
    secondOccurrences seen xs = [] ↔ xs.Nodup ∧ xs.Disjoint seen := by
  induction xs generalizing seen with
  | nil => simp [secondOccurrences]
  | cons x xs ih =>
    by_cases hx : x ∈ seen
    · have hcount : seen.count x = 1 := List.count_eq_one_of_mem h hx
      simp [secondOccurrences, hcount, hx]
    · have hcount : ¬ seen.count x = 1 := by simp [List.count_eq_zero_of_not_mem hx]
      rw [secondOccurrences, if_neg hcount, ih (List.nodup_cons.mpr ⟨hx, h⟩), List.nodup_cons,
        List.disjoint_cons_left, List.disjoint_cons_right]
      tauto

theorem StubModule.duplicateNames_eq_nil_iff (m : StubModule) :
    m.duplicateNames = [] ↔ (m.signatures.map (·.name)).Nodup := by
  rw [StubModule.duplicateNames, secondOccurrences_eq_nil_iff List.nodup_nil]
  simp

/-- The identifiers of modules are told apart where one sort of them is. -/
theorem StubModule.identifiers_nodup_iff {ms : List StubModule} :
    (ms.flatMap (·.identifiers.names)).Nodup ↔ (ms.map (·.identifiers.enumerator)).Nodup := by
  have hone : ∀ m ∈ ms, m.identifiers.names.Nodup :=
    fun m _ => Identifier.Family.names_nodup m.name
  have hdisjoint : ∀ m n : StubModule,
      List.Disjoint m.identifiers.names n.identifiers.names ↔
        m.identifiers.enumerator ≠ n.identifiers.enumerator :=
    fun m n => Identifier.Family.names_disjoint_iff.trans Identifier.enumerator_inj.not.symm
  rw [List.nodup_flatMap, and_iff_right hone, List.Nodup, List.pairwise_map]
  exact List.Pairwise.iff hdisjoint

theorem Identifier.Family.ne_moduleCount {module name : String} (h : name ∈ (ofModule module).names) :
    name ≠ Emit.moduleCount := by
  rintro rfl
  rw [names_ofModule] at h
  obtain ⟨s, hs, he⟩ := List.mem_map.mp h
  have hfront : s.1.toList <+: Emit.moduleCount.toList := by
    rw [← he, String.toList_append, String.toList_append, List.append_assoc]
    exact List.prefix_append _ _
  have hnone : ∀ s ∈ shapes, ¬ s.1.toList <+: Emit.moduleCount.toList := by decide
  exact hnone s hs hfront

namespace Collision

theorem shared_eq_none_iff {candidates : List String} {module : String} :
    shared candidates module = none ↔
      ∀ other ∈ candidates, Identifier.enumerator other ≠ Identifier.enumerator module := by
  simp [shared, List.find?_eq_none]

/-- The module that a report names is the latest one whose name comes to the same. -/
theorem shared_eq_some_iff {earlier : List StubModule} {module : String} {c : Collision} :
    shared (earlier.reverse.map (·.name)) module = some c ↔
      ∃ older n newer, earlier = older ++ n :: newer ∧
        Identifier.camel n.name = Identifier.camel module ∧
        (∀ k ∈ newer, Identifier.camel k.name ≠ Identifier.camel module) ∧
        c = .sharedIdentifier n.name module (Identifier.enumerator module) := by
  simp only [shared, List.find?_map, Option.map_map, Option.map_eq_some_iff,
    List.find?_eq_some_iff_append, Function.comp_apply, decide_eq_true_iff, Bool.not_eq_true',
    decide_eq_false_iff_not, Identifier.enumerator_inj]
  constructor
  · rintro ⟨n, ⟨hn, newer, older, hsplit, hnewer⟩, rfl⟩
    refine ⟨older.reverse, n, newer.reverse, ?_, hn, by simpa using hnewer, rfl⟩
    rw [← List.reverse_reverse earlier, hsplit]
    simp
  · rintro ⟨older, n, newer, rfl, hn, hnewer, rfl⟩
    exact ⟨n, ⟨hn, newer.reverse, older.reverse, by simp, by simpa using hnewer⟩, rfl⟩

def isShared : Collision → Bool
  | .sharedIdentifier .. => true
  | .repeatedSignature .. => false

/-- The reports on identifiers among those on modules that come after `earlier`. -/
def sharedAfter (earlier : List String) (ms : List StubModule) : List Collision :=
  (ofModulesAfter earlier ms).filter isShared

theorem sharedAfter_cons (earlier : List String) (m : StubModule) (ms : List StubModule) :
    sharedAfter earlier (m :: ms) =
      (shared earlier m.name).toList ++ sharedAfter (m.name :: earlier) ms := by
  have hshared : (shared earlier m.name).toList.filter isShared =
      (shared earlier m.name).toList := by
    rw [List.filter_eq_self, shared]
    intro c hc
    obtain ⟨other, -, rfl⟩ := Option.map_eq_some_iff.mp (Option.mem_toList.mp hc)
    rfl
  have hrepeated : (m.duplicateNames.map (repeatedSignature m.name)).filter isShared = [] := by
    simp [List.filter_eq_nil_iff, isShared]
  rw [sharedAfter, ofModulesAfter, List.filter_append, List.filter_append, hshared, hrepeated,
    List.append_nil, sharedAfter]

theorem sharedAfter_eq_nil_iff {earlier : List String} {ms : List StubModule} :
    sharedAfter earlier ms = [] ↔
      (∀ m ∈ ms, ∀ other ∈ earlier, Identifier.enumerator other ≠ m.identifiers.enumerator) ∧
      (ms.map (·.identifiers.enumerator)).Nodup := by
  induction ms generalizing earlier with
  | nil => simp [sharedAfter, ofModulesAfter]
  | cons m ms ih =>
    rw [sharedAfter_cons, List.append_eq_nil_iff, Option.toList_eq_nil_iff, shared_eq_none_iff, ih]
    simp only [List.forall_mem_cons, List.map_cons, List.nodup_cons, List.mem_map, not_exists,
      not_and]
    constructor
    · rintro ⟨hm, hms, hn⟩
      exact ⟨⟨hm, fun n hn => (hms n hn).2⟩, fun n hmem he => (hms n hmem).1 he.symm, hn⟩
    · rintro ⟨⟨hm, hms⟩, hne, hn⟩
      exact ⟨hm, fun n hmem => ⟨fun he => hne n hmem he.symm, hms n hmem⟩, hn⟩

theorem ofModulesAfter_eq_nil_iff {earlier : List String} {ms : List StubModule} :
    ofModulesAfter earlier ms = [] ↔
      sharedAfter earlier ms = [] ∧ ∀ m ∈ ms, m.duplicateNames = [] := by
  induction ms generalizing earlier with
  | nil => simp [sharedAfter, ofModulesAfter]
  | cons m ms ih =>
    rw [ofModulesAfter, sharedAfter_cons, List.append_eq_nil_iff, List.append_eq_nil_iff,
      List.append_eq_nil_iff, List.map_eq_nil_iff, ih, List.forall_mem_cons]
    tauto

def sharedReports (ms : List StubModule) : List Collision :=
  sharedAfter [] ms

theorem sharedReports_eq_nil_iff {ms : List StubModule} :
    sharedReports ms = [] ↔ (ms.map (·.identifiers.enumerator)).Nodup := by
  simp [sharedReports, sharedAfter_eq_nil_iff]

/-- Nothing is reported where no two modules share an identifier and no module repeats a name. -/
theorem ofModules_eq_nil_iff {ms : List StubModule} :
    ofModules ms = [] ↔
      (ms.map (·.identifiers.enumerator)).Nodup ∧
        ∀ m ∈ ms, (m.signatures.map (·.name)).Nodup := by
  rw [ofModules, ofModulesAfter_eq_nil_iff, ← sharedReports, sharedReports_eq_nil_iff]
  simp only [StubModule.duplicateNames_eq_nil_iff]

/-- A report on the module at a place among `ms`: it names the latest module before that place whose
name comes to the same part of identifiers. -/
def Reports (ms : List StubModule) (place : StubModule × Nat) (c : Collision) : Prop :=
  ∃ older n newer, ms.take place.2 = older ++ n :: newer ∧
    Identifier.camel n.name = Identifier.camel place.1.name ∧
    (∀ k ∈ newer, Identifier.camel k.name ≠ Identifier.camel place.1.name) ∧
    c = .sharedIdentifier n.name place.1.name place.1.identifiers.enumerator

/-- The modules behind one whose name comes to the same part of identifiers, with their places. -/
def laterSharers (ms : List StubModule) : List (StubModule × Nat) :=
  ms.zipIdx.filter (fun place =>
    (ms.take place.2).any (fun n => Identifier.camel n.name = Identifier.camel place.1.name))

/-- What is made of members one by one, each with a look back on those before, is found place by
place. -/
theorem flatMap_places {α β : Type} (made : List α → List α → List β) (look : List α → α → List β)
    (hnil : ∀ earlier, made earlier [] = [])
    (hcons : ∀ earlier a rest, made earlier (a :: rest) = look earlier a ++ made (earlier ++ [a]) rest)
    (xs : List α) : made [] xs = xs.zipIdx.flatMap (fun place => look (xs.take place.2) place.1) := by
  -- The induction is on the members still to come; those before them are what is looked back on.
  have hafter : ∀ earlier rest, xs = earlier ++ rest → made earlier rest =
      (rest.zipIdx earlier.length).flatMap (fun place => look (xs.take place.2) place.1) := by
    intro earlier rest
    induction rest generalizing earlier with
    | nil => exact fun _ => hnil earlier
    | cons a rest ih =>
      intro hxs
      have htake : xs.take earlier.length = earlier := by rw [hxs, List.take_left]
      have hrest := ih (earlier ++ [a]) (by rw [hxs, List.append_assoc, List.singleton_append])
      rw [List.length_append, List.length_singleton] at hrest
      rw [hcons, hrest, List.zipIdx_cons, List.flatMap_cons, htake]
  exact hafter [] xs rfl

/-- Where a look back makes one thing at most, what is made is filtered out of the places. -/
theorem filterMap_places {α β : Type} (made : List α → List α → List β)
    (look : List α → α → Option β) (hnil : ∀ earlier, made earlier [] = [])
    (hcons : ∀ earlier a rest, made earlier (a :: rest) =
      (look earlier a).toList ++ made (earlier ++ [a]) rest) (xs : List α) :
    made [] xs = xs.zipIdx.filterMap (fun place => look (xs.take place.2) place.1) := by
  rw [flatMap_places made (fun earlier a => (look earlier a).toList) hnil hcons,
    List.filterMap_eq_flatMap_toList]

/-- A unit's reports look back from the latest module to the earliest. -/
theorem sharedReports_places (ms : List StubModule) :
    sharedReports ms = ms.zipIdx.filterMap
      (fun place => shared ((ms.take place.2).reverse.map (·.name)) place.1.name) := by
  refine filterMap_places (fun earlier => sharedAfter (earlier.reverse.map (·.name)))
    (fun earlier m => shared (earlier.reverse.map (·.name)) m.name) (fun _ => rfl) ?_ ms
  intro earlier m rest
  rw [sharedAfter_cons, List.reverse_append, List.reverse_singleton, List.singleton_append,
    List.map_cons]

/-- The reports on files look back from the earliest module to the latest. -/
theorem ofFiles_places (ms : List StubModule) :
    ofFiles ms = ms.zipIdx.filterMap
      (fun place => shared ((ms.take place.2).map (·.name)) place.1.name) := by
  refine filterMap_places (fun earlier => ofFilesAfter (earlier.map (·.name)))
    (fun earlier m => shared (earlier.map (·.name)) m.name) (fun _ => rfl) ?_ ms
  intro earlier m rest
  rw [ofFilesAfter, List.map_append, List.map_singleton]

/-- What is made of the members that are kept stands in their order. -/
theorem forall₂_filterMap {α β : Type} {R : α → β → Prop} {p : α → Bool} {f : α → Option β}
    (hnone : ∀ a, f a = none → p a = false) (hsome : ∀ a b, f a = some b → p a = true ∧ R a b)
    (xs : List α) : List.Forall₂ R (xs.filter p) (xs.filterMap f) := by
  induction xs with
  | nil => exact .nil
  | cons a xs ih =>
    cases hf : f a with
    | none => rwa [List.filter_cons_of_neg (by simp [hnone a hf]), List.filterMap_cons_none hf]
    | some b =>
      obtain ⟨hp, hR⟩ := hsome a b hf
      rw [List.filter_cons_of_pos hp, List.filterMap_cons_some hf]
      exact .cons hR ih

theorem sharedReports_laterSharers (ms : List StubModule) :
    List.Forall₂ (Reports ms) (laterSharers ms) (sharedReports ms) := by
  rw [sharedReports_places]
  refine forall₂_filterMap ?_ ?_ ms.zipIdx
  · intro place hnone
    rw [List.any_eq_false]
    intro n hn he
    have hname : n.name ∈ (ms.take place.2).reverse.map (·.name) :=
      List.mem_map_of_mem (List.mem_reverse.mpr hn)
    exact shared_eq_none_iff.mp hnone n.name hname
      (Identifier.enumerator_inj.mpr (of_decide_eq_true he))
  · intro place c hsome
    obtain ⟨older, n, newer, hsplit, hn, hc⟩ := shared_eq_some_iff.mp hsome
    exact ⟨List.any_eq_true.mpr ⟨n, by simp [hsplit], decide_eq_true hn⟩,
      older, n, newer, hsplit, hn, hc⟩

/-- What reports on identifiers tell of modules, whatever their names are. -/
structure ReportsIdentifiers (ms : List StubModule) : Prop where
  valid : ∀ name ∈ ms.flatMap (·.identifiers.names),
    Identifier.IsIdentifier name ∧ name ≠ Emit.moduleCount
  unreported : sharedReports ms = [] ↔ (ms.flatMap (·.identifiers.names)).Nodup
  /-- One report for each module behind one that shares its identifier, in order. -/
  reported : List.Forall₂ (Reports ms) (laterSharers ms) (sharedReports ms)

/-- Reports compare enumerators alone, and miss no two identifiers of any sort that are the same. -/
theorem reports_identifiers (ms : List StubModule) : ReportsIdentifiers ms where
  valid := by
    intro name h
    obtain ⟨m, -, hname⟩ := List.mem_flatMap.mp h
    exact ⟨Identifier.Family.isIdentifier_of_mem hname, Identifier.Family.ne_moduleCount hname⟩
  unreported := sharedReports_eq_nil_iff.trans StubModule.identifiers_nodup_iff.symm
  reported := sharedReports_laterSharers ms

end Collision

namespace StubUnit

/-- No two modules have signatures of one name. -/
def SharesNoName (u : StubUnit) : Prop :=
  u.modules.Pairwise (fun m n =>
    List.Disjoint (m.signatures.map (·.name)) (n.signatures.map (·.name)))

/-- A name stands twice in a unit where it stands twice in a module or in two modules. -/
theorem names_nodup_iff (u : StubUnit) :
    (u.signatures.map (·.name)).Nodup ↔
      (∀ m ∈ u.modules, (m.signatures.map (·.name)).Nodup) ∧ u.SharesNoName := by
  rw [StubUnit.signatures, List.map_flatMap, List.nodup_flatMap]
  rfl

theorem pointerNames_nodup_iff (u : StubUnit) :
    (u.signatures.map (·.pointerName)).Nodup ↔ (u.signatures.map (·.name)).Nodup := by
  have hinjective : Function.Injective (fun name : String => name ++ "_ptr") := by
    intro a b h
    simpa [← String.toList_inj] using h
  have hmap : u.signatures.map (·.pointerName) =
      (u.signatures.map (·.name)).map (fun name => name ++ "_ptr") := by
    rw [List.map_map]
    rfl
  rw [hmap, List.nodup_map_iff hinjective]

/-- Where no collision is reported, every name is declared by one signature of the unit, and every
pointer is defined for one, just if no two modules share a name. -/
theorem names_nodup_iff_of_unreported {u : StubUnit} (h : Collision.ofModules u.modules = []) :
    ((u.signatures.map (·.name)).Nodup ↔ u.SharesNoName) ∧
      ((u.signatures.map (·.pointerName)).Nodup ↔ u.SharesNoName) := by
  have hmodules := (Collision.ofModules_eq_nil_iff.mp h).2
  have hnames : (u.signatures.map (·.name)).Nodup ↔ u.SharesNoName := by
    rw [names_nodup_iff, and_iff_right hmodules]
  exact ⟨hnames, (pointerNames_nodup_iff u).trans hnames⟩

/-- What stands among the stubs of each module stands, module by module, in the implementation. -/
theorem sublist_implementation (u : StubUnit) (settings : Settings)
    {part : StubModule → List String}
    (h : ∀ m, (part m).Sublist (Emit.moduleStubs m settings.exportMark)) :
    (u.modules.flatMap part).Sublist
      ((u.implementationSections settings).flatMap Section.lines) := by
  have hmodules : (u.modules.flatMap part).Sublist
      (u.modules.flatMap (Emit.moduleStubs · settings.exportMark)) :=
    List.Sublist.flatMap_right u.modules (fun m _ => h m)
  simp only [implementationSections, List.flatMap_append, List.flatMap_map, Section.lines]
  exact ((hmodules.trans (List.sublist_append_right _ _)).trans
    (List.sublist_append_left _ _)).trans
      ((List.sublist_append_left _ _).trans (List.sublist_append_left _ _))

/-- The implementation defines a pointer for every signature of the unit, on a row of its own. -/
theorem pointerDeclarations_sublist (u : StubUnit) (settings : Settings) :
    (u.signatures.map Emit.pointerDeclaration).Sublist
      ((u.implementationSections settings).flatMap Section.lines) := by
  rw [StubUnit.signatures, List.map_flatMap]
  apply sublist_implementation
  intro m
  simp only [Emit.moduleStubs, Emit.pointerDeclarations_withExport, List.append_assoc]
  exact (List.sublist_append_left _ _).trans (List.sublist_append_right _ _)

/-- Modules of different names that share none of theirs define every pointer once. -/
theorem names_nodup_of_two :
    Collision.ofModules [⟨"lib.foo", [⟨"int", "f2", ["int a"], none⟩, ⟨"int", "g_3", [""], none⟩]⟩,
        ⟨"libfoo", [⟨"void", "f2_ptr", ["void"], none⟩]⟩] = [] ∧
      (["f2", "g_3", "f2_ptr"] : List String).Nodup ∧
      (["f2_ptr", "g_3_ptr", "f2_ptr_ptr"] : List String).Nodup := by
  have hnone : Collision.ofModules
      [⟨"lib.foo", [⟨"int", "f2", ["int a"], none⟩, ⟨"int", "g_3", [""], none⟩]⟩,
        ⟨"libfoo", [⟨"void", "f2_ptr", ["void"], none⟩]⟩] = [] := by decide
  have hunit := names_nodup_iff_of_unreported (u := .ofModules
    [⟨"lib.foo", [⟨"int", "f2", ["int a"], none⟩, ⟨"int", "g_3", [""], none⟩]⟩,
      ⟨"libfoo", [⟨"void", "f2_ptr", ["void"], none⟩]⟩] "media" "stubs") hnone
  have hshares : StubUnit.SharesNoName (.ofModules
      [⟨"lib.foo", [⟨"int", "f2", ["int a"], none⟩, ⟨"int", "g_3", [""], none⟩]⟩,
        ⟨"libfoo", [⟨"void", "f2_ptr", ["void"], none⟩]⟩] "media" "stubs") := by
    simp [SharesNoName, StubUnit.ofModules]
  exact ⟨hnone, hunit.1.mpr hshares, hunit.2.mpr hshares⟩

/-- Two modules that declare one function are not reported, and the implementation defines its
pointer twice. -/
theorem redefinition_unreported :
    ∃ u : StubUnit, (∀ m ∈ u.modules, m.ReadFrom "int foo(void)") ∧
      Collision.ofModules u.modules = [] ∧ ¬ (u.signatures.map (·.name)).Nodup ∧
      ∀ settings : Settings,
        ["static int (*foo_ptr)(void) = NULL;", "static int (*foo_ptr)(void) = NULL;"].Sublist
          ((u.implementationSections settings).flatMap Section.lines) := by
  refine ⟨.ofModules [⟨"a", [⟨"int", "foo", ["void"], none⟩]⟩,
    ⟨"b", [⟨"int", "foo", ["void"], none⟩]⟩] "media" "stubs", ?_, by decide, by decide, ?_⟩
  · intro m hm
    simp only [StubUnit.ofModules, List.mem_cons, List.not_mem_nil, or_false] at hm
    rcases hm with rfl | rfl <;> rfl
  · intro settings
    have hrow : Emit.pointerDeclaration ⟨"int", "foo", ["void"], none⟩ =
        "static int (*foo_ptr)(void) = NULL;" := by rfl
    rw [← hrow]
    exact pointerDeclarations_sublist (.ofModules [⟨"a", [⟨"int", "foo", ["void"], none⟩]⟩,
      ⟨"b", [⟨"int", "foo", ["void"], none⟩]⟩] "media" "stubs") settings

end StubUnit

end LinkStubs
