import LinkStubs.Proofs.Division
import LinkStubs.StubUnit
import Mathlib.Data.List.Nodup

/-!
C identifiers as a predicate on texts, and what the identifiers of modules are made of.
-/

namespace LinkStubs.Identifier

open LinkStubs.Signature LinkStubs.Text

/-- A C identifier. -/
def IsIdentifier (name : String) : Prop :=
  ∃ c cs, name.toList = c :: cs ∧ isIdentStart c = true ∧ ∀ d ∈ cs, isIdentChar d = true

instance IsIdentifier.decidable (name : String) : Decidable (IsIdentifier name) :=
  match h : name.toList with
  | [] => isFalse (by rintro ⟨c, cs, he, _⟩; rw [h] at he; cases he)
  | c :: cs =>
    decidable_of_iff (isIdentStart c = true ∧ cs.all isIdentChar = true)
      ⟨fun ⟨hc, hcs⟩ => ⟨c, cs, h, hc, List.all_eq_true.mp hcs⟩, by
        rintro ⟨d, ds, he, hd, hds⟩
        rw [h] at he
        cases he
        exact ⟨hd, List.all_eq_true.mpr hds⟩⟩

/-- The characters of identifiers are among the first 128, so both case maps can be tried out. -/
theorem isIdentChar_case {c : Char} (h : isIdentChar c = true) :
    isIdentChar c.toUpper = true ∧ isIdentChar c.toLower = true := by
  have hall : ∀ n : Fin 128, isIdentChar (Char.ofNat n) = true →
      isIdentChar (Char.ofNat n).toUpper = true ∧ isIdentChar (Char.ofNat n).toLower = true := by
    decide
  have hrange := identChar_range h
  have hc := hall ⟨c.toNat, by omega⟩
  simp only [Char.ofNat_toNat] at hc
  exact hc h

theorem capitalized_identChar {cs : List Char} (h : ∀ c ∈ cs, isIdentChar c = true) :
    ∀ c ∈ capitalized cs, isIdentChar c = true := by
  cases cs with
  | nil => simp [capitalized]
  | cons d ds =>
    intro c hc
    rcases List.mem_cons.mp hc with rfl | hc
    · exact (isIdentChar_case (h d List.mem_cons_self)).1
    · obtain ⟨e, he, rfl⟩ := List.mem_map.mp hc
      exact (isIdentChar_case (h e (List.mem_cons_of_mem d he))).2

def IdentText (text : String) : Prop :=
  ∀ c ∈ text.toList, isIdentChar c = true

instance IdentText.decidable (text : String) : Decidable (IdentText text) :=
  decidable_of_iff (text.toList.all isIdentChar = true) List.all_eq_true

theorem IdentText.append {a b : String} (ha : IdentText a) (hb : IdentText b) :
    IdentText (a ++ b) := by
  intro c hc
  rw [String.toList_append, List.mem_append] at hc
  rcases hc with hc | hc
  · exact ha c hc
  · exact hb c hc

theorem IdentText.not_mem {text : String} (h : IdentText text) {c : Char}
    (hc : isIdentChar c = false) : c ∉ text.toList := by
  intro hm
  rw [h c hm] at hc
  cases hc

theorem IsIdentifier.identText {name : String} (h : IsIdentifier name) : IdentText name := by
  obtain ⟨c, cs, he, hc, hcs⟩ := h
  intro d hd
  rw [he] at hd
  rcases List.mem_cons.mp hd with rfl | hd
  · exact isIdentChar_of_start hc
  · exact hcs d hd

/-- Whatever a name is made of, its part of an identifier has the characters of identifiers. -/
theorem camel_identText (name : String) : IdentText (camel name) := by
  intro c hc
  rw [camel, String.toList_ofList, camelChars] at hc
  obtain ⟨piece, hpiece, hc⟩ := List.mem_flatMap.mp hc
  apply capitalized_identChar _ c hc
  intro d hd
  simpa using uncut_of_mem_pieces hpiece d hd

theorem IsIdentifier.append {name text : String} (h : IsIdentifier name) (ht : IdentText text) :
    IsIdentifier (name ++ text) := by
  obtain ⟨c, cs, he, hc, hcs⟩ := h
  refine ⟨c, cs ++ text.toList, by rw [String.toList_append, he, List.cons_append], hc, ?_⟩
  intro d hd
  rcases List.mem_append.mp hd with hd | hd
  · exact hcs d hd
  · exact ht d hd

def Family.names (f : Family) : List String :=
  [f.enumerator, f.readyCheck, f.loader, f.unloader]

/-- What stands before and behind the name of a module in each of its identifiers. -/
def Family.shapes : List (String × String) :=
  [("kModule", ""), ("Is", "Initialized"), ("Initialize", ""), ("Uninitialize", "")]

theorem Family.names_ofModule (module : String) :
    (Family.ofModule module).names = shapes.map (fun s => s.1 ++ camel module ++ s.2) := by
  simp [names, ofModule, shapes, Identifier.enumerator, Identifier.readyCheck, Identifier.loader,
    Identifier.unloader]

/-- No identifier of a module starts as one of another sort does. -/
theorem Family.shapes_apart :
    ∀ s ∈ shapes, ∀ t ∈ shapes, s.1.toList <+: t.1.toList → s = t := by
  decide

/-- An identifier tells its sort and the part of it that comes from the module. -/
theorem Family.shape_inj {s t : String × String} (hs : s ∈ shapes) (ht : t ∈ shapes) {a b : String}
    (h : s.1 ++ a ++ s.2 = t.1 ++ b ++ t.2) : s = t ∧ a = b := by
  have hst : s = t := by
    have hs1 : s.1.toList <+: (s.1 ++ a ++ s.2).toList := by
      simp only [String.toList_append, List.append_assoc]
      exact List.prefix_append _ _
    have ht1 : t.1.toList <+: (s.1 ++ a ++ s.2).toList := by
      rw [h]
      simp only [String.toList_append, List.append_assoc]
      exact List.prefix_append _ _
    rcases List.prefix_or_prefix_of_prefix hs1 ht1 with hp | hp
    · exact shapes_apart s hs t ht hp
    · exact (shapes_apart t ht s hs hp).symm
  subst hst
  refine ⟨rfl, ?_⟩
  rw [← String.toList_inj] at h
  simpa [String.toList_inj] using h

theorem Family.names_nodup (module : String) : (Family.ofModule module).names.Nodup := by
  rw [names_ofModule]
  refine List.Nodup.map_on ?_ (by decide)
  intro s hs t ht h
  exact (shape_inj hs ht h).1

/-- Modules have an identifier in common just where their names come to the same part of it. -/
theorem Family.names_disjoint_iff {module other : String} :
    List.Disjoint (Family.ofModule module).names (Family.ofModule other).names ↔
      camel module ≠ camel other := by
  rw [names_ofModule, names_ofModule]
  constructor
  · intro h he
    rw [he] at h
    exact h List.mem_cons_self List.mem_cons_self
  · intro hne name hn ho
    obtain ⟨s, hs, rfl⟩ := List.mem_map.mp hn
    obtain ⟨t, ht, he⟩ := List.mem_map.mp ho
    exact hne (shape_inj ht hs he).2.symm

theorem enumerator_inj {module other : String} :
    enumerator module = enumerator other ↔ camel module = camel other := by
  rw [enumerator, enumerator, ← String.toList_inj, String.toList_append, String.toList_append,
    List.append_cancel_left_eq, String.toList_inj]

theorem enumerator_isIdentifier (module : String) : IsIdentifier (enumerator module) :=
  IsIdentifier.append (by decide) (camel_identText module)

theorem readyCheck_isIdentifier (module : String) : IsIdentifier (readyCheck module) :=
  (IsIdentifier.append (by decide) (camel_identText module)).append (by decide)

theorem loader_isIdentifier (module : String) : IsIdentifier (loader module) :=
  IsIdentifier.append (by decide) (camel_identText module)

theorem unloader_isIdentifier (module : String) : IsIdentifier (unloader module) :=
  IsIdentifier.append (by decide) (camel_identText module)

theorem Family.isIdentifier_of_mem {module name : String} (h : name ∈ (ofModule module).names) :
    IsIdentifier name := by
  have hall : ∀ name ∈ (ofModule module).names, IsIdentifier name := by
    simp only [names, ofModule, List.forall_mem_cons]
    exact ⟨enumerator_isIdentifier module, readyCheck_isIdentifier module,
      loader_isIdentifier module, unloader_isIdentifier module, by simp⟩
  exact hall name h

theorem enumerator_identText (module : String) : IdentText (enumerator module) :=
  (enumerator_isIdentifier module).identText

theorem readyCheck_identText (module : String) : IdentText (readyCheck module) :=
  (readyCheck_isIdentifier module).identText

theorem loader_identText (module : String) : IdentText (loader module) :=
  (loader_isIdentifier module).identText

theorem unloader_identText (module : String) : IdentText (unloader module) :=
  (unloader_isIdentifier module).identText

end LinkStubs.Identifier
