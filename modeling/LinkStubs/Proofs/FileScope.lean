import LinkStubs.Proofs.Arguments
import LinkStubs.Proofs.Collisions
import Mathlib.Data.List.Perm.Basic

/-!
Names at file scope. Every signature has a function and a pointer defined for it, and the name of
the pointer is made without a look at any other name: it can be that of a function with its own
signature, and a parameter can hide it.
-/

namespace LinkStubs

open LinkStubs.Identifier LinkStubs.Text

namespace Signature

/-- A declaration under a name: the name stands behind the end of a type, or alone, and behind the
name is no more than an empty pair of brackets. -/
def DeclaredAs (param name : String) : Prop :=
  ∃ type blanks brackets : List Char,
    param.toList = type ++ blanks ++ (name.toList ++ brackets) ∧
      (∀ c ∈ type.getLast?, endsType c = true) ∧ (∀ c ∈ blanks, isBlank c = true) ∧
        (brackets = [] ∨ brackets = ['[', ']'])

theorem trimmed_of_unblank {cs : List Char} (h : ∀ c ∈ cs, isBlank c = false) : Trimmed cs :=
  ⟨fun c hc => h c (List.mem_of_mem_head? hc), fun c hc => h c (List.mem_of_getLast? hc)⟩

/-- Behind the end of a type, nothing but what follows it counts. -/
theorem behindType_subset {type : List Char} (h : ∀ c ∈ type.getLast?, endsType c = true)
    (rest : List Char) : behindType (type ++ rest) ⊆ rest := by
  obtain ⟨before, hsplit, -, hfree⟩ := behindType_decomposition (type ++ rest)
  rcases List.eq_nil_or_concat type with rfl | ⟨front, c, rfl⟩
  · exact List.IsSuffix.subset ⟨before, hsplit.symm⟩
  · have hc : c ∉ behindType (front.concat c ++ rest) := by
      intro hm
      have hends := h c (by simp)
      rw [hfree c hm] at hends
      cases hends
    have hsuffix : behindType (front.concat c ++ rest) <:+ front ++ c :: rest :=
      ⟨before, by rw [← hsplit]; simp⟩
    exact (suffix_of_suffix_append_cons hc hsuffix).subset

variable {param name : String}

theorem declaredAs_of_argumentChars (ht : Trimmed param.toList) (hne : name ≠ "")
    (h : argumentChars param.toList = name.toList) : DeclaredAs param name := by
  obtain ⟨type, hsplit, htype, -⟩ := behindType_decomposition param.toList
  rw [argumentChars_eq] at h
  generalize behindType param.toList = behind at hsplit h
  have hbehind : behind ≠ [] := by
    rintro rfl
    exact hne (String.toList_eq_nil_iff.mp h.symm)
  have hlast : ∀ c ∈ behind.getLast?, isBlank c = false := by
    intro c hc
    apply ht.2
    rwa [hsplit, List.getLast?_append_of_ne_nil _ hbehind]
  obtain ⟨lead, hlead, hblanks⟩ := trim_front hlast
  have hparam : param.toList = type ++ lead ++ trim behind := by
    rw [hsplit, List.append_assoc, ← hlead]
  -- The pair of brackets that was dropped, if any, is the one in the declaration.
  by_cases hb : ['[', ']'] <:+ trim behind
  · obtain ⟨rest, hrest⟩ := hb
    rw [← hrest, dropBrackets_pair] at h
    rw [← hrest, h] at hparam
    exact ⟨type, lead, ['[', ']'], hparam, htype, hblanks, Or.inr rfl⟩
  · rw [dropBrackets_of_end hb] at h
    rw [h] at hparam
    exact ⟨type, lead, [], by rw [hparam, List.append_nil], htype, hblanks, Or.inl rfl⟩

theorem argumentChars_of_declaredAs (hname : IdentText name) (h : DeclaredAs param name) :
    argumentChars param.toList = name.toList := by
  obtain ⟨type, blanks, brackets, hsplit, htype, hblanks, hbrackets⟩ := h
  have hinner : ∀ c ∈ name.toList ++ brackets, isBlank c = false ∧ endsType c = false := by
    rw [List.forall_mem_append]
    constructor
    · exact fun c hc => ⟨not_blank_of_identChar (hname c hc), endsType_of_identChar (hname c hc)⟩
    · rcases hbrackets with rfl | rfl
      · simp
      · simp only [List.forall_mem_cons, List.not_mem_nil, false_implies, implies_true, and_true]
        decide
  have hbehind : behindType param.toList =
      behindType (type ++ blanks) ++ (name.toList ++ brackets) := by
    rw [hsplit, behindType_append (fun c hc => (hinner c hc).2)]
  have htrim := trim_surrounded (behindType (type ++ blanks)) (name.toList ++ brackets) []
    (fun c hc => hblanks c (behindType_subset htype blanks hc)) (by simp)
    (trimmed_of_unblank fun c hc => (hinner c hc).1)
  rw [List.append_nil] at htrim
  rw [argumentChars_eq, hbehind, htrim]
  rcases hbrackets with rfl | rfl
  · rw [List.append_nil]
    apply dropBrackets_of_end
    intro hs
    exact hname.not_mem (by decide) (hs.mem (List.mem_cons_of_mem _ List.mem_cons_self))
  · exact dropBrackets_pair name.toList

/-- What a parameter passes on is the name that it is declared under. -/
theorem argumentName_eq_iff (ht : Trimmed param.toList) (hname : IdentText name) (hne : name ≠ "") :
    argumentName param = name ↔ DeclaredAs param name := by
  rw [argumentName, ← String.toList_inj, String.toList_ofList]
  exact ⟨declaredAs_of_argumentChars ht hne, argumentChars_of_declaredAs hname⟩

theorem IsRead.params_trimmed {s : Signature} (h : s.IsRead) :
    ∀ p ∈ s.params, Trimmed p.toList := by
  obtain ⟨line, position, hline⟩ := h
  obtain ⟨-, u, hu, -, rfl⟩ := division_of_readLine hline
  exact fun p hp => (Split.parameters_plain hu.toDivides p hp).1

/-- A parameter hides the pointer just if it is declared under the name of the pointer. -/
theorem IsRead.pointerName_mem_iff {s : Signature} (h : s.IsRead) :
    s.pointerName ∈ s.argumentNames ↔ ∃ p ∈ s.params, DeclaredAs p s.pointerName := by
  have hname : IdentText s.pointerName :=
    IdentText.append (fun c hc => h.unbroken.name.identChar c hc) (by decide)
  have hne : s.pointerName ≠ "" := by
    intro he
    have hlength := congrArg String.length he
    simp [pointerName] at hlength
  rw [argumentNames, List.mem_map]
  exact exists_congr fun p => and_congr_right fun hp =>
    argumentName_eq_iff (h.params_trimmed p hp) hname hne

end Signature

/-- The names that the stubs of a unit define at file scope: module by module, those of the pointers
and those of the functions. -/
def StubUnit.fileScope (u : StubUnit) : List String :=
  u.modules.flatMap (fun m => m.signatures.map (·.pointerName) ++ m.signatures.map (·.name))

def StubUnit.fileScopeRows (u : StubUnit) (mark : String) : List String :=
  u.modules.flatMap (fun m => m.signatures.map Emit.pointerDeclaration
    ++ m.signatures.map (fun s => Emit.stubHead (s.withExport mark)))

namespace StubUnit

/-- What is defined at file scope for the signatures of a unit, and what it meets there. -/
structure FileScoped (u : StubUnit) : Prop where
  /-- Each name is defined on a row of its own. -/
  defined : ∀ settings : Settings, (u.fileScopeRows settings.exportMark).Sublist
    ((u.implementationSections settings).flatMap Section.lines)
  length_eq : u.fileScope.length = 2 * u.signatures.length
  /-- Functions and pointers are told apart unless a function is named like a pointer. -/
  distinct : u.fileScope.Nodup ↔
    ∀ s ∈ u.signatures, ∀ t ∈ u.signatures, t.name ≠ s.pointerName
  /-- Of the parameters of a stub, those hide its pointer that are declared under the name of it. -/
  hidden : ∀ s ∈ u.signatures,
    (s.pointerName ∈ s.argumentNames ↔ ∃ p ∈ s.params, Signature.DeclaredAs p s.pointerName)

theorem fileScopeRows_sublist (u : StubUnit) (settings : Settings) :
    (u.fileScopeRows settings.exportMark).Sublist
      ((u.implementationSections settings).flatMap Section.lines) := by
  apply sublist_implementation
  intro m
  have hheads :
      (m.signatures.map (fun s => Emit.stubHead (s.withExport settings.exportMark))).Sublist
        ((m.signatures.map (·.withExport settings.exportMark)).flatMap Emit.stub) := by
    rw [List.flatMap_map, List.map_eq_flatMap]
    refine List.Sublist.flatMap_right m.signatures (fun s _ => List.singleton_sublist.mpr ?_)
    simp [Emit.stub]
  rw [Emit.moduleStubs, Emit.pointerDeclarations_withExport]
  refine (List.Sublist.append ?_ hheads).trans (List.sublist_append_left _ _)
  exact (List.sublist_append_right _ _).trans (List.sublist_append_left _ _)

theorem fileScope_perm (u : StubUnit) :
    (u.signatures.map (·.pointerName) ++ u.signatures.map (·.name)).Perm u.fileScope := by
  rw [signatures, List.map_flatMap, List.map_flatMap]
  exact List.flatMap_append_perm _ _ _

/-- Where no two signatures have one name, the names that stubs define are told apart, and found by
the bodies of the stubs, unless the signatures themselves use the name of a pointer. -/
theorem fileScope_of_distinct {u : StubUnit} (hread : ∀ s ∈ u.signatures, s.IsRead)
    (hnames : (u.signatures.map (·.name)).Nodup) : u.FileScoped where
  defined := u.fileScopeRows_sublist
  length_eq := by
    rw [← u.fileScope_perm.length_eq, List.length_append, List.length_map, List.length_map]
    omega
  distinct := by
    have hpointers := (pointerNames_nodup_iff u).mpr hnames
    rw [← u.fileScope_perm.nodup_iff, List.nodup_append, and_iff_right hpointers,
      and_iff_right hnames]
    simp only [List.forall_mem_map]
    exact forall₂_congr fun s _ => forall₂_congr fun t _ => ne_comm
  hidden s hs := (hread s hs).pointerName_mem_iff

/-- A function that a parameter hides the pointer of, and one whose name does not end like that of a
pointer. -/
def hiddenPointer : StubUnit :=
  .ofModules [⟨"a", [⟨"int", "foo", ["int *foo_ptr"], none⟩]⟩,
    ⟨"b", [⟨"void", "ptr", ["char foo[]"], none⟩]⟩] "media" "stubs"

theorem fileScope_of_two :
    hiddenPointer.fileScope.Nodup ∧
      "foo_ptr" ∈ (⟨"int", "foo", ["int *foo_ptr"], none⟩ : Signature).argumentNames ∧
      ¬ ∃ p ∈ ["char foo[]"], Signature.DeclaredAs p "ptr_ptr" := by
  have hfoo : Signature.IsRead ⟨"int", "foo", ["int *foo_ptr"], none⟩ :=
    ⟨"int foo(int *foo_ptr)", .start, by rfl⟩
  have hptr : Signature.IsRead ⟨"void", "ptr", ["char foo[]"], none⟩ :=
    ⟨"void ptr(char foo[])", .start, by rfl⟩
  have hread : ∀ s ∈ hiddenPointer.signatures, s.IsRead := by
    simpa [hiddenPointer, signatures, ofModules] using ⟨hfoo, hptr⟩
  have hscope := fileScope_of_distinct hread (by decide)
  refine ⟨hscope.distinct.mpr (by decide), ?_, ?_⟩
  · refine (hscope.hidden ⟨"int", "foo", ["int *foo_ptr"], none⟩ (by decide)).mpr ?_
    exact ⟨"int *foo_ptr", by decide, ['i', 'n', 't', ' ', '*'], [], [], by decide,
      by simp [endsType], by simp, Or.inl rfl⟩
  · exact (hscope.hidden ⟨"void", "ptr", ["char foo[]"], none⟩ (by decide)).not.mp (by decide)

/-- A function and a parameter that have the name of a pointer. -/
def takenPointer : StubUnit :=
  .ofModules [⟨"m", [⟨"int", "foo", ["int foo_ptr"], none⟩,
    ⟨"int", "foo_ptr", ["void"], none⟩]⟩] "" "stubs"

/-- The function is defined beside the pointer, and the parameter is called in the place of it. -/
theorem fileScope_clash :
    (∀ m ∈ takenPointer.modules, m.ReadFrom "int foo(int foo_ptr)\nint foo_ptr(void)\n") ∧
      (takenPointer.signatures.map (·.name)).Nodup ∧
      ¬ takenPointer.fileScope.Nodup ∧
      ["static int (*foo_ptr)(int foo_ptr) = NULL;", Emit.opening "int foo_ptr(void)"].Sublist
        ((takenPointer.implementationSections {}).flatMap Section.lines) ∧
      ∃ s ∈ takenPointer.signatures, s.pointerName ∈ s.argumentNames ∧
        "  return foo_ptr(foo_ptr);" ∈ Emit.stub s := by
  refine ⟨?_, by decide, by decide, ?_, ?_⟩
  · intro m hm
    obtain rfl := List.mem_singleton.mp hm
    rfl
  · exact List.Sublist.trans (by decide) (takenPointer.fileScopeRows_sublist {})
  · exact ⟨⟨"int", "foo", ["int foo_ptr"], none⟩, by decide, by decide, by decide⟩

end StubUnit

end LinkStubs
