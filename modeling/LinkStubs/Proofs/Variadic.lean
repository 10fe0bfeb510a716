import LinkStubs.Emit.Stub
import LinkStubs.Proofs.Declaration
import LinkStubs.Proofs.Identifiers

/-!
Variadic functions. The reading of a line and the stub for it agree on which functions are variadic
and on what is passed on. Nothing looks at the names before the tail, so a stub has an argument
wherever it needs one just where all of them are identifiers.
-/

namespace LinkStubs

open LinkStubs.Identifier LinkStubs.Text

namespace StubBody

/-- A list of arguments, an identifier for each of `count` parameters. -/
def IsArguments (count : Nat) (args : String) : Prop :=
  ∃ names : List String, names.length = count ∧ (∀ name ∈ names, IsIdentifier name) ∧
    args = joined names

/-- A body with an identifier wherever its variadic call needs one, where `count` parameters stand
before the tail. -/
def WellFormed (count : Nat) : StubBody → Prop
  | .plain .. => True
  | .variadicReturn fixed last | .variadicVoid fixed last =>
    IsIdentifier last ∧ IsArguments count fixed

end StubBody

namespace Signature

/-- In a list that can be passed on, `...` stands at the end, behind another parameter, and nowhere
else. -/
theorem Forwardable.ellipsis_place {params : List String} (h : Forwardable params)
    (hm : ellipsis ∈ params.map argumentName) :
    2 ≤ params.length ∧
      ∀ i : Nat, (params.map argumentName)[i]? = some ellipsis ↔ i + 1 = params.length := by
  obtain ⟨k, hk⟩ := List.mem_iff_getElem?.mp hm
  have hlast := h.tailLast k hk
  have hfirst : k ≠ 0 := by
    rintro rfl
    exact h.named hk
  refine ⟨by omega, fun i => ⟨h.tailLast i, fun hi => ?_⟩⟩
  obtain rfl : i = k := by omega
  exact hk

/-- The emitter looks for `...` where the reader lets it stand. -/
theorem Forwardable.hasTail_iff {params : List String} (h : Forwardable params) :
    StubBody.hasTail (params.map argumentName) = true ↔ ellipsis ∈ params.map argumentName := by
  rw [StubBody.hasTail, Bool.and_eq_true, decide_eq_true_eq, beq_iff_eq, List.length_map]
  constructor
  · exact fun ⟨_, hlast⟩ => List.mem_of_getLast? hlast
  · intro hm
    obtain ⟨hlength, hplace⟩ := h.ellipsis_place hm
    rw [List.getLast?_eq_getElem?, List.length_map]
    exact ⟨by omega, (hplace _).mpr (by omega)⟩

theorem Forwardable.unglued_name {params : List String} (h : Forwardable params) {name : String}
    (hm : name ∈ params.map argumentName) (hne : name ≠ ellipsis) :
    ¬ ellipsis.toList <:+ name.toList := by
  obtain ⟨p, hp, rfl⟩ := List.mem_map.mp hm
  exact fun hs => hne (h.unglued p hp hs)

theorem Forwardable.not_suffix_take {params : List String} (h : Forwardable params)
    (hm : ellipsis ∈ params.map argumentName) :
    ∀ name ∈ (params.map argumentName).take (params.length - 1),
      ¬ ellipsis.toList <:+ name.toList := by
  intro name hname
  refine h.unglued_name (List.mem_of_mem_take hname) ?_
  rintro rfl
  obtain ⟨i, hi⟩ := List.mem_iff_getElem?.mp hname
  rw [List.getElem?_take] at hi
  split at hi
  · have := ((h.ellipsis_place hm).2 i).mp hi
    omega
  · cases hi

/-- The body of a stub with a tail passes on the names before it, the last of which is its
anchor. -/
theorem ofSignature_of_tail {s : Signature} (h : Forwardable s.params)
    (hm : ellipsis ∈ s.argumentNames) :
    ∃ last, s.argumentNames[s.params.length - 2]? = some last ∧
      StubBody.ofSignature s =
        if s.returnType = "void" then
          .variadicVoid (StubBody.joined (s.argumentNames.take (s.params.length - 1))) last
        else
          .variadicReturn (StubBody.joined (s.argumentNames.take (s.params.length - 1))) last := by
  have htail := h.hasTail_iff.mpr hm
  obtain ⟨hlength, _⟩ := h.ellipsis_place hm
  have hnames : s.argumentNames.length = s.params.length := List.length_map _
  have hbound : s.params.length - 2 < s.argumentNames.length := by omega
  have hfixed : s.argumentNames.dropLast = s.argumentNames.take (s.params.length - 1) := by
    rw [List.dropLast_eq_take, hnames]
  -- The tail is not the only parameter, so the anchor is there and is the one before it.
  have hlast : (s.argumentNames.dropLast.getLast?).getD "" =
      s.argumentNames[s.params.length - 2] := by
    rw [List.getLast?_eq_getElem?, List.length_dropLast, hnames, List.getElem?_dropLast,
      if_pos (by omega), show s.params.length - 1 - 1 = s.params.length - 2 by omega,
      List.getElem?_eq_getElem hbound, Option.getD_some]
  refine ⟨s.argumentNames[s.params.length - 2], List.getElem?_eq_getElem hbound, ?_⟩
  rw [StubBody.ofSignature, if_pos (show StubBody.hasTail s.argumentNames = true from htail)]
  dsimp only
  rw [hlast, hfixed, returnsVoid]
  simp only [beq_iff_eq]

theorem ofSignature_of_no_tail {s : Signature} (h : Forwardable s.params)
    (hm : ellipsis ∉ s.argumentNames) :
    StubBody.ofSignature s = .plain (!s.returnsVoid)
      (if StubBody.joined s.argumentNames = "void" then ""
        else StubBody.joined s.argumentNames) := by
  have htail : ¬ StubBody.hasTail s.argumentNames = true := fun ht => hm (h.hasTail_iff.mp ht)
  rw [StubBody.ofSignature, if_neg htail]

theorem isVariadic_iff {s : Signature} (h : Forwardable s.params) :
    (StubBody.ofSignature s).isVariadic = true ↔ ellipsis ∈ s.argumentNames := by
  constructor
  · intro hv
    by_contra hm
    rw [ofSignature_of_no_tail h hm] at hv
    cases hv
  · intro hm
    obtain ⟨last, _, he⟩ := ofSignature_of_tail h hm
    rw [he]
    split <;> rfl

theorem forwardable_of_readLine {line : String} {position : Position} {s : Signature}
    (h : readLine line position = .ok (some s)) : Forwardable s.params := by
  obtain ⟨_, _, _, hf, rfl⟩ := division_of_readLine h
  exact hf

/-- A function that is read from a line gets a variadic stub just where `...` is among its argument
names; it is the last of them and not the only one, all before it are passed on, and nothing that is
passed on ends in `...`. -/
theorem ofSignature_of_readLine {line : String} {position : Position} {s : Signature}
    (h : readLine line position = .ok (some s)) :
    ((StubBody.ofSignature s).isVariadic = true ↔ ellipsis ∈ s.argumentNames) ∧
    (ellipsis ∈ s.argumentNames →
      2 ≤ s.params.length ∧
      (∀ i : Nat, s.argumentNames[i]? = some ellipsis ↔ i + 1 = s.params.length) ∧
      (∃ last, s.argumentNames[s.params.length - 2]? = some last ∧
        StubBody.ofSignature s =
          if s.returnType = "void" then
            .variadicVoid (StubBody.joined (s.argumentNames.take (s.params.length - 1))) last
          else
            .variadicReturn (StubBody.joined (s.argumentNames.take (s.params.length - 1))) last) ∧
      ∀ name ∈ s.argumentNames.take (s.params.length - 1), ¬ ellipsis.toList <:+ name.toList) ∧
    (ellipsis ∉ s.argumentNames →
      StubBody.ofSignature s = .plain (!s.returnsVoid)
        (if StubBody.joined s.argumentNames = "void" then ""
          else StubBody.joined s.argumentNames) ∧
      ∀ name ∈ s.argumentNames, ¬ ellipsis.toList <:+ name.toList) := by
  have hf := forwardable_of_readLine h
  refine ⟨isVariadic_iff hf, fun hm => ?_, fun hm => ⟨ofSignature_of_no_tail hf hm, ?_⟩⟩
  · obtain ⟨hlength, hplace⟩ := hf.ellipsis_place hm
    exact ⟨hlength, hplace, ofSignature_of_tail hf hm, hf.not_suffix_take hm⟩
  · intro name hname
    exact hf.unglued_name hname (fun he => hm (he ▸ hname))

/-- Brackets, a star and a tab are what a name is found behind, and `...` is found like a name. -/
theorem ofSignature_of_bracketed_tail :
    readLine "void f2(T *a[], const char*\tb, *...[])" .start =
        .ok (some ⟨"void", "f2", ["T *a[]", "const char*\tb", "*...[]"], none⟩) ∧
      StubBody.ofSignature ⟨"void", "f2", ["T *a[]", "const char*\tb", "*...[]"], none⟩ =
        .variadicVoid "a, b" "b" := by
  have h : readLine "void f2(T *a[], const char*\tb, *...[])" .start =
      .ok (some ⟨"void", "f2", ["T *a[]", "const char*\tb", "*...[]"], none⟩) := by rfl
  obtain ⟨_, htail, _⟩ := ofSignature_of_readLine h
  obtain ⟨_, _, ⟨last, hlast, he⟩, _⟩ := htail (by decide)
  obtain rfl : last = "b" := Option.some.inj (hlast.symm.trans (by decide))
  exact ⟨h, he⟩

theorem argumentChars_subset (param : List Char) : argumentChars param ⊆ param := by
  have hdrop : ∀ name : List Char, dropBrackets name ⊆ name := by
    intro name c hc
    unfold dropBrackets at hc
    split at hc
    · rename_i rest he
      apply List.mem_reverse.mp
      rw [he]
      exact List.mem_cons_of_mem _ (List.mem_cons_of_mem _ (List.mem_reverse.mp hc))
    · exact hc
  intro c hc
  have htail := List.mem_reverse.mp (mem_of_mem_trim (hdrop _ hc))
  exact List.mem_reverse.mp ((List.takeWhile_sublist _).subset htail)

/-- An argument name has no comma, since the parameter has none. -/
theorem comma_not_mem_argumentName {line : String} {position : Position} {s : Signature}
    (h : readLine line position = .ok (some s)) : ∀ name ∈ s.argumentNames, ',' ∉ name.toList := by
  obtain ⟨_, u, hu, _, rfl⟩ := division_of_readLine h
  intro name hname hc
  obtain ⟨p, hp, rfl⟩ := List.mem_map.mp hname
  rw [argumentName, String.toList_ofList] at hc
  exact ((Split.parameters_plain hu.toDivides p hp).2 ',' (argumentChars_subset _ hc)).1 rfl

theorem joined_cancel {names others : List String} (hn : ∀ n ∈ names, ',' ∉ n.toList)
    (ho : ∀ n ∈ others, ',' ∉ n.toList) (hl : names.length = others.length)
    (h : StubBody.joined names = StubBody.joined others) : names = others := by
  have hchars : [',', ' '].intercalate (names.map String.toList) =
      [',', ' '].intercalate (others.map String.toList) := by
    simpa [StubBody.joined] using congrArg String.toList h
  have hmap := intercalate_cancel (by simpa using hn) (by simpa using ho) (by simpa using hl) hchars
  exact (List.map_inj_right (fun _ _ => String.toList_inj.mp)).mp hmap

theorem comma_not_mem_of_isIdentifier {name : String} (h : IsIdentifier name) :
    ',' ∉ name.toList :=
  h.identText.not_mem (by decide)

/-- A variadic stub has an identifier wherever its call needs one just where every argument name
before the tail is an identifier. -/
theorem wellFormed_iff {line : String} {position : Position} {s : Signature}
    (h : readLine line position = .ok (some s))
    (hv : (StubBody.ofSignature s).isVariadic = true) :
    (StubBody.ofSignature s).WellFormed (s.params.length - 1) ↔
      ∀ name ∈ s.argumentNames.dropLast, IsIdentifier name := by
  have hf := forwardable_of_readLine h
  have hm := (isVariadic_iff hf).mp hv
  have hnames : s.argumentNames.length = s.params.length := List.length_map _
  obtain ⟨hlength, _⟩ := hf.ellipsis_place hm
  obtain ⟨last, hlast, he⟩ := ofSignature_of_tail hf hm
  have hfixed : s.argumentNames.dropLast = s.argumentNames.take (s.params.length - 1) := by
    rw [List.dropLast_eq_take, hnames]
  have hbody : (StubBody.ofSignature s).WellFormed (s.params.length - 1) ↔
      IsIdentifier last ∧ StubBody.IsArguments (s.params.length - 1)
        (StubBody.joined s.argumentNames.dropLast) := by
    rw [he, hfixed]
    split <;> rfl
  have hmem : last ∈ s.argumentNames.dropLast := by
    apply List.mem_of_getElem? (i := s.params.length - 2)
    rw [hfixed, List.getElem?_take, if_pos (by omega), hlast]
  have hcount : s.argumentNames.dropLast.length = s.params.length - 1 := by
    rw [List.length_dropLast, hnames]
  rw [hbody]
  constructor
  · -- The names that make the text well-formed are those of the parameters, by the commas between.
    rintro ⟨_, names, hl, hids, hj⟩
    have hcomma : ∀ n ∈ s.argumentNames.dropLast, ',' ∉ n.toList := fun n hn =>
      comma_not_mem_argumentName h n ((List.dropLast_subset _) hn)
    rw [joined_cancel hcomma (fun n hn => comma_not_mem_of_isIdentifier (hids n hn))
      (hcount.trans hl.symm) hj]
    exact hids
  · intro hids
    exact ⟨hids last hmem, s.argumentNames.dropLast, hcount, hids, rfl⟩

theorem wellFormed_of_named_arguments :
    readLine "int f2(char *a[], void, ...)" .start =
        .ok (some ⟨"int", "f2", ["char *a[]", "void", "..."], none⟩) ∧
      (StubBody.ofSignature ⟨"int", "f2", ["char *a[]", "void", "..."], none⟩).isVariadic = true ∧
      (StubBody.ofSignature ⟨"int", "f2", ["char *a[]", "void", "..."], none⟩).WellFormed 2 := by
  have h : readLine "int f2(char *a[], void, ...)" .start =
      .ok (some ⟨"int", "f2", ["char *a[]", "void", "..."], none⟩) := by rfl
  have hv : (StubBody.ofSignature
      ⟨"int", "f2", ["char *a[]", "void", "..."], none⟩).isVariadic = true := by decide
  exact ⟨h, hv, (wellFormed_iff h hv).mpr (by decide)⟩

/-- A pointer without a name is let through, and the stub's anchor is empty. -/
theorem not_wellFormed_of_unnamed_pointer :
    readLine "int f2(const char*, ...)" .start =
        .ok (some ⟨"int", "f2", ["const char*", "..."], none⟩) ∧
      StubBody.ofSignature ⟨"int", "f2", ["const char*", "..."], none⟩ = .variadicReturn "" "" ∧
      "  va_start(args___, );" ∈ Emit.stub ⟨"int", "f2", ["const char*", "..."], none⟩ ∧
      ¬ (StubBody.ofSignature ⟨"int", "f2", ["const char*", "..."], none⟩).WellFormed 1 := by
  refine ⟨rfl, by decide, by decide, ?_⟩
  rw [show StubBody.ofSignature ⟨"int", "f2", ["const char*", "..."], none⟩ =
    .variadicReturn "" "" by decide]
  exact fun h => absurd h.1 (by decide)

end Signature

end LinkStubs
