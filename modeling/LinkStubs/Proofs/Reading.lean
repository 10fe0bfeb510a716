import LinkStubs.Proofs.Division
import LinkStubs.Signature.Reading

/-!
What a line is read as, told from its divisions: which parameter lists a stub can pass on, which
fault of a list is reported, and what the answer to a whole line is.
-/

namespace LinkStubs.Signature

open LinkStubs.Text

/-- A line with no signature: nothing is left of it, or it is a comment. -/
def Skipped (text : List Char) : Prop :=
  text = [] ∨ ['#'] <+: text ∨ ['/', '/'] <+: text

theorem isSkipped_iff {text : List Char} : isSkipped text = true ↔ Skipped text := by
  simp [isSkipped, Skipped, or_assoc]

def Filled (params : List String) : Prop :=
  "" ∈ params → params.length = 1

/-- An argument name that ends in `...` is nothing more. -/
def Unglued (params : List String) : Prop :=
  ∀ p ∈ params, ellipsis.toList <:+ (argumentName p).toList → argumentName p = ellipsis

def TailLast (params : List String) : Prop :=
  ∀ i : Nat, (params.map argumentName)[i]? = some ellipsis → i + 1 = params.length

/-- A parameter list that a stub can pass on. -/
structure Forwardable (params : List String) : Prop where
  filled : Filled params
  unglued : Unglued params
  tailLast : TailLast params
  named : (params.map argumentName)[0]? ≠ some ellipsis

/-- The list that a fault is found in; of several faults, the first to be looked for counts. -/
def ParamFault.Of (params : List String) : ParamFault → Prop
  | .emptyParam => ¬ Filled params
  | .gluedEllipsis => Filled params ∧ ¬ Unglued params
  | .ellipsisNotLast => Filled params ∧ Unglued params ∧ ¬ TailLast params
  | .ellipsisAlone =>
    Filled params ∧ Unglued params ∧ TailLast params ∧
      (params.map argumentName)[0]? = some ellipsis

theorem filled_iff {params : List String} :
    Filled params ↔ (1 < params.length && params.any String.isEmpty) = false := by
  have hany : params.any String.isEmpty = true ↔ "" ∈ params := by
    simp [List.any_eq_true]
  cases ha : params.any String.isEmpty with
  | false =>
    have hn : "" ∉ params := fun hm => by simp [hany.mpr hm] at ha
    simp [Filled, hn]
  | true =>
    have hm := hany.mp ha
    have := List.length_pos_of_mem hm
    simp only [Filled, hm, forall_const, Bool.and_true, decide_eq_false_iff_not]
    omega

theorem unglued_iff {params : List String} :
    Unglued params ↔
      (params.map argumentName).any (fun n => endsInEllipsis n && n != ellipsis) = false := by
  have hends : ∀ n : String, endsInEllipsis n = true ↔ ellipsis.toList <:+ n.toList := by
    intro n
    exact List.isSuffixOf_iff_suffix
  simp only [Unglued, List.any_map, List.any_eq_false, Function.comp_apply, Bool.and_eq_true,
    bne_iff_ne, not_and, not_not, hends]

theorem tail_absent {params : List String}
    (h : (params.map argumentName).idxOf? ellipsis = none) (i : Nat) :
    (params.map argumentName)[i]? ≠ some ellipsis := by
  intro hi
  exact List.idxOf?_eq_none_iff.mp h (List.mem_of_getElem? hi)

/-- The first `...` decides where all of them are. -/
theorem tail_found {params : List String} {i : Nat}
    (h : (params.map argumentName).idxOf? ellipsis = some i) :
    (TailLast params ↔ i + 1 = params.length) ∧
      ((params.map argumentName)[0]? = some ellipsis ↔ i = 0) := by
  obtain ⟨hlt, hi, hfirst⟩ := List.idxOf?_eq_some_iff.mp h
  have hat : (params.map argumentName)[i]? = some ellipsis := by
    rw [List.getElem?_eq_getElem hlt, hi]
  have hle : ∀ j : Nat, (params.map argumentName)[j]? = some ellipsis →
      i ≤ j ∧ j < params.length := by
    intro j hj
    obtain ⟨hjl, hje⟩ := List.getElem?_eq_some_iff.mp hj
    refine ⟨?_, by simpa using hjl⟩
    by_contra hn
    exact hfirst j (by omega) hje
  refine ⟨⟨fun ht => ht i hat, ?_⟩, ⟨fun h0 => ?_, fun h0 => h0 ▸ hat⟩⟩
  · intro hlast j hj
    have := hle j hj
    omega
  · have := (hle 0 h0).1
    omega

/-- The fault that is reported is the first one, and where none is reported there is none. -/
theorem paramFault?_spec (params : List String) :
    match paramFault? params with
    | none => Forwardable params
    | some fault => fault.Of params := by
  -- The cases come in the order of the tests, each of which relies on those before it.
  cases he : 1 < params.length && params.any String.isEmpty with
  | true =>
    simp only [paramFault?, he, ↓reduceIte]
    intro hf
    rw [filled_iff, he] at hf
    cases hf
  | false =>
    have hfilled := filled_iff.mpr he
    cases hg : (params.map argumentName).any (fun n => endsInEllipsis n && n != ellipsis) with
    | true =>
      simp only [paramFault?, he, hg, Bool.false_eq_true, ↓reduceIte]
      refine ⟨hfilled, fun hu => ?_⟩
      rw [unglued_iff, hg] at hu
      cases hu
    | false =>
      have hunglued := unglued_iff.mpr hg
      simp only [paramFault?, he, hg, Bool.false_eq_true, ↓reduceIte]
      cases hi : (params.map argumentName).idxOf? ellipsis with
      | none => exact ⟨hfilled, hunglued, fun i h => absurd h (tail_absent hi i), tail_absent hi 0⟩
      | some i =>
        obtain ⟨hlast, hnamed⟩ := tail_found hi
        by_cases hl : i + 1 = params.length
        · simp only [ne_eq, hl, not_true_eq_false, ↓reduceIte]
          by_cases h0 : i = 0
          · rw [if_pos h0]
            exact ⟨hfilled, hunglued, hlast.mpr hl, hnamed.mpr h0⟩
          · rw [if_neg h0]
            exact ⟨hfilled, hunglued, hlast.mpr hl, fun h => h0 (hnamed.mp h)⟩
        · simp only [ne_eq, hl, not_false_eq_true, ↓reduceIte]
          exact ⟨hfilled, hunglued, fun h => hl (hlast.mp h)⟩

theorem ParamFault.Of.not_forwardable {params : List String} {fault : ParamFault}
    (h : fault.Of params) : ¬ Forwardable params := by
  intro hf
  cases fault with
  | emptyParam => exact h hf.filled
  | gluedEllipsis => exact h.2 hf.unglued
  | ellipsisNotLast => exact h.2.2 hf.tailLast
  | ellipsisAlone => exact hf.named h.2.2.2

theorem paramFault?_eq_none_iff {params : List String} :
    paramFault? params = none ↔ Forwardable params := by
  have hspec := paramFault?_spec params
  cases h : paramFault? params with
  | none =>
    rw [h] at hspec
    exact ⟨fun _ => hspec, fun _ => rfl⟩
  | some fault =>
    rw [h] at hspec
    refine ⟨fun he => ?_, fun hf => absurd hf (ParamFault.Of.not_forwardable hspec)⟩
    cases he

instance Forwardable.decidable (params : List String) : Decidable (Forwardable params) :=
  decidable_of_iff _ paramFault?_eq_none_iff

def Split.parameters (s : Split) : List String :=
  (pieces (· == ',') s.params).map (fun p => String.ofList (trim p))

theorem Split.Divides.result_unblank {s : Split} {line : List Char} (h : s.Divides line)
    (ht : Trimmed line) : ∀ c ∈ s.result.head?, isBlank c = false := by
  intro c hc
  obtain ⟨more, hmore⟩ := h.result_starts
  apply ht.1
  rw [← hmore, List.head?_append, Option.mem_def.mp hc]
  rfl

theorem Split.Divides.trim_result_ne_nil {s : Split} {line : List Char} (h : s.Divides line)
    (ht : Trimmed line) : trim s.result ≠ [] := by
  obtain ⟨c, cs, hr⟩ := List.exists_cons_of_ne_nil h.result_ne_nil
  have hc := h.result_unblank ht c (by rw [hr]; rfl)
  exact trim_ne_nil (by rw [hr]; exact List.mem_cons_self) hc

theorem Split.Divides.trim_result_starts {s : Split} {line : List Char} (h : s.Divides line)
    (ht : Trimmed line) : trim s.result <+: s.result :=
  trim_starts (h.result_unblank ht)

theorem readLine_skipped {line : String} (position : Position)
    (hk : Skipped (trim line.toList)) : readLine line position = .ok none := by
  simp only [readLine, isSkipped_iff.mpr hk, ↓reduceIte]

theorem isSkipped_eq_false {text : List Char} (hk : ¬ Skipped text) : isSkipped text = false := by
  cases h : isSkipped text with
  | false => rfl
  | true => exact absurd (isSkipped_iff.mp h) hk

theorem readLine_undivided {line : String} (position : Position)
    (hk : ¬ Skipped (trim line.toList)) (hn : ∀ s : Split, ¬ s.Divides (trim line.toList)) :
    readLine line position =
      .error (.unparsable position (String.ofList (trim line.toList))) := by
  simp only [readLine, isSkipped_eq_false hk, Bool.false_eq_true, ↓reduceIte,
    split?_eq_none_iff.mpr hn]

/-- A line that is not skipped is read by its shortest division. -/
theorem readLine_shortest {line : String} {s : Split} (position : Position)
    (hk : ¬ Skipped (trim line.toList)) (hs : s.Shortest (trim line.toList)) :
    readLine line position =
      match paramFault? s.parameters with
      | some fault =>
        .error (.unsupported position (String.ofList (trim line.toList)) fault.reason)
      | none =>
        .ok (some ⟨String.ofList (trim s.result), String.ofList s.name, s.parameters, none⟩) := by
  simp only [readLine, isSkipped_eq_false hk, Bool.false_eq_true, ↓reduceIte,
    split?_eq_some_iff.mpr hs]
  rfl

theorem readLine_forwardable {line : String} {s : Split} (position : Position)
    (hk : ¬ Skipped (trim line.toList)) (hs : s.Shortest (trim line.toList))
    (hf : Forwardable s.parameters) :
    readLine line position = .ok (some
      ⟨String.ofList (trim s.result), String.ofList s.name, s.parameters, none⟩) := by
  rw [readLine_shortest position hk hs, paramFault?_eq_none_iff.mpr hf]

theorem readLine_faulty {line : String} {s : Split} (position : Position)
    (hk : ¬ Skipped (trim line.toList)) (hs : s.Shortest (trim line.toList))
    (hf : ¬ Forwardable s.parameters) :
    ∃ fault : ParamFault, fault.Of s.parameters ∧ readLine line position =
      .error (.unsupported position (String.ofList (trim line.toList)) fault.reason) := by
  have hspec := paramFault?_spec s.parameters
  cases h : paramFault? s.parameters with
  | none => exact absurd (paramFault?_eq_none_iff.mp h) hf
  | some fault =>
    rw [h] at hspec
    exact ⟨fault, hspec, by rw [readLine_shortest position hk hs, h]⟩

/-- All that can become of a line: it is skipped, it cannot be divided, or its shortest division
gives a signature or a fault. -/
theorem readLine_cases (line : String) (position : Position) :
    (Skipped (trim line.toList) ∧ readLine line position = .ok none) ∨
    (¬ Skipped (trim line.toList) ∧
      ((∀ s : Split, ¬ s.Divides (trim line.toList)) ∧ readLine line position =
          .error (.unparsable position (String.ofList (trim line.toList))) ∨
        ∃ s : Split, s.Shortest (trim line.toList) ∧
          (Forwardable s.parameters ∧ readLine line position = .ok (some
              ⟨String.ofList (trim s.result), String.ofList s.name, s.parameters, none⟩) ∨
            ∃ fault : ParamFault, fault.Of s.parameters ∧ readLine line position =
              .error (.unsupported position (String.ofList (trim line.toList)) fault.reason)))) := by
  by_cases hk : Skipped (trim line.toList)
  · exact Or.inl ⟨hk, readLine_skipped position hk⟩
  · refine Or.inr ⟨hk, ?_⟩
    cases hs : split? (trim line.toList) with
    | none =>
      have hn := split?_eq_none_iff.mp hs
      exact Or.inl ⟨hn, readLine_undivided position hk hn⟩
    | some s =>
      have hshort := shortest_of_split? hs
      refine Or.inr ⟨s, hshort, ?_⟩
      by_cases hf : Forwardable s.parameters
      · exact Or.inl ⟨hf, readLine_forwardable position hk hshort hf⟩
      · exact Or.inr (readLine_faulty position hk hshort hf)

/-- Only a skipped line has no signature and no fault. -/
theorem skipped_of_readLine {line : String} {position : Position}
    (h : readLine line position = .ok none) : Skipped (trim line.toList) := by
  rcases readLine_cases line position with
    ⟨hk, _⟩ | ⟨_, ⟨_, hr⟩ | ⟨s, _, ⟨_, hr⟩ | ⟨fault, _, hr⟩⟩⟩
  · exact hk
  all_goals
    rw [hr] at h
    cases h

/-- A signature comes from the shortest division of its line. -/
theorem division_of_readLine {line : String} {position : Position} {signature : Signature}
    (h : readLine line position = .ok (some signature)) :
    ¬ Skipped (trim line.toList) ∧ ∃ s : Split, s.Shortest (trim line.toList) ∧
      Forwardable s.parameters ∧ signature =
        ⟨String.ofList (trim s.result), String.ofList s.name, s.parameters, none⟩ := by
  rcases readLine_cases line position with
    ⟨_, hr⟩ | ⟨hk, ⟨_, hr⟩ | ⟨s, hs, ⟨hf, hr⟩ | ⟨fault, _, hr⟩⟩⟩
  all_goals
    rw [hr] at h
    cases h
  exact ⟨hk, s, hs, hf, rfl⟩

/-- A line is skipped, refused, or read by the one division with the shortest return type; its
parameters are then judged, and the first fault of theirs is what is wrong with the line. -/
theorem readLine_grammar (line : String) (position : Position) :
    (readLine line position = .ok none ↔ Skipped (trim line.toList)) ∧
    (¬ Skipped (trim line.toList) → (∀ s : Split, ¬ s.Divides (trim line.toList)) →
      readLine line position = .error
        { kind := .badSignature
          position
          detail := "Unparsable line: " ++ String.ofList (trim line.toList)
          context := none }) ∧
    ((∃ s : Split, s.Divides (trim line.toList)) → ∃! s : Split, s.Shortest (trim line.toList)) ∧
    ∀ s : Split, ¬ Skipped (trim line.toList) → s.Shortest (trim line.toList) →
      trim s.result ≠ [] ∧
      (readLine line position = .ok (some
        { returnType := String.ofList (trim s.result)
          name := String.ofList s.name
          params := s.parameters
          exportMark := none }) ↔ Forwardable s.parameters) ∧
      (¬ Forwardable s.parameters → ∃ fault : ParamFault, fault.Of s.parameters ∧
        readLine line position = .error
          { kind := .badSignature
            position
            detail := "Unsupported signature (" ++ fault.reason ++ "): "
              ++ String.ofList (trim line.toList)
            context := none }) := by
  refine ⟨⟨skipped_of_readLine, readLine_skipped position⟩,
    fun hk hn => readLine_undivided position hk hn, fun ⟨s, hs⟩ => hs.existsUnique_shortest, ?_⟩
  intro s hk hs
  refine ⟨hs.trim_result_ne_nil (trimmed_trim _), ⟨?_, ?_⟩, ?_⟩
  · intro h
    obtain ⟨_, u, hu, hf, _⟩ := division_of_readLine h
    rw [hs.unique hu]
    exact hf
  · exact readLine_forwardable position hk hs
  · exact readLine_faulty position hk hs

end LinkStubs.Signature
