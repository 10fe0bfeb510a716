import LinkStubs.Proofs.Reading

/-!
Signatures written as lines. A signature that is written as one plain line is read back from it, and
what is read from any line is such a signature.
-/

namespace LinkStubs.Signature

open LinkStubs.Identifier LinkStubs.Text

def declaration (s : Signature) : String :=
  s.returnType ++ " " ++ s.name ++ "(" ++ s.joinedParams ++ ")"

/-- A text in which no name, other than at its start, stands before a parenthesis. -/
def NoCall (cs : List Char) : Prop :=
  ∀ result name blanks : List Char, result ≠ [] → IsName name →
    (∀ c ∈ blanks, isBlank c = true) → ¬ (result ++ (name ++ blanks) ++ ['(']) <+: cs

/-- Only blanks come after the first blank behind a name. -/
theorem name_blanks_ne {name blanks before after : List Char} {b c : Char}
    (hn : ∀ d ∈ name, isIdentChar d = true) (hb : ∀ d ∈ blanks, isBlank d = true)
    (hblank : isBlank b = true) (hident : isIdentChar c = true) :
    name ++ blanks ≠ before ++ b :: c :: after := by
  intro he
  have hc : c ∉ blanks := fun hm => by
    have := hb c hm
    simp [not_blank_of_identChar hident] at this
  rcases List.append_eq_append_iff.mp he with ⟨more, _, h⟩ | ⟨more, h, h'⟩
  · exact hc (by simp [h])
  · cases more with
    | nil =>
      have hall : blanks = b :: c :: after := h'.symm
      exact hc (by simp [hall])
    | cons d more =>
      have hm : b ∈ name := by simp [h, (List.cons.inj h').1]
      have := hn b hm
      simp [not_identChar_of_blank hblank] at this

/-- A declaration has no division within its return type. -/
theorem length_lt_of_divides {result name rest : List Char} {u : Split} (hc : NoCall result)
    (hn : IsName name) (hu : u.Divides (result ++ ' ' :: (name ++ '(' :: rest))) :
    result.length < u.result.length := by
  by_contra hlt
  have htext : u.result ++ (u.name ++ u.blanks ++ '(' :: (u.params ++ ')' :: u.rest)) =
      result ++ ' ' :: (name ++ '(' :: rest) := by
    rw [← hu.text_eq]
    simp [Split.text]
  obtain ⟨c, cs, hname, hstart, _, _⟩ := hn.cons
  have hident := isIdentChar_of_start hstart
  have hshort : ∃ more, result = u.result ++ more ∧
      u.name ++ u.blanks ++ '(' :: (u.params ++ ')' :: u.rest) =
        more ++ ' ' :: (name ++ '(' :: rest) := by
    rcases List.append_eq_append_iff.mp htext with ⟨more, h, h'⟩ | ⟨more, h, h'⟩
    · exact ⟨more, h, h'⟩
    · have hnil : more = [] := by
        have := congrArg List.length h
        rw [List.length_append] at this
        exact List.eq_nil_of_length_eq_zero (by omega)
      subst hnil
      exact ⟨[], by simpa using h.symm, by simpa using h'.symm⟩
  obtain ⟨more, hresult, hafter⟩ := hshort
  -- With a return type that is no longer than `result`, its parenthesis has nowhere to stand.
  rcases List.append_eq_append_iff.mp hafter with ⟨inner, h, h'⟩ | ⟨outer, h, h'⟩
  · -- The parenthesis of the division stands in the return type.
    cases inner with
    | nil => simp at h'
    | cons p inner =>
      obtain ⟨rfl, _⟩ := List.cons.inj h'
      apply hc u.result u.name u.blanks hu.result_ne_nil hu.name hu.blanks
      exact ⟨inner, by simp [hresult, h]⟩
  · -- It stands behind the blank and the first character of the name.
    cases outer with
    | nil => simp at h'
    | cons b outer =>
      obtain ⟨rfl, hbehind⟩ := List.cons.inj h'
      rw [hname] at hbehind
      cases outer with
      | nil =>
        obtain ⟨rfl, _⟩ := List.cons.inj hbehind
        exact absurd hident (by decide)
      | cons d outer =>
        obtain ⟨rfl, _⟩ := List.cons.inj hbehind
        exact name_blanks_ne hu.name.identChar hu.blanks (by decide) hident h

/-- A declaration divides where it was put together. -/
theorem shortest_declaration {result name params : List Char} (hr : '\n' ∉ result)
    (hc : NoCall result) (hn : IsName name) (hp : ∀ c ∈ params, c ≠ ')' ∧ c ≠ '\n') :
    Split.Shortest ⟨result ++ [' '], name, [], params, []⟩
      (result ++ ' ' :: (name ++ '(' :: (params ++ [')']))) where
  text_eq := by simp [Split.text]
  result_ne_nil := by simp
  result_line := by simp [hr]
  name := hn
  blanks := by simp
  params := hp
  minimal u hu := by
    have := length_lt_of_divides hc hn hu
    simp only [List.length_append, List.length_cons, List.length_nil]
    omega

/-- A signature that a line can declare as it stands. -/
structure Normal (s : Signature) : Prop where
  result_trimmed : Trimmed s.returnType.toList
  result_line : '\n' ∉ s.returnType.toList
  result_unskipped : ¬ Skipped s.returnType.toList
  result_noCall : NoCall s.returnType.toList
  name : IsName s.name.toList
  params_ne_nil : s.params ≠ []
  params_plain : ∀ p ∈ s.params,
    Trimmed p.toList ∧ ∀ c ∈ p.toList, c ≠ ',' ∧ c ≠ ')' ∧ c ≠ '\n'
  forwardable : Forwardable s.params

theorem toList_declaration (s : Signature) :
    s.declaration.toList = s.returnType.toList ++ ' ' ::
      (s.name.toList ++ '(' :: (s.joinedParams.toList ++ [')'])) := by
  simp [declaration]

/-- A comment does not begin with the blank behind a return type. -/
theorem not_skipped_append {result rest : List Char} (h : ¬ Skipped result) :
    ¬ Skipped (result ++ ' ' :: rest) := by
  intro hk
  cases result with
  | nil => exact h (Or.inl rfl)
  | cons c result =>
    rcases hk with hk | hk | hk
    · simp at hk
    · simp only [List.cons_append, List.cons_prefix_cons, List.nil_prefix, and_true] at hk
      exact h (Or.inr (Or.inl (by simpa using hk)))
    · cases result with
      | nil => simp [List.cons_prefix_cons] at hk
      | cons d result =>
        simp only [List.cons_append, List.cons_prefix_cons, List.nil_prefix, and_true] at hk
        exact h (Or.inr (Or.inr (by simpa [List.cons_prefix_cons] using hk)))

theorem trimmed_declaration {s : Signature} (h : s.Normal) : Trimmed s.declaration.toList := by
  rw [toList_declaration]
  refine ⟨?_, ?_⟩
  · intro c hc
    cases hr : s.returnType.toList with
    | nil => exact absurd (Or.inl hr) h.result_unskipped
    | cons d cs =>
      rw [hr] at hc
      apply h.result_trimmed.1
      rw [hr]
      exact hc
  · intro c hc
    rw [← List.cons_append, ← List.append_assoc, ← List.cons_append, ← List.append_assoc,
      List.getLast?_concat] at hc
    obtain rfl := Option.some.inj hc
    decide

theorem mem_intercalate {sep : List Char} {parts : List (List Char)} {c : Char}
    (h : c ∈ sep.intercalate parts) : c ∈ sep ∨ ∃ p ∈ parts, c ∈ p := by
  induction parts with
  | nil => simp at h
  | cons p parts ih =>
    cases parts with
    | nil => exact Or.inr ⟨p, List.mem_cons_self, by simpa using h⟩
    | cons q parts =>
      rw [List.intercalate_cons_cons, List.mem_append, List.mem_append] at h
      rcases h with (h | h) | h
      · exact Or.inr ⟨p, List.mem_cons_self, h⟩
      · exact Or.inl h
      · rcases ih h with hs | ⟨r, hr, hc⟩
        · exact Or.inl hs
        · exact Or.inr ⟨r, List.mem_cons_of_mem p hr, hc⟩

theorem toList_joinedParams (s : Signature) :
    s.joinedParams.toList = [',', ' '].intercalate (s.params.map String.toList) := by
  simp [joinedParams]

theorem Normal.joinedParams_chars {s : Signature} (h : s.Normal) :
    ∀ c ∈ s.joinedParams.toList, c ≠ ')' ∧ c ≠ '\n' := by
  intro c hc
  rw [toList_joinedParams] at hc
  rcases mem_intercalate hc with hs | ⟨p, hp, hc⟩
  · simp at hs
    rcases hs with rfl | rfl <;> decide
  · obtain ⟨q, hq, rfl⟩ := List.mem_map.mp hp
    exact ((h.params_plain q hq).2 c hc).2

theorem Normal.parameters_joined {s : Signature} (h : s.Normal) (u : Split)
    (hu : u.params = s.joinedParams.toList) : u.parameters = s.params := by
  have hcut : ∀ p ∈ s.params.map String.toList, ∀ c ∈ p, (c == ',') = false := by
    intro p hp c hc
    obtain ⟨q, hq, rfl⟩ := List.mem_map.mp hp
    simpa using ((h.params_plain q hq).2 c hc).1
  have hpieces := trim_pieces_intercalate (· == ',') ',' ' ' (by decide) (by decide) (by decide)
    (by simpa using h.params_ne_nil) hcut
  calc u.parameters
      = ((pieces (· == ',') u.params).map trim).map String.ofList := by
        simp [Split.parameters, Function.comp_def]
    _ = ((s.params.map String.toList).map trim).map String.ofList := by
        rw [hu, toList_joinedParams, hpieces]
    _ = s.params.map id := by
        rw [List.map_map, List.map_map]
        apply List.map_congr_left
        intro p hp
        simp [(h.params_plain p hp).1.trim_eq]
    _ = s.params := List.map_id _

theorem readLine_declaration {s : Signature} (h : s.Normal) (position : Position) :
    readLine s.declaration position = .ok (some { s with exportMark := none }) := by
  have htrim : trim s.declaration.toList = s.returnType.toList ++ ' ' ::
      (s.name.toList ++ '(' :: (s.joinedParams.toList ++ [')'])) := by
    rw [(trimmed_declaration h).trim_eq, toList_declaration]
  have hk : ¬ Skipped (trim s.declaration.toList) := by
    rw [htrim]
    exact not_skipped_append h.result_unskipped
  have hshort := shortest_declaration h.result_line h.result_noCall h.name h.joinedParams_chars
  have hparams := h.parameters_joined
    ⟨s.returnType.toList ++ [' '], s.name.toList, [], s.joinedParams.toList, []⟩ rfl
  have hresult : trim (s.returnType.toList ++ [' ']) = s.returnType.toList :=
    trim_surrounded [] _ [' '] (by simp)
      (List.forall_mem_singleton.mpr (by decide)) h.result_trimmed
  rw [readLine_forwardable position hk (htrim ▸ hshort) (hparams ▸ h.forwardable), hparams, hresult]
  simp

theorem NoCall.initial {cs ds : List Char} (h : NoCall ds) (hp : cs <+: ds) : NoCall cs :=
  fun result name blanks hne hn hb hpre => h result name blanks hne hn hb (hpre.trans hp)

/-- A call within the shortest return type would make a shorter one, since the line goes on to a
closing parenthesis without a newline. -/
theorem Split.Shortest.noCall {s : Split} {line : List Char} (h : s.Shortest line)
    (hline : '\n' ∉ line) : NoCall s.result := by
  intro result name blanks hne hn hb ⟨more, hmore⟩
  have htext : line = result ++ (name ++ blanks) ++ '(' ::
      (more ++ (s.name ++ (s.blanks ++ '(' :: (s.params ++ ')' :: s.rest)))) := by
    rw [← h.text_eq, Split.text, ← hmore]
    simp
  have hclose : ')' ∈ more ++ (s.name ++ (s.blanks ++ '(' :: (s.params ++ ')' :: s.rest))) := by
    simp
  -- The parameters of such a call go on to the first closing parenthesis there is.
  obtain ⟨params, rest, hbody, hparams⟩ := List.eq_append_cons_of_mem hclose
  rw [hbody] at htext
  have hdivides : Split.Divides ⟨result, name, blanks, params, rest⟩ line :=
    { text_eq := by simp [Split.text, htext]
      result_ne_nil := hne
      result_line := fun hm => hline (by simp [htext, hm])
      name := hn
      blanks := hb
      params := fun c hc => by
        refine ⟨?_, ?_⟩ <;> rintro rfl
        · exact hparams hc
        · exact hline (by simp [htext, hc]) }
  have hle := h.minimal _ hdivides
  simp only [← hmore, List.length_append, List.length_singleton] at hle
  omega

theorem Split.parameters_plain {s : Split} {line : List Char} (h : s.Divides line) :
    ∀ p ∈ s.parameters, Trimmed p.toList ∧ ∀ c ∈ p.toList, c ≠ ',' ∧ c ≠ ')' ∧ c ≠ '\n' := by
  intro p hp
  obtain ⟨piece, hpiece, rfl⟩ := List.mem_map.mp hp
  simp only [String.toList_ofList]
  refine ⟨trimmed_trim piece, fun c hc => ⟨?_, h.params c ?_⟩⟩
  · simpa using uncut_of_mem_pieces hpiece c (mem_of_mem_trim hc)
  · exact (sublist_of_mem_pieces hpiece).subset (mem_of_mem_trim hc)

theorem normal_of_readLine {line : String} {position : Position} {s : Signature}
    (hline : '\n' ∉ line.toList) (h : readLine line position = .ok (some s)) :
    s.Normal ∧ s.exportMark = none := by
  obtain ⟨hk, u, hu, hf, rfl⟩ := division_of_readLine h
  refine ⟨?_, rfl⟩
  have ht := trimmed_trim line.toList
  have hres := hu.result_starts
  have hpre := hu.trim_result_starts ht
  have hnl : '\n' ∉ trim line.toList := fun hm => hline (mem_of_mem_trim hm)
  exact
    { result_trimmed := by simpa using trimmed_trim u.result
      result_line := by simpa using fun hm => hu.result_line (mem_of_mem_trim hm)
      result_unskipped := by
        rw [String.toList_ofList]
        rintro (hs | hs | hs)
        · exact hu.trim_result_ne_nil ht hs
        · exact hk (Or.inr (Or.inl ((hs.trans hpre).trans hres)))
        · exact hk (Or.inr (Or.inr ((hs.trans hpre).trans hres)))
      result_noCall := by
        rw [String.toList_ofList]
        exact (hu.noCall hnl).initial hpre
      name := by simpa using hu.name
      params_ne_nil := by simp [Split.parameters, pieces_ne_nil]
      params_plain := Split.parameters_plain hu.toDivides
      forwardable := hf }

/-- What one line is read as is read again from its own declaration, whatever else the line held. -/
theorem readLine_declaration_of_readLine {line : String} {position : Position} {s : Signature}
    (hline : '\n' ∉ line.toList) (h : readLine line position = .ok (some s)) (other : Position) :
    readLine s.declaration other = .ok (some s) := by
  obtain ⟨hnormal, hmark⟩ := normal_of_readLine hline h
  rw [readLine_declaration hnormal other, ← hmark]

/-- The return type takes the first letter of a name that stands alone. -/
theorem readLine_declaration_of_lone_name :
    readLine " Foo\t(int (a, char b[]) f2(x)" .start =
        .ok (some ⟨"F", "oo", ["int (a", "char b[]"], none⟩) ∧
      readLine "F oo(int (a, char b[])" ⟨7, 1⟩ =
        .ok (some ⟨"F", "oo", ["int (a", "char b[]"], none⟩) := by
  have h : readLine " Foo\t(int (a, char b[]) f2(x)" .start =
      .ok (some ⟨"F", "oo", ["int (a", "char b[]"], none⟩) := by rfl
  exact ⟨h, readLine_declaration_of_readLine (by decide) h ⟨7, 1⟩⟩

/-- A signature that can be told from its declaration: no return type that hides a call or begins a
comment, and no parameter that runs into the next. -/
structure Plain (s : Signature) : Prop where
  result_ne : s.returnType ≠ ""
  result_trim : trim s.returnType.toList = s.returnType.toList
  result_chars : '\n' ∉ s.returnType.toList ∧ '(' ∉ s.returnType.toList
  result_start : ¬ ['#'] <+: s.returnType.toList ∧ ¬ ['/', '/'] <+: s.returnType.toList
  name : IsName s.name.toList
  params_ne_nil : s.params ≠ []
  params_trim : ∀ p ∈ s.params, trim p.toList = p.toList
  params_chars : ∀ p ∈ s.params, ',' ∉ p.toList ∧ ')' ∉ p.toList ∧ '\n' ∉ p.toList
  forwardable : Forwardable s.params

instance Plain.decidable (s : Signature) : Decidable s.Plain :=
  decidable_of_iff
    (s.returnType ≠ "" ∧ trim s.returnType.toList = s.returnType.toList ∧
      ('\n' ∉ s.returnType.toList ∧ '(' ∉ s.returnType.toList) ∧
      (¬ ['#'] <+: s.returnType.toList ∧ ¬ ['/', '/'] <+: s.returnType.toList) ∧
      IsName s.name.toList ∧ s.params ≠ [] ∧ (∀ p ∈ s.params, trim p.toList = p.toList) ∧
      (∀ p ∈ s.params, ',' ∉ p.toList ∧ ')' ∉ p.toList ∧ '\n' ∉ p.toList) ∧ Forwardable s.params)
    ⟨fun ⟨h₁, h₂, h₃, h₄, h₅, h₆, h₇, h₈, h₉⟩ => ⟨h₁, h₂, h₃, h₄, h₅, h₆, h₇, h₈, h₉⟩,
      fun ⟨h₁, h₂, h₃, h₄, h₅, h₆, h₇, h₈, h₉⟩ => ⟨h₁, h₂, h₃, h₄, h₅, h₆, h₇, h₈, h₉⟩⟩

theorem noCall_of_not_mem {cs : List Char} (h : '(' ∉ cs) : NoCall cs := by
  intro result name blanks _ _ _ ⟨more, hmore⟩
  exact h (by simp [← hmore])

theorem Plain.normal {s : Signature} (h : s.Plain) : s.Normal where
  result_trimmed := trimmed_iff.mpr h.result_trim
  result_line := h.result_chars.1
  result_unskipped := by
    rintro (hk | hk | hk)
    · exact h.result_ne (String.toList_eq_nil_iff.mp hk)
    · exact h.result_start.1 hk
    · exact h.result_start.2 hk
  result_noCall := noCall_of_not_mem h.result_chars.2
  name := h.name
  params_ne_nil := h.params_ne_nil
  params_plain p hp := by
    obtain ⟨hcomma, hparen, hline⟩ := h.params_chars p hp
    refine ⟨trimmed_iff.mpr (h.params_trim p hp), fun c hc => ⟨?_, ?_, ?_⟩⟩ <;> rintro rfl
    · exact hcomma hc
    · exact hparen hc
    · exact hline hc
  forwardable := h.forwardable

theorem readLines_declarations {ss : List Signature} (h : ∀ s ∈ ss, s.Normal)
    (position : Position) :
    readLines position (ss.map (fun s => s.declaration.toList)) =
      .ok (ss.map (fun s => { s with exportMark := none })) := by
  induction ss generalizing position with
  | nil => rfl
  | cons s ss ih =>
    have hs := readLine_declaration (h s List.mem_cons_self) position
    have hss := ih (fun t ht => h t (List.mem_cons_of_mem s ht)) position.nextLine
    simp only [List.map_cons, readLines, String.ofList_toList, hs, hss]
    rfl

theorem declaration_line {s : Signature} (h : s.Normal) :
    '\n' ∉ s.declaration.toList ∧ s.declaration.toList.getLast? ≠ some '\r' := by
  refine ⟨?_, ?_⟩
  · have hname : '\n' ∉ s.name.toList := h.name.not_mem (by decide)
    have hparams : '\n' ∉ s.joinedParams.toList := fun hm =>
      (h.joinedParams_chars _ hm).2 rfl
    simp [toList_declaration, h.result_line, hname, hparams]
  · intro hlast
    exact absurd ((trimmed_declaration h).2 '\r' hlast) (by decide)

/-- Plain signatures, written one to a line, are read back in order; their annotations are not
written. -/
theorem readSource_declarations (ss : List Signature) (h : ∀ s ∈ ss, s.Plain) :
    readSource (unlines (ss.map declaration)) =
      .ok (ss.map (fun s => { s with exportMark := none })) := by
  have hnormal : ∀ s ∈ ss, s.Normal := fun s hs => (h s hs).normal
  have hlines : ∀ l ∈ ss.map declaration,
      '\n' ∉ l.toList ∧ l.toList.getLast? ≠ some '\r' := by
    intro l hl
    obtain ⟨s, hs, rfl⟩ := List.mem_map.mp hl
    exact declaration_line (hnormal s hs)
  rw [readSource, lines_unlines hlines, List.map_map]
  exact readLines_declarations hnormal .start

/-- Brackets, carriage returns and open parentheses are kept as they are. -/
theorem readSource_two_declarations :
    (∀ s ∈ [(⟨"const\rchar *[", "av_log", ["int (*f", "char\u00a0b[]", "..."], some "X"⟩ : Signature),
        ⟨"void", "_2", [""], none⟩], s.Plain) ∧
      readSource (unlines
        ["const\rchar *[ av_log(int (*f, char\u00a0b[], ...)", "void _2()"]) =
          .ok [⟨"const\rchar *[", "av_log", ["int (*f", "char\u00a0b[]", "..."], none⟩,
            ⟨"void", "_2", [""], none⟩] := by
  have h : ∀ s ∈ [(⟨"const\rchar *[", "av_log", ["int (*f", "char\u00a0b[]", "..."], some "X"⟩ :
      Signature), ⟨"void", "_2", [""], none⟩], s.Plain := by decide
  have htext : [(⟨"const\rchar *[", "av_log", ["int (*f", "char\u00a0b[]", "..."], some "X"⟩ :
      Signature), ⟨"void", "_2", [""], none⟩].map declaration =
        ["const\rchar *[ av_log(int (*f, char\u00a0b[], ...)", "void _2()"] := by decide
  have hread := readSource_declarations _ h
  rw [htext] at hread
  exact ⟨h, hread⟩

end LinkStubs.Signature
