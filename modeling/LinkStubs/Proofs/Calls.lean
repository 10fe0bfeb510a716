import LinkStubs.Proofs.Declaration

/-!
The call on a line: its name and its parentheses. What stands behind the closing parenthesis makes
no difference to what is read. The first parenthesis of a line opens the call just where a name
stands before it; other lines are searched further on, and that parenthesis gets into the return
type.
-/

namespace LinkStubs.Signature

open LinkStubs.Identifier LinkStubs.Text

variable {s u : Split} {cs line more : List Char}

theorem Split.Divides.not_mem_name_blanks {c : Char} (h : s.Divides line)
    (hi : isIdentChar c = false) (hb : isBlank c = false) : c ∉ s.name ++ s.blanks := by
  rw [List.mem_append, not_or]
  refine ⟨h.name.not_mem hi, fun hm => ?_⟩
  simp [h.blanks c hm] at hb

def Split.opened (s : Split) : List Char :=
  s.name ++ s.blanks ++ '(' :: s.params

theorem Split.text_eq_opened (s : Split) : s.text = s.result ++ s.opened ++ ')' :: s.rest := by
  simp [text, opened]

theorem Split.Divides.close_not_mem (h : s.Divides line) : ')' ∉ s.opened := by
  rw [opened, List.mem_append, List.mem_cons, not_or, not_or]
  exact ⟨h.not_mem_name_blanks (by decide) (by decide), by decide, fun hm => (h.params _ hm).1 rfl⟩

theorem Split.Divides.append (h : s.Divides line) (more : List Char) :
    Split.Divides { s with rest := s.rest ++ more } (line ++ more) where
  text_eq := by simp [← h.text_eq, Split.text]
  result_ne_nil := h.result_ne_nil
  result_line := h.result_line
  name := h.name
  blanks := h.blanks
  params := h.params

theorem Split.Divides.of_append (hs : s.Divides line) (hu : u.Divides (line ++ more))
    (hl : u.result.length ≤ s.result.length) :
    ∃ rest, u.rest = rest ++ more ∧ Split.Divides { u with rest } line := by
  have hresult : u.result <+: s.result ++ s.opened :=
    (List.prefix_of_prefix_length_le hu.result_starts
      (hs.result_starts.trans (List.prefix_append line more)) hl).trans (List.prefix_append _ _)
  have htext : u.result ++ u.opened ++ ')' :: u.rest =
      s.result ++ s.opened ++ ')' :: (s.rest ++ more) := by
    rw [← u.text_eq_opened, hu.text_eq, ← hs.text_eq, s.text_eq_opened, List.append_assoc,
      List.cons_append]
  obtain ⟨gap, hgap⟩ := cut_no_later hu.close_not_mem hresult htext
  have hshort : Split.text { u with rest := gap ++ s.rest } ++ more = line ++ more := by
    rw [← hu.text_eq]
    simp [text, hgap]
  exact ⟨gap ++ s.rest, by rw [hgap, List.append_assoc], List.append_cancel_right hshort,
    hu.result_ne_nil, hu.result_line, hu.name, hu.blanks, hu.params⟩

theorem Split.Shortest.append (h : s.Shortest line) (more : List Char) :
    Split.Shortest { s with rest := s.rest ++ more } (line ++ more) where
  toDivides := h.toDivides.append more
  minimal u hu := by
    by_contra hlt
    obtain ⟨rest, -, hdivides⟩ := h.toDivides.of_append hu (Nat.le_of_not_le hlt)
    exact hlt (h.minimal { u with rest } hdivides)

/-- Two characters tell whether a line is a comment. -/
theorem skipped_of_append (hl : 2 ≤ line.length) (h : Skipped (line ++ more)) : Skipped line := by
  have hstart : ∀ mark : List Char, mark.length ≤ 2 → mark <+: line ++ more → mark <+: line :=
    fun mark hm hp =>
      List.prefix_of_prefix_length_le hp (List.prefix_append line more) (hm.trans hl)
  rcases h with h | h | h
  · exact Or.inl (List.append_eq_nil_iff.mp h).1
  · exact Or.inr (Or.inl (hstart _ (by decide) h))
  · exact Or.inr (Or.inr (hstart _ (by decide) h))

theorem Split.Divides.two_le_length (h : s.Divides line) : 2 ≤ line.length := by
  rw [← h.text_eq, Split.text]
  have := h.name.two_le_length
  simp only [List.length_append]
  omega

/-- Whatever follows a line that declares a signature, it declares the same. -/
theorem readLine_append {line : String} {position : Position} {s : Signature}
    (h : readLine line position = .ok (some s)) (suffix : String) :
    readLine (line ++ suffix) position = .ok (some s) := by
  obtain ⟨hk, u, hu, hf, rfl⟩ := division_of_readLine h
  have hne : trim line.toList ≠ [] := fun hn => hk (Or.inl hn)
  obtain ⟨more, hmore⟩ := trim_append hne suffix.toList
  have htext : trim (line ++ suffix).toList = trim line.toList ++ more := by
    rw [String.toList_append, hmore]
  have hkept : ¬ Skipped (trim (line ++ suffix).toList) := by
    rw [htext]
    exact fun hs => hk (skipped_of_append hu.two_le_length hs)
  have hlonger := hu.append more
  rw [← htext] at hlonger
  exact (readLine_forwardable position hkept hlonger hf :)

/-- More parentheses behind a call do not help a name that is too short for one. -/
theorem readLine_append_of_later_call :
    readLine "int *f(Foo (int (*p)" .start =
        .ok (some ⟨"int *f(", "Foo", ["int (*p"], none⟩) ∧
      readLine "int *f(Foo (int (*p)))\n int bar(void)" .start =
        .ok (some ⟨"int *f(", "Foo", ["int (*p"], none⟩) := by
  have h : readLine "int *f(Foo (int (*p)" .start =
      .ok (some ⟨"int *f(", "Foo", ["int (*p"], none⟩) := by rfl
  exact ⟨h, readLine_append h "))\n int bar(void)"⟩

/-- The text of a line before its first parenthesis. -/
def beforeCall (line : List Char) : List Char :=
  line.takeWhile (· != '(')

/-- A text ends in a name, up to blanks, and has something in front of it. -/
def EndsInName (cs name : List Char) : Prop :=
  ∃ result blanks, result ≠ [] ∧ IsName name ∧ (∀ c ∈ blanks, isBlank c = true) ∧
    cs = result ++ name ++ blanks

/-- A part at the front of a line that holds a parenthesis holds the first of the line. -/
theorem beforeCall_starts (hp : cs <+: line) (h : '(' ∈ cs) : beforeCall line ++ ['('] <+: cs := by
  obtain ⟨before, behind, rfl, hb⟩ := List.eq_append_cons_of_mem h
  obtain ⟨rest, rfl⟩ := hp
  rw [List.append_assoc, List.cons_append, beforeCall, takeWhile_ne_append_cons hb]
  exact ⟨behind, by simp⟩

/-- Only a parenthesis in the return type can come before that of the call. -/
theorem Split.Divides.beforeCall_eq (h : s.Divides line) (hr : '(' ∉ s.result) :
    beforeCall line = s.result ++ s.name ++ s.blanks := by
  have hopen : '(' ∉ s.result ++ s.name ++ s.blanks := by
    rw [List.append_assoc, List.mem_append, not_or]
    exact ⟨hr, h.not_mem_name_blanks (by decide) (by decide)⟩
  rw [← takeWhile_ne_append_cons hopen (s.params ++ ')' :: s.rest), ← h.text_eq, beforeCall,
    Split.text, List.append_assoc _ ('(' :: s.params), List.cons_append]

theorem Split.Divides.endsInName (h : s.Divides line) (hr : '(' ∉ s.result) :
    EndsInName (beforeCall line) s.name :=
  ⟨s.result, s.blanks, h.result_ne_nil, h.name, h.blanks, h.beforeCall_eq hr⟩

theorem trimEnd_name_blanks {result name blanks : List Char} (hn : IsName name)
    (hb : ∀ c ∈ blanks, isBlank c = true) :
    trimEnd (result ++ name ++ blanks) = result ++ name := by
  have hlast : ∀ c ∈ (result ++ name).reverse.head?, isBlank c = false := by
    intro c hc
    rw [List.head?_reverse, List.getLast?_append, Option.mem_def, Option.or_eq_some_iff] at hc
    rcases hc with hc | ⟨hc, -⟩
    · exact not_blank_of_identChar (hn.identChar c (List.mem_of_getLast? hc))
    · have := hn.two_le_length
      simp [List.getLast?_eq_none_iff.mp hc] at this
  rw [trimEnd, List.reverse_append, dropWhile_blanks _ _ (by simpa using hb) hlast,
    List.reverse_reverse]

/-- The text before the call can be divided elsewhere only by moving the start of the name. -/
theorem Split.Divides.of_beforeCall {result name blanks : List Char} (h : s.Divides line)
    (hr : '(' ∉ s.result) (hne : result ≠ []) (hn : IsName name)
    (hb : ∀ c ∈ blanks, isBlank c = true) (he : beforeCall line = result ++ name ++ blanks) :
    result ++ name = s.result ++ s.name ∧
      Split.Divides ⟨result, name, blanks, s.params, s.rest⟩ line := by
  have hbefore := h.beforeCall_eq hr
  have htrim : result ++ name = s.result ++ s.name := by
    rw [← trimEnd_name_blanks hn hb, ← he, hbefore, trimEnd_name_blanks h.name h.blanks]
  have hline : '\n' ∉ result ++ name := by
    rw [htrim, List.mem_append, not_or]
    exact ⟨h.result_line, h.name.not_mem (by decide)⟩
  refine ⟨htrim, ?_, hne, fun hm => hline (List.mem_append_left name hm), hn, hb, h.params⟩
  rw [← h.text_eq, Split.text, Split.text, ← he, hbefore]

/-- Of the names before the first parenthesis, the longest is taken. -/
theorem Split.Shortest.name_longest (h : s.Shortest line) (hr : '(' ∉ s.result)
    {name : List Char} (hn : EndsInName (beforeCall line) name) : name <:+ s.name := by
  obtain ⟨result, blanks, hne, hname, hb, he⟩ := hn
  obtain ⟨htrim, hdivides⟩ := h.toDivides.of_beforeCall hr hne hname hb he
  have hle : s.result.length ≤ result.length := h.minimal _ hdivides
  have hlength := congrArg List.length htrim
  rw [List.length_append, List.length_append] at hlength
  exact List.suffix_of_suffix_length_le (htrim ▸ List.suffix_append result name)
    (List.suffix_append s.result s.name) (by omega)

/-- A parenthesis gets into the return type only where no name stands before it. -/
theorem Split.Shortest.not_endsInName (h : s.Shortest line) (hline : '\n' ∉ line)
    (hr : '(' ∈ s.result) (name : List Char) : ¬ EndsInName (beforeCall line) name := by
  rintro ⟨result, blanks, hne, hname, hb, he⟩
  apply h.noCall hline result name blanks hne hname hb
  rw [← List.append_assoc, ← he]
  exact beforeCall_starts h.result_starts hr

/-- The first parenthesis of a line opens the call where a name stands before it, of which names the
longest is taken; elsewhere it is a part of the return type. -/
theorem readLine_first_call {line : String} {position : Position} {s : Signature}
    (hline : '\n' ∉ line.toList) (h : readLine line position = .ok (some s)) :
    ('(' ∉ s.returnType.toList ↔ ∃ name, EndsInName (beforeCall (trim line.toList)) name) ∧
    ('(' ∉ s.returnType.toList →
      EndsInName (beforeCall (trim line.toList)) s.name.toList ∧
      ∀ name, EndsInName (beforeCall (trim line.toList)) name → name <:+ s.name.toList) ∧
    ('(' ∈ s.returnType.toList →
      beforeCall (trim line.toList) ++ ['('] <+: s.returnType.toList) := by
  obtain ⟨-, u, hu, -, rfl⟩ := division_of_readLine h
  have hnl : '\n' ∉ trim line.toList := fun hm => hline (mem_of_mem_trim hm)
  have hparen : '(' ∈ trim u.result ↔ '(' ∈ u.result :=
    ⟨mem_of_mem_trim, fun hm => mem_trim hm (by decide)⟩
  have hstarts := (hu.trim_result_starts (trimmed_trim _)).trans hu.result_starts
  simp only [String.toList_ofList]
  refine ⟨⟨fun hr => ?_, ?_⟩, fun hr => ?_, beforeCall_starts hstarts⟩
  · rw [hparen] at hr
    exact ⟨u.name, hu.endsInName hr⟩
  · rintro ⟨name, hn⟩ hr
    exact hu.not_endsInName hnl (hparen.mp hr) name hn
  · rw [hparen] at hr
    exact ⟨hu.endsInName hr, fun name hn => hu.name_longest hr hn⟩

/-- Parentheses behind the first make no difference where a name stands before it. -/
theorem readLine_first_call_of_callback :
    ('\n' ∉ "int on_2 (int (*cb)(void))".toList ∧
      readLine "int on_2 (int (*cb)(void))" .start =
        .ok (some ⟨"int", "on_2", ["int (*cb"], none⟩)) ∧
      '(' ∉ "int".toList ∧
      EndsInName (beforeCall (trim "int on_2 (int (*cb)(void))".toList)) "on_2".toList ∧
      ∀ name, EndsInName (beforeCall (trim "int on_2 (int (*cb)(void))".toList)) name →
        name <:+ "on_2".toList := by
  have hline : '\n' ∉ "int on_2 (int (*cb)(void))".toList := by decide
  have h : readLine "int on_2 (int (*cb)(void))" .start =
      .ok (some ⟨"int", "on_2", ["int (*cb"], none⟩) := by rfl
  have hresult : '(' ∉ "int".toList := by decide
  exact ⟨⟨hline, h⟩, hresult, (readLine_first_call hline h).2.1 hresult⟩

/-- A name that is too short is refused, but text behind its parameters makes a function of the
attribute. -/
theorem first_call_of_short_name :
    readLine "int f(int x)" .start = .error (.unparsable .start "int f(int x)") ∧
      '\n' ∉ "int f(int x) __attribute__((deprecated))".toList ∧
      beforeCall (trim "int f(int x) __attribute__((deprecated))".toList) =
        ['i', 'n', 't', ' ', 'f'] ∧
      readLine "int f(int x) __attribute__((deprecated))" .start =
        .ok (some ⟨"int f(int x)", "__attribute__", ["(deprecated"], none⟩) ∧
      '(' ∈ "int f(int x)".toList :=
  ⟨by rfl, by decide, by decide, by rfl, by decide⟩

end LinkStubs.Signature
