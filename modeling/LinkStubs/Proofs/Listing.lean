import LinkStubs.Proofs.Appending

/-!
Emitted text as a listing: its rows, what stands on the rows of one form, and the condition that a
function checks, with its operands. These readings know nothing of how the text was put together.
-/

namespace LinkStubs

def Section.rows (s : Section) : List String :=
  (Text.lines s.text.toList).map String.ofList

/-- Sections that are written one after the other are the text of all their lines. -/
theorem Section.text_renderAll (sections : List Section) (w : Writer) :
    (Section.renderAll sections w).text =
      w.text ++ Text.unlines (sections.flatMap Section.lines) := by
  rw [(Section.appended_renderAll sections w).text, Text.unlines_flatMap]
  rfl

namespace Listing

open LinkStubs.Text

def startsWith (front row : String) : Bool :=
  front.toList.isPrefixOf row.toList

def endsIn (back row : String) : Bool :=
  back.toList.isSuffixOf row.toList

/-- What stands on a row between a fixed front and a fixed end. -/
def framed? (front back row : String) : Option String :=
  let rest := row.toList.drop front.toList.length
  let middle := String.ofList (rest.take (rest.length - back.toList.length))
  if row = front ++ middle ++ back then some middle else none

/-- What the rows of one form hold, in order. -/
def entries (front back : String) (rows : List String) : List String :=
  rows.filterMap (framed? front back)

/-- The rows up to the first that `stop` marks, with it. -/
def through (stop : String → Bool) : List String → List String
  | [] => []
  | row :: rows => if stop row then [row] else row :: through stop rows

/-- The front of an `if` of a function's outermost block. -/
def ifFront : String := "  if ("

def ifBack : String := Emit.opening ")"

/-- The head of the first `if` of a function's outermost block, row by row. -/
def ifHead (rows : List String) : List String :=
  through (endsIn ifBack) (rows.dropWhile (fun row => !startsWith ifFront row))

/-- The condition of that `if`. -/
def condition? (rows : List String) : Option String :=
  framed? ifFront (ifBack ++ "\n") (unlines (ifHead rows))

/-- The pieces of a text at every `op`; blanks behind an `op` belong to no piece. -/
def operandChars (op : List Char) : List Char → List (List Char)
  | [] => [[]]
  | c :: cs =>
    if op.isPrefixOf (c :: cs) then
      [] :: operandChars op ((cs.drop (op.length - 1)).dropWhile isBlank)
    else
      match operandChars op cs with
      | [] => [[c]]
      | p :: ps => (c :: p) :: ps
termination_by cs => cs.length
decreasing_by
  · have := List.length_dropWhile_le isBlank (cs.drop (op.length - 1))
    simp only [List.length_drop, List.length_cons] at this ⊢
    omega
  · simp

/-- The operands of a condition at an operator. -/
def operands (op condition : String) : List String :=
  (operandChars op.toList condition.toList).map String.ofList

def OneLine (text : String) : Prop :=
  '\n' ∉ text.toList ∧ text.toList.getLast? ≠ some '\r'

instance OneLine.decidable (text : String) : Decidable (OneLine text) :=
  inferInstanceAs (Decidable (_ ∧ _))

/-- A literal is told by the characters it is written with. -/
theorem OneLine.of_literal {cs : List Char} (h : '\n' ∉ cs ∧ cs.getLast? ≠ some '\r') :
    OneLine (String.ofList cs) := by
  rwa [OneLine, String.toList_ofList]

theorem OneLine.append {a b : String} (ha : '\n' ∉ a.toList) (hb : OneLine b) (hne : b ≠ "") :
    OneLine (a ++ b) := by
  refine ⟨?_, ?_⟩
  · rw [String.toList_append, List.mem_append, not_or]
    exact ⟨ha, hb.1⟩
  · rw [String.toList_append, List.getLast?_append]
    cases hl : b.toList.getLast? with
    | none => exact absurd (String.toList_eq_nil_iff.mp (List.getLast?_eq_none_iff.mp hl)) hne
    | some c =>
      rw [Option.some_or, ← hl]
      exact hb.2

/-- The rows of a text. -/
def rowsOf (text : String) : List String :=
  (lines text.toList).map String.ofList

theorem rowsOf_unlines {ls : List String} (h : ∀ l ∈ ls, OneLine l) : rowsOf (unlines ls) = ls := by
  rw [rowsOf, lines_unlines h, List.map_map]
  simp [Function.comp_def]

theorem rowsOf_unlines_append (ls ks : List String) :
    rowsOf (unlines (ls ++ ks)) = rowsOf (unlines ls) ++ rowsOf (unlines ks) := by
  rw [rowsOf, lines_unlines_append, List.map_append, rowsOf, rowsOf]

theorem rowsOf_unlines_flatMap {α : Type} (f : α → List String) (xs : List α) :
    rowsOf (unlines (xs.flatMap f)) = xs.flatMap (fun x => rowsOf (unlines (f x))) := by
  induction xs with
  | nil => rfl
  | cons x xs ih => rw [List.flatMap_cons, rowsOf_unlines_append, ih, List.flatMap_cons]

theorem rows_of_text {s : Section} {ls : List String} (ht : s.text = unlines ls)
    (h : ∀ l ∈ ls, OneLine l) : s.rows = ls := by
  rw [← rowsOf_unlines h, ← ht]
  rfl

/-- A file that is put together from sections has the rows of each in turn, whatever the texts in
it hold. -/
theorem rowsOf_renderAll (sections : List Section) :
    rowsOf (Section.renderAll sections {}).text = sections.flatMap Section.rows := by
  rw [Section.text_renderAll, String.empty_append, rowsOf_unlines_flatMap]
  rfl

theorem rowsOf_header (u : StubUnit) (settings : Settings) :
    rowsOf (StubPair.ofUnit u settings).header =
      (u.headerSections settings).flatMap Section.rows :=
  rowsOf_renderAll _

theorem rowsOf_implementation (u : StubUnit) (settings : Settings) :
    rowsOf (StubPair.ofUnit u settings).implementation =
      (u.implementationSections settings).flatMap Section.rows :=
  rowsOf_renderAll _

theorem startsWith_iff {front row : String} :
    startsWith front row = true ↔ front.toList <+: row.toList :=
  List.isPrefixOf_iff_prefix

theorem endsIn_iff {back row : String} : endsIn back row = true ↔ back.toList <:+ row.toList :=
  List.isSuffixOf_iff_suffix

/-- A long enough end decides how a text ends. -/
theorem endsIn_append {back b : String} (h : back.toList.length ≤ b.toList.length) (a : String) :
    endsIn back (a ++ b) = endsIn back b := by
  rw [Bool.eq_iff_iff, endsIn_iff, endsIn_iff, String.toList_append]
  constructor
  · exact fun hs => List.suffix_of_suffix_length_le hs (List.suffix_append _ _) h
  · exact fun hs => hs.trans (List.suffix_append _ _)

/-- Ends that no text has both of. -/
def Apart (back other : String) : Prop :=
  endsIn back other = false ∧ endsIn other back = false

instance Apart.decidable (back other : String) : Decidable (Apart back other) :=
  inferInstanceAs (Decidable (_ ∧ _))

theorem Apart.endsIn_append {back b : String} (h : Apart back b) (a : String) :
    endsIn back (a ++ b) = false := by
  cases he : endsIn back (a ++ b) with
  | false => rfl
  | true =>
    obtain ⟨hback, hb⟩ := h
    rw [endsIn_iff, String.toList_append] at he
    rcases List.suffix_or_suffix_of_suffix he (List.suffix_append _ _) with hs | hs
    · rw [endsIn_iff.mpr hs] at hback
      cases hback
    · rw [endsIn_iff.mpr hs] at hb
      cases hb

theorem framed?_eq_some_iff {front back row x : String} :
    framed? front back row = some x ↔ row = front ++ x ++ back := by
  constructor
  · intro h
    simp only [framed?] at h
    split at h
    · rename_i he
      rwa [← Option.some.inj h]
    · cases h
  · rintro rfl
    simp [framed?]

@[simp] theorem framed?_frame (front x back : String) :
    framed? front back (front ++ x ++ back) = some x :=
  framed?_eq_some_iff.mpr rfl

/-- A row that ends otherwise is not of the form. -/
theorem framed?_of_not_endsIn {back row : String} (h : endsIn back row = false) (front : String) :
    framed? front back row = none := by
  cases hf : framed? front back row with
  | none => rfl
  | some x =>
    have he : endsIn back row = true := by
      rw [framed?_eq_some_iff.mp hf, endsIn_append (Nat.le_refl _)]
      exact endsIn_iff.mpr List.suffix_rfl
    rw [h] at he
    cases he

theorem framed?_of_end {front back a b : String} (h : Apart back b) :
    framed? front back (a ++ b) = none :=
  framed?_of_not_endsIn (h.endsIn_append a) front

theorem framed?_of_start {front back row : String} (h : startsWith front row = false) :
    framed? front back row = none := by
  cases hf : framed? front back row with
  | none => rfl
  | some x =>
    have hs : startsWith front row = true := by
      rw [framed?_eq_some_iff.mp hf]
      exact startsWith_iff.mpr (by simp)
    rw [h] at hs
    cases hs

theorem entries_append (front back : String) (rows more : List String) :
    entries front back (rows ++ more) = entries front back rows ++ entries front back more :=
  List.filterMap_append

theorem entries_cons_frame (front x back : String) (rows : List String) :
    entries front back ((front ++ x ++ back) :: rows) = x :: entries front back rows :=
  List.filterMap_cons_some (framed?_frame front x back)

theorem entries_cons_of_none {front back row : String} (h : framed? front back row = none)
    (rows : List String) : entries front back (row :: rows) = entries front back rows :=
  List.filterMap_cons_none h

theorem entries_cons_of_end {front back a b : String} (h : Apart back b) (rows : List String) :
    entries front back ((a ++ b) :: rows) = entries front back rows :=
  entries_cons_of_none (framed?_of_end h) rows

/-- The head of an `if` with some terms, one to a row. -/
def headRows (op front : String) : List String → List String
  | [] => [front ++ ifBack]
  | [term] => [front ++ term ++ ifBack]
  | term :: terms => (front ++ term ++ op) :: headRows op "      " terms

/-- Rows of terms are the text of the terms joined over line breaks. -/
theorem unlines_headRows (op front : String) (terms : List String) :
    unlines (headRows op front terms) =
      front ++ (op ++ "\n      ").intercalate terms ++ ifBack ++ "\n" := by
  rw [← String.toList_inj]
  induction terms generalizing front with
  | nil => simp [headRows, unlines]
  | cons term terms ih =>
    cases terms with
    | nil => simp [headRows, unlines]
    | cons next terms =>
      have hnext := ih "      "
      simp only [unlines, String.toList_join, List.flatMap_map, String.toList_append,
        String.toList_intercalate, List.map_cons] at hnext
      simp only [headRows, unlines, String.toList_join, List.flatMap_map, List.flatMap_cons,
        String.toList_append, String.toList_intercalate, List.map_cons, hnext,
        List.intercalate_cons_cons]
      simp

/-- There is a row for each term, and one for the head where there is none. -/
theorem length_headRows (op front : String) (terms : List String) :
    (headRows op front terms).length = max 1 terms.length := by
  induction terms generalizing front with
  | nil => rfl
  | cons term terms ih =>
    cases terms with
    | nil => rfl
    | cons next terms =>
      have hrest := ih "      "
      simp only [headRows, List.length_cons] at hrest ⊢
      omega

theorem mem_headRows {op front row : String} {terms : List String}
    (h : row ∈ headRows op front terms) (hne : terms ≠ []) :
    ∃ start term back, row = start ++ term ++ back ∧ (start = front ∨ start = "      ") ∧
      term ∈ terms ∧ (back = op ∨ back = ifBack) := by
  induction terms generalizing front with
  | nil => contradiction
  | cons term terms ih =>
    cases terms with
    | nil =>
      obtain rfl : row = front ++ term ++ ifBack := by simpa [headRows] using h
      exact ⟨front, term, ifBack, rfl, Or.inl rfl, by simp, Or.inr rfl⟩
    | cons next terms =>
      rcases List.mem_cons.mp h with rfl | h
      · exact ⟨front, term, op, rfl, Or.inl rfl, by simp, Or.inl rfl⟩
      · obtain ⟨start, t, back, he, hs, ht, hb⟩ := ih h (by simp)
        refine ⟨start, t, back, he, ?_, List.mem_cons_of_mem _ ht, hb⟩
        exact Or.inr (hs.elim id id)

theorem headRows_oneLine {op front : String} (hop : OneLine op) (hne : op ≠ "")
    (hf : '\n' ∉ front.toList) {terms : List String} (hterms : terms ≠ [])
    (ht : ∀ t ∈ terms, '\n' ∉ t.toList) : ∀ row ∈ headRows op front terms, OneLine row := by
  intro row hrow
  obtain ⟨start, term, back, rfl, hs, hterm, hb⟩ := mem_headRows hrow hterms
  have hstart : '\n' ∉ start.toList := by
    rcases hs with rfl | rfl
    · exact hf
    · decide
  have hfront : '\n' ∉ (start ++ term).toList := by
    rw [String.toList_append, List.mem_append, not_or]
    exact ⟨hstart, ht term hterm⟩
  rcases hb with rfl | rfl
  · exact OneLine.append hfront hop hne
  · exact OneLine.append hfront (by decide) (by decide)

/-- A condition that is written as one text fills the rows of its head. -/
theorem unlines_condition (op : String) (terms before after : List String) :
    unlines (before
        ++ Emit.opening ("  if (" ++ (op ++ "\n      ").intercalate terms ++ ")") :: after) =
      unlines (before ++ (headRows op ifFront terms ++ after)) := by
  rw [unlines_append, unlines_append, unlines_append, unlines_headRows, ← String.toList_inj]
  simp [unlines, Emit.opening, ifFront, ifBack]

theorem headRows_start (op front : String) (terms : List String) :
    ∃ rest more, headRows op front terms = (front ++ rest) :: more := by
  match terms with
  | [] => exact ⟨ifBack, [], rfl⟩
  | [term] => exact ⟨term ++ ifBack, [], by rw [headRows, String.append_assoc]⟩
  | term :: next :: terms =>
    exact ⟨term ++ op, headRows op "      " (next :: terms), by
      rw [headRows, String.append_assoc]
      simp⟩

theorem through_headRows {op : String} (hl : ifBack.toList.length ≤ op.toList.length)
    (hop : endsIn ifBack op = false) (front : String) (terms after : List String) :
    through (endsIn ifBack) (headRows op front terms ++ after) = headRows op front terms := by
  have hlast : ∀ text : String, endsIn ifBack (text ++ ifBack) = true := fun text => by
    rw [endsIn_append (Nat.le_refl _)]
    decide
  induction terms generalizing front with
  | nil => simp [headRows, through, hlast]
  | cons term terms ih =>
    cases terms with
    | nil => simp [headRows, through, hlast]
    | cons next terms =>
      have hrow : endsIn ifBack (front ++ term ++ op) = false := by rw [endsIn_append hl, hop]
      simp only [headRows, List.cons_append, through, hrow, Bool.false_eq_true, ↓reduceIte]
      rw [ih "      "]

/-- The first `if` of a listing is found where rows without one come first. -/
theorem ifHead_of_layout {op : String} (hl : ifBack.toList.length ≤ op.toList.length)
    (hop : endsIn ifBack op = false) {before : List String}
    (hb : ∀ row ∈ before, startsWith ifFront row = false) (terms after : List String) :
    ifHead (before ++ (headRows op ifFront terms ++ after)) = headRows op ifFront terms := by
  have hdrop : (before ++ (headRows op ifFront terms ++ after)).dropWhile
      (fun row => !startsWith ifFront row) = headRows op ifFront terms ++ after := by
    rw [List.dropWhile_append_of_pos (fun row hrow => by simp [hb row hrow])]
    obtain ⟨rest, more, he⟩ := headRows_start op ifFront terms
    have hs : startsWith ifFront (ifFront ++ rest) = true := startsWith_iff.mpr (by simp)
    rw [he, List.cons_append, List.dropWhile_cons_of_neg (by simp [hs])]
  rw [ifHead, hdrop, through_headRows hl hop]

theorem condition?_of_layout {op : String} (hl : ifBack.toList.length ≤ op.toList.length)
    (hop : endsIn ifBack op = false) {before : List String}
    (hb : ∀ row ∈ before, startsWith ifFront row = false) (terms after : List String) :
    condition? (before ++ (headRows op ifFront terms ++ after)) =
      some ((op ++ "\n      ").intercalate terms) := by
  rw [condition?, ifHead_of_layout hl hop hb, unlines_headRows, String.append_assoc, framed?_frame]

theorem operandChars_of_free {d : Char} {op piece : List Char} (h : ∀ c ∈ piece, c ≠ d) :
    operandChars (d :: op) piece = [piece] := by
  induction piece with
  | nil => rw [operandChars]
  | cons c piece ih =>
    have hc : (d :: op).isPrefixOf (c :: piece) = false := by
      simp [List.isPrefixOf, Ne.symm (h c List.mem_cons_self)]
    rw [operandChars, hc, ih (fun e he => h e (List.mem_cons_of_mem c he))]
    rfl

/-- The first operator ends the first piece, and the next starts behind the blanks. -/
theorem operandChars_append {d : Char} {op piece gap rest : List Char} (hp : ∀ c ∈ piece, c ≠ d)
    (hg : ∀ c ∈ gap, isBlank c = true) (hr : ∀ c ∈ rest.head?, isBlank c = false) :
    operandChars (d :: op) (piece ++ (d :: op ++ (gap ++ rest))) =
      piece :: operandChars (d :: op) rest := by
  induction piece with
  | nil =>
    have hop : (d :: op).isPrefixOf (d :: (op ++ (gap ++ rest))) = true :=
      List.isPrefixOf_iff_prefix.mpr ⟨gap ++ rest, rfl⟩
    rw [List.nil_append, List.cons_append, operandChars, hop, if_pos rfl, List.length_cons,
      Nat.add_sub_cancel, List.drop_left, dropWhile_blanks gap rest hg hr]
  | cons c piece ih =>
    have hc : (d :: op).isPrefixOf (c :: (piece ++ (d :: op ++ (gap ++ rest)))) = false := by
      simp [List.isPrefixOf, Ne.symm (hp c List.mem_cons_self)]
    rw [List.cons_append, operandChars, hc, ih (fun e he => hp e (List.mem_cons_of_mem c he))]
    rfl

theorem operandChars_intercalate {d : Char} (hd : isBlank d = true) {op gap : List Char}
    (hg : ∀ c ∈ gap, isBlank c = true) {pieces : List (List Char)} (hne : pieces ≠ [])
    (hp : ∀ p ∈ pieces, p ≠ [] ∧ ∀ c ∈ p, isBlank c = false) :
    operandChars (d :: op) ((d :: op ++ gap).intercalate pieces) = pieces := by
  have hfree : ∀ p ∈ pieces, ∀ c ∈ p, c ≠ d := by
    rintro p hpm c hc rfl
    simp [(hp p hpm).2 c hc] at hd
  induction pieces with
  | nil => contradiction
  | cons p pieces ih =>
    cases pieces with
    | nil =>
      rw [List.intercalate_singleton, operandChars_of_free (hfree p List.mem_cons_self)]
    | cons q pieces =>
      -- The next piece starts with no blank, so the gap ends where it starts.
      have hstart : ∀ c ∈ ((d :: op ++ gap).intercalate (q :: pieces)).head?,
          isBlank c = false := by
        obtain ⟨hqne, hq⟩ := hp q (by simp)
        obtain ⟨e, q', rfl⟩ := List.exists_cons_of_ne_nil hqne
        intro c hc
        apply hq
        cases pieces with
        | nil => simp_all
        | cons r pieces => simp_all [List.intercalate_cons_cons]
      rw [List.intercalate_cons_cons, List.append_assoc, List.append_assoc,
        operandChars_append (hfree p List.mem_cons_self) hg hstart,
        ih (by simp) (fun r hr => hp r (List.mem_cons_of_mem p hr))
          (fun r hr => hfree r (List.mem_cons_of_mem p hr))]

/-- Terms without blanks are the operands of the condition that joins them over line breaks. -/
theorem operands_intercalate {op : String} {rest : List Char} (hop : op.toList = ' ' :: rest)
    {terms : List String} (hne : terms ≠ [])
    (ht : ∀ t ∈ terms, t ≠ "" ∧ ∀ c ∈ t.toList, isBlank c = false) :
    operands op ((op ++ "\n      ").intercalate terms) = terms := by
  have hsolid : ∀ p ∈ terms.map String.toList, p ≠ [] ∧ ∀ c ∈ p, isBlank c = false := by
    intro p hp
    obtain ⟨t, htm, rfl⟩ := List.mem_map.mp hp
    exact ⟨fun he => (ht t htm).1 (String.toList_eq_nil_iff.mp he), (ht t htm).2⟩
  have hpieces : operandChars (' ' :: rest)
      ((' ' :: rest ++ "\n      ".toList).intercalate (terms.map String.toList)) =
        terms.map String.toList :=
    operandChars_intercalate (by decide) (List.all_eq_true.mp (by decide)) (by simpa using hne)
      hsolid
  rw [operands, String.toList_intercalate, String.toList_append, hop, hpieces, List.map_map]
  simp [Function.comp_def]

end Listing

end LinkStubs
