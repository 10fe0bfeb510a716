import LinkStubs.Text.Blank
import LinkStubs.Text.Case
import LinkStubs.Text.Lines
import Mathlib.Data.List.TakeWhile

/-!
Trimmed texts, the pieces of a text, and its lines: each is told apart by what it is made of, so
that no later proof follows the characters one by one. Mapping the case of a text breaks none of its
lines.
-/

namespace LinkStubs.Text

def Trimmed (cs : List Char) : Prop :=
  (∀ c ∈ cs.head?, isBlank c = false) ∧ ∀ c ∈ cs.getLast?, isBlank c = false

theorem Trimmed.reverse {cs : List Char} (h : Trimmed cs) : Trimmed cs.reverse := by
  refine ⟨?_, ?_⟩
  · simpa only [List.head?_reverse] using h.2
  · simpa only [List.getLast?_reverse] using h.1

theorem dropWhile_blanks (blanks cs : List Char) (hb : ∀ c ∈ blanks, isBlank c = true)
    (hc : ∀ c ∈ cs.head?, isBlank c = false) : (blanks ++ cs).dropWhile isBlank = cs := by
  rw [List.dropWhile_append_of_pos hb]
  cases cs with
  | nil => rfl
  | cons c cs => exact List.dropWhile_cons_of_neg (by simp [hc c rfl])

theorem trim_surrounded (front cs back : List Char) (hf : ∀ c ∈ front, isBlank c = true)
    (hb : ∀ c ∈ back, isBlank c = true) (ht : Trimmed cs) : trim (front ++ cs ++ back) = cs := by
  have hback : ∀ c ∈ back.reverse, isBlank c = true := fun c hc => hb c (List.mem_reverse.mp hc)
  cases cs with
  | nil =>
    have hall : ∀ c ∈ front ++ back, isBlank c = true := by
      intro c hc
      rcases List.mem_append.mp hc with hc | hc
      · exact hf c hc
      · exact hb c hc
    have hd := dropWhile_blanks (front ++ back) [] hall (by simp)
    rw [List.append_nil] at hd ⊢
    rw [trim, hd]
    rfl
  | cons c cs =>
    have hd : (front ++ (c :: cs ++ back)).dropWhile isBlank = c :: cs ++ back :=
      dropWhile_blanks front _ hf ht.1
    rw [trim, List.append_assoc, hd, trimEnd, List.reverse_append,
      dropWhile_blanks _ _ hback ht.reverse.1, List.reverse_reverse]

theorem Trimmed.trim_eq {cs : List Char} (h : Trimmed cs) : trim cs = cs := by
  simpa using trim_surrounded [] cs [] (by simp) (by simp) h

theorem trimEnd_append_blanks (cs : List Char) :
    ∃ back, cs = trimEnd cs ++ back ∧ (∀ c ∈ back, isBlank c = true) ∧
      ∀ c ∈ (trimEnd cs).getLast?, isBlank c = false := by
  refine ⟨(cs.reverse.takeWhile isBlank).reverse, ?_, ?_, ?_⟩
  · rw [trimEnd, ← List.reverse_append, List.takeWhile_append_dropWhile, List.reverse_reverse]
  · intro c hc
    exact List.mem_takeWhile_imp (List.mem_reverse.mp hc)
  · intro c hc
    rw [trimEnd, List.getLast?_reverse] at hc
    have hn := List.head?_dropWhile_not isBlank cs.reverse
    rw [Option.mem_def.mp hc] at hn
    exact hn

/-- A text is its trimmed part between blanks. -/
theorem trim_decomposition (cs : List Char) :
    ∃ front back, cs = front ++ trim cs ++ back ∧ (∀ c ∈ front, isBlank c = true) ∧
      (∀ c ∈ back, isBlank c = true) ∧ Trimmed (trim cs) := by
  obtain ⟨back, he, hb, hl⟩ := trimEnd_append_blanks (cs.dropWhile isBlank)
  change cs.dropWhile isBlank = trim cs ++ back at he
  refine ⟨cs.takeWhile isBlank, back, ?_, ?_, hb, ?_, hl⟩
  · rw [List.append_assoc, ← he, List.takeWhile_append_dropWhile]
  · intro c hc
    exact List.mem_takeWhile_imp hc
  · intro c hc
    have hn := List.head?_dropWhile_not isBlank cs
    rw [he, List.head?_append, Option.mem_def.mp hc] at hn
    exact hn

theorem trimmed_trim (cs : List Char) : Trimmed (trim cs) := by
  obtain ⟨_, _, _, _, _, h⟩ := trim_decomposition cs
  exact h

theorem trimmed_iff {cs : List Char} : Trimmed cs ↔ trim cs = cs :=
  ⟨Trimmed.trim_eq, fun h => h ▸ trimmed_trim cs⟩

theorem mem_of_mem_trim {cs : List Char} {c : Char} (h : c ∈ trim cs) : c ∈ cs := by
  obtain ⟨front, back, he, _⟩ := trim_decomposition cs
  rw [he]
  exact List.mem_append_left back (List.mem_append_right front h)

/-- What is no blank is never trimmed away. -/
theorem mem_trim {cs : List Char} {c : Char} (hm : c ∈ cs) (hc : isBlank c = false) :
    c ∈ trim cs := by
  obtain ⟨front, back, he, hf, hb, _⟩ := trim_decomposition cs
  rw [he] at hm
  rcases List.mem_append.mp hm with hm | hm
  · rcases List.mem_append.mp hm with hm | hm
    · simp [hf c hm] at hc
    · exact hm
  · simp [hb c hm] at hc

theorem trim_between (front cs back : List Char) (hf : ∀ c ∈ front, isBlank c = true)
    (hb : ∀ c ∈ back, isBlank c = true) : trim (front ++ cs ++ back) = trim cs := by
  obtain ⟨start, rest, he, hs, hr, ht⟩ := trim_decomposition cs
  have hstart : ∀ c ∈ front ++ start, isBlank c = true := List.forall_mem_append.mpr ⟨hf, hs⟩
  have hrest : ∀ c ∈ rest ++ back, isBlank c = true := List.forall_mem_append.mpr ⟨hr, hb⟩
  calc trim (front ++ cs ++ back) = trim (front ++ (start ++ trim cs ++ rest) ++ back) := by
        rw [← he]
    _ = trim ((front ++ start) ++ trim cs ++ (rest ++ back)) := by
        simp only [List.append_assoc]
    _ = trim cs := trim_surrounded _ _ _ hstart hrest ht

theorem trim_cons_blank {b : Char} (hb : isBlank b = true) (cs : List Char) :
    trim (b :: cs) = trim cs := by
  simpa using trim_between [b] cs [] (by simp [hb]) (by simp)

theorem trim_concat_blank {b : Char} (hb : isBlank b = true) (cs : List Char) :
    trim (cs ++ [b]) = trim cs := by
  simpa using trim_between [] cs [b] (by simp) (by simp [hb])

theorem Trimmed.append {cs ds : List Char} (h : Trimmed cs) (hne : cs ≠ [])
    (hd : ∀ c ∈ ds.getLast?, isBlank c = false) : Trimmed (cs ++ ds) := by
  obtain ⟨b, bs, rfl⟩ := List.exists_cons_of_ne_nil hne
  refine ⟨h.1, fun c hc => ?_⟩
  rw [List.getLast?_append, Option.mem_def, Option.or_eq_some_iff] at hc
  rcases hc with hc | ⟨-, hc⟩
  · exact hd c hc
  · exact h.2 c hc

/-- A text that is written on keeps its trimmed part at the front, unless that is empty. -/
theorem trim_append {cs : List Char} (h : trim cs ≠ []) (ds : List Char) :
    ∃ more, trim (cs ++ ds) = trim cs ++ more := by
  obtain ⟨front, back, he, hf, -, ht⟩ := trim_decomposition cs
  obtain ⟨rest, hrest, hr, hlast⟩ := trimEnd_append_blanks (back ++ ds)
  refine ⟨trimEnd (back ++ ds), ?_⟩
  calc trim (cs ++ ds) = trim (front ++ trim cs ++ (back ++ ds)) := by
        rw [← List.append_assoc, ← he]
    _ = trim (front ++ trim cs ++ (trimEnd (back ++ ds) ++ rest)) := by
        rw [← hrest]
    _ = trim (front ++ (trim cs ++ trimEnd (back ++ ds)) ++ rest) := by
        simp only [List.append_assoc]
    _ = trim cs ++ trimEnd (back ++ ds) := trim_surrounded _ _ _ hf hr (ht.append h hlast)

theorem trim_starts {cs : List Char} (h : ∀ c ∈ cs.head?, isBlank c = false) :
    trim cs <+: cs := by
  obtain ⟨back, he, _⟩ := trimEnd_append_blanks cs
  have hd : cs.dropWhile isBlank = cs := dropWhile_blanks [] cs (by simp) h
  rw [trim, hd]
  exact ⟨back, he.symm⟩

/-- Of a text that ends in no blank, blanks in front of it are all that is trimmed. -/
theorem trim_front {cs : List Char} (h : ∀ c ∈ cs.getLast?, isBlank c = false) :
    ∃ front, cs = front ++ trim cs ∧ ∀ c ∈ front, isBlank c = true := by
  obtain ⟨front, back, he, hf, hb, _⟩ := trim_decomposition cs
  cases hl : back.getLast? with
  | none =>
    rw [List.getLast?_eq_none_iff.mp hl, List.append_nil] at he
    exact ⟨front, he, hf⟩
  | some c =>
    have hc : cs.getLast? = some c := by rw [he, List.getLast?_append, hl, Option.some_or]
    have hblank := hb c (List.mem_of_getLast? hl)
    simp [h c hc] at hblank

theorem trim_ends {cs : List Char} (h : ∀ c ∈ cs.getLast?, isBlank c = false) : trim cs <:+ cs := by
  obtain ⟨front, he, -⟩ := trim_front h
  exact ⟨front, he.symm⟩

/-- Only blanks are trimmed away without a rest. -/
theorem trim_ne_nil {cs : List Char} {c : Char} (hm : c ∈ cs) (hc : isBlank c = false) :
    trim cs ≠ [] :=
  List.ne_nil_of_mem (mem_trim hm hc)

theorem pieces_ne_nil (cut : Char → Bool) (cs : List Char) : pieces cut cs ≠ [] := by
  cases cs with
  | nil => simp [pieces]
  | cons c cs =>
    simp only [pieces]
    split
    · simp
    · split <;> simp

/-- A character that is no cut belongs to the first piece. -/
theorem pieces_cons {cut : Char → Bool} {c : Char} (hc : cut c = false) (cs : List Char) :
    ∃ p ps, pieces cut cs = p :: ps ∧ pieces cut (c :: cs) = (c :: p) :: ps := by
  cases h : pieces cut cs with
  | nil => exact absurd h (pieces_ne_nil cut cs)
  | cons p ps => exact ⟨p, ps, rfl, by simp [pieces, hc, h]⟩

theorem pieces_of_uncut {cut : Char → Bool} {cs : List Char} (h : ∀ c ∈ cs, cut c = false) :
    pieces cut cs = [cs] := by
  induction cs with
  | nil => rfl
  | cons c cs ih =>
    have hcs := ih (fun d hd => h d (List.mem_cons_of_mem c hd))
    simp [pieces, h c List.mem_cons_self, hcs]

theorem uncut_of_not_mem {d : Char} {cs : List Char} (h : d ∉ cs) :
    ∀ c ∈ cs, (c == d) = false := by
  intro c hc
  rw [beq_eq_false_iff_ne]
  rintro rfl
  exact h hc

/-- A cut keeps the pieces before it and behind it apart. -/
theorem pieces_append_cons {cut : Char → Bool} {d : Char} (hd : cut d = true)
    (cs rest : List Char) : pieces cut (cs ++ d :: rest) = pieces cut cs ++ pieces cut rest := by
  induction cs with
  | nil => simp [pieces, hd]
  | cons c cs ih =>
    cases hc : cut c with
    | true => simp [pieces, hc, ih]
    | false =>
      obtain ⟨p, ps, hcs, -⟩ := pieces_cons hc cs
      simp [pieces, hc, ih, hcs]

/-- The first cut of a text ends its first piece. -/
theorem pieces_append_cut {cut : Char → Bool} {piece : List Char} {d : Char}
    (hp : ∀ c ∈ piece, cut c = false) (hd : cut d = true) (rest : List Char) :
    pieces cut (piece ++ d :: rest) = piece :: pieces cut rest := by
  rw [pieces_append_cons hd, pieces_of_uncut hp, List.singleton_append]

theorem pieces_append_uncut (cut : Char → Bool) (cs : List Char) :
    ∃ front last, ∀ rest : List Char, (∀ c ∈ rest, cut c = false) →
      pieces cut (cs ++ rest) = front ++ [last ++ rest] := by
  induction cs with
  | nil => exact ⟨[], [], fun rest hrest => pieces_of_uncut hrest⟩
  | cons c cs ih =>
    obtain ⟨front, last, hcs⟩ := ih
    cases hc : cut c with
    | true => exact ⟨[] :: front, last, fun rest hrest => by simp [pieces, hc, hcs rest hrest]⟩
    | false =>
      cases front with
      | nil => exact ⟨[], c :: last, fun rest hrest => by simp [pieces, hc, hcs rest hrest]⟩
      | cons p ps =>
        exact ⟨(c :: p) :: ps, last, fun rest hrest => by simp [pieces, hc, hcs rest hrest]⟩

theorem uncut_of_mem_pieces {cut : Char → Bool} {cs piece : List Char}
    (h : piece ∈ pieces cut cs) : ∀ c ∈ piece, cut c = false := by
  induction cs generalizing piece with
  | nil => simp_all [pieces]
  | cons c cs ih =>
    cases hc : cut c with
    | true =>
      simp only [pieces, hc, ↓reduceIte, List.mem_cons] at h
      rcases h with rfl | h
      · simp
      · exact ih h
    | false =>
      obtain ⟨p, ps, hps, he⟩ := pieces_cons hc cs
      rw [he] at h
      rcases List.mem_cons.mp h with rfl | h
      · intro d hd
        rcases List.mem_cons.mp hd with rfl | hd
        · exact hc
        · exact ih (hps ▸ List.mem_cons_self) d hd
      · exact ih (hps ▸ List.mem_cons_of_mem p h)

/-- Texts without cuts, joined by a cut and a blank, are the pieces of what they are joined to, up
to blanks. -/
theorem trim_pieces_intercalate (cut : Char → Bool) (d b : Char) (hd : cut d = true)
    (hb : cut b = false) (hblank : isBlank b = true) {parts : List (List Char)}
    (hne : parts ≠ []) (hp : ∀ p ∈ parts, ∀ c ∈ p, cut c = false) :
    (pieces cut ([d, b].intercalate parts)).map trim = parts.map trim := by
  induction parts with
  | nil => contradiction
  | cons p parts ih =>
    have hpc := hp p List.mem_cons_self
    cases parts with
    | nil => rw [List.intercalate_singleton, pieces_of_uncut hpc]
    | cons q parts =>
      have hrest := ih (by simp) (fun r hr => hp r (List.mem_cons_of_mem p hr))
      obtain ⟨r, rs, hr, he⟩ := pieces_cons hb ([d, b].intercalate (q :: parts))
      rw [List.intercalate_cons_cons, List.append_assoc, List.cons_append, pieces_append_cut hpc hd,
        List.singleton_append, he, List.map_cons, List.map_cons, trim_cons_blank hblank,
        ← List.map_cons, ← hr, hrest]
      rfl

/-- A literal is written with its characters and need not be decoded. Under `no_index` the lemma is
tried on every text, which is how it meets a literal. -/
theorem toList_literal (cs : List Char) : (no_index (String.ofList cs)).toList = cs :=
  String.toList_ofList

theorem takeWhile_ne_append_cons {d : Char} {cs : List Char} (h : d ∉ cs) (rest : List Char) :
    (cs ++ d :: rest).takeWhile (· != d) = cs := by
  have hrun : ∀ c ∈ cs, (c != d) = true := by
    intro c hc
    rw [bne_iff_ne]
    rintro rfl
    exact h hc
  rw [List.takeWhile_append_of_pos hrun, List.takeWhile_cons_of_neg (by simp), List.append_nil]

/-- Texts are cut apart at the first of a character that stands in neither of their fronts. -/
theorem append_cons_cancel {d : Char} {front other rest more : List Char} (hf : d ∉ front)
    (ho : d ∉ other) (h : front ++ d :: rest = other ++ d :: more) :
    front = other ∧ rest = more := by
  have he : front = other := by
    rw [← takeWhile_ne_append_cons hf rest, h, takeWhile_ne_append_cons ho more]
  subst he
  exact ⟨rfl, (List.cons.inj (List.append_cancel_left h)).2⟩

/-- A text that begins with no more than another does, and goes on without a cut, is cut no later
than the other. -/
theorem cut_no_later {d : Char} {head tail front rest more : List Char} (hd : d ∉ tail)
    (hp : head <+: front) (h : head ++ tail ++ d :: rest = front ++ d :: more) :
    ∃ gap, rest = gap ++ more := by
  obtain ⟨between, rfl⟩ := hp
  rw [List.append_assoc, List.append_assoc] at h
  have hbehind : tail ++ d :: rest = between ++ d :: more := List.append_cancel_left h
  by_cases hm : d ∈ between
  · obtain ⟨before, behind, rfl, hb⟩ := List.eq_append_cons_of_mem hm
    rw [List.append_assoc, List.cons_append] at hbehind
    obtain ⟨-, he⟩ := append_cons_cancel hd hb hbehind
    exact ⟨behind ++ [d], by simp [he]⟩
  · exact ⟨[], (append_cons_cancel hd hm hbehind).2⟩

/-- What a text ends in lies behind a character that it does not hold. -/
theorem suffix_of_suffix_append_cons {d : Char} {word front rest : List Char} (hd : d ∉ word)
    (h : word <:+ front ++ d :: rest) : word <:+ rest := by
  rcases List.suffix_or_suffix_of_suffix h (List.suffix_append front (d :: rest)) with hs | hs
  · rcases List.suffix_cons_iff.mp hs with he | hs
    · exact absurd (he ▸ List.mem_cons_self) hd
    · exact hs
  · exact absurd (hs.mem List.mem_cons_self) hd

/-- A word that ends in a cut lies before the first cut of a text or behind it. -/
theorem infix_of_infix_append_cons {d : Char} {word front rest : List Char} (hw : d ∉ word)
    (hf : d ∉ front) (h : word ++ [d] <:+: front ++ d :: rest) :
    word <:+ front ∨ word ++ [d] <:+: rest := by
  obtain ⟨start, tail, he⟩ := h
  simp only [List.append_assoc, List.cons_append, List.nil_append] at he
  by_cases hs : d ∈ start
  · obtain ⟨before, behind, rfl, hb⟩ := List.eq_append_cons_of_mem hs
    simp only [List.append_assoc, List.cons_append] at he
    obtain ⟨-, rfl⟩ := append_cons_cancel hb hf he
    exact Or.inr ⟨behind, tail, by simp⟩
  · have hsw : d ∉ start ++ word := by simp [hs, hw]
    rw [← List.append_assoc] at he
    obtain ⟨rfl, -⟩ := append_cons_cancel hsw hf he
    exact Or.inl (List.suffix_append start word)

/-- A separator cuts a joined text only where it was joined. -/
theorem intercalate_cancel {d : Char} {sep : List Char} {parts others : List (List Char)}
    (hp : ∀ p ∈ parts, d ∉ p) (ho : ∀ p ∈ others, d ∉ p) (hl : parts.length = others.length)
    (h : (d :: sep).intercalate parts = (d :: sep).intercalate others) : parts = others := by
  -- Where one part is left, so is one of the others, and no separator has to be found.
  induction parts generalizing others with
  | nil => exact (List.eq_nil_of_length_eq_zero hl.symm).symm
  | cons p parts ih =>
    obtain ⟨o, others, rfl⟩ := List.exists_cons_of_length_eq_add_one hl.symm
    have hpd := hp p List.mem_cons_self
    have hod := ho o List.mem_cons_self
    have hlength := Nat.succ.inj hl
    cases parts with
    | nil =>
      obtain rfl := List.eq_nil_of_length_eq_zero hlength.symm
      simpa using h
    | cons q parts =>
      obtain ⟨r, others, rfl⟩ := List.exists_cons_of_length_eq_add_one hlength.symm
      rw [List.intercalate_cons_cons, List.intercalate_cons_cons, List.append_assoc,
        List.append_assoc, List.cons_append, List.cons_append] at h
      obtain ⟨rfl, hrest⟩ := append_cons_cancel hpd hod h
      rw [ih (fun x hx => hp x (List.mem_cons_of_mem _ hx))
        (fun x hx => ho x (List.mem_cons_of_mem _ hx)) hlength (List.append_cancel_left hrest)]

/-- A line under way is closed by the first newline. -/
theorem linesFrom_append_newline {line : List Char} (h : '\n' ∉ line) (before rest : List Char) :
    linesFrom before (line ++ '\n' :: rest) =
      closeLine (line.reverse ++ before) :: linesFrom [] rest := by
  induction line generalizing before with
  | nil => simp [linesFrom]
  | cons c line ih =>
    simp only [List.mem_cons, not_or] at h
    rw [List.cons_append, linesFrom, if_neg (Ne.symm h.1), ih h.2, List.reverse_cons,
      List.append_assoc, List.singleton_append]

theorem subset_of_closeLine (line : List Char) : closeLine line ⊆ line := by
  intro c hc
  unfold closeLine at hc
  split at hc
  · exact List.mem_cons_of_mem _ (List.mem_reverse.mp hc)
  · exact List.mem_reverse.mp hc

theorem newline_not_mem_of_mem_linesFrom {before cs line : List Char} (hb : '\n' ∉ before)
    (h : line ∈ linesFrom before cs) : '\n' ∉ line := by
  induction cs generalizing before with
  | nil =>
    cases before with
    | nil => simp [linesFrom] at h
    | cons b before =>
      obtain rfl : line = (b :: before).reverse := by simpa [linesFrom] using h
      exact fun hm => hb (List.mem_reverse.mp hm)
  | cons c cs ih =>
    by_cases hc : c = '\n'
    · rw [linesFrom, if_pos hc] at h
      rcases List.mem_cons.mp h with rfl | h
      · exact fun hm => hb (subset_of_closeLine before hm)
      · exact ih (by simp) h
    · rw [linesFrom, if_neg hc] at h
      apply ih _ h
      simp only [List.mem_cons, not_or]
      exact ⟨Ne.symm hc, hb⟩

theorem newline_not_mem_of_mem_lines {cs line : List Char} (h : line ∈ lines cs) : '\n' ∉ line :=
  newline_not_mem_of_mem_linesFrom (by simp) h

theorem closeLine_reverse {line : List Char} (h : line.getLast? ≠ some '\r') :
    closeLine line.reverse = line := by
  rw [← List.head?_reverse] at h
  unfold closeLine
  split
  · rename_i he
    simp [he] at h
  · exact List.reverse_reverse line

theorem unlines_append (ls ks : List String) : unlines (ls ++ ks) = unlines ls ++ unlines ks := by
  rw [← String.toList_inj]
  simp [unlines, String.toList_join]

theorem unlines_flatMap {α : Type} (f : α → List String) (xs : List α) :
    unlines (xs.flatMap f) = String.join (xs.map (fun x => unlines (f x))) := by
  rw [← String.toList_inj]
  simp [unlines, String.toList_join, List.flatMap_assoc, List.flatMap_map]

theorem linesFrom_append_cons (before cs rest : List Char) :
    linesFrom before (cs ++ '\n' :: rest) =
      linesFrom before (cs ++ ['\n']) ++ linesFrom [] rest := by
  induction cs generalizing before with
  | nil => simp [linesFrom]
  | cons c cs ih =>
    by_cases hc : c = '\n'
    · simp only [List.cons_append, linesFrom, hc, ↓reduceIte, ih]
    · simp only [List.cons_append, linesFrom, hc, ↓reduceIte, ih]

/-- A text whose last line, if there is one, has its newline. -/
def Ended (cs : List Char) : Prop :=
  cs = [] ∨ cs.getLast? = some '\n'

instance Ended.decidable (cs : List Char) : Decidable (Ended cs) :=
  inferInstanceAs (Decidable (_ ∨ _))

theorem Ended.eq_concat {cs : List Char} (h : Ended cs) :
    cs = [] ∨ ∃ front, cs = front ++ ['\n'] :=
  h.imp_right (fun hl => List.getLast?_eq_some_iff.mp hl)

/-- The lines of a text do not depend on what its last line is followed by. -/
theorem lines_append {cs : List Char} (h : Ended cs) (ds : List Char) :
    lines (cs ++ ds) = lines cs ++ lines ds := by
  rcases h.eq_concat with rfl | ⟨front, rfl⟩
  · rfl
  · rw [List.append_assoc, List.singleton_append, lines, linesFrom_append_cons, ← lines, ← lines]

theorem length_linesFrom_concat (before front : List Char) :
    (linesFrom before (front ++ ['\n'])).length = front.count '\n' + 1 := by
  induction front generalizing before with
  | nil => simp [linesFrom]
  | cons c front ih =>
    by_cases hc : c = '\n'
    · simp only [List.cons_append, linesFrom, hc, ↓reduceIte, List.length_cons, ih,
        List.count_cons_self]
    · simp only [List.cons_append, linesFrom, hc, ↓reduceIte, ih, List.count_cons_of_ne hc]

/-- There are as many lines as newlines. -/
theorem length_lines {cs : List Char} (h : Ended cs) : (lines cs).length = cs.count '\n' := by
  rcases h.eq_concat with rfl | ⟨front, rfl⟩
  · rfl
  · rw [lines, length_linesFrom_concat, List.count_append, List.count_singleton_self]

theorem unlines_cons (l : String) (ls : List String) :
    (unlines (l :: ls)).toList = l.toList ++ '\n' :: (unlines ls).toList := by
  simp [unlines, String.toList_join]

theorem ended_unlines (ls : List String) : Ended (unlines ls).toList := by
  induction ls with
  | nil => exact Or.inl rfl
  | cons l ls ih =>
    rw [unlines_cons, ← List.singleton_append, ← List.append_assoc]
    rcases ih with hn | hl
    · exact Or.inr (by rw [hn, List.append_nil, List.getLast?_concat])
    · exact Or.inr (by rw [List.getLast?_append, hl, Option.some_or])

/-- Texts that are written as lines keep their lines when they are put together. -/
theorem lines_unlines_append (ls ks : List String) :
    lines (unlines (ls ++ ks)).toList =
      lines (unlines ls).toList ++ lines (unlines ks).toList := by
  rw [unlines_append, String.toList_append, lines_append (ended_unlines ls)]

/-- Lines that hold no newline are read back as they were written, up to a carriage return at their
end. -/
theorem lines_unlines_closed {ls : List String} (h : ∀ l ∈ ls, '\n' ∉ l.toList) :
    lines (unlines ls).toList = ls.map (fun l => closeLine l.toList.reverse) := by
  induction ls with
  | nil => rfl
  | cons l ls ih =>
    have hls := ih (fun k hk => h k (List.mem_cons_of_mem l hk))
    rw [unlines_cons, lines, linesFrom_append_newline (h l List.mem_cons_self), List.append_nil,
      List.map_cons, ← hls, lines]

/-- Lines that hold no newline and end with no carriage return are read back as they were
written. -/
theorem lines_unlines {ls : List String}
    (h : ∀ l ∈ ls, '\n' ∉ l.toList ∧ l.toList.getLast? ≠ some '\r') :
    lines (unlines ls).toList = ls.map String.toList := by
  rw [lines_unlines_closed (fun l hl => (h l hl).1)]
  exact List.map_congr_left (fun l hl => closeLine_reverse (h l hl).2)

theorem ofNat_ne_newline {n : Nat} (h : n ≠ 10) : Char.ofNat n ≠ '\n' := by
  intro he
  have hnumber := congrArg Char.toNat he
  by_cases hv : n.isValidChar
  · rw [Char.ofNat, dif_pos hv] at hnumber
    exact h hnumber
  · rw [Char.ofNat, dif_neg hv] at hnumber
    exact absurd hnumber (by decide)

/-- A newline is the image of no other character where every run maps to numbers above it. -/
theorem mapCase_ne_newline {runs : List CaseRun} (hruns : ∀ r ∈ runs, 10 < r.first + r.shift)
    {c : Char} (h : c ≠ '\n') : mapCase runs c ≠ '\n' := by
  rw [mapCase]
  split
  · rename_i r hr
    have hmem := List.mem_of_find?_eq_some hr
    have hholds : (r.first ≤ c.toNat ∧ c.toNat ≤ r.last) ∧ (c.toNat - r.first) % r.step = 0 := by
      simpa [CaseRun.holds] using List.find?_some hr
    have hlow := hruns r hmem
    apply ofNat_ne_newline
    omega
  · exact h

theorem lowerRuns_low : ∀ r ∈ lowerRuns, 10 < r.first + r.shift := by decide +kernel

theorem upperRuns_low : ∀ r ∈ upperRuns, 10 < r.first + r.shift := by decide +kernel

theorem upperExpansions_low : ∀ e ∈ upperExpansions, ∀ n ∈ e.2, n ≠ 10 := by decide +kernel

theorem newline_not_mem_lowerFrom (before : List Char) {cs : List Char} (h : '\n' ∉ cs) :
    '\n' ∉ lowerFrom before cs := by
  induction cs generalizing before with
  | nil => simp [lowerFrom]
  | cons c cs ih =>
    simp only [List.mem_cons, not_or] at h
    rw [lowerFrom, List.mem_append, not_or]
    refine ⟨?_, ih _ h.2⟩
    unfold lowerChar
    split
    · split <;> decide
    · split
      · decide
      · simpa using (mapCase_ne_newline lowerRuns_low (Ne.symm h.1)).symm

theorem newline_not_mem_lower {s : String} (h : '\n' ∉ s.toList) : '\n' ∉ (lower s).toList := by
  rw [lower, String.toList_ofList]
  exact newline_not_mem_lowerFrom [] h

theorem newline_not_mem_upper {s : String} (h : '\n' ∉ s.toList) : '\n' ∉ (upper s).toList := by
  rw [upper, String.toList_ofList, List.mem_flatMap]
  rintro ⟨c, hc, hm⟩
  unfold upperChar at hm
  split at hm
  · rename_i ns hns
    obtain ⟨n, hn, he⟩ := List.mem_map.mp hm
    obtain ⟨before, after, hsplit, -⟩ := List.lookup_eq_some_iff.mp hns
    have hmem : (c.toNat, ns) ∈ upperExpansions := by simp [hsplit]
    exact ofNat_ne_newline (upperExpansions_low _ hmem n hn) he
  · have hne : c ≠ '\n' := fun he => h (he ▸ hc)
    exact mapCase_ne_newline upperRuns_low hne (List.mem_singleton.mp hm).symm

end LinkStubs.Text
