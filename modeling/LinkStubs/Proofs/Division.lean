import LinkStubs.Proofs.Text
import LinkStubs.Signature.Split
import Mathlib.Logic.ExistsUnique

/-!
Divisions of a line, told apart from the search for one: the search finds the division with the
shortest return type wherever there is any, and there is only one such division.
-/

namespace LinkStubs.Signature

open LinkStubs.Identifier LinkStubs.Text

/-- An identifier of two characters or more. -/
def IsName : List Char → Prop
  | c :: d :: cs => isIdentStart c = true ∧ ∀ e ∈ d :: cs, isIdentChar e = true
  | _ => False

instance IsName.decidable : DecidablePred IsName
  | [] => inferInstanceAs (Decidable False)
  | [_] => inferInstanceAs (Decidable False)
  | c :: d :: cs =>
    decidable_of_iff (isIdentStart c = true ∧ (d :: cs).all isIdentChar = true)
      (and_congr Iff.rfl List.all_eq_true)

/-- A reading of a line as return type, name, blanks, `(`, parameters, `)` and a rest. -/
structure Split.Divides (s : Split) (line : List Char) : Prop where
  text_eq : s.text = line
  result_ne_nil : s.result ≠ []
  result_line : '\n' ∉ s.result
  name : IsName s.name
  blanks : ∀ c ∈ s.blanks, isBlank c = true
  params : ∀ c ∈ s.params, c ≠ ')' ∧ c ≠ '\n'

/-- A division of a line of which no other has a shorter return type. -/
structure Split.Shortest (s : Split) (line : List Char) : Prop extends Divides s line where
  minimal : ∀ u : Split, u.Divides line → s.result.length ≤ u.result.length

theorem isIdentChar_of_start {c : Char} (h : isIdentStart c = true) : isIdentChar c = true := by
  rcases Bool.or_eq_true_iff.mp h with hu | ha
  · exact Bool.or_eq_true_iff.mpr (Or.inl hu)
  · exact Bool.or_eq_true_iff.mpr (Or.inr (Bool.or_eq_true_iff.mpr (Or.inl ha)))

theorem identChar_range {c : Char} (h : isIdentChar c = true) :
    (48 ≤ c.toNat ∧ c.toNat ≤ 57) ∨ (65 ≤ c.toNat ∧ c.toNat ≤ 122) := by
  have hupper : c.isUpper = true → 65 ≤ c.toNat ∧ c.toNat ≤ 90 := fun hc => of_decide_eq_true hc
  have hlower : c.isLower = true → 97 ≤ c.toNat ∧ c.toNat ≤ 122 := by
    intro hc
    obtain ⟨h₁, h₂⟩ := Bool.and_eq_true_iff.mp hc
    exact ⟨of_decide_eq_true h₁, of_decide_eq_true h₂⟩
  have hdigit : c.isDigit = true → 48 ≤ c.toNat ∧ c.toNat ≤ 57 := Char.isDigit_iff_toNat.mp
  rcases Bool.or_eq_true_iff.mp h with h | h
  · rw [beq_iff_eq.mp h]
    decide
  · rcases Bool.or_eq_true_iff.mp h with h | h
    · rcases Bool.or_eq_true_iff.mp h with h | h
      · have := hupper h
        omega
      · have := hlower h
        omega
    · exact Or.inl (hdigit h)

theorem not_blank_of_identChar {c : Char} (h : isIdentChar c = true) : isBlank c = false := by
  have := identChar_range h
  simp [isBlank]
  omega

theorem not_identChar_of_blank {c : Char} (h : isBlank c = true) : isIdentChar c = false := by
  cases hc : isIdentChar c with
  | false => rfl
  | true => simp [not_blank_of_identChar hc] at h

theorem IsName.cons {name : List Char} (h : IsName name) :
    ∃ c cs, name = c :: cs ∧ isIdentStart c = true ∧ cs ≠ [] ∧ ∀ d ∈ cs, isIdentChar d = true := by
  match name, h with
  | c :: d :: cs, h => exact ⟨c, d :: cs, rfl, h.1, by simp, h.2⟩

theorem isName_of_start {c : Char} {cs : List Char} (hc : isIdentStart c = true)
    (hl : 2 ≤ (c :: cs).length) (h : ∀ d ∈ cs, isIdentChar d = true) : IsName (c :: cs) := by
  cases cs with
  | nil => simp at hl
  | cons d cs => exact ⟨hc, h⟩

theorem IsName.identChar {name : List Char} (h : IsName name) :
    ∀ c ∈ name, isIdentChar c = true := by
  obtain ⟨c, cs, rfl, hc, _, hcs⟩ := h.cons
  intro d hd
  rcases List.mem_cons.mp hd with rfl | hd
  · exact isIdentChar_of_start hc
  · exact hcs d hd

theorem IsName.not_mem {name : List Char} {c : Char} (h : IsName name)
    (hc : isIdentChar c = false) : c ∉ name := by
  intro hm
  simp [h.identChar c hm] at hc

theorem IsName.two_le_length {name : List Char} (h : IsName name) : 2 ≤ name.length := by
  obtain ⟨c, cs, rfl, _, hne, _⟩ := h.cons
  have := List.length_pos_iff.mpr hne
  simp only [List.length_cons]
  omega

/-- A run ends where the next character does not belong to it. -/
theorem takeWhile_run (p : Char → Bool) (run rest : List Char) (hr : ∀ c ∈ run, p c = true)
    (hn : ∀ c ∈ rest.head?, p c = false) :
    (run ++ rest).takeWhile p = run ∧ (run ++ rest).dropWhile p = rest := by
  rw [List.takeWhile_append_of_pos hr, List.dropWhile_append_of_pos hr]
  cases rest with
  | nil => simp
  | cons c rest => simp [hn c rfl]

theorem isParamChar_iff {c : Char} : isParamChar c = true ↔ c ≠ ')' ∧ c ≠ '\n' := by
  simp [isParamChar]

/-- The parts of a line from a name on. -/
structure Split.IsCall (s : Split) (cs : List Char) : Prop where
  text_eq : s.name ++ (s.blanks ++ '(' :: (s.params ++ ')' :: s.rest)) = cs
  name : IsName s.name
  blanks : ∀ c ∈ s.blanks, isBlank c = true
  params : ∀ c ∈ s.params, c ≠ ')' ∧ c ≠ '\n'

theorem isCall_of_callAt? {result cs : List Char} {s : Split} (h : callAt? result cs = some s) :
    s.result = result ∧ s.IsCall cs := by
  unfold callAt? at h
  simp only at h
  split at h
  · rename_i c cs body hafter
    split at h
    · rename_i hname
      split at h
      · rename_i rest hrest
        obtain rfl := Option.some.inj h
        simp only [Bool.and_eq_true, decide_eq_true_eq] at hname
        have hstart := isIdentChar_of_start hname.1
        refine ⟨rfl, ?_, ?_, fun d hd => List.mem_takeWhile_imp hd,
          fun d hd => isParamChar_iff.mp (List.mem_takeWhile_imp hd)⟩
        · rw [← hrest, List.takeWhile_append_dropWhile, ← hafter, List.takeWhile_append_dropWhile,
            List.takeWhile_append_dropWhile]
        · simp only [List.takeWhile_cons_of_pos hstart] at hname ⊢
          exact isName_of_start hname.1 hname.2 (fun d hd => List.mem_takeWhile_imp hd)
      · cases h
    · cases h
  · cases h

/-- Blanks before a parenthesis start with no character of a name. -/
theorem head?_blanks_paren {blanks rest : List Char} (hb : ∀ c ∈ blanks, isBlank c = true) :
    ∀ c ∈ (blanks ++ '(' :: rest).head?, isIdentChar c = false := by
  intro c hc
  cases blanks with
  | nil =>
    obtain rfl := Option.some.inj hc
    decide
  | cons b blanks =>
    obtain rfl := Option.some.inj hc
    exact not_identChar_of_blank (hb b List.mem_cons_self)

theorem Split.IsCall.callAt?_eq {s : Split} {cs : List Char} (h : s.IsCall cs) :
    callAt? s.result cs = some s := by
  obtain ⟨hn, hafter⟩ := takeWhile_run _ _ _ h.name.identChar (head?_blanks_paren h.blanks)
  obtain ⟨hb, hbody⟩ := takeWhile_run _ _ ('(' :: (s.params ++ ')' :: s.rest)) h.blanks
    (by intro c hc; obtain rfl := Option.some.inj hc; decide)
  obtain ⟨hp, hrest⟩ := takeWhile_run isParamChar _ (')' :: s.rest)
    (fun d hd => isParamChar_iff.mpr (h.params d hd)) (by simp [isParamChar])
  rw [h.text_eq] at hn hafter
  obtain ⟨c, name, hc, hstart, _, _⟩ := h.name.cons
  have hcs : ∃ rest, cs = c :: rest := ⟨_, by rw [← h.text_eq, hc]; rfl⟩
  obtain ⟨rest, rfl⟩ := hcs
  unfold callAt?
  simp only [hn, hafter, hb, hbody, hp, hrest, hstart, h.name.two_le_length, decide_true,
    Bool.and_self, ↓reduceIte]

/-- A division takes a return type off the line and finds a call behind it. -/
theorem Split.divides_iff {s : Split} {line : List Char} :
    s.Divides line ↔ s.result ≠ [] ∧ '\n' ∉ s.result ∧
      ∃ cs, line = s.result ++ cs ∧ callAt? s.result cs = some s := by
  constructor
  · intro h
    have hcall : s.IsCall (s.name ++ (s.blanks ++ '(' :: (s.params ++ ')' :: s.rest))) :=
      ⟨rfl, h.name, h.blanks, h.params⟩
    refine ⟨h.result_ne_nil, h.result_line, _, ?_, hcall.callAt?_eq⟩
    rw [← h.text_eq]
    simp [Split.text]
  · rintro ⟨hne, hline, cs, rfl, hcall⟩
    obtain ⟨_, rfl, hname, hblanks, hparams⟩ := isCall_of_callAt? hcall
    exact ⟨by simp [Split.text], hne, hline, hname, hblanks, hparams⟩

/-- A return type leaves no choice in the rest of a division. -/
theorem Split.Divides.unique {s u : Split} {line : List Char} (hs : s.Divides line)
    (hu : u.Divides line) (hl : s.result.length = u.result.length) : s = u := by
  obtain ⟨_, _, cs, he, hc⟩ := Split.divides_iff.mp hs
  obtain ⟨_, _, ds, he', hd⟩ := Split.divides_iff.mp hu
  obtain ⟨hr, rfl⟩ := List.append_inj (he.symm.trans he') hl
  rw [hr, hd] at hc
  exact (Option.some.inj hc).symm

theorem Split.Shortest.unique {s u : Split} {line : List Char} (hs : s.Shortest line)
    (hu : u.Shortest line) : s = u :=
  hs.toDivides.unique hu.toDivides
    (Nat.le_antisymm (hs.minimal u hu.toDivides) (hu.minimal s hs.toDivides))

theorem Split.Divides.result_starts {s : Split} {line : List Char} (h : s.Divides line) :
    s.result <+: line := by
  rw [← h.text_eq]
  exact ⟨_, by simp only [Split.text, List.append_assoc]; rfl⟩

theorem Split.Divides.result_length_le {s : Split} {line : List Char} (h : s.Divides line) :
    s.result.length ≤ line.length :=
  h.result_starts.length_le

/-- A return type that goes on behind `before` takes the next character. -/
theorem Split.Divides.next_starts {s : Split} {before cs : List Char} {c : Char}
    (h : s.Divides ((c :: before).reverse ++ cs)) (hl : before.length < s.result.length) :
    (c :: before).reverse <+: s.result :=
  List.prefix_of_prefix_length_le ⟨cs, rfl⟩ h.result_starts (by simp; omega)

/-- Where a division's return type ends, its call is found. -/
theorem Split.Divides.callAt?_eq {s : Split} {result cs : List Char} (h : s.Divides (result ++ cs))
    (hr : s.result = result) : callAt? result cs = some s := by
  obtain ⟨_, _, ds, he, hd⟩ := Split.divides_iff.mp h
  rw [hr] at he hd
  rw [List.append_cancel_left he]
  exact hd

theorem divides_of_callAt? {result cs : List Char} {s : Split} (h : callAt? result cs = some s)
    (hne : result ≠ []) (hline : '\n' ∉ result) : s.Divides (result ++ cs) := by
  obtain ⟨hr, _⟩ := isCall_of_callAt? h
  rw [← hr] at h hne hline ⊢
  exact Split.divides_iff.mpr ⟨hne, hline, cs, rfl, h⟩

theorem splitFrom?_spec (before cs : List Char) (hb : '\n' ∉ before) :
    match splitFrom? before cs with
    | some s => s.Divides (before.reverse ++ cs) ∧ ∀ u : Split,
        u.Divides (before.reverse ++ cs) → before.length < u.result.length →
          s.result.length ≤ u.result.length
    | none => ∀ u : Split, u.Divides (before.reverse ++ cs) → u.result.length ≤ before.length := by
  induction cs generalizing before with
  | nil =>
    intro u hu
    simpa using hu.result_length_le
  | cons c cs ih =>
    have htext : before.reverse ++ c :: cs = (c :: before).reverse ++ cs := by simp
    rw [htext]
    by_cases hc : c = '\n'
    · simp only [splitFrom?, hc, ↓reduceIte]
      intro u hu
      by_contra hlt
      exact hu.result_line ((hu.next_starts (by omega)).subset (by simp))
    · have hline : '\n' ∉ c :: before := by
        simp only [List.mem_cons, not_or]
        exact ⟨Ne.symm hc, hb⟩
      cases hcall : callAt? (c :: before).reverse cs with
      | some s =>
        simp only [splitFrom?, hc, ↓reduceIte, hcall]
        refine ⟨divides_of_callAt? hcall (by simp) (fun hm => hline (List.mem_reverse.mp hm)),
          fun u hu hlt => ?_⟩
        rw [(isCall_of_callAt? hcall).1]
        exact (hu.next_starts hlt).length_le
      | none =>
        -- The return type that ends with `c` is no division's, so a longer one is left.
        have hlen : ∀ u : Split, u.Divides ((c :: before).reverse ++ cs) →
            before.length < u.result.length → (c :: before).length < u.result.length := by
          intro u hu hlt
          have hle := (hu.next_starts hlt).length_le
          rw [List.length_reverse] at hle
          refine Nat.lt_of_le_of_ne hle (fun he => ?_)
          have hr := (hu.next_starts hlt).eq_of_length (by rw [List.length_reverse, he])
          rw [hu.callAt?_eq hr.symm] at hcall
          cases hcall
        have hrec := ih (c :: before) hline
        simp only [splitFrom?, hc, ↓reduceIte, hcall]
        cases hfound : splitFrom? (c :: before) cs with
        | some s =>
          rw [hfound] at hrec
          exact ⟨hrec.1, fun u hu hlt => hrec.2 u hu (hlen u hu hlt)⟩
        | none =>
          rw [hfound] at hrec
          intro u hu
          by_contra hlt
          exact Nat.not_lt.mpr (hrec u hu) (hlen u hu (Nat.not_le.mp hlt))

theorem shortest_of_split? {line : List Char} {s : Split} (h : split? line = some s) :
    s.Shortest line := by
  have hspec := splitFrom?_spec [] line (by simp)
  rw [show splitFrom? [] line = some s from h] at hspec
  refine ⟨hspec.1, fun u hu => hspec.2 u hu ?_⟩
  exact List.length_pos_iff.mpr hu.result_ne_nil

theorem split?_eq_none_iff {line : List Char} :
    split? line = none ↔ ∀ s : Split, ¬ s.Divides line := by
  constructor
  · intro h s hs
    have hspec := splitFrom?_spec [] line (by simp)
    rw [show splitFrom? [] line = none from h] at hspec
    exact hs.result_ne_nil (List.eq_nil_of_length_eq_zero (Nat.le_zero.mp (hspec s hs)))
  · intro h
    cases hs : split? line with
    | none => rfl
    | some s => exact absurd (shortest_of_split? hs).toDivides (h s)

theorem split?_eq_some_iff {line : List Char} {s : Split} :
    split? line = some s ↔ s.Shortest line := by
  refine ⟨shortest_of_split?, fun h => ?_⟩
  cases hu : split? line with
  | none => exact absurd h.toDivides (split?_eq_none_iff.mp hu s)
  | some u => rw [(shortest_of_split? hu).unique h]

/-- Where a line can be divided, just one division has the shortest return type. -/
theorem Split.Divides.existsUnique_shortest {s : Split} {line : List Char} (h : s.Divides line) :
    ∃! u : Split, u.Shortest line := by
  cases hu : split? line with
  | none => exact absurd h (split?_eq_none_iff.mp hu s)
  | some u =>
    have hshort := shortest_of_split? hu
    exact ⟨u, hshort, fun v hv => hv.unique hshort⟩

end LinkStubs.Signature
