import LinkStubs.Proofs.Identifiers
import Mathlib

/-!
The part of identifiers that comes from a name, character by character. The pieces of a name and
their capitals come to one scan of its characters, which remembers no more than whether a word has
just ended. What a scan drops, and where it is cut in two, can be told without the pieces.
-/

namespace LinkStubs.Identifier

open LinkStubs.Text

/-- A character of a word, which starts with a capital and has no other. -/
def cased (first : Bool) (c : Char) : Char :=
  if first then c.toUpper else c.toLower

/-- The characters of a name that belong to words, with `first` where a word starts. -/
def scan (first : Bool) : List Char → List Char
  | [] => []
  | c :: cs => if isIdentChar c then cased first c :: scan false cs else scan true cs

def word (first : Bool) : List Char → List Char
  | [] => []
  | c :: cs => cased first c :: cs.map Char.toLower

theorem word_true (cs : List Char) : word true cs = capitalized cs := by
  cases cs with
  | nil => rfl
  | cons c cs => rfl

theorem word_false (cs : List Char) : word false cs = cs.map Char.toLower := by
  cases cs with
  | nil => rfl
  | cons c cs => rfl

theorem scan_cons_kept {c : Char} (h : isIdentChar c = true) (first : Bool) (cs : List Char) :
    scan first (c :: cs) = cased first c :: scan false cs :=
  if_pos h

theorem scan_cons_dropped {c : Char} (h : isIdentChar c = false) (first : Bool) (cs : List Char) :
    scan first (c :: cs) = scan true cs :=
  if_neg (by simp [h])

/-- The first piece may be the rest of a word; every other piece is a word of its own. -/
theorem scan_of_pieces {cs p : List Char} {ps : List (List Char)}
    (h : pieces (fun c => !isIdentChar c) cs = p :: ps) (first : Bool) :
    scan first cs = word first p ++ ps.flatMap capitalized := by
  -- `first` varies, since what follows a kept character goes on with its word.
  induction cs generalizing p ps first with
  | nil =>
    cases h
    rfl
  | cons c cs ih =>
    obtain ⟨q, qs, hq⟩ := List.exists_cons_of_ne_nil (pieces_ne_nil (fun c => !isIdentChar c) cs)
    cases hc : isIdentChar c with
    | false =>
      simp only [pieces, hc, hq, Bool.not_false, ↓reduceIte, List.cons.injEq] at h
      obtain ⟨rfl, rfl⟩ := h
      rw [scan_cons_dropped hc, ih hq, word_true, List.flatMap_cons]
      rfl
    | true =>
      simp only [pieces, hc, hq, Bool.not_true, Bool.false_eq_true, ↓reduceIte,
        List.cons.injEq] at h
      obtain ⟨rfl, rfl⟩ := h
      rw [scan_cons_kept hc, ih hq, word_false]
      rfl

theorem camelChars_eq_scan (cs : List Char) : camelChars cs = scan true cs := by
  obtain ⟨p, ps, hp⟩ := List.exists_cons_of_ne_nil (pieces_ne_nil (fun c => !isIdentChar c) cs)
  rw [camelChars, hp, scan_of_pieces hp, word_true, List.flatMap_cons]

theorem toList_camel (name : String) : (camel name).toList = scan true name.toList := by
  rw [camel, String.toList_ofList, camelChars_eq_scan]

/-- A scan starts again behind every character that it drops. -/
theorem scan_append_cons {c : Char} (h : isIdentChar c = false) (first : Bool)
    (front back : List Char) :
    scan first (front ++ c :: back) = scan first front ++ scan true back := by
  induction front generalizing first with
  | nil => rw [List.nil_append, scan_cons_dropped h, scan, List.nil_append]
  | cons d front ih =>
    cases hd : isIdentChar d with
    | false => rw [List.cons_append, scan_cons_dropped hd, scan_cons_dropped hd, ih]
    | true =>
      rw [List.cons_append, scan_cons_kept hd, scan_cons_kept hd, ih, List.cons_append]

theorem isIdentChar_toLower (c : Char) : isIdentChar c.toLower = isIdentChar c := by
  by_cases h : c.isUpper = true
  · have hc : c.isAlpha = true := by simp [Char.isAlpha, h]
    simp [isIdentChar, Char.isAlphanum, hc]
  · rw [Char.toLower_eq_of_not_isUpper h]

/-- Two characters that are the same but for the case of an ASCII letter. -/
def SameLetter (c d : Char) : Prop :=
  c.toLower = d.toLower

theorem SameLetter.isIdentChar_eq {c d : Char} (h : SameLetter c d) :
    isIdentChar c = isIdentChar d := by
  rw [← isIdentChar_toLower c, h, isIdentChar_toLower]

theorem SameLetter.cased_eq {c d : Char} (h : SameLetter c d) (first : Bool) :
    cased first c = cased first d := by
  cases first with
  | false => exact h
  | true =>
    have hlower : c.toLower.toUpper = d.toLower.toUpper := congrArg Char.toUpper h
    rwa [Char.toUpper_toLower_eq_toUpper, Char.toUpper_toLower_eq_toUpper] at hlower

theorem sameLetter_cased (first : Bool) (c : Char) : SameLetter c (cased first c) := by
  cases first with
  | false => exact (Char.toLower_toLower_eq_toLower c).symm
  | true => exact (Char.toLower_toUpper_eq_toLower c).symm

/-- Every character that belongs to a word is written, and no other. -/
theorem scan_kept (first : Bool) (cs : List Char) :
    List.Forall₂ SameLetter (cs.filter isIdentChar) (scan first cs) := by
  induction cs generalizing first with
  | nil => exact .nil
  | cons c cs ih =>
    cases hc : isIdentChar c with
    | false =>
      rw [scan_cons_dropped hc, List.filter_cons_of_neg (by simp [hc])]
      exact ih true
    | true =>
      rw [scan_cons_kept hc, List.filter_cons_of_pos hc]
      exact .cons (sameLetter_cased first c) (ih false)

/-- A scan does not see the case of letters. -/
theorem scan_sameLetter {cs ds : List Char} (h : List.Forall₂ SameLetter cs ds) (first : Bool) :
    scan first cs = scan first ds := by
  induction h generalizing first with
  | nil => rfl
  | @cons c d cs ds hcd _ ih =>
    rw [scan, scan, hcd.isIdentChar_eq, hcd.cased_eq, ih, ih]

/-- How the part of identifiers that comes from a name is made of its characters. -/
structure Scanned (name : String) : Prop where
  scanned : camel name = String.ofList (scan true name.toList)
  identText : IdentText (camel name)
  /-- One character for each of the name that identifiers may have, the same but for its case. -/
  kept : List.Forall₂ SameLetter (name.toList.filter isIdentChar) (camel name).toList
  length : (camel name).length = name.toList.countP isIdentChar
  cut : ∀ (front back : String) (c : Char), isIdentChar c = false →
    name = front ++ String.singleton c ++ back → camel name = camel front ++ camel back
  /-- Names that differ in the case of ASCII letters alone come to the same. -/
  recased : ∀ other : String, List.Forall₂ SameLetter name.toList other.toList →
    camel other = camel name

theorem camel_scanned (name : String) : Scanned name where
  scanned := by rw [camel, camelChars_eq_scan]
  identText := camel_identText name
  kept := by
    rw [toList_camel]
    exact scan_kept true name.toList
  length := by
    rw [← String.length_toList, toList_camel, ← (scan_kept true name.toList).length_eq,
      List.countP_eq_length_filter]
  cut front back c hc he := by
    rw [← String.toList_inj, String.toList_append, toList_camel, toList_camel, toList_camel, he,
      String.toList_append, String.toList_append, String.toList_singleton, List.append_assoc,
      List.singleton_append, scan_append_cons hc]
  recased other h := by
    rw [camel, camel, camelChars_eq_scan, camelChars_eq_scan, scan_sameLetter h]

end LinkStubs.Identifier
