import LinkStubs.Proofs.Arguments
import Mathlib.Data.List.Forall2

/-!
Blanks of another kind. A line divides in the same way whatever its blanks are, but only a space
ends the type of a parameter: where a tab takes the place of that space, the type stays a part of
the name.
-/

namespace LinkStubs

open LinkStubs.Text

namespace Text

/-- Characters that make no difference to how a line divides: they are the same, or both are blanks
that end no line. -/
def Alike (c d : Char) : Prop :=
  c = d ∨ isBlank c = true ∧ isBlank d = true ∧ c ≠ '\n' ∧ d ≠ '\n'

/-- A character and what may stand for it where spaces are replaced by tabs. -/
def Retab (c d : Char) : Prop :=
  d = c ∨ c = ' ' ∧ d = '\t'

instance Retab.decidable (c d : Char) : Decidable (Retab c d) :=
  inferInstanceAs (Decidable (_ ∨ _))

/-- Some spaces of a text are replaced by tabs. -/
abbrev Retabbed (cs ds : List Char) : Prop :=
  List.Forall₂ Retab cs ds

theorem Alike.symm {c d : Char} (h : Alike c d) : Alike d c := by
  rcases h with rfl | ⟨hc, hd, hcn, hdn⟩
  · exact Or.inl rfl
  · exact Or.inr ⟨hd, hc, hdn, hcn⟩

theorem Alike.blank {c d : Char} (h : Alike c d) : isBlank d = isBlank c := by
  rcases h with rfl | ⟨hc, hd, -, -⟩
  · rfl
  · rw [hc, hd]

theorem Alike.eq_of_unblank {c d : Char} (h : Alike c d) (hc : isBlank c = false) : d = c := by
  rcases h with rfl | ⟨hb, -, -, -⟩
  · rfl
  · rw [hc] at hb
    cases hb

theorem Alike.ne_newline {c d : Char} (h : Alike c d) (hc : c ≠ '\n') : d ≠ '\n' := by
  rcases h with rfl | ⟨-, -, -, hd⟩
  · exact hc
  · exact hd

theorem Alike.ne {c d e : Char} (h : Alike c d) (he : isBlank e = false) (hc : c ≠ e) : d ≠ e := by
  rintro rfl
  exact hc (h.symm.eq_of_unblank he)

theorem Retab.alike {c d : Char} (h : Retab c d) : Alike c d := by
  rcases h with rfl | ⟨rfl, rfl⟩
  · exact Or.inl rfl
  · exact Or.inr (by decide)

/-- A character that ends no type is no space. -/
theorem Retab.eq_of_inside {c d : Char} (h : Retab c d) (hc : endsType c = false) : d = c := by
  rcases h with rfl | ⟨rfl, rfl⟩
  · rfl
  · exact absurd hc (by decide)

section Beside

variable {α β : Type} {R : α → β → Prop} {as : List α} {bs : List β}

theorem exists_of_forall₂_append {front back : List α}
    (h : List.Forall₂ R (front ++ back) bs) :
    ∃ cs ds, bs = cs ++ ds ∧ List.Forall₂ R front cs ∧ List.Forall₂ R back ds := by
  have hflip : List.Forall₂ (flip R) bs (front ++ back) := h.flip
  exact ⟨bs.take front.length, bs.drop front.length, (List.take_append_drop _ _).symm,
    (List.forall₂_take_append _ _ _ hflip).flip, (List.forall₂_drop_append _ _ _ hflip).flip⟩

theorem getElem?_of_forall₂ (h : List.Forall₂ R as bs) {i : Nat} {b : β} (hb : bs[i]? = some b) :
    ∃ a, as[i]? = some a ∧ R a b := by
  obtain ⟨hlt, rfl⟩ := List.getElem?_eq_some_iff.mp hb
  have hlt' : i < as.length := h.length_eq ▸ hlt
  exact ⟨as[i], List.getElem?_eq_getElem hlt', h.get hlt' hlt⟩

theorem forall_of_forall₂ {P : α → Prop} {Q : β → Prop} (h : List.Forall₂ R as bs)
    (hPQ : ∀ a b, R a b → P a → Q b) (has : ∀ a ∈ as, P a) : ∀ b ∈ bs, Q b := by
  intro b hb
  obtain ⟨i, hi⟩ := List.mem_iff_getElem?.mp hb
  obtain ⟨a, ha, hab⟩ := getElem?_of_forall₂ h hi
  exact hPQ a b hab (has a (List.mem_of_getElem? ha))

theorem eq_of_forall₂ {R : α → α → Prop} {bs : List α} (h : List.Forall₂ R as bs)
    (hfixed : ∀ a ∈ as, ∀ b, R a b → b = a) : bs = as := by
  have hsame : List.Forall₂ (· = ·) as bs :=
    ((List.forall₂_and_left _ _).mpr ⟨hfixed, h⟩).imp fun a b hab => (hab.1 b hab.2).symm
  rw [List.forall₂_eq_eq_eq] at hsame
  exact hsame.symm

end Beside

theorem pieces_forall₂ {R : Char → Char → Prop} {cut : Char → Bool} {cs ds : List Char}
    (hcut : ∀ c d, R c d → cut d = cut c) (h : List.Forall₂ R cs ds) :
    List.Forall₂ (List.Forall₂ R) (pieces cut cs) (pieces cut ds) := by
  induction h with
  | nil => exact .cons .nil .nil
  | @cons c d cs ds hc _ ih =>
    cases hb : cut c with
    | true =>
      simp only [pieces, hb, hcut c d hc, ↓reduceIte]
      exact .cons .nil ih
    | false =>
      obtain ⟨p, ps, hp, hcons⟩ := pieces_cons hb cs
      obtain ⟨q, qs, hq, hcons'⟩ := pieces_cons ((hcut c d hc).trans hb) ds
      rw [hp, hq] at ih
      rw [hcons, hcons']
      cases ih with
      | cons hpq hrest => exact .cons (.cons hc hpq) hrest

theorem trim_append_blank {cs ds : List Char} {d : Char} (hcs : trim cs ≠ [])
    (hd : isBlank d = true) (hne : ds ≠ []) (hds : ∀ c ∈ ds.getLast?, isBlank c = false) :
    ∃ front b, isBlank b = true ∧ trim (cs ++ d :: ds) = front ++ b :: trim ds := by
  obtain ⟨start, rest, hsplit, hstart, hrest, htrimmed⟩ := trim_decomposition cs
  obtain ⟨lead, hlead, hblanks⟩ := trim_front hds
  -- The blanks that end `cs`, the blank itself and those that start `ds` are one run of blanks.
  obtain ⟨mid, b, hgap⟩ : ∃ mid b, rest ++ d :: lead = mid ++ [b] := by
    rcases List.eq_nil_or_concat (rest ++ d :: lead) with hn | ⟨mid, b, he⟩
    · simp at hn
    · exact ⟨mid, b, by rw [he, List.concat_eq_append]⟩
  have hb : isBlank b = true := by
    have hm : b ∈ rest ++ d :: lead := by
      rw [hgap]
      exact List.mem_append_right mid List.mem_cons_self
    rcases List.mem_append.mp hm with hm | hm
    · exact hrest b hm
    · rcases List.mem_cons.mp hm with rfl | hm
      · exact hd
      · exact hblanks b hm
  have hkept : trim ds ≠ [] :=
    trim_ne_nil (List.getLast_mem hne) (hds _ (List.getLast?_eq_some_getLast hne))
  have hlast : ∀ c ∈ (mid ++ [b] ++ trim ds).getLast?, isBlank c = false := by
    rw [List.getLast?_append_of_ne_nil _ hkept]
    exact (trimmed_trim ds).2
  refine ⟨trim cs ++ mid, b, hb, ?_⟩
  calc trim (cs ++ d :: ds)
      = trim (start ++ trim cs ++ rest ++ d :: (lead ++ trim ds)) := by rw [← hsplit, ← hlead]
    _ = trim (start ++ (trim cs ++ (mid ++ [b] ++ trim ds)) ++ []) := by
        rw [← hgap]
        simp only [List.append_assoc, List.cons_append, List.append_nil]
    _ = trim cs ++ (mid ++ [b] ++ trim ds) :=
        trim_surrounded _ _ _ hstart (by simp) (htrimmed.append hcs hlast)
    _ = trim cs ++ mid ++ b :: trim ds := by simp

theorem unblank_of_any {cs : List Char} (h : cs.any isBlank = false) :
    ∀ c ∈ cs, isBlank c = false := by
  simpa using h

section Transport

variable {R : Char → Char → Prop} (hR : ∀ c d, R c d → Alike c d) {cs ds : List Char}

include hR

/-- What holds no blanks is left as it is. -/
theorem eq_of_unblank (h : List.Forall₂ R cs ds) (hcs : ∀ c ∈ cs, isBlank c = false) : ds = cs :=
  eq_of_forall₂ h fun c hc d hcd => (hR c d hcd).eq_of_unblank (hcs c hc)

theorem dropWhile_alike (h : List.Forall₂ R cs ds) :
    List.Forall₂ R (cs.dropWhile isBlank) (ds.dropWhile isBlank) := by
  induction h with
  | nil => exact .nil
  | @cons c d cs ds hc hcs ih =>
    cases hb : isBlank c with
    | true =>
      rwa [List.dropWhile_cons_of_pos hb,
        List.dropWhile_cons_of_pos ((hR c d hc).blank.trans hb)]
    | false =>
      rw [List.dropWhile_cons_of_neg (by simp [hb]),
        List.dropWhile_cons_of_neg (by simp [(hR c d hc).blank, hb])]
      exact .cons hc hcs

theorem trim_alike (h : List.Forall₂ R cs ds) : List.Forall₂ R (trim cs) (trim ds) :=
  List.rel_reverse (dropWhile_alike hR (List.rel_reverse (dropWhile_alike hR h)))

end Transport

end Text

namespace Signature

section Transport

variable {R : Char → Char → Prop} (hR : ∀ c d, R c d → Alike c d) {line other : List Char}
  (hr : List.Forall₂ R line other)

include hR hr

theorem Skipped.alike (h : Skipped line) : Skipped other := by
  rcases h with rfl | ⟨more, rfl⟩ | ⟨more, rfl⟩
  · cases hr
    exact Or.inl rfl
  · obtain ⟨front, rest, rfl, hfront, -⟩ := exists_of_forall₂_append hr
    rw [eq_of_unblank hR hfront (unblank_of_any (by decide))]
    exact Or.inr (Or.inl (List.prefix_append _ _))
  · obtain ⟨front, rest, rfl, hfront, -⟩ := exists_of_forall₂_append hr
    rw [eq_of_unblank hR hfront (unblank_of_any (by decide))]
    exact Or.inr (Or.inr (List.prefix_append _ _))

theorem Split.Divides.alike {s : Split} (h : s.Divides line) :
    ∃ t : Split, t.Divides other ∧ List.Forall₂ R s.result t.result ∧ t.name = s.name ∧
      List.Forall₂ R s.params t.params := by
  rw [← h.text_eq, Split.text] at hr
  obtain ⟨_, _, rfl, hr, hrest⟩ := exists_of_forall₂_append hr
  obtain ⟨_, _, rfl, hr, hbody⟩ := exists_of_forall₂_append hr
  obtain ⟨_, blanks, rfl, hr, hblanks⟩ := exists_of_forall₂_append hr
  obtain ⟨result, name, rfl, hresult, hname⟩ := exists_of_forall₂_append hr
  cases hbody with
  | @cons _ _ _ params hopen hparams =>
    cases hrest with
    | @cons _ _ _ rest hclose _ =>
      -- The two parentheses and the name hold no blanks, so they are the same in both lines.
      obtain rfl := (hR _ _ hopen).eq_of_unblank (by decide)
      obtain rfl := (hR _ _ hclose).eq_of_unblank (by decide)
      have hunblank : ∀ c ∈ s.name, isBlank c = false :=
        fun c hc => not_blank_of_identChar (h.name.identChar c hc)
      obtain rfl := eq_of_unblank hR hname hunblank
      have hne : result ≠ [] := by
        rintro rfl
        exact h.result_ne_nil (List.forall₂_nil_right_iff.mp hresult)
      refine ⟨⟨result, s.name, blanks, params, rest⟩, ?_, hresult, rfl, hparams⟩
      exact
        { text_eq := rfl
          result_ne_nil := hne
          result_line := fun hm => forall_of_forall₂ hresult
            (fun c d hcd => (hR c d hcd).ne_newline)
            (fun c hc hn => h.result_line (hn ▸ hc)) _ hm rfl
          name := h.name
          blanks := forall_of_forall₂ hblanks
            (fun c d hcd hc => (hR c d hcd).blank.trans hc) h.blanks
          params := forall_of_forall₂ hparams
            (fun c d hcd hc => ⟨(hR c d hcd).ne (by decide) hc.1, (hR c d hcd).ne_newline hc.2⟩)
            h.params }

end Transport

theorem Split.Shortest.alike {R : Char → Char → Prop} (hR : ∀ c d, R c d → Alike c d)
    {line other : List Char} (hr : List.Forall₂ R line other) {s : Split} (h : s.Shortest line) :
    ∃ t : Split, t.Shortest other ∧ List.Forall₂ R s.result t.result ∧ t.name = s.name ∧
      List.Forall₂ R s.params t.params := by
  obtain ⟨t, ht, hresult, hname, hparams⟩ := h.toDivides.alike hR hr
  refine ⟨t, ⟨ht, fun u hu => ?_⟩, hresult, hname, hparams⟩
  obtain ⟨v, hv, hback, -, -⟩ := hu.alike (R := flip R) (fun c d hcd => (hR d c hcd).symm) hr.flip
  have hle := h.minimal v hv
  rw [← hresult.length_eq, hback.length_eq]
  exact hle

/-- The space that ends a type is replaced, and more than blanks stands between it and the end of a
type before it, so that it is a part of the name which it was in front of. -/
def TypeLost (param other : List Char) : Prop :=
  ∃ type before name, param = type ++ ' ' :: name ∧ (∀ c ∈ name, endsType c = false) ∧
    other = before ++ '\t' :: name ∧ ∃ c ∈ behindType before, isBlank c = false

/-- Spaces are all that is replaced, and each of them ends a type. -/
theorem eq_of_retabbed {cs ds : List Char} (h : Retabbed cs ds)
    (hcs : ∀ c ∈ cs, endsType c = false) : ds = cs :=
  eq_of_forall₂ h fun c hc _ hcd => hcd.eq_of_inside (hcs c hc)

/-- Brackets behind a character that is none are dropped or not, whatever that is behind. -/
theorem dropBrackets_append {b : Char} (hb : b ≠ '[' ∧ b ≠ ']') (front back : List Char) :
    dropBrackets (front ++ b :: back) = front ++ b :: dropBrackets back := by
  by_cases h : ['[', ']'] <:+ back
  · obtain ⟨rest, rfl⟩ := h
    have hassoc : front ++ b :: (rest ++ ['[', ']']) = (front ++ b :: rest) ++ ['[', ']'] := by
      simp
    rw [hassoc, dropBrackets_pair, dropBrackets_pair]
  · have hbracket : b ∉ ['[', ']'] := by simp [hb]
    have hnot : ¬ ['[', ']'] <:+ front ++ b :: back :=
      fun hs => h (suffix_of_suffix_append_cons hbracket hs)
    rw [dropBrackets_of_end h, dropBrackets_of_end hnot]

theorem argumentChars_kept {p q : List Char} (hr : Retabbed p q) (h : ¬ TypeLost p q) :
    argumentChars q = argumentChars p := by
  obtain ⟨type, hp, htype, hname⟩ := behindType_decomposition p
  rcases List.eq_nil_or_concat type with rfl | ⟨front, c, rfl⟩
  · have hnone : ∀ c ∈ p, endsType c = false := by
      rw [hp]
      exact hname
    rw [eq_of_retabbed hr hnone]
  · have hc : endsType c = true := htype c (by simp)
    have hsplit : p = front ++ c :: behindType p := by simpa using hp
    rw [hsplit] at hr
    obtain ⟨before, _, rfl, -, hrest⟩ := exists_of_forall₂_append hr
    cases hrest with
    | @cons _ d _ rest hd hrest =>
      obtain rfl : rest = behindType p := eq_of_retabbed hrest hname
      rcases hd with rfl | ⟨rfl, rfl⟩
      · rw [argumentChars_eq, argumentChars_eq, behindType_cons hc hname]
      · -- The space that ended the type is a tab now; what is in front of the name is trimmed away.
        have hblank : ∀ c ∈ behindType before ++ ['\t'], isBlank c = true := by
          rw [List.forall_mem_append]
          refine ⟨fun c hc => ?_, List.forall_mem_singleton.mpr (by decide)⟩
          by_contra hn
          exact h ⟨front, before, behindType p, hsplit, hname, rfl, c, hc, by simpa using hn⟩
        have hq : behindType (before ++ '\t' :: behindType p) =
            (behindType before ++ ['\t']) ++ behindType p := by
          rw [behindType_append (List.forall_mem_cons.mpr ⟨by decide, hname⟩), List.append_assoc,
            List.singleton_append]
        have htrim := trim_between _ (behindType p) [] hblank (by simp)
        rw [List.append_nil] at htrim
        rw [argumentChars_eq, argumentChars_eq, hq, htrim]

theorem argumentChars_lost {p q : List Char} (ht : Trimmed p) (h : TypeLost p q) :
    ∃ front b, isBlank b = true ∧ argumentChars q = front ++ b :: argumentChars p := by
  obtain ⟨type, before, name, rfl, hname, rfl, c, hc, hunblank⟩ := h
  have hne : name ≠ [] := by
    rintro rfl
    exact absurd (ht.2 ' ' (by simp)) (by decide)
  have hlast : ∀ d ∈ name.getLast?, isBlank d = false := by
    intro d hd
    apply ht.2
    rw [List.getLast?_append, List.getLast?_cons, Option.mem_def.mp hd]
    rfl
  have hq : behindType (before ++ '\t' :: name) = behindType before ++ '\t' :: name :=
    behindType_append (List.forall_mem_cons.mpr ⟨by decide, hname⟩) before
  have hp : behindType (type ++ ' ' :: name) = name := behindType_cons (by decide) hname type
  obtain ⟨front, b, hb, htrim⟩ :=
    trim_append_blank (trim_ne_nil hc hunblank) (by decide : isBlank '\t' = true) hne hlast
  have hbracket : b ≠ '[' ∧ b ≠ ']' := by
    constructor <;> rintro rfl <;> exact absurd hb (by decide)
  refine ⟨front, b, hb, ?_⟩
  rw [argumentChars_eq, argumentChars_eq, hp, hq, htrim, dropBrackets_append hbracket]

/-- The argument name of a parameter is kept just where the end of its type is. -/
theorem argumentName_iff {p q : String} (ht : Trimmed p.toList)
    (hr : Retabbed p.toList q.toList) :
    argumentName q = argumentName p ↔ ¬ TypeLost p.toList q.toList := by
  constructor
  · intro he hlost
    obtain ⟨front, b, -, hq⟩ := argumentChars_lost ht hlost
    have hlength := congrArg String.length he
    simp only [argumentName, String.length_ofList, hq, List.length_append, List.length_cons]
      at hlength
    omega
  · intro h
    rw [argumentName, argumentName, argumentChars_kept hr h]

/-- A name, and what it becomes where more than the name is taken for it. -/
def Behind (name other : String) : Prop :=
  other = name ∨ ∃ front b, isBlank b = true ∧ other.toList = front ++ b :: name.toList

theorem behind_argumentName {p q : String} (ht : Trimmed p.toList)
    (hr : Retabbed p.toList q.toList) : Behind (argumentName p) (argumentName q) := by
  by_cases h : TypeLost p.toList q.toList
  · obtain ⟨front, b, hb, hq⟩ := argumentChars_lost ht h
    exact Or.inr ⟨front, b, hb, by rw [argumentName, argumentName, String.toList_ofList,
      String.toList_ofList, hq]⟩
  · exact Or.inl ((argumentName_iff ht hr).mpr h)

theorem blank_not_mem_ellipsis {b : Char} (hb : isBlank b = true) : b ∉ ellipsis.toList := by
  intro hm
  obtain rfl : b = '.' := by simpa [ellipsis] using hm
  exact absurd hb (by decide)

/-- What ends in `...` ended in it before. -/
theorem Behind.ellipsis_suffix {name other : String} (h : Behind name other)
    (hs : ellipsis.toList <:+ other.toList) : ellipsis.toList <:+ name.toList := by
  rcases h with rfl | ⟨front, b, hb, he⟩
  · exact hs
  · rw [he] at hs
    exact suffix_of_suffix_append_cons (blank_not_mem_ellipsis hb) hs

theorem Behind.eq_ellipsis {name other : String} (h : Behind name other)
    (he : other = ellipsis) : name = ellipsis := by
  subst he
  rcases h with rfl | ⟨front, b, hb, he⟩
  · rfl
  · have hm : b ∈ ellipsis.toList := by
      rw [he]
      exact List.mem_append_right front List.mem_cons_self
    exact absurd hm (blank_not_mem_ellipsis hb)

abbrev RetabbedParams (ps qs : List String) : Prop :=
  List.Forall₂ (fun p q => Retabbed p.toList q.toList) ps qs

variable {ps qs : List String}

theorem behind_argumentNames (ht : ∀ p ∈ ps, Trimmed p.toList) (hr : RetabbedParams ps qs) :
    List.Forall₂ Behind (ps.map argumentName) (qs.map argumentName) := by
  rw [List.forall₂_map_left_iff, List.forall₂_map_right_iff]
  exact ((List.forall₂_and_left _ _).mpr ⟨ht, hr⟩).imp fun p q h => behind_argumentName h.1 h.2

theorem ellipsis_back (hn : List.Forall₂ Behind (ps.map argumentName) (qs.map argumentName))
    {i : Nat} (hi : (qs.map argumentName)[i]? = some ellipsis) :
    (ps.map argumentName)[i]? = some ellipsis := by
  obtain ⟨name, hname, hbehind⟩ := getElem?_of_forall₂ hn hi
  rw [hname, hbehind.eq_ellipsis rfl]

theorem filled_of_retabbed (hr : RetabbedParams ps qs) (h : Filled ps) : Filled qs := by
  intro hm
  have hempty : "" ∈ ps := by
    obtain ⟨i, hi⟩ := List.mem_iff_getElem?.mp hm
    obtain ⟨p, hp, hpq⟩ := getElem?_of_forall₂ hr hi
    have hnil : p.toList = [] := List.forall₂_nil_right_iff.mp hpq
    exact List.mem_of_getElem? (String.toList_eq_nil_iff.mp hnil ▸ hp)
  rw [← hr.length_eq]
  exact h hempty

/-- A tail that keeps its name leaves a list that can be passed on. -/
theorem forwardable_of_retabbed (ht : ∀ p ∈ ps, Trimmed p.toList) (hr : RetabbedParams ps qs)
    (h : Forwardable ps)
    (htail : ellipsis ∈ ps.map argumentName → ellipsis ∈ qs.map argumentName) :
    Forwardable qs := by
  have hn := behind_argumentNames ht hr
  refine
    { filled := filled_of_retabbed hr h.filled
      unglued := ?_
      tailLast := fun i hi => hr.length_eq ▸ h.tailLast i (ellipsis_back hn hi)
      named := fun h0 => h.named (ellipsis_back hn h0) }
  intro q hq hs
  obtain ⟨i, hi⟩ := List.mem_iff_getElem?.mp (List.mem_map_of_mem hq)
  obtain ⟨name, hname, hbehind⟩ := getElem?_of_forall₂ hn hi
  obtain ⟨p, hp, rfl⟩ := List.mem_map.mp (List.mem_of_getElem? hname)
  rw [h.unglued p hp (hbehind.ellipsis_suffix hs)] at hname
  -- The tail is found at one place only, so this is where it still stands.
  obtain ⟨j, hj⟩ := List.mem_iff_getElem?.mp (htail (List.mem_of_getElem? hname))
  have hsame : i = j := by
    have hlast := h.tailLast i hname
    have hlast' := h.tailLast j (ellipsis_back hn hj)
    omega
  rw [← hsame, hi] at hj
  exact Option.some.inj hj

/-- A tail that loses its name is taken for one that is glued to something. -/
theorem gluedEllipsis_of_retabbed (ht : ∀ p ∈ ps, Trimmed p.toList) (hr : RetabbedParams ps qs)
    (h : Forwardable ps)
    (htail : ellipsis ∈ ps.map argumentName ∧ ellipsis ∉ qs.map argumentName) :
    ParamFault.gluedEllipsis.Of qs := by
  refine ⟨filled_of_retabbed hr h.filled, fun hunglued => ?_⟩
  obtain ⟨hm, hnot⟩ := htail
  obtain ⟨i, hi⟩ := List.mem_iff_getElem?.mp hm
  have hn : List.Forall₂ (flip Behind) (qs.map argumentName) (ps.map argumentName) :=
    (behind_argumentNames ht hr).flip
  obtain ⟨other, hother, hbehind⟩ := getElem?_of_forall₂ hn hi
  have hmem := List.mem_of_getElem? hother
  rcases hbehind with rfl | ⟨front, b, -, he⟩
  · exact hnot hmem
  · obtain ⟨q, hq, rfl⟩ := List.mem_map.mp hmem
    have hs : ellipsis.toList <:+ (argumentName q).toList := ⟨front ++ [b], by simp [he]⟩
    rw [hunglued q hq hs] at hmem
    exact hnot hmem

/-- Of several faults of a list, just one is the first. -/
theorem ParamFault.Of.unique {fault other : ParamFault} (h : fault.Of ps) (h' : other.Of ps) :
    fault = other := by
  cases fault <;> cases other <;> simp_all [ParamFault.Of]

/-- What a line that declares `s` declares where some of its spaces are replaced by tabs. -/
structure Reread (s t : Signature) : Prop where
  returnType : Retabbed s.returnType.toList t.returnType.toList
  name : t.name = s.name
  params : RetabbedParams s.params t.params
  exportMark : t.exportMark = s.exportMark
  /-- Parameters keep their argument names as long as they keep the ends of their types. -/
  names : List.Forall₂
    (fun p q => argumentName q = argumentName p ↔ ¬ TypeLost p.toList q.toList) s.params t.params
  /-- The same arguments are passed on under the same names. -/
  body : t.argumentNames = s.argumentNames → StubBody.ofSignature t = StubBody.ofSignature s

theorem returnsVoid_of_retabbed {s t : Signature}
    (h : Retabbed s.returnType.toList t.returnType.toList) : t.returnsVoid = s.returnsVoid := by
  have hunblank : ∀ c ∈ "void".toList, isBlank c = false := unblank_of_any (by decide)
  have hiff : t.returnType = "void" ↔ s.returnType = "void" := by
    constructor
    · intro hvoid
      rw [hvoid] at h
      exact String.toList_inj.mp
        (eq_of_unblank (R := flip Retab) (fun c d hcd => hcd.alike.symm) h.flip hunblank)
    · intro hvoid
      rw [hvoid] at h
      exact String.toList_inj.mp (eq_of_unblank (fun c d hcd => hcd.alike) h hunblank)
  rw [Bool.eq_iff_iff, returnsVoid, returnsVoid, beq_iff_eq, beq_iff_eq, hiff]

theorem reread_of_retabbed {s t : Signature} (ht : ∀ p ∈ s.params, Trimmed p.toList)
    (hresult : Retabbed s.returnType.toList t.returnType.toList) (hname : t.name = s.name)
    (hparams : RetabbedParams s.params t.params) (hmark : t.exportMark = s.exportMark) :
    Reread s t where
  returnType := hresult
  name := hname
  params := hparams
  exportMark := hmark
  names := ((List.forall₂_and_left _ _).mpr ⟨ht, hparams⟩).imp fun p q h => argumentName_iff h.1 h.2
  body h := by
    simp only [StubBody.ofSignature, h, returnsVoid_of_retabbed hresult]

/-- With tabs in place of some spaces, a line that can be read is divided as before, and refused
only if the tail of its parameters is glued to a type. -/
theorem readLine_retabbed {line other : String} {position : Position} {s : Signature}
    (h : readLine line position = .ok (some s)) (hr : Retabbed line.toList other.toList) :
    ∃ t : Signature, Reread s t ∧
      ((ellipsis ∈ s.argumentNames → ellipsis ∈ t.argumentNames) →
        readLine other position = .ok (some t)) ∧
      (¬ (ellipsis ∈ s.argumentNames → ellipsis ∈ t.argumentNames) →
        readLine other position = .error (.unsupported position
          (String.ofList (trim other.toList)) ParamFault.gluedEllipsis.reason)) := by
  obtain ⟨hk, u, hu, hf, rfl⟩ := division_of_readLine h
  have halike : ∀ c d, Retab c d → Alike c d := fun c d hcd => hcd.alike
  have htrim := trim_alike halike hr
  obtain ⟨v, hv, hresult, hname, hparams⟩ := hu.alike halike htrim
  -- Being alike goes both ways, so neither line is a comment unless the other is.
  have hk' : ¬ Skipped (trim other.toList) := fun hskipped =>
    hk (hskipped.alike (R := flip Retab) (fun c d hcd => hcd.alike.symm) htrim.flip)
  have hplain : ∀ p ∈ u.parameters, Trimmed p.toList :=
    fun p hp => (Split.parameters_plain hu.toDivides p hp).1
  have hpairs : RetabbedParams u.parameters v.parameters := by
    rw [Split.parameters, Split.parameters, RetabbedParams, List.forall₂_map_left_iff,
      List.forall₂_map_right_iff]
    refine (pieces_forall₂ ?_ hparams).imp fun p q hpq => ?_
    · rintro c d (rfl | ⟨rfl, rfl⟩)
      · rfl
      · rfl
    · rw [String.toList_ofList, String.toList_ofList]
      exact trim_alike halike hpq
  refine ⟨⟨String.ofList (trim v.result), String.ofList v.name, v.parameters, none⟩,
    reread_of_retabbed hplain ?_ ?_ hpairs rfl, fun htail => ?_, fun htail => ?_⟩
  · rw [String.toList_ofList, String.toList_ofList]
    exact trim_alike halike hresult
  · rw [hname]
  · exact readLine_forwardable position hk' hv (forwardable_of_retabbed hplain hpairs hf htail)
  · have hglued := gluedEllipsis_of_retabbed hplain hpairs hf (Classical.not_imp.mp htail)
    obtain ⟨fault, hfault, he⟩ := readLine_faulty position hk' hv hglued.not_forwardable
    rw [he, hfault.unique hglued]

/-- A tab makes no difference in front of a star, or where the type goes on behind it. -/
theorem readLine_retabbed_of_star :
    readLine "int f2(unsigned int a, char *b)" .start =
        .ok (some ⟨"int", "f2", ["unsigned int a", "char *b"], none⟩) ∧
      Retabbed "int f2(unsigned int a, char *b)".toList
        "int\tf2(unsigned\tint a,\tchar\t*b)".toList ∧
      readLine "int\tf2(unsigned\tint a,\tchar\t*b)" .start =
        .ok (some ⟨"int", "f2", ["unsigned\tint a", "char\t*b"], none⟩) ∧
      StubBody.ofSignature ⟨"int", "f2", ["unsigned\tint a", "char\t*b"], none⟩ =
        StubBody.ofSignature ⟨"int", "f2", ["unsigned int a", "char *b"], none⟩ := by
  have h : readLine "int f2(unsigned int a, char *b)" .start =
      .ok (some ⟨"int", "f2", ["unsigned int a", "char *b"], none⟩) := by rfl
  have hr : Retabbed "int f2(unsigned int a, char *b)".toList
      "int\tf2(unsigned\tint a,\tchar\t*b)".toList := by decide
  have h' : readLine "int\tf2(unsigned\tint a,\tchar\t*b)" .start =
      .ok (some ⟨"int", "f2", ["unsigned\tint a", "char\t*b"], none⟩) := by rfl
  obtain ⟨t, ht, haccepted, -⟩ := readLine_retabbed h hr
  have hsame := (haccepted fun hm => absurd hm (by decide)).symm.trans h'
  obtain rfl := Option.some.inj (Except.ok.inj hsame)
  exact ⟨h, hr, h', ht.body (by decide)⟩

/-- Where a tab ends the type of a parameter, its declaration is passed on, and a tail with a type
is refused. -/
theorem readLine_tab_behind_type :
    Retabbed "int f2(int a)".toList "int f2(int\ta)".toList ∧
      readLine "int f2(int a)" .start = .ok (some ⟨"int", "f2", ["int a"], none⟩) ∧
      readLine "int f2(int\ta)" .start = .ok (some ⟨"int", "f2", ["int\ta"], none⟩) ∧
      (⟨"int", "f2", ["int a"], none⟩ : Signature).argumentNames = ["a"] ∧
      (⟨"int", "f2", ["int\ta"], none⟩ : Signature).argumentNames = ["int\ta"] ∧
      "  return f2_ptr(int\ta);" ∈ Emit.stub ⟨"int", "f2", ["int\ta"], none⟩ ∧
      Retabbed "void f2(int a, T ...)".toList "void f2(int a, T\t...)".toList ∧
      readLine "void f2(int a, T ...)" .start =
        .ok (some ⟨"void", "f2", ["int a", "T ..."], none⟩) ∧
      readLine "void f2(int a, T\t...)" .start = .error (.unsupported .start
        "void f2(int a, T\t...)" "'...' must be a parameter of its own") := by
  refine ⟨by decide, rfl, rfl, by decide, by decide, by decide, by decide, rfl, rfl⟩

end Signature

end LinkStubs
