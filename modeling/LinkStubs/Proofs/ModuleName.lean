import LinkStubs.Path
import LinkStubs.Proofs.Text

/-!
Names of modules. The name of a file loses one extension after another until it is its own stem.
What remains is the name up to its first dot behind its first character, and nothing where that is
a single dot.
-/

namespace LinkStubs.Path

open LinkStubs.Text

/-- In so many rounds, each of which leaves the stem of what it is given, a name comes to one that
is its own stem. -/
inductive Stripped : Nat → List Char → List Char → Prop where
  | done {name : List Char} (h : stem name = name) : Stripped 0 name name
  | round {n : Nat} {name bare : List Char} (h : stem name ≠ name)
      (rest : Stripped n (stem name) bare) : Stripped (n + 1) name bare

/-- A name up to its first dot behind its first character. -/
def beforeDots : List Char → List Char
  | [] => []
  | c :: cs => c :: cs.takeWhile (· != '.')

/-- A name without all that follows such a dot; a single dot is no name. -/
def undotted (name : List Char) : List Char :=
  if beforeDots name = ['.'] then [] else beforeDots name

/-- What is left of a name that loses its extensions. -/
structure Bared (name bare : List Char) : Prop where
  /-- There are no more rounds than dots. -/
  stripped : ∃ n ≤ name.count '.', Stripped n name bare
  kept : '.' ∉ name.tail → bare = name
  cut : ∀ front rest, name = front ++ '.' :: rest → front ≠ [] → '.' ∉ front.tail →
    bare = if front = ['.'] then [] else front
  starts : bare <+: name
  single : '/' ∉ bare
  dot_first : '.' ∉ bare.tail
  ne_dot : bare ≠ ['.']
  ne_dots : bare ≠ ['.', '.']

theorem mem_names_of_fileName {path name : List Char} (h : fileName? path = some name) :
    name ∈ names path ∧ name ≠ ['.'] ∧ name ≠ ['.', '.'] := by
  rw [fileName?] at h
  split at h
  · cases h
  · rename_i found hfound
    split at h
    · cases h
    · rename_i hdots
      obtain rfl := Option.some.inj h
      obtain ⟨hname, hdot⟩ := List.mem_filter.mp (List.mem_of_getLast? hfound)
      exact ⟨hname, of_decide_eq_true hdot, hdots⟩

theorem slash_not_mem_of_mem_names {path name : List Char} (h : name ∈ names path) :
    '/' ∉ name := by
  intro hslash
  exact absurd (uncut_of_mem_pieces (List.mem_filter.mp h).1 _ hslash) (by decide)

/-- What a path names, or nothing, is a single name and not the directory itself. -/
theorem fileName_single (path : List Char) :
    '/' ∉ (fileName? path).getD [] ∧ (fileName? path).getD [] ≠ ['.'] := by
  cases h : fileName? path with
  | none => simp
  | some name =>
    obtain ⟨hname, hdot, -⟩ := mem_names_of_fileName h
    exact ⟨slash_not_mem_of_mem_names hname, hdot⟩

theorem names_of_single {name : List Char} (h : '/' ∉ name) (hne : name ≠ []) :
    names name = [name] := by
  rw [names, pieces_of_uncut (uncut_of_not_mem h), List.filter_cons_of_pos (by simp [hne]),
    List.filter_nil]

/-- A path without a slash names itself, unless it stands for a directory. -/
theorem fileName?_of_single {name : List Char} (h : '/' ∉ name) :
    fileName? name =
      if name = [] ∨ name = ['.'] ∨ name = ['.', '.'] then none else some name := by
  by_cases hn : name = []
  · subst hn
    rfl
  · by_cases hd : name = ['.']
    · subst hd
      rfl
    · have hnames : (names name).filter (· ≠ ['.']) = [name] := by
        simp [names_of_single h hn, hd]
      rw [fileName?, hnames]
      simp [hn, hd]

theorem beforeLastDot_eq_none {name : List Char} (h : beforeLastDot? name = none) :
    '.' ∉ name := by
  induction name with
  | nil => simp
  | cons c cs ih =>
    simp only [beforeLastDot?] at h
    split at h
    · cases h
    · rename_i hcs
      split at h
      · cases h
      · rename_i hc
        simp only [List.mem_cons, not_or]
        exact ⟨Ne.symm hc, ih hcs⟩

theorem beforeLastDot_eq_some {name before : List Char} (h : beforeLastDot? name = some before) :
    ∃ after, name = before ++ '.' :: after ∧ '.' ∉ after := by
  induction name generalizing before with
  | nil => cases h
  | cons c cs ih =>
    simp only [beforeLastDot?] at h
    split at h
    · rename_i b hb
      obtain rfl := Option.some.inj h
      obtain ⟨after, rfl, hafter⟩ := ih hb
      exact ⟨after, rfl, hafter⟩
    · rename_i hcs
      split at h
      · rename_i hc
        obtain rfl := Option.some.inj h
        exact ⟨cs, by rw [hc, List.nil_append], beforeLastDot_eq_none hcs⟩
      · cases h

/-- A name keeps what stands before its last dot, unless only its first character is a dot. -/
theorem dropExtension_cases (name : List Char) :
    ('.' ∉ name.tail ∧ dropExtension name = name) ∨
      ∃ c before after, name = c :: before ++ '.' :: after ∧ dropExtension name = c :: before := by
  unfold dropExtension
  split
  · rename_i hnone
    exact Or.inl ⟨fun hm => beforeLastDot_eq_none hnone (List.mem_of_mem_tail hm), rfl⟩
  · rename_i hsome
    obtain ⟨after, rfl, hafter⟩ := beforeLastDot_eq_some hsome
    exact Or.inl ⟨hafter, rfl⟩
  · rename_i before hne hsome
    obtain ⟨c, before, rfl⟩ := List.exists_cons_of_ne_nil hne
    obtain ⟨after, hname, -⟩ := beforeLastDot_eq_some hsome
    exact Or.inr ⟨c, before, after, hname, rfl⟩

theorem stem_cases {name : List Char} (h : '/' ∉ name) :
    ((name = ['.'] ∨ name = ['.', '.']) ∧ stem name = []) ∨
      ('.' ∉ name.tail ∧ name ≠ ['.'] ∧ stem name = name) ∨
      ∃ c before after, name = c :: before ++ '.' :: after ∧ stem name = c :: before := by
  rw [stem, fileStem?, fileName?_of_single h]
  by_cases hdots : name = ['.'] ∨ name = ['.', '.']
  · exact Or.inl ⟨hdots, by rw [if_pos (Or.inr hdots)]; rfl⟩
  · refine Or.inr ?_
    by_cases hn : name = []
    · subst hn
      exact Or.inl ⟨by simp, by simp, rfl⟩
    · have hnamed : ¬ (name = [] ∨ name = ['.'] ∨ name = ['.', '.']) := not_or.mpr ⟨hn, hdots⟩
      rw [if_neg hnamed, Option.map_some, Option.getD_some]
      rcases dropExtension_cases name with ⟨htail, he⟩ | hcut
      · exact Or.inl ⟨htail, fun hd => hdots (Or.inl hd), he⟩
      · exact Or.inr hcut

theorem slash_not_mem_stem {name : List Char} (h : '/' ∉ name) : '/' ∉ stem name :=
  fun hm => h ((stem_sublist name).mem hm)

theorem beforeDots_of_tail {name : List Char} (h : '.' ∉ name.tail) : beforeDots name = name := by
  cases name with
  | nil => rfl
  | cons c cs =>
    rw [beforeDots, List.takeWhile_eq_self_iff.mpr]
    intro d hd
    rw [bne_iff_ne]
    rintro rfl
    exact h hd

/-- What follows a dot behind the first character makes no difference. -/
theorem beforeDots_append (c : Char) (before after : List Char) :
    beforeDots (c :: before ++ '.' :: after) = beforeDots (c :: before) := by
  have hbefore : (before ++ '.' :: after).takeWhile (· != '.') = before.takeWhile (· != '.') := by
    induction before with
    | nil => rfl
    | cons d before ih => rw [List.cons_append, List.takeWhile_cons, List.takeWhile_cons, ih]
  rw [List.cons_append, beforeDots, beforeDots, hbefore]

theorem undotted_stem {name : List Char} (h : '/' ∉ name) :
    undotted (stem name) = undotted name := by
  rcases stem_cases h with ⟨rfl | rfl, hs⟩ | ⟨-, -, hs⟩ | ⟨c, before, after, rfl, hs⟩
  · rw [hs]
    rfl
  · rw [hs]
    rfl
  · rw [hs]
  · rw [hs, undotted, undotted, beforeDots_append]

/-- One round takes a dot away. -/
theorem count_stem_lt {name : List Char} (h : '/' ∉ name) (hne : stem name ≠ name) :
    (stem name).count '.' < name.count '.' := by
  rcases stem_cases h with ⟨rfl | rfl, hs⟩ | ⟨-, -, hs⟩ | ⟨c, before, after, rfl, hs⟩
  · rw [hs]
    decide
  · rw [hs]
    decide
  · exact absurd hs hne
  · rw [hs, List.count_append, List.count_cons_self]
    omega

/-- A name that is its own stem has no dot but at its front. -/
theorem tail_of_stem_eq {name : List Char} (h : '/' ∉ name) (he : stem name = name) :
    '.' ∉ name.tail ∧ name ≠ ['.'] := by
  rcases stem_cases h with ⟨rfl | rfl, hs⟩ | ⟨htail, hdot, -⟩ | ⟨c, before, after, rfl, hs⟩
  · cases hs.symm.trans he
  · cases hs.symm.trans he
  · exact ⟨htail, hdot⟩
  · have hl := congrArg List.length (hs.symm.trans he)
    simp at hl

theorem undotted_of_tail {name : List Char} (h : '.' ∉ name.tail) (hdot : name ≠ ['.']) :
    undotted name = name := by
  rw [undotted, beforeDots_of_tail h, if_neg hdot]

namespace Stripped

variable {n : Nat} {name bare : List Char}

theorem eq_undotted (h : Stripped n name bare) (hs : '/' ∉ name) : bare = undotted name := by
  induction h with
  | done he =>
    obtain ⟨htail, hdot⟩ := tail_of_stem_eq hs he
    exact (undotted_of_tail htail hdot).symm
  | round _ _ ih => rw [ih (slash_not_mem_stem hs), undotted_stem hs]

theorem rounds_le (h : Stripped n name bare) (hs : '/' ∉ name) : n ≤ name.count '.' := by
  induction h with
  | done _ => exact Nat.zero_le _
  | round hne _ ih =>
    have hrest := ih (slash_not_mem_stem hs)
    have hround := count_stem_lt hs hne
    omega

end Stripped

/-- The rounds come to an end, whatever the name. -/
theorem stripped_bareName (name : List Char) : ∃ n, Stripped n name (bareName name) := by
  fun_induction bareName name with
  | case1 name h => exact ⟨0, .done h⟩
  | case2 name h ih =>
    obtain ⟨n, hn⟩ := ih
    exact ⟨n + 1, .round h hn⟩

theorem bareName_eq {name : List Char} (h : '/' ∉ name) : bareName name = undotted name := by
  obtain ⟨n, hn⟩ := stripped_bareName name
  exact hn.eq_undotted h

theorem beforeDots_starts (name : List Char) : beforeDots name <+: name := by
  cases name with
  | nil => exact List.prefix_rfl
  | cons c cs => exact List.cons_prefix_cons.mpr ⟨rfl, List.takeWhile_prefix _⟩

theorem undotted_starts (name : List Char) : undotted name <+: name := by
  unfold undotted
  split
  · exact List.nil_prefix
  · exact beforeDots_starts name

theorem dot_not_mem_tail_undotted (name : List Char) : '.' ∉ (undotted name).tail := by
  unfold undotted
  split
  · simp
  · cases name with
    | nil => simp [beforeDots]
    | cons c cs =>
      intro hm
      simpa using List.mem_takeWhile_imp hm

theorem undotted_ne_dot (name : List Char) : undotted name ≠ ['.'] := by
  unfold undotted
  split
  · simp
  · assumption

theorem bared_bareName {name : List Char} (h : '/' ∉ name) (hdot : name ≠ ['.']) :
    Bared name (bareName name) := by
  obtain ⟨n, hn⟩ := stripped_bareName name
  have hstripped : ∃ n ≤ name.count '.', Stripped n name (bareName name) :=
    ⟨n, hn.rounds_le h, hn⟩
  rw [bareName_eq h] at hstripped ⊢
  have htail := dot_not_mem_tail_undotted name
  refine
    { stripped := hstripped
      kept := fun hname => undotted_of_tail hname hdot
      cut := ?_
      starts := undotted_starts name
      single := fun hm => h ((undotted_starts name).mem hm)
      dot_first := htail
      ne_dot := undotted_ne_dot name
      ne_dots := fun he => by simp [he] at htail }
  rintro front rest rfl hne hfront
  obtain ⟨c, cs, rfl⟩ := List.exists_cons_of_ne_nil hne
  rw [undotted, beforeDots_append, beforeDots_of_tail hfront]

theorem fileName_self {name : List Char} (h : '/' ∉ name) (hdot : name ≠ ['.'])
    (hdots : name ≠ ['.', '.']) : (fileName? name).getD [] = name := by
  rw [fileName?_of_single h]
  split
  · rename_i hnone
    rcases hnone with rfl | hd | hd
    · rfl
    · exact absurd hd hdot
    · exact absurd hd hdots
  · rfl

theorem slash_not_mem_moduleName (path : String) : '/' ∉ (moduleName path).toList := by
  obtain ⟨hsingle, -⟩ := fileName_single path.toList
  rw [moduleName, String.toList_ofList, bareName_eq hsingle]
  exact fun hm => hsingle ((undotted_starts _).mem hm)

/-- The name of a module is what is left of the name of its file, and it loses nothing more. -/
theorem moduleName_bared (path : String) :
    Bared ((fileName? path.toList).getD []) (moduleName path).toList ∧
      moduleName (moduleName path) = moduleName path := by
  obtain ⟨hsingle, hdot⟩ := fileName_single path.toList
  have hname : (moduleName path).toList = bareName ((fileName? path.toList).getD []) :=
    String.toList_ofList
  have hbared := bared_bareName hsingle hdot
  rw [← hname] at hbared
  refine ⟨hbared, ?_⟩
  rw [← String.toList_inj, moduleName, String.toList_ofList,
    fileName_self hbared.single hbared.ne_dot hbared.ne_dots, bareName_eq hbared.single,
    undotted_of_tail hbared.dot_first hbared.ne_dot]

example : moduleName "..sigs/a/.lib.so.6/." = ".lib" ∧ moduleName "a/...sigs" = "" := by
  decide +kernel

end LinkStubs.Path
