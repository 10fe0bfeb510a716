import LinkStubs.FileTree
import LinkStubs.Proofs.Text

/-!
What the steps on a tree change. A tree that keeps its directories leads a path where it led before,
so what a path leads to changes only with the entry at its place.
-/

namespace LinkStubs

namespace FileTree

variable {t before middle after : FileTree} {place other : Place} {entry : FileEntry}
  {path text : String}

theorem lookup_filter_ne {entries : List (Place × FileEntry)} (h : other ≠ place) :
    (entries.filter (fun e => e.1 ≠ place)).lookup other = entries.lookup other := by
  induction entries with
  | nil => rfl
  | cons e entries ih =>
    obtain ⟨key, value⟩ := e
    by_cases hk : key = place
    · have hne : (other == key) = false := by simp [hk, h]
      rw [List.filter_cons_of_neg (by simp [hk]), ih, List.lookup_cons, hne]
    · rw [List.filter_cons_of_pos (by simp [hk]), List.lookup_cons, List.lookup_cons, ih]

theorem entryAt?_put_self (h : place ≠ []) : (t.put place entry).entryAt? place = some entry := by
  simp [entryAt?, put, h]

theorem entryAt?_put_of_ne (h : other ≠ place) :
    (t.put place entry).entryAt? other = t.entryAt? other := by
  have hne : (other == place) = false := by simp [h]
  rw [entryAt?, entryAt?, put, List.lookup_cons, hne]
  dsimp only
  rw [lookup_filter_ne h]

structure Extends (before after : FileTree) : Prop where
  home : after.home = before.home
  directory : ∀ place, before.entryAt? place = some .directory →
    after.entryAt? place = some .directory

theorem Extends.refl (t : FileTree) : t.Extends t := ⟨rfl, fun _ h => h⟩

theorem Extends.trans (h : before.Extends middle) (h' : middle.Extends after) :
    before.Extends after :=
  ⟨h'.home.trans h.home, fun place hp => h'.directory place (h.directory place hp)⟩

theorem Extends.put (h : t.entryAt? place ≠ some .directory) : t.Extends (t.put place entry) := by
  refine ⟨rfl, fun other ho => ?_⟩
  have hne : other ≠ place := by
    rintro rfl
    exact h ho
  rw [entryAt?_put_of_ne hne, ho]

theorem Extends.follow (h : before.Extends after) {names : List String} {found : Place}
    (hf : before.follow place names = .ok found) : after.follow place names = .ok found := by
  induction names generalizing place with
  | nil => exact hf
  | cons name names ih =>
    rw [FileTree.follow] at hf ⊢
    split at hf
    · cases hf
    · cases hf
    · rename_i hd
      rw [h.directory place hd]
      dsimp only
      split_ifs at hf ⊢
      · exact ih hf
      · exact ih hf
      · exact ih hf

/-- A path leads to a place where its text can be a path's and its names are followed that far. -/
theorem locate_eq_ok_iff : t.locate path = .ok place ↔
    '\x00' ∉ path.toList ∧ path ≠ "" ∧ path.utf8ByteSize ≤ maxPath ∧
      t.follow (if Path.isRooted path.toList then [] else t.home)
        ((Path.names path.toList).map String.ofList) = .ok place := by
  simp only [FileTree.locate, List.contains_iff_mem, List.isEmpty_iff, String.toList_eq_nil_iff]
  by_cases hnul : '\x00' ∈ path.toList
  · simp [hnul]
  by_cases hempty : path = ""
  · simp [hempty]
  by_cases hlong : maxPath < path.utf8ByteSize
  · simp [hnul, hempty, hlong, Nat.not_le.mpr hlong]
  · simp [hnul, hempty, hlong, Nat.not_lt.mp hlong]

theorem Extends.locate (h : before.Extends after) (hl : before.locate path = .ok place) :
    after.locate path = .ok place := by
  rw [locate_eq_ok_iff] at hl ⊢
  obtain ⟨hnul, hempty, hlong, hf⟩ := hl
  rw [h.home]
  exact ⟨hnul, hempty, hlong, h.follow hf⟩

/-- A name is followed from a directory, whatever comes behind it, and goes down unless it is one of
the two that every directory has. -/
theorem follow_cons {name : String} {names : List String} {found : Place}
    (hf : t.follow place (name :: names) = .ok found) :
    t.entryAt? place = some .directory ∧
      ∃ next, (∀ others, t.follow place (name :: others) = t.follow next others) ∧
        (name ≠ "." → name ≠ ".." → next = place ++ [name]) := by
  rw [FileTree.follow] at hf
  split at hf
  · cases hf
  · cases hf
  · rename_i hd
    refine ⟨hd, ?_⟩
    simp only [FileTree.follow, hd]
    split_ifs at hf ⊢ with hself hup
    · exact ⟨_, fun _ => rfl, fun h => absurd hself h⟩
    · exact ⟨_, fun _ => rfl, fun _ h => absurd hup h⟩
    · exact ⟨_, fun _ => rfl, fun _ _ => rfl⟩

/-- The last of some names goes down, unless it is one of those two, from a directory that the
others lead to. -/
theorem follow_concat {names : List String} {name : String} {found : Place}
    (hf : t.follow place (names ++ [name]) = .ok found) (hself : name ≠ ".") (hup : name ≠ "..") :
    ∃ above, t.follow place names = .ok above ∧ t.entryAt? above = some .directory ∧
      found = above ++ [name] := by
  induction names generalizing place with
  | nil =>
    obtain ⟨hdirectory, next, hnext, hdown⟩ := follow_cons hf
    obtain rfl := hdown hself hup
    rw [List.nil_append, hnext] at hf
    exact ⟨place, rfl, hdirectory, (Except.ok.inj hf).symm⟩
  | cons first names ih =>
    obtain ⟨-, next, hnext, -⟩ := follow_cons hf
    rw [List.cons_append, hnext] at hf
    rw [hnext]
    exact ih hf

end FileTree

namespace Path

open LinkStubs.Text

/-- What the name of a file ends in: it has no slash, and no dot at its end. -/
def IsEnding (s : List Char) : Prop :=
  '/' ∉ s ∧ ∃ c, s.getLast? = some c ∧ c ≠ '.'

theorem names_append (cs : List Char) :
    ∃ front last, ∀ s, s ≠ [] → '/' ∉ s → names (cs ++ s) = front ++ [last ++ s] := by
  obtain ⟨front, last, h⟩ := pieces_append_uncut (· == '/') cs
  refine ⟨front.filter (fun s => !s.isEmpty), last, fun s hne hs => ?_⟩
  rw [names, h s (uncut_of_not_mem hs), List.filter_append, List.filter_cons_of_pos (by simp [hne])]
  rfl

/-- However a path starts, its place is called by its ending. -/
theorem getLast?_of_locate (cs : List Char) :
    ∃ last, ∀ {s : List Char} {t : FileTree} {path : String} {place : Place}, IsEnding s →
      path.toList = cs ++ s → t.locate path = .ok place →
        place.getLast? = some (String.ofList (last ++ s)) := by
  obtain ⟨front, last, h⟩ := names_append cs
  refine ⟨last, ?_⟩
  rintro s t path place ⟨hslash, c, hc, hdot⟩ hp hl
  have hne : s ≠ [] := by
    rintro rfl
    cases hc
  have hlast : (last ++ s).getLast? = some c := by rw [List.getLast?_append, hc]; rfl
  have hname : ∀ dots : List Char, dots.getLast? = some '.' →
      String.ofList (last ++ s) ≠ String.ofList dots := by
    intro dots hdots he
    rw [String.ofList_injective he, hdots] at hlast
    exact hdot (Option.some.inj hlast).symm
  obtain ⟨-, -, -, hf⟩ := FileTree.locate_eq_ok_iff.mp hl
  rw [hp, h s hne hslash, List.map_append, List.map_singleton] at hf
  obtain ⟨above, -, -, rfl⟩ := FileTree.follow_concat hf (hname ['.'] rfl) (hname ['.', '.'] rfl)
  exact List.getLast?_concat

/-- Paths that never lead to one place. -/
def Apart (path other : String) : Prop :=
  ∀ (t : FileTree) (place : Place), t.locate path = .ok place → t.locate other ≠ .ok place

/-- The names of two files that start alike are apart where their endings differ. -/
theorem apart_of_ending_ne {path other : String} {cs s r : List Char} (hs : IsEnding s)
    (hr : IsEnding r) (hp : path.toList = cs ++ s) (ho : other.toList = cs ++ r) (hne : s ≠ r) :
    Apart path other := by
  obtain ⟨last, h⟩ := getLast?_of_locate cs
  intro t place hl hl'
  have he := (h hs hp hl).symm.trans (h hr ho hl')
  exact hne (List.append_cancel_left (String.ofList_injective (Option.some.inj he)))

theorem IsEnding.append {s r : List Char} (hs : '/' ∉ s) (hr : IsEnding r) : IsEnding (s ++ r) := by
  obtain ⟨hslash, c, hc, hdot⟩ := hr
  exact ⟨by simp [hs, hslash], c, by rw [List.getLast?_append, hc]; rfl, hdot⟩

theorem isEnding_singleton {c : Char} (hslash : c ≠ '/') (hdot : c ≠ '.') : IsEnding [c] :=
  ⟨by simpa using Ne.symm hslash, c, rfl, hdot⟩

/-- The last character of a path tells the names of files apart. -/
theorem apart_of_getLast?_ne {path other : String} {c d : Char} (hc : IsEnding [c])
    (hd : IsEnding [d]) (hp : path.toList.getLast? = some c) (ho : other.toList.getLast? = some d)
    (hne : c ≠ d) : Apart path other := by
  obtain ⟨cs, hcs⟩ := List.getLast?_eq_some_iff.mp hp
  obtain ⟨ds, hds⟩ := List.getLast?_eq_some_iff.mp ho
  obtain ⟨last, h⟩ := getLast?_of_locate cs
  obtain ⟨more, h'⟩ := getLast?_of_locate ds
  intro t place hl hl'
  have he := (h hc hcs hl).symm.trans (h' hd hds hl')
  have hends := congrArg List.getLast? (String.ofList_injective (Option.some.inj he))
  simp only [List.getLast?_concat, Option.some.injEq] at hends
  exact hne hends

/-- What stands before the names that are joined to a directory. -/
def front (directory : String) : String :=
  if directory.toList.isEmpty then ""
  else if directory.toList.getLast? = some '/' then directory
  else directory ++ "/"

theorem join_of_single (directory : String) {name : String} (h : '/' ∉ name.toList) :
    join directory name = front directory ++ name := by
  have hhead : ¬ name.toList.head? = some '/' := fun he => h (List.mem_of_head? he)
  rw [join, if_neg hhead, front]
  split_ifs
  · exact String.empty_append.symm
  · rfl
  · rfl

/-- There is nothing before them where there is no directory, and else the directory, with a slash
behind it if it has none at its end. -/
theorem front_cases (directory : String) :
    directory = "" ∧ front directory = "" ∨
      (∃ above, directory.toList = above ++ ['/'] ∧ front directory = directory) ∨
      directory ≠ "" ∧ front directory = directory ++ "/" := by
  rw [front]
  split_ifs with hempty hslash
  · exact .inl ⟨by simpa using hempty, rfl⟩
  · obtain ⟨above, habove⟩ := List.getLast?_eq_some_iff.mp hslash
    exact .inr (.inl ⟨above, habove, rfl⟩)
  · exact .inr (.inr ⟨by simpa using hempty, rfl⟩)

theorem suffix_join (directory name : String) : name.toList <:+ (join directory name).toList := by
  rw [join]
  split_ifs
  · exact List.suffix_refl _
  · exact List.suffix_refl _
  · simp
  · rw [String.toList_append]
    exact List.suffix_append _ _

theorem getLast?_join (directory : String) {name : String} {c : Char}
    (h : name.toList.getLast? = some c) : (join directory name).toList.getLast? = some c := by
  obtain ⟨front, hfront⟩ := suffix_join directory name
  rw [← hfront, List.getLast?_append, h]
  rfl

end Path

namespace FileTree

variable {t before middle after : FileTree} {path text : String} {directories written : List String}

theorem readBytes_eq_ok_iff {content : ByteArray} : t.readBytes path = .ok content ↔
    ∃ place executable, t.locate path = .ok place ∧
      t.entryAt? place = some (.file content executable) ∧ wantsDirectory path = false := by
  constructor
  · intro h
    simp only [readBytes, find, bind, Except.bind, pure, Except.pure] at h
    cases hl : t.locate path with
    | error e => simp [hl] at h
    | ok place =>
      cases he : t.entryAt? place with
      | none => simp [hl, he] at h
      | some entry =>
        cases entry with
        | directory => simp [hl, he] at h
        | file found executable =>
          cases hw : wantsDirectory path with
          | true => simp [hl, he, hw] at h
          | false =>
            have hfound : found = content := by simpa [hl, he, hw] using h
            exact ⟨place, executable, rfl, hfound ▸ he, rfl⟩
  · rintro ⟨place, executable, hl, he, hw⟩
    simp [readBytes, find, hl, he, hw, bind, Except.bind, pure, Except.pure]

theorem readText_eq_ok_iff : t.readText path = .ok text ↔
    ∃ content, t.readBytes path = .ok content ∧ Text.decode? content = some text := by
  simp only [readText, bind, Except.bind, pure, Except.pure]
  cases t.readBytes path with
  | error e => simp
  | ok content => cases hd : Text.decode? content <;> simp [hd]

/-- A text can be written where there is no directory, and nothing else makes a difference. -/
theorem writeText_cases (h : before.writeText path text = .ok after) :
    ∃ place executable, before.locate path = .ok place ∧ wantsDirectory path = false ∧
      before.entryAt? place ≠ some .directory ∧
        after = before.put place (.file text.toUTF8 executable) := by
  simp only [writeText, writeBytes, bind, Except.bind, pure, Except.pure] at h
  cases hl : before.locate path with
  | error e => simp [hl] at h
  | ok place =>
    cases hw : wantsDirectory path with
    | true => simp [hl, hw] at h
    | false =>
      cases he : before.entryAt? place with
      | none => exact ⟨place, false, rfl, rfl, by simp [he], by simpa [hl, hw, he] using h.symm⟩
      | some entry =>
        cases entry with
        | directory => simp [hl, hw, he] at h
        | file content executable =>
          exact ⟨place, executable, rfl, rfl, by simp [he], by simpa [hl, hw, he] using h.symm⟩

theorem makeDirectory_cases (h : before.makeDirectory path = .ok after) :
    ∃ place, before.locate path = .ok place ∧ before.entryAt? place = none ∧
      after = before.put place .directory := by
  simp only [makeDirectory, bind, Except.bind, pure, Except.pure] at h
  cases hl : before.locate path with
  | error e => simp [hl] at h
  | ok place =>
    cases he : before.entryAt? place with
    | some entry => simp [hl, he] at h
    | none => exact ⟨place, rfl, he, by simpa [hl, he] using h.symm⟩

/-- A place holds what it held, or one of `written` leads to it, or it is a directory that was not
there and that one of `directories` leads to. -/
structure Changed (directories written : List String) (before after : FileTree) : Prop
    extends Extends before after where
  entry : ∀ place, after.entryAt? place = before.entryAt? place ∨
    (∃ path ∈ written, after.locate path = .ok place) ∨
    (before.entryAt? place = none ∧ after.entryAt? place = some .directory ∧
      ∃ path ∈ directories, after.locate path = .ok place)

theorem Changed.refl (t : FileTree) : Changed directories written t t :=
  ⟨.refl t, fun _ => .inl rfl⟩

theorem Changed.trans {others more : List String} (h : Changed directories written before middle)
    (h' : Changed others more middle after) :
    Changed (directories ++ others) (written ++ more) before after := by
  refine ⟨h.toExtends.trans h'.toExtends, fun place => ?_⟩
  -- The first step's paths lead where they led, since the second step keeps all directories.
  rcases h'.entry place with he' | ⟨p, hp, hl'⟩ | ⟨hnone', hdir', p, hp, hl'⟩
  · rcases h.entry place with he | ⟨p, hp, hl⟩ | ⟨hnone, hdir, p, hp, hl⟩
    · exact .inl (he'.trans he)
    · exact .inr (.inl ⟨p, List.mem_append_left _ hp, h'.locate hl⟩)
    · exact .inr (.inr ⟨hnone, he'.trans hdir, p, List.mem_append_left _ hp, h'.locate hl⟩)
  · exact .inr (.inl ⟨p, List.mem_append_right _ hp, hl'⟩)
  · rcases h.entry place with he | ⟨q, hq, hl⟩ | ⟨-, hdir, -⟩
    · exact .inr (.inr ⟨he ▸ hnone', hdir', p, List.mem_append_right _ hp, hl'⟩)
    · exact .inr (.inl ⟨q, List.mem_append_left _ hq, h'.locate hl⟩)
    · rw [hdir] at hnone'
      cases hnone'

theorem Changed.mono {others more : List String} (h : Changed directories written before after)
    (hd : directories ⊆ others) (hw : written ⊆ more) : Changed others more before after := by
  refine ⟨h.toExtends, fun place => ?_⟩
  rcases h.entry place with he | ⟨p, hp, hl⟩ | ⟨hnone, hdir, p, hp, hl⟩
  · exact .inl he
  · exact .inr (.inl ⟨p, hw hp, hl⟩)
  · exact .inr (.inr ⟨hnone, hdir, p, hd hp, hl⟩)

/-- A file stays as it is while only files apart from it are written. -/
theorem Changed.readBytes {content : ByteArray} (h : Changed directories written before after)
    (ha : ∀ p ∈ written, Path.Apart path p) (hr : before.readBytes path = .ok content) :
    after.readBytes path = .ok content := by
  obtain ⟨place, executable, hl, he, hw⟩ := readBytes_eq_ok_iff.mp hr
  have hkept : after.entryAt? place = before.entryAt? place := by
    rcases h.entry place with hkept | ⟨p, hp, hl'⟩ | ⟨hnone, -⟩
    · exact hkept
    · exact absurd hl' (ha p hp after place (h.locate hl))
    · rw [he] at hnone
      cases hnone
  exact readBytes_eq_ok_iff.mpr ⟨place, executable, h.locate hl, hkept.trans he, hw⟩

theorem Changed.readText (h : Changed directories written before after)
    (ha : ∀ p ∈ written, Path.Apart path p) (hr : before.readText path = .ok text) :
    after.readText path = .ok text := by
  obtain ⟨content, hc, hd⟩ := readText_eq_ok_iff.mp hr
  exact readText_eq_ok_iff.mpr ⟨content, h.readBytes ha hc, hd⟩

theorem changed_writeText (h : before.writeText path text = .ok after) :
    Changed [] [path] before after := by
  obtain ⟨place, executable, hl, -, hdir, rfl⟩ := writeText_cases h
  have hext : before.Extends (before.put place (.file text.toUTF8 executable)) := .put hdir
  refine ⟨hext, fun other => ?_⟩
  by_cases ho : other = place
  · exact .inr (.inl ⟨path, List.mem_singleton_self path, ho ▸ hext.locate hl⟩)
  · exact .inl (entryAt?_put_of_ne ho)

theorem readText_writeText (h : before.writeText path text = .ok after) :
    after.readText path = .ok text := by
  obtain ⟨place, executable, hl, hw, hdir, rfl⟩ := writeText_cases h
  have hext : before.Extends (before.put place (.file text.toUTF8 executable)) := .put hdir
  have hplace : place ≠ [] := by
    rintro rfl
    exact hdir rfl
  have hdecoded : Text.decode? text.toUTF8 = some text := by
    simp [Text.decode?, String.fromUTF8?, String.fromUTF8, text.isValidUTF8]
  have hbytes := readBytes_eq_ok_iff.mpr
    ⟨place, executable, hext.locate hl, entryAt?_put_self hplace, hw⟩
  exact readText_eq_ok_iff.mpr ⟨_, hbytes, hdecoded⟩

theorem changed_makeDirectory (h : before.makeDirectory path = .ok after) :
    Changed [path] [] before after := by
  obtain ⟨place, hl, hnone, rfl⟩ := makeDirectory_cases h
  have hext : before.Extends (before.put place .directory) := .put (by simp [hnone])
  have hplace : place ≠ [] := by
    rintro rfl
    cases hnone
  refine ⟨hext, fun other => ?_⟩
  by_cases ho : other = place
  · subst ho
    exact .inr (.inr ⟨hnone, entryAt?_put_self hplace, path, List.mem_singleton_self path,
      hext.locate hl⟩)
  · exact .inl (entryAt?_put_of_ne ho)

theorem changed_makeEach (t : FileTree) (paths : List String) :
    Changed paths [] t (t.makeEach paths).2 := by
  induction paths generalizing t with
  | nil => exact .refl t
  | cons path paths ih =>
    rw [makeEach]
    split
    · rename_i made hmade
      exact (changed_makeDirectory hmade).trans (ih made)
    · split
      · exact (ih t).mono (List.subset_cons_self path paths) (List.Subset.refl _)
      · exact .refl t

theorem changed_makeUpwards (t : FileTree) (missing paths : List String) :
    Changed (paths ++ missing) [] t (t.makeUpwards missing paths).2 := by
  induction paths generalizing missing with
  | nil => exact changed_makeEach t missing
  | cons path paths ih =>
    rw [makeUpwards]
    split
    · rename_i made hmade
      refine ((changed_makeDirectory hmade).trans (changed_makeEach made missing)).mono ?_
        (List.Subset.refl _)
      simp
    · refine (ih (path :: missing)).mono ?_ (List.Subset.refl _)
      simp
    · split
      · exact (changed_makeEach t missing).mono (by simp) (List.Subset.refl _)
      · exact .refl t

/-- Even where a directory cannot be made, no more than those above it are. -/
theorem changed_makeDirectories (t : FileTree) (path : String) :
    Changed ((Path.ancestors path.toList).map String.ofList) [] t (t.makeDirectories path).2 := by
  have h := changed_makeUpwards t [] ((Path.ancestors path.toList).map String.ofList)
  rwa [List.append_nil] at h

end FileTree

end LinkStubs
