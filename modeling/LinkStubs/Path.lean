import LinkStubs.Text.Lines

/-!
Paths as text: names between slashes, the last name and its stem, joining, and the name that a
signature file gives its module.
-/

namespace LinkStubs.Path

open LinkStubs.Text

/-- The names of a path; empty names say nothing. -/
def names (path : List Char) : List (List Char) :=
  (pieces (· == '/') path).filter (fun s => !s.isEmpty)

/-- The last name of a path that is not `.`, unless it is `..`. -/
def fileName? (path : List Char) : Option (List Char) :=
  match ((names path).filter (· ≠ ['.'])).getLast? with
  | none => none
  | some name => if name = ['.', '.'] then none else some name

/-- What stands before the last dot of a name, if there is a dot. -/
def beforeLastDot? : List Char → Option (List Char)
  | [] => none
  | c :: cs =>
    match beforeLastDot? cs with
    | some before => some (c :: before)
    | none => if c = '.' then some [] else none

/-- A name without its last extension. A dot in front starts no extension. -/
def dropExtension (name : List Char) : List Char :=
  match beforeLastDot? name with
  | none | some [] => name
  | some before => before

def fileStem? (path : List Char) : Option (List Char) :=
  (fileName? path).map dropExtension

theorem fileName_sublist {path name : List Char} (h : fileName? path = some name) :
    name.Sublist path := by
  unfold fileName? at h
  split at h
  · cases h
  · rename_i found hf
    split at h
    · cases h
    · obtain rfl := Option.some.inj h
      have hm := (List.mem_filter.mp (List.mem_of_getLast? hf)).1
      exact sublist_of_mem_pieces (List.mem_filter.mp hm).1

theorem beforeLastDot_sublist {name before : List Char} (h : beforeLastDot? name = some before) :
    before.Sublist name := by
  induction name generalizing before with
  | nil => simp [beforeLastDot?] at h
  | cons c cs ih =>
    simp only [beforeLastDot?] at h
    split at h
    · obtain rfl := Option.some.inj h
      rename_i b hb
      exact (ih hb).cons_cons c
    · split at h
      · obtain rfl := Option.some.inj h
        exact List.nil_sublist _
      · cases h

theorem dropExtension_sublist (name : List Char) : (dropExtension name).Sublist name := by
  unfold dropExtension
  split
  · exact List.Sublist.refl _
  · exact List.Sublist.refl _
  · rename_i b _ hb
    exact beforeLastDot_sublist hb

def stem (path : List Char) : List Char :=
  (fileStem? path).getD []

theorem stem_sublist (path : List Char) : (stem path).Sublist path := by
  unfold stem fileStem?
  cases h : fileName? path with
  | none => exact List.nil_sublist _
  | some name => exact (dropExtension_sublist name).trans (fileName_sublist h)

/-- A name without any of its extensions. -/
def bareName (name : List Char) : List Char :=
  if _h : stem name = name then name else bareName (stem name)
termination_by name.length
decreasing_by
  exact Nat.lt_of_le_of_ne (stem_sublist name).length_le
    (fun he => _h ((stem_sublist name).eq_of_length he))

/-- The name of the module whose signatures the file at `path` holds: the file's name without its
extensions. -/
def moduleName (path : String) : String :=
  String.ofList (bareName ((fileName? path.toList).getD []))

/-- The path of `name` seen from `directory`; a rooted name stands for itself. -/
def join (directory name : String) : String :=
  if name.toList.head? = some '/' then name
  else if directory.toList.isEmpty then name
  else if directory.toList.getLast? = some '/' then directory ++ name
  else directory ++ "/" ++ name

def isRooted (path : List Char) : Bool :=
  path.head? = some '/'

/-- The names that tell the directories on a path apart: `.` counts only where a path that is not
rooted starts with it. -/
def steps (path : List Char) : List (List Char) :=
  match names path with
  | [] => []
  | name :: rest =>
    let rest := rest.filter (· ≠ ['.'])
    if name = ['.'] && isRooted path then rest else name :: rest

def ofSteps (rooted : Bool) (names : List (List Char)) : List Char :=
  (if rooted then ['/'] else []) ++ ['/'].intercalate names

/-- The lists that remain of a list, given backwards, when names are taken off its end; the empty
one is left out. -/
def shortened : List (List Char) → List (List (List Char))
  | [] => []
  | _ :: rest => if rest.isEmpty then [] else rest.reverse :: shortened rest

/-- A path and the directories above it, the nearest first. -/
def ancestors (path : List Char) : List (List Char) :=
  if path.isEmpty then []
  else
    let rooted := isRooted path
    let above := (shortened (steps path).reverse).map (ofSteps rooted)
    path :: above ++ (if rooted && !(steps path).isEmpty then [['/']] else [])

end LinkStubs.Path
