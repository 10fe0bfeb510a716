import LinkStubs.FileError
import LinkStubs.Path
import LinkStubs.Text.Utf8

/-!
A tree of files and directories, read and changed through paths. A place is the list of names that
leads to it from the root; a path is followed name by name, and every name but the last must lead
to a directory.
-/

namespace LinkStubs

/-- Contents are the same where their octets are. -/
instance contentDecidableEq : DecidableEq ByteArray := fun a b =>
  decidable_of_decidable_of_iff (p := a.data = b.data)
    ⟨fun h => ByteArray.ext h, fun h => h ▸ rfl⟩

/-- What stands at a place. -/
inductive FileEntry where
  | directory
  | file (content : ByteArray) (executable : Bool)
  deriving DecidableEq

def FileEntry.content? : FileEntry → Option ByteArray
  | .directory => none
  | .file content _ => some content

abbrev Place := List String

structure FileTree where
  /-- The working directory, where paths without a leading slash start. -/
  home : Place := []
  /-- All entries but the root, which is always there. -/
  entries : List (Place × FileEntry) := []
  deriving DecidableEq, Inhabited

namespace FileTree

def entryAt? (t : FileTree) (place : Place) : Option FileEntry :=
  if place.isEmpty then some .directory else t.entries.lookup place

def put (t : FileTree) (place : Place) (entry : FileEntry) : FileTree :=
  { t with entries := (place, entry) :: t.entries.filter (fun e => e.1 ≠ place) }

def remove (t : FileTree) (place : Place) : FileTree :=
  { t with entries := t.entries.filter (fun e => e.1 ≠ place) }

def maxName : Nat := 255

/-- The longest path, in octets. -/
def maxPath : Nat := 4095

/-- Follows names from a place. What the last name stands for need not be there. -/
def follow (t : FileTree) (place : Place) : List String → Except FileError Place
  | [] => .ok place
  | name :: names =>
    match t.entryAt? place with
    | none => .error .notFound
    | some (.file ..) => .error .notADirectory
    | some .directory =>
      if name = "." then t.follow place names
      else if name = ".." then t.follow place.dropLast names
      else if maxName < name.utf8ByteSize then .error .nameTooLong
      else t.follow (place ++ [name]) names

def locate (t : FileTree) (path : String) : Except FileError Place :=
  let cs := path.toList
  if cs.contains '\x00' then .error .nulInName
  else if cs.isEmpty then .error .notFound
  else if maxPath < path.utf8ByteSize then .error .nameTooLong
  else
    t.follow (if Path.isRooted cs then [] else t.home) ((Path.names cs).map String.ofList)

/-- Whether a path can lead to directories only, since it ends with a slash. -/
def wantsDirectory (path : String) : Bool :=
  path.toList.getLast? = some '/'

def find (t : FileTree) (path : String) : Except FileError FileEntry := do
  match t.entryAt? (← t.locate path) with
  | none => .error .notFound
  | some .directory => return .directory
  | some (.file content executable) =>
    if wantsDirectory path then .error .notADirectory else return .file content executable

def isDirectory (t : FileTree) (path : String) : Bool :=
  match t.find path with
  | .ok .directory => true
  | _ => false

def readBytes (t : FileTree) (path : String) : Except FileError ByteArray := do
  match ← t.find path with
  | .directory => .error .isADirectory
  | .file content _ => return content

/-- The text of a file, which must be well-formed UTF-8. -/
def readText (t : FileTree) (path : String) : Except FileError String := do
  match Text.decode? (← t.readBytes path) with
  | some text => return text
  | none => .error .notUtf8

def writeBytes (t : FileTree) (path : String) (content : ByteArray) : Except FileError FileTree := do
  let place ← t.locate path
  if wantsDirectory path then .error .isADirectory
  else
    match t.entryAt? place with
    | some .directory => .error .isADirectory
    | some (.file _ executable) => return t.put place (.file content executable)
    | none => return t.put place (.file content false)

def removeFile (t : FileTree) (path : String) : Except FileError FileTree := do
  match ← t.find path with
  | .directory => .error .isADirectory
  | .file .. => return t.remove (← t.locate path)

def writeText (t : FileTree) (path : String) (text : String) : Except FileError FileTree :=
  t.writeBytes path text.toUTF8

/-- Makes one directory, inside one that is there. -/
def makeDirectory (t : FileTree) (path : String) : Except FileError FileTree := do
  let place ← t.locate path
  match t.entryAt? place with
  | some _ => .error .alreadyExists
  | none => return t.put place .directory

/-- Makes the directories of a list in turn, passing over those that are there. -/
def makeEach (t : FileTree) : List String → Option FileError × FileTree
  | [] => (none, t)
  | path :: paths =>
    match t.makeDirectory path with
    | .ok t => t.makeEach paths
    | .error e =>
      if e = .alreadyExists && t.isDirectory path then t.makeEach paths else (some e, t)

/-- Goes up until a directory is there or can be made, and then makes `missing`, those below. -/
def makeUpwards (t : FileTree) (missing : List String) : List String → Option FileError × FileTree
  | [] => t.makeEach missing
  | path :: paths =>
    match t.makeDirectory path with
    | .ok t => t.makeEach missing
    -- The one above is missing too: it is made first, and this one behind it.
    | .error .notFound => t.makeUpwards (path :: missing) paths
    | .error e =>
      if e = .alreadyExists && t.isDirectory path then t.makeEach missing else (some e, t)

/-- Makes a directory and those above it that are missing. Directories made before a failure
stay. -/
def makeDirectories (t : FileTree) (path : String) : Option FileError × FileTree :=
  t.makeUpwards [] ((Path.ancestors path.toList).map String.ofList)

/-- The entries of `after` that are new, or hold something else than those of `before`. -/
def changes (before after : FileTree) : List (Place × FileEntry) :=
  after.entries.filter (fun (place, entry) =>
    (before.entryAt? place).map FileEntry.content? ≠ some entry.content?)

end FileTree

end LinkStubs
