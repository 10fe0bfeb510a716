import LinkStubs.CommandLine.Script.Program

/-!
What is there around scripts: directories, installed programs, and how a file says what runs it.
-/

namespace LinkStubs.Script.System

def directories : List Place :=
  [["bin"], ["dev"], ["etc"], ["tmp"], ["usr"], ["usr", "bin"]]

def shells : List String :=
  ["sh", "dash"]

/-- What the content of an installed program starts with. -/
def mark : ByteArray := ⟨#[0x7f, 0x45, 0x4c, 0x46]⟩

/-- The name of the installed program that a content is. -/
def programName? (content : ByteArray) : Option String :=
  if content.extract 0 4 = mark then some (Text.decodeLossy (content.extract 4 content.size))
  else none

def entries : List (Place × FileEntry) :=
  directories.map (·, .directory) ++ [(["dev", "null"], .file .empty false)] ++
    [["usr", "bin"], ["bin"]].flatMap (fun directory =>
      (shells ++ Program.all.map (·.1)).map (fun name =>
        (directory ++ [name], .file (mark ++ name.toUTF8) true)))

/-- A tree with what is installed. -/
def install (tree : FileTree) : FileTree :=
  { tree with
    entries := tree.entries ++ entries.filter (fun e => (tree.entryAt? e.1).isNone) }

/-- A tree without what has been installed in the one before. -/
def uninstall (before after : FileTree) : FileTree :=
  let own (place : Place) : Bool :=
    (before.entryAt? place).isSome || !directories.any (·.isPrefixOf place)
  { home := before.home, entries := after.entries.filter (fun e => own e.1) }

/-- The path of the program that a name stands for. A name with a slash is a path. -/
def pathOf (tree : FileTree) (name : Octets) : Except FileError Octets :=
  if name.contains '/' then .ok name
  else
    let path := "/usr/bin/".toList ++ name
    match tree.find (Octets.toText path) with
    | .ok _ => if name.isEmpty then .error .notFound else .ok path
    | .error e => .error e

def environment : List (String × String) :=
  [("PATH", "/usr/local/sbin:/usr/local/bin:/usr/sbin:/usr/bin:/sbin:/bin"), ("HOME", "/root")]

/-- How much of a file is looked at for what is to run it. -/
def lookedAt : Nat := 256

/-- The program that a script names on its first line, with the argument that may stand behind it. -/
def interpreter? (content : ByteArray) : Option (Octets × Option Octets) :=
  let isBlank (c : Char) : Bool := c == ' ' || c == '\t'
  match Octets.ofBytes (content.extract 0 lookedAt) with
  | '#' :: '!' :: rest =>
    let line := rest.takeWhile (· != '\n')
    let closed := line.length < rest.length || content.size < lookedAt
    let named := line.dropWhile isBlank
    let name := named.takeWhile (fun c => !isBlank c)
    let argument := ((named.drop name.length).dropWhile isBlank).reverse.dropWhile isBlank
    -- A name that reaches the end of what is looked at may be cut off.
    if name.isEmpty || (!closed && name.length = named.length) then none
    else some (name, if argument.isEmpty then none else some argument.reverse)
  | _ => none

end LinkStubs.Script.System
