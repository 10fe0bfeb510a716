import LinkStubs.CommandLine.Script.Builtin

/-!
Programs that work on files.
-/

namespace LinkStubs.Script.Program

def lastName (path : String) : String :=
  (((Path.names path.toList).map String.ofList).getLast?).getD "/"

/-- Where something goes that is to go to a path: into it, if it is a directory. -/
def destination (tree : FileTree) (source target : String) : String :=
  if tree.isDirectory target then Path.join target (lastName source) else target

/-- The places at and below a place, seen from there. -/
def below (tree : FileTree) (place : Place) : List (Place × FileEntry) :=
  tree.entries.filterMap (fun (p, e) =>
    if place.isPrefixOf p then some (p.drop place.length, e) else none)

def removeAll (tree : FileTree) (place : Place) : FileTree :=
  { tree with entries := tree.entries.filter (fun e => !place.isPrefixOf e.1) }

def move (source target : String) (tree : FileTree) : Except FileError FileTree := do
  discard (tree.find source)
  let start ← tree.locate source
  let goal ← tree.locate (destination tree source target)
  if start.isPrefixOf goal then .error .alreadyExists
  let moved := below tree start
  let tree := removeAll (removeAll tree start) goal
  return moved.foldl (fun t (p, e) => t.put (goal ++ p) e) tree

def copy (source target : String) (tree : FileTree) : Except FileError FileTree := do
  match ← tree.find source with
  | .directory => .error .isADirectory
  | .file content executable =>
    let target := destination tree source target
    let known := (tree.find target).toOption.isSome
    let tree ← tree.writeBytes target content
    if known then return tree else return tree.put (← tree.locate target) (.file content executable)

def removeDirectory (path : String) (tree : FileTree) : Except FileError FileTree := do
  let place ← tree.locate path
  if !tree.isDirectory path then .error .notADirectory
  else if (below tree place).length ≠ 1 then .error .alreadyExists
  else return tree.remove place

/-- The executability that a mode gives. -/
def executableBy? (mode : Octets) : Option Bool :=
  if mode.all Char.isDigit then
    some (mode.any (fun c => c.toNat % 2 = 1))
  else if mode.getLast? = some 'x' then some (mode.contains '+' || mode.contains '=')
  else none

def changeMode (mode : Octets) (path : String) (tree : FileTree) : Except FileError FileTree := do
  match ← tree.find path, executableBy? mode with
  | .file content _, some executable =>
    return tree.put (← tree.locate path) (.file content executable)
  | _, _ => return tree

/-- The letters of the flags in front, and the arguments behind them. -/
def flagged : List Octets → Octets × List Octets
  | ['-', '-'] :: args => ([], args)
  | ('-' :: c :: cs) :: args =>
    let (others, args) := flagged args
    (c :: cs ++ others, args)
  | args => ([], args)

/-- Does something for each path; the status is one where it is not possible for one of them. -/
def forAll (paths : List Octets) (x : String → FileTree → Except FileError FileTree) : Sh Unit := do
  for path in paths do
    if !(← Sh.change (x (Octets.toText path))) then Sh.setStatus 1

def remove (args : List Octets) : Sh Unit := do
  let (flags, paths) := flagged args
  forAll paths fun path tree => do
    match tree.find path with
    | .error e => if flags.contains 'f' then return tree else .error e
    | .ok .directory =>
      if flags.contains 'r' || flags.contains 'R' then return removeAll tree (← tree.locate path)
      else .error .isADirectory
    | .ok (.file ..) => tree.removeFile path

def makeDirectories (args : List Octets) : Sh Unit := do
  let (flags, paths) := flagged args
  forAll paths fun path tree =>
    if flags.contains 'p' then
      match tree.makeDirectories path with
      | (none, tree) => .ok tree
      | (some e, _) => .error e
    else tree.makeDirectory path

/-- Copies or moves all arguments but the last to where the last says. -/
def transfer (x : String → String → FileTree → Except FileError FileTree) (args : List Octets) :
    Sh Unit := do
  let (_, paths) := flagged args
  match paths.reverse with
  | target :: source :: sources =>
    forAll (source :: sources).reverse (fun path => x path (Octets.toText target))
  | _ => Sh.setStatus 1

def concatenate (args : List Octets) : Sh Unit := do
  if args.isEmpty then
    Sh.print (← get).input
    modify ({ · with input := [] })
  for path in args do
    if path == ['-'] then Sh.print (← get).input
    else
      match ← Sh.attempt (·.readBytes (Octets.toText path)) with
      | some content => Sh.print (Octets.ofBytes content)
      | none => Sh.setStatus 1

def format (args : List Octets) : Sh Unit := do
  let args := if args.head? = some "--".toList then args.drop 1 else args
  match args with
  | [] => Sh.setStatus 2
  | format :: args =>
    let (cs, good) := printed format (args.length + 1) args
    Sh.print cs
    Sh.setStatus (if good then 0 else 1)

def baseName (args : List Octets) : Sh Unit := do
  let name := (lastName (Octets.toText (args.head?.getD []))).toList
  let suffix := (Octets.toText (args[1]?.getD [])).toList
  let name := if suffix.isSuffixOf name && suffix != name then name.take (name.length - suffix.length)
    else name
  Sh.print (Octets.ofText (String.ofList name) ++ ['\n'])

def directoryName (args : List Octets) : Sh Unit := do
  let names := Path.names (args.head?.getD [])
  let rooted := Path.isRooted (args.head?.getD [])
  let found := Path.ofSteps rooted names.dropLast
  Sh.print ((if found.isEmpty then ['.'] else found) ++ ['\n'])

def condition (bracket : Bool) (args : List Octets) : Sh Unit := do
  let s ← get
  if bracket && args.getLast? != some [']'] then Sh.setStatus 2
  else Sh.setStatus (conditionStatus s.tree (if bracket then args.dropLast else args))

def all : List (String × (List Octets → Sh Unit)) :=
  [ ("true", fun _ => Sh.setStatus 0), ("false", fun _ => Sh.setStatus 1),
    ("sleep", fun _ => return ()), ("echo", fun args => Sh.print (echoText args)),
    ("printf", format), ("test", condition false), ("[", condition true), ("cat", concatenate),
    ("cp", transfer copy), ("mv", transfer move), ("rm", remove), ("mkdir", makeDirectories),
    ("rmdir", fun args => forAll (flagged args).2 removeDirectory),
    ("touch", fun args => forAll (flagged args).2 fun path tree => do
      if (tree.find path).toOption.isSome then return tree else tree.writeBytes path .empty),
    ("chmod", fun args => forAll (args.drop 1) (changeMode (args.head?.getD []))),
    ("basename", baseName), ("dirname", directoryName) ]

end LinkStubs.Script.Program
