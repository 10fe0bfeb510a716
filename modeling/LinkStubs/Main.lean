import LinkStubs.CommandLine.Command

/-!
The program: it takes in the files that its arguments name, runs, and puts back what has changed.
-/

namespace LinkStubs.Main

open LinkStubs.CommandLine

def absolute (place : Place) : String :=
  "/" ++ "/".intercalate place

/-- What stands on disk at a place. -/
def onDisk (place : Place) : IO (Option FileEntry) := do
  try
    return some (.file (← IO.FS.readBinFile (absolute place)) true)
  catch
    | .noFileOrDirectory .. => return none
    | .permissionDenied f c d => throw (.permissionDenied f c d)
    | _ => return some .directory

def takeIn (tree : FileTree) (path : String) : IO FileTree := do
  match tree.locate path with
  | .error _ => return tree
  | .ok place =>
    if (tree.entryAt? place).isSome then return tree
    match ← onDisk place with
    | none => return tree
    | some entry => return tree.put place entry

/-- Takes in what paths lead to, and the directories on the way. -/
def takeInAll (tree : FileTree) (paths : List String) : IO FileTree :=
  paths.foldlM
    (fun tree path =>
      (Path.ancestors path.toList).reverse.foldlM (fun t p => takeIn t (String.ofList p)) tree)
    tree

def emptyTree : IO FileTree := do
  let home := (Path.names (toString (← IO.currentDir)).toList).map String.ofList
  let above := (List.range home.length).map (fun n => (home.take (n + 1), FileEntry.directory))
  return { home, entries := above }

/-- Puts entries on disk, directories before what is in them. -/
def putBack (entries : List (Place × FileEntry)) : IO Unit := do
  let sorted := entries.mergeSort (fun a b => a.1.length ≤ b.1.length)
  for (place, entry) in sorted do
    match entry with
    | .directory => IO.FS.createDirAll (absolute place)
    | .file content _ => IO.FS.writeBinFile (absolute place) content

def report (o : Outcome) : IO Unit := do
  IO.print o.output
  for e in o.log do
    IO.eprintln (e.level.text ++ " " ++ e.text)
  for message in o.failure do
    IO.eprintln message

/-- The files that the arguments name, as far as they are there. -/
def filesFor (surrounding : Option String) (args : List String) : IO FileTree := do
  let tree ← emptyTree
  match Call.ofArguments args with
  | .error _ => return tree
  | .ok call =>
    let tree ← takeInAll tree (call.command.paths surrounding)
    takeInAll tree (call.command.tool tree surrounding).toList

end LinkStubs.Main

open LinkStubs in
def main (args : List String) : IO UInt32 := do
  let surrounding ← IO.getEnv Defaults.variableName
  let tree ← Main.filesFor surrounding args
  let tools := Toolbox.system (Defaults.surroundings surrounding)
  let outcome := CommandLine.run tools surrounding tree args
  Main.putBack (tree.changes outcome.tree)
  Main.report outcome
  return UInt32.ofNat outcome.status
