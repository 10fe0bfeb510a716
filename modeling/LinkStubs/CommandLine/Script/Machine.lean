import LinkStubs.CommandLine.Script.Syntax
import LinkStubs.FileTree

/-!
The state of a shell, and what its commands read, write and change.
-/

namespace LinkStubs.Script

inductive Port where
  | collected
  | nowhere
  | file (place : Place)
  deriving DecidableEq, Repr

structure Shell where
  tree : FileTree
  input : Octets := []
  /-- What has been written to collected ports, backwards. -/
  collected : Octets := []
  ports : List (Nat × Port) := [(1, .collected), (2, .nowhere)]
  bindings : List (Octets × Octets) := []
  functions : List (Octets × Command) := []
  name : Octets := []
  arguments : List Octets := []
  flags : List Char := []
  /-- What is done on a signal; nothing is done where the action is empty. -/
  traps : List (Nat × Octets) := []
  status : Nat := 0

/-- Why commands are not gone on with. -/
inductive Stop where
  | leave
  | killed
  | leaveFunction
  | leaveLoops (levels : Nat) (again : Bool)
  deriving DecidableEq, Repr

/-- A command under way. What it did before a stop stays done. -/
abbrev Sh := ExceptT Stop (StateM Shell)

namespace Sh

def setStatus (status : Nat) : Sh Unit :=
  modify ({ · with status })

def leaveWith (status : Nat) : Sh Unit := do
  setStatus status
  throw .leave

def value? (name : Octets) : Sh (Option Octets) :=
  return (← get).bindings.lookup name

def assign (name value : Octets) : Sh Unit :=
  modify (fun s => { s with bindings := (name, value) :: s.bindings.filter (·.1 != name) })

def hasFlag (c : Char) : Sh Bool :=
  return (← get).flags.contains c

/-- The result of an operation on files, which may change the tree. -/
def attempt {α : Type} (x : FileTree → Except FileError α) : Sh (Option α) :=
  return (x (← get).tree).toOption

/-- Changes the tree; the result is whether that is possible. -/
def change (x : FileTree → Except FileError FileTree) : Sh Bool := do
  match x (← get).tree with
  | .error _ => return false
  | .ok tree =>
    modify ({ · with tree })
    return true

def write (descriptor : Nat) (cs : Octets) : Sh Unit := do
  let s ← get
  match s.ports.lookup descriptor with
  | none | some .nowhere => return ()
  | some .collected => set { s with collected := cs.reverse ++ s.collected }
  | some (.file place) =>
    if let some (.file content executable) := s.tree.entryAt? place then
      set { s with tree := s.tree.put place (.file (content ++ Octets.toBytes cs) executable) }

def print (cs : Octets) : Sh Unit :=
  write 1 cs

/-- Does something, and then puts back ports and input. -/
def keepingPorts (x : Sh Unit) : Sh Unit := do
  let s ← get
  let putBack : Sh Unit := modify ({ · with ports := s.ports, input := s.input })
  tryCatch x (fun stop => do putBack; throw stop)
  putBack

def redirect (descriptor : Nat) (port : Port) : Sh Unit :=
  modify (fun s => { s with ports := (descriptor, port) :: s.ports })

/-- Opens a file for a descriptor; the result is whether that is possible. -/
def openFile (descriptor : Nat) (mode : OpenMode) (path : String) : Sh Bool := do
  let tree := (← get).tree
  match mode, tree.readBytes path with
  | .read, .error _ => return false
  | .read, .ok content =>
    modify ({ · with input := Octets.ofBytes content })
    return true
  | mode, found =>
    let content := match mode, found with
      | .append, .ok content => content
      | _, _ => ByteArray.empty
    match tree.locate path, tree.writeBytes path content with
    | .ok place, .ok written =>
      if place = ["dev", "null"] then redirect descriptor .nowhere
      else
        modify ({ · with tree := written })
        redirect descriptor (.file place)
      return true
    | _, _ => return false

/-- Does something in a shell of its own, of which files, output and status are left. -/
def subshell (x : Sh Unit) : Sh Unit := do
  let s ← get
  let back : Sh Unit := modify (fun t =>
    { s with tree := { t.tree with home := s.tree.home }, collected := t.collected
             input := t.input, status := t.status })
  tryCatch x (fun stop => if stop = .killed then throw stop else return ())
  back

/-- What is printed in a shell of its own. -/
def output (x : Sh Unit) : Sh Octets := do
  let s ← get
  modify (fun t => { t with collected := [], ports := (1, .collected) :: t.ports })
  tryCatch (subshell x) (fun stop => do
    modify ({ · with collected := s.collected })
    throw stop)
  let found := (← get).collected.reverse
  modify ({ · with collected := s.collected, ports := s.ports })
  return found

end Sh

end LinkStubs.Script
