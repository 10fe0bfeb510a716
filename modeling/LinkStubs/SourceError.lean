import LinkStubs.Position

/-!
What can be wrong with a signature file, and how it is said.
-/

namespace LinkStubs

namespace SourceError

inductive Kind where
  | badSignature
  | unreadable
  deriving DecidableEq, Repr

def Kind.text : Kind → String
  | .badSignature => "Bad signature"
  | .unreadable => "I/O error"

end SourceError

structure SourceError where
  kind : SourceError.Kind
  position : Position
  detail : String
  /-- The file that is read, where that is known. -/
  context : Option String := none
  deriving DecidableEq, Repr

namespace SourceError

/-- A line that does not look like a signature. -/
def unparsable (position : Position) (line : String) : SourceError :=
  { kind := .badSignature, position, detail := "Unparsable line: " ++ line }

/-- A line with a signature that no stub can be written for. -/
def unsupported (position : Position) (line reason : String) : SourceError :=
  { kind := .badSignature, position,
    detail := "Unsupported signature (" ++ reason ++ "): " ++ line }

def io (detail : String) : SourceError :=
  { kind := .unreadable, position := .unknown, detail }

def inContext (e : SourceError) (context : String) : SourceError :=
  { e with context := some context }

/-- Where the fault is: file and line, as far as they are known. -/
def location (e : SourceError) : String :=
  match e.context, e.position.isValid with
  | some file, true => file ++ ":" ++ toString e.position.line
  | some file, false => file
  | none, true => "line " ++ toString e.position.line
  | none, false => "input"

def message (e : SourceError) : String :=
  e.kind.text ++ " at " ++ e.location ++ ": " ++ e.detail

end SourceError

end LinkStubs
