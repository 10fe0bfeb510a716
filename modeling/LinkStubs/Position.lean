/-!
Places in a source text, as a line and a column, both counted from one.
-/

namespace LinkStubs

structure Position where
  line : Nat
  column : Nat
  deriving DecidableEq, Repr

namespace Position

def start : Position := ⟨1, 1⟩

/-- The position of a fault that has no place in a text. -/
def unknown : Position := ⟨0, 0⟩

def lineStart (line : Nat) : Position := ⟨line, 1⟩

instance : Inhabited Position := ⟨start⟩

def isValid (p : Position) : Bool :=
  0 < p.line && 0 < p.column

def nextLine (p : Position) : Position :=
  ⟨p.line + 1, 1⟩

@[simp] theorem nextLine_lineStart (line : Nat) :
    (lineStart line).nextLine = lineStart (line + 1) :=
  rfl

theorem start_eq_lineStart : start = lineStart 1 :=
  rfl

/-- Positions are ordered by line, and by column within a line. -/
def order (p q : Position) : Ordering :=
  (compare p.line q.line).then (compare p.column q.column)

def text (p : Position) : String :=
  s!"{p.line}:{p.column}"

end Position

end LinkStubs
