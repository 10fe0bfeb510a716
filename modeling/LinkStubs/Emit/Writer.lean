import LinkStubs.Text.Lines

/-!
A writer collects text and counts its newlines. Text is only ever added at the end.
-/

namespace LinkStubs

structure Writer where
  text : String := ""
  lineCount : Nat := 0
  deriving DecidableEq, Repr, Inhabited

namespace Writer

def write (w : Writer) (text : String) : Writer :=
  ⟨w.text ++ text, w.lineCount + Text.newlines text⟩

def newline (w : Writer) : Writer :=
  ⟨w.text ++ "\n", w.lineCount + 1⟩

def line (w : Writer) (text : String) : Writer :=
  (w.write text).newline

/-- A comment line of the language that is written. -/
def commentText (text : String) : String :=
  "// " ++ text

def comment (w : Writer) (text : String) : Writer :=
  w.line (commentText text)

def blankLine (w : Writer) : Writer :=
  w.newline

def size (w : Writer) : Nat :=
  w.text.utf8ByteSize

def isEmpty (w : Writer) : Bool :=
  w.text.isEmpty

inductive Command where
  | write (text : String)
  | line (text : String)
  | comment (text : String)
  | newline
  | blankLine
  deriving DecidableEq, Repr

def apply (w : Writer) : Command → Writer
  | .write text => w.write text
  | .line text => w.line text
  | .comment text => w.comment text
  | .newline => w.newline
  | .blankLine => w.blankLine

def run (w : Writer) (commands : List Command) : Writer :=
  commands.foldl apply w

def lines (w : Writer) (ls : List String) : Writer :=
  ls.foldl line w

end Writer

end LinkStubs
