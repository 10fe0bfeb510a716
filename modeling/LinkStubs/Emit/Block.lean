import LinkStubs.Emit.Writer

/-!
Lines of C++ that more than one section needs.
-/

namespace LinkStubs.Emit

/-- A line that opens a block. -/
def opening (head : String) : String :=
  head ++ String.ofList [' ', '{']

/-- The end of a block at the left margin. -/
def closing : String := String.ofList ['}']

def nameSpaceEnd (name : String) : String :=
  closing ++ "  // namespace " ++ name

def comment (text : String) : String :=
  Writer.commentText text

def blank : String := ""

/-- A quoted string, for text that needs no escapes. -/
def quoted (text : String) : String :=
  "\"" ++ text ++ "\""

end LinkStubs.Emit
