import LinkStubs.Text.Blank

/-!
Signatures of C functions: a return type, a name and parameter declarations, all kept as text.
-/

namespace LinkStubs

/-- The parameter that stands for a variadic tail. -/
def ellipsis : String := "..."

def endsType (c : Char) : Bool :=
  c == '*' || c == '&' || c == ' '

/-- A name without one pair of array brackets behind it. -/
def dropBrackets (name : List Char) : List Char :=
  match name.reverse with
  | ']' :: '[' :: rest => rest.reverse
  | _ => name

def argumentChars (param : List Char) : List Char :=
  dropBrackets (Text.trim (param.reverse.takeWhile (fun c => !endsType c)).reverse)

/-- The name in a parameter declaration: what follows its type. Arrays are passed as pointers, so
the brackets are no part of the name. -/
def argumentName (param : String) : String :=
  String.ofList (argumentChars param.toList)

structure Signature where
  returnType : String
  name : String
  params : List String
  /-- The annotation of a definition that is to be visible outside its library. -/
  exportMark : Option String := none
  deriving DecidableEq, Repr, Inhabited

namespace Signature

/-- Whether two signatures declare the same function; annotations do not count. -/
def declaresSame (s t : Signature) : Bool :=
  s.returnType == t.returnType && s.name == t.name && s.params == t.params

def withExport (s : Signature) (mark : String) : Signature :=
  { s with exportMark := if mark.isEmpty then none else some mark }

/-- The parameter declarations as C has them between its parentheses. -/
def joinedParams (s : Signature) : String :=
  ", ".intercalate s.params

def argumentNames (s : Signature) : List String :=
  s.params.map argumentName

def returnsVoid (s : Signature) : Bool :=
  s.returnType == "void"

/-- The pointer that holds the place of the real function. -/
def pointerName (s : Signature) : String :=
  s.name ++ "_ptr"

end Signature

end LinkStubs
