import LinkStubs.Identifier
import LinkStubs.Text.Blank

/-!
How a line divides into a return type, a name and a parameter list. The name is an identifier of
two characters or more before a parenthesis; of all divisions, the one with the shortest return
type counts.
-/

namespace LinkStubs.Signature

open LinkStubs.Identifier LinkStubs.Text

/-- The parts of a line: result, name, blanks, `(`, params, `)`, rest. -/
structure Split where
  result : List Char
  name : List Char
  blanks : List Char
  params : List Char
  rest : List Char
  deriving DecidableEq, Repr

def Split.text (s : Split) : List Char :=
  s.result ++ s.name ++ s.blanks ++ '(' :: s.params ++ ')' :: s.rest

/-- The characters of a parameter list, which ends at the first `)` of its line. -/
def isParamChar (c : Char) : Bool :=
  c != ')' && c != '\n'

def callAt? (result : List Char) (cs : List Char) : Option Split :=
  let name := cs.takeWhile isIdentChar
  let afterName := cs.dropWhile isIdentChar
  let blanks := afterName.takeWhile isBlank
  match cs, afterName.dropWhile isBlank with
  | c :: _, '(' :: body =>
    if isIdentStart c && 2 ≤ name.length then
      match body.dropWhile isParamChar with
      | ')' :: rest => some ⟨result, name, blanks, body.takeWhile isParamChar, rest⟩
      | _ => none
    else none
  | _, _ => none

/-- The first division of `cs` with a return type that ends after `before`, given backwards. -/
def splitFrom? (before : List Char) : List Char → Option Split
  | [] => none
  | c :: cs =>
    -- No return type goes over a line break.
    if c = '\n' then none
    else
      match callAt? (c :: before).reverse cs with
      | some split => some split
      | none => splitFrom? (c :: before) cs

/-- The division of a line with the shortest return type, which is never empty. -/
def split? (line : List Char) : Option Split :=
  splitFrom? [] line

end LinkStubs.Signature
