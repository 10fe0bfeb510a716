import LinkStubs.Toml.Scalar
import LinkStubs.Toml.Table

/-!
TOML documents: their grammar, and the tables that they spell out.
-/

namespace LinkStubs.Toml

def isBareKeyChar (c : Char) : Bool :=
  c.isAlphanum || c == '_' || c == '-'

def simpleKey? (cs : List Char) : Option (String × List Char) :=
  match cs with
  | '"' :: rest => (basic? (rest.length + 1) rest).map (fun (k, rest) => (String.ofList k, rest))
  | '\'' :: rest => (literal? rest).map (fun (k, rest) => (String.ofList k, rest))
  | cs =>
    let key := cs.takeWhile isBareKeyChar
    if key.isEmpty then none else some (String.ofList key, cs.dropWhile isBareKeyChar)

/-- How deep arrays and inline tables may lie within each other, and how many keys may stand between
the dots of one key. -/
def maxDepth : Nat := 79

/-- A key of at most `limit` keys between dots, the last apart from those before it on its path, and
what follows the gap behind it. -/
def keyWithin? (limit : Nat) (cs : List Char) : Option (List String × String × List Char) :=
  match limit with
  | 0 => none
  | limit + 1 => do
    let (key, rest) ← simpleKey? (cs.dropWhile isGap)
    match rest.dropWhile isGap with
    | '.' :: rest =>
      let (path, last, rest) ← keyWithin? limit rest
      return (key :: path, last, rest)
    | rest => return ([], key, rest)

def key? (cs : List Char) : Option (List String × String × List Char) :=
  keyWithin? maxDepth cs

def comment? : List Char → Option (List Char)
  | [] => some []
  | c :: cs =>
    if (newline? (c :: cs)).isSome then some (c :: cs)
    else if isControl c then none
    else comment? cs

/-- Drops gaps, newlines and comments. -/
def dropTrivia (fuel : Nat) (cs : List Char) : Option (List Char) :=
  match fuel with
  | 0 => none
  | fuel + 1 =>
    match cs with
    | '#' :: cs => (comment? cs).bind (dropTrivia fuel)
    | cs =>
      let rest := dropGaps (cs.length + 1) cs
      if rest.length < cs.length then dropTrivia fuel rest else some rest

mutual

def value? (fuel depth : Nat) (cs : List Char) : Option (Node × List Char) :=
  match fuel with
  | 0 => none
  | fuel + 1 =>
    match cs with
    | '[' :: cs =>
      if depth = 0 then none
      else (arrayRest? fuel (depth - 1) cs).map (fun rest => (.other, rest))
    | '{' :: cs =>
      if depth = 0 then none
      else
        match cs.dropWhile isGap with
        | '}' :: rest => some (.other, rest)
        | cs => (inlineRest? fuel (depth - 1) [] cs).map (fun rest => (.other, rest))
    | cs =>
      match string? cs with
      | some (text, rest) => some (.text (String.ofList text), rest)
      | none => (scalar? cs).map (fun rest => (.other, rest))

/-- The values of an array up to its closing bracket. -/
def arrayRest? (fuel depth : Nat) (cs : List Char) : Option (List Char) :=
  match fuel with
  | 0 => none
  | fuel + 1 => do
    match ← dropTrivia (cs.length + 1) cs with
    | ']' :: rest => return rest
    | cs =>
      let (_, rest) ← value? fuel depth cs
      match ← dropTrivia (rest.length + 1) rest with
      | ',' :: rest => arrayRest? fuel depth rest
      | ']' :: rest => return rest
      | _ => none

/-- The pairs of an inline table up to its closing brace, behind those in `items`. -/
def inlineRest? (fuel depth : Nat) (items : Items) (cs : List Char) : Option (List Char) :=
  match fuel with
  | 0 => none
  | fuel + 1 => do
    let (path, key, rest) ← key? cs
    let (value, rest) ← value? fuel depth ((← expectChar? '=' rest).dropWhile isGap)
    let items ← putValue items [] path key value
    match rest.dropWhile isGap with
    | ',' :: rest => inlineRest? fuel depth items rest
    | '}' :: rest => return rest
    | _ => none

end

/-- The end of a line, after a gap and perhaps a comment. -/
def endOfLine? (cs : List Char) : Option (List Char) := do
  let rest ← match cs.dropWhile isGap with
    | '#' :: cs => comment? cs
    | cs => some cs
  match rest with
  | [] => return []
  | rest => newline? rest

/-- The lines of a document, below what `root` holds and the header for `place`. -/
def readLines? (fuel : Nat) (root : Items) (place : List String) (cs : List Char) :
    Option Items :=
  match fuel with
  | 0 => none
  | fuel + 1 =>
    match cs.dropWhile isGap with
    | [] => some root
    | '[' :: '[' :: cs => do
      let (path, key, rest) ← key? cs
      let rest ← expectChar? ']' (← expectChar? ']' rest)
      readLines? fuel (← openTables root path key) (path ++ [key]) (← endOfLine? rest)
    | '[' :: cs => do
      let (path, key, rest) ← key? cs
      let rest ← expectChar? ']' rest
      readLines? fuel (← openTable root path key) (path ++ [key]) (← endOfLine? rest)
    | cs =>
      if cs.head? = some '#' || (newline? cs).isSome then
        (endOfLine? cs).bind (readLines? fuel root place)
      else do
        let (path, key, rest) ← key? cs
        let (value, rest) ←
          value? (2 * cs.length + 2) maxDepth ((← expectChar? '=' rest).dropWhile isGap)
        readLines? fuel (← putValue root place path key value) place (← endOfLine? rest)

/-- The byte order mark, which may stand before a document. -/
def byteOrderMark : Char := '\ufeff'

/-- The items of a document, if it is well-formed. -/
def read? (text : String) : Option Items :=
  let cs := match text.toList with
    | c :: cs => if c = byteOrderMark then cs else c :: cs
    | [] => []
  readLines? (cs.length + 1) [] [] cs

end LinkStubs.Toml
