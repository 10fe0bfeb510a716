/-!
Strings of a TOML document: on one line or on several, with escapes or without.
-/

namespace LinkStubs.Toml

/-- Characters that a document may hold in escaped form only. -/
def isControl (c : Char) : Bool :=
  (c.toNat < 0x20 && c != '\t') || c.toNat == 0x7F

def hexDigit? (c : Char) : Option Nat :=
  if c.isDigit then some (c.toNat - '0'.toNat)
  else if 'a' ≤ c && c ≤ 'f' then some (c.toNat - 'a'.toNat + 10)
  else if 'A' ≤ c && c ≤ 'F' then some (c.toNat - 'A'.toNat + 10)
  else none

def hexValue? (cs : List Char) : Option Nat :=
  cs.foldl (fun n c => return (← n) * 16 + (← hexDigit? c)) (some 0)

/-- The character that `digits` hexadecimal digits at the start of `cs` stand for. -/
def codePoint? (digits : Nat) (cs : List Char) : Option (Char × List Char) :=
  if cs.length < digits then none
  else
    match hexValue? (cs.take digits) with
    | none => none
    | some n => if n.isValidChar then some (Char.ofNat n, cs.drop digits) else none

/-- An escape after its backslash. -/
def escape? : List Char → Option (Char × List Char)
  | 'b' :: cs => some ('\x08', cs)
  | 't' :: cs => some ('\t', cs)
  | 'n' :: cs => some ('\n', cs)
  | 'f' :: cs => some ('\x0c', cs)
  | 'r' :: cs => some ('\r', cs)
  | '"' :: cs => some ('"', cs)
  | '\\' :: cs => some ('\\', cs)
  | 'u' :: cs => codePoint? 4 cs
  | 'U' :: cs => codePoint? 8 cs
  | _ => none

def isGap (c : Char) : Bool :=
  c == ' ' || c == '\t'

def newline? : List Char → Option (List Char)
  | '\n' :: cs => some cs
  | '\r' :: '\n' :: cs => some cs
  | _ => none

def dropGaps (fuel : Nat) (cs : List Char) : List Char :=
  match fuel with
  | 0 => cs
  | fuel + 1 =>
    let cs := cs.dropWhile isGap
    match newline? cs with
    | some rest => dropGaps fuel rest
    | none => cs

/-- A string after its opening quote, with the text that follows its closing quote. -/
def basic? (fuel : Nat) (cs : List Char) : Option (List Char × List Char) :=
  match fuel, cs with
  | 0, _ => none
  | _, [] => none
  | _ + 1, '"' :: cs => some ([], cs)
  | fuel + 1, '\\' :: cs =>
    match escape? cs with
    | none => none
    | some (c, rest) => (basic? fuel rest).map (fun (text, rest) => (c :: text, rest))
  | fuel + 1, c :: cs =>
    if isControl c then none
    else (basic? fuel cs).map (fun (text, rest) => (c :: text, rest))

/-- A string that is taken as it stands, after its opening quote. -/
def literal? : List Char → Option (List Char × List Char)
  | [] => none
  | c :: cs =>
    if c == '\'' then some ([], cs)
    else if isControl c then none
    else (literal? cs).map (fun (text, rest) => (c :: text, rest))

/-- The end of a string between triple quotes: up to two quotes before the closing three belong to
the string. -/
def closing? (quote : Char) (cs : List Char) : Option (List Char × List Char) :=
  let found := (cs.take 5).takeWhile (· == quote)
  if found.length < 3 then none else some (found.drop 3, cs.drop found.length)

/-- A string on several lines, after its opening quotes and the newline behind them. -/
def multiline? (quote : Char) (fuel : Nat) (cs : List Char) : Option (List Char × List Char) :=
  match fuel with
  | 0 => none
  | fuel + 1 =>
    match closing? quote cs, newline? cs with
    | some found, _ => some found
    | none, some rest => (multiline? quote fuel rest).map (fun (text, rest) => ('\n' :: text, rest))
    | none, none =>
      match cs with
      | [] => none
      | c :: cs =>
        if c == '\\' && quote == '"' then
          match newline? (cs.dropWhile isGap), escape? cs with
          | some rest, _ => multiline? quote fuel (dropGaps rest.length rest)
          | none, some (c, rest) =>
            (multiline? quote fuel rest).map (fun (text, rest) => (c :: text, rest))
          | none, none => none
        else if isControl c then none
        else (multiline? quote fuel cs).map (fun (text, rest) => (c :: text, rest))

/-- A string on several lines after its opening quotes; a newline right behind them does not
count. -/
def multilineString? (quote : Char) (cs : List Char) : Option (List Char × List Char) :=
  multiline? quote (cs.length + 1) ((newline? cs).getD cs)

def string? : List Char → Option (List Char × List Char)
  | '"' :: '"' :: '"' :: cs => multilineString? '"' cs
  | '"' :: cs => basic? (cs.length + 1) cs
  | '\'' :: '\'' :: '\'' :: cs => multilineString? '\'' cs
  | '\'' :: cs => literal? cs
  | _ => none

end LinkStubs.Toml
