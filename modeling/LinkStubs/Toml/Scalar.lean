import LinkStubs.Toml.Quoted

/-!
Values of a TOML document that are not strings: truth values, integers, floats, dates and times.
Of these only the form counts here.
-/

namespace LinkStubs.Toml

/-- Digits of one kind, with single underscores between them. -/
def areDigits (isDigit : Char → Bool) : List Char → Bool
  | [] => false
  | [c] => isDigit c
  | c :: '_' :: cs => isDigit c && areDigits isDigit cs
  | c :: cs => isDigit c && areDigits isDigit cs

def dropSign : List Char → List Char
  | '+' :: cs => cs
  | '-' :: cs => cs
  | cs => cs

/-- Decimal digits without a zero in front. -/
def isDecimal (cs : List Char) : Bool :=
  cs == ['0'] || (cs.head? != some '0' && areDigits Char.isDigit cs)

def withoutUnderscores (cs : List Char) : List Char :=
  cs.filter (· != '_')

def valueIn (base : Nat) (cs : List Char) : Nat :=
  (withoutUnderscores cs).foldl (fun n c => n * base + (hexDigit? c).getD 0) 0

/-- Integers have 64 bits. -/
def isInteger (cs : List Char) : Bool :=
  match cs with
  | '0' :: 'x' :: ds =>
    areDigits (fun c => (hexDigit? c).isSome) ds && valueIn 16 ds < Nat.pow 2 63
  | '0' :: 'o' :: ds => areDigits (fun c => '0' ≤ c && c ≤ '7') ds && valueIn 8 ds < Nat.pow 2 63
  | '0' :: 'b' :: ds => areDigits (fun c => c == '0' || c == '1') ds && valueIn 2 ds < Nat.pow 2 63
  | cs =>
    let ds := dropSign cs
    isDecimal ds && valueIn 10 ds < Nat.pow 2 63 + (if cs.head? == some '-' then 1 else 0)

/-- The parts of a float: digits before the point, digits behind it, exponent. -/
structure FloatParts where
  whole : List Char
  fraction : Option (List Char)
  exponent : Option (List Char)

def floatParts (cs : List Char) : FloatParts :=
  let isMark (c : Char) : Bool := c == 'e' || c == 'E'
  let mantissa := cs.takeWhile (fun c => !isMark c)
  let tail (cs : List Char) : Option (List Char) := if cs.isEmpty then none else some (cs.drop 1)
  { whole := mantissa.takeWhile (· != '.')
    fraction := tail (mantissa.dropWhile (· != '.'))
    exponent := tail (cs.dropWhile (fun c => !isMark c)) }

def exponentValue (cs : List Char) : Int :=
  let n : Int := valueIn 10 (dropSign cs)
  if cs.head? == some '-' then -n else n

/-- The least number that is too large for a float of 64 bits, after rounding. -/
def floatLimit : Nat := Nat.pow 2 1024 - Nat.pow 2 970

/-- Whether digits times a power of ten reach the limit of floats. -/
def overflows (digits : Nat) (exponent : Int) : Bool :=
  if digits = 0 then false
  else
    match exponent with
    | .ofNat e => 400 < e || floatLimit ≤ digits * Nat.pow 10 e
    | .negSucc e => floatLimit * Nat.pow 10 (min (e + 1) (toString digits).length) ≤ digits
        && e + 1 ≤ (toString digits).length

def isFloat (cs : List Char) : Bool :=
  let body := dropSign cs
  if body == "inf".toList || body == "nan".toList then true
  else
    let p := floatParts body
    isDecimal p.whole
      && (p.fraction.isSome || p.exponent.isSome)
      && p.fraction.all (areDigits Char.isDigit)
      && p.exponent.all (fun e => areDigits Char.isDigit (dropSign e))
      && (cs.head? == some '-' ||
        !overflows (valueIn 10 (p.whole ++ p.fraction.getD []))
          (exponentValue (p.exponent.getD ['0'])
            - (withoutUnderscores (p.fraction.getD [])).length))

/-- A number of exactly so many digits between two bounds, with what follows. -/
def field? (digits low high : Nat) (cs : List Char) : Option (Nat × List Char) :=
  let found := cs.take digits
  let n := valueIn 10 found
  if found.length = digits && found.all Char.isDigit && low ≤ n && n ≤ high then
    some (n, cs.drop digits)
  else none

def expectChar? (c : Char) : List Char → Option (List Char)
  | d :: cs => if c = d then some cs else none
  | [] => none

def isLeap (year : Nat) : Bool :=
  year % 4 == 0 && (year % 100 != 0 || year % 400 == 0)

def daysIn (year month : Nat) : Nat :=
  if month = 2 then (if isLeap year then 29 else 28)
  else if month = 4 || month = 6 || month = 9 || month = 11 then 30
  else 31

def date? (cs : List Char) : Option (List Char) := do
  let (year, cs) ← field? 4 0 9999 cs
  let (month, cs) ← field? 2 1 12 (← expectChar? '-' cs)
  let (_, cs) ← field? 2 1 (daysIn year month) (← expectChar? '-' cs)
  return cs

def time? (cs : List Char) : Option (List Char) := do
  let (_, cs) ← field? 2 0 23 cs
  let (_, cs) ← field? 2 0 59 (← expectChar? ':' cs)
  let (_, cs) ← field? 2 0 60 (← expectChar? ':' cs)
  match cs with
  | '.' :: cs => if cs.head?.any Char.isDigit then return cs.dropWhile Char.isDigit else none
  | cs => return cs

def isOffset : List Char → Bool
  | [] => true
  | ['Z'] => true
  | ['z'] => true
  | c :: cs =>
    (c == '+' || c == '-') &&
      match field? 2 0 23 cs with
      | some (_, ':' :: cs) => (field? 2 0 59 cs).any (fun (_, rest) => rest.isEmpty)
      | _ => false

def isDateTime (cs : List Char) : Bool :=
  match date? cs with
  | some [] => true
  | some (c :: rest) =>
    (c == 'T' || c == 't' || c == ' ') && (time? rest).any isOffset
  | none => (time? cs).any List.isEmpty

def isScalar (cs : List Char) : Bool :=
  cs == "true".toList || cs == "false".toList || isInteger cs || isFloat cs || isDateTime cs

def isScalarChar (c : Char) : Bool :=
  c.isAlphanum || c == '+' || c == '-' || c == '_' || c == '.' || c == ':'

/-- What follows a scalar. A date and a time may stand one blank apart. -/
def scalar? (cs : List Char) : Option (List Char) :=
  let first := cs.takeWhile isScalarChar
  let rest := cs.dropWhile isScalarChar
  let second := (rest.drop 1).takeWhile isScalarChar
  let both := first ++ ' ' :: second
  if rest.head? == some ' ' && date? first == some [] && !second.isEmpty && isDateTime both then
    some (rest.drop (1 + second.length))
  else if isScalar first then some rest
  else none

end LinkStubs.Toml
