import LinkStubs.CommandLine.Script.Machine
import LinkStubs.CommandLine.Script.Reader

/-!
What words stand for: patterns, integers, the values of parameters and the output of commands.
-/

namespace LinkStubs.Script

/-- The octets of a field, each with whether it is quoted. -/
abbrev Field := List (Char × Bool)

def Field.plain (f : Field) : Octets :=
  f.map (·.1)

def Field.ofOctets (quoted : Bool) (cs : Octets) : Field :=
  cs.map (·, quoted)

/-! ### Patterns -/

/-- Whether a character is among those between brackets, where ranges may stand. -/
def inBrackets (c : Char) : Octets → Bool
  | a :: '-' :: b :: cs => (a ≤ c && c ≤ b) || inBrackets c cs
  | a :: cs => a == c || inBrackets c cs
  | [] => false

def fits : Nat → Field → Octets → Bool
  | _, [], cs => cs.isEmpty
  | 0, _, _ => false
  | fuel + 1, ('*', false) :: ps, cs =>
    (List.range (cs.length + 1)).any (fun n => fits fuel ps (cs.drop n))
  | fuel + 1, ('?', false) :: ps, _ :: cs => fits fuel ps cs
  | fuel + 1, ('[', false) :: ps, c :: cs =>
    let (inverted, inner) := match ps with
      | ('!', false) :: rest => (true, rest)
      | rest => (false, rest)
    let first := inner.take 1
    let choices : Field := first ++ (inner.drop 1).takeWhile (·.1 != ']')
    let rest := inner.drop choices.length
    if rest.isEmpty then c == '[' && fits fuel ps cs
    else inBrackets c choices.plain != inverted && fits fuel (rest.drop 1) cs
  | fuel + 1, (p, _) :: ps, c :: cs => p == c && fits fuel ps cs
  | _, _ :: _, [] => false

def Field.fits (pattern : Field) (cs : Octets) : Bool :=
  Script.fits (pattern.length + 1) pattern cs

/-- What is left when a stretch that fits a pattern is cut off at one end. -/
def trim (atEnd longest : Bool) (pattern : Field) (cs : Octets) : Octets :=
  let lengths := List.range (cs.length + 1)
  let fits (n : Nat) : Bool :=
    pattern.fits (if atEnd then cs.drop (cs.length - n) else cs.take n)
  match (if longest then lengths.reverse else lengths).find? fits with
  | none => cs
  | some n => if atEnd then cs.take (cs.length - n) else cs.drop n

def Field.isPattern (f : Field) : Bool :=
  f.any (fun (c, quoted) => !quoted && ['*', '?', '['].contains c)

def namesIn (tree : FileTree) (directory : String) : List String :=
  match tree.locate (if directory.isEmpty then "." else directory) with
  | .error _ => []
  | .ok place =>
    let inside := tree.entries.filterMap (fun e =>
      if e.1.dropLast = place && e.1 ≠ [] then e.1.getLast? else none)
    inside.mergeSort (fun a b => a ≤ b)

/-- The paths that a pattern stands for, behind a path that is known. -/
def pathsFrom (tree : FileTree) : List Field → String → List String
  | [], known => [known]
  | part :: parts, known =>
    let beyond (name : String) : List String :=
      let path := known ++ name
      if parts.isEmpty then if (tree.find path).toOption.isSome then [path] else []
      else pathsFrom tree parts (path ++ "/")
    if part.isPattern then
      let hidden := part.head?.any (fun c => c.1 == '.')
      ((namesIn tree known).filter (fun name =>
        part.fits (Octets.ofText name) && (hidden || name.toList.head? != some '.'))).flatMap beyond
    else beyond (Octets.toText part.plain)

/-- The paths that fit a field, or the field as it stands where there are none. -/
def Field.paths (f : Field) (tree : FileTree) : List Octets :=
  let found := if f.isPattern then pathsFrom tree (f.splitOnP (·.1 == '/')) "" else []
  if found.isEmpty then [f.plain] else found.map Octets.ofText

/-! ### Integers -/

/-- The number that digits spell, in the base that its front tells. -/
def numberOf? (cs : Octets) : Option Int :=
  let digits (base : Nat) (cs : Octets) : Option Int :=
    let value (c : Char) : Nat :=
      if c.isDigit then c.toNat - 48 else if c.isAlpha then c.toLower.toNat - 87 else base
    if cs.isEmpty || cs.any (fun c => base ≤ value c) then none
    else some (cs.foldl (fun n c => n * base + value c) 0 : Nat)
  match cs with
  | '-' :: cs => (digits 10 cs).map (- ·)
  | '0' :: 'x' :: cs => digits 16 cs
  | '0' :: c :: cs => digits 8 (c :: cs)
  | cs => digits 10 cs

/-- Operators with two operands, those that bind the least first. -/
def operators : List (List (String × (Int → Int → Option Int))) :=
  let truth (p : Prop) [Decidable p] : Option Int := some (if p then 1 else 0)
  [ [("||", fun a b => truth (a ≠ 0 ∨ b ≠ 0))],
    [("&&", fun a b => truth (a ≠ 0 ∧ b ≠ 0))],
    [("==", fun a b => truth (a = b)), ("!=", fun a b => truth (a ≠ b))],
    [ ("<=", fun a b => truth (a ≤ b)), (">=", fun a b => truth (a ≥ b)),
      ("<", fun a b => truth (a < b)), (">", fun a b => truth (a > b))],
    [("+", fun a b => some (a + b)), ("-", fun a b => some (a - b))],
    [ ("*", fun a b => some (a * b)),
      ("/", fun a b => if b = 0 then none else some (a.tdiv b)),
      ("%", fun a b => if b = 0 then none else some (a.tmod b)) ] ]

/-- The value of the expression at the front, for operators from a level on, and what follows it. -/
def calculate (value? : Octets → Option Int) (fuel level : Nat) (cs : Octets) :
    Option (Int × Octets) :=
  match fuel with
  | 0 => none
  | fuel + 1 =>
    let skip (cs : Octets) := cs.dropWhile Char.isWhitespace
    let rec more (known : Nat) (a : Int) (cs : Octets) : Option (Int × Octets) :=
      match known with
      | 0 => none
      | known + 1 =>
        match ((operators.getD level []).find? (fun o => o.1.toList.isPrefixOf (skip cs))) with
        | none => some (a, cs)
        | some (sign, apply) => do
          let (b, rest) ← calculate value? fuel (level + 1) ((skip cs).drop sign.length)
          more known (← apply a b) rest
    if level < operators.length then do
      let (a, rest) ← calculate value? fuel (level + 1) cs
      more (cs.length + 1) a rest
    else
      match skip cs with
      | '-' :: cs => (calculate value? fuel level cs).map (fun (a, rest) => (-a, rest))
      | '!' :: cs =>
        (calculate value? fuel level cs).map (fun (a, rest) => (if a = 0 then 1 else 0, rest))
      | '(' :: cs => do
        let (a, rest) ← calculate value? fuel 0 cs
        if (skip rest).head? = some ')' then some (a, (skip rest).drop 1) else none
      | cs =>
        let token := cs.takeWhile Reader.isNameChar
        (value? token).map (·, cs.drop token.length)

def valueOf? (value? : Octets → Option Int) (cs : Octets) : Option Int := do
  let (a, rest) ← calculate value? (8 * (cs.length + 2)) 0 cs
  if rest.all Char.isWhitespace then some a else none

/-! ### Words -/

namespace Sh

structure Fields where
  done : List Field := []
  open_ : Option Field := none

namespace Fields

def add (f : Fields) (cs : Field) : Fields :=
  { f with open_ := some (f.open_.getD [] ++ cs) }

def close (f : Fields) : Fields :=
  { done := f.done ++ f.open_.toList }

/-- Adds a value, which is split at separators where it is not quoted. -/
def addValue (separators : Octets) (quoted : Bool) (f : Fields) (cs : Octets) : Fields :=
  if quoted then f.add (.ofOctets true cs)
  else cs.foldl (fun f c => if separators.contains c then f.close else f.add [(c, false)]) f

/-- Adds values in fields of their own. -/
def addEach (separators : Octets) (quoted : Bool) (f : Fields) : List Octets → Fields
  | [] => f
  | arg :: args =>
    args.foldl (fun f arg => f.close.addValue separators quoted arg)
      (f.addValue separators quoted arg)

end Fields

/-- The value of a parameter, unless it is one for all arguments. -/
def parameter? (name : Octets) : Sh (Option Octets) := do
  let s ← get
  match name with
  | ['#'] => return some (Octets.ofNat s.arguments.length)
  | ['?'] => return some (Octets.ofNat s.status)
  | ['$'] => return some "4242".toList
  | ['-'] => return some s.flags
  | ['0'] => return some s.name
  | ['@'] | ['*'] => return some ([' '].intercalate s.arguments)
  | name =>
    match (String.ofList name).toNat? with
    | some n => return s.arguments[n - 1]?
    | none => value? name

def addValue (quoted : Bool) (name value : Octets) (f : Fields) : Sh Fields := do
  let separators := (← value? "IFS".toList).getD " \t\n".toList
  if name == ['@'] || (name == ['*'] && !quoted) then
    return f.addEach separators quoted (← get).arguments
  else return f.addValue separators quoted value

variable (run : Octets → Sh Unit)

/-- Adds what pieces of a word stand for; `run` runs a script. -/
def addPieces : Nat → Word → Fields → Sh Fields
  | 0, _, _ => throw .killed
  | _, [], f => return f
  | fuel + 1, piece :: pieces, f => do
    let whole (word : Word) : Sh Field := do
      let f ← addPieces fuel word {}
      return ([(' ', true)] : Field).intercalate f.close.done
    let next ← match piece with
      | .text quoted cs => pure (f.add (.ofOctets quoted cs))
      | .output quoted script => do
        let found ← output (run script)
        let found := (found.reverse.dropWhile (· == '\n')).reverse
        addValue quoted ['?'] found f
      | .arithmetic quoted word => do
        let cs := (← whole word).plain
        let s ← get
        let value (token : Octets) : Option Int :=
          if token.head?.any Char.isDigit then numberOf? token
          else if token.isEmpty then none
          else numberOf? ((s.bindings.lookup token).getD ['0'])
        match valueOf? value cs with
        | some n => pure (f.add (.ofOctets quoted (Octets.ofInt n)))
        | none =>
          leaveWith 2
          pure f
      | .parameter quoted name usage word => do
        let value ← parameter? name
        let missing (nul : Bool) : Bool := value.all (fun v => nul && v.isEmpty)
        match usage with
        | .choice '+' nul => if missing nul then pure f else addPieces fuel word f
        | .choice sign nul =>
          if !missing nul then addValue quoted name (value.getD []) f
          else if sign == '-' then addPieces fuel word f
          else if sign == '=' then
            let cs := (← whole word).plain
            assign name cs
            addValue quoted name cs f
          else
            leaveWith 2
            pure f
        | usage =>
          if value.isNone && (← hasFlag 'u') then leaveWith 2
          let cs := value.getD []
          match usage with
          | .length => pure (f.add (.ofOctets quoted (Octets.ofNat cs.length)))
          | .trim atEnd longest =>
            let pattern ← whole word
            addValue quoted ['?'] (trim atEnd longest pattern cs) f
          | _ => addValue quoted name cs f
    addPieces fuel pieces next

/-- How deep words may lie within each other, counted in pieces. -/
def maxPieces : Nat := 100000

/-- What a word stands for where it is not split. -/
def fieldOf (word : Word) : Sh Field := do
  let f ← addPieces run maxPieces word {}
  return ([(' ', true)] : Field).intercalate f.close.done

def textOf (word : Word) : Sh Octets :=
  return (← fieldOf run word).plain

def argumentsOf (words : List Word) : Sh (List Octets) := do
  let mut found := []
  for word in words do
    let f ← addPieces run maxPieces word {}
    let s ← get
    found := found ++
      if s.flags.contains 'f' then f.close.done.map Field.plain
      else f.close.done.flatMap (·.paths s.tree)
  return found

end Sh

end LinkStubs.Script
