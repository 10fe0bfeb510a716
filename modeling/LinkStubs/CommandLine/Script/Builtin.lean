import LinkStubs.CommandLine.Script.Expansion

/-!
Commands that write texts, judge values and files, and set what a shell goes by.
-/

namespace LinkStubs.Script

/-! ### Texts -/

/-- The octet for what stands behind a backslash, and what follows it. -/
def escape (cs : Octets) : Octets × Octets :=
  let digits := (cs.take 3).takeWhile (fun c => '0' ≤ c && c ≤ '7')
  if !digits.isEmpty then
    ([Char.ofNat (digits.foldl (fun n c => n * 8 + (c.toNat - 48)) 0 % 256)], cs.drop digits.length)
  else
    match [('n', '\n'), ('t', '\t'), ('r', '\r'), ('\\', '\\'), ('a', '\x07'), ('b', '\x08'),
        ('f', '\x0c'), ('v', '\x0b')].lookup (cs.head?.getD ' ') with
    | some c => ([c], cs.drop 1)
    | none => (['\\'], cs)

/-- A text with its escapes read, and whether one of them ends all output. -/
def unescape : Nat → Octets → Octets × Bool
  | 0, _ | _, [] => ([], false)
  | _ + 1, '\\' :: 'c' :: _ => ([], true)
  | fuel + 1, c :: cs =>
    let (front, rest) :=
      match c, cs with
      | '\\', '0' :: rest => if rest.head?.any Char.isDigit then escape rest else escape cs
      | '\\', _ => escape cs
      | c, _ => ([c], cs)
    let (others, ends) := unescape fuel rest
    (front ++ others, ends)

def echoText (args : List Octets) : Octets :=
  let (args, ending) := if args.head? = some "-n".toList then (args.drop 1, []) else (args, ['\n'])
  let text := [' '].intercalate args
  let (cs, ends) := unescape (text.length + 1) text
  if ends then cs else cs ++ ending

structure Conversion where
  flags : Octets
  width : Nat
  precision : Option Nat

def Conversion.pad (c : Conversion) (sign digits : Octets) (numeric : Bool) : Octets :=
  let missing := c.width - sign.length - digits.length
  if c.flags.contains '-' then sign ++ digits ++ List.replicate missing ' '
  else if numeric && c.flags.contains '0' then sign ++ List.replicate missing '0' ++ digits
  else List.replicate missing ' ' ++ sign ++ digits

/-- A text after a conversion. The second result is whether the argument is what it should be. -/
def Conversion.text (c : Conversion) (letter : Char) (arg : Octets) : Octets × Bool :=
  let number := if arg.isEmpty then some 0 else numberOf? arg
  let n := number.getD 0
  let based (base : Nat) : Octets := Nat.toDigits base (n % 18446744073709551616).toNat
  match letter with
  | 'd' | 'i' =>
    let sign := if n < 0 then ['-'] else if c.flags.contains '+' then ['+'] else []
    (c.pad sign (Octets.ofNat n.natAbs) true, number.isSome)
  | 'u' => (c.pad [] (based 10) true, number.isSome)
  | 'o' => (c.pad [] (based 8) true, number.isSome)
  | 'x' => (c.pad [] (based 16) true, number.isSome)
  | 'X' => (c.pad [] ((based 16).map Char.toUpper) true, number.isSome)
  | 'c' => (c.pad [] (arg.take 1) false, true)
  | 'b' => (c.pad [] (unescape (arg.length + 1) arg).1 false, true)
  | _ => (c.pad [] (c.precision.elim arg arg.take) false, true)

/-- One pass over a format: what is written, the arguments that are left, and whether they fit. -/
def formatted : Nat → Octets → List Octets → Octets × List Octets × Bool
  | 0, _, args | _, [], args => ([], args, true)
  | fuel + 1, '\\' :: cs, args =>
    let (front, rest) := escape cs
    let (others, args, good) := formatted fuel rest args
    (front ++ others, args, good)
  | fuel + 1, '%' :: '%' :: cs, args =>
    let (others, args, good) := formatted fuel cs args
    ('%' :: others, args, good)
  | fuel + 1, '%' :: cs, args =>
    let flags := cs.takeWhile ['-', '+', ' ', '0', '#'].contains
    let cs := cs.drop flags.length
    let width := cs.takeWhile Char.isDigit
    let cs := cs.drop width.length
    let number (digits : Octets) : Nat := (String.ofList digits).toNat?.getD 0
    let (precision, cs) := match cs with
      | '.' :: cs => (some (number (cs.takeWhile Char.isDigit)), cs.dropWhile Char.isDigit)
      | cs => (none, cs)
    let c : Conversion := ⟨flags, number width, precision⟩
    let (front, fit) := c.text (cs.head?.getD 's') (args.head?.getD [])
    let (others, args, good) := formatted fuel (cs.drop 1) (args.drop 1)
    (front ++ others, args, fit && good)
  | fuel + 1, c :: cs, args =>
    let (others, args, good) := formatted fuel cs args
    (c :: others, args, good)

/-- A format, as often as there are arguments for it. -/
def printed (format : Octets) : Nat → List Octets → Octets × Bool
  | 0, _ => ([], true)
  | fuel + 1, args =>
    let (cs, rest, good) := formatted (format.length + 1) format args
    if rest.isEmpty || rest.length = args.length then (cs, good)
    else
      let (others, othersGood) := printed format fuel rest
      (cs ++ others, good && othersGood)

/-! ### Conditions -/

/-- What a condition with one operand says; none where there is no such condition. -/
def unary? (tree : FileTree) (sign : Octets) (operand : Octets) : Option Bool :=
  let found := tree.find (Octets.toText operand)
  match sign with
  | ['-', 'n'] => some (!operand.isEmpty)
  | ['-', 'z'] => some operand.isEmpty
  | ['-', 'd'] => some (found matches .ok .directory)
  | ['-', 'f'] => some (found matches .ok (.file ..))
  | ['-', 'x'] => some (found matches .ok .directory | .ok (.file _ true))
  | ['-', 's'] =>
    match found with
    | .ok (.file content _) => some (content.size ≠ 0)
    | other => some (other matches .ok _)
  | ['-', c] => if ['e', 'r', 'w'].contains c then some (found matches .ok _) else none
  | _ => none

def binary? (a sign b : Octets) : Option (Option Bool) :=
  let compared (holds : Int → Int → Bool) : Option (Option Bool) :=
    some do return holds (← numberOf? a) (← numberOf? b)
  match String.ofList sign with
  | "=" => some (some (a == b))
  | "!=" => some (some (a != b))
  | "-eq" => compared (· == ·)
  | "-ne" => compared (· != ·)
  | "-lt" => compared (· < ·)
  | "-le" => compared (· ≤ ·)
  | "-gt" => compared (· > ·)
  | "-ge" => compared (· ≥ ·)
  | _ => none

/-- What conditions say that `-o` joins, or with `level` one those that `-a` joins, or with two a single
one; and the arguments behind them. -/
def judge (tree : FileTree) : Nat → Nat → List Octets → Option (Bool × List Octets)
  | 0, _, _ => none
  | fuel + 1, 2, args =>
    match args with
    | ['!'] :: rest => (judge tree fuel 2 rest).map (fun (b, rest) => (!b, rest))
    | a :: sign :: b :: rest =>
      match binary? a sign b, unary? tree a sign with
      | some found, _ => found.map (·, rest)
      | none, some found => some (found, b :: rest)
      | none, none =>
        if a == ['('] then
          match judge tree fuel 0 (sign :: b :: rest) with
          | some (found, [')'] :: rest) => some (found, rest)
          | _ => none
        else some (!a.isEmpty, sign :: b :: rest)
    | [sign, operand] =>
      match unary? tree sign operand with
      | some found => some (found, [])
      | none => some (!sign.isEmpty, [operand])
    | [a] => some (!a.isEmpty, [])
    | [] => none
  | fuel + 1, level, args => do
    let (a, rest) ← judge tree fuel (level + 1) args
    let sign := if level = 0 then "-o".toList else "-a".toList
    if rest.head? = some sign then
      let (b, rest) ← judge tree fuel level (rest.drop 1)
      return (if level = 0 then a || b else a && b, rest)
    else return (a, rest)

/-- The status of a condition: one where it does not hold, and two where it is none. -/
def conditionStatus (tree : FileTree) (args : List Octets) : Nat :=
  if args.isEmpty then 1
  else
    match judge tree (4 * (args.length + 1)) 0 args with
    | some (true, []) => 0
    | some (false, []) => 1
    | _ => 2

/-! ### Signals -/

def signals : List (String × Nat) :=
  [("EXIT", 0), ("HUP", 1), ("INT", 2), ("QUIT", 3), ("ABRT", 6), ("KILL", 9), ("USR1", 10),
    ("SEGV", 11), ("USR2", 12), ("PIPE", 13), ("ALRM", 14), ("TERM", 15), ("CHLD", 17), ("CONT", 18),
    ("URG", 23), ("WINCH", 28)]

def signal? (cs : Octets) : Option Nat :=
  let name := String.ofList (cs.map Char.toUpper)
  (String.ofList cs).toNat? <|> signals.lookup name <|>
    signals.lookup (String.ofList (name.toList.drop 3))

def killTarget? : List Octets → Option (Nat × List Octets)
  | ['-', 's'] :: name :: rest => (signal? name).map (·, rest)
  | ['-', '-'] :: rest => some (15, rest)
  | ('-' :: name) :: rest => (signal? name).map (·, rest)
  | rest => some (15, rest)

/-! ### Reading -/

/-- The first line of a text, with its backslashes read or kept, and what follows it. -/
def lineOf (raw : Bool) : Octets → Octets × Octets
  | [] => ([], [])
  | '\n' :: cs => ([], '\n' :: cs)
  | '\\' :: c :: cs =>
    let (line, rest) := lineOf raw cs
    (if raw then '\\' :: c :: line else if c == '\n' then line else c :: line, rest)
  | c :: cs =>
    let (line, rest) := lineOf raw cs
    (c :: line, rest)

/-- Gives names the parts of a line; the last name gets what is left. -/
def assignParts (separators : Octets) : List Octets → Octets → Sh Unit
  | [], _ => return ()
  | [name], line =>
    Sh.assign name ((line.dropWhile separators.contains).reverse.dropWhile separators.contains).reverse
  | name :: names, line => do
    let line := line.dropWhile separators.contains
    let part := line.takeWhile (fun c => !separators.contains c)
    Sh.assign name part
    assignParts separators names (line.drop part.length)

namespace Builtin

def read (args : List Octets) : Sh Unit := do
  let raw := args.head? = some "-r".toList
  let s ← get
  let (line, rest) := lineOf raw s.input
  set { s with input := rest.drop 1 }
  let separators := (← Sh.value? "IFS".toList).getD " \t\n".toList
  assignParts separators (if raw then args.drop 1 else args) line
  Sh.setStatus (if rest.isEmpty then 1 else 0)

def setAll : List Octets → Sh Unit
  | [] => return ()
  | ['-', '-'] :: args => modify ({ · with arguments := args })
  | ['-', 'o'] :: _ :: args => setAll args
  | ('-' :: cs) :: args => do
    modify (fun s => { s with flags := cs ++ s.flags })
    setAll args
  | ('+' :: cs) :: args => do
    modify (fun s => { s with flags := s.flags.filter (!cs.contains ·) })
    setAll args
  | args => modify ({ · with arguments := args })

/-- The number that a first argument gives; another argument ends the shell. -/
def count (default : Nat) (args : List Octets) : Sh Nat := do
  match args.head? with
  | none => return default
  | some cs =>
    match (String.ofList cs).toNat? with
    | some n =>
      if 2147483647 < n then Sh.leaveWith 2
      return n
    | none =>
      Sh.leaveWith 2
      return 0

def shift (args : List Octets) : Sh Unit := do
  let n ← count 1 args
  let s ← get
  if s.arguments.length < n then Sh.leaveWith 2
  set { s with arguments := s.arguments.drop n }

def cd (args : List Octets) : Sh Unit := do
  let tree := (← get).tree
  let path := Octets.toText (args.head?.getD [])
  match tree.find path, tree.locate path with
  | .ok .directory, .ok home => modify ({ · with tree := { tree with home } })
  | _, _ => Sh.setStatus 2

def trap : List Octets → Sh Unit
  | action :: names =>
    for name in names do
      if let some n := signal? name then
        modify (fun s =>
          let others := s.traps.filter (·.1 != n)
          { s with traps := if action == ['-'] then others else (n, action) :: others })
  | [] => return ()

def assignAll (args : List Octets) : Sh Unit :=
  for arg in args do
    let name := arg.takeWhile (· != '=')
    if name.length < arg.length then Sh.assign name (arg.drop (name.length + 1))

def unset (args : List Octets) : Sh Unit :=
  modify (fun s =>
    { s with
      bindings := s.bindings.filter (!args.contains ·.1)
      functions := s.functions.filter (!args.contains ·.1) })

/-- Sends a signal to the shell itself; `run` does what is to be done on it. -/
def kill (run : Octets → Sh Unit) (args : List Octets) : Sh Unit := do
  match killTarget? args with
  | some (signal, [target]) =>
    if target != "4242".toList then Sh.setStatus 1
    else if signal = 0 || [17, 18, 23, 28].contains signal then return ()
    else
      match (← get).traps.lookup signal with
      | some action => if signal = 9 then throw .killed else run action
      | none => throw .killed
  | _ => Sh.setStatus 2

end Builtin

end LinkStubs.Script
