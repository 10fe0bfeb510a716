import LinkStubs.CommandLine.Script.Syntax

/-!
Reading scripts. A script is read command by command, so what stands before a mistake is carried out.
-/

namespace LinkStubs.Script

/-- Reads something off the front of a script, unless the script is malformed there. -/
abbrev Reader := StateT Octets Option

namespace Reader

/-- The characters that end a word. -/
def isMeta (c : Char) : Bool :=
  [' ', '\t', '\n', ';', '&', '|', '<', '>', '(', ')'].contains c

def isNameStart (c : Char) : Bool :=
  c.isAlpha || c == '_'

def isNameChar (c : Char) : Bool :=
  c.isAlphanum || c == '_'

/-- The name at the front; it is empty where none stands there. -/
def nameAt (cs : Octets) : Octets :=
  if cs.head?.any isNameStart then cs.takeWhile isNameChar else []

def accept (text : String) : Reader Bool := do
  let cs ← get
  if text.toList.isPrefixOf cs then
    set (cs.drop text.length)
    return true
  else return false

def expect (text : String) : Reader Unit := do
  unless ← accept text do failure

/-- What is left behind blanks, continued lines and a comment. -/
def dropBlanks : Octets → Octets
  | '\\' :: '\n' :: cs => dropBlanks cs
  | '#' :: cs => cs.dropWhile (· != '\n')
  | c :: cs => if c == ' ' || c == '\t' then dropBlanks cs else c :: cs
  | [] => []

/-- What is left behind blanks and empty lines. -/
def dropLines : Nat → Octets → Octets
  | 0, cs => cs
  | fuel + 1, cs =>
    match dropBlanks cs with
    | '\n' :: cs => dropLines fuel cs
    | cs => cs

def blanks : Reader Unit :=
  modify dropBlanks

def lines : Reader Unit :=
  modify (fun cs => dropLines (cs.length + 1) cs)

/-- The text up to the bracket that closes, and what follows it. Quotes and brackets inside are passed
over. -/
def enclosed (escaped : Bool) (quote : Option Char) (depth : Nat) :
    Octets → Option (Octets × Octets)
  | [] => none
  | c :: cs =>
    let onwards (escaped : Bool) (quote : Option Char) (depth : Nat) :=
      (enclosed escaped quote depth cs).map (fun (inner, rest) => (c :: inner, rest))
    if escaped then onwards false quote depth
    else if quote = some c then onwards false none depth
    else
      match quote, c with
      | some '\'', _ => onwards false quote depth
      | _, '\\' => onwards true quote depth
      | some _, _ => onwards false quote depth
      | none, '\'' | none, '"' => onwards false (some c) depth
      | none, '(' => onwards false none (depth + 1)
      | none, ')' => if depth = 0 then some ([], cs) else onwards false none (depth - 1)
      | none, _ => onwards false none depth

/-- The text up to a back quote, and what follows it. -/
def backQuoted : Octets → Option (Octets × Octets)
  | [] => none
  | '`' :: cs => some ([], cs)
  | '\\' :: c :: cs =>
    (backQuoted cs).map (fun (inner, rest) =>
      (if ['`', '$', '\\'].contains c then c :: inner else '\\' :: c :: inner, rest))
  | c :: cs => (backQuoted cs).map (fun (inner, rest) => (c :: inner, rest))

def parameterAt (braced : Bool) (cs : Octets) : Option (Octets × Octets) :=
  match cs with
  | [] => none
  | c :: rest =>
    if isNameStart c then some (nameAt cs, cs.drop (nameAt cs).length)
    else if c.isDigit && braced then some (cs.takeWhile Char.isDigit, cs.dropWhile Char.isDigit)
    else if c.isDigit || ['@', '*', '#', '?', '$', '!', '-'].contains c then some ([c], rest)
    else none

/-- What is to be made of a parameter in braces, and what follows. -/
def usageAt : Octets → Option (Usage × Octets)
  | '%' :: '%' :: cs => some (.trim true true, cs)
  | '%' :: cs => some (.trim true false, cs)
  | '#' :: '#' :: cs => some (.trim false true, cs)
  | '#' :: cs => some (.trim false false, cs)
  | ':' :: c :: cs => if ['-', '=', '?', '+'].contains c then some (.choice c true, cs) else none
  | '}' :: cs => some (.value, '}' :: cs)
  | c :: cs => if ['-', '=', '?', '+'].contains c then some (.choice c false, cs) else none
  | [] => none

/-- The pieces of a word up to a character that ends it, and what is left from there. -/
def pieces (fuel : Nat) (ends : Char → Bool) (quoted : Bool) (cs : Octets) :
    Option (Word × Octets) :=
  match fuel, cs with
  | 0, _ => none
  | _, [] => some ([], [])
  | fuel + 1, c :: cs => do
    if ends c then return ([], c :: cs)
    let (front, rest) ← match c, quoted, cs with
      | '\\', _, '\n' :: rest => some ([], rest)
      | '\\', true, d :: rest =>
        if ['$', '`', '"', '\\', '}'].contains d then some ([Piece.text true [d]], rest)
        else some ([.text true ['\\']], cs)
      | '\\', false, d :: rest => some ([.text true [d]], rest)
      | '\'', false, _ => do
        let inner := cs.takeWhile (· != '\'')
        if inner.length = cs.length then none else some ([.text true inner], cs.drop (inner.length + 1))
      | '"', false, _ => do
        match ← pieces fuel (· == '"') true cs with
        | (inner, _ :: rest) =>
          -- Quotes are a field of their own even if nothing is in them, but for all arguments.
          let all := inner.any (fun p => p matches .parameter _ ['@'] _ _)
          some (if all then inner else .text true [] :: inner, rest)
        | (_, []) => none
      | '`', _, _ => do
        let (script, rest) ← backQuoted cs
        return ([.output quoted script], rest)
      | '$', _, '(' :: '(' :: cs => do
        let (inner, rest) ← enclosed false none 0 cs
        let (word, _) ← pieces fuel (fun _ => false) true inner
        if rest.head? = some ')' then some ([.arithmetic quoted word], rest.drop 1) else none
      | '$', _, '(' :: cs => do
        let (script, rest) ← enclosed false none 0 cs
        return ([.output quoted script], rest)
      | '$', _, '{' :: cs => do
        match cs, (parameterAt true (cs.drop 1)) with
        | '#' :: _, some (name, '}' :: rest) => return ([.parameter quoted name .length []], rest)
        | _, _ =>
          let (name, rest) ← parameterAt true cs
          let (usage, rest) ← usageAt rest
          let quotes := match usage with
            | .trim .. => false
            | _ => quoted
          match ← pieces fuel (· == '}') quotes rest with
          | (word, _ :: rest) => some ([.parameter quoted name usage word], rest)
          | (_, []) => none
      | '$', _, _ =>
        match parameterAt false cs with
        | some (name, rest) => some ([.parameter quoted name .value []], rest)
        | none => some ([.text quoted ['$']], cs)
      | c, _, _ => some ([.text quoted [c]], cs)
    let (others, rest) ← pieces fuel ends quoted rest
    return (front ++ others, rest)

def wholeText (cs : Octets) : Option Word :=
  (pieces (cs.length + 1) (fun _ => false) true cs).map (·.1)

def word : Reader Word :=
  fun cs => pieces (cs.length + 1) isMeta false cs

/-! Commands. What stands between two keywords is read by `inner`. -/

def keywords : List Octets :=
  ["if", "then", "elif", "else", "fi", "do", "done", "case", "esac", "while", "until", "for",
    "!"].map String.toList ++ [['{'], ['}']]

def keyword? (cs : Octets) : Option Octets :=
  keywords.find? (· == cs.takeWhile (fun c => !isMeta c))

def acceptKeyword (keyword : Octets) : Reader Bool := do
  lines
  let cs ← get
  if keyword? cs = some keyword then
    set (cs.drop keyword.length)
    return true
  else return false

def expectKeyword (keyword : Octets) : Reader Unit := do
  unless ← acceptKeyword keyword do failure

def listEnds (cs : Octets) : Bool :=
  cs.isEmpty || cs.head? == some ')' || ";;".toList.isPrefixOf cs ||
    (keyword? cs).any (["then", "elif", "else", "fi", "do", "done", "esac"].map String.toList
      ++ [['}']]).contains

/-- The lines of a document up to its end, and what follows. -/
def documentAt (tabs : Bool) (delimiter : Octets) : Nat → Octets → Octets × Octets
  | 0, cs => ([], cs)
  | fuel + 1, cs =>
    if cs.isEmpty then ([], [])
    else
      let line := cs.takeWhile (· != '\n')
      let rest := cs.drop (line.length + 1)
      let line := if tabs then line.dropWhile (· == '\t') else line
      if line == delimiter then ([], rest)
      else
        let (others, rest) := documentAt tabs delimiter fuel rest
        (line ++ '\n' :: others, rest)

/-- A document, which stands behind the line that asks for it. -/
def document (tabs : Bool) : Reader Redirection := do
  blanks
  let delimiter ← word
  let some name := Word.literal? delimiter | failure
  let cs ← get
  let line := cs.takeWhile (· != '\n')
  let (text, rest) := documentAt tabs name (cs.length + 1) (cs.drop (line.length + 1))
  set (line ++ '\n' :: rest)
  let isQuoted := delimiter.any (fun p => p matches .text true _)
  if isQuoted then return .document [.text true text]
  else return .document (← (wholeText text).elim failure pure)

def redirection? : Reader (Option Redirection) := do
  let cs ← get
  let digits := cs.takeWhile Char.isDigit
  let descriptor (default : Nat) : Nat := (String.ofList digits).toNat?.getD default
  let rest := cs.drop digits.length
  if rest.head? != some '<' && rest.head? != some '>' then return none
  set rest
  let onFile (mode : OpenMode) (default : Nat) : Reader (Option Redirection) := do
    blanks
    return some (.file (descriptor default) mode (← word))
  let onCopy (default : Nat) : Reader (Option Redirection) := do
    blanks
    return some (.copy (descriptor default) (← word))
  if ← accept "<<-" then return some (← document true)
  else if ← accept "<<" then return some (← document false)
  else if ← accept "<&" then onCopy 0
  else if ← accept ">&" then onCopy 1
  else if ← accept ">>" then onFile .append 1
  else if (← accept ">|") || (← accept ">") then onFile .write 1
  else
    expect "<"
    onFile .read 0

def redirections : Nat → Reader (List Redirection)
  | 0 => failure
  | fuel + 1 => do
    blanks
    match ← redirection? with
    | none => return []
    | some r => return r :: (← redirections fuel)

def simple (assignments : List (Octets × Word)) (words : List Word) (found : List Redirection) :
    Nat → Reader Command
  | 0 => failure
  | fuel + 1 => do
    blanks
    match ← redirection? with
    | some r => simple assignments words (found ++ [r]) fuel
    | none =>
      let cs ← get
      let name := nameAt cs
      if cs.isEmpty || cs.head?.any isMeta then
        if assignments.isEmpty && words.isEmpty && found.isEmpty then failure
        return .simple assignments words found
      else if words.isEmpty && !name.isEmpty && (cs.drop name.length).head? == some '=' then
        set (cs.drop (name.length + 1))
        simple (assignments ++ [(name, ← word)]) words found fuel
      else simple assignments (words ++ [← word]) found fuel

def words : Nat → Reader (List Word)
  | 0 => failure
  | fuel + 1 => do
    blanks
    if (← get).head?.all isMeta then return []
    return (← word) :: (← words fuel)

/-- The patterns of an arm, up to the bracket behind them. -/
def patterns : Nat → Reader (List Word)
  | 0 => failure
  | fuel + 1 => do
    blanks
    let first ← word
    blanks
    if ← accept "|" then return first :: (← patterns fuel)
    expect ")"
    return [first]

variable (inner : Reader Command)

def conditional : Nat → Reader Command
  | 0 => failure
  | fuel + 1 => do
    let condition ← inner
    expectKeyword "then".toList
    let body ← inner
    if ← acceptKeyword "elif".toList then
      return .conditional condition body (← conditional fuel)
    else if ← acceptKeyword "else".toList then
      let alternative ← inner
      expectKeyword "fi".toList
      return .conditional condition body alternative
    else
      expectKeyword "fi".toList
      return .conditional condition body .idle

def arms : Nat → Reader (List (List Word × Command))
  | 0 => failure
  | fuel + 1 => do
    if ← acceptKeyword "esac".toList then return []
    discard (accept "(")
    let patterns ← patterns fuel
    let body ← inner
    lines
    if ← accept ";;" then return (patterns, body) :: (← arms fuel)
    expectKeyword "esac".toList
    return [(patterns, body)]

def loopBody : Reader Command := do
  expectKeyword "do".toList
  let body ← inner
  expectKeyword "done".toList
  return body

def iteration : Reader Command := do
  blanks
  let name := nameAt (← get)
  if name.isEmpty then failure
  modify (·.drop name.length)
  lines
  let cs ← get
  if cs.takeWhile isNameChar == "in".toList then
    set (cs.drop 2)
    let found ← words (cs.length + 1)
    discard (accept ";")
    return .forEach name found (← loopBody inner)
  else
    discard (accept ";")
    return .forEach name [[.parameter true ['@'] .value []]] (← loopBody inner)

def choice : Reader Command := do
  blanks
  let subject ← word
  lines
  expect "in"
  return .choose subject (← arms inner ((← get).length + 1))

/-- A command that holds others. -/
def compound? : Reader (Option Command) := do
  blanks
  let cs ← get
  let fuel := cs.length + 1
  if ← accept "(" then
    let body ← inner
    lines
    expect ")"
    return some (.subshell body)
  else if ← acceptKeyword ['{'] then
    let body ← inner
    expectKeyword ['}']
    return some body
  else if ← acceptKeyword "if".toList then return some (← conditional inner fuel)
  else if ← acceptKeyword "while".toList then return some (.loop true (← inner) (← loopBody inner))
  else if ← acceptKeyword "until".toList then
    return some (.loop false (← inner) (← loopBody inner))
  else if ← acceptKeyword "for".toList then return some (← iteration inner)
  else if ← acceptKeyword "case".toList then return some (← choice inner)
  else return none

/-- A command with the redirections behind it. -/
def command : Reader Command := do
  blanks
  let cs ← get
  let fuel := cs.length + 1
  match ← compound? inner with
  | some body =>
    let found ← redirections fuel
    return if found.isEmpty then body else .redirected body found
  | none =>
    if (keyword? cs).isSome then failure
    let name := nameAt cs
    match dropBlanks (cs.drop name.length) with
    | '(' :: rest =>
      set (dropBlanks rest)
      expect ")"
      lines
      let some body ← compound? inner | failure
      if name.isEmpty then failure else return .define name body
    | _ => simple [] [] [] fuel

def pipeline : Nat → Reader Command
  | 0 => failure
  | fuel + 1 => do
    let first ← command inner
    blanks
    let cs ← get
    if cs.head? == some '|' && cs[1]? != some '|' then
      set (cs.drop 1)
      lines
      return .pipe first (← pipeline fuel)
    else return first

/-- A pipeline that may be negated. -/
def negatable (fuel : Nat) : Reader Command := do
  if keyword? (dropBlanks (← get)) = some ['!'] then
    discard (acceptKeyword ['!'])
    return .negation (← pipeline inner fuel)
  else pipeline inner fuel

/-- What is to be done after `first`, depending on its status. -/
def chain : Nat → Command → Reader Command
  | 0, _ => failure
  | fuel + 1, first => do
    blanks
    if ← accept "&&" then
      lines
      chain fuel (.both first (← negatable inner fuel))
    else if ← accept "||" then
      lines
      chain fuel (.either first (← negatable inner fuel))
    else return first

/-- Commands up to the end of a line, or over all lines up to the end of a list. -/
def sequence (wholeList : Bool) : Nat → Reader Command
  | 0 => failure
  | fuel + 1 => do
    if wholeList then lines else blanks
    if listEnds (← get) && wholeList then return .idle
    let first ← chain inner fuel (← negatable inner fuel)
    blanks
    let cs ← get
    let separated := match cs with
      | ';' :: ';' :: _ => false
      | ';' :: _ | '&' :: _ => true
      | '\n' :: _ => wholeList
      | _ => false
    if !separated then return first
    -- What runs in the background has no part in the status.
    let first := if cs.head? == some '&' then .either (.subshell first) .idle else first
    set (cs.drop 1)
    blanks
    let rest ← get
    if !wholeList && (rest.isEmpty || rest.head? == some '\n') then return first
    match ← sequence wholeList fuel with
    | .simple [] [] [] => return first
    | others => return .sequence first others

/-- The commands inside of another. -/
def commands : Nat → Reader Command
  | 0 => failure
  | fuel + 1 => sequence (commands fuel) true (fuel + 1)

/-- The commands on the next line that has any, and the rest of the script. -/
def nextLine (cs : Octets) : Option (Option (Command × Octets)) :=
  let cs := dropLines (cs.length + 1) cs
  if cs.isEmpty then some none
  else do
    let (found, rest) ← (sequence (commands cs.length) false (cs.length + 1)).run cs
    if rest.isEmpty || rest.head? == some '\n' then some (some (found, rest)) else none

end Reader

end LinkStubs.Script
