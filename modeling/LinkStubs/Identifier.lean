import LinkStubs.Text.Lines

/-!
C identifiers, and the family of identifiers that a module name gives rise to.
-/

namespace LinkStubs.Identifier

/-- The characters of C identifiers. -/
def isIdentChar (c : Char) : Bool :=
  c == '_' || c.isAlphanum

/-- The characters that an identifier may start with. -/
def isIdentStart (c : Char) : Bool :=
  c == '_' || c.isAlpha

/-- A run of identifier characters with its first letter raised and the others lowered. -/
def capitalized : List Char → List Char
  | [] => []
  | c :: cs => c.toUpper :: cs.map Char.toLower

/-- A name as a part of an identifier: its runs of identifier characters, each capitalized. -/
def camelChars (raw : List Char) : List Char :=
  (Text.pieces (fun c => !isIdentChar c) raw).flatMap capitalized

def camel (raw : String) : String :=
  String.ofList (camelChars raw.toList)

/-- The enumerator that stands for a module. -/
def enumerator (module : String) : String :=
  "kModule" ++ camel module

/-- The function that tells whether every symbol of a module is loaded. -/
def readyCheck (module : String) : String :=
  "Is" ++ camel module ++ "Initialized"

def loader (module : String) : String :=
  "Initialize" ++ camel module

def unloader (module : String) : String :=
  "Uninitialize" ++ camel module

/-- The identifiers of one module. -/
structure Family where
  enumerator : String
  readyCheck : String
  loader : String
  unloader : String
  deriving DecidableEq, Repr

def Family.ofModule (module : String) : Family :=
  ⟨Identifier.enumerator module, Identifier.readyCheck module, Identifier.loader module,
    Identifier.unloader module⟩

end LinkStubs.Identifier
