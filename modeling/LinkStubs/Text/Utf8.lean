/-!
Octets and texts: strict reading of UTF-8, and a reading that puts U+FFFD in place of what is not.
-/

namespace LinkStubs.Text

/-- How many octets a character has that starts with `b`, and the range of its second octet. -/
def octetsAfter (b : UInt8) : Option (Nat × UInt8 × UInt8) :=
  if b < 0x80 then some (0, 0x80, 0xBF)
  else if 0xC2 ≤ b && b ≤ 0xDF then some (1, 0x80, 0xBF)
  else if b == 0xE0 then some (2, 0xA0, 0xBF)
  else if b == 0xED then some (2, 0x80, 0x9F)
  else if 0xE1 ≤ b && b ≤ 0xEF then some (2, 0x80, 0xBF)
  else if b == 0xF0 then some (3, 0x90, 0xBF)
  else if 0xF1 ≤ b && b ≤ 0xF3 then some (3, 0x80, 0xBF)
  else if b == 0xF4 then some (3, 0x80, 0x8F)
  else none

def leadBits (b : UInt8) : Nat :=
  if b < 0x80 then b.toNat
  else if b < 0xE0 then b.toNat % 0x20
  else if b < 0xF0 then b.toNat % 0x10
  else b.toNat % 0x08

/-- A character under way: its bits so far, the octets it still needs and the range of the next. -/
structure Unfinished where
  bits : Nat
  owed : Nat
  low : UInt8
  high : UInt8

/-- Octets from the start of a character. -/
def startChar (b : UInt8) : List Char × Option Unfinished :=
  match octetsAfter b with
  | none => (['\ufffd'], none)
  | some (0, _, _) => ([Char.ofNat b.toNat], none)
  | some (n + 1, low, high) => ([], some ⟨leadBits b, n + 1, low, high⟩)

/-- Octets as text; each longest stretch that begins a character and does not complete it, and
each octet that begins none, becomes U+FFFD. -/
def lossyFrom : Option Unfinished → List UInt8 → List Char
  | none, [] => []
  | some _, [] => ['\ufffd']
  | none, b :: bs =>
    let (cs, next) := startChar b
    cs ++ lossyFrom next bs
  | some u, b :: bs =>
    if u.low ≤ b && b ≤ u.high then
      let bits := u.bits * 0x40 + b.toNat % 0x40
      if u.owed ≤ 1 then Char.ofNat bits :: lossyFrom none bs
      else lossyFrom (some ⟨bits, u.owed - 1, 0x80, 0xBF⟩) bs
    else
      let (cs, next) := startChar b
      '\ufffd' :: cs ++ lossyFrom next bs

def decodeLossy (bytes : ByteArray) : String :=
  String.ofList (lossyFrom none bytes.toList)

/-- The text that octets spell, if they are well-formed. -/
def decode? (bytes : ByteArray) : Option String :=
  String.fromUTF8? bytes

end LinkStubs.Text
