import LinkStubs.Text.Utf8

/-!
Text that need not be well-formed: octets, each held as the character of that number.
-/

namespace LinkStubs

abbrev Octets := List Char

namespace Octets

def ofBytes (bytes : ByteArray) : Octets :=
  bytes.toList.map (fun b => Char.ofNat b.toNat)

def toBytes (cs : Octets) : ByteArray :=
  ⟨(cs.map (fun c => UInt8.ofNat c.toNat)).toArray⟩

def ofText (text : String) : Octets :=
  ofBytes text.toUTF8

/-- The text that octets spell, with U+FFFD in place of what spells none. -/
def toText (cs : Octets) : String :=
  Text.decodeLossy (toBytes cs)

def ofNat (n : Nat) : Octets :=
  (toString n).toList

def ofInt (n : Int) : Octets :=
  (toString n).toList

end Octets

end LinkStubs
