import LoadScript.Text.Utf8

set_option autoImplicit false

namespace LoadScript

abbrev Octets := List Char

namespace Octets

def ofByte (b : UInt8) : Char := Char.ofNat b.toNat

def ofBytes (bytes : List UInt8) : Octets := bytes.map ofByte

def ofByteArray (content : ByteArray) : Octets := ofBytes content.toList

def toBytes (s : Octets) : List UInt8 := s.map fun c => UInt8.ofNat c.toNat

def toByteArray (s : Octets) : ByteArray := ByteArray.mk (toBytes s).toArray

def ofText (text : String) : Octets := ofBytes text.toUTF8.toList

def toText (s : Octets) : String := Utf8.decode (toBytes s)

def ofNat (n : Nat) : Octets := (Nat.repr n).toList

end Octets

end LoadScript
