import Shorthand.Text.Bytes
/-!
Octets as characters. A machine knows texts only as rows of octets; each of them is written here as
the character of its number, so that what is said of characters holds of octets too.
-/
set_option autoImplicit false

namespace Shorthand.Text

def ofByte (b : UInt8) : Char := Char.ofNat b.toNat

def byteOf (c : Char) : UInt8 := c.toNat.toUInt8

def octets (s : String) : List Char := (toBytes s).map ofByte

def toOctets (s : String) : String := .ofList (octets s)

def ofOctets (s : List Char) : String := ofBytes (s.map byteOf)

end Shorthand.Text
