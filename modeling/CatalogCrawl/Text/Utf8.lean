/-! # UTF-8

Bytes as numbers below 256, a character as one to four of them, and back. -/

namespace CatalogCrawl.Text.Utf8

/-- The bytes of one character. -/
def bytes (c : Char) : List Nat := (String.utf8EncodeChar c).map UInt8.toNat

def encode (cs : List Char) : List Nat := cs.flatMap bytes

/-- Numbers below 256 as bytes. -/
def pack (bs : List Nat) : ByteArray := (bs.map UInt8.ofNat).toByteArray

/-- The characters of a byte sequence, `none` if it is not UTF-8. -/
def decode (bs : List Nat) : Option (List Char) := (pack bs).utf8Decode?.map Array.toList

/-! ## Texts that are broken -/

/-- The first character of a byte sequence and the bytes after it. -/
def step (bs : List Nat) : Option (Char × List Nat) :=
  ((pack bs).utf8DecodeChar? 0).map fun c => (c, bs.drop c.utf8Size)

/-- How many continuation bytes follow a leading byte, the bits the leading byte gives and the least
code point of that length. `none` for a byte that cannot lead. -/
def lead (b : Nat) : Option (Nat × Nat × Nat) :=
  if b < 0x80 then some (0, b, 0)
  else if 0xc2 ≤ b && b < 0xe0 then some (1, b - 0xc0, 0x80)
  else if 0xe0 ≤ b && b < 0xf0 then some (2, b - 0xe0, 0x800)
  else if 0xf0 ≤ b && b < 0xf5 then some (3, b - 0xf0, 0x10000)
  else none

end CatalogCrawl.Text.Utf8
