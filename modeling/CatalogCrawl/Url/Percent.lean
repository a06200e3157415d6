import CatalogCrawl.Text.Utf8

/-! # Percent-encoding

A character outside a set is written as its UTF-8 bytes, each as `%` and two upper-case digits. -/

namespace CatalogCrawl.Url

def upperHex (n : Nat) : Char := (Nat.digitChar n).toUpper

/-- A byte as `%XX`. -/
def percentByte (b : Nat) : List Char := ['%', upperHex (b / 16), upperHex (b % 16)]

def percentChar (c : Char) : List Char := (Text.Utf8.bytes c).flatMap percentByte

/-- Encodes the characters for which `p` holds. -/
def percentEncode (p : Char → Bool) (cs : List Char) : List Char :=
  cs.flatMap fun c => if p c then percentChar c else [c]

def hexValue (c : Char) : Option Nat :=
  if c.isDigit then some (c.toNat - 48)
  else if 'a' ≤ c && c ≤ 'f' then some (c.toNat - 87)
  else if 'A' ≤ c && c ≤ 'F' then some (c.toNat - 55)
  else none

/-- The bytes of a text, with `%XX` read as a byte. A `%` that two digits do not follow
is itself. -/
def percentDecode : List Char → List Nat
  | [] => []
  | '%' :: a :: b :: cs =>
    match hexValue a, hexValue b with
    | some x, some y => (x * 16 + y) :: percentDecode cs
    | _, _ => 37 :: percentDecode (a :: b :: cs)
  | c :: cs => Text.Utf8.bytes c ++ percentDecode cs

/-! ## Sets of characters to encode -/

/-- Control characters and everything that is not ASCII. -/
def isControl (c : Char) : Bool := c.toNat < 0x20 || 0x7e < c.toNat

def inFragmentSet (c : Char) : Bool := isControl c || " \"<>`".toList.contains c

def inQuerySet (c : Char) : Bool := isControl c || " \"#<>".toList.contains c

/-- In the query of a scheme such as `http` the single quote is encoded too. -/
def inSpecialQuerySet (c : Char) : Bool := inQuerySet c || c == '\''

def inPathSet (c : Char) : Bool := inFragmentSet c || "#?\x7b\x7d".toList.contains c

def inUserinfoSet (c : Char) : Bool := inPathSet c || "/:;=@[\\]^|".toList.contains c

/-- What is encoded in one path segment. -/
def inSegmentSet (c : Char) : Bool := inPathSet c || c == '/' || c == '%'

def inSpecialSegmentSet (c : Char) : Bool := inSegmentSet c || c == '\\'

end CatalogCrawl.Url
