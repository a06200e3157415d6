import CatalogCrawl.Text.Blank
import CatalogCrawl.Text.Split

/-! # Tables of code points

What a standard says of code points, by ranges of them. A table is written as words between blanks:
a code point or the two ends of a range, in hexadecimal digits, and what is said of them after an
equals sign. The ranges ascend and do not meet, so a code point is looked up by halving. -/

namespace CatalogCrawl.Text

/-- A range of code points, both ends included, and what is said of it. -/
structure Span (α : Type) where
  first : Nat
  last : Nat
  value : α
  deriving DecidableEq, Repr

abbrev Table (α : Type) := Array (Span α)

namespace Table

variable {α : Type}

/-- The value of a lower-case hexadecimal number. -/
def hexNumber (cs : List Char) : Nat :=
  cs.foldl (fun n c => n * 16 + if c.isDigit then c.toNat - 48 else c.toNat - 87) 0

/-- The words between blanks. -/
def words (s : String) : List (List Char) :=
  (splitOn ' ' (s.toList.map fun c => if isBlank c then ' ' else c)).filter (!·.isEmpty)

/-- Reads a word of a table. -/
def readSpan (value : List Char → α) (word : List Char) : Span α :=
  let range := word.takeWhile (· ≠ '=')
  let first := range.takeWhile (· ≠ '-')
  let last := if first.length = range.length then first else range.drop (first.length + 1)
  ⟨hexNumber first, hexNumber last, value (word.drop (range.length + 1))⟩

/-- The table of a text. -/
def ofText (value : List Char → α) (s : String) : Table α :=
  ((words s).map (readSpan value)).toArray

/-- The set of a text that says nothing of its ranges but that they are there. -/
def setOfText (s : String) : Table Unit := ofText (fun _ => ()) s

/-- Looks for the range of a code point between two places of a table. -/
def search (t : Table α) (n low high : Nat) : Option (Span α) :=
  if low < high then
    let middle := (low + high) / 2
    match t[middle]? with
    | none => none
    | some s =>
      if n < s.first then search t n low middle
      else if s.last < n then search t n (middle + 1) high
      else some s
  else none
termination_by high - low

/-- The range of a code point. -/
def find? (t : Table α) (n : Nat) : Option (Span α) := search t n 0 t.size

def contains (t : Table α) (n : Nat) : Bool := (t.find? n).isSome

end Table

end CatalogCrawl.Text
