import CatalogCrawl.Text.CombiningClass
import CatalogCrawl.Text.Composite

/-! # Composed normal form

Texts that look the same have one spelling in this form: composites are taken apart, marks are put
in the order of their combining classes, and what can be composed is composed again. -/

namespace CatalogCrawl.Text

/-! ## Hangul

A syllable is a leading consonant, a vowel and perhaps a trailing consonant, and its code point can
be computed from theirs. -/

/-- The parts of a Hangul syllable: a shorter syllable and a trailing consonant, or two letters. -/
def syllableParts? (n : Nat) : Option (Nat × Nat) :=
  if 0xac00 ≤ n && n ≤ 0xd7a3 then
    let i := n - 0xac00
    if i % 28 = 0 then some (0x1100 + i / 588, 0x1161 + i / 28 % 21)
    else some (n - i % 28, 0x11a7 + i % 28)
  else none

/-- The Hangul syllable of two parts. -/
def syllable? (a b : Nat) : Option Nat :=
  if 0x1100 ≤ a && a ≤ 0x1112 && 0x1161 ≤ b && b ≤ 0x1175 then
    some (0xac00 + ((a - 0x1100) * 21 + (b - 0x1161)) * 28)
  else if 0xac00 ≤ a && a ≤ 0xd7a3 && (a - 0xac00) % 28 = 0 && 0x11a8 ≤ b && b ≤ 0x11c2 then
    some (a + (b - 0x11a7))
  else none

/-! ## Taking apart and ordering -/

/-- The parts of a code point, taken apart at most the given number of times. -/
def takeApart : Nat → Nat → List Nat
  | 0, n => [n]
  | times + 1, n =>
    match (syllableParts? n).or (parts? n) with
    | some (a, b) => takeApart times a ++ [b]
    | none => [n]

/-- No composite has more than four marks. -/
def decompose (c : Char) : List Char := (takeApart 4 c.toNat).map Char.ofNat

/-- Puts a mark before the first character that must not stand before it. -/
def insertMark (c : Char) : List Char → List Char
  | [] => [c]
  | d :: ds =>
    if 0 < combiningClass d && combiningClass d < combiningClass c then d :: insertMark c ds
    else c :: d :: ds

/-- Orders the marks after each character. -/
def orderMarks (cs : List Char) : List Char :=
  cs.foldr (fun c acc => if combiningClass c = 0 then c :: acc else insertMark c acc) []

/-! ## Composing -/

def joined? (a b : Char) : Option Char :=
  ((syllable? a.toNat b.toNat).or (composite? a.toNat b.toNat)).map Char.ofNat

/-- Whether a character can be joined to the base over the marks between them. -/
def reaches (marks : List Char) (c : Char) : Bool :=
  match marks.getLast? with
  | none => true
  | some d => combiningClass d < combiningClass c

/-- Composes what follows a base and the marks that could not be joined to it. -/
def composeFrom : List Char → Char → List Char → List Char
  | [], base, marks => base :: marks
  | c :: cs, base, marks =>
    match if reaches marks c then joined? base c else none with
    | some joined => composeFrom cs joined marks
    | none =>
      if combiningClass c = 0 then base :: marks ++ composeFrom cs c []
      else composeFrom cs base (marks ++ [c])

/-- Composes each character with the marks after it. Marks at the start have no base. -/
def compose (cs : List Char) : List Char :=
  let marks := cs.takeWhile (combiningClass · ≠ 0)
  match cs.drop marks.length with
  | [] => marks
  | c :: rest => marks ++ composeFrom rest c []

/-- The composed normal form. -/
def normalize (cs : List Char) : List Char := compose (orderMarks (cs.flatMap decompose))

end CatalogCrawl.Text
