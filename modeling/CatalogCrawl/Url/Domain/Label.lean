import CatalogCrawl.Text.CombiningClass
import CatalogCrawl.Url.Domain.Direction
import CatalogCrawl.Url.Domain.Joining
import CatalogCrawl.Url.Domain.Mark

/-! # Rules for labels

What is asked of the labels of a host name, besides that each of their characters may be there: with
what they start, where joiners stand, and how directions are mixed. -/

namespace CatalogCrawl.Url.Domain

/-! ## Joiners -/

def nonJoiner : Char := Char.ofNat 0x200c

def joiner : Char := Char.ofNat 0x200d

/-- Whether the nearest character that is not joined through has one of the given types. -/
def nearestJoins (types : List Joining) (cs : List Char) : Bool :=
  match cs.dropWhile (joiningOf · = .through) with
  | [] => false
  | c :: _ => types.contains (joiningOf c)

/-- Whether a joiner may stand between the characters before it, in reverse, and those after it.
Both joiners may follow a virama, and the non-joiner may part two letters that would be joined. -/
def mayJoin (c : Char) (before after : List Char) : Bool :=
  match before with
  | [] => false
  | d :: _ =>
    Text.combiningClass d = Text.viramaClass ||
      (c = nonJoiner && nearestJoins [.left, .both] before && nearestJoins [.right, .both] after)

/-- Whether all joiners may stand where they do. -/
def joinersFit : List Char → List Char → Bool
  | _, [] => true
  | before, c :: after =>
    (if c = nonJoiner || c = joiner then mayJoin c before after else true)
      && joinersFit (c :: before) after

/-- Whether a label may be one, whatever the directions are. -/
def isLabel (label : List Char) : Bool := !label.head?.any isMark && joinersFit [] label

/-! ## Directions -/

/-- Whether a character makes the name one with parts from right to left. -/
def turnsLeft (c : Char) : Bool :=
  let d := directionOf c
  d = .rightToLeft || d = .arabicLetter || d = .arabicNumber

/-- What a label from left to right may hold. -/
def fitsLeftToRight (ds : List Direction) : Bool :=
  ds.all (fun d => d = .leftToRight || d = .europeanNumber || d = .neutral || d = .nonspacingMark)
    && (ds.getLast? = some .leftToRight || ds.getLast? = some .europeanNumber)

/-- What a label from right to left may hold: numbers of one kind only, and at its end a letter or a
number. -/
def fitsRightToLeft (ds : List Direction) : Bool :=
  !ds.contains .leftToRight
    && !(ds.contains .europeanNumber && ds.contains .arabicNumber)
    && ds.getLast? ≠ some .neutral

/-- The rule for the labels of a name with parts from right to left. Marks at the end
do not count. -/
def directionsFit (label : List Char) : Bool :=
  match label.map directionOf with
  | [] => true
  | d :: ds =>
    let ds := (ds.reverse.dropWhile (· = .nonspacingMark)).reverse
    if d = .leftToRight then ds.isEmpty || fitsLeftToRight ds
    else if d = .rightToLeft || d = .arabicLetter then ds.isEmpty || fitsRightToLeft ds
    else false

end CatalogCrawl.Url.Domain
