import CatalogCrawl.Text.Word

/-! # Patterns

Regular expressions over characters, with assertions about where in the text they stand. A pattern
takes the set of places where a match may start to the set of places where one may end, so a search
takes time polynomial in the text. -/

namespace CatalogCrawl.Text

/-- A set of characters. -/
inductive CharClass where
  | range (first last : Char)
  | word
  | decimal
  | blank
  /-- Letters of any script. -/
  | letter
  | compl (s : CharClass)
  | union (s t : CharClass)
  | inter (s t : CharClass)
  /-- The set with the other case of its letters. -/
  | anyCase (s : CharClass)
  deriving DecidableEq, Repr

namespace CharClass

/-- The class of one character. -/
def single (c : Char) : CharClass := .range c c

/-- The empty class. -/
def none : CharClass := .range '\x01' '\x00'

/-- The class of some characters. -/
def ofList (cs : List Char) : CharClass := cs.foldl (fun s c => .union s (.single c)) .none

/-- The members of a class without those of another. -/
def diff (s t : CharClass) : CharClass := .inter s (.compl t)

/-- The other cases of a letter. The long s and the sign for kelvin belong to ASCII letters. -/
def otherCases (c : Char) : List Char :=
  if c = 'k' || c = 'K' || c = '\u212a' then ['k', 'K', '\u212a']
  else if c = 's' || c = 'S' || c = '\u017f' then ['s', 'S', '\u017f']
  else [c.toLower, c.toUpper]

def contains : CharClass → Char → Bool
  | .range a b, c => a ≤ c && c ≤ b
  | .word, c => isWord c
  | .decimal, c => isDecimal c
  | .blank, c => isBlank c
  | .letter, c => isAlphanumeric c && !isDecimal c && !plainNumbers.contains c.toNat
  | .compl s, c => !s.contains c
  | .union s t, c => s.contains c || t.contains c
  | .inter s t, c => s.contains c && t.contains c
  | .anyCase s, c => s.contains c || (otherCases c).any s.contains

end CharClass

/-- What can be asked of a place between two characters. -/
inductive Look where
  | start
  | stop
  | lineStart
  | lineStop
  /-- A part of a word on one side only. `ascii` says whether words are of ASCII characters. -/
  | boundary (ascii : Bool)
  | noBoundary (ascii : Bool)
  | wordStart (ascii : Bool)
  | wordStop (ascii : Bool)
  /-- No part of a word before the place. -/
  | halfStart (ascii : Bool)
  /-- No part of a word after the place. -/
  | halfStop (ascii : Bool)
  deriving DecidableEq, Repr

/-- Whether a character is part of a word. -/
def isWordIn (ascii : Bool) (c : Char) : Bool := isWord c && (!ascii || c.toNat < 0x80)

/-- Whether it holds between two characters, either of which may be missing. -/
def Look.holds (before after : Option Char) : Look → Bool
  | .start => before.isNone
  | .stop => after.isNone
  | .lineStart => before.isNone || before = some '\n'
  | .lineStop => after.isNone || after = some '\n'
  | .boundary a => before.any (isWordIn a) != after.any (isWordIn a)
  | .noBoundary a => before.any (isWordIn a) == after.any (isWordIn a)
  | .wordStart a => !before.any (isWordIn a) && after.any (isWordIn a)
  | .wordStop a => before.any (isWordIn a) && !after.any (isWordIn a)
  | .halfStart a => !before.any (isWordIn a)
  | .halfStop a => !after.any (isWordIn a)

inductive Pattern where
  | empty
  | char (s : CharClass)
  | look (l : Look)
  | seq (p q : Pattern)
  | alt (p q : Pattern)
  /-- At least `low` times, and at most `high` times if that is given. -/
  | repeated (p : Pattern) (low : Nat) (high : Option Nat)
  deriving DecidableEq, Repr

namespace Pattern

/-- Places in a text, by the number of characters before them, in ascending order. -/
abbrev Places := List Nat

/-- The places of both. -/
def merge : Places → Places → Places
  | [], qs => qs
  | ps, [] => ps
  | p :: ps, q :: qs =>
    if p < q then p :: merge ps (q :: qs)
    else if q < p then q :: merge (p :: ps) qs
    else p :: merge ps qs
termination_by ps qs => ps.length + qs.length

/-- A step taken exactly `n` times. A step that changes nothing would not do so later either. -/
def iterate (f : Places → Places) : Nat → Places → Places
  | 0, ps => ps
  | n + 1, ps =>
    let next := f ps
    if next = ps then ps else iterate f n next

/-- A step taken up to `n` times from the latest of the places that have been reached. -/
def spread (f : Places → Places) : Nat → Places → Places → Places
  | 0, reached, _ => reached
  | n + 1, reached, latest =>
    let new := (f latest).filter (!reached.contains ·)
    if new.isEmpty then reached else spread f n (merge reached new) new

/-- The characters on both sides of a place. -/
def around (text : Array Char) (n : Nat) : Option Char × Option Char :=
  (if n = 0 then none else text[n - 1]?, text[n]?)

/-- The places where a match may end that starts at one of the given places. -/
def ends (text : Array Char) : Pattern → Places → Places
  | .empty, ps => ps
  | .char s, ps => ps.filterMap fun n =>
    match text[n]? with
    | some c => if s.contains c then some (n + 1) else none
    | none => none
  | .look l, ps => ps.filter fun n => l.holds (around text n).1 (around text n).2
  | .seq p q, ps => q.ends text (p.ends text ps)
  | .alt p q, ps => merge (p.ends text ps) (q.ends text ps)
  | .repeated p low high, ps =>
    let base := iterate (fun ps => p.ends text ps) low ps
    spread (fun ps => p.ends text ps) ((high.map (· - low)).getD (text.size + 1)) base base

/-- Whether a pattern matches somewhere in a text. -/
def occursIn (p : Pattern) (s : String) : Bool :=
  let text := s.toList.toArray
  !(p.ends text (List.range (text.size + 1))).isEmpty

end Pattern

end CatalogCrawl.Text
