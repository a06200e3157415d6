import CatalogCrawl.Text.Utf8

/-! # Terminal escapes

Text for a sink that is no terminal: without escape sequences and without control characters other
than blanks and line breaks. What a terminal would read as a sequence is left out byte by byte, so a
byte inside a character can end one. -/

namespace CatalogCrawl.Text

/-- Where in an escape sequence a terminal is. -/
inductive EscapeState where
  | ground
  /-- After an escape character. -/
  | started
  /-- After an escape character and an intermediate one. -/
  | intermediate
  /-- In a control sequence, which a letter ends. -/
  | control
  /-- In the head of a string for the device: at its start, in its parameters, in its
  intermediates. -/
  | deviceStart
  | deviceParameters
  | deviceIntermediates
  /-- In a string for the operating system, which a bell ends. -/
  | command
  /-- In any other string, which the byte `9c` ends. -/
  | string
  deriving DecidableEq, Repr

namespace EscapeState

/-- The state after a byte. -/
def next (s : EscapeState) (b : Nat) : EscapeState :=
  if b = 0x18 || b = 0x1a then .ground
  else if b = 0x1b then .started
  else match s with
    | .ground => .ground
    | .started =>
      if 0x20 ≤ b && b ≤ 0x2f then .intermediate
      else if b = 0x5b then .control
      else if b = 0x5d then .command
      else if b = 0x50 then .deviceStart
      else if b = 0x58 || b = 0x5e || b = 0x5f then .string
      else if 0x30 ≤ b && b ≤ 0x7e then .ground
      else .started
    | .intermediate => if 0x30 ≤ b && b ≤ 0x7e then .ground else .intermediate
    | .control => if 0x40 ≤ b && b ≤ 0x7e then .ground else .control
    | .deviceStart =>
      if 0x20 ≤ b && b ≤ 0x2f then .deviceIntermediates
      else if 0x30 ≤ b && b ≤ 0x3f then .deviceParameters
      else if 0x40 ≤ b && b ≤ 0x7e then .string
      else .deviceStart
    | .deviceParameters =>
      if 0x20 ≤ b && b ≤ 0x2f then .deviceIntermediates
      else if 0x3c ≤ b && b ≤ 0x7e then .string
      else .deviceParameters
    | .deviceIntermediates => if 0x30 ≤ b && b ≤ 0x7e then .string else .deviceIntermediates
    | .command => if b = 0x07 then .ground else .command
    | .string => if b = 0x9c then .ground else .string

/-- Control characters that are shown. -/
def isBreak (c : Char) : Bool := c == '\t' || c == '\n' || c == '\r' || c == '\x0c'

/-- Whether a character is shown where it stands. In the head of a sequence only breaks are. -/
def shows (s : EscapeState) (c : Char) : Bool :=
  match s with
  | .ground => isBreak c || (0x20 ≤ c.toNat && c.toNat ≠ 0x7f)
  | .started | .intermediate | .control => isBreak c
  | _ => false

/-- The state after a character. -/
def after (s : EscapeState) (c : Char) : EscapeState := (Utf8.bytes c).foldl next s

end EscapeState

/-- Leaves out escape sequences. While characters are shown, `showing` holds and the state is the
one in which the first of them was met; it is taken up again by the next control character. -/
def stripFrom (showing : Bool) (s : EscapeState) : List Char → List Char
  | [] => []
  | c :: cs =>
    if showing then
      if EscapeState.shows .ground c then
        c :: stripFrom true (if c.toNat < 0x80 then s else .ground) cs
      else stripFrom false (s.after c) cs
    else if s.shows c then c :: stripFrom true (s.after c) cs
    else stripFrom false (s.after c) cs

def stripEscapes (s : String) : String := String.ofList (stripFrom false .ground s.toList)

end CatalogCrawl.Text
