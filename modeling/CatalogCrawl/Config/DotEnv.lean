import CatalogCrawl.Text.Alphanumeric
import CatalogCrawl.Text.Blank
import CatalogCrawl.Text.Utf8

/-! # `.env` files

Assignments of variables, one on a line. Values may be quoted, and quoted values may go over several
lines. A value may refer to variables set before it. -/

namespace CatalogCrawl.DotEnv

/-! ## Lines -/

/-- Where in a line the reader is. -/
inductive Mode where
  | complete
  | escape
  | strong
  | strongEscape
  | weak
  | weakEscape
  /-- After one blank. -/
  | blank
  deriving DecidableEq, Repr

/-- What a character does outside of quotes. -/
def Mode.open (c : Char) : Mode :=
  if c = '\\' then .escape else if c = '"' then .weak else if c = '\'' then .strong else .complete

def Mode.next (m : Mode) (c : Char) : Mode :=
  match m with
  | .blank => .open c
  | .escape => .complete
  | .complete =>
    if Text.isBlank c && c ≠ '\n' && c ≠ '\r' then .blank else .open c
  | .weak => if c = '\\' then .weakEscape else if c = '"' then .complete else .weak
  | .weakEscape => .weak
  | .strong => if c = '\\' then .strongEscape else if c = '\'' then .complete else .strong
  | .strongEscape => .strong

/-- Runs through a line. Gives the mode at its end, or what stands before a comment, which starts
after a single blank. -/
def scan : Mode → List Char → List Char → Mode ⊕ List Char
  | m, _, [] => .inl m
  | m, seen, c :: cs =>
    if m = .blank && c = '#' then .inr seen else scan (m.next c) (seen ++ [c]) cs

/-- A line without its break. -/
def dropBreak (cs : List Char) : List Char :=
  if cs.getLast? = some '\n' then
    let cs := cs.dropLast
    if cs.getLast? = some '\r' then cs.dropLast else cs
  else cs

/-- Joins the lines of a file, given with their breaks, where a quote goes over several of
them. A line that is not text, and an end of the file within a quote, is an error, after which
nothing is read. -/
def joinLines : List (Option (List Char)) → List Char → Mode → List (Except Unit (List Char))
  | [], _, m => if m = .complete then [] else [.error ()]
  | none :: _, _, _ => [.error ()]
  | some line :: rest, buffer, m =>
    let all := buffer ++ line
    if (Text.trimStart all).head? = some '#' then .ok [] :: joinLines rest [] .complete
    else match scan m [] line with
      | .inr before => .ok (buffer ++ before) :: joinLines rest [] .complete
      | .inl .complete => .ok (dropBreak all) :: joinLines rest [] .complete
      | .inl m => joinLines rest all m

/-! ## Values -/

/-- Variables, by which values may be completed. -/
abbrev Lookup := List Char → List Char

/-- Which kind of reference is being read. -/
inductive Reference where
  /-- `$NAME` -/
  | bare
  /-- A name between braces. -/
  | braced
  deriving DecidableEq, Repr

/-- How far a value has been read. -/
structure ValueState where
  output : List Char := []
  strong : Bool := false
  weak : Bool := false
  escaped : Bool := false
  /-- Only blanks and a comment may follow. -/
  ending : Bool := false
  reference : Option (Reference × List Char) := none

/-- The character that a backslash makes of another. -/
def unescape (c : Char) : Option Char :=
  if c = '\\' || c = '\'' || c = '"' || c = '$' || c = ' ' then some c
  else if c = 'n' then some '\n'
  else none

/-- Reads one character of a reference. -/
def ValueState.refer (lookup : Lookup) (s : ValueState) (kind : Reference) (name : List Char)
    (c : Char) : ValueState :=
  if Text.isAlphanumeric c then { s with reference := some (kind, name ++ [c]) }
  else match kind with
    | .bare =>
      if c = '\x7b' && name.isEmpty then { s with reference := some (.braced, []) }
      else
        let s := { s with output := s.output ++ lookup name }
        if c = '$' then { s with reference := some (.bare, []) }
        else { s with output := s.output ++ [c], reference := none }
    | .braced =>
      if c = '\x7d' then { s with output := s.output ++ lookup name, reference := none }
      else { s with reference := some (.braced, name ++ [c]) }

/-- Reads one character of a value. -/
def ValueState.next (lookup : Lookup) (s : ValueState) (c : Char) : Option ValueState :=
  if s.escaped then
    (unescape c).map fun x => { s with output := s.output ++ [x], escaped := false }
  else if s.strong then
    some (if c = '\'' then { s with strong := false } else { s with output := s.output ++ [c] })
  else match s.reference with
    | some (kind, name) => some (s.refer lookup kind name c)
    | none =>
      if c = '$' then some { s with reference := some (.bare, []) }
      else if s.weak then
        some (if c = '"' then { s with weak := false }
          else if c = '\\' then { s with escaped := true }
          else { s with output := s.output ++ [c] })
      else if c = '\'' then some { s with strong := true }
      else if c = '"' then some { s with weak := true }
      else if c = '\\' then some { s with escaped := true }
      else if c = ' ' || c = '\t' then some { s with ending := true }
      else some { s with output := s.output ++ [c] }

/-- The value that has been read, if it may end here. -/
def ValueState.finish (lookup : Lookup) (s : ValueState) : Option (List Char) :=
  match s.reference with
  | some (.braced, _) => none
  | r =>
    if s.strong || s.weak then none
    else
      let name := match r with
        | some (_, name) => name
        | none => []
      some (s.output ++ lookup name)

/-- Reads a value. -/
def readValue (lookup : Lookup) : List Char → ValueState → Option (List Char)
  | [], s => s.finish lookup
  | c :: cs, s =>
    if s.ending then
      if c = ' ' || c = '\t' then readValue lookup cs s
      else if c = '#' then s.finish lookup
      else none
    else match s.next lookup c with
      | some s => readValue lookup cs s
      | none => none

/-! ## Assignments -/

def isKeyStart (c : Char) : Bool := c.isAlpha || c == '_'

def isKeyChar (c : Char) : Bool := c.isAlphanum || c == '_' || c == '.'

def readKey (cs : List Char) : Option (List Char × List Char) :=
  if cs.head?.any isKeyStart then some (cs.takeWhile isKeyChar, cs.dropWhile isKeyChar) else none

/-- The key of an assignment, and the text after its equals sign. The word `export` may
stand first. -/
def readTarget (cs : List Char) : Option (List Char × List Char) := do
  let (key, rest) ← readKey cs
  match Text.trimStart rest with
  | '=' :: rest => return (key, rest)
  | rest =>
    if key = "export".toList then
      let (key, rest) ← readKey rest
      match Text.trimStart rest with
      | '=' :: rest => return (key, rest)
      | _ => none
    else none

/-- The assignment of a line, if it has one. -/
def readLine (lookup : Lookup) (line : List Char) :
    Except Unit (Option (List Char × List Char)) :=
  let isNothing (cs : List Char) : Bool := cs.isEmpty || cs.head? = some '#'
  let line := Text.trimStart (Text.trimEnd line)
  if isNothing line then .ok none
  else match readTarget line with
    | none => .error ()
    | some (key, rest) =>
      let rest := Text.trimStart rest
      if isNothing rest then .ok (some (key, []))
      else match readValue lookup rest {} with
        | some value => .ok (some (key, value))
        | none => .error ()

end CatalogCrawl.DotEnv
