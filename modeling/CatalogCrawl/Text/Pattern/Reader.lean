import CatalogCrawl.Text.Pattern

/-! # Reading patterns

Patterns as they are written: classes in brackets with set operations, groups, flags, repetitions
and escapes. What is wrong with a pattern is said with the part of it that is wrong. -/

namespace CatalogCrawl.Text.Pattern

/-- What can be wrong with a pattern. -/
inductive Mistake where
  | classEscape
  | classRangeOrder
  | classRangeEnd
  | classUnclosed
  | decimalInvalid
  | hexEmpty
  | hexInvalid
  | hexDigit
  | escapeCut
  | escapeUnknown
  | flagDanglingNegation
  | flagDuplicate
  | flagNegatedTwice
  | flagCut
  | flagUnknown
  | nameDuplicate
  | nameEmpty
  | nameInvalid
  | nameUnclosed
  | groupUnclosed
  | groupUnopened
  | countOrder
  | countEmpty
  | countUnclosed
  | nothingToRepeat
  | boundaryUnclosed
  | boundaryUnknown
  | boundaryCut
  | propertyInvalid
  | backReference
  | lookAround
  | propertyUnknown
  | notText
  deriving DecidableEq, Repr

def Mistake.message : Mistake → String
  | .classEscape => "invalid escape sequence found in character class"
  | .classRangeOrder => "invalid character class range, the start must be <= the end"
  | .classRangeEnd => "invalid range boundary, must be a literal"
  | .classUnclosed => "unclosed character class"
  | .decimalInvalid => "decimal literal invalid"
  | .hexEmpty => "hexadecimal literal empty"
  | .hexInvalid => "hexadecimal literal is not a Unicode scalar value"
  | .hexDigit => "invalid hexadecimal digit"
  | .escapeCut => "incomplete escape sequence, reached end of pattern prematurely"
  | .escapeUnknown => "unrecognized escape sequence"
  | .flagDanglingNegation => "dangling flag negation operator"
  | .flagDuplicate => "duplicate flag"
  | .flagNegatedTwice => "flag negation operator repeated"
  | .flagCut => "expected flag but got end of regex"
  | .flagUnknown => "unrecognized flag"
  | .nameDuplicate => "duplicate capture group name"
  | .nameEmpty => "empty capture group name"
  | .nameInvalid => "invalid capture group character"
  | .nameUnclosed => "unclosed capture group name"
  | .groupUnclosed => "unclosed group"
  | .groupUnopened => "unopened group"
  | .countOrder => "invalid repetition count range, the start must be <= the end"
  | .countEmpty => "repetition quantifier expects a valid decimal"
  | .countUnclosed => "unclosed counted repetition"
  | .nothingToRepeat => "repetition operator missing expression"
  | .boundaryUnclosed =>
    "special word boundary assertion is either unclosed or contains an invalid character"
  | .boundaryUnknown =>
    "unrecognized special word boundary assertion, valid choices are: start, end, start-half or end-half"
  | .boundaryCut =>
    "found either the beginning of a special word boundary or a bounded repetition on a \\b with an opening brace, but no closing brace"
  | .propertyInvalid => "invalid Unicode character class"
  | .backReference => "backreferences are not supported"
  | .lookAround => "look-around, including look-ahead and look-behind, is not supported"
  | .propertyUnknown => "Unicode property not found"
  | .notText => "pattern can match invalid UTF-8"

/-- A part of a pattern, by the number of characters before its start and before its end. -/
structure Extent where
  start : Nat
  stop : Nat
  deriving DecidableEq, Repr

/-- A mistake with the part that is wrong, and one earlier in the pattern that it clashes with. -/
structure Problem where
  mistake : Mistake
  extent : Extent
  earlier : Option Extent := none
  deriving DecidableEq, Repr

/-- Marks under a part of a line, given how many columns the line of marks has so far. -/
def underline (column : Nat) (e : Extent) : List Char :=
  List.replicate (e.start - column) ' ' ++ List.replicate (max 1 (e.stop - e.start)) '^'

/-- The text about a problem: the pattern, marks under what is wrong with it, and the mistake. -/
def Problem.message (pattern : String) (p : Problem) : String :=
  let marks := match p.earlier with
    | none => underline 0 p.extent
    | some e =>
      let first := underline 0 e
      first ++ underline first.length p.extent
  let line := String.ofList marks
  s!"regex parse error:\n    {pattern}\n    {line}\nerror: {p.mistake.message}"

/-! ## The text -/

/-- What is left of a pattern, and how many characters are before it. -/
structure Cursor where
  rest : List Char
  column : Nat := 0

namespace Cursor

def peek? (c : Cursor) : Option Char := c.rest.head?

def next (c : Cursor) : Cursor :=
  match c.rest with
  | [] => c
  | _ :: rest => ⟨rest, c.column + 1⟩

def drop (c : Cursor) (n : Nat) : Cursor := ⟨c.rest.drop n, c.column + min n c.rest.length⟩

/-- The part from a column up to here. -/
def since (c : Cursor) (start : Nat) : Extent := ⟨start, c.column⟩

/-- The part with the next character alone. -/
def one (c : Cursor) : Extent := ⟨c.column, c.column + if c.rest.isEmpty then 0 else 1⟩

/-- The empty part here. -/
def here (c : Cursor) : Extent := ⟨c.column, c.column⟩

def startsWith (c : Cursor) (s : String) : Bool := s.toList.isPrefixOf c.rest

/-- How many characters the blanks and comments at the head have. -/
def spaceLength (comment : Bool) : List Char → Nat
  | [] => 0
  | c :: cs =>
    if comment then 1 + spaceLength (c ≠ '\n') cs
    else if isBlank c then 1 + spaceLength false cs
    else if c = '#' then 1 + spaceLength true cs
    else 0

/-- Passes over blanks and comments, where they do not count. -/
def skip (free : Bool) (c : Cursor) : Cursor :=
  if free then c.drop (spaceLength false c.rest) else c

end Cursor

/-! ## Flags -/

structure Flags where
  anyCase : Bool := false
  multiLine : Bool := false
  dotAll : Bool := false
  /-- Whether blanks and comments do not count. -/
  free : Bool := false
  unicode : Bool := true
  deriving DecidableEq, Repr

def Flags.set (f : Flags) (flag : Char) (on : Bool) : Flags :=
  if flag = 'i' then { f with anyCase := on }
  else if flag = 'm' then { f with multiLine := on }
  else if flag = 's' then { f with dotAll := on }
  else if flag = 'x' then { f with free := on }
  else if flag = 'u' then { f with unicode := on }
  else f

/-- Reads flags up to a colon or a closing parenthesis, onto those in force. `seen` are the flags
read so far and where they are; a minus is among them. -/
def readFlags (f : Flags) (seen : List (Char × Extent)) (c : Cursor) : Nat →
    Except Problem (Flags × Bool × Cursor)
  | 0 => .error ⟨.flagCut, c.here, none⟩
  | fuel + 1 =>
    match c.peek? with
    | none => .error ⟨.flagCut, c.here, none⟩
    | some x =>
      if x = ':' || x = ')' then
        match seen.head? with
        | some ('-', e) => .error ⟨.flagDanglingNegation, e, none⟩
        | _ => .ok (f, !seen.isEmpty, c)
      else if x = '-' || "imsxuUR".toList.contains x then
        match seen.find? (·.1 = x) with
        | some (_, e) =>
          .error ⟨if x = '-' then .flagNegatedTwice else .flagDuplicate, c.one, some e⟩
        | none =>
          let on := !seen.any (·.1 = '-')
          readFlags (f.set x on) ((x, c.one) :: seen) c.next fuel
      else .error ⟨.flagUnknown, c.one, none⟩

/-! ## Escapes -/

/-- One element of a pattern or of a class. -/
inductive Atom where
  | char (c : Char)
  | among (s : CharClass)
  | look (l : Look)
  deriving DecidableEq, Repr

def hexDigit? (c : Char) : Option Nat :=
  if c.isDigit then some (c.toNat - 48)
  else if 'a' ≤ c && c ≤ 'f' then some (c.toNat - 87)
  else if 'A' ≤ c && c ≤ 'F' then some (c.toNat - 55)
  else none

/-- The character with a code, of which `extent` is the part of the pattern. -/
def codeChar (digits : List Nat) (extent : Extent) : Except Problem Char :=
  let n := digits.foldl (fun n d => n * 16 + d) 0
  if n.isValidChar then .ok (Char.ofNat n) else .error ⟨.hexInvalid, extent, none⟩

/-- Reads `n` hexadecimal digits. -/
def readDigits (free : Bool) : Nat → Cursor → Except Problem (List Nat × Cursor)
  | 0, c => .ok ([], c)
  | n + 1, c =>
    match c.peek? with
    | none => .error ⟨.escapeCut, c.here, none⟩
    | some x =>
      match hexDigit? x with
      | none => .error ⟨.hexDigit, c.one, none⟩
      | some d => do
        let (ds, c) ← readDigits free n (c.next.skip free)
        return (d :: ds, c)

/-- Reads hexadecimal digits up to a closing brace. -/
def readBracedDigits (free : Bool) (brace : Nat) : Nat → Cursor → Except Problem (List Nat × Cursor)
  | 0, c => .error ⟨.escapeCut, c.since brace, none⟩
  | fuel + 1, c =>
    match c.peek? with
    | none => .error ⟨.escapeCut, c.since brace, none⟩
    | some '\x7d' => .ok ([], c)
    | some x =>
      match hexDigit? x with
      | none => .error ⟨.hexDigit, c.one, none⟩
      | some d => do
        let (ds, c) ← readBracedDigits free brace fuel (c.next.skip free)
        return (d :: ds, c)

/-- A character by its code, from the letter of the escape on. -/
def readCode (free : Bool) (letter : Char) (c : Cursor) : Except Problem (Char × Cursor) :=
  let c := c.next.skip free
  match c.peek? with
  | none => .error ⟨.escapeCut, c.here, none⟩
  | some '\x7b' => do
    let brace := c.column
    let inner := c.next.skip free
    let (ds, c) ← readBracedDigits free brace (inner.rest.length + 1) inner
    let extent : Extent := ⟨brace + 1, c.column⟩
    let c := c.next.skip free
    if ds.isEmpty then .error ⟨.hexEmpty, c.since brace, none⟩
    else return (← codeChar ds extent, c)
  | some _ => do
    let start := c.column
    let n := if letter = 'x' then 2 else if letter = 'u' then 4 else 8
    let (ds, c) ← readDigits free n c
    return (← codeChar ds (c.since start), c)

/-- The classes that have a letter. -/
def perlClass (unicode : Bool) (letter : Char) : CharClass :=
  let base := letter.toLower
  let s := if base = 'd' then CharClass.decimal else if base = 's' then .blank else .word
  let s := if unicode then s else .inter s (.range '\x00' '\x7f')
  if letter.isUpper then .compl s else s

def asciiLetters : CharClass := .union (.range 'a' 'z') (.range 'A' 'Z')

def punctuation : CharClass :=
  .union (.union (.range '!' '/') (.range ':' '@')) (.union (.range '[' '\x60') (.range '\x7b' '~'))

/-- The classes that have a name between brackets and colons. -/
def namedClass? (name : String) : Option CharClass :=
  if name = "alnum" then some (.union asciiLetters (.range '0' '9'))
  else if name = "alpha" then some asciiLetters
  else if name = "ascii" then some (.range '\x00' '\x7f')
  else if name = "blank" then some (.ofList ['\t', ' '])
  else if name = "cntrl" then some (.union (.range '\x00' '\x1f') (.single '\x7f'))
  else if name = "digit" then some (.range '0' '9')
  else if name = "graph" then some (.range '!' '~')
  else if name = "lower" then some (.range 'a' 'z')
  else if name = "print" then some (.range ' ' '~')
  else if name = "punct" then some punctuation
  else if name = "space" then some (.union (.range '\t' '\r') (.single ' '))
  else if name = "upper" then some (.range 'A' 'Z')
  else if name = "word" then some (.union (.union asciiLetters (.range '0' '9')) (.single '_'))
  else if name = "xdigit" then
    some (.union (.range '0' '9') (.union (.range 'a' 'f') (.range 'A' 'F')))
  else none

/-- The classes that a property stands for. Case, punctuation and symbols are known in
ASCII only. -/
def propertyClass? (name : String) : Option CharClass :=
  let name := String.ofList
    ((name.toList.filter fun c => !isBlank c && c ≠ '_' && c ≠ '-').map Char.toLower)
  let isOneOf (names : List String) : Bool := names.contains name
  if isOneOf ["any"] then some (.compl .none)
  else if isOneOf ["ascii"] then some (.range '\x00' '\x7f')
  else if isOneOf ["l", "letter", "alphabetic", "alpha"] then some .letter
  else if isOneOf ["lu", "uppercaseletter", "uppercase", "upper"] then some (.range 'A' 'Z')
  else if isOneOf ["ll", "lowercaseletter", "lowercase", "lower"] then some (.range 'a' 'z')
  else if isOneOf ["n", "number", "nd", "decimalnumber", "digit"] then some .decimal
  else if isOneOf ["whitespace", "space", "wspace"] then some .blank
  else if isOneOf ["z", "separator", "zs", "spaceseparator"] then
    some (.diff .blank (.union (.range '\t' '\r') (.single '\x85')))
  else if isOneOf ["cc", "control", "cntrl", "c", "other"] then
    some (.union (.range '\x00' '\x1f') (.range '\x7f' '\u009f'))
  else if isOneOf ["p", "punctuation", "punct"] then
    some (.diff punctuation (.ofList "$+<=>^\x60|~".toList))
  else if isOneOf ["s", "symbol"] then some (.ofList "$+<=>^\x60|~".toList)
  else none

/-- A class by its property, from the letter of the escape on. `start` is where the
escape starts. -/
def readProperty (free : Bool) (start : Nat) (negated : Bool) (c : Cursor) :
    Except Problem (CharClass × Cursor) :=
  let c := c.next.skip free
  let finish (name : String) (c : Cursor) : Except Problem (CharClass × Cursor) :=
    match propertyClass? name with
    | some s => .ok (if negated then .compl s else s, c)
    | none => .error ⟨.propertyUnknown, c.since start, none⟩
  match c.peek? with
  | none => .error ⟨.escapeCut, c.here, none⟩
  | some '\x7b' =>
    let name := c.next.rest.takeWhile (· ≠ '\x7d')
    let c := c.drop (1 + name.length)
    if c.rest.isEmpty then .error ⟨.escapeCut, c.here, none⟩ else finish (String.ofList name) c.next
  | some '\\' => .error ⟨.propertyInvalid, c.one, none⟩
  | some x => finish (String.ofList [x]) (c.next.skip free)

/-- What follows `\b`: a name between braces makes another assertion of it. -/
def readBoundary (f : Flags) (start : Nat) (c : Cursor) : Except Problem (Look × Cursor) :=
  let plain : Look := .boundary (!f.unicode)
  let isNameChar (x : Char) : Bool := x.isAlpha || x = '-'
  if c.peek? ≠ some '\x7b' then .ok (plain, c)
  else
    let inner := c.next.skip f.free
    match inner.peek? with
    | none => .error ⟨.boundaryCut, inner.since start, none⟩
    | some x =>
      if !isNameChar x then .ok (plain, c)
      else
        let name := inner.rest.takeWhile isNameChar
        let after := inner.drop name.length
        if after.peek? ≠ some '\x7d' then .error ⟨.boundaryUnclosed, after.since c.column, none⟩
        else match String.ofList name with
          | "start" => .ok (.wordStart (!f.unicode), after.next)
          | "end" => .ok (.wordStop (!f.unicode), after.next)
          | "start-half" => .ok (.halfStart (!f.unicode), after.next)
          | "end-half" => .ok (.halfStop (!f.unicode), after.next)
          | _ => .error ⟨.boundaryUnknown, after.since inner.column, none⟩

/-- The characters of escapes with one letter. -/
def letterEscape? (x : Char) : Option Char :=
  if x = 'a' then some '\x07'
  else if x = 'f' then some '\x0c'
  else if x = 't' then some '\t'
  else if x = 'n' then some '\n'
  else if x = 'r' then some '\r'
  else if x = 'v' then some '\x0b'
  else none

/-- An escape, from its backslash on. -/
def readEscape (f : Flags) (c : Cursor) : Except Problem (Atom × Cursor) :=
  let start := c.column
  let c := c.next
  match c.peek? with
  | none => .error ⟨.escapeCut, c.since start, none⟩
  | some x =>
    if x.isDigit then .error ⟨.backReference, ⟨start, c.column + 1⟩, none⟩
    else if x = 'x' || x = 'u' || x = 'U' then do
      let (code, c) ← readCode f.free x c
      return (.char code, c)
    else if x = 'p' || x = 'P' then do
      let (s, c) ← readProperty f.free start (x = 'P') c
      return (.among s, c)
    else if "dswDSW".toList.contains x then .ok (.among (perlClass f.unicode x), c.next)
    else if x = 'A' then .ok (.look .start, c.next)
    else if x = 'z' then .ok (.look .stop, c.next)
    else if x = 'b' then do
      let (l, c) ← readBoundary f start c.next
      return (.look l, c)
    else if x = 'B' then .ok (.look (.noBoundary (!f.unicode)), c.next)
    else if x = '<' then .ok (.look (.wordStart (!f.unicode)), c.next)
    else if x = '>' then .ok (.look (.wordStop (!f.unicode)), c.next)
    else match letterEscape? x with
      | some y => .ok (.char y, c.next)
      | none =>
        if x.isAlpha || 0x80 ≤ x.toNat then .error ⟨.escapeUnknown, c.next.since start, none⟩
        else .ok (.char x, c.next)

/-! ## Classes -/

/-- An element of a class, with its part of the pattern. -/
def readElement (f : Flags) (c : Cursor) : Except Problem (Atom × Extent × Cursor) :=
  match c.peek? with
  | some '\\' => do
    let (a, c') ← readEscape f c
    return (a, ⟨c.column, c'.column⟩, c')
  | some x => .ok (.char x, c.one, c.next)
  | none => .error ⟨.classUnclosed, c.here, none⟩

def Atom.member (extent : Extent) : Atom → Except Problem CharClass
  | .char c => .ok (.single c)
  | .among s => .ok s
  | .look _ => .error ⟨.classEscape, extent, none⟩

def Atom.bound (extent : Extent) : Atom → Except Problem Char
  | .char c => .ok c
  | _ => .error ⟨.classRangeEnd, extent, none⟩

/-- An element or a range of a class. `opening` is the part of the pattern that opens the class. -/
def readMember (f : Flags) (opening : Extent) (c : Cursor) :
    Except Problem (CharClass × Cursor) := do
  let (first, extent, c) ← readElement f c
  let c := c.skip f.free
  if c.rest.isEmpty then .error ⟨.classUnclosed, opening, none⟩
  else
    let after := (c.next.skip f.free).peek?
    if c.peek? ≠ some '-' || after = some ']' || after = some '-' then
      return (← first.member extent, c)
    else
      let c := c.next.skip f.free
      if c.rest.isEmpty then .error ⟨.classUnclosed, opening, none⟩
      else
        let (last, extent', c) ← readElement f c
        let a ← first.bound extent
        let b ← last.bound extent'
        if b < a then .error ⟨.classRangeOrder, ⟨extent.start, extent'.stop⟩, none⟩
        else return (.range a b, c)

/-- A class with a name, if there is one at the head. -/
def readNamed? (c : Cursor) : Option (CharClass × Cursor) :=
  if c.startsWith "[:" then
    let inner := c.drop 2
    let negated := inner.peek? = some '^'
    let inner := if negated then inner.next else inner
    let name := inner.rest.takeWhile (· ≠ ':')
    let after := inner.drop name.length
    if after.startsWith ":]" then
      (namedClass? (String.ofList name)).map fun s =>
        (if negated then .compl s else s, after.drop 2)
    else none
  else none

inductive ClassOp where
  | inter
  | diff
  | symmDiff
  deriving DecidableEq, Repr

def ClassOp.apply (s t : CharClass) : ClassOp → CharClass
  | .inter => .inter s t
  | .diff => .diff s t
  | .symmDiff => .union (.diff s t) (.diff t s)

def classOp? (c : Cursor) : Option ClassOp :=
  if c.startsWith "&&" then some .inter
  else if c.startsWith "--" then some .diff
  else if c.startsWith "~~" then some .symmDiff
  else none

/-- What a class has so far: the elements of the present operand, and the operand before it. -/
structure ClassState where
  members : CharClass := .none
  pending : Option (CharClass × ClassOp) := none

def ClassState.add (s : ClassState) (t : CharClass) : ClassState :=
  { s with members := .union s.members t }

/-- The value of what has been read. -/
def ClassState.value (f : Flags) (s : ClassState) : CharClass :=
  let members := if f.anyCase then .anyCase s.members else s.members
  match s.pending with
  | some (t, op) => op.apply t members
  | none => members

/-- The minus signs at the start of a class, which stand for themselves. -/
def readMinus (f : Flags) (start : Nat) : Nat → ClassState → Cursor →
    Except Problem (ClassState × Cursor)
  | 0, s, c => .ok (s, c)
  | fuel + 1, s, c =>
    if c.peek? = some '-' then
      let c := c.next.skip f.free
      if c.rest.isEmpty then .error ⟨.classUnclosed, ⟨start, start⟩, none⟩
      else readMinus f start fuel (s.add (.single '-')) c
    else .ok (s, c)

/-- Opens a class: whether it is negated, and what it has from the start. -/
def openClass (f : Flags) (c : Cursor) : Except Problem (Bool × ClassState × Cursor) := do
  let start := c.column
  let unclosed (c : Cursor) : Except Problem (Bool × ClassState × Cursor) :=
    .error ⟨.classUnclosed, c.since start, none⟩
  let c := c.next.skip f.free
  if c.rest.isEmpty then unclosed c
  else
    let negated := c.peek? = some '^'
    let c := if negated then c.next.skip f.free else c
    if c.rest.isEmpty then unclosed c
    else
      let (s, after) ← readMinus f start (c.rest.length + 1) {} c
      if after.column = c.column && c.peek? = some ']' then
        let c := c.next.skip f.free
        if c.rest.isEmpty then unclosed c else return (negated, s.add (.single ']'), c)
      else return (negated, s, after)

mutual

/-- A class, from its opening bracket on. -/
def readClass (f : Flags) : Nat → Cursor → Except Problem (CharClass × Cursor)
  | 0, c => .error ⟨.classUnclosed, c.here, none⟩
  | fuel + 1, c => do
    let (negated, s, inner) ← openClass f c
    let (s, c) ← readMembers f (inner.since c.column) fuel s inner
    return (if negated then .compl s else s, c)

/-- The rest of a class, behind its closing bracket. -/
def readMembers (f : Flags) (opening : Extent) : Nat → ClassState → Cursor →
    Except Problem (CharClass × Cursor)
  | 0, _, _ => .error ⟨.classUnclosed, opening, none⟩
  | fuel + 1, s, c =>
    let c := c.skip f.free
    match c.peek? with
    | none => .error ⟨.classUnclosed, opening, none⟩
    | some ']' => .ok (s.value f, c.next)
    | some '[' =>
      match readNamed? c with
      | some (t, c) => readMembers f opening fuel (s.add t) c
      | none => do
        let (t, c) ← readClass f fuel c
        readMembers f opening fuel (s.add t) c
    | some _ =>
      match classOp? c with
      | some op => readMembers f opening fuel { pending := some (s.value f, op) } (c.drop 2)
      | none => do
        let (t, c) ← readMember f opening c
        readMembers f opening fuel (s.add t) c

end

/-! ## Repetitions -/

/-- The largest number a count can be. -/
def maxCount : Nat := 4294967295

/-- A count: `none` if there are no digits, with the part of the pattern that it is. -/
def readCount (free : Bool) (c : Cursor) : Option Nat × Extent × Cursor :=
  let c := c.drop (c.rest.takeWhile isBlank).length
  let digits := c.rest.takeWhile Char.isDigit
  let after := (c.drop digits.length).skip free
  let value := digits.foldl (fun n d => n * 10 + (d.toNat - 48)) 0
  (if digits.isEmpty then none else some value, after.since c.column,
    after.drop (after.rest.takeWhile isBlank).length)

/-- A count that must be there and be small enough. -/
def checkCount (n : Option Nat) (extent : Extent) : Except Problem Nat :=
  match n with
  | none => .error ⟨.countEmpty, extent, none⟩
  | some n => if maxCount < n then .error ⟨.decimalInvalid, extent, none⟩ else .ok n

/-- Passes over the question mark of a repetition that takes as little as it can. -/
def skipLazy (c : Cursor) : Cursor := if c.peek? = some '?' then c.next else c

/-- A counted repetition, from its opening brace on. -/
def readCounted (free : Bool) (p : Pattern) (c : Cursor) : Except Problem (Pattern × Cursor) := do
  let start := c.column
  let unclosed (c : Cursor) : Except Problem (Pattern × Cursor) :=
    .error ⟨.countUnclosed, c.since start, none⟩
  let c := c.next.skip free
  if c.rest.isEmpty then unclosed c
  else
    let (low, lowExtent, c) := readCount free c
    let finish (low : Nat) (high : Option Nat) (c : Cursor) : Except Problem (Pattern × Cursor) :=
      if c.peek? ≠ some '\x7d' then unclosed c
      else
        let c := skipLazy (c.next.skip free)
        if high.any (· < low) then .error ⟨.countOrder, c.since start, none⟩
        else .ok (.repeated p low high, c)
    if c.rest.isEmpty then unclosed c
    else if c.peek? = some ',' then
      let c := c.next.skip free
      if c.rest.isEmpty then unclosed c
      else if c.peek? = some '\x7d' then finish (← checkCount low lowExtent) none c
      else
        let low ← checkCount low lowExtent
        let (high, highExtent, c) := readCount free c
        finish low (some (← checkCount high highExtent)) c
    else
      let n ← checkCount low lowExtent
      finish n (some n) c

/-! ## Groups -/

def isNameChar (first : Bool) (x : Char) : Bool :=
  x = '_' || (isAlphanumeric x && !(first && isDecimal x)) ||
    (!first && (x = '.' || x = '[' || x = ']'))

/-- The name of a group up to its closing bracket, from the first character of the name on. -/
def readName (names : List (String × Extent)) (c : Cursor) :
    Except Problem (List (String × Extent) × Cursor) :=
  if c.rest.isEmpty then .error ⟨.nameUnclosed, c.here, none⟩
  else
    let length :=
      if c.rest.head?.any (isNameChar true) then (c.rest.takeWhile (isNameChar false)).length else 0
    let after := c.drop length
    match after.peek? with
    | none => .error ⟨.nameUnclosed, after.here, none⟩
    | some '>' =>
      let name := String.ofList (c.rest.take length)
      let extent := after.since c.column
      if name.isEmpty then .error ⟨.nameEmpty, c.here, none⟩
      else match names.find? (·.1 = name) with
        | some (_, earlier) => .error ⟨.nameDuplicate, extent, some earlier⟩
        | none => .ok ((name, extent) :: names, after.next)
    | some _ => .error ⟨.nameInvalid, after.one, none⟩

/-- What an opening parenthesis starts. -/
inductive Opening where
  /-- A group with its own flags. -/
  | group (flags : Flags)
  /-- Flags for the rest of the group that they are in. -/
  | setting (flags : Flags)

def readOpening (f : Flags) (names : List (String × Extent)) (c : Cursor) :
    Except Problem (Opening × List (String × Extent) × Cursor) :=
  let start := c.column
  let paren := c.one
  let c := c.next.skip f.free
  let around (n : Nat) : Except Problem (Opening × List (String × Extent) × Cursor) :=
    .error ⟨.lookAround, (c.drop n).since start, none⟩
  if c.startsWith "?=" || c.startsWith "?!" then around 2
  else if c.startsWith "?<=" || c.startsWith "?<!" then around 3
  else if c.startsWith "?P<" || c.startsWith "?<" then do
    let (names, c) ← readName names (c.drop (if c.startsWith "?P<" then 3 else 2))
    return (.group f, names, c)
  else if c.startsWith "?" then
    let inner := c.next
    if inner.rest.isEmpty then .error ⟨.groupUnclosed, paren, none⟩
    else do
      let (flags, any, after) ← readFlags f [] inner (inner.rest.length + 1)
      if after.peek? = some ')' then
        if any then return (.setting flags, names, after.next)
        else .error ⟨.nothingToRepeat, c.here, none⟩
      else return (.group flags, names, after.next)
  else .ok (.group f, names, c)

/-! ## Patterns -/

/-- The elements of a branch, the last first. Settings of flags are `none`. -/
abbrev Branch := List (Option Pattern)

def Branch.pattern (b : Branch) : Pattern :=
  b.foldl (fun p q => match q with
    | some q => .seq q p
    | none => p) .empty

/-- An atom as a pattern. -/
def Atom.pattern (f : Flags) : Atom → Pattern
  | .char c => .char (if f.anyCase then .anyCase (.single c) else .single c)
  | .among s => .char (if f.anyCase then .anyCase s else s)
  | .look l => .look l

/-- An element that is no group and no repetition. -/
def readAtom (f : Flags) (x : Char) (c : Cursor) : Except Problem (Pattern × Cursor) :=
  if x = '\\' then do
    let (a, c) ← readEscape f c
    return (a.pattern f, c)
  else if x = '.' then
    if !f.unicode then .error ⟨.notText, c.one, none⟩
    else .ok (.char (if f.dotAll then .compl .none else .compl (.single '\n')), c.next)
  else if x = '^' then .ok (.look (if f.multiLine then .lineStart else .start), c.next)
  else if x = '$' then .ok (.look (if f.multiLine then .lineStop else .stop), c.next)
  else .ok ((Atom.char x).pattern f, c.next)

/-- Reads the branches of a group, up to its closing parenthesis or to the end of the pattern.
`group` is the parenthesis that opened it, `done` the branches before the present one. -/
def readBranches : Nat → Option Extent → Flags → List (String × Extent) → Option Pattern → Branch →
    Cursor → Except Problem (Pattern × List (String × Extent) × Cursor)
  | 0, _, _, _, _, _, c => .error ⟨.groupUnclosed, c.here, none⟩
  | fuel + 1, group, f, names, done, branch, c =>
    let c := c.skip f.free
    let close : Pattern := match done with
      | some p => .alt p branch.pattern
      | none => branch.pattern
    let again (branch : Branch) (c : Cursor) :
        Except Problem (Pattern × List (String × Extent) × Cursor) :=
      readBranches fuel group f names done branch c
    match c.peek? with
    | none =>
      match group with
      | some paren => .error ⟨.groupUnclosed, paren, none⟩
      | none => .ok (close, names, c)
    | some ')' =>
      match group with
      | some _ => .ok (close, names, c.next)
      | none => .error ⟨.groupUnopened, c.one, none⟩
    | some '|' => readBranches fuel group f names (some close) [] c.next
    | some '(' => do
      let paren := c.one
      match ← readOpening f names c with
      | (.setting flags, names, c) => readBranches fuel group flags names done (none :: branch) c
      | (.group flags, names, c) =>
        let (p, names, c) ← readBranches fuel (some paren) flags names none [] c
        readBranches fuel group f names done (some p :: branch) c
    | some '[' => do
      let (s, c) ← readClass f (c.rest.length + 1) c
      again (some (.char s) :: branch) c
    | some x =>
      if x = '?' || x = '*' || x = '+' || x = '\x7b' then
        match branch with
        | some p :: rest =>
          if x = '\x7b' then do
            let (p, c) ← readCounted f.free p c
            again (some p :: rest) c
          else
            let low := if x = '+' then 1 else 0
            let high := if x = '?' then some 1 else none
            again (some (.repeated p low high) :: rest) (skipLazy c.next)
        | _ => .error ⟨.nothingToRepeat, c.here, none⟩
      else do
        let (p, c) ← readAtom f x c
        again (some p :: branch) c

/-- Reads a pattern. -/
def read (s : String) : Except Problem Pattern := do
  let cs := s.toList
  let (p, _, _) ← readBranches (cs.length + 1) none {} [] none [] ⟨cs, 0⟩
  return p

end CatalogCrawl.Text.Pattern
