import CatalogCrawl.Json.Basic

/-! # Reading JSON text

The grammar of RFC 8259 with three bounds: arrays and objects nest at most 127 deep, a surrogate
escape comes in a pair, and a number is a whole number only if it has neither point nor exponent and
fits 64 bits. All other numbers are doubles: the first digits that fit 64 bits, as a double, times
or over a power of ten. -/

namespace CatalogCrawl.Json

def isSpace (c : Char) : Bool := c = ' ' || c = '\n' || c = '\t' || c = '\r'

def skipSpace (cs : List Char) : List Char := cs.dropWhile isSpace

/-! ## Numbers -/

def digitValue (c : Char) : Nat := c.toNat - 48

/-- The largest whole number that digits are collected into. -/
def maxSignificand : Nat := 18446744073709551615

/-- Appends digits to a significand as long as it fits 64 bits. Gives the significand, how many
digits were taken and the characters from the first that was not. -/
def takeDigits (sig count : Nat) : List Char → Nat × Nat × List Char
  | [] => (sig, count, [])
  | c :: cs =>
    if c.isDigit && sig * 10 + digitValue c ≤ maxSignificand then
      takeDigits (sig * 10 + digitValue c) (count + 1) cs
    else (sig, count, c :: cs)

/-- `10^k` as a double, for `k` up to 308. -/
def powerOfTen (k : Nat) : Magnitude := (Magnitude.ofNat (Nat.pow 10 k)).getD .zero

/-- Divides by `10^308` until the exponent is at least -308. -/
def scaleDown : Nat → Magnitude → Nat → Magnitude × Nat
  | 0, m, k => (m, k)
  | fuel + 1, m, k =>
    if 308 < k && !m.isZero then scaleDown fuel ((m.div (powerOfTen 308)).getD .zero) (k - 308)
    else (m, k)

/-- The double for `sig * 10^exponent`: the significand is rounded first and the power of ten is
multiplied or divided in afterwards. `none` if it is too large. -/
def realOfParts (negative : Bool) (sig : Nat) (exponent : Int) : Option Json := do
  let m ← Magnitude.ofNat sig
  if m.isZero then return .real ⟨negative, m⟩
  else if 0 ≤ exponent then
    if 308 < exponent then none
    else return .real ⟨negative, ← m.mul (powerOfTen exponent.toNat)⟩
  else
    -- three steps bring every double to zero
    let (m, k) := scaleDown 3 m (-exponent).toNat
    if m.isZero then return .real ⟨negative, m⟩
    else return .real ⟨negative, ← m.div (powerOfTen k)⟩

/-- The largest exponent that is kept as a number. -/
def maxExponent : Nat := 2147483647

/-- After the exponent mark: the sign and the digits. -/
def readExponent (negative : Bool) (sig : Nat) (start : Int) (cs : List Char) :
    Option (Json × List Char) :=
  let (down, cs) := match cs with
    | '+' :: r => (false, r)
    | '-' :: r => (true, r)
    | r => (false, r)
  let ds := cs.takeWhile Char.isDigit
  let rest := cs.dropWhile Char.isDigit
  if ds.isEmpty then none
  else
    let e := Nat.ofDigitChars 10 ds 0
    if maxExponent < e then
      if sig != 0 && !down then none else some (.real ⟨negative, .zero⟩, rest)
    else
      (realOfParts negative sig (if down then start - e else start + e)).map (·, rest)

/-- What follows the digits before and after the point. -/
def readRealTail (negative : Bool) (sig : Nat) (exponent : Int) :
    List Char → Option (Json × List Char)
  | c :: cs =>
    if c = 'e' || c = 'E' then readExponent negative sig exponent cs
    else (realOfParts negative sig exponent).map (·, c :: cs)
  | [] => (realOfParts negative sig exponent).map (·, [])

/-- After the point. Digits that do not fit the significand are passed over. -/
def readFraction (negative : Bool) (sig : Nat) (skipped : Nat) (cs : List Char) :
    Option (Json × List Char) :=
  let (sig', count, rest) := takeDigits sig 0 cs
  let more := rest.takeWhile Char.isDigit
  if count == 0 && more.isEmpty then none
  else readRealTail negative sig' ((skipped : Int) - (count : Int)) (rest.dropWhile Char.isDigit)

/-- The whole number `sig`. A negative one that does not fit 64 signed bits, and `-0`,
is a double. -/
def whole (negative : Bool) (sig : Nat) : Option Json :=
  if negative then
    if 0 < sig && sig ≤ 9223372036854775808 then some (.int (-(sig : Int)))
    else (Magnitude.ofNat sig).map fun m => .real ⟨true, m⟩
  else some (.int sig)

/-- After the digits before the point, of which `skipped` did not fit the significand. -/
def readAfterWhole (negative : Bool) (sig skipped : Nat) (cs : List Char) :
    Option (Json × List Char) :=
  match cs with
  | '.' :: r => readFraction negative sig skipped r
  | 'e' :: r => readExponent negative sig skipped r
  | 'E' :: r => readExponent negative sig skipped r
  | r =>
    if skipped == 0 then (whole negative sig).map (·, r)
    else (realOfParts negative sig skipped).map (·, r)

/-- A number without its sign. -/
def readUnsigned (negative : Bool) (cs : List Char) : Option (Json × List Char) :=
  match cs with
  | [] => none
  | '0' :: r =>
    match r with
    | [] => readAfterWhole negative 0 0 r
    | c :: _ => if c.isDigit then none else readAfterWhole negative 0 0 r
  | c :: r =>
    if c.isDigit then
      let (sig, _, rest) := takeDigits (digitValue c) 0 r
      let more := rest.takeWhile Char.isDigit
      readAfterWhole negative sig more.length (rest.dropWhile Char.isDigit)
    else none

def readNumber : List Char → Option (Json × List Char)
  | '-' :: cs => readUnsigned true cs
  | cs => readUnsigned false cs

/-! ## Strings -/

def hexValue (c : Char) : Option Nat :=
  if c.isDigit then some (c.toNat - 48)
  else if 'a' ≤ c && c ≤ 'f' then some (c.toNat - 87)
  else if 'A' ≤ c && c ≤ 'F' then some (c.toNat - 55)
  else none

/-- The number of four hexadecimal digits. -/
def hex4 (a b c d : Char) : Option Nat := do
  return (((← hexValue a) * 16 + (← hexValue b)) * 16 + (← hexValue c)) * 16 + (← hexValue d)

def isHighSurrogate (n : Nat) : Bool := 0xd800 ≤ n && n < 0xdc00

def isLowSurrogate (n : Nat) : Bool := 0xdc00 ≤ n && n < 0xe000

/-- The character of an escape with one letter. -/
def unescape (c : Char) : Option Char :=
  if c = '"' then some '"'
  else if c = '\\' then some '\\'
  else if c = '/' then some '/'
  else if c = 'b' then some '\x08'
  else if c = 'f' then some '\x0c'
  else if c = 'n' then some '\n'
  else if c = 'r' then some '\r'
  else if c = 't' then some '\t'
  else none

/-- The characters of a string up to its closing quote, and the text after it. -/
def readString : List Char → Option (List Char × List Char)
  | [] => none
  | '"' :: cs => some ([], cs)
  | '\\' :: 'u' :: a :: b :: c :: d :: cs => do
    let n ← hex4 a b c d
    if isHighSurrogate n then
      match cs with
      | '\\' :: 'u' :: e :: f :: g :: h :: cs =>
        let low ← hex4 e f g h
        if isLowSurrogate low then
          let (s, rest) ← readString cs
          return (Char.ofNat (0x10000 + (n - 0xd800) * 0x400 + (low - 0xdc00)) :: s, rest)
        else none
      | _ => none
    else if isLowSurrogate n then none
    else
      let (s, rest) ← readString cs
      return (Char.ofNat n :: s, rest)
  | '\\' :: c :: cs => do
    let x ← unescape c
    let (s, rest) ← readString cs
    return (x :: s, rest)
  | c :: cs =>
    if c.toNat < 0x20 || c = '\\' then none
    else do
      let (s, rest) ← readString cs
      return (c :: s, rest)

/-! ## Values -/

/-- A literal word. -/
def readWord (word : List Char) (v : Json) (cs : List Char) : Option (Json × List Char) :=
  if word.isPrefixOf cs then some (v, cs.drop word.length) else none

mutual

/-- A value with at most `depth` levels of nesting, at the head of the text. -/
def readValue : Nat → Nat → List Char → Option (Json × List Char)
  | 0, _, _ => none
  | fuel + 1, depth, cs =>
    match skipSpace cs with
    | 'n' :: r => readWord ['n', 'u', 'l', 'l'] .null ('n' :: r)
    | 't' :: r => readWord ['t', 'r', 'u', 'e'] (.bool true) ('t' :: r)
    | 'f' :: r => readWord ['f', 'a', 'l', 's', 'e'] (.bool false) ('f' :: r)
    | '"' :: r => (readString r).map fun (s, rest) => (.str (String.ofList s), rest)
    | '[' :: r =>
      match depth with
      | 0 => none
      | depth + 1 =>
        match skipSpace r with
        | ']' :: rest => some (.arr [], rest)
        | r => (readItems fuel depth r).map fun (vs, rest) => (.arr vs, rest)
    | '\x7b' :: r =>
      match depth with
      | 0 => none
      | depth + 1 =>
        match skipSpace r with
        | '\x7d' :: rest => some (.obj [], rest)
        | r => (readFields fuel depth r).map fun (fs, rest) => (mkObj fs, rest)
    | r => readNumber r

/-- Items up to the closing bracket. -/
def readItems : Nat → Nat → List Char → Option (List Json × List Char)
  | 0, _, _ => none
  | fuel + 1, depth, cs => do
    let (v, rest) ← readValue fuel depth cs
    match skipSpace rest with
    | ',' :: r =>
      let (vs, rest) ← readItems fuel depth r
      return (v :: vs, rest)
    | ']' :: r => return ([v], r)
    | _ => none

/-- Fields up to the closing brace. -/
def readFields : Nat → Nat → List Char → Option (List (String × Json) × List Char)
  | 0, _, _ => none
  | fuel + 1, depth, cs =>
    match skipSpace cs with
    | '"' :: r => do
      let (k, rest) ← readString r
      match skipSpace rest with
      | ':' :: r =>
        let (v, rest) ← readValue fuel depth r
        match skipSpace rest with
        | ',' :: r =>
          let (fs, rest) ← readFields fuel depth r
          return ((String.ofList k, v) :: fs, rest)
        | '\x7d' :: r => return ([(String.ofList k, v)], r)
        | _ => none
      | _ => none
    | _ => none

end

/-- How deep arrays and objects may nest. -/
def maxDepth : Nat := 127

/-- The value of a whole text, `none` if the text is not JSON. -/
def readChars? (cs : List Char) : Option Json := do
  let (v, rest) ← readValue (2 * cs.length + 2) maxDepth cs
  if (skipSpace rest).isEmpty then some v else none

def read? (s : String) : Option Json := readChars? s.toList

end CatalogCrawl.Json
