import CatalogCrawl.Toml.Basic

/-! # TOML numbers and times -/

namespace CatalogCrawl.Toml

/-- Digits with single underscores between them, without the underscores. -/
def digits? (isDigit : Char → Bool) (cs : List Char) : Option (List Char) :=
  let rec go : Bool → List Char → Option (List Char)
    -- whether the last character was a digit
    | last, [] => if last then some [] else none
    | last, c :: cs =>
      if isDigit c then (go true cs).map (c :: ·)
      else if c = '_' && last then go false cs
      else none
  go false cs

def splitSign : List Char → Bool × List Char
  | '-' :: cs => (true, cs)
  | '+' :: cs => (false, cs)
  | cs => (false, cs)

/-- The value of a digit up to `f`. -/
def digitValue (c : Char) : Nat :=
  if c.isDigit then c.toNat - 48 else if 'a' ≤ c then c.toNat - 87 else c.toNat - 55

def valueOf (base : Nat) (ds : List Char) : Nat := ds.foldl (fun n d => n * base + digitValue d) 0

/-- Decimal digits without a leading zero, except for zero itself. -/
def wholePart? (cs : List Char) : Option (List Char) :=
  match digits? Char.isDigit cs with
  | some ('0' :: _ :: _) => none
  | r => r

def isHex (c : Char) : Bool := c.isDigit || ('a' ≤ c && c ≤ 'f') || ('A' ≤ c && c ≤ 'F')
def isOctal (c : Char) : Bool := '0' ≤ c && c ≤ '7'
def isBinary (c : Char) : Bool := c == '0' || c == '1'

def int? : List Char → Option Int
  | '0' :: 'x' :: cs => (digits? isHex cs).map fun ds => (valueOf 16 ds : Int)
  | '0' :: 'o' :: cs => (digits? isOctal cs).map fun ds => (valueOf 8 ds : Int)
  | '0' :: 'b' :: cs => (digits? isBinary cs).map fun ds => (valueOf 2 ds : Int)
  | cs =>
    let (negative, cs) := splitSign cs
    (wholePart? cs).map fun ds => if negative then -(valueOf 10 ds : Int) else valueOf 10 ds

/-- Beyond this exponent every number but zero is too large or rounds to zero. -/
def exponentBound : Int := 400

/-- The double nearest to `n * 10^e`. -/
def scaled (negative : Bool) (n : Nat) (e : Int) : Real :=
  let size := e + (Nat.toDigits 10 n).length
  if n = 0 || size < -exponentBound then .finite ⟨negative, .zero⟩
  else if exponentBound < size then .beyond
  else
    let m := if 0 ≤ e then Magnitude.ofNat (n * Nat.pow 10 e.toNat)
      else Magnitude.ofRatio n (Nat.pow 10 (-e).toNat)
    match m with
    | some m => .finite ⟨negative, m⟩
    | none => .beyond

/-- The exponent of a number, from behind its `e`. -/
def exponent? (cs : List Char) : Option Int :=
  let (negative, cs) := splitSign cs
  (digits? Char.isDigit cs).map fun ds => if negative then -(valueOf 10 ds : Int) else valueOf 10 ds

/-- A number with a fraction, an exponent or both, or one that is not finite. -/
def real? (cs : List Char) : Option Real :=
  let (negative, cs) := splitSign cs
  if cs = "inf".toList then some (.infinite negative)
  else if cs = "nan".toList then some .nan
  else
    let isE (c : Char) : Bool := c == 'e' || c == 'E'
    let head := cs.takeWhile (!isE ·)
    let tail := cs.drop head.length
    let whole := head.takeWhile (· ≠ '.')
    let fraction := head.drop whole.length
    if tail.isEmpty && fraction.isEmpty then none
    else do
      let ws ← wholePart? whole
      let fs ← match fraction with
        | _ :: f => digits? Char.isDigit f
        | [] => some []
      let e ← match tail with
        | _ :: t => exponent? t
        | [] => some 0
      return scaled negative (valueOf 10 (ws ++ fs)) (e - fs.length)

/-! ## Dates and times -/

/-- The number of two digits. -/
def twoDigits (a b : Char) : Option Nat :=
  if a.isDigit && b.isDigit then some (digitValue a * 10 + digitValue b) else none

def isLeap (year : Nat) : Bool := year % 4 = 0 && (year % 100 ≠ 0 || year % 400 = 0)

def daysIn (year month : Nat) : Nat :=
  if month = 2 then if isLeap year then 29 else 28
  else if month = 4 || month = 6 || month = 9 || month = 11 then 30
  else 31

/-- The text after the date at its head. -/
def date? : List Char → Option (List Char)
  | a :: b :: c :: d :: '-' :: e :: f :: '-' :: g :: h :: rest => do
    let year := (← twoDigits a b) * 100 + (← twoDigits c d)
    let month ← twoDigits e f
    let day ← twoDigits g h
    if 1 ≤ month && month ≤ 12 && 1 ≤ day && day ≤ daysIn year month then some rest else none
  | _ => none

/-- The text after a fraction of a second, if there is one at its head. -/
def secondFraction? : List Char → Option (List Char)
  | '.' :: cs => if cs.head?.any Char.isDigit then some (cs.dropWhile Char.isDigit) else none
  | cs => some cs

/-- The text after the seconds at its head, if there are any. -/
def seconds? : List Char → Option (List Char)
  | ':' :: a :: b :: cs => do
    let s ← twoDigits a b
    if s ≤ 60 then secondFraction? cs else none
  | cs => some cs

/-- The text after the time of day at its head. -/
def clock? : List Char → Option (List Char)
  | a :: b :: ':' :: c :: d :: cs => do
    let hour ← twoDigits a b
    let minute ← twoDigits c d
    if hour ≤ 23 && minute ≤ 59 then seconds? cs else none
  | _ => none

/-- A difference to universal time, or nothing. -/
def isOffset : List Char → Bool
  | [] => true
  | ['Z'] => true
  | ['z'] => true
  | [s, a, b, ':', c, d] =>
    (s == '+' || s == '-') && (twoDigits a b).any (· ≤ 23) && (twoDigits c d).any (· ≤ 59)
  | _ => false

def isDate (cs : List Char) : Bool := date? cs = some []

/-- A date, a time of day, or both with a `T` or a blank between them. -/
def isTime (cs : List Char) : Bool :=
  match date? cs with
  | some [] => true
  | some (c :: rest) =>
    (c == 'T' || c == 't' || c == ' ') && match clock? rest with
      | some rest => isOffset rest
      | none => false
  | none => clock? cs = some []

/-- The value of a word that is no string. -/
def scalar? (cs : List Char) : Option Toml :=
  if cs = "true".toList then some (.bool true)
  else if cs = "false".toList then some (.bool false)
  else match int? cs with
    | some n => some (.int n)
    | none =>
      match real? cs with
      | some x => some (.real x)
      | none => if isTime cs then some .time else none

end CatalogCrawl.Toml
