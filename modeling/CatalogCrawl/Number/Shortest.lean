import CatalogCrawl.Number.Binary64

/-! # Shortest decimals

The fewest significant digits that read back as the same double and, among those, the
nearest to it. -/

namespace CatalogCrawl.Magnitude

/-- The value as a quotient of naturals. -/
def ratio (m : Magnitude) : Nat × Nat := (m.mantissa * Nat.pow 2 m.scale, Nat.pow 2 1074)

/-- `digits * 10^power` as a quotient of naturals. -/
def decimalRatio (digits : Nat) (power : Int) : Nat × Nat :=
  if 0 ≤ power then (digits * Nat.pow 10 power.toNat, 1) else (digits, Nat.pow 10 (-power).toNat)

/-- The largest `k`, at most `top`, with `10^k ≤ num / den`, looking down `fuel` steps. -/
def decadeAux (num den : Nat) : Nat → Int → Int
  | 0, top => top
  | fuel + 1, top =>
    let (n, d) := decimalRatio 1 top
    if n * den ≤ num * d then top else decadeAux num den fuel (top - 1)

/-- The decimal exponent of the leading digit of `num / den`. -/
def decade (num den : Nat) : Int :=
  -- `log2` times 0.30103, taken up
  let bits : Int := (num.log2 : Int) - (den.log2 : Int) + 1
  decadeAux num den 4 (bits * 30103 / 100000 + 1)

/-- The decimal with `count` digits next to the value that reads back as it, if there is one: the
digits as a number, and the power of ten of the last one. -/
def decimalWith? (m : Magnitude) (count : Nat) : Option (Nat × Int) :=
  let (num, den) := m.ratio
  let power := decade num den - (count : Int) + 1
  let (n, d) := decimalRatio 1 power
  let low := num * d / (den * n)
  let rest := num * d % (den * n)
  let reads (digits : Nat) : Bool :=
    let (a, b) := decimalRatio digits power
    ofRatio a b == some m
  let below := if reads low then some (low, power) else none
  let above := if reads (low + 1) then some (low + 1, power) else none
  match below, above with
  | some b, some a =>
    if 2 * rest < den * n then some b
    else if den * n < 2 * rest then some a
    else if low % 2 == 0 then some b else some a
  | some b, none => some b
  | none, a => a

/-- The first count, from `count` on, that gives a decimal. Seventeen digits always do. -/
def shortestFrom (m : Magnitude) : Nat → Nat → Nat × Int
  | 0, _ => (0, 0)
  | fuel + 1, count => (m.decimalWith? count).getD (shortestFrom m fuel (count + 1))

/-- The shortest decimal of a magnitude. -/
def shortest (m : Magnitude) : Nat × Int := shortestFrom m 17 1

end CatalogCrawl.Magnitude

namespace CatalogCrawl.Binary64

/-- How doubles are written: which exponents of the leading digit are written positionally. -/
structure Format where
  lowest : Int
  highest : Int

/-- Zeros up to five places after the point and sixteen digits before it are written out. -/
def Format.json : Format := ⟨-5, 15⟩

/-- The text of a magnitude with digits `ds` of which the first has the decimal exponent `e`. -/
def positional (ds : List Char) (e : Int) : List Char :=
  if e < 0 then '0' :: '.' :: List.replicate (-e - 1).toNat '0' ++ ds
  else
    let k := e.toNat + 1
    let whole := ds.take k ++ List.replicate (k - ds.length) '0'
    let part := ds.drop k
    whole ++ '.' :: (if part.isEmpty then ['0'] else part)

def scientific (ds : List Char) (e : Int) : List Char :=
  let tail :=
    if e < 0 then 'e' :: '-' :: Nat.toDigits 10 (-e).toNat
    else 'e' :: '+' :: Nat.toDigits 10 e.toNat
  match ds with
  | [] => tail
  | [d] => d :: tail
  | d :: rest => d :: '.' :: rest ++ tail

/-- Drops the zeros at the end of a digit string and says how many there were. -/
def dropZeros (ds : List Char) : List Char := (ds.reverse.dropWhile (· == '0')).reverse

def digits (f : Format) (m : Magnitude) : List Char :=
  if m.isZero then ['0', '.', '0']
  else
    let (n, power) := m.shortest
    let all := Nat.toDigits 10 n
    let e := power + (all.length : Int) - 1
    let ds := dropZeros all
    if f.lowest ≤ e && e ≤ f.highest then positional ds e else scientific ds e

/-- The text of a double, always with a point or an exponent. -/
def text (f : Format) (x : Binary64) : List Char :=
  if x.negative then '-' :: digits f x.magnitude else digits f x.magnitude

end CatalogCrawl.Binary64
