/-! # Punycode

The bootstring code of RFC 3492: the ASCII characters of a label first, then the others as the gaps
between them, in digits of a variable base. -/

namespace CatalogCrawl.Punycode

/-- Digits 0 to 25 are letters, 26 to 35 are decimal digits. -/
def digitChar (d : Nat) : Char := Char.ofNat (if d < 26 then d + 97 else d + 22)

def digitValue (c : Char) : Option Nat :=
  if 'a' ≤ c && c ≤ 'z' then some (c.toNat - 97)
  else if 'A' ≤ c && c ≤ 'Z' then some (c.toNat - 65)
  else if c.isDigit then some (c.toNat - 22)
  else none

/-- The threshold of the digit at place `k`. -/
def threshold (k bias : Nat) : Nat :=
  if k ≤ bias then 1 else if bias + 26 ≤ k then 26 else k - bias

theorem threshold_pos (k bias : Nat) : 1 ≤ threshold k bias := by
  unfold threshold
  split
  · omega
  · split <;> omega

/-- Divides by 35 until at most 455 is left, counting the divisions in steps of 36. -/
def damp (delta k : Nat) : Nat × Nat :=
  if 455 < delta then damp (delta / 35) (k + 36) else (delta, k)
termination_by delta
decreasing_by exact Nat.div_lt_self (by omega) (by omega)

/-- The bias after a gap of `delta`, with `count` characters placed. -/
def adapt (delta count : Nat) (first : Bool) : Nat :=
  let start := if first then delta / 700 else delta / 2
  let (d, k) := damp (start + start / count) 0
  k + 36 * d / (d + 38)

/-- A gap in digits. -/
def gapDigits (bias k q : Nat) : List Char :=
  if q < threshold k bias then [digitChar q]
  else
    let t := threshold k bias
    digitChar (t + (q - t) % (36 - t)) :: gapDigits bias (k + 36) ((q - t) / (36 - t))
termination_by q
decreasing_by
  have h1 := threshold_pos k bias
  have := Nat.div_le_self (q - threshold k bias) (36 - threshold k bias)
  omega

/-- The state of the encoder: digits written, the gap so far, the bias and the characters placed. -/
structure Encoder where
  out : List Char
  delta : Nat
  bias : Nat
  placed : Nat

/-- Passes one character of the label while code point `m` is being placed. -/
def Encoder.pass (basic m : Nat) (e : Encoder) (c : Char) : Encoder :=
  if c.toNat < m then { e with delta := e.delta + 1 }
  else if c.toNat = m then
    { out := e.out ++ gapDigits e.bias 36 e.delta
      delta := 0
      bias := adapt e.delta (e.placed + 1) (e.placed == basic)
      placed := e.placed + 1 }
  else e

/-- Places the code points in ascending order. `n` is the least one not looked at. -/
def placeAll (label : List Char) (basic : Nat) : List Nat → Nat → Encoder → Encoder
  | [], _, e => e
  | m :: rest, n, e =>
    let e := { e with delta := e.delta + (m - n) * (e.placed + 1) }
    let e := label.foldl (Encoder.pass basic m) e
    placeAll label basic rest (m + 1) { e with delta := e.delta + 1 }

/-- Inserts a number into an ascending list, once. -/
def insertNat (x : Nat) : List Nat → List Nat
  | [] => [x]
  | y :: ys => if x < y then x :: y :: ys else if x = y then y :: ys else y :: insertNat x ys

def isAscii (c : Char) : Bool := c.toNat < 0x80

/-- The code of a label, without the mark `xn--`. -/
def encode (label : List Char) : List Char :=
  let basic := label.filter isAscii
  let others := ((label.filter (!isAscii ·)).map Char.toNat).foldl (fun acc n => insertNat n acc) []
  let coded := placeAll label basic.length others 128 ⟨[], 0, 72, basic.length⟩
  basic ++ (if basic.isEmpty then [] else ['-']) ++ coded.out

/-- Gaps and weights are smaller than this. -/
def limit : Nat := Nat.pow 2 32

/-- Reads a gap: the sum of its digits by weight, and the rest. -/
def readGap (bias : Nat) : List Char → Nat → Nat → Nat → Option (Nat × List Char)
  | [], _, _, _ => none
  | c :: cs, k, weight, sum => do
    let d ← digitValue c
    let t := threshold k bias
    if limit ≤ sum + d * weight then none
    else if d < t then some (sum + d * weight, cs)
    else if limit ≤ weight * (36 - t) then none
    else readGap bias cs (k + 36) (weight * (36 - t)) (sum + d * weight)

/-- Reads gaps and puts each character in its place. -/
def readAll : Nat → List Char → Nat → Nat → Nat → List Char → Option (List Char)
  | _, [], _, _, _, out => some out
  | 0, _ :: _, _, _, _, _ => none
  | fuel + 1, cs, n, i, bias, out => do
    let (i', rest) ← readGap bias cs 36 1 i
    let count := out.length + 1
    let n := n + i' / count
    let place := i' % count
    if n.isValidChar then
      readAll fuel rest n (place + 1) (adapt (i' - i) count (i == 0))
        (out.take place ++ Char.ofNat n :: out.drop place)
    else none

/-- The label of a code, without the mark `xn--`. -/
def decode (code : List Char) : Option (List Char) :=
  let tail := (code.reverse.takeWhile (· ≠ '-')).reverse
  let head := code.take (code.length - tail.length - 1)
  if head.all isAscii then readAll tail.length tail 128 0 72 head else none

end CatalogCrawl.Punycode
