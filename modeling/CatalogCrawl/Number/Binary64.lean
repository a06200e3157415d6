/-! # Finite binary64 numbers

A finite double is `(-1)^negative * mantissa * 2^exponent` with a mantissa below `2^53` and an
exponent from -1074 to 971. Operations work on magnitudes in exact arithmetic on naturals and round
once, to nearest, ties to even. -/

namespace CatalogCrawl

/-- A nonnegative finite double, `mantissa * 2^(scale - 1074)`. The mantissa is at least `2^52`
unless the scale is 0. -/
structure Magnitude where
  mantissa : Nat
  scale : Nat
  deriving DecidableEq, Repr

namespace Magnitude

def zero : Magnitude := ⟨0, 0⟩

def isZero (m : Magnitude) : Bool := m.mantissa == 0

/-- `num / den` rounded to the nearest whole number, a half to the even one. -/
def divNearest (num den : Nat) : Nat :=
  let q := num / den
  let r := num % den
  if 2 * r < den then q
  else if den < 2 * r then q + 1
  else if q % 2 == 0 then q else q + 1

/-- The scale at which `num / den` has a mantissa of 53 bits, or 0 if it is too small for that. -/
def scaleOf (num den : Nat) : Nat :=
  -- one below the right scale at most: `num / den` lies within a factor 2 of `2^(log2 num - log2 den)`
  let guess := num.log2 + 1074 - (den.log2 + 53)
  if Nat.pow 2 53 * (den * Nat.pow 2 guess) ≤ num * Nat.pow 2 1074 then guess + 1 else guess

/-- The double nearest to `num / den`, `none` if that is beyond the largest finite one. -/
def ofRatio (num den : Nat) : Option Magnitude :=
  if num == 0 || den == 0 then some zero
  else
    let scale := scaleOf num den
    let m := divNearest (num * Nat.pow 2 1074) (den * Nat.pow 2 scale)
    let (m, scale) := if m == Nat.pow 2 53 then (Nat.pow 2 52, scale + 1) else (m, scale)
    if 2045 < scale then none else some ⟨m, scale⟩

def ofNat (n : Nat) : Option Magnitude := ofRatio n 1

def mul (a b : Magnitude) : Option Magnitude :=
  ofRatio (a.mantissa * b.mantissa * Nat.pow 2 (a.scale + b.scale)) (Nat.pow 2 2148)

def div (a b : Magnitude) : Option Magnitude :=
  ofRatio (a.mantissa * Nat.pow 2 a.scale) (b.mantissa * Nat.pow 2 b.scale)

end Magnitude

/-- A finite double. -/
structure Binary64 where
  negative : Bool
  magnitude : Magnitude
  deriving DecidableEq, Repr

end CatalogCrawl
