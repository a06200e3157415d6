import CatalogCrawl.Number.Binary64

/-! # JSON values

A number is a whole number or a finite double. The fields of an object are kept in the order of
their keys, one for each key. -/

namespace CatalogCrawl

inductive Json where
  | null
  | bool (b : Bool)
  | int (n : Int)
  | real (x : Binary64)
  | str (s : String)
  | arr (items : List Json)
  | obj (fields : List (String × Json))
  deriving Inhabited

namespace Json

/-- Sets a field, before the first field with a larger key. -/
def setField (k : String) (v : Json) : List (String × Json) → List (String × Json)
  | [] => [(k, v)]
  | (k', v') :: rest =>
    if k = k' then (k, v) :: rest
    else if k < k' then (k, v) :: (k', v') :: rest
    else (k', v') :: setField k v rest

/-- The object with the given fields, of which a later one replaces an earlier one of
the same key. -/
def mkObj (fields : List (String × Json)) : Json :=
  .obj (fields.foldl (fun acc f => setField f.1 f.2 acc) [])

/-- The field `k` of an object, `none` for anything else. -/
def get? (k : String) : Json → Option Json
  | .obj fields => (fields.find? (·.1 = k)).map (·.2)
  | _ => none

def str? : Json → Option String
  | .str s => some s
  | _ => none

def bool? : Json → Option Bool
  | .bool b => some b
  | _ => none

/-- The least and the largest whole number of 64 signed bits, and the largest of 64
unsigned ones. -/
def minSigned : Int := -9223372036854775808
def maxSigned : Int := 9223372036854775807
def maxUnsigned : Int := 18446744073709551615

/-- A whole number of 64 signed bits. -/
def signed? : Json → Option Int
  | .int n => if minSigned ≤ n ∧ n ≤ maxSigned then some n else none
  | _ => none

end Json

end CatalogCrawl
