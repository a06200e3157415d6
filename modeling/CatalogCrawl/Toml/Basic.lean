import CatalogCrawl.Keyed
import CatalogCrawl.Number.Binary64

/-! # TOML values

A document is a table. Besides its fields a table carries how it came about, since that decides how
it may grow while the document is read. -/

namespace CatalogCrawl

namespace Toml

/-- A number with a fraction or an exponent. -/
inductive Real where
  | finite (x : Binary64)
  | infinite (negative : Bool)
  | nan
  /-- Written in digits, but larger than any double. -/
  | beyond
  deriving DecidableEq, Repr

/-- How a table came about. -/
inductive Origin where
  /-- Named in a header. -/
  | header
  /-- On the way to a table named in a header. -/
  | passed
  /-- On the way to a value with a dotted key. -/
  | dotted
  /-- Written between braces, and complete. -/
  | braced
  deriving DecidableEq, Repr

end Toml

inductive Toml where
  | str (s : String)
  | int (n : Int)
  | real (x : Toml.Real)
  | bool (b : Bool)
  /-- A date, a time or both. -/
  | time
  | array (items : List Toml)
  | table (origin : Toml.Origin) (fields : List (String × Toml))
  /-- The tables of one repeated header. -/
  | tables (elements : List (List (String × Toml)))

namespace Toml

abbrev Fields := List (String × Toml)

def find? (k : String) (fs : Fields) : Option Toml := (fs.find? (·.1 = k)).map (·.2)

/-- Sets a field, at the end if it is new. -/
def put (k : String) (v : Toml) (fs : Fields) : Fields := Keyed.put Prod.fst (k, v) fs

/-- Changes the last of a list of tables. -/
def changeLast (f : Fields → Option Fields) : List Fields → Option (List Fields)
  | [] => none
  | [fs] => (f fs).map fun fs => [fs]
  | fs :: rest => (changeLast f rest).map fun rest => fs :: rest

/-- Gives a value to a dotted key, whose last part must be new. No table on the way may have been
named in a header, except that a repeated header stands for its last table, or be complete. The
table that gets the value must have come about by dotted keys: `takes` says whether the present one
may get it. -/
def assignIn (takes : Bool) : List String → Toml → Fields → Option Fields
  | [], _, _ => none
  | [k], v, fs => if takes && (find? k fs).isNone then some (put k v fs) else none
  | k :: ks, v, fs =>
    match find? k fs with
    | none => (assignIn true ks v []).map fun sub => put k (.table .dotted sub) fs
    | some (.table .dotted sub) => (assignIn true ks v sub).map fun sub =>
      put k (.table .dotted sub) fs
    | some (.table .passed sub) => (assignIn false ks v sub).map fun sub =>
      put k (.table .passed sub) fs
    | some (.tables els) =>
      (changeLast (assignIn false ks v) els).map fun els => put k (.tables els) fs
    | _ => none

/-- Gives a value to a key of the table that is being written. -/
def assign : List String → Toml → Fields → Option Fields := assignIn true

/-- Changes the table at a path of headers. What is missing on the way is made. A repeated header
stands for its last table. -/
def within (f : Fields → Option Fields) : List String → Fields → Option Fields
  | [], fs => f fs
  | k :: ks, fs =>
    match find? k fs with
    | none => (within f ks []).map fun sub => put k (.table .passed sub) fs
    | some (.table .braced _) => none
    | some (.table o sub) => (within f ks sub).map fun sub => put k (.table o sub) fs
    | some (.tables els) => (changeLast (within f ks) els).map fun els => put k (.tables els) fs
    | _ => none

/-- Names a table in a header. It may have been passed, but neither named nor given
values before. -/
def openTable (k : String) (fs : Fields) : Option Fields :=
  match find? k fs with
  | none => some (put k (.table .header []) fs)
  | some (.table .passed sub) => some (put k (.table .header sub) fs)
  | _ => none

/-- Adds a table to a repeated header. -/
def addTable (k : String) (fs : Fields) : Option Fields :=
  match find? k fs with
  | none => some (put k (.tables [[]]) fs)
  | some (.tables els) => some (put k (.tables (els ++ [[]])) fs)
  | _ => none

end Toml

end CatalogCrawl
