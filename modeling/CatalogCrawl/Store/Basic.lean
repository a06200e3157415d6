import CatalogCrawl.Catalog.Item
import CatalogCrawl.Json.Reader

/-! # The crawl store

Two tables that outlive a run: the frontier, one row for each discovered id, and the details
fetched so far. Rows stay in insertion order. Payloads are kept as JSON text and status as a code,
so a row may hold something that cannot be read back; a table may be missing; and writes to chosen
ids may be blocked.

These are all the faults there are. A table that is there can be read: a read fails because its
table is missing or because a row it is to give cannot be read back, and what the engine may run
into while it reads (a damaged file, a device that fails) is left out. -/

namespace CatalogCrawl

/-- How far a discovered id has been explored. -/
inductive Status where
  /-- Discovered, neighbours not explored yet. -/
  | unvisited
  /-- Every neighbour is in the frontier. -/
  | visited
  /-- The neighbours could not be fetched. Final. -/
  | error
  deriving DecidableEq, Repr

namespace Status

def code : Status → Int
  | .unvisited => 0
  | .visited => 1
  | .error => -2

def ofCode? (c : Int) : Option Status :=
  if c = 0 then some .unvisited
  else if c = 1 then some .visited
  else if c = -2 then some .error
  else none

@[simp] theorem ofCode?_code (s : Status) : ofCode? s.code = some s := by cases s <;> rfl

theorem ofCode?_eq_some_iff {c : Int} {s : Status} : ofCode? c = some s ↔ c = s.code := by
  constructor
  · intro h
    unfold ofCode? at h
    split at h
    · cases h; assumption
    · split at h
      · cases h; assumption
      · split at h
        · cases h; assumption
        · cases h
  · rintro rfl; simp

def name : Status → String
  | .unvisited => "unvisited"
  | .visited => "visited"
  | .error => "error"

def ofName? (s : String) : Option Status :=
  [Status.unvisited, .visited, .error].find? (·.name = s)

end Status

/-- A frontier row as it is stored. -/
structure FrontierRow where
  id : String
  depth : Int
  code : Int
  snapshot : String
  deriving DecidableEq, Repr

/-- A detail row as it is stored. -/
structure InfoRow where
  id : String
  installRange : String
  minInstalls : Int
  maxInstalls : Int
  free : Int
  detail : String
  deriving DecidableEq, Repr

/-- Rows in insertion order, and the ids whose insertion or update is made to fail. -/
structure Table (ρ : Type) where
  rows : List ρ := []
  noInsert : List String := []
  noUpdate : List String := []
  deriving DecidableEq

inductive TableName where
  | frontier
  | info
  deriving DecidableEq, Repr

def TableName.text : TableName → String
  | .frontier => "frontier"
  | .info => "info"

/-- What may be done with a store that is open. -/
inductive Access where
  | full
  /-- Nothing can be written. -/
  | readOnly
  /-- Nothing can be written, nor can the log beside the store be emptied. -/
  | sealed
  deriving DecidableEq, Repr

/-- A fault of the engine under the store. -/
inductive EngineFault where
  | blocked
  | readOnly
  | missingTable (table : TableName)
  | outOfRange (value : Int)
  | keyTaken (table : TableName)
  deriving DecidableEq, Repr

def EngineFault.message : EngineFault → String
  | .blocked => "blocked"
  | .readOnly => "attempt to write a readonly database"
  | .missingTable t => s!"no such table: {t.text}"
  | .outOfRange v => s!"Integer {v} out of range at index 0"
  | .keyTaken t => s!"UNIQUE constraint failed: {t.text}.id"

inductive StoreError where
  | duplicate (table : TableName) (id : String)
  | corrupt (id reason : String)
  | engine (fault : EngineFault)
  deriving DecidableEq, Repr

def StoreError.message : StoreError → String
  | .duplicate t id => s!"{t.text} already has a row for {id}"
  | .corrupt id reason => s!"corrupt row for {id}: {reason}"
  | .engine f => s!"sqlite: {f.message}"

/-- The two tables, either of which may be missing. -/
structure Store where
  frontier : Option (Table FrontierRow) := none
  info : Option (Table InfoRow) := none
  /-- Whether changes go to a log beside the store first. -/
  logged : Bool := true
  access : Access := .full
  deriving DecidableEq

namespace Store

/-- A new store. -/
def empty : Store := { frontier := some {}, info := some {} }

/-- A store as it is after opening: tables that are missing are there again, without rows. -/
def opened (s : Store) : Store :=
  { s with frontier := some (s.frontier.getD {}), info := some (s.info.getD {}) }

/-- Whether both tables are there. -/
def isComplete (s : Store) : Bool := s.frontier.isSome && s.info.isSome

/-- A store operation that may write. When it fails it still says which store it leaves. -/
abbrev Action (α : Type) := Store → Except StoreError α × Store

/-- Empties the log beside the store. -/
def checkpoint (s : Store) : Except StoreError Unit :=
  if s.access = .sealed then .error (.engine .readOnly) else .ok ()

/-- The frontier, if the table is there. -/
def frontierTable (s : Store) : Except StoreError (Table FrontierRow) :=
  match s.frontier with
  | some t => .ok t
  | none => .error (.engine (.missingTable .frontier))

/-- The details, if the table is there. -/
def infoTable (s : Store) : Except StoreError (Table InfoRow) :=
  match s.info with
  | some t => .ok t
  | none => .error (.engine (.missingTable .info))

/-- An operation that writes to a table. The table is looked for first: a store that cannot be
written and does not have it either reports the missing table. -/
def writing {ρ α : Type} (table : Store → Except StoreError (Table ρ)) (f : Table ρ → Action α) :
    Action α := fun s =>
  match table s with
  | .error e => (.error e, s)
  | .ok t => if s.access = .full then f t s else (.error (.engine .readOnly), s)

end Store

end CatalogCrawl
