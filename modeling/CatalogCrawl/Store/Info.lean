import CatalogCrawl.Store.Basic

/-! # Details

At most one row for each id. A row is never overwritten. -/

namespace CatalogCrawl

/-- Which rows are exported: those that are free or not as `onlyFree` says and have at least
`minInstalls` installs. -/
structure ExportFilter where
  onlyFree : Bool
  minInstalls : Int
  deriving DecidableEq, Repr

/-- A truth value as it is stored. -/
def InfoRow.flag (b : Bool) : Int := if b then 1 else 0

/-- Whether a row passes the filter. -/
def ExportFilter.accepts (f : ExportFilter) (r : InfoRow) : Bool :=
  r.free = InfoRow.flag f.onlyFree && f.minInstalls ≤ r.minInstalls

namespace Store

def hasInfoId (t : Table InfoRow) (id : String) : Bool := t.rows.any (·.id = id)

/-- Adds the details of an id. An id that is there already, and one whose insertion is blocked, is
reported as a duplicate. -/
def insertInfo (r : InfoRecord) : Action Unit :=
  writing infoTable fun t s =>
    if t.noInsert.contains r.id || hasInfoId t r.id then (.error (.duplicate .info r.id), s)
    else
      let row : InfoRow :=
        ⟨r.id, r.installRange, r.minInstalls, r.maxInstalls, InfoRow.flag r.isFree, r.detail.text⟩
      (.ok (), { s with info := some { t with rows := t.rows ++ [row] } })

def readInfo (r : InfoRow) : Except StoreError InfoRecord :=
  match Json.read? r.detail with
  | some v => .ok ⟨r.id, r.installRange, r.minInstalls, r.maxInstalls, r.free != 0, v⟩
  | none => .error (.corrupt r.id "detail: not a JSON text")

/-- The details that pass a filter, in insertion order. Fails on the first that cannot be read. -/
def infoMatching (f : ExportFilter) (s : Store) : Except StoreError (List InfoRecord) := do
  ((← s.infoTable).rows.filter f.accepts).mapM readInfo

/-- The ids that pass a filter. -/
def exportIds (f : ExportFilter) (s : Store) : Except StoreError (List String) := do
  return (← s.infoMatching f).map (·.id)

def infoCount (s : Store) : Except StoreError Nat := do
  return (← s.infoTable).rows.length

end Store

end CatalogCrawl
