import CatalogCrawl.Store.Basic

/-! # The frontier

Discovered ids with the depth and the payload of their first discovery. A row never changes but for
its status, and that only once, from unvisited. -/

namespace CatalogCrawl

/-- A frontier row as it is read. -/
structure FrontierEntry where
  id : String
  depth : Nat
  status : Status
  snapshot : Json

/-- How many rows have one depth and one status. -/
structure LevelCount where
  depth : Nat
  status : Status
  count : Nat
  deriving DecidableEq, Repr

namespace Store

/-- Whether a table has a row with this id. -/
def hasFrontierId (t : Table FrontierRow) (id : String) : Bool := t.rows.any (·.id = id)

/-- Adds an unvisited row unless the id is there. Says whether it was added. -/
def insertIfAbsent (id : String) (depth : Nat) (snapshot : Json) : Action Bool :=
  writing frontierTable fun t s =>
    if t.noInsert.contains id then (.error (.engine .blocked), s)
    else if hasFrontierId t id then (.ok false, s)
    else
      let row : FrontierRow := ⟨id, depth, Status.unvisited.code, snapshot.text⟩
      (.ok true, { s with frontier := some { t with rows := t.rows ++ [row] } })

/-- Adds the items one by one at depth 0, counting the new ones, up to the first failure. -/
def insertEach : List Item → Nat → Action Nat
  | [], n, s => (.ok n, s)
  | item :: rest, n, s =>
    match insertIfAbsent item.id 0 item.raw s with
    | (.ok added, s) => insertEach rest (if added then n + 1 else n) s
    | (.error e, s) => (.error e, s)

/-- Adds a page of items at depth 0 in one transaction: after a failure none of them is there. Gives
the number of new rows. -/
def insertPage (items : List Item) : Action Nat := fun s =>
  match s.frontierTable with
  | .error e => (.error e, s)
  | .ok _ =>
    match insertEach items 0 s with
    | (.ok n, s') => (.ok n, s')
    | (.error e, _) => (.error e, s)

/-- Moves a row from unvisited to `status`. Says whether there was such a row. -/
def markStatus (id : String) (status : Status) : Action Bool :=
  writing frontierTable fun t s =>
    let hit (r : FrontierRow) : Bool := r.id = id && r.code = Status.unvisited.code
    if t.rows.any hit then
      if t.noUpdate.contains id then (.error (.engine .blocked), s)
      else
        let rows := t.rows.map fun r => if hit r then { r with code := status.code } else r
        (.ok true, { s with frontier := some { t with rows } })
    else (.ok false, s)

/-- Reads the payload of a row. -/
def readSnapshot (r : FrontierRow) : Except StoreError Json :=
  match Json.read? r.snapshot with
  | some v => .ok v
  | none => .error (.corrupt r.id "snapshot: not a JSON text")

/-- The rows of one depth and status, in insertion order. Fails on the first payload that cannot be
read. -/
def entriesAt (depth : Nat) (status : Status) (s : Store) :
    Except StoreError (List FrontierEntry) := do
  let t ← s.frontierTable
  (t.rows.filter fun r => r.depth = (depth : Int) && r.code = status.code).mapM fun r => do
    return ⟨r.id, depth, status, ← readSnapshot r⟩

def contains (id : String) (s : Store) : Except StoreError Bool := do
  return hasFrontierId (← s.frontierTable) id

/-- The ids without details, in insertion order. -/
def idsMissingInfo (s : Store) : Except StoreError (List String) := do
  let t ← s.frontierTable
  let i ← s.infoTable
  return (t.rows.map (·.id)).filter fun id => !i.rows.any (·.id = id)

/-- How many frontier rows have no details. Details without a frontier row do not count. -/
def missingInfoCount (s : Store) : Except StoreError Nat := do
  let t ← s.frontierTable
  let i ← s.infoTable
  return t.rows.countP fun r => !i.rows.any (·.id = r.id)

def frontierCount (s : Store) : Except StoreError Nat := do
  return (← s.frontierTable).rows.length

/-- Whether `(d, c)` comes before `(d', c')`: by depth, then by status code from high to low. -/
def groupBefore (d c d' c' : Int) : Bool := d < d' || (d = d' && c' < c)

/-- Counts a row in a list of groups that is in the order of `groupBefore`. -/
def countRow (r : FrontierRow) : List (Int × Int × Nat) → List (Int × Int × Nat)
  | [] => [(r.depth, r.code, 1)]
  | (d, c, n) :: rest =>
    if r.depth = d && r.code = c then (d, c, n + 1) :: rest
    else if groupBefore r.depth r.code d c then (r.depth, r.code, 1) :: (d, c, n) :: rest
    else (d, c, n) :: countRow r rest

/-- The largest depth a row can be read with. -/
def maxDepth : Int := 4294967295

/-- Reads a group. The depth is looked at first. -/
def readGroup : Int × Int × Nat → Except StoreError LevelCount
  | (d, c, n) =>
    if d < 0 || maxDepth < d then .error (.engine (.outOfRange d))
    else match Status.ofCode? c with
      | some status => .ok ⟨d.toNat, status, n⟩
      | none => .error (.corrupt s!"depth {d}" s!"unknown status {c}")

/-- The number of rows at each depth and status, by depth and then by status code from
high to low. -/
def summary (s : Store) : Except StoreError (List LevelCount) := do
  let t ← s.frontierTable
  (t.rows.foldl (fun groups r => countRow r groups) []).mapM readGroup

end Store

end CatalogCrawl
