import CatalogCrawl.Store.Frontier
import CatalogCrawl.Store.Info

/-! # Stores in disrepair

Rows stored as they are, tables taken away and ids whose writes fail: what a store can look like
when something other than this library has written to it. -/

namespace CatalogCrawl

inductive WriteKind where
  | insert
  | update
  deriving DecidableEq, Repr

/-- A table in which one kind of write to an id fails from now on. -/
def Table.block {ρ : Type} (kind : WriteKind) (id : String) (t : Table ρ) : Table ρ :=
  match kind with
  | .insert => { t with noInsert := id :: t.noInsert }
  | .update => { t with noUpdate := id :: t.noUpdate }

namespace Store

/-- Removes a table with its rows and blocks. -/
def dropTable : TableName → Action Unit
  | .frontier => writing frontierTable fun _ s => (.ok (), { s with frontier := none })
  | .info => writing infoTable fun _ s => (.ok (), { s with info := none })

/-- From now on every write of this kind to the id fails. -/
def block (name : TableName) (kind : WriteKind) (id : String) : Action Unit :=
  match name with
  | .frontier => writing frontierTable fun t s =>
    (.ok (), { s with frontier := some (t.block kind id) })
  | .info => writing infoTable fun t s => (.ok (), { s with info := some (t.block kind id) })

/-- Stores a frontier row as it is. -/
def putFrontierRow (r : FrontierRow) : Action Unit :=
  writing frontierTable fun t s =>
    if t.noInsert.contains r.id then (.error (.engine .blocked), s)
    else if hasFrontierId t r.id then (.error (.engine (.keyTaken .frontier)), s)
    else (.ok (), { s with frontier := some { t with rows := t.rows ++ [r] } })

/-- Sets the status code of a row, whatever it was. -/
def setCode (id : String) (code : Int) : Action Unit :=
  writing frontierTable fun t s =>
    if hasFrontierId t id && t.noUpdate.contains id then (.error (.engine .blocked), s)
    else
      let rows := t.rows.map fun r => if r.id = id then { r with code } else r
      (.ok (), { s with frontier := some { t with rows } })

/-- Stores a detail row as it is. -/
def putInfoRow (r : InfoRow) : Action Unit :=
  writing infoTable fun t s =>
    if t.noInsert.contains r.id then (.error (.engine .blocked), s)
    else if hasInfoId t r.id then (.error (.engine (.keyTaken .info)), s)
    else (.ok (), { s with info := some { t with rows := t.rows ++ [r] } })

end Store

end CatalogCrawl
