import CatalogCrawl.Crawl.World
import CatalogCrawl.Options

/-! # Backfill

Details are fetched for the ids of the frontier that have none. An id whose details cannot be
fetched or saved is passed over; it has none still, so the next run asks for them again. -/

namespace CatalogCrawl

namespace Backfill

structure Report where
  /-- Ids without details. -/
  pending : Nat := 0
  saved : Nat := 0
  fetchFailures : Nat := 0
  /-- Details that were there by the time theirs came. -/
  duplicates : Nat := 0
  storeFailures : Nat := 0
  deriving DecidableEq, Repr

structure Tally where
  saved : Nat := 0
  fetchFailures : Nat := 0
  duplicates : Nat := 0
  deriving DecidableEq, Repr

/-- What is done with the details of an id. -/
def react (id : String) (outcome : Except FetchError Detail) (s : Stage Tally) :
    Stage Tally × Option String :=
  match outcome with
  | .error e =>
    let s := Logged.warn .backfilling s!"Failed to fetch {id}: {e.message}" s
    (s.count fun t => { t with fetchFailures := t.fetchFailures + 1 }, none)
  | .ok detail =>
    match s.onStore (Store.insertInfo (detail.toRecord id)) with
    | (.ok (), s) =>
      let s := Logged.debug .backfilling s!"Saved package info for {id}" s
      (s.count fun t => { t with saved := t.saved + 1 }, none)
    | (.error (.duplicate table row), s) =>
      let e := StoreError.duplicate table row
      let s := Logged.warn .backfilling s!"Skipping {id}: {e.message}" s
      (s.count fun t => { t with duplicates := t.duplicates + 1 }, none)
    | (.error e, s) => (s, some s!"{id}: {e.message}")

def unit (c : Catalog) (locale : Locale) (id : String) : Pacer.Work (Stage Tally) :=
  Stage.request (.detail id locale) (c.detail · id locale) (react id)

/-- Fetches the details that are missing. -/
def run (c : Catalog) (o : Options) (w : World) : Except StoreError Report × World :=
  match w.store.idsMissingInfo with
  | .error e => (.error e, w)
  | .ok ids =>
    let w := Logged.info .backfilling s!"Querying {ids.length} apps ..." w
    let (batch, s) := Stage.run o.batchSize o.backfillWindow (fun _ => false)
      (ids.map (unit c o.locale)) {} w
    (.ok { pending := ids.length, saved := s.tally.saved, fetchFailures := s.tally.fetchFailures,
           duplicates := s.tally.duplicates, storeFailures := batch.failed }, s.world)

end Backfill

end CatalogCrawl
