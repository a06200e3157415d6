import CatalogCrawl.Crawl.World
import CatalogCrawl.Options

/-! # Seeding

The items of ranked listing pages become the rows of depth 0. A page that cannot be fetched
is passed over. Once the budget is spent no more pages are asked for, and the last page is
cut to fit. -/

namespace CatalogCrawl

namespace Seeding

structure Report where
  /-- Pages asked for. -/
  pages : Nat := 0
  failedPages : Nat := 0
  /-- Pages not asked for, because the budget was spent. -/
  skippedPages : Nat := 0
  /-- New rows. -/
  inserted : Nat := 0
  deriving DecidableEq, Repr

structure Tally where
  failed : Nat := 0
  inserted : Nat := 0
  deriving DecidableEq, Repr

/-- The name of a page in messages. -/
def label (q : ListQuery) : String := s!"{q.category} / {q.collection}"

/-- What is done with a page. -/
def react (q : ListQuery) (outcome : Except FetchError (List Item)) (s : Stage Tally) :
    Stage Tally × Option String :=
  let name := label q
  match outcome with
  | .error e =>
    let s := Logged.warn .seeding s!"Failed to fetch {name}: {e.message}" s
    (s.count fun t => { t with failed := t.failed + 1 }, none)
  | .ok items =>
    match s.lift (World.seedPage items) with
    | (.error e, s) => (s, some s!"{name}: {e.message}")
    | (.ok n, s) =>
      let s := s.count fun t => { t with inserted := t.inserted + n }
      (Logged.debug .seeding s!"{name}: {items.length} items, {n} new" s, none)

def unit (c : Catalog) (q : ListQuery) : Pacer.Work (Stage Tally) :=
  Stage.request (.list q) (c.list · q) (react q)

/-- Fetches the listing pages and puts their items into the frontier. -/
def run (c : Catalog) (o : Options) (w : World) : Report × World :=
  let queries := o.seedQueries
  let w := Logged.info .seeding s!"Seeding from {queries.length} listing pages" w
  let (batch, s) :=
    Stage.run o.batchSize o.seedWindow (·.budget.exhausted) (queries.map (unit c)) {} w
  let w := s.world
  let w := if batch.skipped = 0 then w else
    Logged.info .seeding
      s!"Budget of {w.budget.limit} reached, skipped {batch.skipped} listing pages" w
  ({ pages := batch.executed, failedPages := s.tally.failed, skippedPages := batch.skipped,
     inserted := s.tally.inserted }, w)

end Seeding

end CatalogCrawl
