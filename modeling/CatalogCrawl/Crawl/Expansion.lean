import CatalogCrawl.Crawl.World
import CatalogCrawl.Options

/-! # Expansion

A breadth-first search along the edges from an id to those similar to it. Level by level, the
unvisited rows of a depth have their neighbours put into the frontier one level below, and are then
marked. To be discovered and to be explored are two things, so a later crawl takes up just those
rows whose neighbours were never all recorded. -/

namespace CatalogCrawl

namespace Expansion

structure Report where
  /-- Levels that had unvisited rows. -/
  levelsRun : Nat := 0
  similarCalls : Nat := 0
  visited : Nat := 0
  errors : Nat := 0
  /-- Rows left unvisited because the budget was spent among their neighbours. -/
  truncated : Nat := 0
  /-- Rows not expanded because the budget was spent before their turn. -/
  skipped : Nat := 0
  /-- Units that failed on the store. Their rows stay unvisited. -/
  storeFailures : Nat := 0
  /-- New rows. -/
  inserted : Nat := 0
  budgetExhausted : Bool := false
  deriving DecidableEq, Repr

/-- The tally of one level. -/
structure Tally where
  calls : Nat := 0
  visited : Nat := 0
  errors : Nat := 0
  truncated : Nat := 0
  skipped : Nat := 0
  inserted : Nat := 0
  deriving DecidableEq, Repr

/-- Puts neighbours into the frontier at a depth. Says whether all are there, which they are not
when the budget is spent before one that is unknown. -/
def discoverAll (depth : Nat) : List Item → Stage Tally → Except StoreError Bool × Stage Tally
  | [], s => (.ok true, s)
  | item :: rest, s =>
    match s.world.store.contains item.id with
    | .error e => (.error e, s)
    | .ok true => discoverAll depth rest s
    | .ok false =>
      match s.lift (World.discover item.id depth item.raw) with
      | (.error e, s) => (.error e, s)
      | (.ok .inserted, s) =>
        discoverAll depth rest (s.count fun t => { t with inserted := t.inserted + 1 })
      | (.ok .known, s) => discoverAll depth rest s
      | (.ok .overBudget, s) => (.ok false, s)

/-- What is done with the neighbours of a row. -/
def explore (entry : FrontierEntry) (outcome : Except FetchError (List Item)) (s : Stage Tally) :
    Except StoreError Unit × Stage Tally :=
  match outcome with
  | .error e =>
    let s := Logged.warn .expanding
      s!"Failed to fetch similar apps for {entry.id}: {e.message}" s
    match s.onStore (Store.markStatus entry.id .error) with
    | (.error e, s) => (.error e, s)
    | (.ok _, s) => (.ok (), s.count fun t => { t with errors := t.errors + 1 })
  | .ok neighbours =>
    match discoverAll (entry.depth + 1) neighbours s with
    | (.error e, s) => (.error e, s)
    | (.ok false, s) =>
      let s := Logged.debug .expanding
        s!"Budget reached while expanding {entry.id}; left unvisited for a later run" s
      (.ok (), s.count fun t => { t with truncated := t.truncated + 1 })
    | (.ok true, s) =>
      match s.onStore (Store.markStatus entry.id .visited) with
      | (.error e, s) => (.error e, s)
      | (.ok _, s) => (.ok (), s.count fun t => { t with visited := t.visited + 1 })

/-- A failure on the store is the failure of the unit. -/
def react (entry : FrontierEntry) (outcome : Except FetchError (List Item)) (s : Stage Tally) :
    Stage Tally × Option String :=
  match explore entry outcome s with
  | (.ok (), s) => (s, none)
  | (.error e, s) => (s, some s!"{entry.id}: {e.message}")

/-- The unit of a row. It makes no call if the budget is spent when its turn comes. -/
def unit (c : Catalog) (locale : Locale) (entry : FrontierEntry) : Pacer.Work (Stage Tally) :=
  fun now s =>
    if s.world.budget.exhausted then
      Stage.immediate (·.count fun t => { t with skipped := t.skipped + 1 }) now s
    else
      Stage.request (.similar entry.id locale) (c.similar · entry.id locale) (react entry) now
        (s.count fun t => { t with calls := t.calls + 1 })

/-- The report with one more level. -/
def Report.add (r : Report) (t : Tally) (batch : Pacer.Report) : Report :=
  { r with
    levelsRun := r.levelsRun + 1
    similarCalls := r.similarCalls + t.calls
    visited := r.visited + t.visited
    errors := r.errors + t.errors
    truncated := r.truncated + t.truncated
    skipped := r.skipped + (t.skipped + batch.skipped)
    storeFailures := r.storeFailures + batch.failed
    inserted := r.inserted + t.inserted }

/-- Expands the rows of one level. -/
def runLevel (c : Catalog) (o : Options) (depth : Nat) (pending : List FrontierEntry) (r : Report)
    (w : World) : Report × World :=
  let (batch, s) := Stage.run o.batchSize o.expandWindow (·.budget.exhausted)
    (pending.map (unit c o.locale)) {} w
  let t := s.tally
  (r.add t batch,
    Logged.debug .expanding
      s!"Depth {depth} done: {t.visited} visited, {t.errors} errors, {t.inserted} new at depth {depth + 1}"
      s.world)

/-- Expands a number of levels from a depth on, as long as the budget lasts. -/
def runLevels (c : Catalog) (o : Options) :
    Nat → Nat → Report → World → Except StoreError Report × World
  | 0, _, r, w => (.ok r, w)
  | levels + 1, depth, r, w =>
    match w.store.entriesAt depth .unvisited with
    | .error e => (.error e, w)
    | .ok pending =>
      if w.budget.exhausted then
        (.ok r, Logged.info .expanding s!"Already crawled {w.budget.crawled} apps, stopping ..." w)
      else
        let w := Logged.info .expanding s!"Apps at depth {depth}: {pending.length}" w
        if pending.isEmpty then runLevels c o levels (depth + 1) r w
        else
          let (r, w) := runLevel c o depth pending r w
          runLevels c o levels (depth + 1) r w

/-- Expands the levels below `maxDepth` in order. The discoveries of a level are in the store before
the next one is read. -/
def run (c : Catalog) (o : Options) (w : World) : Except StoreError Report × World :=
  match runLevels c o o.maxDepth 0 {} w with
  | (.ok r, w) => (.ok { r with budgetExhausted := w.budget.exhausted }, w)
  | (.error e, w) => (.error e, w)

end Expansion

end CatalogCrawl
