import CatalogCrawl.Crawl.Backfill
import CatalogCrawl.Crawl.Expansion
import CatalogCrawl.Crawl.Export
import CatalogCrawl.Crawl.Seeding

/-! # A whole crawl

Seeding, expansion, backfill and export, one after the other. A stage that fails is reported, and
the next one runs all the same.

Left out are two records at the debug level: the options, printed in full before the first stage,
and the summary, printed in full after the last. -/

namespace CatalogCrawl

namespace Crawl

inductive StageName where
  | seed
  | expand
  | backfill
  | save
  deriving DecidableEq, Repr

def StageName.text : StageName → String
  | .seed => "seed"
  | .expand => "expand"
  | .backfill => "backfill"
  | .save => "export"

/-- What a crawl did. A stage that failed has an empty report. -/
structure Summary where
  seed : Seeding.Report := {}
  expand : Expansion.Report := {}
  backfill : Backfill.Report := {}
  /-- How many ids were exported, if the export did not fail. -/
  exported : Option Nat := none
  /-- New rows of the frontier. -/
  crawled : Nat := 0
  failedStages : List StageName := []
  deriving DecidableEq, Repr

/-- The report of a stage, and the stage itself if it failed. -/
def settle {ρ : Type} (name : StageName) (empty : ρ) :
    Except Failure ρ × World → ρ × List StageName × World
  | (.ok r, w) => (r, [], w)
  | (.error e, w) =>
    (empty, [name], Logged.error .crawling s!"{name.text} stage failed: {e.chain}" w)

/-- A store error as the failure of a stage. -/
def ofStore {ρ : Type} : Except StoreError ρ × World → Except Failure ρ × World
  | (.ok r, w) => (.ok r, w)
  | (.error e, w) => (.error (.store e), w)

/-- What is said when the log beside a store cannot be emptied. -/
def checkpointFailure : StoreError → Failure
  | .engine f => .during "WAL checkpoint" (.rule f.message)
  | e => .during "WAL checkpoint" (.store e)

/-- Empties the log beside the store. If that fails it is only noted. -/
def checkpoint (w : World) : World :=
  match w.store.checkpoint with
  | .ok () => w
  | .error e => Logged.warn .crawling (checkpointFailure e).chain w

/-- Runs the stages with a budget of their own. The summary is not printed to the log. -/
def runStages (c : Catalog) (o : Options) (w : World) : Summary × World :=
  let w := w.fresh o.maxApps
  let w := Logged.info .crawling "Retrieving seed apps ..." w
  let (seed, w) := Seeding.run c o w
  let w := Logged.info .crawling
    s!"Retrieved seed apps: {seed.inserted} new from {seed.pages} pages ({seed.failedPages} failed)"
    w
  let (expand, failed, w) := settle .expand {} (ofStore (Expansion.run c o w))
  let w := Logged.info .crawling
    s!"Got related apps: {expand.inserted} new, {expand.visited} visited, {expand.errors} errors" w
  let w := Logged.info .crawling "Retrieving app info ..." w
  let (backfill, failed', w) := settle .backfill {} (ofStore (Backfill.run c o w))
  let w := Logged.info .crawling
    s!"Retrieved app info: {backfill.saved} saved, {backfill.fetchFailures + backfill.storeFailures} failed" w
  let w := Logged.info .crawling "Saving to CSV ..." w
  let (exported, w) := w.exportTo o.exportFilter o.exportPath
  let (exported, failed'', w) := settle .save none (exported.map fun ids => some ids.length, w)
  let w := checkpoint w
  ({ seed, expand, backfill, exported, crawled := w.budget.crawled,
     failedStages := failed ++ failed' ++ failed'' }, w)

/-- Runs a crawl if its options are valid. The options are not printed to the log. -/
def run (c : Catalog) (o : Options) (w : World) : Except Failure Summary × World :=
  match o.validate with
  | .error e => (.error e.failure, w)
  | .ok () =>
    let (summary, w) := runStages c o w
    (.ok summary, w)

end Crawl

end CatalogCrawl
