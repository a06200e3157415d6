import CatalogCrawl.Catalog.Basic
import CatalogCrawl.Crawl.Budget
import CatalogCrawl.Disk.Basic
import CatalogCrawl.Log.Line
import CatalogCrawl.Pacer
import CatalogCrawl.Store.Frontier
import CatalogCrawl.Store.Info

/-! # The world of a crawl

What the stages of a crawl share: the store, the budget, the clock, the calls made, the log
and the disk. Discoveries reach the frontier only through `discover` and `seedPage`, which
keep to the budget and count. Whatever is done to the store, by the crawl or by others, is a
turn of its history.

Others act on the store when an answer arrives (`Stage.receive`), all that they have done
while it was on its way at once. Between two store operations of the reaction to an answer
they do not act. -/

namespace CatalogCrawl

/-- Who acts on the store while a crawl runs. -/
inductive Writer where
  | crawl
  | others
  deriving DecidableEq, Repr

/-- An act on the store: whose it is, the store before and after it, and what the budget has
counted by then. -/
structure Turn where
  writer : Writer
  before : Store
  after : Store
  crawled : Nat

/-- Turns in order. -/
abbrev History := List Turn

structure World where
  store : Store
  budget : Budget
  /-- What has been done to the store since the run began. -/
  turns : History := []
  /-- The time, in milliseconds. -/
  now : Nat := 0
  /-- The calls, with the times they were made. -/
  calls : List (Nat × Call) := []
  log : List Log.Record := []
  /-- How log lines are written to the file that is held open. -/
  style : Log.Style := {}
  disk : Disk := { cwd := [] }

instance : Logged World where
  note r w := { w with log := w.log ++ [r], disk := w.disk.appendHeld (w.style.render [r]) }

/-- What became of a discovered item. -/
inductive Discovery where
  /-- It is a new row and has been counted. -/
  | inserted
  /-- It was there already. -/
  | known
  /-- The budget is spent. Nothing was written. -/
  | overBudget
  deriving DecidableEq, Repr

namespace World

/-- The world at the start of a run with a budget of its own. -/
def fresh (limit : Nat) (w : World) : World := { w with budget := { limit }, turns := [] }

/-- Takes a turn, which leaves the store and the budget as given. -/
def turn (writer : Writer) (store : Store) (budget : Budget) (w : World) : World :=
  { w with store, budget, turns := w.turns ++ [⟨writer, w.store, store, budget.crawled⟩] }

/-- Offers an item to the frontier. -/
def discover (id : String) (depth : Nat) (snapshot : Json) (w : World) :
    Except StoreError Discovery × World :=
  if w.budget.exhausted then (.ok .overBudget, w)
  else match w.store.insertIfAbsent id depth snapshot with
    | (.ok true, s) => (.ok .inserted, w.turn .crawl s (w.budget.spend 1))
    | (.ok false, s) => (.ok .known, w.turn .crawl s w.budget)
    | (.error e, s) => (.error e, w.turn .crawl s w.budget)

/-- Adds a listing page at depth 0, cut to what the budget leaves. Gives the number of new rows. -/
def seedPage (items : List Item) (w : World) : Except StoreError Nat × World :=
  let page := items.take w.budget.remaining
  if page.isEmpty then (.ok 0, w)
  else match w.store.insertPage page with
    | (.ok n, s) => (.ok n, w.turn .crawl s (w.budget.spend n))
    | (.error e, s) => (.error e, w.turn .crawl s w.budget)

/-- Carries out a store operation that is no discovery. -/
def write {α : Type} (f : Store.Action α) (w : World) : Except StoreError α × World :=
  let (r, s) := f w.store
  (r, w.turn .crawl s w.budget)

/-- Lets others act on the store. -/
def yield (f : Store → Store) (w : World) : World := w.turn .others (f w.store) w.budget

/-- Notes a call. -/
def call (now : Nat) (c : Call) (w : World) : World := { w with calls := w.calls ++ [(now, c)] }

end World

/-- A world with the tally of a running stage. -/
structure Stage (τ : Type) where
  world : World
  tally : τ

namespace Stage

variable {τ : Type}

instance : Logged (Stage τ) where
  note r s := { s with world := Logged.note r s.world }

/-- Counts something. -/
def count (f : τ → τ) (s : Stage τ) : Stage τ := { s with tally := f s.tally }

/-- Carries out a store operation on the world. -/
def lift {ε α : Type} (f : World → Except ε α × World) (s : Stage τ) : Except ε α × Stage τ :=
  let (r, w) := f s.world
  (r, { s with world := w })

/-- Carries out a store operation. -/
def onStore {α : Type} (f : Store.Action α) : Stage τ → Except StoreError α × Stage τ :=
  lift (World.write f)

/-- An answer arrives: others have written to the store, and there may be something to note. This is
the only moment at which others act; what they do while a reaction is at work is taken to be done
before it or after it. -/
def receive {α : Type} (answer : Answer α) (s : Stage τ) : Stage τ :=
  Logged.noteAll answer.received { s with world := s.world.yield answer.meanwhile }

/-- A unit that makes one call and reacts to its outcome. The reaction gives the text of a failure,
if it fails. -/
def request {α : Type} (c : Call) (ask : Nat → Answer α)
    (react : Except FetchError α → Stage τ → Stage τ × Option String) : Pacer.Work (Stage τ) :=
  fun now s =>
    let answer := ask s.world.calls.length
    let s := { s with world := s.world.call now c }
    (Logged.noteAll answer.sent s,
      { delay := answer.delay, finish := fun _ s => react answer.outcome (s.receive answer) })

/-- A unit that does nothing but at its launch. -/
def immediate (f : Stage τ → Stage τ) : Pacer.Work (Stage τ) :=
  fun _ s => (f s, { delay := 0, finish := fun _ s => (s, none) })

/-- Runs the units of a stage from the present time on, until `stop` holds between two batches. -/
def run (size window : Nat) (stop : World → Bool) (units : List (Pacer.Work (Stage τ))) (tally : τ)
    (w : World) : Pacer.Report × Stage τ :=
  let p := Pacer.runUntil size window (fun s => stop s.world) units w.now (⟨w, tally⟩ : Stage τ)
  (p.report, { p.state with world := { p.state.world with now := p.now } })

end Stage

end CatalogCrawl
