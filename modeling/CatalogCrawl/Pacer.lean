import CatalogCrawl.Log

/-! # Paced batches

Work units run in batches of bounded size on a clock that advances only while everything waits. The
units of a batch are launched in order, each running until its wait or its end before the next;
those that wait end in order of their end times, and of their places in the queue where the times
agree. The next batch starts when the last one has ended and its window has passed. A failing unit
does not disturb the others. -/

namespace CatalogCrawl.Pacer

variable {σ : Type}

/-- What is left of a unit once it is launched: a wait, and what it does at its end. The end is told
the time and gives the text of a failure, if it fails. -/
structure Pending (σ : Type) where
  delay : Nat
  finish : Nat → σ → σ × Option String

/-- A work unit: what it does at its launch, which is told the time. -/
abbrev Work (σ : Type) := Nat → σ → σ × Pending σ

/-- What can be seen of a run. -/
inductive Event where
  /-- The stop condition was looked at. -/
  | check (stop : Bool)
  | launch (unit time : Nat)
  | finish (unit time : Nat) (failure : Option String)
  deriving DecidableEq, Repr

structure Report where
  batches : Nat := 0
  succeeded : Nat := 0
  failed : Nat := 0
  skipped : Nat := 0
  deriving DecidableEq, Repr

def Report.executed (r : Report) : Nat := r.succeeded + r.failed

/-- A run so far: the state that the units share, the events and the time. -/
structure Progress (σ : Type) where
  state : σ
  now : Nat
  events : List Event := []
  report : Report := {}

/-- A launched unit that has not ended. -/
structure Waiting (σ : Type) where
  unit : Nat
  due : Nat
  finish : Nat → σ → σ × Option String

/-- Ends a unit at the present time. -/
def Progress.finish (p : Progress σ) (unit : Nat) (f : Nat → σ → σ × Option String) : Progress σ :=
  let (s, failure) := f p.now p.state
  { p with state := s, events := p.events ++ [.finish unit p.now failure] }

/-- Launches a unit, and ends it if it does not wait. -/
def Progress.launch (p : Progress σ) (unit : Nat) (work : Work σ) :
    Progress σ × Option (Waiting σ) :=
  let (s, pending) := work p.now p.state
  let p := { p with state := s, events := p.events ++ [.launch unit p.now] }
  if pending.delay = 0 then (p.finish unit pending.finish, none)
  else (p, some ⟨unit, p.now + pending.delay, pending.finish⟩)

/-- Launches the units of a batch in order. Gives those that wait. -/
def launchAll : List (Work σ × Nat) → Progress σ → Progress σ × List (Waiting σ)
  | [], p => (p, [])
  | (work, unit) :: rest, p =>
    let (p, waiting) := p.launch unit work
    let (p, more) := launchAll rest p
    (p, waiting.toList ++ more)

/-- Puts a waiting unit behind all that end no later. -/
def insertDue (w : Waiting σ) : List (Waiting σ) → List (Waiting σ)
  | [] => [w]
  | x :: xs => if w.due < x.due then w :: x :: xs else x :: insertDue w xs

/-- Waiting units by end time, those of one time in their order. -/
def sortDue (ws : List (Waiting σ)) : List (Waiting σ) := ws.foldl (fun acc w => insertDue w acc) []

/-- Lets the clock run to each end in turn. -/
def finishAll (ws : List (Waiting σ)) (p : Progress σ) : Progress σ :=
  ws.foldl (fun p w => { p with now := w.due }.finish w.unit w.finish) p

/-- How a unit ended, by the events. -/
def failureOf (unit : Nat) (events : List Event) : Option String :=
  events.findSome? fun
    | .finish u _ failure => if u = unit then failure else none
    | _ => none

/-- Counts the outcome of a unit, with a warning if it failed. -/
def Progress.settle [Logged σ] (p : Progress σ) (failure : Option String) : Progress σ :=
  match failure with
  | none => { p with report := { p.report with succeeded := p.report.succeeded + 1 } }
  | some text =>
    { p with
      state := Logged.warn .pacing s!"Work unit failed: {text}" p.state
      report := { p.report with failed := p.report.failed + 1 } }

/-- Runs a batch from the present time until all its units have ended. Failures are reported
afterwards, in the order of the queue. -/
def runBatch [Logged σ] (batch : List (Work σ × Nat)) (p : Progress σ) : Progress σ :=
  let p := { p with report := { p.report with batches := p.report.batches + 1 } }
  let (p, waiting) := launchAll batch p
  let p := finishAll (sortDue waiting) p
  batch.foldl (fun q unit => q.settle (failureOf unit.2 p.events)) p

/-- The batches of a queue. A size of 0 counts as 1. -/
def chunks {α : Type} (size : Nat) : List α → List (List α)
  | [] => []
  | x :: xs => (x :: xs.take (size - 1)) :: chunks size (xs.drop (size - 1))
termination_by xs => xs.length
decreasing_by simp only [List.length_drop, List.length_cons]; omega

/-- When the next batch starts, `window` after the start of the one before at the earliest. -/
def nextStart (window : Nat) (last : Option Nat) (now : Nat) : Nat :=
  match last with
  | some t => max now (t + window)
  | none => now

/-- Runs batches in turn. `last` is the start of the batch before. -/
def runBatches [Logged σ] (window : Nat) (stop : σ → Bool) :
    List (List (Work σ × Nat)) → Option Nat → Progress σ → Progress σ
  | [], _, p => p
  | batch :: rest, last, p =>
    let halt := stop p.state
    let p := { p with events := p.events ++ [Event.check halt] }
    if halt then
      let skipped := rest.foldl (fun count units => count + units.length) batch.length
      { p with
        state := Logged.debug .pacing s!"Stop condition met; skipped {skipped} work units" p.state
        report := { p.report with skipped } }
    else
      let start := nextStart window last p.now
      runBatches window stop rest (some start) (runBatch batch { p with now := start })

/-- Runs a queue in batches of `size`, whose starts are at least `window` apart, until the stop
condition holds between two batches. -/
def runUntil [Logged σ] (size window : Nat) (stop : σ → Bool) (units : List (Work σ)) (now : Nat)
    (s : σ) : Progress σ :=
  runBatches window stop (chunks size units.zipIdx) none { state := s, now }

/-- Runs a whole queue. -/
def run [Logged σ] (size window : Nat) (units : List (Work σ)) (now : Nat) (s : σ) : Progress σ :=
  runUntil size window (fun _ => false) units now s

/-! ## What the events show -/

/-- How often the stop condition was looked at. -/
def checks (events : List Event) : Nat :=
  events.countP fun | .check _ => true | _ => false

/-- The launches, with their times. -/
def launches (events : List Event) : List (Nat × Nat) :=
  events.filterMap fun | .launch u t => some (u, t) | _ => none

/-- The ends, with their times. -/
def ends (events : List Event) : List (Nat × Nat) :=
  events.filterMap fun | .finish u t _ => some (u, t) | _ => none

/-- How many units are launched and not ended after the events, if `n` were before. -/
def inFlight (n : Nat) : Event → Nat
  | .check _ => n
  | .launch _ _ => n + 1
  | .finish _ _ _ => n - 1

/-- The most units in flight at one time. -/
def peak (events : List Event) : Nat :=
  (events.foldl (fun (n, most) e => (inFlight n e, max most (inFlight n e))) (0, 0)).2

/-! ## Units given by their delays and outcomes -/

/-- A unit that waits and then succeeds or fails. -/
structure Timed where
  delay : Nat
  failure : Option String

/-- How many units have ended, and the log. -/
structure Tally where
  ended : Nat := 0
  log : List Log.Record := []

instance : Logged Tally where
  note r s := { s with log := s.log ++ [r] }

def Timed.work (u : Timed) : Work Tally := fun _ s =>
  (s, ⟨u.delay, fun _ s => ({ s with ended := s.ended + 1 }, u.failure)⟩)

/-- Runs timed units, stopping once `stopAt` of them have ended if that is given. -/
def runTimed (size window : Nat) (stopAt : Option Nat) (units : List Timed) : Progress Tally :=
  let stop (s : Tally) : Bool := match stopAt with
    | some n => n ≤ s.ended
    | none => false
  runUntil size window stop (units.map Timed.work) 0 {}

end CatalogCrawl.Pacer
