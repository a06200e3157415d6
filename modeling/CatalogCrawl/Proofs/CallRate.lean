import CatalogCrawl.Proofs.ExpansionRun
import CatalogCrawl.Proofs.PacedRuns
import CatalogCrawl.Proofs.UnitEndings
import Mathlib.Logic.Relation
import Mathlib.Tactic.Choose

/-! # The rate of the calls

A run of a queue is a sequence of small advances (`Pacer.Advance`), of which only launches and ends
let the units act. So what a run adds to a list that grows at launches only is what its launches
add, in their order (`Advances.emits`). The calls of an expansion are such a list. Each level is a
run of its own, so that the bound on the launches within a window's time holds for the calls of one
level. It is not a bound for the expansion as a whole, where as many calls can fall together as
there are levels at hand (`Expansion.run_call_rate`). -/

namespace CatalogCrawl

namespace Pacer

variable {σ γ : Type} [Logged σ] {queue : List (Work σ × Nat)} {p p' : Progress σ}

/-- One thing that happens in a run of a queue. -/
inductive Advance (queue : List (Work σ × Nat)) : Progress σ → Progress σ → Prop
  | note (r : Log.Record) (p : Progress σ) :
      Advance queue p { p with state := Logged.note r p.state }
  | report (report : Report) (p : Progress σ) : Advance queue p { p with report }
  | clock (now : Nat) (p : Progress σ) : Advance queue p { p with now }
  | check (stop : Bool) (p : Progress σ) :
      Advance queue p { p with events := p.events ++ [.check stop] }
  | launch {work : Work σ} {u : Nat} (hqueue : (work, u) ∈ queue) (p : Progress σ) :
      Advance queue p
        { p with state := (work p.now p.state).1, events := p.events ++ [.launch u p.now] }
  | finish {work : Work σ} {u : Nat} (hqueue : (work, u) ∈ queue) (now : Nat) (s : σ)
      (p : Progress σ) : Advance queue p (p.finish u (work now s).2.finish)

abbrev Advances (queue : List (Work σ × Nat)) := Relation.ReflTransGen (Advance queue)

/-- A unit of the queue that waits. -/
def Queued (queue : List (Work σ × Nat)) (w : Waiting σ) : Prop :=
  ∃ work now s, (work, w.unit) ∈ queue ∧ w.finish = (work now s).2.finish

theorem launchAll_advances {batch : List (Work σ × Nat)} (hbatch : batch ⊆ queue) (p : Progress σ) :
    Advances queue p (launchAll batch p).1 ∧ ∀ w ∈ (launchAll batch p).2, Queued queue w := by
  induction batch generalizing p with
  | nil => exact ⟨.refl, nofun⟩
  | cons b rest ih =>
    obtain ⟨work, u⟩ := b
    obtain ⟨hb, hrest⟩ := List.cons_subset.mp hbatch
    have hlaunch := Advance.launch hb p
    simp only [launchAll, Progress.launch]
    split
    · obtain ⟨hmore, hqueued⟩ := ih hrest (Progress.finish _ u (work p.now p.state).2.finish)
      exact ⟨.head hlaunch (.head (.finish hb p.now p.state _) hmore), hqueued⟩
    · obtain ⟨hmore, hqueued⟩ := ih hrest _
      refine ⟨.head hlaunch hmore, ?_⟩
      intro w hw
      rcases List.mem_cons.mp hw with rfl | hw
      · exact ⟨work, p.now, p.state, hb, rfl⟩
      · exact hqueued w hw

theorem finishAll_advances {ws : List (Waiting σ)} (hws : ∀ w ∈ ws, Queued queue w)
    (p : Progress σ) : Advances queue p (finishAll ws p) := by
  induction ws generalizing p with
  | nil => exact .refl
  | cons w ws ih =>
    obtain ⟨⟨work, now, s, hw, heq⟩, hws⟩ := List.forall_mem_cons.mp hws
    have hfinish := Advance.finish hw now s { p with now := w.due }
    rw [← heq] at hfinish
    exact .head (.clock w.due p) (.head hfinish (ih hws _))

/-- To settle a batch is to note and to count. -/
theorem foldl_settle_advances (queue : List (Work σ × Nat)) {α : Type} (failure : α → Option String)
    (xs : List α) (p : Progress σ) :
    Advances queue p (xs.foldl (fun q x => q.settle (failure x)) p) := by
  induction xs generalizing p with
  | nil => exact .refl
  | cons x xs ih =>
    refine Relation.ReflTransGen.trans ?_ (ih (p.settle (failure x)))
    cases hx : failure x with
    | none => exact .single (.report _ p)
    | some text => exact .head (.note _ p) (.single (.report _ _))

theorem runBatch_advances {batch : List (Work σ × Nat)} (hbatch : batch ⊆ queue) (p : Progress σ) :
    Advances queue p (runBatch batch p) := by
  let begun := { p with report := { p.report with batches := p.report.batches + 1 } }
  obtain ⟨hlaunched, hqueued⟩ := launchAll_advances hbatch begun
  have hended := finishAll_advances (fun w hw => hqueued w ((sortDue_perm _).subset hw))
    (launchAll batch begun).1
  exact .head (.report _ p) (hlaunched.trans (hended.trans (foldl_settle_advances queue _ batch _)))

/-- Batches advance through the queue that their units are from. -/
theorem runBatches_advances (window : Nat) (stop : σ → Bool) {batches : List (List (Work σ × Nat))}
    (hbatches : batches.flatten ⊆ queue) (last : Option Nat) (p : Progress σ) :
    Advances queue p (runBatches window stop batches last p) := by
  induction batches generalizing last p with
  | nil => exact .refl
  | cons batch rest ih =>
    rw [List.flatten_cons] at hbatches
    unfold runBatches
    refine .head (.check (stop p.state) p) ?_
    dsimp only
    split
    · exact .head (.note _ _) (.single (.report _ _))
    · refine .head (.clock _ _) (.trans (runBatch_advances ?_ _) (ih ?_ _ _))
      · exact fun b hb => hbatches (List.mem_append_left _ hb)
      · exact fun b hb => hbatches (List.mem_append_right _ hb)

/-- A run advances through its queue. -/
theorem runUntil_advances (size window : Nat) (stop : σ → Bool) (units : List (Work σ)) (now : Nat)
    (s : σ) :
    Advances units.zipIdx { state := s, now } (runUntil size window stop units now s) := by
  refine runBatches_advances window stop ?_ none _
  rw [flatten_chunks]
  exact List.Subset.refl _

/-- What a run adds to a list that grows at launches only, by at most one thing that is of the time
of the launch. -/
theorem Advances.emits (seen : σ → List γ) (time : γ → Nat) (Q : γ → Prop)
    (hnote : ∀ r s, seen (Logged.note r s) = seen s)
    (hlaunch : ∀ b ∈ queue, ∀ now s, ∃ out, seen (b.1 now s).1 = seen s ++ out ∧
      (out.map time).Sublist [now] ∧ ∀ x ∈ out, Q x)
    (hfinish : ∀ b ∈ queue, ∀ start s₀ now s, seen ((b.1 start s₀).2.finish now s).1 = seen s)
    (h : Advances queue p p') :
    ∃ more new, launches p'.events = launches p.events ++ more ∧
      seen p'.state = seen p.state ++ new ∧ (new.map time).Sublist (more.map (·.2)) ∧
        ∀ x ∈ new, Q x := by
  induction h with
  | refl => exact ⟨[], [], by simp, by simp, .slnil, nofun⟩
  | @tail q _ _ hstep ih =>
    obtain ⟨more, new, hlaunches, hseen, htimes, hnew⟩ := ih
    cases hstep with
    | note r => exact ⟨more, new, hlaunches, by rw [hnote, hseen], htimes, hnew⟩
    | report | clock => exact ⟨more, new, hlaunches, hseen, htimes, hnew⟩
    | check => exact ⟨more, new, by simpa [launches] using hlaunches, hseen, htimes, hnew⟩
    | @launch work u hqueue =>
      obtain ⟨out, hout, htime, hown⟩ := hlaunch _ hqueue q.now q.state
      refine ⟨more ++ [(u, q.now)], new ++ out, ?_, ?_, ?_, ?_⟩
      · rw [launches_append, hlaunches, List.append_assoc]
        rfl
      · rw [hout, hseen, List.append_assoc]
      · rw [List.map_append, List.map_append]
        exact htimes.append htime
      · exact List.forall_mem_append.mpr ⟨hnew, hown⟩
    | finish hqueue now s =>
      refine ⟨more, new, ?_, ?_, htimes, hnew⟩
      · simpa [Progress.finish, launches] using hlaunches
      · rw [← hseen]
        exact hfinish _ hqueue now s q.now q.state

end Pacer

namespace Stage

variable {α τ : Type} {call : Call} {ask : Nat → Answer α}
  {react : Except FetchError α → Stage τ → Stage τ × Option String}

theorem calls_request (now : Nat) (s : Stage τ) :
    (request call ask react now s).1.world.calls = s.world.calls ++ [(now, call)] :=
  (noteAll_cases _ _).2.2

/-- When a unit ends it makes no call, if its reaction makes none. -/
theorem calls_request_finish (h : ∀ outcome s, (react outcome s).1.world.calls = s.world.calls)
    (start : Nat) (s₀ : Stage τ) (now : Nat) (s : Stage τ) :
    ((request call ask react start s₀).2.finish now s).1.world.calls = s.world.calls :=
  (h _ _).trans (calls_receive _ s)

end Stage

namespace Expansion

open Pacer

/-- Calls for the rows of a level, as they were when it was read. -/
structure LevelCalls (o : Options) (depth : Nat) (read : World)
    (calls : List (Nat × Call)) : Prop where
  rows : ∀ x ∈ calls, ∃ r ∈ read.store.level depth, x.2 = .similar r.id o.locale
  rate : ∀ t, calls.countP (fun x => t ≤ x.1 ∧ x.1 < t + o.expandWindow) ≤ max o.batchSize 1

theorem LevelCalls.nil {o : Options} {depth : Nat} {read : World} : LevelCalls o depth read [] :=
  ⟨List.forall_mem_nil _, fun _ => Nat.zero_le _⟩

/-- At its launch a unit makes the call for its row, or none. -/
theorem unit_calls (c : Catalog) (locale : Locale) (e : FrontierEntry) (now : Nat)
    (s : Stage Tally) :
    ∃ out, (unit c locale e now s).1.world.calls = s.world.calls ++ out ∧
      out.Sublist [(now, .similar e.id locale)] := by
  unfold unit
  split
  · exact ⟨[], by simp [Stage.immediate, Stage.count], List.nil_sublist _⟩
  · exact ⟨_, Stage.calls_request _ _, List.Sublist.refl _⟩

/-- At its end it makes no call. -/
theorem unit_finish_calls (c : Catalog) (locale : Locale) (e : FrontierEntry) (start : Nat)
    (s₀ : Stage Tally) (now : Nat) (s : Stage Tally) :
    ((unit c locale e start s₀).2.finish now s).1.world.calls = s.world.calls := by
  unfold unit
  split
  · rfl
  · exact Stage.calls_request_finish (fun _ _ => (react_ending e _ _).calls) _ _ _ _

/-- The calls of a level are for its rows, in any window's time no more than a batch of them. -/
theorem runLevel_calls (c : Catalog) (o : Options) (depth : Nat) (pending : List FrontierEntry)
    (r : Report) (w : World) :
    ∃ calls, (runLevel c o depth pending r w).2.calls = w.calls ++ calls ∧
      (∀ x ∈ calls, ∃ e ∈ pending, x.2 = .similar e.id o.locale) ∧
      ∀ t, calls.countP (fun x => t ≤ x.1 ∧ x.1 < t + o.expandWindow) ≤ max o.batchSize 1 := by
  have hunit {b : Work (Stage Tally) × Nat} (hb : b ∈ (pending.map (unit c o.locale)).zipIdx) :
      ∃ e ∈ pending, unit c o.locale e = b.1 :=
    List.mem_map.mp (List.fst_mem_of_mem_zipIdx hb)
  obtain ⟨more, calls, hlaunches, hcalls, htimes, hown⟩ :=
    (runUntil_advances o.batchSize o.expandWindow
      (fun s => s.world.budget.exhausted) (pending.map (unit c o.locale)) w.now ⟨w, {}⟩).emits
    (fun s => s.world.calls) Prod.fst (fun x => ∃ e ∈ pending, x.2 = .similar e.id o.locale)
    (fun _ _ => rfl)
    (fun b hb now s => by
      obtain ⟨e, he, heq⟩ := hunit hb
      obtain ⟨out, hout, hsub⟩ := unit_calls c o.locale e now s
      rw [heq] at hout
      refine ⟨out, hout, hsub.map Prod.fst, fun x hx => ⟨e, he, ?_⟩⟩
      rw [List.mem_singleton.mp (hsub.subset hx)])
    (fun b hb start s₀ now s => by
      obtain ⟨e, -, heq⟩ := hunit hb
      rw [← heq]
      exact unit_finish_calls c o.locale e start s₀ now s)
  refine ⟨calls, hcalls, hown, fun t => ?_⟩
  have hrate := countP_launches_runUntil_le o.batchSize o.expandWindow
    (fun s : Stage Tally => s.world.budget.exhausted) (pending.map (unit c o.locale)) w.now
      ⟨w, {}⟩ t
  have hcount := htimes.countP_le (p := fun x => decide (t ≤ x ∧ x < t + o.expandWindow))
  rw [List.countP_map, List.countP_map] at hcount
  rw [hlaunches] at hrate
  exact Nat.le_trans hcount hrate

/-- What comes next, however many levels are left: either nothing, or the level and then
those below it. -/
theorem runLevels_succ (c : Catalog) (o : Options) (depth : Nat) (r : Report) (w : World) :
    (∃ res u, (∀ levels, runLevels c o (levels + 1) depth r w = (res, u)) ∧ u.calls = w.calls) ∨
      ∃ r' w',
        (∀ levels, runLevels c o (levels + 1) depth r w = runLevels c o levels (depth + 1) r' w') ∧
        ∃ calls, w'.calls = w.calls ++ calls ∧ LevelCalls o depth w calls := by
  simp only [runLevels]
  cases hread : w.store.entriesAt depth .unvisited with
  | error e => exact .inl ⟨_, w, fun _ => rfl, rfl⟩
  | ok pending =>
    dsimp only
    split
    · exact .inl ⟨_, _, fun _ => rfl, rfl⟩
    · split
      · exact .inr ⟨r, _, fun _ => rfl, [], (List.append_nil _).symm, .nil⟩
      · obtain ⟨calls, hcalls, hown, hrate⟩ := runLevel_calls c o depth pending r
          (Logged.info .expanding s!"Apps at depth {depth}: {pending.length}" w)
        refine .inr ⟨_, _, fun _ => rfl, calls, hcalls, fun x hx => ?_, hrate⟩
        obtain ⟨e, he, hx⟩ := hown x hx
        have hid : e.id ∈ (w.store.level depth).map (·.id) := by
          rw [← (Store.entriesAt_eq_ok hread).2.1]
          exact List.mem_map_of_mem he
        obtain ⟨row, hrow, hid⟩ := List.mem_map.mp hid
        exact ⟨row, hrow, hid ▸ hx⟩

/-- What one level more adds. -/
theorem runLevels_succ_calls (c : Catalog) (o : Options) (levels depth : Nat) (r : Report)
    (w : World) :
    ∃ calls, (runLevels c o (levels + 1) depth r w).2.calls =
        (runLevels c o levels depth r w).2.calls ++ calls ∧
      LevelCalls o (depth + levels) (runLevels c o levels depth r w).2 calls := by
  induction levels generalizing depth r w with
  | zero =>
    rcases runLevels_succ c o depth r w with
      ⟨res, u, hends, hcalls⟩ | ⟨r', w', hnext, calls, hcalls, hown⟩
    · refine ⟨[], ?_, .nil⟩
      rw [hends, List.append_nil]
      exact hcalls
    · refine ⟨calls, ?_, hown⟩
      rw [hnext]
      exact hcalls
  | succ levels ih =>
    rcases runLevels_succ c o depth r w with ⟨res, u, hends, -⟩ | ⟨r', w', hnext, -⟩
    · refine ⟨[], ?_, .nil⟩
      rw [hends, hends, List.append_nil]
    · have hdepth : depth + (levels + 1) = depth + 1 + levels := by omega
      rw [hnext, hnext, hdepth]
      exact ih (depth + 1) r' w'

/-- A bound for each part gives a bound for the whole, by the number of parts that have any. -/
theorem countP_flatMap_le {α γ : Type} {f : α → List γ} {bound : Nat} (xs : List α) (q : γ → Bool)
    (h : ∀ x ∈ xs, (f x).countP q ≤ bound) :
    (xs.flatMap f).countP q ≤ bound * xs.countP (fun x => (f x).any q) := by
  induction xs with
  | nil => exact Nat.zero_le _
  | cons x xs ih =>
    obtain ⟨hx, hxs⟩ := List.forall_mem_cons.mp h
    rw [List.flatMap_cons, List.countP_append, List.countP_cons]
    have hrest := ih hxs
    by_cases hany : (f x).any q
    · rw [if_pos hany, Nat.mul_succ]
      omega
    · have hnone : (f x).countP q = 0 := by
        refine List.countP_eq_zero.mpr fun y hy hq => hany ?_
        exact List.any_eq_true.mpr ⟨y, hy, hq⟩
      rw [if_neg hany, Nat.add_zero]
      omega

/-- **The rate of the calls.** Each level makes its calls for rows that are unvisited when it is
read, at most as many as a batch has units in a window's time. So an expansion makes at most as many
in a window's time for each level that has a call within it. -/
theorem run_call_rate (c : Catalog) (o : Options) (w : World) :
    ∃ calls : Nat → List (Nat × Call),
      (∀ d, (runLevels c o (d + 1) 0 {} w).2.calls = (runLevels c o d 0 {} w).2.calls ++ calls d ∧
        LevelCalls o d (runLevels c o d 0 {} w).2 (calls d)) ∧
      (run c o w).2.calls = w.calls ++ (List.range o.maxDepth).flatMap calls ∧
      ∀ t, ((List.range o.maxDepth).flatMap calls).countP
        (fun x => t ≤ x.1 ∧ x.1 < t + o.expandWindow) ≤
        max o.batchSize 1 * (List.range o.maxDepth).countP fun d =>
          (calls d).any fun x => t ≤ x.1 ∧ x.1 < t + o.expandWindow := by
  choose calls hcalls hlevel using fun d => runLevels_succ_calls c o d 0 {} w
  simp only [Nat.zero_add] at hlevel
  have hfirst (n : Nat) :
      (runLevels c o n 0 {} w).2.calls = w.calls ++ (List.range n).flatMap calls := by
    induction n with
    | zero => simp [runLevels]
    | succ n ih =>
      rw [hcalls, ih, List.append_assoc, List.range_succ, List.flatMap_append,
        List.flatMap_singleton]
  refine ⟨calls, fun d => ⟨hcalls d, hlevel d⟩, ?_, fun t => ?_⟩
  · rw [← hfirst, run]
    split <;> next heq => rw [heq]
  · exact countP_flatMap_le _ _ fun d _ => (hlevel d).rate t

/-- The first call for a row found at one level follows the last call of the level
before at once. -/
theorem run_call_rate_unbounded :
    ¬ ∀ (c : Catalog) (o : Options) (w : World) (t : Nat), 1 ≤ o.batchSize → 1 ≤ o.expandWindow →
      w.calls = [] → (run c o w).2.calls.countP (fun x => t ≤ x.1 ∧ x.1 < t + o.expandWindow) ≤
        o.batchSize := by
  intro h
  have hone := h (.answering .sample fun _ => 0) { batchSize := 1, maxDepth := 2 }
    { store := .seeded, budget := ⟨9, 0⟩ } 0 (by decide) (by decide) rfl
  revert hone
  decide +kernel

end Expansion

end CatalogCrawl
