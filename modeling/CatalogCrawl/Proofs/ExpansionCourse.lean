import CatalogCrawl.Crawl.Expansion
import CatalogCrawl.Proofs.Interleaving
import Mathlib.Data.List.ReduceOption

/-! # The course of an expansion

An expansion seen as one thing happening after the other, whatever the delays. Levels are read
while nothing is under way; the rows of a level have their turns in order, and each has a call
made for it or is skipped; answers come in any order, and with each the unit of its row ends
(`Expansion.Move`). Every expansion takes such a course, on every store and with every
catalog, and ends with nothing under way (`Expansion.run_course`). What each move keeps
therefore holds throughout (`Course.keeps`). -/

namespace CatalogCrawl.Expansion

/-! ## Moves -/

/-- What can be seen of an expansion. -/
inductive Event where
  /-- The unvisited rows of a depth are read. -/
  | read (depth : Nat) (w : World)
  /-- A call is made for a row. -/
  | call (entry : FrontierEntry) (w : World)
  /-- The unit of a row ends, from the moment its answer has arrived on. The answer is that to the
  call with the given number. -/
  | settle (entry : FrontierEntry) (number : Nat) (arrival ended : Stage Tally)
      (failure : Option String)

/-- The rows for which calls were made. -/
def called (events : List Event) : List FrontierEntry :=
  events.filterMap fun | .call e _ => some e | _ => none

/-- The rows whose units have failed. -/
def failed (events : List Event) : List FrontierEntry :=
  events.filterMap fun | .settle e _ _ _ (some _) => some e | _ => none

section
variable (events new : List Event) (e : FrontierEntry) (d n : Nat) (w : World) (s s' : Stage Tally)

@[simp] theorem called_append : called (events ++ new) = called events ++ called new :=
  List.filterMap_append

@[simp] theorem called_nil : called [] = [] := rfl

@[simp] theorem called_read : called [.read d w] = [] := rfl

@[simp] theorem called_call : called [.call e w] = [e] := rfl

@[simp] theorem called_settle (failure : Option String) : called [.settle e n s s' failure] = [] :=
  rfl

@[simp] theorem failed_append : failed (events ++ new) = failed events ++ failed new :=
  List.filterMap_append

@[simp] theorem failed_read : failed [.read d w] = [] := rfl

@[simp] theorem failed_call : failed [.call e w] = [] := rfl

@[simp] theorem failed_settle (failure : Option String) :
    failed [.settle e n s s' failure] = if failure.isSome then [e] else [] := by
  cases failure <;> rfl

end

/-- Where an expansion stands. -/
structure Moment where
  /-- The next level to be read. -/
  depth : Nat := 0
  /-- The rows whose turns are to come. -/
  queue : List FrontierEntry := []
  /-- The rows whose answers are on their way, with the numbers of the calls. -/
  flight : List (FrontierEntry × Nat) := []
  stage : Stage Tally

/-- What can happen next, and what is seen of it. -/
inductive Move (c : Catalog) (o : Options) : Moment → List Event → Moment → Prop
  | note (r : Log.Record) (k : Moment) : Move c o k [] { k with stage := Logged.note r k.stage }
  | clock (now : Nat) (k : Moment) :
      Move c o k [] { k with stage := { k.stage with world := { k.stage.world with now } } }
  | read {d : Nat} {s : Stage Tally} {pending : List FrontierEntry} (hd : d < o.maxDepth)
      (hread : s.world.store.entriesAt d .unvisited = .ok pending)
      (hroom : s.world.budget.exhausted = false) :
      Move c o ⟨d, [], [], s⟩ [.read d s.world] ⟨d + 1, pending, [], ⟨s.world, {}⟩⟩
  | skip {d : Nat} {e : FrontierEntry} {q : List FrontierEntry} {fl : List (FrontierEntry × Nat)}
      {s : Stage Tally} (hspent : s.world.budget.exhausted = true) :
      Move c o ⟨d, e :: q, fl, s⟩ []
        ⟨d, q, fl, s.count fun t => { t with skipped := t.skipped + 1 }⟩
  | call {d : Nat} {e : FrontierEntry} {q : List FrontierEntry} {fl : List (FrontierEntry × Nat)}
      {s : Stage Tally} (now : Nat) (hroom : s.world.budget.exhausted = false) :
      Move c o ⟨d, e :: q, fl, s⟩ [.call e s.world]
        ⟨d, q, fl ++ [(e, s.world.calls.length)],
          ⟨s.world.call now (.similar e.id o.locale), { s.tally with calls := s.tally.calls + 1 }⟩⟩
  | settle {d n : Nat} {e : FrontierEntry} {q : List FrontierEntry}
      {fl fl' : List (FrontierEntry × Nat)} {s s' : Stage Tally} {failure : Option String}
      (hreact : react e (c.similar n e.id o.locale).outcome
        (s.receive (c.similar n e.id o.locale)) = (s', failure)) :
      Move c o ⟨d, q, fl ++ (e, n) :: fl', s⟩
        [.settle e n (s.receive (c.similar n e.id o.locale)) s' failure] ⟨d, q, fl ++ fl', s'⟩
  /-- The rest of a level is dropped. -/
  | stop {d : Nat} {q : List FrontierEntry} {s : Stage Tally}
      (hspent : s.world.budget.exhausted = true) : Move c o ⟨d, q, [], s⟩ [] ⟨d, [], [], s⟩

/-- What has been seen from the beginning of an expansion to a moment. -/
inductive Course (c : Catalog) (o : Options) (w : World) : List Event → Moment → Prop
  | start : Course c o w [] { stage := ⟨w, {}⟩ }
  | move {events new : List Event} {k k' : Moment} (h : Course c o w events k)
      (hmove : Move c o k new k') : Course c o w (events ++ new) k'

/-- What has been seen from a world to another in which nothing is under way. -/
def Leads (c : Catalog) (o : Options) (w : World) (events : List Event) (w' : World) : Prop :=
  ∃ k, Course c o w events k ∧ k.queue = [] ∧ k.flight = [] ∧ k.stage.world = w'

variable {c : Catalog} {o : Options} {w : World} {events : List Event} {k : Moment}

namespace Course

/-- What each move keeps holds throughout. -/
theorem keeps {I : List Event → Moment → Prop} (hstart : I [] { stage := ⟨w, {}⟩ })
    (hmove : ∀ {events new k k'}, Move c o k new k' → I events k → I (events ++ new) k')
    (h : Course c o w events k) : I events k := by
  induction h with
  | start => exact hstart
  | move _ hm ih => exact hmove hm ih

/-- A move of which nothing is seen. -/
theorem silent {k' : Moment} (h : Course c o w events k) (hmove : Move c o k [] k') :
    Course c o w events k' := by
  simpa using h.move hmove

theorem noteAll (rs : List Log.Record) (h : Course c o w events k) :
    Course c o w events { k with stage := Logged.noteAll rs k.stage } := by
  induction rs generalizing k with
  | nil => exact h
  | cons r rs ih => exact ih (h.silent (.note r k))

/-- A unit has ended by its reaction to the answer. -/
theorem reacts (h : Course c o w events k) {e : FrontierEntry} {n : Nat}
    {arrival ended : Stage Tally}
    {failure : Option String} (hevent : .settle e n arrival ended failure ∈ events) :
    react e (c.similar n e.id o.locale).outcome arrival = (ended, failure) := by
  refine keeps (I := fun events _ => .settle e n arrival ended failure ∈ events →
    react e (c.similar n e.id o.locale).outcome arrival = (ended, failure)) nofun ?_ h hevent
  intro events new k k' hmove ih hevent
  rcases List.mem_append.mp hevent with hold | hnew
  · exact ih hold
  · cases hmove with
    | note | clock | skip | stop => cases hnew
    | read | call => cases List.mem_singleton.mp hnew
    | settle hreact =>
      cases List.mem_singleton.mp hnew
      exact hreact

/-- A call has been settled, or its answer is on its way. -/
theorem settled (h : Course c o w events k) {e : FrontierEntry} {u : World}
    (hevent : .call e u ∈ events) :
    (e, u.calls.length) ∈ k.flight ∨ ∃ arrival ended failure,
      .settle e u.calls.length arrival ended failure ∈ events := by
  refine keeps (I := fun events k => .call e u ∈ events →
    (e, u.calls.length) ∈ k.flight ∨ ∃ arrival ended failure,
      .settle e u.calls.length arrival ended failure ∈ events) nofun ?_ h hevent
  intro events new k k' hmove ih hevent
  -- what was settled before is settled
  have hold (hpast : .call e u ∈ events) : (e, u.calls.length) ∈ k.flight ∨ ∃ arrival ended failure,
      .settle e u.calls.length arrival ended failure ∈ events ++ new :=
    (ih hpast).imp_right fun ⟨arrival, ended, failure, hmem⟩ =>
      ⟨arrival, ended, failure, List.mem_append_left _ hmem⟩
  rcases List.mem_append.mp hevent with hpast | hnew
  · cases hmove with
    | note | clock | skip | stop | read => exact hold hpast
    | call => exact (hold hpast).imp_left (List.mem_append_left _)
    | @settle _ n e' _ fl fl' =>
      rcases hold hpast with hflight | hdone
      · rcases List.mem_append.mp hflight with hflight | hflight
        · exact .inl (List.mem_append_left _ hflight)
        · rcases List.mem_cons.mp hflight with heq | hflight
          · cases heq
            exact .inr ⟨_, _, _, List.mem_append_right _ List.mem_cons_self⟩
          · exact .inl (List.mem_append_right _ hflight)
      · exact .inr hdone
  · cases hmove with
    | note | clock | skip | stop => cases hnew
    | read | settle => cases List.mem_singleton.mp hnew
    | call =>
      cases List.mem_singleton.mp hnew
      exact .inl (List.mem_append_right _ List.mem_cons_self)

end Course

/-! ## The course of a level -/

/-- How a launched unit ends: with the answer to its call, or with nothing if it was skipped. -/
def ends (c : Catalog) (locale : Locale) :
    Option (FrontierEntry × Nat) → Nat → Stage Tally → Stage Tally × Option String
  | some (e, n), _, s =>
    react e (c.similar n e.id locale).outcome (s.receive (c.similar n e.id locale))
  | none, _, s => (s, none)

/-- Some course has led to the given moment of a level, with so many failures beside
earlier ones. -/
def Underway (c : Catalog) (o : Options) (w : World) (d earlier : Nat) (q : List FrontierEntry)
    (fl : List (Option (FrontierEntry × Nat))) (n : Nat) (s : Stage Tally) : Prop :=
  ∃ events, Course c o w events ⟨d, q, fl.reduceOption, s⟩ ∧ (failed events).length = earlier + n

/-- A launch is a move of the course: a call, or a skip if the budget is spent. The
ticket says which. -/
theorem Underway.launch {d earlier n : Nat} {e : FrontierEntry} {q : List FrontierEntry}
    {fl : List (Option (FrontierEntry × Nat))} {s : Stage Tally} (now : Nat)
    (h : Underway c o w d earlier (e :: q) fl n s) :
    ∃ b, (unit c o.locale e now s).2.finish = ends c o.locale b ∧
      Underway c o w d earlier q (fl ++ [b]) n (unit c o.locale e now s).1 := by
  obtain ⟨events, hcourse, hn⟩ := h
  unfold unit
  split
  · next hspent =>
    refine ⟨none, rfl, events, ?_, hn⟩
    rw [List.reduceOption_append, List.reduceOption_singleton, Option.toList_none, List.append_nil]
    exact hcourse.silent (.skip hspent)
  · next hroom =>
    let answer := c.similar s.world.calls.length e.id o.locale
    refine ⟨some (e, s.world.calls.length), rfl, events ++ [.call e s.world], ?_, ?_⟩
    · rw [List.reduceOption_append, List.reduceOption_singleton]
      exact (hcourse.move (.call now (Bool.eq_false_iff.mpr hroom))).noteAll answer.sent
    · rw [failed_append, failed_call, List.append_nil]
      exact hn

/-- The end of a unit that has made a call is a move too, and is counted if it failed. -/
theorem Underway.finish {d earlier n : Nat} {q : List FrontierEntry}
    {fl fl' : List (Option (FrontierEntry × Nat))} {b : Option (FrontierEntry × Nat)}
    {s : Stage Tally} (now : Nat) (h : Underway c o w d earlier q (fl ++ b :: fl') n s) :
    Underway c o w d earlier q (fl ++ fl')
      (n + if (ends c o.locale b now s).2.isSome then 1 else 0) (ends c o.locale b now s).1 := by
  obtain ⟨events, hcourse, hn⟩ := h
  rw [List.reduceOption_append] at hcourse
  cases b with
  | none =>
    refine ⟨events, ?_, by simpa [ends] using hn⟩
    rw [List.reduceOption_append]
    exact hcourse
  | some b =>
    obtain ⟨e, number⟩ := b
    rw [List.reduceOption_cons_of_some] at hcourse
    let arrival := s.receive (c.similar number e.id o.locale)
    let ended := react e (c.similar number e.id o.locale).outcome arrival
    refine ⟨events ++ [.settle e number arrival ended.1 ended.2], ?_, ?_⟩
    · rw [List.reduceOption_append]
      exact hcourse.move (.settle rfl)
    · have hlast :
          (if ended.2.isSome then [e] else []).length = if ended.2.isSome then 1 else 0 := by
        split <;> rfl
      rw [failed_append, failed_settle, List.length_append, hn, hlast, Nat.add_assoc]
      rfl

/-- The units of a level, in whatever order they end, follow a course. -/
theorem unit_invariant (c : Catalog) (o : Options) (w : World) (d earlier : Nat) :
    Pacer.Invariant (unit c o.locale) (ends c o.locale)
      (fun s : Stage Tally => s.world.budget.exhausted) (Underway c o w d earlier) where
  note r := fun ⟨events, hcourse, hn⟩ => ⟨events, hcourse.silent (.note r _), hn⟩
  launch := Underway.launch
  finish := Underway.finish
  halt hspent := fun ⟨events, hcourse, hn⟩ => ⟨events, hcourse.silent (.stop hspent), hn⟩

/-- The units of a level take some course, after which nothing is under way. -/
theorem runLevel_course {d : Nat} {pending : List FrontierEntry} {w₁ : World}
    (h : Course c o w events ⟨d + 1, pending, [], ⟨w₁, {}⟩⟩) {r : Report}
    (hr : r.storeFailures = (failed events).length) :
    ∃ events' t, Course c o w events' ⟨d + 1, [], [], ⟨(runLevel c o d pending r w₁).2, t⟩⟩ ∧
      (runLevel c o d pending r w₁).1.storeFailures = (failed events').length := by
  have hstart : Underway c o w (d + 1) (failed events).length pending [] 0 ⟨w₁, {}⟩ :=
    ⟨events, h, rfl⟩
  obtain ⟨events', hcourse, hn⟩ := Pacer.runUntil_invariant
    (unit_invariant c o w (d + 1) (failed events).length) o.batchSize o.expandWindow w₁.now hstart
  refine ⟨events', _, (hcourse.silent (.clock _ _)).silent (.note _ _), ?_⟩
  rw [hn, ← hr]
  rfl

/-! ## The course of a run -/

/-- The levels from `depth` on. A run that returns and leaves some budget has read them all, and
reports as many failures as there were. -/
theorem runLevels_course (levels : Nat) {depth : Nat} {r : Report} {w₁ : World} {t : Tally}
    (h : Course c o w events ⟨depth, [], [], ⟨w₁, t⟩⟩) (hdepth : depth + levels = o.maxDepth)
    (hr : r.storeFailures = (failed events).length) :
    ∃ events' k, Course c o w events' k ∧ k.queue = [] ∧ k.flight = [] ∧
      k.stage.world = (runLevels c o levels depth r w₁).2 ∧
      ∀ report, (runLevels c o levels depth r w₁).1 = .ok report →
        report.storeFailures = (failed events').length ∧
          ((runLevels c o levels depth r w₁).2.budget.exhausted = false →
            k.depth = o.maxDepth) := by
  induction levels generalizing events depth r w₁ t with
  | zero =>
    refine ⟨events, _, h, rfl, rfl, rfl, ?_⟩
    rintro report ⟨⟩
    exact ⟨hr, fun _ => hdepth⟩
  | succ levels ih =>
    unfold runLevels
    cases hread : w₁.store.entriesAt depth .unvisited with
    | error e => exact ⟨events, _, h, rfl, rfl, rfl, nofun⟩
    | ok pending =>
      dsimp only
      split
      · next hspent =>
        refine ⟨events, _, h.silent (.note _ _), rfl, rfl, rfl, ?_⟩
        rintro report ⟨⟩
        refine ⟨hr, fun hroom => ?_⟩
        have hroom' : w₁.budget.exhausted = false := hroom
        rw [hspent] at hroom'
        cases hroom'
      · next hroom =>
        have hlevel := (h.move (.read (by omega) hread (Bool.eq_false_iff.mpr hroom))).silent
          (.note ⟨.info, .expanding, s!"Apps at depth {depth}: {pending.length}"⟩ _)
        have hr' : r.storeFailures = (failed (events ++ [.read depth w₁])).length := by
          rw [failed_append, failed_read, List.append_nil]
          exact hr
        split
        · next hempty =>
          obtain rfl := List.isEmpty_iff.mp hempty
          exact ih hlevel (by omega) hr'
        · obtain ⟨events', t', hcourse, hfailed⟩ := runLevel_course hlevel hr'
          exact ih hcourse (by omega) hfailed

/-- **The course of an expansion.** Every expansion takes some course, after which nothing is under
way. One that returns reports as many failures as there were, and has read every level it may unless
the budget is spent. -/
theorem run_course (c : Catalog) (o : Options) (w : World) :
    ∃ events k, Course c o w events k ∧ k.queue = [] ∧ k.flight = [] ∧
      k.stage.world = (run c o w).2 ∧
      ∀ report, (run c o w).1 = .ok report →
        report.storeFailures = (failed events).length ∧
          ((run c o w).2.budget.exhausted = false → k.depth = o.maxDepth) := by
  obtain ⟨events, k, hcourse, hq, hfl, hw, hok⟩ :=
    runLevels_course o.maxDepth (r := {}) (.start (c := c) (o := o) (w := w)) (Nat.zero_add _) rfl
  refine ⟨events, k, hcourse, hq, hfl, ?_⟩
  unfold run
  split
  · next r w' hrun =>
    rw [hrun] at hw hok
    refine ⟨hw, ?_⟩
    rintro report ⟨⟩
    exact hok r rfl
  · next e w' hrun =>
    rw [hrun] at hw
    exact ⟨hw, nofun⟩

end CatalogCrawl.Expansion
