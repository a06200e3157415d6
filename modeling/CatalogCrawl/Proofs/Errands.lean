import CatalogCrawl.Proofs.Accounting
import Mathlib.Data.List.Forall2

/-! # Stages of one call for each unit

In seeding and in a backfill each unit makes one call and reacts to its answer (`Errand`).
Whatever the delays, the calls are made in the order of the queue, and such a stage is
nothing but one reaction after the other, in the order in which the answers come. Each
reaction finds what the one before has left, and what others have done to the store until its
answer came (`Errand.Course`, `Errand.run_course`). -/

namespace CatalogCrawl

/-! ## Which units run -/

namespace Pacer

variable {σ : Type} [Logged σ]

/-- A run launches the first units of its queue, in order. -/
theorem launches_runUntil (size window : Nat) (stop : σ → Bool) (units : List (Work σ)) (now : Nat)
    (s : σ) :
    (launches (runUntil size window stop units now s).events).map (·.1) =
      List.range (runUntil size window stop units now s).report.executed := by
  obtain ⟨rounds, hruns, -, hevents, -, hexecuted, -⟩ :=
    runUntil_rounds size window stop units now s
  rw [hevents, launches_stop, launches_of_runs hruns, take_chunks, flatten_chunks, ← zipIdx_take,
    List.zipIdx_map_snd, List.length_take, ← hexecuted, List.range_eq_range']

/-- Each launched unit ends once. -/
theorem outcomes_runUntil (size window : Nat) (stop : σ → Bool) (units : List (Work σ)) (now : Nat)
    (s : σ) :
    ((outcomes (runUntil size window stop units now s).events).map (·.1)).Perm
      (List.range (runUntil size window stop units now s).report.executed) := by
  obtain ⟨rounds, hruns, -, hevents, -⟩ := runUntil_rounds size window stop units now s
  have hlaunches := launches_runUntil size window stop units now s
  rw [hevents, launches_stop, launches_of_runs hruns] at hlaunches
  rw [← hlaunches, hevents, outcomes_stop, map_outcomes]
  exact ends_of_runs hruns

/-- Before each batch the stop condition was looked at, when all units of the batches
before had ended. -/
theorem runUntil_check (size window : Nat) (stop : σ → Bool) (units : List (Work σ)) (now : Nat)
    (s : σ)
    {k : Nat} (hk : max size 1 * k < (runUntil size window stop units now s).report.executed) :
    ∃ past, past ++ [.check false] <+: (runUntil size window stop units now s).events ∧
      (outcomes past).length = max size 1 * k := by
  obtain ⟨rounds, hruns, -, hevents, hbatches, hexecuted, -⟩ :=
    runUntil_rounds size window stop units now s
  generalize runUntil size window stop units now s = p at *
  have hlt : k < p.report.batches := by
    refine Nat.lt_of_mul_lt_mul_left (a := max size 1) (Nat.lt_of_lt_of_le hk ?_)
    rw [hexecuted]
    exact Nat.min_le_left _ _
  have hlength : rounds.length = p.report.batches := by
    rw [hruns.length_eq, List.length_take, Nat.min_eq_left hbatches]
  obtain ⟨r, rest, hround⟩ : ∃ r rest, rounds = rounds.take k ++ r :: rest := by
    cases hdrop : rounds.drop k with
    | nil =>
      rw [List.drop_eq_nil_iff] at hdrop
      omega
    | cons r rest => exact ⟨r, rest, by rw [← hdrop, List.take_append_drop]⟩
  refine ⟨(rounds.take k).flatMap Round.trace, ?_, ?_⟩
  · refine ⟨r.events ++ rest.flatMap Round.trace ++
      (if 0 < p.report.skipped then [.check true] else []), ?_⟩
    conv_rhs => rw [hevents, hround]
    simp [Round.trace]
  · have hended := (ends_of_runs (List.forall₂_take k hruns)).length_eq
    rw [← map_outcomes, List.length_map, List.take_take, Nat.min_eq_left (Nat.le_of_lt hlt),
      take_chunks, flatten_chunks, List.length_map, List.length_take, List.length_zipIdx] at hended
    omega

end Pacer

/-- What a stage works on. -/
def Stage.possessions {τ : Type} (s : Stage τ) : Store × Budget := (s.world.store, s.world.budget)

/-- Units that make one call each: the call, the answer by its number, and the reaction
to its outcome. -/
structure Errand (α ρ τ : Type) where
  call : α → Call
  ask : α → Nat → Answer ρ
  react : α → Except FetchError ρ → Stage τ → Stage τ × Option String

namespace Errand

variable {α ρ τ : Type}

def unit (e : Errand α ρ τ) (x : α) : Pacer.Work (Stage τ) :=
  Stage.request (e.call x) (e.ask x) (e.react x)

/-! ## Courses -/

/-- A reaction to an answer. -/
structure Reply (τ : Type) where
  /-- The place of the unit in the queue. -/
  place : Nat
  /-- The stage when the answer has come. -/
  arrival : Stage τ
  /-- The stage after the reaction. -/
  ended : Stage τ
  failure : Option String

/-- The reaction to the answer with a number, which comes to a unit in the given stage. -/
def reply (e : Errand α ρ τ) (x : α) (place number : Nat) (s : Stage τ) : Reply τ where
  place := place
  arrival := s.receive (e.ask x number)
  ended := (e.react x (e.ask x number).outcome (s.receive (e.ask x number))).1
  failure := (e.react x (e.ask x number).outcome (s.receive (e.ask x number))).2

/-- The reactions from a stage on in which `made` calls had been made. Between two of them store,
budget and tally stay as they are. The answer to a unit is that to the call of its place. -/
inductive Course (e : Errand α ρ τ) (xs : List α) (made : Nat) (s₀ : Stage τ) :
    List (Reply τ) → Stage τ → Prop
  | start : Course e xs made s₀ [] s₀
  | still {rs : List (Reply τ)} {s s' : Stage τ} (h : Course e xs made s₀ rs s)
      (hstore : s'.world.store = s.world.store) (hbudget : s'.world.budget = s.world.budget)
      (htally : s'.tally = s.tally) : Course e xs made s₀ rs s'
  | reply {rs : List (Reply τ)} {s : Stage τ} {x : α} {place : Nat} (h : Course e xs made s₀ rs s)
      (hx : xs[place]? = some x) :
      Course e xs made s₀ (rs ++ [e.reply x place (made + place) s])
        (e.reply x place (made + place) s).ended

namespace Course

variable {e : Errand α ρ τ} {xs : List α} {made : Nat} {s₀ s₁ s : Stage τ} {rs : List (Reply τ)}

/-- Each reaction is that of a unit to the answer to its call. -/
theorem exists_reply (h : e.Course xs made s₀ rs s) {r : Reply τ} (hr : r ∈ rs) :
    ∃ x s', xs[r.place]? = some x ∧ r = e.reply x r.place (made + r.place) s' := by
  induction h with
  | start => cases hr
  | still _ _ _ _ ih => exact ih hr
  | @reply rs s' x place _ hx ih =>
    rcases List.mem_append.mp hr with hr | hr
    · exact ih hr
    · obtain rfl := List.mem_singleton.mp hr
      exact ⟨x, s', hx, rfl⟩

/-- What holds of every reaction holds of those of a course, with the outcomes of their calls. -/
theorem exists_outcome {P : α → Reply τ → Except FetchError ρ → Prop}
    (hP : ∀ x place number s, P x (e.reply x place number s) (e.ask x number).outcome)
    (h : e.Course xs made s₀ rs s) {r : Reply τ} (hr : r ∈ rs) :
    ∃ x, xs[r.place]? = some x ∧ P x r (e.ask x (made + r.place)).outcome := by
  obtain ⟨x, s', hx, heq⟩ := h.exists_reply hr
  have hreply := hP x r.place (made + r.place) s'
  rw [← heq] at hreply
  exact ⟨x, hx, hreply⟩

/-- Store and budget go on by a preorder if they do so until each answer comes, and with the
reaction to it. -/
theorem later {R : Store × Budget → Store × Budget → Prop} (hrefl : ∀ a, R a a)
    (htrans : ∀ {a b c}, R a b → R b c → R a c)
    (hreply : ∀ x place number s, R s.possessions (e.reply x place number s).arrival.possessions ∧
      R (e.reply x place number s).arrival.possessions (e.reply x place number s).ended.possessions)
    (h : e.Course xs made s₀ rs s) :
    R s₀.possessions s.possessions ∧
      ∀ r ∈ rs, R r.arrival.possessions s.possessions ∧ R r.ended.possessions s.possessions := by
  induction h with
  | start => exact ⟨hrefl _, List.forall_mem_nil _⟩
  | @still rs s s' _ hstore hbudget _ ih =>
    have hsame : s'.possessions = s.possessions := Prod.ext hstore hbudget
    rw [hsame]
    exact ih
  | @reply rs s x place _ _ ih =>
    obtain ⟨hwait, hown⟩ := hreply x place (made + place) s
    have hstep := htrans hwait hown
    refine ⟨htrans ih.1 hstep, List.forall_mem_append.mpr ⟨fun r hr => ?_, ?_⟩⟩
    · exact ⟨htrans (ih.2 r hr).1 hstep, htrans (ih.2 r hr).2 hstep⟩
    · exact List.forall_mem_singleton.mpr ⟨hown, hrefl _⟩

/-- A course from a stage is one from any other that is the same but for notes and calls. -/
theorem of_start (h : e.Course xs made s₁ rs s) (hstore : s₁.world.store = s₀.world.store)
    (hbudget : s₁.world.budget = s₀.world.budget) (htally : s₁.tally = s₀.tally) :
    e.Course xs made s₀ rs s := by
  induction h with
  | start => exact .still .start hstore hbudget htally
  | still _ hs hb ht ih => exact ih.still hs hb ht
  | reply _ hx ih => exact ih.reply hx

end Course

/-! ## Every run takes a course -/

/-- How a launched unit ends: by its reaction to the answer to its call. -/
def ends (e : Errand α ρ τ) (b : α × Nat) (_ : Nat) (s : Stage τ) : Stage τ × Option String :=
  e.react b.1 (e.ask b.1 b.2).outcome (s.receive (e.ask b.1 b.2))

/-- The course that the ended units have taken. Each look at the stop condition was one at the stage
that the reactions until then had led to. -/
structure Took (e : Errand α ρ τ) (stop : Stage τ → Bool) (xs : List α) (s₀ : Stage τ)
    (es : List Pacer.Event) (s : Stage τ) (rs : List (Reply τ)) : Prop where
  course : e.Course xs s₀.world.calls.length s₀ rs s
  outcomes : rs.map (fun r => (r.place, r.failure)) = Pacer.outcomes es
  checks : ∀ {past b}, past ++ [.check b] <+: es →
    ∃ s', e.Course xs s₀.world.calls.length s₀ (rs.take (Pacer.outcomes past).length) s' ∧
      stop s' = b

/-- A moment of a run: the calls made are those of the units launched so far, each unit in flight
waits for the answer to the call of its place, and the ended units have taken some course. -/
structure Underway (e : Errand α ρ τ) (stop : Stage τ → Bool) (xs : List α) (s₀ : Stage τ)
    (q : List (α × Nat)) (fl : List ((α × Nat) × Nat)) (es : List Pacer.Event)
    (s : Stage τ) : Prop where
  queue : q = xs.zipIdx.drop (Pacer.launches es).length ∨ q = []
  bound : (Pacer.launches es).length ≤ xs.length
  calls : s.world.calls.map (·.2) =
    s₀.world.calls.map (·.2) ++ (xs.take (Pacer.launches es).length).map e.call
  flight : ∀ b ∈ fl, xs[b.2]? = some b.1.1 ∧ b.1.2 = s₀.world.calls.length + b.2
  took : ∃ rs, e.Took stop xs s₀ es s rs

section
variable {e : Errand α ρ τ} {stop : Stage τ → Bool} {xs : List α} {s₀ s s' : Stage τ}
  {q : List (α × Nat)} {fl fl' : List ((α × Nat) × Nat)} {es : List Pacer.Event}
  {rs : List (Reply τ)}

namespace Took

theorem length_eq (h : e.Took stop xs s₀ es s rs) : rs.length = (Pacer.outcomes es).length := by
  rw [← h.outcomes, List.length_map]

/-- The unit of a place has ended, or nothing of what the course is about has changed. -/
theorem event {more : List (Reply τ)} {event : Pacer.Event} (h : e.Took stop xs s₀ es s rs)
    (hcourse : e.Course xs s₀.world.calls.length s₀ (rs ++ more) s')
    (hmore : Pacer.outcomes (es ++ [event]) =
      Pacer.outcomes es ++ more.map fun r => (r.place, r.failure))
    (hcheck : ∀ b, event = .check b → stop s = b) :
    e.Took stop xs s₀ (es ++ [event]) s' (rs ++ more) where
  course := hcourse
  outcomes := by rw [hmore, List.map_append, h.outcomes]
  checks {past b} hpast := by
    rcases List.prefix_concat_iff.mp hpast with heq | hpast
    · obtain ⟨rfl, hevent⟩ := List.append_inj' heq rfl
      refine ⟨s, ?_, hcheck b (List.singleton_inj.mp hevent).symm⟩
      rw [← h.length_eq, List.take_left']
      · exact h.course
      · rfl
    · obtain ⟨s', hs', hstop⟩ := h.checks hpast
      obtain ⟨later, hes⟩ := hpast
      refine ⟨s', ?_, hstop⟩
      rw [List.take_append_of_le_length]
      · exact hs'
      · rw [h.length_eq, ← hes]
        simp

end Took

namespace Underway

theorem length_calls (h : Underway e stop xs s₀ q fl es s) :
    s.world.calls.length = s₀.world.calls.length + (Pacer.launches es).length := by
  have hlength := congrArg List.length h.calls
  rw [List.length_append, List.length_map, List.length_map, List.length_map, List.length_take,
    Nat.min_eq_left h.bound] at hlength
  exact hlength

theorem note (r : Log.Record) (h : Underway e stop xs s₀ q fl es s) :
    Underway e stop xs s₀ q fl es (Logged.note r s) where
  queue := h.queue
  bound := h.bound
  calls := h.calls
  flight := h.flight
  took := by
    obtain ⟨rs, htook⟩ := h.took
    exact ⟨rs, { htook with course := htook.course.still rfl rfl rfl }⟩

theorem check (h : Underway e stop xs s₀ q fl es s) :
    Underway e stop xs s₀ q fl (es ++ [.check (stop s)]) s := by
  have hlaunches : Pacer.launches (es ++ [.check (stop s)]) = Pacer.launches es := by
    simp [Pacer.launches]
  obtain ⟨hqueue, hbound, hcalls, hflight, rs, htook⟩ := h
  refine ⟨?_, ?_, ?_, hflight, rs ++ [],
    htook.event (by rw [List.append_nil]; exact htook.course) ?_ ?_⟩
  · rwa [hlaunches]
  · rwa [hlaunches]
  · rwa [hlaunches]
  · rw [Pacer.outcomes_check, List.map_nil, List.append_nil]
  · rintro b ⟨⟩
    rfl

/-- A launch makes the call for its unit, which is then in flight. -/
theorem launch {x : α} {i : Nat} (now : Nat) (h : Underway e stop xs s₀ ((x, i) :: q) fl es s) :
    Underway e stop xs s₀ q (fl ++ [((x, s.world.calls.length), i)]) (es ++ [.launch i now])
      (e.unit x now s).1 := by
  have hnumber := h.length_calls
  obtain ⟨hqueue, -, hcalls, hflight, rs, htook⟩ := h
  replace hqueue := hqueue.resolve_right (List.cons_ne_nil _ _)
  -- the unit is the next one of the queue
  obtain ⟨hx, rfl⟩ : xs[(Pacer.launches es).length]? = some x ∧ i = (Pacer.launches es).length := by
    have hnext : xs.zipIdx[(Pacer.launches es).length]? = some (x, i) := by
      rw [← List.head?_drop, ← hqueue, List.head?_cons]
    rw [List.getElem?_zipIdx, Option.map_eq_some_iff] at hnext
    obtain ⟨y, hy, heq⟩ := hnext
    cases heq
    exact ⟨hy, Nat.zero_add _⟩
  have hlaunches (i : Nat) : (Pacer.launches (es ++ [.launch i now])).length =
      (Pacer.launches es).length + 1 := by
    simp [Pacer.launches]
  have hcourse : e.Course xs s₀.world.calls.length s₀ rs (e.unit x now s).1 :=
    htook.course.still (Stage.store_request _ _) (Stage.budget_request _ _)
      (Stage.tally_request _ _)
  refine ⟨.inl ?_, ?_, ?_, ?_, rs ++ [], htook.event (by rw [List.append_nil]; exact hcourse) ?_ ?_⟩
  · rw [hlaunches, ← List.tail_drop, ← hqueue, List.tail_cons]
  · rw [hlaunches]
    exact (List.getElem?_eq_some_iff.mp hx).1
  · rw [hlaunches, unit, Stage.calls_request, List.map_append, hcalls, List.take_add_one, hx,
      List.map_append, List.append_assoc]
    rfl
  · exact List.forall_mem_append.mpr ⟨hflight, List.forall_mem_singleton.mpr ⟨hx, hnumber⟩⟩
  · rw [Pacer.outcomes_launch, List.map_nil, List.append_nil]
  · rintro b ⟨⟩

/-- When an answer arrives, the reaction to it is the next one of the course. -/
theorem finish {b : α × Nat} {i : Nat} (now : Nat)
    (he : ∀ x outcome s, (e.react x outcome s).1.world.calls = s.world.calls)
    (h : Underway e stop xs s₀ q (fl ++ (b, i) :: fl') es s) :
    Underway e stop xs s₀ q (fl ++ fl') (es ++ [.finish i now (e.ends b now s).2])
      (e.ends b now s).1 := by
  have hlaunches (failure : Option String) :
      Pacer.launches (es ++ [.finish i now failure]) = Pacer.launches es := by
    simp [Pacer.launches]
  obtain ⟨hqueue, hbound, hcalls, hflight, rs, htook⟩ := h
  obtain ⟨hbefore, hrest⟩ := List.forall_mem_append.mp hflight
  obtain ⟨⟨hx, hnumber⟩, hafter⟩ := List.forall_mem_cons.mp hrest
  obtain ⟨x, number⟩ := b
  dsimp only at hx hnumber
  subst hnumber
  refine ⟨?_, ?_, ?_, List.forall_mem_append.mpr ⟨hbefore, hafter⟩, _,
    htook.event (htook.course.reply hx) ?_ ?_⟩
  · rwa [hlaunches]
  · rwa [hlaunches]
  · rw [hlaunches, ends, he, Stage.calls_receive]
    exact hcalls
  · rw [Pacer.outcomes_finish]
    rfl
  · rintro b ⟨⟩

end Underway

end

variable (e : Errand α ρ τ)

/-- Whatever happens in a run, its calls and its reactions are accounted for. -/
theorem unit_underway (he : ∀ x outcome s, (e.react x outcome s).1.world.calls = s.world.calls)
    (stop : Stage τ → Bool) (xs : List α) (s₀ : Stage τ) :
    Pacer.TraceInvariant e.unit e.ends stop (Underway e stop xs s₀) where
  note r h := h.note r
  check h := h.check
  launch now h := ⟨_, rfl, h.launch now⟩
  finish now h := h.finish now he
  halt _ h := { h with queue := .inr rfl }

/-- **A run is one reaction after the other.** Whatever the delays, and wherever it stops, a run
makes the calls of its first units, in order, and takes a course in which each of them has one
reaction. The reactions come as the units end, and a batch begins only where those to the batches
before have not led to a stop. -/
theorem run_course (he : ∀ x outcome s, (e.react x outcome s).1.world.calls = s.world.calls)
    (size window : Nat) (stop : Stage τ → Bool) (xs : List α) (now : Nat) (s₀ : Stage τ) :
    let p := Pacer.runUntil size window stop (xs.map e.unit) now s₀
    p.state.world.calls.map (·.2) =
      s₀.world.calls.map (·.2) ++ (xs.take p.report.executed).map e.call ∧
      ∃ rs, e.Course xs s₀.world.calls.length s₀ rs p.state ∧
        rs.map (fun r => (r.place, r.failure)) = Pacer.outcomes p.events ∧
        (rs.map (·.place)).Perm (List.range p.report.executed) ∧
        ∀ k, max size 1 * k < p.report.executed →
          ∃ s, e.Course xs s₀.world.calls.length s₀ (rs.take (max size 1 * k)) s ∧
            stop s = false := by
  have hstart : Underway e stop xs s₀ xs.zipIdx [] [] s₀ :=
    ⟨.inl rfl, Nat.zero_le _, (List.append_nil _).symm, List.forall_mem_nil _, [], .start,
      rfl, by simp⟩
  have hend := Pacer.runUntil_trace (e.unit_underway he stop xs s₀) size window now hstart
  have hlaunches := congrArg List.length
    (Pacer.launches_runUntil size window stop (xs.map e.unit) now s₀)
  have houtcomes := Pacer.outcomes_runUntil size window stop (xs.map e.unit) now s₀
  rw [List.length_map, List.length_range] at hlaunches
  obtain ⟨rs, htook⟩ := hend.took
  refine ⟨?_, rs, htook.course, htook.outcomes, ?_, fun k hk => ?_⟩
  · rw [← hlaunches]
    exact hend.calls
  · rw [← htook.outcomes, List.map_map] at houtcomes
    exact houtcomes
  · obtain ⟨past, hpast, hlength⟩ := Pacer.runUntil_check size window stop (xs.map e.unit) now s₀ hk
    rw [← hlength]
    exact htook.checks hpast

end Errand

end CatalogCrawl
