import CatalogCrawl.Proofs.Pacing
import Mathlib.Data.List.Nodup
import Mathlib.Data.List.Range

/-! # Invariants of interleaved units

A run is at any moment given by the units that wait for their launch, those in flight and the
state they share. Whatever the delays, only four things happen: the next unit is launched, a
unit in flight ends, something is noted, and, when nothing is in flight and the stop condition
holds, the units that wait are dropped. What these keep holds at the end of the run, when no
unit waits or is in flight (`runUntil_trace`). The number of failures that the report gives is
the number of units that ended with one (`runUntil_failed`), which is often all that has to be
known of the events (`runUntil_invariant`). -/

namespace CatalogCrawl.Pacer

/-- The ended units, with their failures. -/
def outcomes (events : List Event) : List (Nat × Option String) :=
  events.filterMap fun
    | .finish u _ failure => some (u, failure)
    | _ => none

/-- How many units have failed. -/
def failures (events : List Event) : Nat := (outcomes events).countP (·.2.isSome)

@[simp] theorem outcomes_check (events : List Event) (stop : Bool) :
    outcomes (events ++ [.check stop]) = outcomes events := by simp [outcomes]

@[simp] theorem outcomes_launch (events : List Event) (u t : Nat) :
    outcomes (events ++ [.launch u t]) = outcomes events := by simp [outcomes]

@[simp] theorem outcomes_finish (events : List Event) (u t : Nat) (failure : Option String) :
    outcomes (events ++ [.finish u t failure]) = outcomes events ++ [(u, failure)] := by
  simp [outcomes]

theorem failures_finish (events : List Event) (u t : Nat) (failure : Option String) :
    failures (events ++ [.finish u t failure]) =
      failures events + if failure.isSome then 1 else 0 := by
  simp [failures, List.countP_append, List.countP_cons]

theorem chunks_map {α γ : Type} (f : α → γ) (size : Nat) (xs : List α) :
    chunks size (xs.map f) = (chunks size xs).map (List.map f) := by
  fun_induction chunks size xs with
  | case1 => simp [chunks]
  | case2 x xs ih =>
    rw [List.map_cons, chunks, List.map_cons, ← ih]
    simp [List.map_take, List.map_drop]

variable {α β σ : Type}

/-- A property of the units that wait, the tickets of those in flight, the number of failures so
far and the state, which everything that can happen in a run keeps. The ticket of a unit says
how it ends. -/
structure Invariant [Logged σ] (unit : α → Work σ) (ends : β → Nat → σ → σ × Option String)
    (stop : σ → Bool) (I : List α → List β → Nat → σ → Prop) : Prop where
  note : ∀ {q fl n s} r, I q fl n s → I q fl n (Logged.note r s)
  launch : ∀ {x q fl n s} now, I (x :: q) fl n s →
    ∃ b, (unit x now s).2.finish = ends b ∧ I q (fl ++ [b]) n (unit x now s).1
  finish : ∀ {q fl b fl' n s} now, I q (fl ++ b :: fl') n s →
    I q (fl ++ fl') (n + if (ends b now s).2.isSome then 1 else 0) (ends b now s).1
  halt : ∀ {q n s}, stop s = true → I q [] n s → I [] [] n s

/-- A property of the units that wait and the tickets of those in flight, each with its place in the
queue, of the events so far and of the state, which everything that can happen in a run keeps. -/
structure TraceInvariant [Logged σ] (unit : α → Work σ) (ends : β → Nat → σ → σ × Option String)
    (stop : σ → Bool) (I : List (α × Nat) → List (β × Nat) → List Event → σ → Prop) : Prop where
  note : ∀ {q fl es s} r, I q fl es s → I q fl es (Logged.note r s)
  check : ∀ {q es s}, I q [] es s → I q [] (es ++ [.check (stop s)]) s
  launch : ∀ {x i q fl es s} now, I ((x, i) :: q) fl es s →
    ∃ b, (unit x now s).2.finish = ends b ∧
      I q (fl ++ [(b, i)]) (es ++ [.launch i now]) (unit x now s).1
  finish : ∀ {q fl b i fl' es s} now, I q (fl ++ (b, i) :: fl') es s →
    I q (fl ++ fl') (es ++ [.finish i now (ends b now s).2]) (ends b now s).1
  halt : ∀ {q es s}, stop s = true → I q [] es s → I [] [] es s

section
variable [Logged σ] {unit : α → Work σ} {ends : β → Nat → σ → σ × Option String} {stop : σ → Bool}

/-- Of the events an invariant sees the failures only. -/
theorem Invariant.trace {I : List α → List β → Nat → σ → Prop} (hI : Invariant unit ends stop I) :
    TraceInvariant unit ends stop fun q fl es s =>
      I (q.map (·.1)) (fl.map (·.1)) (failures es) s where
  note r h := hI.note r h
  check h := by
    rw [failures, outcomes_check]
    exact h
  launch now h := by
    obtain ⟨b, hb, hlaunch⟩ := hI.launch now h
    refine ⟨b, hb, ?_⟩
    rw [failures, outcomes_launch, List.map_append]
    exact hlaunch
  finish now h := by
    rw [List.map_append, List.map_cons] at h
    rw [failures_finish, List.map_append]
    exact hI.finish now h
  halt hstop h := hI.halt hstop h

variable {I : List (α × Nat) → List (β × Nat) → List Event → σ → Prop} {q : List (α × Nat)}
  {fl : List (β × Nat)}

/-! ## Launches and ends -/

/-- A launched unit is in flight, or has ended at once. -/
theorem Progress.launch_trace (hI : TraceInvariant unit ends stop I) {x : α} {i : Nat}
    {p : Progress σ} (h : I ((x, i) :: q) fl p.events p.state) :
    ∃ bs, (p.launch i (unit x)).2.toList.map (fun w => (w.finish, w.unit)) =
      bs.map (Prod.map ends id) ∧
      I q (fl ++ bs) (p.launch i (unit x)).1.events (p.launch i (unit x)).1.state := by
  obtain ⟨b, hb, hlaunch⟩ := hI.launch p.now h
  unfold Progress.launch
  dsimp only
  split
  · refine ⟨[], rfl, ?_⟩
    have hend := hI.finish p.now hlaunch
    simp only [Progress.finish, hb]
    exact hend
  · exact ⟨[(b, i)], by simp [hb], hlaunch⟩

/-- A batch is launched unit by unit. The tickets of those in flight say how they will end. -/
theorem launchAll_trace (hI : TraceInvariant unit ends stop I) (batch : List (α × Nat))
    {p : Progress σ} (h : I (batch ++ q) fl p.events p.state) :
    ∃ bs, (launchAll (batch.map (Prod.map unit id)) p).2.map (fun w => (w.finish, w.unit)) =
        bs.map (Prod.map ends id) ∧
      I q (fl ++ bs) (launchAll (batch.map (Prod.map unit id)) p).1.events
        (launchAll (batch.map (Prod.map unit id)) p).1.state := by
  induction batch generalizing fl p with
  | nil => exact ⟨[], rfl, by simpa [launchAll] using h⟩
  | cons b rest ih =>
    obtain ⟨x, i⟩ := b
    obtain ⟨bs, hbs, hfirst⟩ := Progress.launch_trace hI h
    obtain ⟨bs', hbs', hrest⟩ := ih hfirst
    refine ⟨bs ++ bs', ?_, ?_⟩
    · simp only [List.map_cons, Prod.map_apply, id_eq, launchAll, List.map_append]
      rw [hbs, hbs']
    · rw [← List.append_assoc]
      exact hrest

/-- The units in flight end in the order of the list, whatever order they were launched in. -/
theorem finishAll_trace (hI : TraceInvariant unit ends stop I) (ws : List (Waiting σ))
    {p : Progress σ} (hfl : (ws.map fun w => (w.finish, w.unit)).Perm (fl.map (Prod.map ends id)))
    (h : I q fl p.events p.state) : I q [] (finishAll ws p).events (finishAll ws p).state := by
  induction ws generalizing fl p with
  | nil =>
    obtain rfl : fl = [] := List.map_eq_nil_iff.mp hfl.nil_eq.symm
    exact h
  | cons w ws ih =>
    -- the next to end need not be the first that was launched
    obtain ⟨⟨b, i⟩, hb, hw⟩ := List.mem_map.mp (hfl.subset List.mem_cons_self)
    obtain ⟨fl₁, fl₂, rfl⟩ := List.append_of_mem hb
    have hrest :
        (ws.map fun w => (w.finish, w.unit)).Perm ((fl₁ ++ fl₂).map (Prod.map ends id)) := by
      simp only [List.map_append, List.map_cons, hw] at hfl
      rw [List.map_append]
      exact (hfl.trans List.perm_middle).cons_inv
    refine ih (p := { p with now := w.due }.finish w.unit w.finish) hrest ?_
    obtain ⟨hfinish, hunit⟩ := Prod.mk.inj hw
    have hend := hI.finish w.due h
    rw [hfinish] at hend
    rw [← hunit]
    exact hend

/-! ## Batches -/

/-- To settle a batch is only to note. -/
theorem foldl_settle_trace (hI : TraceInvariant unit ends stop I) {γ : Type}
    (failure : γ → Option String) (xs : List γ) {p : Progress σ} (h : I q fl p.events p.state) :
    I q fl (xs.foldl (fun q x => q.settle (failure x)) p).events
      (xs.foldl (fun q x => q.settle (failure x)) p).state := by
  induction xs generalizing p with
  | nil => exact h
  | cons x xs ih =>
    refine ih (p := p.settle (failure x)) ?_
    unfold Progress.settle
    split
    · exact h
    · exact hI.note _ h

/-- At the end of a batch nothing is in flight. -/
theorem runBatch_trace (hI : TraceInvariant unit ends stop I) (batch : List (α × Nat))
    {p : Progress σ} (h : I (batch ++ q) [] p.events p.state) :
    I q [] (runBatch (batch.map (Prod.map unit id)) p).events
      (runBatch (batch.map (Prod.map unit id)) p).state := by
  let start := { p with report := { p.report with batches := p.report.batches + 1 } }
  obtain ⟨bs, hbs, hlaunch⟩ := launchAll_trace (p := start) hI batch h
  refine foldl_settle_trace hI _ _ (finishAll_trace hI _ ?_ hlaunch)
  rw [List.nil_append, ← hbs]
  exact (sortDue_perm _).map _

/-- At the end of all batches nothing waits: what is left when the run stops is given up. -/
theorem runBatches_trace (hI : TraceInvariant unit ends stop I) (window : Nat)
    (batches : List (List (α × Nat))) (last : Option Nat) {p : Progress σ}
    (h : I batches.flatten [] p.events p.state) :
    I [] [] (runBatches window stop (batches.map (List.map (Prod.map unit id))) last p).events
      (runBatches window stop (batches.map (List.map (Prod.map unit id))) last p).state := by
  induction batches generalizing last p with
  | nil => exact h
  | cons batch rest ih =>
    rw [List.flatten_cons] at h
    simp only [List.map_cons, runBatches]
    split
    · next halt => exact hI.note _ (hI.halt halt (hI.check h))
    · exact ih _ (runBatch_trace hI batch (hI.check h))

/-- **What everything that can happen keeps, a run keeps.** At its end no unit waits or
is in flight. -/
theorem runUntil_trace (hI : TraceInvariant unit ends stop I) (size window : Nat) {xs : List α}
    (now : Nat) {s : σ} (h : I xs.zipIdx [] [] s) :
    I [] [] (runUntil size window stop (xs.map unit) now s).events
      (runUntil size window stop (xs.map unit) now s).state := by
  rw [runUntil, List.zipIdx_map, chunks_map]
  refine runBatches_trace hI window _ none (p := { state := s, now }) ?_
  rw [flatten_chunks]
  exact h

end

/-! ## The failures in the report -/

/-- A unit ends at its launch, or it waits. -/
theorem Progress.launch_outcomes (p : Progress σ) (i : Nat) (work : Work σ) :
    (∃ failure, outcomes (p.launch i work).1.events = outcomes p.events ++ [(i, failure)] ∧
        (p.launch i work).2 = none) ∨
      ∃ w, outcomes (p.launch i work).1.events = outcomes p.events ∧
        (p.launch i work).2 = some w ∧ w.unit = i := by
  unfold Progress.launch
  dsimp only
  split
  · refine .inl ⟨((work p.now p.state).2.finish p.now (work p.now p.state).1).2, ?_, rfl⟩
    simp only [Progress.finish, outcomes_finish, outcomes_launch]
  · exact .inr ⟨_, outcomes_launch _ _ _, rfl, rfl⟩

/-- Each unit of a batch has ended or waits. -/
theorem launchAll_outcomes (batch : List (Work σ × Nat)) (p : Progress σ) :
    ∃ es, outcomes (launchAll batch p).1.events = outcomes p.events ++ es ∧
      (es.map (·.1) ++ (launchAll batch p).2.map (·.unit)).Perm (batch.map (·.2)) := by
  induction batch generalizing p with
  | nil => exact ⟨[], by simp [launchAll], by simp [launchAll]⟩
  | cons b rest ih =>
    obtain ⟨work, i⟩ := b
    obtain ⟨es, hes, hperm⟩ := ih (p.launch i work).1
    simp only [launchAll]
    rcases p.launch_outcomes i work with ⟨failure, hfirst, hnone⟩ | ⟨w, hfirst, hsome, hw⟩
    · refine ⟨(i, failure) :: es, by rw [hes, hfirst]; simp, ?_⟩
      simpa [hnone] using hperm.cons i
    · refine ⟨es, by rw [hes, hfirst], ?_⟩
      simp only [hsome, Option.toList_some, List.singleton_append, List.map_cons, hw]
      exact List.perm_middle.trans (hperm.cons i)

/-- Each unit that waits ends, once and in order. -/
theorem finishAll_outcomes (ws : List (Waiting σ)) (p : Progress σ) :
    ∃ es, outcomes (finishAll ws p).events = outcomes p.events ++ es ∧
      es.map (·.1) = ws.map (·.unit) := by
  induction ws generalizing p with
  | nil => exact ⟨[], by simp [finishAll], rfl⟩
  | cons w ws ih =>
    obtain ⟨es, hes, hunits⟩ := ih ({ p with now := w.due }.finish w.unit w.finish)
    refine ⟨(w.unit, (w.finish w.due p.state).2) :: es, ?_, by simp [hunits]⟩
    rw [finishAll, List.foldl_cons, ← finishAll, hes]
    simp [Progress.finish]

theorem failureOf_eq (u : Nat) (events : List Event) :
    failureOf u events = (outcomes events).findSome? fun o => if o.1 = u then o.2 else none := by
  induction events with
  | nil => rfl
  | cons e events ih =>
    unfold failureOf outcomes at ih ⊢
    cases e with
    | check | launch => simpa using ih
    | finish v t failure =>
      rw [List.findSome?_cons, List.filterMap_cons, List.findSome?_cons, ih]

/-- The units of a batch that have failed, by the events, if these have one outcome for
each of them. -/
theorem countP_failureOf {batch : List (Work σ × Nat)} {events : List Event}
    {old es : List (Nat × Option String)} (hevents : outcomes events = old ++ es)
    (hes : (es.map (·.1)).Perm (batch.map (·.2))) (hnodup : (batch.map (·.2)).Nodup)
    (hold : (old.map (·.1)).Disjoint (batch.map (·.2))) :
    batch.countP (fun b => (failureOf b.2 events).isSome) = es.countP (·.2.isSome) := by
  have hmem (o : Nat × Option String) (ho : o ∈ es) :
      (failureOf o.1 events).isSome = true ↔ o.2.isSome = true := by
    have hunit : o.1 ∈ batch.map (·.2) := hes.subset (List.mem_map_of_mem ho)
    rw [failureOf_eq, List.findSome?_isSome_iff, hevents]
    -- an earlier outcome is that of another unit, and of this batch there is one for each
    constructor
    · rintro ⟨o', ho', hfail⟩
      split at hfail
      · next heq =>
        rcases List.mem_append.mp ho' with hmem | hmem
        · exact (hold (List.mem_map_of_mem hmem) (heq ▸ hunit)).elim
        · obtain rfl := List.inj_on_of_nodup_map (hes.nodup_iff.mpr hnodup) hmem ho heq
          exact hfail
      · cases hfail
    · exact fun hfail => ⟨o, List.mem_append_right _ ho, by rw [if_pos rfl]; exact hfail⟩
  calc batch.countP (fun b => (failureOf b.2 events).isSome)
      = (batch.map (·.2)).countP (fun u => (failureOf u events).isSome) := by
        rw [List.countP_map]; rfl
    _ = (es.map (·.1)).countP (fun u => (failureOf u events).isSome) := (hes.countP_eq _).symm
    _ = es.countP (fun o => (failureOf o.1 events).isSome) := by rw [List.countP_map]; rfl
    _ = es.countP (·.2.isSome) := List.countP_congr hmem

/-- To settle a batch is to count its failures. No event is added. -/
theorem foldl_settle_failed [Logged σ] {γ : Type} (failure : γ → Option String) (xs : List γ)
    (p : Progress σ) :
    (xs.foldl (fun q x => q.settle (failure x)) p).events = p.events ∧
      (xs.foldl (fun q x => q.settle (failure x)) p).report.failed =
        p.report.failed + xs.countP (fun x => (failure x).isSome) := by
  induction xs generalizing p with
  | nil => exact ⟨rfl, rfl⟩
  | cons x xs ih =>
    obtain ⟨hevents, hfailed⟩ := ih (p.settle (failure x))
    rw [List.foldl_cons, hevents, hfailed, List.countP_cons]
    cases hx : failure x with
    | none => exact ⟨rfl, rfl⟩
    | some text =>
      refine ⟨rfl, ?_⟩
      simp only [Progress.settle, Option.isSome_some, if_true]
      omega

theorem launchAll_report (batch : List (Work σ × Nat)) (p : Progress σ) :
    (launchAll batch p).1.report = p.report := by
  induction batch generalizing p with
  | nil => rfl
  | cons b rest ih =>
    simp only [launchAll, ih, Progress.launch]
    split <;> rfl

theorem finishAll_report (ws : List (Waiting σ)) (p : Progress σ) :
    (finishAll ws p).report = p.report := by
  induction ws generalizing p with
  | nil => rfl
  | cons w ws ih => exact ih _

/-- A batch adds one outcome for each of its units, and to the report those that are failures. -/
theorem runBatch_failed [Logged σ] (batch : List (Work σ × Nat)) {p : Progress σ}
    (hnodup : (batch.map (·.2)).Nodup)
    (hold : ((outcomes p.events).map (·.1)).Disjoint (batch.map (·.2)))
    (hp : p.report.failed = failures p.events) :
    ∃ es, outcomes (runBatch batch p).events = outcomes p.events ++ es ∧
      (es.map (·.1)).Perm (batch.map (·.2)) ∧
      (runBatch batch p).report.failed = failures (runBatch batch p).events := by
  let start := { p with report := { p.report with batches := p.report.batches + 1 } }
  let launched := launchAll batch start
  let ended := finishAll (sortDue launched.2) launched.1
  obtain ⟨es, hes, hperm⟩ := launchAll_outcomes batch start
  obtain ⟨es', hes', hunits⟩ := finishAll_outcomes (sortDue launched.2) launched.1
  have houtcomes : outcomes ended.events = outcomes p.events ++ (es ++ es') := by
    rw [hes', hes, List.append_assoc]
  have hall : ((es ++ es').map (·.1)).Perm (batch.map (·.2)) := by
    rw [List.map_append, hunits]
    exact (((sortDue_perm launched.2).map _).append_left _).trans hperm
  have hreport : ended.report = start.report :=
    (finishAll_report _ _).trans (launchAll_report batch start)
  obtain ⟨hevents, hfailed⟩ := foldl_settle_failed
    (fun b : Work σ × Nat => failureOf b.2 ended.events) batch ended
  replace hevents : (runBatch batch p).events = ended.events := hevents
  refine ⟨es ++ es', by rw [hevents, houtcomes], hall, hfailed.trans ?_⟩
  calc ended.report.failed + batch.countP (fun b => (failureOf b.2 ended.events).isSome)
      = failures p.events + (es ++ es').countP (·.2.isSome) := by
        rw [countP_failureOf houtcomes hall hnodup hold, hreport, ← hp]
    _ = failures ended.events := by rw [failures, failures, houtcomes, ← List.countP_append]
    _ = failures (runBatch batch p).events := by rw [hevents]

/-- If units have different numbers, the failures reported are those of the events. -/
theorem runBatches_failed [Logged σ] (window : Nat) (stop : σ → Bool)
    (batches : List (List (Work σ × Nat)))
    (last : Option Nat) {p : Progress σ} (hnodup : (batches.flatten.map (·.2)).Nodup)
    (hold : ((outcomes p.events).map (·.1)).Disjoint (batches.flatten.map (·.2)))
    (hp : p.report.failed = failures p.events) :
    (runBatches window stop batches last p).report.failed =
      failures (runBatches window stop batches last p).events := by
  induction batches generalizing last p with
  | nil => exact hp
  | cons batch rest ih =>
    rw [List.flatten_cons, List.map_append] at hnodup hold
    obtain ⟨hbatch, hrest, hapart⟩ := List.nodup_append'.mp hnodup
    obtain ⟨holdBatch, holdRest⟩ := List.disjoint_append_right.mp hold
    have hcheck : ∀ halt, failures (p.events ++ [.check halt]) = failures p.events := fun halt => by
      rw [failures, outcomes_check, failures]
    simp only [runBatches]
    split
    · rw [hcheck]
      exact hp
    · let start := { p with
        events := p.events ++ [Event.check (stop p.state)]
        now := nextStart window last p.now }
      obtain ⟨es, hes, hperm, hfailed⟩ := runBatch_failed batch (p := start) hbatch
        (by rw [outcomes_check]; exact holdBatch) (by rw [hcheck]; exact hp)
      refine ih _ hrest ?_ hfailed
      rw [hes, outcomes_check, List.map_append]
      refine List.disjoint_append_left.mpr ⟨holdRest, fun u hu => hapart (hperm.subset hu)⟩

/-- The report counts the units that have failed. -/
theorem runUntil_failed [Logged σ] (size window : Nat) (stop : σ → Bool) (units : List (Work σ))
    (now : Nat) (s : σ) :
    (runUntil size window stop units now s).report.failed =
      failures (runUntil size window stop units now s).events := by
  refine runBatches_failed window stop _ none ?_ (by simp [outcomes]) rfl
  rw [flatten_chunks, List.zipIdx_map_snd]
  exact List.nodup_range'

/-- At the end of a run the failures are those of the report. -/
theorem runUntil_invariant [Logged σ] {unit : α → Work σ} {ends : β → Nat → σ → σ × Option String}
    {stop : σ → Bool} {I : List α → List β → Nat → σ → Prop} (hI : Invariant unit ends stop I)
    (size window : Nat) {xs : List α} (now : Nat) {s : σ} (h : I xs [] 0 s) :
    I [] [] (runUntil size window stop (xs.map unit) now s).report.failed
      (runUntil size window stop (xs.map unit) now s).state := by
  rw [runUntil_failed]
  refine runUntil_trace hI.trace size window now ?_
  rw [List.zipIdx_map_fst]
  exact h

end CatalogCrawl.Pacer
