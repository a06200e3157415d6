import CatalogCrawl.Proofs.Interleaving

/-! # Batches as rounds

What is seen of a run falls into rounds, one for each batch (`Round`). In a round all units
of the batch are launched at one time and end by their own delays, and the round has settled
when the last of them ends (`runBatch_round`). The next round starts when this one has
settled and its window has passed (`Timeline`). A run that is stopped is a run of its first
batches up to the stop (`runBatches_stop`), so every run is that of the rounds up to the
boundary that it reaches (`runUntil_boundary`). -/

namespace CatalogCrawl.Pacer

variable {σ : Type}

/-! ## What is seen -/

section
variable (es es' : List Event)

@[simp] theorem launches_append : launches (es ++ es') = launches es ++ launches es' :=
  List.filterMap_append

@[simp] theorem ends_append : ends (es ++ es') = ends es ++ ends es' := List.filterMap_append

@[simp] theorem outcomes_append : outcomes (es ++ es') = outcomes es ++ outcomes es' :=
  List.filterMap_append

@[simp] theorem checks_append : checks (es ++ es') = checks es + checks es' := List.countP_append

theorem mem_launches {es : List Event} {l : Nat × Nat} :
    l ∈ launches es ↔ .launch l.1 l.2 ∈ es := by
  simp only [launches, List.mem_filterMap]
  constructor
  · rintro ⟨e, he, heq⟩
    cases e with
    | launch u t => cases heq; exact he
    | check | finish => cases heq
  · intro h
    exact ⟨_, h, rfl⟩

theorem mem_ends {es : List Event} {e : Nat × Nat} :
    e ∈ ends es ↔ ∃ failure, .finish e.1 e.2 failure ∈ es := by
  simp only [ends, List.mem_filterMap]
  constructor
  · rintro ⟨e, he, heq⟩
    cases e with
    | finish u t failure => cases heq; exact ⟨failure, he⟩
    | check | launch => cases heq
  · rintro ⟨failure, h⟩
    exact ⟨_, h, rfl⟩

theorem mem_outcomes {es : List Event} {o : Nat × Option String} :
    o ∈ outcomes es ↔ ∃ t, .finish o.1 t o.2 ∈ es := by
  simp only [outcomes, List.mem_filterMap]
  constructor
  · rintro ⟨e, he, heq⟩
    cases e with
    | finish u t failure => cases heq; exact ⟨t, he⟩
    | check | launch => cases heq
  · rintro ⟨t, h⟩
    exact ⟨_, h, rfl⟩

theorem map_outcomes : (outcomes es).map (·.1) = (ends es).map (·.1) := by
  induction es with
  | nil => rfl
  | cons e es ih =>
    unfold outcomes ends at ih ⊢
    cases e <;> simpa using ih

end

/-! ## Units that end by their own delays -/

/-- The unit, launched at `start`, ends at `time` with the given outcome. It waits for the delay
that it asked for, in whatever states it was launched and ended. -/
def Ran (work : Work σ) (start time : Nat) (failure : Option String) : Prop :=
  ∃ s s', time = start + (work start s).2.delay ∧ failure = ((work start s).2.finish time s').2

/-- What is left of the unit, launched at `start`. -/
def Launched (work : Work σ) (start : Nat) (w : Waiting σ) : Prop :=
  ∃ s, w.due = start + (work start s).2.delay ∧ w.finish = (work start s).2.finish

/-- What has been seen by `now` of a batch that was launched at `start`, with the units
that wait. -/
structure Seen (batch : List (Work σ × Nat)) (start now : Nat) (es : List Event)
    (ws : List (Waiting σ)) : Prop where
  launches : launches es = batch.map fun b => (b.2, start)
  units : ((ends es).map (·.1) ++ ws.map (·.unit)).Perm (batch.map (·.2))
  unchecked : checks es = 0
  own : ∀ {u t failure}, .finish u t failure ∈ es →
    ∃ work, (work, u) ∈ batch ∧ Ran work start t failure
  waiting : ∀ w ∈ ws, ∃ work, (work, w.unit) ∈ batch ∧ Launched work start w
  start_le : start ≤ now
  bound : ∀ e ∈ ends es, e.2 ≤ now
  last : ends es ≠ [] → ∃ e ∈ ends es, e.2 = now

namespace Seen

variable {batch : List (Work σ × Nat)} {start now : Nat} {es : List Event} {ws : List (Waiting σ)}

theorem nil (start : Nat) : Seen ([] : List (Work σ × Nat)) start start [] [] :=
  ⟨rfl, .refl _, rfl, nofun, nofun, Nat.le_refl _, nofun, fun h => (h rfl).elim⟩

/-- A unit is launched before the others, and waits. -/
theorem consWaits {work : Work σ} {w : Waiting σ} (h : Seen batch start start es ws)
    (hw : Launched work start w) :
    Seen ((work, w.unit) :: batch) start start (.launch w.unit start :: es) (w :: ws) where
  launches := by simpa [Pacer.launches] using h.launches
  units := List.perm_middle.trans (h.units.cons _)
  unchecked := by simpa [checks] using h.unchecked
  own hmem := by
    rcases List.mem_cons.mp hmem with heq | hmem
    · cases heq
    · obtain ⟨work', hbatch, hran⟩ := h.own hmem
      exact ⟨work', List.mem_cons_of_mem _ hbatch, hran⟩
  waiting := by
    intro x hx
    rcases List.mem_cons.mp hx with rfl | hx
    · exact ⟨work, List.mem_cons_self, hw⟩
    · obtain ⟨work', hbatch, hlaunched⟩ := h.waiting x hx
      exact ⟨work', List.mem_cons_of_mem _ hbatch, hlaunched⟩
  start_le := h.start_le
  bound := h.bound
  last := h.last

/-- A unit is launched before the others, and ends at once. -/
theorem consEnds {work : Work σ} {u : Nat} {failure : Option String}
    (h : Seen batch start start es ws) (hran : Ran work start start failure) :
    Seen ((work, u) :: batch) start start
      (.launch u start :: .finish u start failure :: es) ws where
  launches := by simpa [Pacer.launches] using h.launches
  units := h.units.cons u
  unchecked := by simpa [checks] using h.unchecked
  own hmem := by
    rcases List.mem_cons.mp hmem with heq | hmem
    · cases heq
    · rcases List.mem_cons.mp hmem with heq | hmem
      · cases heq
        exact ⟨work, List.mem_cons_self, hran⟩
      · obtain ⟨work', hbatch, hran'⟩ := h.own hmem
        exact ⟨work', List.mem_cons_of_mem _ hbatch, hran'⟩
  waiting := by
    intro x hx
    obtain ⟨work', hbatch, hlaunched⟩ := h.waiting x hx
    exact ⟨work', List.mem_cons_of_mem _ hbatch, hlaunched⟩
  start_le := h.start_le
  bound := List.forall_mem_cons.mpr ⟨Nat.le_refl _, h.bound⟩
  last _ := ⟨(u, start), List.mem_cons_self, rfl⟩

theorem perm {ws' : List (Waiting σ)} (h : Seen batch start now es ws) (hp : ws'.Perm ws) :
    Seen batch start now es ws' :=
  { h with
    units := ((hp.map _).append_left _).trans h.units
    waiting := fun w hw => h.waiting w (hp.subset hw) }

/-- The clock goes on to the end of a unit that waits. -/
theorem finish {w : Waiting σ} (h : Seen batch start now es (w :: ws)) (hdue : now ≤ w.due)
    (s : σ) : Seen batch start w.due (es ++ [.finish w.unit w.due (w.finish w.due s).2]) ws where
  launches := by simpa [Pacer.launches] using h.launches
  units := by
    have hend : ends [Event.finish w.unit w.due (w.finish w.due s).2] = [(w.unit, w.due)] := rfl
    rw [ends_append, hend, List.map_append, List.append_assoc]
    exact h.units
  unchecked := by simpa [checks] using h.unchecked
  own hmem := by
    rcases List.mem_append.mp hmem with hmem | hmem
    · exact h.own hmem
    · cases List.mem_singleton.mp hmem
      obtain ⟨work, hbatch, s₀, hlate, hfinish⟩ := h.waiting w List.mem_cons_self
      refine ⟨work, hbatch, s₀, s, hlate, ?_⟩
      rw [hfinish]
  waiting x hx := h.waiting x (List.mem_cons_of_mem _ hx)
  start_le := Nat.le_trans h.start_le hdue
  bound := by
    intro e he
    rw [ends_append] at he
    rcases List.mem_append.mp he with he | he
    · exact Nat.le_trans (h.bound e he) hdue
    · cases List.mem_singleton.mp he
      exact Nat.le_refl _
  last _ := ⟨(w.unit, w.due), by simp [ends], rfl⟩

end Seen

/-- What is seen of a batch that has just been launched. -/
theorem launchAll_seen (batch : List (Work σ × Nat)) (p : Progress σ) :
    ∃ es, (launchAll batch p).1.events = p.events ++ es ∧ (launchAll batch p).1.now = p.now ∧
      Seen batch p.now p.now es (launchAll batch p).2 := by
  induction batch generalizing p with
  | nil => exact ⟨[], by simp [launchAll], rfl, .nil p.now⟩
  | cons b rest ih =>
    obtain ⟨work, u⟩ := b
    simp only [launchAll, Progress.launch]
    split
    · next hzero =>
      let ended := ({ p with
        state := (work p.now p.state).1
        events := p.events ++ [.launch u p.now] } : Progress σ).finish u
          (work p.now p.state).2.finish
      have hran : Ran work p.now p.now
          ((work p.now p.state).2.finish p.now (work p.now p.state).1).2 :=
        ⟨p.state, _, by rw [hzero, Nat.add_zero], rfl⟩
      obtain ⟨es, hes, hnow, hseen⟩ := ih ended
      refine ⟨_, ?_, hnow, hseen.consEnds hran⟩
      rw [hes]
      simp [ended, Progress.finish]
    · obtain ⟨es, hes, hnow, hseen⟩ := ih { p with
        state := (work p.now p.state).1
        events := p.events ++ [.launch u p.now] }
      refine ⟨.launch u p.now :: es, ?_, hnow, ?_⟩
      · rw [hes]
        simp
      · exact hseen.consWaits (w := ⟨u, p.now + _, _⟩) ⟨_, rfl, rfl⟩

theorem insertDue_sorted (w : Waiting σ) {ws : List (Waiting σ)}
    (h : ws.Pairwise fun a b => a.due ≤ b.due) :
    (insertDue w ws).Pairwise fun a b => a.due ≤ b.due := by
  induction ws with
  | nil => exact List.pairwise_singleton _ _
  | cons x xs ih =>
    obtain ⟨hx, hxs⟩ := List.pairwise_cons.mp h
    unfold insertDue
    split
    · next hlt =>
      refine List.pairwise_cons.mpr ⟨fun y hy => ?_, h⟩
      rcases List.mem_cons.mp hy with rfl | hy
      · exact Nat.le_of_lt hlt
      · exact Nat.le_trans (Nat.le_of_lt hlt) (hx y hy)
    · next hle =>
      refine List.pairwise_cons.mpr ⟨fun y hy => ?_, ih hxs⟩
      rcases List.mem_cons.mp ((insertDue_perm w xs).subset hy) with rfl | hy
      · exact Nat.le_of_not_lt hle
      · exact hx y hy

theorem sortDue_sorted (ws : List (Waiting σ)) :
    (sortDue ws).Pairwise fun a b => a.due ≤ b.due := by
  suffices h : ∀ acc : List (Waiting σ), acc.Pairwise (fun a b => a.due ≤ b.due) →
      (ws.foldl (fun acc w => insertDue w acc) acc).Pairwise fun a b => a.due ≤ b.due from h [] .nil
  induction ws with
  | nil => exact fun acc h => h
  | cons w ws ih => exact fun acc h => ih _ (insertDue_sorted w h)

/-- When all that wait have ended, in the order in which they are due, nothing of the
batch is outstanding. -/
theorem finishAll_seen {batch : List (Work σ × Nat)} {start : Nat} {old es : List Event}
    (ws : List (Waiting σ)) {p : Progress σ} (h : Seen batch start p.now es ws)
    (hevents : p.events = old ++ es) (hsorted : ws.Pairwise fun a b => a.due ≤ b.due)
    (hnow : ∀ w ∈ ws, p.now ≤ w.due) :
    ∃ es', (finishAll ws p).events = old ++ es' ∧
      Seen batch start (finishAll ws p).now es' [] := by
  induction ws generalizing es p with
  | nil => exact ⟨es, hevents, h⟩
  | cons w ws ih =>
    obtain ⟨hw, hsorted⟩ := List.pairwise_cons.mp hsorted
    have hdue := hnow w List.mem_cons_self
    refine ih (p := { p with now := w.due }.finish w.unit w.finish)
      (h.finish hdue p.state) ?_ hsorted hw
    simp [Progress.finish, hevents]

/-! ## Rounds -/

/-- A batch as it took place. -/
structure Round where
  start : Nat
  settled : Nat
  events : List Event
  start_le : start ≤ settled

/-- The round is one of the given batch. All units are launched in order when it starts, each ends
once by its own delay, and the last end is when the round has settled. -/
structure Round.Runs (r : Round) (batch : List (Work σ × Nat)) : Prop where
  launches : Pacer.launches r.events = batch.map fun b => (b.2, r.start)
  units : ((ends r.events).map (·.1)).Perm (batch.map (·.2))
  unchecked : checks r.events = 0
  own : ∀ {u t failure}, .finish u t failure ∈ r.events →
    ∃ work, (work, u) ∈ batch ∧ Ran work r.start t failure
  bound : ∀ e ∈ ends r.events, e.2 ≤ r.settled
  last : batch ≠ [] → ∃ e ∈ ends r.events, e.2 = r.settled

/-- To settle a batch is to count its units. The clock stands still. -/
theorem foldl_settle_kept [Logged σ] {γ : Type} (failure : γ → Option String) (xs : List γ)
    (p : Progress σ) :
    (xs.foldl (fun q x => q.settle (failure x)) p).now = p.now ∧
      (xs.foldl (fun q x => q.settle (failure x)) p).report.batches = p.report.batches ∧
      (xs.foldl (fun q x => q.settle (failure x)) p).report.skipped = p.report.skipped ∧
      (xs.foldl (fun q x => q.settle (failure x)) p).report.executed =
        p.report.executed + xs.length := by
  induction xs generalizing p with
  | nil => exact ⟨rfl, rfl, rfl, rfl⟩
  | cons x xs ih =>
    obtain ⟨hnow, hbatches, hskipped, hexecuted⟩ := ih (p.settle (failure x))
    rw [List.foldl_cons, hnow, hbatches, hskipped, hexecuted, List.length_cons]
    cases hx : failure x with
    | none =>
      refine ⟨rfl, rfl, rfl, ?_⟩
      simp only [Progress.settle, Report.executed]
      omega
    | some text =>
      refine ⟨rfl, rfl, rfl, ?_⟩
      simp only [Progress.settle, Report.executed]
      omega

/-- A batch takes place as a round from the present time on. -/
theorem runBatch_round [Logged σ] (batch : List (Work σ × Nat)) (p : Progress σ) :
    ∃ r : Round, r.Runs batch ∧ r.start = p.now ∧ (runBatch batch p).now = r.settled ∧
      (runBatch batch p).events = p.events ++ r.events ∧
      (runBatch batch p).report.batches = p.report.batches + 1 ∧
      (runBatch batch p).report.skipped = p.report.skipped ∧
      (runBatch batch p).report.executed = p.report.executed + batch.length := by
  let start := { p with report := { p.report with batches := p.report.batches + 1 } }
  let launched := launchAll batch start
  let ended := finishAll (sortDue launched.2) launched.1
  obtain ⟨es, hes, hnow, hseen⟩ := launchAll_seen batch start
  have hwaits : ∀ w ∈ sortDue launched.2, launched.1.now ≤ w.due := by
    intro w hw
    obtain ⟨work, -, s, hdue, -⟩ := hseen.waiting w (mem_sortDue.mp hw)
    rw [hnow, hdue]
    exact Nat.le_add_right _ _
  rw [← hnow] at hseen
  obtain ⟨es', hes', hdone⟩ := finishAll_seen (sortDue launched.2)
    (hseen.perm (sortDue_perm launched.2)) hes (sortDue_sorted _) hwaits
  have hreport : ended.report = start.report :=
    (finishAll_report _ _).trans (launchAll_report batch start)
  obtain ⟨hnow', hbatches, hskipped, hexecuted⟩ := foldl_settle_kept
    (fun b : Work σ × Nat => failureOf b.2 ended.events) batch ended
  have hevents := (foldl_settle_failed
    (fun b : Work σ × Nat => failureOf b.2 ended.events) batch ended).1
  rw [hreport] at hbatches hskipped hexecuted
  have hunits : ((ends es').map (·.1)).Perm (batch.map (·.2)) := by simpa using hdone.units
  rw [hnow] at hdone
  refine ⟨⟨p.now, ended.now, es', hdone.start_le⟩, ?_, rfl, hnow', hevents.trans hes', hbatches,
    hskipped, hexecuted⟩
  refine ⟨hdone.launches, hunits, hdone.unchecked, hdone.own, hdone.bound, fun hbatch => ?_⟩
  refine hdone.last fun hnone => hbatch ?_
  rw [hnone] at hunits
  exact List.map_eq_nil_iff.mp hunits.nil_eq.symm

/-! ## Timelines -/

/-- What is seen of a round, from the look at the stop condition on. -/
def Round.trace (r : Round) : List Event := .check false :: r.events

/-- Rounds in order. The first one starts at `first`, each later one when the one before has settled
and its window has passed, and `fin` is when the last one has settled, or `now` if there is none. -/
structure Timeline (window first now : Nat) (rounds : List Round) (fin : Nat) : Prop where
  first : ∀ r ∈ rounds.head?, r.start = first
  next : rounds.IsChain fun r r' => r'.start = max r.settled (r.start + window)
  fin : fin = (rounds.getLast?.map (·.settled)).getD now

/-- A round before others, the first of which waits for it to settle and for its window to pass. -/
theorem Timeline.cons {window first now fin : Nat} {r : Round} {rounds : List Round}
    (h : Timeline window (max r.settled (r.start + window)) r.settled rounds fin)
    (hr : r.start = first) : Timeline window first now (r :: rounds) fin where
  first := by
    intro r' hr'
    cases hr'
    exact hr
  next := List.isChain_cons.mpr ⟨h.first, h.next⟩
  fin := by
    rw [h.fin, List.getLast?_cons]
    cases rounds.getLast? <;> rfl

/-- Batches that are run without a stop take place as rounds. -/
theorem runBatches_rounds [Logged σ] (window : Nat) (batches : List (List (Work σ × Nat)))
    (last : Option Nat) (p : Progress σ) :
    ∃ rounds, List.Forall₂ Round.Runs rounds batches ∧
      Timeline window (nextStart window last p.now) p.now rounds
        (runBatches window (fun _ => false) batches last p).now ∧
      (runBatches window (fun _ => false) batches last p).events =
        p.events ++ rounds.flatMap Round.trace ∧
      (runBatches window (fun _ => false) batches last p).report.batches =
        p.report.batches + batches.length ∧
      (runBatches window (fun _ => false) batches last p).report.skipped = p.report.skipped ∧
      (runBatches window (fun _ => false) batches last p).report.executed =
        p.report.executed + batches.flatten.length := by
  induction batches generalizing last p with
  | nil => exact ⟨[], .nil, ⟨nofun, .nil, rfl⟩, by simp [runBatches], rfl, rfl, rfl⟩
  | cons batch rest ih =>
    let begun := { p with
      events := p.events ++ [Event.check false]
      now := nextStart window last p.now }
    obtain ⟨r, hr, hstart, hnow, hevents, hbatches, hskipped, hexecuted⟩ :=
      runBatch_round batch begun
    replace hbatches : _ = p.report.batches + 1 := hbatches
    obtain ⟨rounds, hrounds, htime, hevents', hbatches', hskipped', hexecuted'⟩ :=
      ih (some begun.now) (runBatch batch begun)
    simp only [runBatches, Bool.false_eq_true, if_false]
    refine ⟨r :: rounds, .cons hr hrounds, ?_, ?_, ?_, hskipped'.trans hskipped, ?_⟩
    · have hnext : nextStart window (some begun.now) (runBatch batch begun).now =
          max r.settled (r.start + window) := by
        rw [hnow, hstart]
        rfl
      rw [hnext, hnow] at htime
      exact htime.cons hstart
    · rw [hevents', hevents]
      simp [begun, Round.trace]
    · rw [hbatches', hbatches, List.length_cons]
      omega
    · rw [hexecuted', hexecuted, List.flatten_cons, List.length_append, Nat.add_assoc]

/-! ## Batches of a queue -/

section
variable {α : Type}

theorem chunks_of_ne_nil (size : Nat) {xs : List α} (h : xs ≠ []) :
    chunks size xs = xs.take (max size 1) :: chunks size (xs.drop (max size 1)) := by
  cases xs with
  | nil => exact (h rfl).elim
  | cons x xs =>
    have hsize : max size 1 = size - 1 + 1 := by omega
    rw [chunks, hsize, List.take_succ_cons, List.drop_succ_cons]

theorem take_chunks (size k : Nat) (xs : List α) :
    (chunks size xs).take k = chunks size (xs.take (max size 1 * k)) := by
  induction k generalizing xs with
  | zero => simp [chunks]
  | succ k ih =>
    by_cases h : xs = []
    · subst h
      simp [chunks]
    · have htake : xs.take (max size 1 * (k + 1)) ≠ [] := by
        intro hnil
        rcases List.take_eq_nil_iff.mp hnil with hzero | hnil
        · have hpos : 0 < max size 1 * (k + 1) := Nat.mul_pos (by omega) (by omega)
          omega
        · exact h hnil
      rw [chunks_of_ne_nil size h, chunks_of_ne_nil size htake, List.take_succ_cons, ih,
        List.take_take, List.drop_take, Nat.mul_succ, Nat.add_sub_cancel]
      congr 2
      omega

/-- The `k`th batch is the `k`th stretch of the queue. -/
theorem getElem?_chunks (size k : Nat) (xs : List α) :
    (chunks size xs)[k]? =
      if max size 1 * k < xs.length then some ((xs.drop (max size 1 * k)).take (max size 1))
      else none := by
  induction k generalizing xs with
  | zero =>
    cases xs with
    | nil => simp [chunks]
    | cons x xs => simp [chunks_of_ne_nil]
  | succ k ih =>
    by_cases h : xs = []
    · subst h
      simp [chunks]
    · rw [chunks_of_ne_nil size h, List.getElem?_cons_succ, ih, List.length_drop, List.drop_drop,
        Nat.mul_succ, Nat.add_comm (max size 1) (max size 1 * k)]
      split
      · rw [if_pos (by omega)]
      · rw [if_neg (by omega)]

theorem lt_length_chunks {size k : Nat} {xs : List α} :
    k < (chunks size xs).length ↔ max size 1 * k < xs.length := by
  have hget := getElem?_chunks size k xs
  constructor
  · intro h
    by_contra hle
    rw [if_neg hle, List.getElem?_eq_none_iff] at hget
    omega
  · intro h
    rw [if_pos h] at hget
    exact (List.getElem?_eq_some_iff.mp hget).1

end

/-! ## Runs that are stopped -/

section
variable [Logged σ]

/-- A run that ends at the stop condition, with some units left. -/
def Progress.halt (p : Progress σ) (skipped : Nat) : Progress σ :=
  { p with
    state := Logged.debug .pacing s!"Stop condition met; skipped {skipped} work units" p.state
    events := p.events ++ [.check true]
    report := { p.report with skipped } }

theorem foldl_length {α : Type} (xss : List (List α)) (n : Nat) :
    xss.foldl (fun count xs => count + xs.length) n = n + xss.flatten.length := by
  induction xss generalizing n with
  | nil => rfl
  | cons xs xss ih => rw [List.foldl_cons, ih, List.flatten_cons, List.length_append, Nat.add_assoc]

/-- A run goes through some of the batches as if there were no stop. Then it has gone through all,
or the stop condition holds for the first time. -/
theorem runBatches_stop (window : Nat) (stop : σ → Bool) (batches : List (List (Work σ × Nat)))
    (last : Option Nat) (p : Progress σ) :
    ∃ k ≤ batches.length,
      (∀ j < k, stop (runBatches window (fun _ => false) (batches.take j) last p).state = false) ∧
      (k = batches.length ∧ runBatches window stop batches last p =
          runBatches window (fun _ => false) (batches.take k) last p ∨
        k < batches.length ∧
          stop (runBatches window (fun _ => false) (batches.take k) last p).state = true ∧
          runBatches window stop batches last p =
            (runBatches window (fun _ => false) (batches.take k) last p).halt
              (batches.drop k).flatten.length) := by
  induction batches generalizing last p with
  | nil => exact ⟨0, Nat.le_refl _, nofun, .inl ⟨rfl, rfl⟩⟩
  | cons batch rest ih =>
    cases hstop : stop p.state with
    | true =>
      refine ⟨0, Nat.zero_le _, nofun, .inr ⟨Nat.succ_pos _, hstop, ?_⟩⟩
      simp only [runBatches, hstop, if_true, foldl_length, List.take_zero, List.drop_zero,
        List.flatten_cons, List.length_append, Progress.halt]
    | false =>
      let begun := { p with
        events := p.events ++ [Event.check false]
        now := nextStart window last p.now }
      obtain ⟨k, hk, hearlier, hcase⟩ := ih (some begun.now) (runBatch batch begun)
      refine ⟨k + 1, Nat.succ_le_succ hk, fun j hj => ?_, ?_⟩
      · cases j with
        | zero => exact hstop
        | succ j => exact hearlier j (Nat.lt_of_succ_lt_succ hj)
      · simp only [runBatches, hstop, List.take_succ_cons, List.drop_succ_cons, List.length_cons,
          Nat.add_right_cancel_iff, Nat.add_lt_add_iff_right, Bool.false_eq_true, if_false]
        exact hcase

/-- Where the run of a queue stands after its first `k` batches, if nothing stops it. -/
def boundary (size window : Nat) (units : List (Work σ)) (now : Nat) (s : σ) (k : Nat) :
    Progress σ :=
  run size window (units.take (max size 1 * k)) now s

theorem zipIdx_take {α : Type} (xs : List α) (m : Nat) : (xs.take m).zipIdx = xs.zipIdx.take m := by
  apply List.ext_getElem?
  intro i
  simp only [List.getElem?_take, List.getElem?_zipIdx]
  split <;> rfl

/-- A boundary is reached by the first batches, run without a stop condition. -/
theorem boundary_eq (size window : Nat) (units : List (Work σ)) (now : Nat) (s : σ) (k : Nat) :
    boundary size window units now s k =
      runBatches window (fun _ => false) ((chunks size units.zipIdx).take k) none
        { state := s, now } := by
  rw [take_chunks, ← zipIdx_take]
  rfl

/-- The rounds up to a boundary, with their times and events, and what has been counted by then. -/
theorem boundary_rounds (size window : Nat) (units : List (Work σ)) (now : Nat) (s : σ) {k : Nat}
    (hk : k ≤ (chunks size units.zipIdx).length) :
    ∃ rounds, List.Forall₂ Round.Runs rounds ((chunks size units.zipIdx).take k) ∧
      Timeline window now now rounds (boundary size window units now s k).now ∧
      (boundary size window units now s k).events = rounds.flatMap Round.trace ∧
      (boundary size window units now s k).report.batches = k ∧
      (boundary size window units now s k).report.skipped = 0 ∧
      (boundary size window units now s k).report.executed = min (max size 1 * k) units.length := by
  obtain ⟨rounds, hruns, htime, hevents, hbatches, hskipped, hexecuted⟩ := runBatches_rounds window
    ((chunks size units.zipIdx).take k) none { state := s, now }
  rw [boundary_eq]
  refine ⟨rounds, hruns, htime, hevents, ?_, hskipped, ?_⟩
  · rw [hbatches, List.length_take, Nat.min_eq_left hk]
    exact Nat.zero_add k
  · rw [hexecuted, take_chunks, flatten_chunks, List.length_take, List.length_zipIdx]
    exact Nat.zero_add _

/-- A run goes as far as some boundary, and stops there if some units are left. The stop condition
did not hold at the boundaries before. -/
theorem runUntil_boundary (size window : Nat) (stop : σ → Bool) (units : List (Work σ)) (now : Nat)
    (s : σ) :
    ∃ k ≤ (chunks size units.zipIdx).length,
      (∀ j < k, stop (boundary size window units now s j).state = false) ∧
      (units.length ≤ max size 1 * k ∧
          runUntil size window stop units now s = boundary size window units now s k ∨
        max size 1 * k < units.length ∧ stop (boundary size window units now s k).state = true ∧
          runUntil size window stop units now s =
            (boundary size window units now s k).halt (units.length - max size 1 * k)) := by
  obtain ⟨k, hk, hearlier, hcase⟩ := runBatches_stop window stop (chunks size units.zipIdx) none
    { state := s, now }
  have hleft (k : Nat) : ((chunks size units.zipIdx).drop k).flatten.length =
      units.length - max size 1 * k := by
    have hall : ((chunks size units.zipIdx).take k).flatten.length +
        ((chunks size units.zipIdx).drop k).flatten.length = units.length := by
      rw [← List.length_append, ← List.flatten_append, List.take_append_drop, flatten_chunks,
        List.length_zipIdx]
    rw [take_chunks, flatten_chunks, List.length_take, List.length_zipIdx] at hall
    omega
  simp only [← boundary_eq, hleft] at hearlier hcase
  refine ⟨k, hk, hearlier, hcase.imp ?_ ?_⟩
  · rintro ⟨hlast, hrun⟩
    refine ⟨?_, hrun⟩
    have hnot : ¬k < (chunks size units.zipIdx).length := by omega
    rw [lt_length_chunks, List.length_zipIdx] at hnot
    omega
  · rintro ⟨hlt, hstop, hrun⟩
    rw [lt_length_chunks, List.length_zipIdx] at hlt
    exact ⟨hlt, hstop, hrun⟩

end

end CatalogCrawl.Pacer
