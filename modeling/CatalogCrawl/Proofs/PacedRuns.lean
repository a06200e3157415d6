import CatalogCrawl.Proofs.Rounds

/-! # The pace of a run, and what it accounts for

Rounds follow each other without an overlap, so what is seen up to some moment is a number of
whole rounds and a part of one more (`exists_of_prefix`). Hence the bounds on the units under way
and on the launches within a window (`runUntil_paced`). The report of a run accounts for each
unit of the queue: the first ones were launched, in order, and ended, and the others were left at
the stop (`runUntil_conserves`). -/

namespace CatalogCrawl.Pacer

variable {σ : Type}

/-! ## Parts of the queue -/

theorem mem_slice {α : Type} {xs : List α} {a b : Nat} {x : α × Nat} :
    x ∈ (xs.zipIdx.drop a).take b ↔ xs[x.2]? = some x.1 ∧ a ≤ x.2 ∧ x.2 < a + b := by
  obtain ⟨x, u⟩ := x
  simp only [List.mem_iff_getElem?, List.getElem?_take, List.getElem?_drop, List.getElem?_zipIdx]
  constructor
  · rintro ⟨i, hi⟩
    split at hi
    · obtain ⟨y, hy, heq⟩ := Option.map_eq_some_iff.mp hi
      cases heq
      rw [Nat.zero_add]
      exact ⟨hy, by omega, by omega⟩
    · cases hi
  · rintro ⟨hx, hle, hlt⟩
    refine ⟨u - a, ?_⟩
    rw [if_pos (by omega), Nat.add_sub_cancel' hle, hx, Nat.zero_add]
    rfl

/-- Each round runs the next units of the queue, `size` of them as long as there are so many. -/
def Covers (size : Nat) (units : List (Work σ)) (rounds : List Round) : Prop :=
  ∀ k r, rounds[k]? = some r →
    size * k < units.length ∧ r.Runs ((units.zipIdx.drop (size * k)).take size)

/-- Rounds that run the first batches of a queue cover it in order. -/
theorem covers_of_forall₂ {size : Nat} {units : List (Work σ)} {rounds : List Round} {k : Nat}
    (h : List.Forall₂ Round.Runs rounds ((chunks size units.zipIdx).take k)) :
    Covers (max size 1) units rounds := by
  intro j r hr
  obtain ⟨hj, rfl⟩ := List.getElem?_eq_some_iff.mp hr
  obtain ⟨hlen, hget⟩ := List.forall₂_iff_get.mp h
  have hruns := hget j hj (hlen ▸ hj)
  have hchunk : (chunks size units.zipIdx)[j]? =
      some (((chunks size units.zipIdx).take k).get ⟨j, hlen ▸ hj⟩) := by
    rw [List.get_eq_getElem, List.getElem_take, List.getElem?_eq_getElem]
  rw [getElem?_chunks, List.length_zipIdx] at hchunk
  split at hchunk
  · next hlt =>
    rw [← Option.some.inj hchunk] at hruns
    exact ⟨hlt, hruns⟩
  · cases hchunk

namespace Covers

variable {size : Nat} {units : List (Work σ)} {rounds : List Round} {k u t : Nat} {r : Round}

theorem length_launches_le (h : Covers size units rounds) (hr : r ∈ rounds) :
    (launches r.events).length ≤ size := by
  obtain ⟨k, hk⟩ := List.mem_iff_getElem?.mp hr
  rw [(h k r hk).2.launches, List.length_map, List.length_take]
  exact Nat.min_le_left _ _

/-- The units of the `k`th round are those of its stretch, launched when it starts. -/
theorem launch (h : Covers size units rounds) (hr : rounds[k]? = some r)
    (hl : (u, t) ∈ launches r.events) :
    t = r.start ∧ size * k ≤ u ∧ u < size * k + size ∧ u < units.length := by
  rw [(h k r hr).2.launches] at hl
  obtain ⟨b, hb, heq⟩ := List.mem_map.mp hl
  cases heq
  obtain ⟨hget, hle, hlt⟩ := mem_slice.mp hb
  exact ⟨rfl, hle, hlt, (List.getElem?_eq_some_iff.mp hget).1⟩

/-- Each unit of a round has ended when the round settles. -/
theorem ended (h : Covers size units rounds) (hr : rounds[k]? = some r) (hu : u < units.length)
    (hle : size * k ≤ u) (hlt : u < size * k + size) :
    ∃ t, (u, t) ∈ ends r.events ∧ t ≤ r.settled := by
  have hruns := (h k r hr).2
  have hbatch : (units[u], u) ∈ (units.zipIdx.drop (size * k)).take size :=
    mem_slice.mpr ⟨List.getElem?_eq_getElem hu, hle, hlt⟩
  have hend : u ∈ (ends r.events).map (·.1) :=
    hruns.units.symm.subset (List.mem_map_of_mem (f := Prod.snd) hbatch)
  obtain ⟨e, he, rfl⟩ := List.mem_map.mp hend
  exact ⟨e.2, he, hruns.bound e he⟩

/-- Whatever a round launches, it ends. -/
theorem launched_ends (h : Covers size units rounds) (hr : r ∈ rounds)
    (hl : (u, t) ∈ launches r.events) : u ∈ (ends r.events).map (·.1) := by
  obtain ⟨k, hk⟩ := List.mem_iff_getElem?.mp hr
  have hruns := (h k r hk).2
  rw [hruns.launches] at hl
  obtain ⟨b, hb, heq⟩ := List.mem_map.mp hl
  cases heq
  exact hruns.units.symm.subset (List.mem_map_of_mem (f := Prod.snd) hb)

end Covers

/-! ## Moments -/

section
variable {rounds : List Round} {es : List Event}

@[simp] theorem Round.launches_trace (r : Round) : launches r.trace = launches r.events := by
  simp [trace, launches]

@[simp] theorem Round.ends_trace (r : Round) : ends r.trace = ends r.events := by simp [trace, ends]

theorem launches_flatMap (rounds : List Round) :
    launches (rounds.flatMap Round.trace) = rounds.flatMap (launches ·.events) := by
  rw [launches, List.filterMap_flatMap]
  exact List.flatMap_congr fun r _ => r.launches_trace

theorem mem_launches_flatMap {l : Nat × Nat} :
    l ∈ launches (rounds.flatMap Round.trace) ↔ ∃ r ∈ rounds, l ∈ launches r.events := by
  simp [mem_launches, Round.trace]

theorem mem_ends_flatMap {e : Nat × Nat} :
    e ∈ ends (rounds.flatMap Round.trace) ↔ ∃ r ∈ rounds, e ∈ ends r.events := by
  simp only [mem_ends, List.mem_flatMap, Round.trace, List.mem_cons, reduceCtorEq, false_or]
  constructor
  · rintro ⟨failure, r, hr, he⟩
    exact ⟨r, hr, failure, he⟩
  · rintro ⟨r, hr, failure, he⟩
    exact ⟨failure, r, hr, he⟩

section
variable (b : Prop) [Decidable b]

theorem launches_stop : launches (es ++ if b then [.check true] else []) = launches es := by
  rw [launches_append]
  split <;> exact List.append_nil _

theorem outcomes_stop : outcomes (es ++ if b then [.check true] else []) = outcomes es := by
  rw [outcomes_append]
  split <;> exact List.append_nil _

theorem checks_stop :
    checks (es ++ if b then [.check true] else []) = checks es + if b then 1 else 0 := by
  rw [checks_append]
  split <;> rfl

theorem prefix_stop {past : List Event} (h : past <+: es ++ if b then [.check true] else []) :
    past <+: es ∨ past = es ++ [.check true] := by
  split at h
  · exact (List.prefix_concat_iff.mp h).symm
  · rw [List.append_nil] at h
    exact .inl h

end

/-- An event of the whole belongs to one part, and all parts before it are over. -/
theorem exists_of_prefix {α β : Type} {f : α → List β} {xs : List α} {past : List β} {b : β}
    (h : past ++ [b] <+: xs.flatMap f) :
    ∃ done x rest part, xs = done ++ x :: rest ∧ past = done.flatMap f ++ part ∧
      part ++ [b] <+: f x := by
  induction xs generalizing past with
  | nil => simp at h
  | cons x xs ih =>
    rw [List.flatMap_cons] at h
    have hfirst (hpast : past ++ [b] <+: f x) :
        ∃ done y rest part, x :: xs = done ++ y :: rest ∧ past = done.flatMap f ++ part ∧
          part ++ [b] <+: f y := ⟨[], x, xs, past, rfl, rfl, hpast⟩
    rcases List.prefix_or_prefix_of_prefix h (List.prefix_append (f x) _) with hpast | hpast
    · exact hfirst hpast
    · rcases List.prefix_concat_iff.mp hpast with heq | ⟨later, rfl⟩
      · exact hfirst (heq ▸ List.prefix_refl _)
      · rw [List.append_assoc, List.prefix_append_right_inj] at h
        obtain ⟨done, y, rest, part, rfl, rfl, hpart⟩ := ih h
        exact ⟨x :: done, y, rest, part, rfl, by simp, hpart⟩

/-- The units that are launched and have not ended. -/
def underway (es : List Event) : List Nat :=
  ((launches es).map (·.1)).filter (· ∉ (ends es).map (·.1))

theorem underway_check (es : List Event) (stop : Bool) :
    underway (es ++ [.check stop]) = underway es := by
  have hlaunches : launches [.check stop] = [] := rfl
  have hends : ends [.check stop] = [] := rfl
  simp only [underway, launches_append, ends_append, hlaunches, hends, List.append_nil]

/-- With whole rounds before, only units of the present round can be under way. -/
theorem length_underway_le {size : Nat} {units : List (Work σ)} (h : Covers size units rounds)
    (hpast : es <+: rounds.flatMap Round.trace) : (underway es).length ≤ size := by
  rcases List.eq_nil_or_concat es with rfl | ⟨past, b, rfl⟩
  · exact Nat.zero_le _
  · rw [List.concat_eq_append] at hpast ⊢
    obtain ⟨done, r, rest, part, rfl, rfl, hpart⟩ := exists_of_prefix hpast
    rw [List.append_assoc]
    have hdone : ((launches (done.flatMap Round.trace)).map (·.1)).filter
        (· ∉ (ends (done.flatMap Round.trace ++ (part ++ [b]))).map (·.1)) = [] := by
      refine List.filter_eq_nil_iff.mpr fun u hu => ?_
      obtain ⟨l, hl, rfl⟩ := List.mem_map.mp hu
      obtain ⟨r', hr', hl⟩ := mem_launches_flatMap.mp hl
      obtain ⟨e, he, heq⟩ := List.mem_map.mp (h.launched_ends (List.mem_append_left _ hr') hl)
      have hend : e ∈ ends (done.flatMap Round.trace ++ (part ++ [b])) := by
        rw [ends_append]
        exact List.mem_append_left _ (mem_ends_flatMap.mpr ⟨r', hr', he⟩)
      have hmem := List.mem_map_of_mem (f := Prod.fst) hend
      rw [heq] at hmem
      simpa only [decide_eq_true_eq, not_not] using hmem
    have hlaunches : (launches (part ++ [b])).length ≤ size := by
      refine Nat.le_trans ?_ (h.length_launches_le (List.mem_append_right done List.mem_cons_self))
      rw [← Round.launches_trace]
      exact (hpart.sublist.filterMap _).length_le
    rw [underway, launches_append, List.map_append, List.filter_append, hdone, List.nil_append]
    refine Nat.le_trans (List.length_filter_le _ _) ?_
    rw [List.length_map]
    exact hlaunches

end

/-! ## The order of rounds -/

/-- The later round starts when the earlier one has settled, and a window after its start. -/
def Round.Before (window : Nat) (r r' : Round) : Prop :=
  r.settled ≤ r'.start ∧ r.start + window ≤ r'.start

instance (window : Nat) :
    Trans (Round.Before window) (Round.Before window) (Round.Before window) where
  trans {r r' r''} h h' := by
    have := r'.start_le
    obtain ⟨hsettled, hstart⟩ := h
    obtain ⟨hsettled', hstart'⟩ := h'
    exact ⟨by omega, by omega⟩

section
variable {window first now fin size : Nat} {rounds : List Round}

theorem Timeline.before (h : Timeline window first now rounds fin) :
    rounds.Pairwise (Round.Before window) := by
  refine List.isChain_iff_pairwise.mp (h.next.imp fun r r' hnext => ?_)
  rw [Round.Before, hnext]
  omega

/-- In a window's time there is a launch of one round at most. -/
theorem countP_launches_le (h : rounds.Pairwise (Round.Before window))
    (hsize : ∀ r ∈ rounds, (launches r.events).length ≤ size)
    (hstart : ∀ r ∈ rounds, ∀ l ∈ launches r.events, l.2 = r.start) (t : Nat) :
    (rounds.flatMap (launches ·.events)).countP (fun l => t ≤ l.2 ∧ l.2 < t + window) ≤ size := by
  induction rounds with
  | nil => exact Nat.zero_le _
  | cons r rest ih =>
    obtain ⟨hr, hrest⟩ := List.pairwise_cons.mp h
    obtain ⟨hsize₁, hsize₂⟩ := List.forall_mem_cons.mp hsize
    obtain ⟨hstart₁, hstart₂⟩ := List.forall_mem_cons.mp hstart
    rw [List.flatMap_cons, List.countP_append]
    by_cases hin : t ≤ r.start ∧ r.start < t + window
    · -- the rounds to come start too late
      have hlate : (rest.flatMap (launches ·.events)).countP
          (fun l => t ≤ l.2 ∧ l.2 < t + window) = 0 := by
        refine List.countP_eq_zero.mpr fun l hl => ?_
        obtain ⟨r', hr', hl⟩ := List.mem_flatMap.mp hl
        have hlater := (hr r' hr').2
        rw [hstart₂ r' hr' l hl]
        simp only [decide_eq_true_eq]
        omega
      rw [hlate]
      exact Nat.le_trans List.countP_le_length hsize₁
    · have hout : (launches r.events).countP (fun l => t ≤ l.2 ∧ l.2 < t + window) = 0 := by
        refine List.countP_eq_zero.mpr fun l hl => ?_
        rw [hstart₁ l hl]
        simpa using hin
      rw [hout, Nat.zero_add]
      exact ih hrest hsize₂ hstart₂

/-- When a unit is launched, all units of earlier rounds have ended. -/
theorem Covers.earlier_ended {units : List (Work σ)} (h : Covers size units rounds)
    (htime : Timeline window first now rounds fin) {past : List Event} {u t v : Nat}
    (hpast : past ++ [.launch u t] <+: rounds.flatMap Round.trace) (hv : v / size < u / size) :
    ∃ t' ≤ t, (v, t') ∈ ends past := by
  obtain ⟨done, r, rest, part, rfl, rfl, hpart⟩ := exists_of_prefix hpast
  have hr : (done ++ r :: rest)[done.length]? = some r := by simp
  have hlaunch : (u, t) ∈ launches r.events := by
    rw [← Round.launches_trace, mem_launches]
    exact hpart.subset (List.mem_append_right _ List.mem_cons_self)
  obtain ⟨rfl, hle, hlt, hu⟩ := h.launch hr hlaunch
  have hsize : 0 < size := by omega
  have hk : u / size = done.length := by
    rw [Nat.div_eq_iff hsize, Nat.mul_comm]
    omega
  have hvu : v < u := by
    by_contra hnot
    have := Nat.div_le_div_right (c := size) (Nat.le_of_not_lt hnot)
    omega
  -- the round of the earlier unit
  have hj : v / size < done.length := hk ▸ hv
  have hr' : (done ++ r :: rest)[v / size]? = some done[v / size] := by
    rw [List.getElem?_append_left hj, List.getElem?_eq_getElem hj]
  have hmod : size * (v / size) ≤ v ∧ v < size * (v / size) + size :=
    ⟨Nat.mul_div_le v size, Nat.lt_mul_div_succ v hsize⟩
  obtain ⟨t', hend, hsettled⟩ := h.ended hr' (Nat.lt_trans hvu hu) hmod.1 hmod.2
  have hbefore : Round.Before window done[v / size] r :=
    (List.pairwise_append.mp htime.before).2.2 _ (List.getElem_mem hj) r List.mem_cons_self
  refine ⟨t', Nat.le_trans hsettled hbefore.1, ?_⟩
  rw [ends_append]
  exact List.mem_append_left _ (mem_ends_flatMap.mpr ⟨_, List.getElem_mem hj, hend⟩)

/-- In any window's time at most one round is launched. -/
theorem Covers.countP_launches_le {units : List (Work σ)} (h : Covers size units rounds)
    (htime : Timeline window first now rounds fin) (t : Nat) :
    (launches (rounds.flatMap Round.trace)).countP (fun l => t ≤ l.2 ∧ l.2 < t + window) ≤
      size := by
  rw [launches_flatMap]
  refine Pacer.countP_launches_le htime.before (fun r hr => h.length_launches_le hr) ?_ t
  intro r hr l hl
  obtain ⟨k, hk⟩ := List.mem_iff_getElem?.mp hr
  exact (h.launch hk hl).1

end

/-! ## The rounds of a run -/

/-- The rounds of a run, and what it reports by the boundary that it reached. -/
theorem runUntil_rounds [Logged σ] (size window : Nat) (stop : σ → Bool) (units : List (Work σ))
    (now : Nat) (s : σ) :
    let p := runUntil size window stop units now s
    let reached := boundary size window units now s p.report.batches
    ∃ rounds, List.Forall₂ Round.Runs rounds ((chunks size units.zipIdx).take p.report.batches) ∧
      Timeline window now now rounds p.now ∧
      p.events = rounds.flatMap Round.trace ++
        (if 0 < p.report.skipped then [.check true] else []) ∧
      p.report.batches ≤ (chunks size units.zipIdx).length ∧
      p.report.executed = min (max size 1 * p.report.batches) units.length ∧
      p.report.skipped = units.length - max size 1 * p.report.batches ∧
      p = (if 0 < p.report.skipped then reached.halt p.report.skipped else reached) ∧
      (0 < p.report.skipped → stop reached.state = true) ∧
      ∀ k < p.report.batches, stop (boundary size window units now s k).state = false := by
  obtain ⟨k, hk, hearlier, hcase⟩ := runUntil_boundary size window stop units now s
  obtain ⟨rounds, hruns, htime, hevents, hbatches, hskipped, hexecuted⟩ :=
    boundary_rounds size window units now s hk
  rcases hcase with ⟨hall, hrun⟩ | ⟨hleft, hstop, hrun⟩
  · simp only [hrun, hbatches, hskipped, hexecuted, hevents]
    exact ⟨rounds, hruns, htime, by simp, hk, trivial, by omega, rfl, nofun, hearlier⟩
  · have hsome : 0 < units.length - max size 1 * k := by omega
    have hreport :
        ((boundary size window units now s k).halt (units.length - max size 1 * k)).report =
        { (boundary size window units now s k).report with
          skipped := units.length - max size 1 * k } := rfl
    have hcut : ((boundary size window units now s k).halt (units.length - max size 1 * k)).events =
        (boundary size window units now s k).events ++ [.check true] := rfl
    simp only [hrun, hreport, hcut, hbatches, hevents, if_pos hsome]
    exact ⟨rounds, hruns, htime, rfl, hk, hexecuted, trivial, trivial, fun _ => hstop, hearlier⟩

/-- A run has no round just if there is nothing to do, or it is to stop before it begins. -/
theorem batches_runUntil_eq_zero_iff [Logged σ] (size window : Nat) (stop : σ → Bool)
    (units : List (Work σ)) (now : Nat) (s : σ) :
    (runUntil size window stop units now s).report.batches = 0 ↔ units = [] ∨ stop s = true := by
  obtain ⟨-, -, -, -, hk, -, hskipped, -, hstop, hearlier⟩ :=
    runUntil_rounds size window stop units now s
  have hstart : (boundary size window units now s 0).state = s := by
    rw [boundary_eq, List.take_zero]
    rfl
  generalize runUntil size window stop units now s = p at *
  constructor
  · intro hnone
    rw [hnone, Nat.mul_zero, Nat.sub_zero] at hskipped
    rw [hskipped, hnone, hstart] at hstop
    cases units with
    | nil => exact .inl rfl
    | cons unit rest => exact .inr (hstop (Nat.succ_pos _))
  · rintro (rfl | hstopped)
    · rw [List.zipIdx_nil, chunks] at hk
      exact Nat.le_zero.mp hk
    · refine Nat.eq_zero_of_not_pos fun hpos => ?_
      have hgoes := hearlier 0 hpos
      rw [hstart, hstopped] at hgoes
      cases hgoes

/-- The launches in a window's time. -/
theorem countP_launches_runUntil_le [Logged σ] (size window : Nat) (stop : σ → Bool)
    (units : List (Work σ)) (now : Nat) (s : σ) (t : Nat) :
    (launches (runUntil size window stop units now s).events).countP
      (fun l => t ≤ l.2 ∧ l.2 < t + window) ≤ max size 1 := by
  obtain ⟨rounds, hruns, htime, hevents, -⟩ := runUntil_rounds size window stop units now s
  rw [hevents, launches_stop]
  exact (covers_of_forall₂ hruns).countP_launches_le htime t

/-- **The pace of a run.** Whatever the units do, every run falls into rounds of at most
`max size 1` units, taken from the queue in order. There is a first round unless the queue is empty
or the stop condition holds at the start. It starts at once, each later one when the one before has
settled and its window has passed, and the run ends when the last one has settled. Hence a unit is
launched only after all units of earlier rounds have ended, at most `max size 1` units are under way
at any moment, and so many are launched in any window's time. -/
theorem runUntil_paced [Logged σ] (size window : Nat) (stop : σ → Bool) (units : List (Work σ))
    (now : Nat) (s : σ) :
    let p := runUntil size window stop units now s
    ∃ rounds : List Round, rounds.length = p.report.batches ∧ Covers (max size 1) units rounds ∧
      (rounds = [] ↔ units = [] ∨ stop s = true) ∧ Timeline window now now rounds p.now ∧
      p.events = rounds.flatMap Round.trace ++
        (if 0 < p.report.skipped then [.check true] else []) ∧
      (∀ past u t, past ++ [.launch u t] <+: p.events →
        ∀ v, v / max size 1 < u / max size 1 → ∃ t' ≤ t, (v, t') ∈ ends past) ∧
      (∀ past, past <+: p.events → (underway past).length ≤ max size 1) ∧
      ∀ t, (launches p.events).countP (fun l => t ≤ l.2 ∧ l.2 < t + window) ≤ max size 1 := by
  obtain ⟨rounds, hruns, htime, hevents, hk, -⟩ := runUntil_rounds size window stop units now s
  have hrate := countP_launches_runUntil_le size window stop units now s
  have hfirst := batches_runUntil_eq_zero_iff size window stop units now s
  dsimp only
  generalize runUntil size window stop units now s = p at *
  have hcovers := covers_of_forall₂ hruns
  have hlength : rounds.length = p.report.batches := by
    rw [hruns.length_eq, List.length_take, Nat.min_eq_left hk]
  refine ⟨rounds, hlength, hcovers, ?_, htime, hevents, ?_, ?_, hrate⟩
  · rw [← List.length_eq_zero_iff, hlength]
    exact hfirst
  · intro past u t hpast v hv
    rw [hevents] at hpast
    rcases prefix_stop _ hpast with hpast | heq
    · exact hcovers.earlier_ended htime hpast hv
    · cases List.singleton_inj.mp (List.append_inj' heq rfl).2
  · intro past hpast
    rw [hevents] at hpast
    rcases prefix_stop _ hpast with hpast | rfl
    · exact length_underway_le hcovers hpast
    · rw [underway_check]
      exact length_underway_le hcovers (List.prefix_refl _)

/-! ## Accounting -/

section
variable {rounds : List Round} {batches : List (List (Work σ × Nat))}

theorem launches_of_runs (h : List.Forall₂ Round.Runs rounds batches) :
    (launches (rounds.flatMap Round.trace)).map (·.1) = batches.flatten.map (·.2) := by
  induction h with
  | nil => rfl
  | @cons r batch rounds batches hr _ ih =>
    rw [List.flatMap_cons, launches_append, List.map_append, ih, Round.launches_trace, hr.launches,
      List.flatten_cons, List.map_append, List.map_map]
    rfl

theorem ends_of_runs (h : List.Forall₂ Round.Runs rounds batches) :
    ((ends (rounds.flatMap Round.trace)).map (·.1)).Perm (batches.flatten.map (·.2)) := by
  induction h with
  | nil => exact .refl _
  | @cons r batch rounds batches hr _ ih =>
    rw [List.flatMap_cons, ends_append, List.map_append, Round.ends_trace, List.flatten_cons,
      List.map_append]
    exact hr.units.append ih

theorem checks_of_runs (h : List.Forall₂ Round.Runs rounds batches) :
    checks (rounds.flatMap Round.trace) = rounds.length := by
  induction h with
  | nil => rfl
  | @cons r batch rounds batches hr _ ih =>
    have htrace : checks r.trace = 1 := by
      have hunchecked := hr.unchecked
      rw [Round.trace]
      simpa [checks] using hunchecked
    rw [List.flatMap_cons, checks_append, ih, htrace, List.length_cons, Nat.add_comm]

end

/-- An outcome is that of a unit of the queue, from its launch to its end. -/
theorem Covers.own {size : Nat} {units : List (Work σ)} {rounds : List Round} {u : Nat}
    {failure : Option String} (h : Covers size units rounds)
    (ho : (u, failure) ∈ outcomes (rounds.flatMap Round.trace)) :
    ∃ work start time, units[u]? = some work ∧ (u, start) ∈ launches (rounds.flatMap Round.trace) ∧
      Ran work start time failure := by
  obtain ⟨t, ht⟩ := mem_outcomes.mp ho
  obtain ⟨r, hr, ht⟩ := List.mem_flatMap.mp ht
  rcases List.mem_cons.mp ht with heq | ht
  · cases heq
  · obtain ⟨k, hk⟩ := List.mem_iff_getElem?.mp hr
    have hruns := (h k r hk).2
    obtain ⟨work, hwork, hran⟩ := hruns.own ht
    have hlaunch : (u, r.start) ∈ launches r.events := by
      rw [hruns.launches]
      exact List.mem_map_of_mem hwork
    exact ⟨work, r.start, t, (mem_slice.mp hwork).1, mem_launches_flatMap.mpr ⟨r, hr, hlaunch⟩,
      hran⟩

theorem countP_isNone_add_failures (es : List Event) :
    (outcomes es).countP (·.2.isNone) + failures es = (outcomes es).length := by
  rw [List.length_eq_countP_add_countP (·.2.isNone), failures]
  congr 1
  refine List.countP_congr fun o _ => ?_
  cases o.2 <;> simp

/-- As many batches as the launched units fill, the last one perhaps in part. -/
theorem div_of_min {size k n : Nat} (hsize : 0 < size) (hk : k = 0 ∨ size * (k - 1) < n) :
    (min (size * k) n + size - 1) / size = k := by
  rw [Nat.div_eq_iff hsize, Nat.mul_comm]
  cases k with
  | zero => omega
  | succ k =>
    rw [Nat.add_sub_cancel] at hk
    rw [Nat.mul_succ]
    omega

/-- **Every unit is accounted for.** A run launches the first units of its queue, each once and in
order, and none of the others. Each launched unit ends once, as it does itself, and is counted as a
success or a failure by how it ended. The batches are full but for the last one. What is left is
counted as skipped and has no part in the run, which is that of its batches up to the note of the
stop. Then the stop condition holds after the last batch; it did not hold before, and was looked at
once for each batch and once more at the stop. A run without a stop condition skips nothing. -/
theorem runUntil_conserves [Logged σ] (size window : Nat) (stop : σ → Bool) (units : List (Work σ))
    (now : Nat) (s : σ) :
    let p := runUntil size window stop units now s
    let reached := boundary size window units now s p.report.batches
    (launches p.events).map (·.1) = List.range p.report.executed ∧
      ((outcomes p.events).map (·.1)).Perm (List.range p.report.executed) ∧
      (∀ u failure, (u, failure) ∈ outcomes p.events →
        ∃ work start time, units[u]? = some work ∧ (u, start) ∈ launches p.events ∧
          Ran work start time failure) ∧
      p.report.succeeded = (outcomes p.events).countP (·.2.isNone) ∧
      p.report.failed = (outcomes p.events).countP (·.2.isSome) ∧
      p.report.succeeded + p.report.failed + p.report.skipped = units.length ∧
      p.report.batches = (p.report.executed + max size 1 - 1) / max size 1 ∧
      p.report.executed = min units.length (max size 1 * p.report.batches) ∧
      p = (if 0 < p.report.skipped then reached.halt p.report.skipped else reached) ∧
      (0 < p.report.skipped → stop reached.state = true) ∧
      (∀ k < p.report.batches, stop (boundary size window units now s k).state = false) ∧
      checks p.events = p.report.batches + (if 0 < p.report.skipped then 1 else 0) ∧
      (run size window units now s).report.skipped = 0 := by
  obtain ⟨rounds, hruns, -, hevents, hk, hexecuted, hskipped, hreached, hstop, hearlier⟩ :=
    runUntil_rounds size window stop units now s
  have hfailed := runUntil_failed size window stop units now s
  dsimp only
  generalize runUntil size window stop units now s = p at *
  have hunits : ((chunks size units.zipIdx).take p.report.batches).flatten.map (·.2) =
      List.range p.report.executed := by
    rw [take_chunks, flatten_chunks, ← zipIdx_take, List.zipIdx_map_snd, List.length_take,
      ← hexecuted, List.range_eq_range']
  have hended : ((outcomes p.events).map (·.1)).Perm (List.range p.report.executed) := by
    rw [hevents, outcomes_stop, map_outcomes, ← hunits]
    exact ends_of_runs hruns
  have hcount : (outcomes p.events).countP (·.2.isNone) + p.report.failed = p.report.executed := by
    have hlength := hended.length_eq
    rw [List.length_map, List.length_range] at hlength
    rw [hfailed, countP_isNone_add_failures, hlength]
  have hsum : p.report.executed = p.report.succeeded + p.report.failed := rfl
  refine ⟨?_, hended, ?_, by omega, hfailed, by omega, ?_, by omega, hreached, hstop, hearlier, ?_,
    ?_⟩
  · rw [hevents, launches_stop, launches_of_runs hruns, hunits]
  · intro u failure ho
    rw [hevents, outcomes_stop] at ho
    rw [hevents, launches_stop]
    exact (covers_of_forall₂ hruns).own ho
  · rw [hexecuted]
    refine (div_of_min (Nat.lt_of_lt_of_le Nat.one_pos (Nat.le_max_right _ _)) ?_).symm
    rcases Nat.eq_zero_or_pos p.report.batches with hzero | hpos
    · exact .inl hzero
    · refine .inr ?_
      have hlast : p.report.batches - 1 < (chunks size units.zipIdx).length := by omega
      rwa [lt_length_chunks, List.length_zipIdx] at hlast
  · rw [hevents, checks_stop, checks_of_runs hruns, hruns.length_eq, List.length_take,
      Nat.min_eq_left hk]
  · obtain ⟨-, -, -, -, -, -, -, -, hnever, -⟩ :=
      runUntil_rounds size window (fun _ => false) units now s
    by_contra hne
    cases hnever (Nat.pos_of_ne_zero hne)

end CatalogCrawl.Pacer
