import CatalogCrawl.Proofs.Interleaving

/-! # Two runs in lockstep

Two runs whose units wait for equally long, and that agree on when to stop, launch and end the same
units at the same times, whatever their units do besides. So a relation between the two states that
each launch, each end and each note in both keeps holds at the end of both, and they have the same
report, events and clock (`runUntil_lockstep`). -/

namespace CatalogCrawl.Pacer

variable {α β σ τ : Type}

/-- A relation between the states of two runs, by the units that wait and the tickets of those
in flight, which everything that can happen in both keeps. The ticket of a unit says how it
ends in either. -/
structure Coupling [Logged σ] [Logged τ] (unit : α → Work σ) (unit' : α → Work τ)
    (ends : β → Nat → σ → σ × Option String) (ends' : β → Nat → τ → τ × Option String)
    (stop : σ → Bool) (stop' : τ → Bool) (I : List α → List β → σ → τ → Prop) : Prop where
  note : ∀ {q fl s t} r, I q fl s t → I q fl (Logged.note r s) (Logged.note r t)
  launch : ∀ {x q fl s t} now, I (x :: q) fl s t →
    (unit x now s).2.delay = (unit' x now t).2.delay ∧
      ∃ b, (unit x now s).2.finish = ends b ∧ (unit' x now t).2.finish = ends' b ∧
        I q (fl ++ [b]) (unit x now s).1 (unit' x now t).1
  finish : ∀ {q fl b fl' s t} now, I q (fl ++ b :: fl') s t →
    (ends b now s).2 = (ends' b now t).2 ∧ I q (fl ++ fl') (ends b now s).1 (ends' b now t).1
  agree : ∀ {q s t}, I q [] s t → stop s = stop' t
  halt : ∀ {q s t}, stop s = true → I q [] s t → I [] [] s t

/-- Two runs that cannot be told apart but by their states, which are related. -/
structure InStep (R : σ → τ → Prop) (p : Progress σ) (p' : Progress τ) : Prop where
  now : p.now = p'.now
  events : p.events = p'.events
  report : p.report = p'.report
  state : R p.state p'.state

/-- Units that wait in two runs, each for the same time in both. -/
def Abreast (zs : List (Waiting σ × Waiting τ)) : Prop :=
  ∀ z ∈ zs, z.1.unit = z.2.unit ∧ z.1.due = z.2.due

/-- How the units that wait end in either run. -/
def endings (zs : List (Waiting σ × Waiting τ)) :
    List ((Nat → σ → σ × Option String) × (Nat → τ → τ × Option String)) :=
  zs.map fun z => (z.1.finish, z.2.finish)

/-! ## The order of the ends -/

/-- A pair that is due at one time is put in the same place on both sides. -/
theorem insertDue_abreast {z : Waiting σ × Waiting τ} {zs : List (Waiting σ × Waiting τ)}
    (hz : z.1.due = z.2.due) (hzs : Abreast zs) :
    ∃ zs' : List (Waiting σ × Waiting τ), insertDue z.1 (zs.map (·.1)) = zs'.map (·.1) ∧
      insertDue z.2 (zs.map (·.2)) = zs'.map (·.2) ∧ zs'.Perm (z :: zs) := by
  induction zs with
  | nil => exact ⟨[z], rfl, rfl, .refl _⟩
  | cons x xs ih =>
    obtain ⟨⟨-, hx⟩, hxs⟩ := List.forall_mem_cons.mp hzs
    simp only [List.map_cons, insertDue, ← hz, ← hx]
    split
    · exact ⟨z :: x :: xs, rfl, rfl, .refl _⟩
    · obtain ⟨zs', hfst, hsnd, hperm⟩ := ih hxs
      refine ⟨x :: zs', ?_, ?_, (hperm.cons x).trans (.swap z x xs)⟩
      · rw [hfst, List.map_cons]
      · rw [hsnd, List.map_cons]

/-- The units end in one order in both runs. -/
theorem sortDue_abreast {zs : List (Waiting σ × Waiting τ)} (hzs : Abreast zs) :
    ∃ zs' : List (Waiting σ × Waiting τ), sortDue (zs.map (·.1)) = zs'.map (·.1) ∧
      sortDue (zs.map (·.2)) = zs'.map (·.2) ∧ zs'.Perm zs := by
  suffices h : ∀ acc : List (Waiting σ × Waiting τ), Abreast acc →
      ∃ zs' : List (Waiting σ × Waiting τ),
        (zs.map (·.1)).foldl (fun acc w => insertDue w acc) (acc.map (·.1)) = zs'.map (·.1) ∧
        (zs.map (·.2)).foldl (fun acc w => insertDue w acc) (acc.map (·.2)) = zs'.map (·.2) ∧
        zs'.Perm (acc ++ zs) from h [] (List.forall_mem_nil _)
  induction zs with
  | nil =>
    intro acc _
    exact ⟨acc, rfl, rfl, by rw [List.append_nil]⟩
  | cons z zs ih =>
    intro acc hacc
    obtain ⟨hz, hzs⟩ := List.forall_mem_cons.mp hzs
    obtain ⟨acc', hfst, hsnd, hperm⟩ := insertDue_abreast hz.2 hacc
    have hacc' : Abreast acc' := by
      intro x hx
      rcases List.mem_cons.mp (hperm.subset hx) with rfl | hx
      · exact hz
      · exact hacc x hx
    obtain ⟨zs', hfst', hsnd', hperm'⟩ := ih hzs acc' hacc'
    refine ⟨zs', ?_, ?_, hperm'.trans ((hperm.append_right zs).trans List.perm_middle.symm)⟩
    · rw [List.map_cons, List.foldl_cons, hfst, hfst']
    · rw [List.map_cons, List.foldl_cons, hsnd, hsnd']

/-! ## Launches and ends -/

section
variable [Logged σ] [Logged τ] {unit : α → Work σ} {unit' : α → Work τ}
  {ends : β → Nat → σ → σ × Option String} {ends' : β → Nat → τ → τ × Option String}
  {stop : σ → Bool} {stop' : τ → Bool} {I : List α → List β → σ → τ → Prop}
  {q : List α} {fl : List β} {p : Progress σ} {p' : Progress τ}

/-- A unit in flight ends in step. -/
theorem InStep.finish (hI : Coupling unit unit' ends ends' stop stop' I) {b : β} {fl' : List β}
    (u : Nat) (h : InStep (I q (fl ++ b :: fl')) p p') :
    InStep (I q (fl ++ fl')) (p.finish u (ends b)) (p'.finish u (ends' b)) := by
  obtain ⟨hfailure, hstate⟩ := hI.finish p.now h.state
  rw [h.now] at hfailure hstate
  refine ⟨h.now, ?_, h.report, ?_⟩
  · simp only [Progress.finish, h.events, h.now, hfailure]
  · simp only [Progress.finish, h.now]
    exact hstate

/-- A unit is launched in step: it ends at once on both sides, or waits on both for
the same time. -/
theorem InStep.launch (hI : Coupling unit unit' ends ends' stop stop' I) {x : α} (i : Nat)
    (h : InStep (I (x :: q) fl) p p') :
    ∃ (zs : List (Waiting σ × Waiting τ)) (bs : List β),
      (p.launch i (unit x)).2.toList = zs.map (·.1) ∧
      (p'.launch i (unit' x)).2.toList = zs.map (·.2) ∧ Abreast zs ∧
      endings zs = bs.map (fun b => (ends b, ends' b)) ∧
      InStep (I q (fl ++ bs)) (p.launch i (unit x)).1 (p'.launch i (unit' x)).1 := by
  obtain ⟨hdelay, b, hb, hb', hstate⟩ := hI.launch p.now h.state
  have hlaunched : InStep (I q (fl ++ [b]))
      { p with state := (unit x p.now p.state).1, events := p.events ++ [.launch i p.now] }
      { p' with state := (unit' x p'.now p'.state).1, events := p'.events ++ [.launch i p'.now] } :=
    ⟨h.now, by rw [h.events, h.now], h.report, by rw [← h.now]; exact hstate⟩
  simp only [Progress.launch, ← h.now, ← hdelay]
  rw [← h.now] at hlaunched
  split
  · refine ⟨[], [], rfl, rfl, List.forall_mem_nil _, rfl, ?_⟩
    rw [hb, hb']
    exact hlaunched.finish hI i
  · refine ⟨[(⟨i, p.now + _, _⟩, ⟨i, p.now + _, _⟩)], [b], rfl, rfl, ?_, ?_, hlaunched⟩
    · exact List.forall_mem_singleton.mpr ⟨rfl, rfl⟩
    · simp only [endings, List.map_cons, List.map_nil, hb, hb']

/-- A batch is launched in step. What waits afterwards is due at the same times, and the tickets say
how it ends. -/
theorem launchAll_lockstep (hI : Coupling unit unit' ends ends' stop stop' I)
    (batch : List (α × Nat)) (h : InStep (I (batch.map (·.1) ++ q) fl) p p') :
    ∃ (zs : List (Waiting σ × Waiting τ)) (bs : List β),
      (launchAll (batch.map (Prod.map unit id)) p).2 = zs.map (·.1) ∧
      (launchAll (batch.map (Prod.map unit' id)) p').2 = zs.map (·.2) ∧ Abreast zs ∧
      endings zs = bs.map (fun b => (ends b, ends' b)) ∧
      InStep (I q (fl ++ bs)) (launchAll (batch.map (Prod.map unit id)) p).1
        (launchAll (batch.map (Prod.map unit' id)) p').1 := by
  induction batch generalizing fl p p' with
  | nil => exact ⟨[], [], rfl, rfl, List.forall_mem_nil _, rfl, by simpa [launchAll] using h⟩
  | cons b rest ih =>
    obtain ⟨x, i⟩ := b
    obtain ⟨zs, bs, hfst, hsnd, habreast, hends, hfirst⟩ := InStep.launch hI i h
    obtain ⟨zs', bs', hfst', hsnd', habreast', hends', hrest⟩ := ih hfirst
    simp only [List.map_cons, Prod.map_apply, id_eq, launchAll]
    refine ⟨zs ++ zs', bs ++ bs', ?_, ?_, List.forall_mem_append.mpr ⟨habreast, habreast'⟩, ?_, ?_⟩
    · rw [hfst, hfst', List.map_append]
    · rw [hsnd, hsnd', List.map_append]
    · rw [endings, List.map_append, List.map_append, ← hends, ← hends', endings, endings]
    · rw [← List.append_assoc]
      exact hrest

/-- Units that wait for the same times end in step. -/
theorem finishAll_lockstep (hI : Coupling unit unit' ends ends' stop stop' I)
    {zs : List (Waiting σ × Waiting τ)} (habreast : Abreast zs)
    (hends : (endings zs).Perm (fl.map fun b => (ends b, ends' b))) (h : InStep (I q fl) p p') :
    InStep (I q []) (finishAll (zs.map (·.1)) p) (finishAll (zs.map (·.2)) p') := by
  induction zs generalizing fl p p' with
  | nil =>
    obtain rfl : fl = [] := List.map_eq_nil_iff.mp hends.nil_eq.symm
    exact h
  | cons z zs ih =>
    obtain ⟨⟨hunit, hdue⟩, habreast⟩ := List.forall_mem_cons.mp habreast
    -- the next to end need not be the first that was launched
    obtain ⟨b, hb, hz⟩ := List.mem_map.mp (hends.subset List.mem_cons_self)
    obtain ⟨hz₁, hz₂⟩ := Prod.mk.inj hz
    obtain ⟨fl₁, fl₂, rfl⟩ := List.append_of_mem hb
    have hrest : (endings zs).Perm ((fl₁ ++ fl₂).map fun b => (ends b, ends' b)) := by
      rw [List.map_append, List.map_cons, hz] at hends
      rw [List.map_append]
      exact (hends.trans List.perm_middle).cons_inv
    have hclock :
        InStep (I q (fl₁ ++ b :: fl₂)) { p with now := z.1.due } { p' with now := z.2.due } :=
      ⟨hdue, h.events, h.report, h.state⟩
    have hended := hclock.finish hI z.1.unit
    rw [hz₁, hz₂] at hended
    have hnext : InStep (I q (fl₁ ++ fl₂)) ({ p with now := z.1.due }.finish z.1.unit z.1.finish)
        ({ p' with now := z.2.due }.finish z.2.unit z.2.finish) := by
      rw [← hunit]
      exact hended
    exact ih habreast hrest hnext

/-! ## Batches -/

/-- A batch is settled in step, with the same failures noted. -/
theorem foldl_settle_lockstep (hI : Coupling unit unit' ends ends' stop stop' I)
    (failure : Nat → Option String) (batch : List (α × Nat)) (h : InStep (I q fl) p p') :
    InStep (I q fl)
      ((batch.map (Prod.map unit id)).foldl (fun p unit => p.settle (failure unit.2)) p)
      ((batch.map (Prod.map unit' id)).foldl (fun p unit => p.settle (failure unit.2)) p') := by
  induction batch generalizing p p' with
  | nil => exact h
  | cons b rest ih =>
    have hnext : InStep (I q fl) (p.settle (failure b.2)) (p'.settle (failure b.2)) := by
      unfold Progress.settle
      split
      · exact ⟨h.now, h.events, by rw [h.report], h.state⟩
      · exact ⟨h.now, h.events, by rw [h.report], hI.note _ h.state⟩
    exact ih hnext

/-- A batch runs in step. -/
theorem runBatch_lockstep (hI : Coupling unit unit' ends ends' stop stop' I)
    (batch : List (α × Nat)) (h : InStep (I (batch.map (·.1) ++ q) []) p p') :
    InStep (I q []) (runBatch (batch.map (Prod.map unit id)) p)
      (runBatch (batch.map (Prod.map unit' id)) p') := by
  let begun := { p with report := { p.report with batches := p.report.batches + 1 } }
  let begun' := { p' with report := { p'.report with batches := p'.report.batches + 1 } }
  have hbegun : InStep (I (batch.map (·.1) ++ q) []) begun begun' :=
    ⟨h.now, h.events, by simp only [begun, begun', h.report], h.state⟩
  obtain ⟨zs, bs, hfst, hsnd, habreast, hends, hlaunched⟩ := launchAll_lockstep hI batch hbegun
  obtain ⟨zs', hfst', hsnd', hperm⟩ := sortDue_abreast habreast
  have hended := finishAll_lockstep hI (fun z hz => habreast z (hperm.subset hz))
    (hends ▸ hperm.map _) (hlaunched)
  rw [← hfst', ← hsnd', ← hfst, ← hsnd] at hended
  have hsettled := foldl_settle_lockstep hI
    (failureOf · (finishAll (sortDue (launchAll (batch.map (Prod.map unit id)) begun).2)
      (launchAll (batch.map (Prod.map unit id)) begun).1).events) batch hended
  simp only [hended.events] at hsettled
  unfold runBatch
  dsimp only
  rw [hended.events]
  exact hsettled

/-- All batches run in step, and both runs stop before the same one. -/
theorem runBatches_lockstep (hI : Coupling unit unit' ends ends' stop stop' I) (window : Nat)
    (batches : List (List (α × Nat))) (last : Option Nat)
    (h : InStep (I (batches.flatten.map (·.1)) []) p p') :
    InStep (I [] []) (runBatches window stop (batches.map (List.map (Prod.map unit id))) last p)
      (runBatches window stop' (batches.map (List.map (Prod.map unit' id))) last p') := by
  induction batches generalizing last p p' with
  | nil => exact h
  | cons batch rest ih =>
    rw [List.flatten_cons, List.map_append] at h
    have hstop := hI.agree h.state
    simp only [List.map_cons, runBatches, ← hstop]
    split
    · next halt =>
      simp only [List.foldl_map, List.length_map, h.report, h.events, ← h.now]
      exact ⟨rfl, rfl, rfl, hI.note _ (hI.halt halt h.state)⟩
    · rw [h.now]
      refine ih _ (runBatch_lockstep hI batch ⟨rfl, by rw [h.events], h.report, h.state⟩)

end

/-- **Two runs in lockstep.** -/
theorem runUntil_lockstep [Logged σ] [Logged τ] {unit : α → Work σ} {unit' : α → Work τ}
    {ends : β → Nat → σ → σ × Option String} {ends' : β → Nat → τ → τ × Option String}
    {stop : σ → Bool} {stop' : τ → Bool} {I : List α → List β → σ → τ → Prop}
    (hI : Coupling unit unit' ends ends' stop stop' I) (size window : Nat) {xs : List α} (now : Nat)
    {s : σ} {t : τ} (h : I xs [] s t) :
    InStep (I [] []) (runUntil size window stop (xs.map unit) now s)
      (runUntil size window stop' (xs.map unit') now t) := by
  rw [runUntil, runUntil, List.zipIdx_map, List.zipIdx_map, chunks_map, chunks_map]
  refine runBatches_lockstep hI window _ none ⟨rfl, rfl, rfl, ?_⟩
  rw [flatten_chunks, List.zipIdx_map_fst]
  exact h

end CatalogCrawl.Pacer
