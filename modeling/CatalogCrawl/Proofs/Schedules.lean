import CatalogCrawl.Proofs.ExpansionRun
import Mathlib.Data.List.Perm.Subperm

/-! # What does not depend on the schedule

Which id discovers a neighbour that several list, the order of the rows and what gets in before the
budget is spent depend on delays, batches and windows. The complete levels do not, and an expansion
that leaves some budget ends there. So two expansions of one store differ only in how far they get
(`Expansion.run_schedule`), and one that is cut short any number of times and taken up again ends
where it would have ended at once (`Expansion.resume_uninterrupted`). -/

namespace CatalogCrawl

/-! ## Counting -/

/-- A frontier below another has no more rows. -/
theorem Store.length_rows_le {s s' : Store} (hs : s.ids.Nodup) (h : Chart.Below s.chart s'.chart) :
    s.rows.length ≤ s'.rows.length := by
  have hsub : s.ids ⊆ s'.ids := by
    intro x hx
    obtain ⟨⟨d, c⟩, hv⟩ := Option.isSome_iff_exists.mp (chart_isSome_iff.mpr hx)
    obtain ⟨c', hv', -⟩ := h x d c hv
    exact chart_isSome_iff.mp (by simp [hv'])
  simpa [ids] using (List.subperm_of_subset hs hsub).length_le

namespace Expansion

variable {f : Related} {c c' : Catalog} {w w' u : World} {r : Report}

theorem Accounts.length_rows (h : Accounts {} r w w') :
    w'.store.rows.length = w.store.rows.length + r.inserted := by
  have hreported : r.inserted + w.store.rows.length = 0 + w'.store.rows.length := h.reported
  omega

/-- A budget that is spent has been used up by the new rows. -/
theorem Accounts.inserted_eq (h : Accounts {} r w w') (hspent : w'.budget.exhausted = true) :
    r.inserted = w.budget.remaining := by
  rw [Budget.exhausted_iff] at hspent
  have := h.length_rows
  have := h.spends.counted
  have := h.spends.limit
  have := h.spends.within
  rw [Budget.remaining]
  omega

theorem Accounts.inserted_lt (h : Accounts {} r w w') (hleft : w'.budget.exhausted = false) :
    r.inserted < w.budget.remaining := by
  rw [← Bool.not_eq_true, Budget.exhausted_iff] at hleft
  have := h.length_rows
  have := h.spends.counted
  have := h.spends.limit
  rw [Budget.remaining]
  omega

/-! ## Two schedules -/

/-- **Schedule independence and exact use of the budget.** Beside an expansion that has budget left
at the end, another of the same store adds as many rows as its budget allows of those that the first
adds. Each of its rows is a row of the first at the same depth and has the same status, unless it is
unvisited, and with budget to spare the two end alike. -/
theorem run_schedule (hc : c.Steady f) (hc' : c'.Steady f) (hf : f.Readable)
    (o o' : Options) (hdepth : o'.maxDepth = o.maxDepth) (hw : w.store.Sound)
    (hstore : u.store = w.store) :
    ∃ full w' part u', run c o w = (.ok full, w') ∧ run c' o' u = (.ok part, u') ∧
      (w'.budget.exhausted = false →
        (w'.store.rows.length = w.store.rows.length + full.inserted ∧
          u'.store.rows.length = u.store.rows.length + part.inserted ∧
          part.inserted = min u.budget.remaining full.inserted) ∧
        (∀ r ∈ u'.store.rows, ∃ r' ∈ w'.store.rows, r'.id = r.id ∧ r'.depth = r.depth ∧
          (r.code = r'.code ∨ r.code = Status.unvisited.code)) ∧
        (full.inserted < u.budget.remaining → u'.store.chart = w'.store.chart)) := by
  obtain ⟨full, w', hrun, hacc, -, -, hdone⟩ := run_spec hc hf o hw
  obtain ⟨part, u', hrun', hacc', -, hunder, hdone'⟩ := run_spec hc' hf o' (w := u) (hstore ▸ hw)
  refine ⟨full, w', part, u', hrun, hrun', fun hleft => ?_⟩
  rw [hdepth, hstore, ← hdone hleft] at hdone'
  have hbelow : Chart.Below u'.store.chart w'.store.chart := by
    have h := hunder.below
    rwa [hdepth, hstore, ← hdone hleft] at h
  have hrows := hacc.length_rows
  have hrows' := hacc'.length_rows
  have hle := Store.length_rows_le hacc'.sound.keyed hbelow
  rw [hstore] at hrows'
  have hsame (hleft' : u'.budget.exhausted = false) : part.inserted = full.inserted := by
    have hback : Chart.Below w'.store.chart u'.store.chart := by
      rw [hdone' hleft']
      exact .refl _
    have hge := Store.length_rows_le hacc.sound.keyed hback
    omega
  refine ⟨⟨hrows, by rw [hstore]; exact hrows', ?_⟩, fun r hr => ?_, fun hspare => hdone' ?_⟩
  · cases hspent : u'.budget.exhausted with
    | true =>
      have := hacc'.inserted_eq hspent
      omega
    | false =>
      have := hacc'.inserted_lt hspent
      have := hsame hspent
      omega
  · obtain ⟨code, hv, hcode⟩ := hbelow _ _ _ (Store.chart_of_mem hacc'.sound.keyed hr)
    obtain ⟨r', hr', hid, hd, rfl⟩ := Store.exists_row_of_chart hv
    exact ⟨r', hr', hid, hd, hcode⟩
  · rw [← Bool.not_eq_true]
    intro hspent
    have := hacc'.inserted_eq hspent
    omega

theorem run_schedule_sample :
    ∃ full w' part u', run (.answering .sample fun _ => 0) { maxDepth := 2 }
          { store := .seeded, budget := ⟨9, 0⟩ } = (.ok full, w') ∧
        run (.answering .sample (10 - ·)) { maxDepth := 2, batchSize := 1 }
          { store := .seeded, budget := ⟨2, 0⟩ } = (.ok part, u') ∧
        w'.budget.exhausted = false ∧ part.inserted = min 2 full.inserted ∧
        ∀ r ∈ u'.store.rows, ∃ r' ∈ w'.store.rows, r'.id = r.id ∧ r'.depth = r.depth ∧
          (r.code = r'.code ∨ r.code = Status.unvisited.code) := by
  obtain ⟨full, w', part, u', hrun, hrun', h⟩ := run_schedule
    (Catalog.answering_steady .sample fun _ => 0) (Catalog.answering_steady .sample (10 - ·))
    Related.sample_readable { maxDepth := 2 } { maxDepth := 2, batchSize := 1 } rfl
    (w := { store := .seeded, budget := ⟨9, 0⟩ }) (u := { store := .seeded, budget := ⟨2, 0⟩ })
    Store.seeded_sound rfl
  have hleft : (run (.answering .sample fun _ => 0) { maxDepth := 2 }
      { store := .seeded, budget := ⟨9, 0⟩ }).2.budget.exhausted = false := by decide +kernel
  rw [hrun] at hleft
  obtain ⟨⟨-, -, hcount⟩, hrows, -⟩ := h hleft
  exact ⟨full, w', part, u', hrun, hrun', hleft, hcount, hrows⟩

/-! ## Interruptions -/

/-- Expansions of one store, one after another, each with a budget of its own. -/
def resume : List (Catalog × Options) → World → Except StoreError World
  | [], w => .ok w
  | (c, o) :: rest, w =>
    match run c o (w.fresh o.maxApps) with
    | (.ok _, w) => resume rest w
    | (.error e, _) => .error e

/-- What is still to come is the same after any number of expansions, and nothing is if the last of
them has budget left. -/
theorem resume_spec (hf : f.Readable) {D : Nat} (runs : List (Catalog × Options))
    (hruns : ∀ p ∈ runs, p.1.Steady f ∧ p.2.maxDepth = D) (hw : w.store.Sound) :
    ∃ w', resume runs w = .ok w' ∧ w'.store.Sound ∧
      Chart.complete f w'.store.chart D = Chart.complete f w.store.chart D ∧
      (runs ≠ [] → w'.budget.exhausted = false →
        w'.store.chart = Chart.complete f w.store.chart D) := by
  induction runs generalizing w with
  | nil => exact ⟨w, rfl, hw, rfl, fun h => (h rfl).elim⟩
  | cons p rest ih =>
    obtain ⟨c, o⟩ := p
    obtain ⟨hc, rfl⟩ := hruns _ List.mem_cons_self
    obtain ⟨r, w₁, hrun, hacc, -, hunder, hdone⟩ := run_spec hc hf o (w := w.fresh o.maxApps) hw
    obtain ⟨w', hrest, hsound, hcomplete, hend⟩ :=
      ih (fun p hp => hruns p (List.mem_cons_of_mem _ hp)) hacc.sound
    have hfirst : Chart.complete f w₁.store.chart o.maxDepth =
        Chart.complete f w.store.chart o.maxDepth := hunder.complete_eq
    refine ⟨w', ?_, hsound, hcomplete.trans hfirst, fun _ hleft => ?_⟩
    · simp only [resume, hrun, hrest]
    · cases rest with
      | nil =>
        obtain rfl : w₁ = w' := Except.ok.inj hrest
        exact hdone hleft
      | cons q rest => exact (hend (List.cons_ne_nil q rest) hleft).trans hfirst

/-- **Interrupted and resumed is uninterrupted.** Any number of expansions of a store, with whatever
budgets, end as a single one does that has budget left, if the last of them has budget left. A
single one has if its budget is larger than the number of rows that they have added. -/
theorem resume_uninterrupted (hf : f.Readable) {D : Nat} (runs : List (Catalog × Options))
    (hruns : ∀ p ∈ runs, p.1.Steady f ∧ p.2.maxDepth = D) (hne : runs ≠ []) (hw : w.store.Sound) :
    ∃ w', resume runs w = .ok w' ∧ (w'.budget.exhausted = false →
      ∀ c o u, Catalog.Steady f c → o.maxDepth = D → u.store = w.store →
        ∃ r u', run c o u = (.ok r, u') ∧
          (w'.store.rows.length < w.store.rows.length + u.budget.remaining →
            u'.budget.exhausted = false) ∧
          (u'.budget.exhausted = false → w'.store.chart = u'.store.chart)) := by
  obtain ⟨w', hresume, -, -, hend⟩ := resume_spec hf runs hruns hw
  refine ⟨w', hresume, fun hleft c o u hc hD hu => ?_⟩
  obtain ⟨r, u', hrun, hacc, -, hunder, hdone⟩ := run_spec hc hf o (w := u) (hu ▸ hw)
  have hfinal : w'.store.chart = Chart.complete f u.store.chart o.maxDepth := by
    rw [hD, hu]
    exact hend hne hleft
  refine ⟨r, u', hrun, fun hroom => ?_, fun hleft' => hfinal.trans (hdone hleft').symm⟩
  rw [← Bool.not_eq_true]
  intro hspent
  have hle := Store.length_rows_le hacc.sound.keyed (hfinal ▸ hunder.below)
  have := hacc.length_rows
  have := hacc.inserted_eq hspent
  rw [← hu] at hroom
  omega

/-- Three expansions, of which the first is cut short and the second does nothing. -/
def sampleRuns : List (Catalog × Options) :=
  [(.answering .sample (10 - ·), { maxDepth := 2, maxApps := 1 }),
    (.answering .sample id, { maxDepth := 2, maxApps := 0 }),
    (.answering .sample id, { maxDepth := 2, batchSize := 1, maxApps := 9 })]

theorem resume_uninterrupted_sample :
    ∃ w' r u', resume sampleRuns { store := .seeded, budget := ⟨0, 0⟩ } = .ok w' ∧
      run (.answering .sample fun _ => 0) { maxDepth := 2 } { store := .seeded, budget := ⟨9, 0⟩ } =
        (.ok r, u') ∧
      w'.budget.exhausted = false ∧ u'.budget.exhausted = false ∧
      w'.store.chart = u'.store.chart := by
  obtain ⟨w', hresume, h⟩ := resume_uninterrupted (D := 2) Related.sample_readable sampleRuns
    (by simp [sampleRuns, Catalog.answering_steady]) (by simp [sampleRuns])
    (w := { store := .seeded, budget := ⟨0, 0⟩ }) Store.seeded_sound
  have hend : (resume sampleRuns { store := .seeded, budget := ⟨0, 0⟩ }).toOption.map
      (fun w => (w.budget.exhausted, w.store.rows.length)) = some (false, 4) := by decide +kernel
  rw [hresume] at hend
  have hleft : w'.budget.exhausted = false := congrArg Prod.fst (Option.some.inj hend)
  have hlength : w'.store.rows.length = 4 := congrArg Prod.snd (Option.some.inj hend)
  obtain ⟨r, u', hrun, hroom, hsame⟩ :=
    h hleft _ { maxDepth := 2 } { store := .seeded, budget := ⟨9, 0⟩ }
      (Catalog.answering_steady .sample fun _ => 0) rfl rfl
  have hleft' := hroom (by rw [hlength]; decide)
  exact ⟨w', r, u', hresume, hrun, hleft, hleft', hsame hleft'⟩

end Expansion

end CatalogCrawl
