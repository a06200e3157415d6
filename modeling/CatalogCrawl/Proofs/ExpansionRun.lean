import CatalogCrawl.Crawl.Expansion
import CatalogCrawl.Proofs.Pacing
import CatalogCrawl.Proofs.SoundStore

/-! # Expansion as a search by levels

On a sound store, with a catalog whose answers about an id do not change and nobody else writing, an
expansion does to the chart of the frontier what a search by levels does. While a level is expanded,
whatever unit ends next, the chart advances from what it was when the level was read (`LevelInv`),
and a unit that has ended has marked its id unless the budget is spent. So a level that leaves some
budget is complete, and a run that spends all of it was cut short in one level (`run_spec`). -/

namespace CatalogCrawl

/-- What is similar to an id is answered as `f` says, sooner or later, and meanwhile nobody else
writes to the store. -/
structure Catalog.Steady (f : Related) (c : Catalog) : Prop where
  outcome : ∀ n id l, (c.similar n id l).outcome = f id
  alone : ∀ n id l s, (c.similar n id l).meanwhile s = s

/-- Every payload that is listed can be read back once it is stored, so that no read of
a level fails. -/
def Related.Readable (f : Related) : Prop :=
  ∀ id page, f id = .ok page → ∀ item ∈ page, (Json.read? item.raw.text).isSome

/-! ## Accounting -/

/-- The budget has been charged for each new row, and not beyond its limit. -/
structure World.Spends (w w' : World) : Prop where
  limit : w'.budget.limit = w.budget.limit
  counted : w'.budget.crawled + w.store.rows.length = w.budget.crawled + w'.store.rows.length
  grows : w.budget.crawled ≤ w'.budget.crawled
  within : w'.budget.crawled ≤ max w.budget.crawled w.budget.limit

namespace World.Spends

variable {w w' w'' : World}

theorem ofSame (hs : w'.store = w.store) (hb : w'.budget = w.budget) : w.Spends w' where
  limit := by rw [hb]
  counted := by rw [hs, hb]
  grows := Nat.le_of_eq (by rw [hb])
  within := by rw [hb]; exact Nat.le_max_left _ _

theorem trans (h : w.Spends w') (h' : w'.Spends w'') : w.Spends w'' where
  limit := h'.limit.trans h.limit
  counted := by have := h.counted; have := h'.counted; omega
  grows := Nat.le_trans h.grows h'.grows
  within := by have := h.within; have := h'.within; have := h.limit; omega

theorem exhausted (h : w.Spends w') (he : w.budget.exhausted = true) :
    w'.budget.exhausted = true := by
  rw [Budget.exhausted_iff] at he ⊢
  have := h.limit
  have := h.grows
  omega

end World.Spends

namespace Expansion

variable {f : Related} {k : Nat} {s₀ s s' s'' : Stage Tally} {y : String}

/-- What holds throughout the expansion of a level that was read in `s₀`. -/
structure LevelInv (f : Related) (k : Nat) (s₀ s : Stage Tally) : Prop where
  sound : s.world.store.Sound
  advances : Chart.Advances f k s₀.world.store.chart s.world.store.chart
  spends : s₀.world.Spends s.world
  tallied : s.tally.inserted + s₀.world.store.rows.length =
    s₀.tally.inserted + s.world.store.rows.length

/-- What one moment of a level keeps for a later one. -/
structure Moves (s s' : Stage Tally) : Prop where
  spends : s.world.Spends s'.world
  present : ∀ {x}, (s.world.store.chart x).isSome → (s'.world.store.chart x).isSome
  settled : ∀ {x d c}, s.world.store.chart x = some (d, c) → c ≠ Status.unvisited.code →
    s'.world.store.chart x = some (d, c)

theorem Moves.ofSame (hs : s'.world.store = s.world.store) (hb : s'.world.budget = s.world.budget) :
    Moves s s' :=
  ⟨.ofSame hs hb, fun h => by rw [hs]; exact h, fun h _ => by rw [hs]; exact h⟩

theorem Moves.trans (h : Moves s s') (h' : Moves s' s'') : Moves s s'' :=
  ⟨h.spends.trans h'.spends, fun hx => h'.present (h.present hx),
    fun hx hc => h'.settled (h.settled hx hc) hc⟩

/-- From one moment of a level to a later one. -/
def Runs (f : Related) (k : Nat) (s₀ s s' : Stage Tally) : Prop :=
  LevelInv f k s₀ s → LevelInv f k s₀ s' ∧ Moves s s'

theorem Runs.ofSame (hs : s'.world.store = s.world.store) (hb : s'.world.budget = s.world.budget)
    (ht : s'.tally.inserted = s.tally.inserted) : Runs f k s₀ s s' := by
  intro h
  refine ⟨⟨?_, ?_, h.spends.trans (.ofSame hs hb), ?_⟩, .ofSame hs hb⟩
  · rw [hs]; exact h.sound
  · rw [hs]; exact h.advances
  · rw [hs, ht]; exact h.tallied

theorem Runs.trans (h : Runs f k s₀ s s') (h' : Runs f k s₀ s' s'') : Runs f k s₀ s s'' := by
  intro hs
  obtain ⟨hs', hm⟩ := h hs
  obtain ⟨hs'', hm'⟩ := h' hs'
  exact ⟨hs'', hm.trans hm'⟩

theorem runs_note (r : Log.Record) (s : Stage Tally) : Runs f k s₀ s (Logged.note r s) :=
  .ofSame rfl rfl rfl

theorem runs_flow : Pacer.Flow (Runs f k s₀) := ⟨fun _ => .ofSame rfl rfl rfl, .trans, runs_note⟩

/-- An answer during which nobody else wrote. -/
theorem runs_receive {α : Type} {answer : Answer α} (halone : ∀ s, answer.meanwhile s = s)
    (s : Stage Tally) : Runs f k s₀ s (s.receive answer) := by
  have hyield : Runs f k s₀ s { s with world := s.world.yield answer.meanwhile } :=
    .ofSame (halone s.world.store) rfl rfl
  exact hyield.trans (runs_flow.noteAll _ _)

/-! ## One neighbour, one mark -/

/-- A new neighbour, with room for it in the budget. -/
theorem LevelInv.insert (h : LevelInv f k s₀ s) (hy : s₀.world.store.chart.Pending k y)
    {item : Item} (hl : f.Lists y item.id) (hread : (Json.read? item.raw.text).isSome)
    (hid : item.id ∉ s.world.store.ids) (hroom : ¬s.world.budget.exhausted = true)
    (hs : s'.world.store = s.world.store.append [Store.newRow item.id (k + 1) item.raw])
    (hb : s'.world.budget = s.world.budget.spend 1)
    (ht : s'.tally.inserted = s.tally.inserted + 1) :
    LevelInv f k s₀ s' ∧ Moves s s' ∧ (s'.world.store.chart item.id).isSome := by
  have hsome := h.sound.isSome
  have hlen : s'.world.store.rows.length = s.world.store.rows.length + 1 := by
    rw [hs, Store.rows_append hsome, List.length_append, List.length_singleton]
  have hchart : s'.world.store.chart = s.world.store.chart.insert item.id (k + 1 : Nat) := by
    rw [hs, Store.chart_append hsome (k + 1) item.raw hid]
  have hnone : s.world.store.chart item.id = none := Store.chart_eq_none_iff.mpr hid
  have hspends : s.world.Spends s'.world := by
    rw [Budget.exhausted_iff] at hroom
    constructor <;> simp only [hb, hlen, Budget.limit_spend, Budget.crawled_spend] <;> omega
  refine ⟨⟨?_, ?_, h.spends.trans hspends, ?_⟩, ⟨hspends, fun hx => ?_, fun hx _ => ?_⟩, ?_⟩
  · rw [hs]; exact h.sound.append (k + 1) hid hread
  · rw [hchart]; exact h.advances.insert hnone hy hl
  · have := h.tallied; omega
  · rw [hchart]; exact Chart.isSome_insert _ _ hx
  · rw [hchart]; exact Chart.insert_of_some hnone hx _
  · rw [hchart]; exact Chart.isSome_insert_self _ _ _

/-- The mark of an id all of whose neighbours are there. -/
theorem LevelInv.mark (h : LevelInv f k s₀ s) (hy : s₀.world.store.chart.Pending k y)
    (hall : ∀ z, f.Lists y z → (s.world.store.chart z).isSome)
    (hs : s'.world.store = s.world.store.markRows y (f.outcome y))
    (hb : s'.world.budget = s.world.budget) (ht : s'.tally.inserted = s.tally.inserted) :
    LevelInv f k s₀ s' ∧ Moves s s' ∧ ¬s'.world.store.chart.Pending k y := by
  have hlen : s'.world.store.rows.length = s.world.store.rows.length := by
    rw [hs, Store.rows_markRows, List.length_map]
  have hchart : s'.world.store.chart = s.world.store.chart.mark y (f.outcome y) := by
    rw [hs, Store.chart_markRows]
  have hspends : s.world.Spends s'.world := by
    constructor <;> simp only [hb, hlen] <;> omega
  refine ⟨⟨?_, ?_, h.spends.trans hspends, ?_⟩, ⟨hspends, fun hx => ?_, fun hx hc => ?_⟩, ?_⟩
  · rw [hs]; exact h.sound.markRows y _
  · rw [hchart]; exact h.advances.mark hy hall
  · have := h.tallied; omega
  · rw [hchart, Chart.isSome_mark]; exact hx
  · rw [hchart]; exact Chart.mark_of_settled hx hc _ _
  · rw [hchart]; exact Chart.not_pending_mark (f.outcome_ne y)

/-- All neighbours of an id are offered in turn. If one finds no room the budget is spent. -/
theorem discoverAll_level (hy : s₀.world.store.chart.Pending k y) (items : List Item)
    (hl : ∀ item ∈ items, f.Lists y item.id ∧ (Json.read? item.raw.text).isSome)
    (h : LevelInv f k s₀ s) :
    ∃ all s', discoverAll (k + 1) items s = (.ok all, s') ∧ LevelInv f k s₀ s' ∧ Moves s s' ∧
      (if all then ∀ item ∈ items, (s'.world.store.chart item.id).isSome
        else s'.world.budget.exhausted = true) := by
  induction items generalizing s with
  | nil => exact ⟨true, s, rfl, h, .ofSame rfl rfl, by simp⟩
  | cons item rest ih =>
    have hrest := fun i hi => hl i (List.mem_cons_of_mem _ hi)
    obtain ⟨hlist, hread⟩ := hl item List.mem_cons_self
    by_cases hid : item.id ∈ s.world.store.ids
    · obtain ⟨all, s', hrun, h', hm, hall⟩ := ih hrest h
      refine ⟨all, s', ?_, h', hm, ?_⟩
      · simp only [discoverAll, h.sound.contains, decide_eq_true hid, hrun]
      · cases all with
        | false => exact hall
        | true =>
          exact List.forall_mem_cons.mpr ⟨hm.present (Store.chart_isSome_iff.mpr hid), hall⟩
    · by_cases hroom : s.world.budget.exhausted = true
      · refine ⟨false, s, ?_, h, .ofSame rfl rfl, hroom⟩
        simp only [discoverAll, h.sound.contains, decide_eq_false hid, Stage.lift, World.discover,
          if_pos hroom]
      · let s₁ : Stage Tally :=
          ⟨s.world.turn .crawl (s.world.store.append [Store.newRow item.id (k + 1) item.raw])
            (s.world.budget.spend 1), { s.tally with inserted := s.tally.inserted + 1 }⟩
        have hstep : LevelInv f k s₀ s₁ ∧ Moves s s₁ ∧ (s₁.world.store.chart item.id).isSome :=
          h.insert hy hlist hread hid hroom rfl rfl rfl
        obtain ⟨h₁, hm₁, hthere⟩ := hstep
        obtain ⟨all, s', hrun, h', hm, hall⟩ := ih hrest h₁
        refine ⟨all, s', ?_, h', hm₁.trans hm, ?_⟩
        · simp only [discoverAll, h.sound.contains, decide_eq_false hid, Stage.lift, World.discover,
            if_neg hroom, h.sound.insertIfAbsent _ _ hid]
          exact hrun
        · cases all with
          | false => exact hall
          | true => exact List.forall_mem_cons.mpr ⟨hm.present hthere, hall⟩

/-! ## Units -/

/-- What a unit is for: its id is no longer pending, unless the budget is spent. -/
def Settles (f : Related) (k : Nat) (s₀ : Stage Tally) (y : String) (s : Stage Tally) : Prop :=
  LevelInv f k s₀ s ∧ (s.world.budget.exhausted = true ∨ ¬s.world.store.chart.Pending k y)

theorem Settles.later (hy : Settles f k s₀ y s) (hs : Runs f k s₀ s s') : Settles f k s₀ y s' := by
  obtain ⟨h, hdone⟩ := hy
  obtain ⟨h', hm⟩ := hs h
  refine ⟨h', ?_⟩
  rcases hdone with hspent | hdone
  · exact .inl (hm.spends.exhausted hspent)
  · refine .inr fun hp => ?_
    -- an id that is pending at the end was pending all along
    have hp₀ := h'.advances.pending (Nat.le_refl k) hp
    rcases h.advances.kept hp₀ with hkept | ⟨-, hmark, -⟩
    · exact hdone hkept
    · rw [Chart.Pending, hm.settled hmark (f.outcome_ne y), Option.some.injEq, Prod.mk.injEq] at hp
      exact f.outcome_ne y hp.2

/-- A row whose neighbours are all there can be marked with its outcome. -/
theorem markStatus_level (h : LevelInv f k s₀ s) (hy : s₀.world.store.chart.Pending k y)
    (hall : ∀ z, f.Lists y z → (s.world.store.chart z).isSome) :
    ∃ hit s', s.onStore (Store.markStatus y (f.outcome y)) = (.ok hit, s') ∧ Moves s s' ∧
      Settles f k s₀ y s' := by
  obtain ⟨hit, hmark⟩ := h.sound.markStatus y (f.outcome y)
  let s' : Stage Tally :=
    ⟨s.world.turn .crawl (s.world.store.markRows y (f.outcome y)) s.world.budget, s.tally⟩
  have hstep : LevelInv f k s₀ s' ∧ Moves s s' ∧ ¬s'.world.store.chart.Pending k y :=
    h.mark hy hall rfl rfl rfl
  obtain ⟨h', hm, hdone⟩ := hstep
  refine ⟨hit, s', ?_, hm, h', .inr hdone⟩
  simp only [Stage.onStore, Stage.lift, World.write, hmark, s']

/-- The neighbours of a pending id are recorded, and it is marked if they all are. -/
theorem explore_level (hf : f.Readable) {e : FrontierEntry} (he : e.depth = k)
    (hy : s₀.world.store.chart.Pending k e.id) (h : LevelInv f k s₀ s) :
    ∃ s', explore e (f e.id) s = (.ok (), s') ∧ Moves s s' ∧ Settles f k s₀ e.id s' := by
  cases hfe : f e.id with
  | error err =>
    have hout : f.outcome e.id = .error := by simp [Related.outcome, hfe]
    obtain ⟨h₁, hm₁⟩ := runs_note
      ⟨.warn, .expanding, s!"Failed to fetch similar apps for {e.id}: {err.message}"⟩ s h
    have hnone : ∀ z, ¬f.Lists e.id z := by
      rintro z ⟨page, hpage, -⟩
      rw [hfe] at hpage
      cases hpage
    obtain ⟨hit, s₂, hmark, hm₂, hset⟩ := markStatus_level h₁ hy fun z hz => (hnone z hz).elim
    have hcount : Runs f k s₀ s₂ (s₂.count fun t => { t with errors := t.errors + 1 }) :=
      .ofSame rfl rfl rfl
    refine ⟨_, ?_, (hm₁.trans hm₂).trans (hcount hset.1).2, hset.later hcount⟩
    rw [hout] at hmark
    simp only [explore, Logged.warn, hmark]
  | ok page =>
    have hout : f.outcome e.id = .visited := by simp [Related.outcome, hfe]
    obtain ⟨all, s₁, hrun, h₁, hm₁, hall⟩ := discoverAll_level hy page
      (fun item hitem => ⟨⟨page, hfe, List.mem_map_of_mem hitem⟩, hf _ page hfe item hitem⟩) h
    rw [← he] at hrun
    cases all with
    | false =>
      have hset : Settles f k s₀ e.id s₁ := ⟨h₁, .inl hall⟩
      let s₂ := Logged.debug .expanding
        s!"Budget reached while expanding {e.id}; left unvisited for a later run" s₁
      have hcount : Runs f k s₀ s₁ (s₂.count fun t => { t with truncated := t.truncated + 1 }) :=
        .ofSame rfl rfl rfl
      refine ⟨_, ?_, hm₁.trans (hcount h₁).2, hset.later hcount⟩
      simp only [explore, hrun, s₂]
    | true =>
      have hthere : ∀ z, f.Lists e.id z → (s₁.world.store.chart z).isSome := by
        rintro z ⟨page', hpage, hz⟩
        obtain rfl : page = page' := Except.ok.inj (hfe.symm.trans hpage)
        obtain ⟨item, hitem, rfl⟩ := List.mem_map.mp hz
        exact hall item hitem
      obtain ⟨hit, s₂, hmark, hm₂, hset⟩ := markStatus_level h₁ hy hthere
      have hcount : Runs f k s₀ s₂ (s₂.count fun t => { t with visited := t.visited + 1 }) :=
        .ofSame rfl rfl rfl
      refine ⟨_, ?_, (hm₁.trans hm₂).trans (hcount hset.1).2, hset.later hcount⟩
      rw [hout] at hmark
      simp only [explore, hrun, hmark]

/-- The unit of a pending id settles it, in whatever order the units of its level end. -/
theorem unit_keeps {c : Catalog} (hc : c.Steady f) (hf : f.Readable) (locale : Locale)
    {e : FrontierEntry} (he : e.depth = k) (hy : s₀.world.store.chart.Pending k e.id)
    (h₀ : LevelInv f k s₀ s₀) :
    Pacer.Keeps (Runs f k s₀) (Settles f k s₀ e.id) s₀ (unit c locale e) := by
  intro now s hs
  obtain ⟨h, -⟩ := hs h₀
  unfold unit
  split
  · next hspent =>
    have hskip : Runs f k s₀ s (s.count fun t => { t with skipped := t.skipped + 1 }) :=
      .ofSame rfl rfl rfl
    refine ⟨hskip, fun s' hs' _ => ⟨runs_flow.refl s', ?_⟩⟩
    exact Settles.later ⟨h, .inl hspent⟩ (hskip.trans hs')
  · next hroom =>
    let answer := c.similar s.world.calls.length e.id locale
    have hcall : Runs f k s₀ s
        ⟨s.world.call now (.similar e.id locale), { s.tally with calls := s.tally.calls + 1 }⟩ :=
      .ofSame rfl rfl rfl
    have hlaunch := hcall.trans (runs_flow.noteAll answer.sent _)
    refine ⟨hlaunch, fun s' hs' _ => ?_⟩
    have hreceive : Runs f k s₀ s' (s'.receive answer) := runs_receive (hc.alone _ _ _) s'
    have h' := (hs' (hlaunch h).1).1
    obtain ⟨s'', hexplore, hm, hset⟩ := explore_level hf he hy (hreceive h').1
    have hreact : react e answer.outcome (s'.receive answer) = (s'', none) := by
      rw [hc.outcome, react, hexplore]
    have hfinish : Runs f k s₀ s' s'' := hreceive.trans fun _ => ⟨hset.1, hm⟩
    have hstate : (react e answer.outcome (s'.receive answer)).1 = s'' := by rw [hreact]
    refine ⟨?_, ?_⟩
    · exact hstate ▸ hfinish
    · exact hstate ▸ hset

/-! ## Levels -/

/-- The store is sound, and the new rows are both charged to the budget and reported. -/
structure Accounts (r r' : Report) (w w' : World) : Prop where
  sound : w'.store.Sound
  spends : w.Spends w'
  reported : r'.inserted + w.store.rows.length = r.inserted + w'.store.rows.length

variable {c : Catalog} {w w' w'' : World} {r r' r'' : Report}

theorem Accounts.trans (h : Accounts r r' w w') (h' : Accounts r' r'' w' w'') :
    Accounts r r'' w w'' :=
  ⟨h'.sound, h.spends.trans h'.spends, by have := h.reported; have := h'.reported; omega⟩

theorem Accounts.ofSame (hw : w.store.Sound) (hs : w'.store = w.store) (hb : w'.budget = w.budget) :
    Accounts r r w w' :=
  ⟨hs ▸ hw, .ofSame hs hb, by rw [hs]⟩

/-- A level that leaves some budget is complete. -/
theorem runLevel_spec (hc : c.Steady f) (hf : f.Readable) (o : Options) {es : List FrontierEntry}
    (hes : ∀ e ∈ es, e.depth = k ∧ w.store.chart.Pending k e.id)
    (hall : ∀ x, w.store.chart.Pending k x → ∃ e ∈ es, e.id = x) (hw : w.store.Sound) (r : Report) :
    Accounts r (runLevel c o k es r w).1 w (runLevel c o k es r w).2 ∧
      Chart.Advances f k w.store.chart (runLevel c o k es r w).2.store.chart ∧
      ((runLevel c o k es r w).2.budget.exhausted = false →
        (runLevel c o k es r w).2.store.chart = Chart.next f k w.store.chart) := by
  let s₀ : Stage Tally := ⟨w, {}⟩
  let s₁ := (Pacer.runUntil o.batchSize o.expandWindow (fun s => s.world.budget.exhausted)
    (es.map (unit c o.locale)) w.now s₀).state
  have h₀ : LevelInv f k s₀ s₀ := ⟨hw, .refl _ _ _, .ofSame rfl rfl, rfl⟩
  have hkeeps : Runs f k s₀ s₀ s₁ ∧ ((∀ e ∈ es, Settles f k s₀ e.id s₁) ∨
      ∃ s, Runs f k s₀ s₀ s ∧ s.world.budget.exhausted = true ∧ Runs f k s₀ s s₁) :=
    Pacer.runUntil_keeps runs_flow (fun _ _ _ => .later) _ _ _ es _ s₀
      (fun e he => unit_keeps hc hf o.locale (hes e he).1 (hes e he).2 h₀) _
  obtain ⟨hrun, hend⟩ := hkeeps
  obtain ⟨h₁, -⟩ := hrun h₀
  -- the clock is set and the level is noted, which concerns neither store nor budget
  have hstore : (runLevel c o k es r w).2.store = s₁.world.store := rfl
  have hbudget : (runLevel c o k es r w).2.budget = s₁.world.budget := rfl
  have hreport : (runLevel c o k es r w).1.inserted = r.inserted + s₁.tally.inserted := rfl
  refine ⟨⟨?_, ?_, ?_⟩, ?_, fun hleft => ?_⟩
  · rw [hstore]; exact h₁.sound
  · exact h₁.spends.trans (.ofSame hstore hbudget)
  · have htally : s₁.tally.inserted + w.store.rows.length = 0 + s₁.world.store.rows.length :=
      h₁.tallied
    rw [hstore, hreport]
    omega
  · rw [hstore]; exact h₁.advances
  · rw [hbudget] at hleft
    rw [hstore]
    refine h₁.advances.eq_next fun x hx => ?_
    rcases hend with hsettled | ⟨s, hs, hstop, hlast⟩
    · obtain ⟨e, he, rfl⟩ := hall x (h₁.advances.pending (Nat.le_refl k) hx)
      rcases (hsettled e he).2 with hspent | hdone
      · rw [hleft] at hspent
        cases hspent
      · exact hdone hx
    · have hspent := (hlast (hs h₀).1).2.spends.exhausted hstop
      rw [hleft] at hspent
      cases hspent

/-- Once the budget is spent, the levels that are left are read and no more. -/
theorem runLevels_spent (hw : w.store.Sound) (hspent : w.budget.exhausted = true) (o : Options)
    (levels k : Nat) (r : Report) :
    ∃ w', runLevels c o levels k r w = (.ok r, w') ∧ w'.store = w.store ∧ w'.budget = w.budget := by
  cases levels with
  | zero => exact ⟨w, rfl, rfl, rfl⟩
  | succ levels =>
    obtain ⟨es, hes, -⟩ := hw.entriesAt k
    simp only [runLevels, hes, if_pos hspent]
    exact ⟨_, rfl, rfl, rfl⟩

/-- The levels from `k` on, in a store where those above are complete. -/
theorem runLevels_spec (hc : c.Steady f) (hf : f.Readable) (o : Options) (m : Chart)
    (levels k : Nat)
    (r : Report) {w : World} (hw : w.store.Sound) (hm : w.store.chart = Chart.complete f m k) :
    ∃ r' w', runLevels c o levels k r w = (.ok r', w') ∧ Accounts r r' w w' ∧
      Chart.Underway f (k + levels) m w'.store.chart ∧
      (w'.budget.exhausted = false → w'.store.chart = Chart.complete f m (k + levels)) := by
  induction levels generalizing k r w with
  | zero => exact ⟨r, w, rfl, .ofSame hw rfl rfl, hm ▸ .done, fun _ => hm⟩
  | succ levels ih =>
    have hcut {m' : Chart} (h : Chart.Advances f k w.store.chart m') :
        Chart.Underway f (k + (levels + 1)) m m' :=
      .cut (Nat.lt_add_of_pos_right (Nat.succ_pos levels)) (hm ▸ h)
    by_cases hspent : w.budget.exhausted = true
    · obtain ⟨w', hrun, hstore, hbudget⟩ := runLevels_spent (c := c) hw hspent o (levels + 1) k r
      refine ⟨r, w', hrun, .ofSame hw hstore hbudget, hcut (hstore ▸ .refl _ _ _), fun hleft => ?_⟩
      rw [hbudget, hspent] at hleft
      cases hleft
    · obtain ⟨es, hread, hes, hall⟩ := hw.entriesAt k
      have hnext : Chart.next f k w.store.chart = Chart.complete f m (k + 1) := by
        rw [hm, Chart.complete]
      let w₁ := Logged.info .expanding s!"Apps at depth {k}: {es.length}" w
      have hnote : Accounts r r w w₁ := .ofSame hw rfl rfl
      have hdepth : k + 1 + levels = k + (levels + 1) := by omega
      rw [← hdepth]
      simp only [runLevels, hread, if_neg hspent]
      split
      · next hempty =>
        -- nothing is pending, so the level is complete as it is
        have hnone : ∀ x, ¬w.store.chart.Pending k x := by
          intro x hx
          obtain ⟨e, he, -⟩ := hall x hx
          rw [List.isEmpty_iff.mp hempty] at he
          cases he
        obtain ⟨r', w', hrun, hacc, hrest⟩ := ih (k + 1) r (w := w₁) hw
          (hnext ▸ (Chart.next_eq_self hnone).symm)
        exact ⟨r', w', hrun, hnote.trans hacc, hrest⟩
      · obtain ⟨hacc₁, hadv, hdone⟩ := runLevel_spec (w := w₁) hc hf o hes hall hw r
        have hacc := hnote.trans hacc₁
        by_cases hleft : (runLevel c o k es r w₁).2.budget.exhausted = true
        · obtain ⟨w', hrun, hstore, hbudget⟩ := runLevels_spent (c := c) hacc.sound hleft o levels
            (k + 1) (runLevel c o k es r w₁).1
          refine ⟨_, w', hrun, hacc.trans (.ofSame hacc.sound hstore hbudget), ?_, fun h => ?_⟩
          · rw [hdepth, hstore]
            exact hcut hadv
          · rw [hbudget, hleft] at h
            cases h
        · obtain ⟨r', w', hrun, hacc', hrest⟩ := ih (k + 1) (runLevel c o k es r w₁).1 hacc.sound
            ((hdone (Bool.eq_false_iff.mpr hleft)).trans hnext)
          exact ⟨r', w', hrun, hacc.trans hacc', hrest⟩

/-- **An expansion is a search by levels.** It returns its report, the rows it reports are those it
has added and was charged for, and it ends with all levels complete unless the budget is spent, in
which case it was cut short in one of them. -/
theorem run_spec (hc : c.Steady f) (hf : f.Readable) (o : Options) (hw : w.store.Sound) :
    ∃ r w', run c o w = (.ok r, w') ∧ Accounts {} r w w' ∧
      r.budgetExhausted = w'.budget.exhausted ∧
      Chart.Underway f o.maxDepth w.store.chart w'.store.chart ∧
      (w'.budget.exhausted = false →
        w'.store.chart = Chart.complete f w.store.chart o.maxDepth) := by
  obtain ⟨r, w', hrun, hacc, hunder, hdone⟩ :=
    runLevels_spec hc hf o w.store.chart o.maxDepth 0 {} hw rfl
  rw [Nat.zero_add] at hunder hdone
  refine ⟨{ r with budgetExhausted := w'.budget.exhausted }, w', ?_, ?_, rfl, hunder, hdone⟩
  · rw [run, hrun]
  · exact ⟨hacc.sound, hacc.spends, hacc.reported⟩

end Expansion

/-! ## A small catalog -/

/-- A catalog that answers as `f` says, each call after a time of its own. -/
def Catalog.answering (f : Related) (delay : Nat → Nat) : Catalog where
  list _ _ := { outcome := .ok [] }
  similar n id _ := { delay := delay n, outcome := f id }
  detail _ id _ := { outcome := .error (.status id 404) }

theorem Catalog.answering_steady (f : Related) (delay : Nat → Nat) : (answering f delay).Steady f :=
  ⟨fun _ _ _ => rfl, fun _ _ _ _ => rfl⟩

/-- Two ids that list each other and share a third, about which the call fails. -/
def Related.sample : Related
  | "a" => .ok [⟨"b", .null⟩, ⟨"c", .null⟩]
  | "b" => .ok [⟨"a", .null⟩, ⟨"c", .null⟩, ⟨"d", .null⟩, ⟨"d", .null⟩]
  | "c" => .error (.status "c" 500)
  | _ => .ok []

theorem Related.sample_readable : sample.Readable := by
  have hnull : (Json.read? Json.null.text).isSome := by decide
  intro id page hpage item hitem
  unfold sample at hpage
  split at hpage <;> cases hpage <;> simp at hitem
  · rcases hitem with rfl | rfl <;> exact hnull
  · rcases hitem with rfl | rfl | rfl <;> exact hnull

/-- A store with one row to start from. -/
def Store.seeded : Store := Store.empty.append [newRow "a" 0 .null]

theorem Store.seeded_sound : seeded.Sound := by
  have hempty : Store.empty.Sound := ⟨rfl, ⟨{}, rfl, rfl, rfl⟩, List.nodup_nil, nofun⟩
  exact hempty.append 0 (by decide) (by decide)

end CatalogCrawl
