import CatalogCrawl.Proofs.Accounting
import CatalogCrawl.Proofs.Isolation
import CatalogCrawl.Proofs.StrictBudget

/-! # The summary of a crawl

A crawl with valid options always comes to its end. A stage that fails is named in the summary and
reports nothing, and the stages after it run all the same. Each stage has one way to fail as a
whole: an expansion at the reading of a level that it reaches (`Expansion.run_error_iff`), a
backfill at the look for what is missing, and an export at its file or its query. What the summary
counts agrees with the budget and the calls (`Crawl.run_summary`). -/

namespace CatalogCrawl

/-! ## Seeding -/

namespace World

/-- A page spends what it has inserted, and nothing if it fails. -/
theorem seedPage_budget (items : List Item) (w : World) :
    (∃ n w', w.seedPage items = (.ok n, w') ∧ w'.budget = w.budget.spend n) ∨
      ∃ e w', w.seedPage items = (.error e, w') ∧ w'.budget = w.budget := by
  unfold seedPage
  dsimp only
  split
  · exact .inl ⟨0, w, rfl, rfl⟩
  · split
    · exact .inl ⟨_, _, rfl, rfl⟩
    · exact .inr ⟨_, _, rfl, rfl⟩

end World

namespace Seeding

/-- The budget has counted what the stage has. -/
def Counts (s s' : Stage Tally) : Prop :=
  s'.world.budget.crawled + s.tally.inserted = s.world.budget.crawled + s'.tally.inserted

theorem Counts.of_same {s s' : Stage Tally} (hb : s'.world.budget = s.world.budget)
    (ht : s'.tally.inserted = s.tally.inserted) : Counts s s' := by
  rw [Counts, hb, ht]

theorem counts_flow : Pacer.Flow Counts where
  refl _ := rfl
  trans h h' := by
    unfold Counts at *
    omega
  note _ _ := rfl

theorem counts_react (q : ListQuery) (outcome : Except FetchError (List Item)) (s : Stage Tally) :
    Counts s (react q outcome s).1 := by
  cases outcome with
  | error e => exact .of_same rfl rfl
  | ok items =>
    simp only [react, Stage.lift]
    rcases s.world.seedPage_budget items with ⟨n, w', hpage, hbudget⟩ | ⟨e, w', hpage, hbudget⟩
    · rw [hpage]
      simp only [Counts, Stage.count, Logged.debug, Logged.note, hbudget, Budget.crawled_spend]
      omega
    · rw [hpage]
      exact .of_same hbudget rfl

/-- What seeding reports as inserted is what it has spent. -/
theorem run_inserted (c : Catalog) (o : Options) (w : World) :
    (run c o w).2.budget.crawled = w.budget.crawled + (run c o w).1.inserted := by
  let start : World := Logged.info .seeding s!"Seeding from {o.seedQueries.length} listing pages" w
  have hunit (q : ListQuery) (s₀ : Stage Tally) :
      Pacer.Keeps Counts (fun _ => True) s₀ (unit c q) := by
    intro now s _
    refine ⟨.of_same (Stage.budget_request _ _) (by rw [unit, Stage.tally_request]),
      fun s' _ _ => ⟨?_, trivial⟩⟩
    exact counts_flow.trans (.of_same (Stage.budget_receive _ _) (by rw [Stage.tally_receive]))
      (counts_react q _ _)
  have hrun :=
    (Pacer.runUntil_keeps (Q := fun _ _ => True) counts_flow (fun _ _ _ h _ => h) o.batchSize
    o.seedWindow (fun s => s.world.budget.exhausted) o.seedQueries (unit c) ⟨start, {}⟩
    (fun q _ => hunit q _) start.now).1
  unfold run
  dsimp only
  split <;> exact hrun

end Seeding

/-! ## Expansion -/

namespace Expansion

variable {c : Catalog} {o : Options} {w : World}

/-- Levels fail if one that is reached cannot be read. -/
theorem runLevels_error_iff (c : Catalog) (o : Options) (w : World) (levels : Nat) :
    (∃ e, (runLevels c o levels 0 {} w).1 = .error e) ↔
      ∃ d < levels, Reached c o w d ∧
        ∃ e, (atLevel c o w d).store.entriesAt d .unvisited = .error e := by
  induction levels with
  | zero => exact ⟨nofun, nofun⟩
  | succ levels ih =>
    by_cases hreached : Reached c o w levels
    · obtain ⟨r, hr⟩ := hreached.runLevels
      rw [hr 1]
      constructor
      · rintro ⟨e, herr⟩
        refine ⟨levels, Nat.lt_succ_self _, hreached, ?_⟩
        cases hread : (atLevel c o w levels).store.entriesAt levels .unvisited with
        | error e => exact ⟨e, rfl⟩
        | ok es =>
          simp only [runLevels, hread] at herr
          split at herr
          · cases herr
          · split at herr <;> cases herr
      · rintro ⟨d, hd, -, e, hread⟩
        rcases Nat.lt_succ_iff_lt_or_eq.mp hd with hlt | rfl
        · obtain ⟨⟨es, hok⟩, -⟩ := hreached d hlt
          rw [hok] at hread
          cases hread
        · simp only [runLevels, hread]
          exact ⟨e, rfl⟩
    · rw [(runLevels_of_not_reached hreached 1).1, ih]
      constructor
      · rintro ⟨d, hd, hrest⟩
        exact ⟨d, Nat.lt_succ_of_lt hd, hrest⟩
      · rintro ⟨d, hd, hd', hread⟩
        refine ⟨d, Nat.lt_of_le_of_ne (Nat.le_of_lt_succ hd) ?_, hd', hread⟩
        rintro rfl
        exact hreached hd'

/-- An expansion fails if and only if a level that it reaches cannot be read. -/
theorem run_error_iff (c : Catalog) (o : Options) (w : World) :
    (∃ e, (run c o w).1 = .error e) ↔
      ∃ d < o.maxDepth, Reached c o w d ∧
        ∃ e, (atLevel c o w d).store.entriesAt d .unvisited = .error e := by
  rw [← runLevels_error_iff]
  unfold run
  rcases runLevels c o o.maxDepth 0 {} w with ⟨e | r, w'⟩
  · exact ⟨fun _ => ⟨e, rfl⟩, fun _ => ⟨e, rfl⟩⟩
  · exact ⟨nofun, nofun⟩

/-- An expansion asks for what is similar to ids, and for nothing else. -/
theorem run_calls (c : Catalog) (o : Options) (w : World) :
    ∃ made, (run c o w).2.calls.map (·.2) = w.calls.map (·.2) ++ made ∧
      ∀ call ∈ made, ∃ id, call = .similar id o.locale := by
  obtain ⟨events, k, hcourse, -, -, hworld, -⟩ := run_course c o w
  refine ⟨_, hworld ▸ hcourse.calls_eq, fun call hcall => ?_⟩
  obtain ⟨e, -, rfl⟩ := List.mem_map.mp hcall
  exact ⟨e.id, rfl⟩

theorem run_crawled_le (c : Catalog) (o : Options) (w : World) :
    w.budget.crawled ≤ (run c o w).2.budget.crawled := by
  have hsteps : w.Steps (fun _ _ => True) (run c o w).2 :=
    run_steps ⟨fun _ _ _ => trivial, fun _ _ _ _ => trivial, fun _ _ _ _ => trivial⟩ o w
  obtain ⟨-, more, -, htrail⟩ := hsteps.follows
  rw [htrail.crawled_created]
  exact Nat.le_add_right _ _

end Expansion

/-! ## Backfill -/

/-- The ids of the frontier that have no details. -/
def Store.undetailed (s : Store) : List String := s.ids.filter fun id => ∀ r ∈ s.infoRows, r.id ≠ id

theorem Store.idsMissingInfo_eq_ok {s : Store} {ids : List String}
    (h : s.idsMissingInfo = .ok ids) : ids = s.undetailed := by
  unfold idsMissingInfo frontierTable infoTable at h
  cases hf : s.frontier with
  | none => simp [hf, Bind.bind, Except.bind] at h
  | some t =>
    cases hi : s.info with
    | none => simp [hf, hi, Bind.bind, Except.bind] at h
    | some i =>
      simp only [hf, hi, Bind.bind, Except.bind, Pure.pure, Except.pure, Except.ok.injEq] at h
      rw [undetailed, Store.ids, rows_of_frontier hf, infoRows_of_info hi, ← h]
      refine List.filter_congr fun id _ => ?_
      rw [Bool.eq_iff_iff]
      simp

namespace Backfill

/-- A reaction makes no call and spends nothing. -/
theorem react_same (id : String) (outcome : Except FetchError Detail) (s : Stage Tally) :
    (react id outcome s).1.world.budget = s.world.budget ∧
      (react id outcome s).1.world.calls = s.world.calls := by
  cases outcome with
  | error e => exact ⟨rfl, rfl⟩
  | ok detail =>
    have hsaved :
        (s.world.write (Store.insertInfo (detail.toRecord id))).2.budget = s.world.budget ∧
        (s.world.write (Store.insertInfo (detail.toRecord id))).2.calls = s.world.calls :=
      ⟨rfl, rfl⟩
    simp only [react, Stage.onStore, Stage.lift]
    generalize s.world.write _ = r at hsaved ⊢
    obtain ⟨e | _, u⟩ := r
    · cases e with
      | duplicate | corrupt | engine => exact hsaved
    · exact hsaved

/-- The calls made and those that wait are all that there are to make. -/
structure Asks (ids : List String) (l : Locale) (w : World) (q : List String)
    (s : Stage Tally) : Prop where
  budget : s.world.budget = w.budget
  calls : s.world.calls.map (·.2) ++ q.map (Call.detail · l) =
    w.calls.map (·.2) ++ ids.map (Call.detail · l)

theorem unit_asks (c : Catalog) (l : Locale) (ids : List String) (w : World) :
    Pacer.Invariant (unit c l) (ends c l) (fun _ => false) fun q _ _ s => Asks ids l w q s where
  note _ h := ⟨h.budget, h.calls⟩
  launch {id q fl n s} now h := by
    refine ⟨(id, s.world.calls.length), rfl, (Stage.budget_request _ _).trans h.budget, ?_⟩
    rw [unit, Stage.calls_request, List.map_append, List.append_assoc]
    exact h.calls
  finish {q fl b fl' n s} now h := by
    obtain ⟨id, number⟩ := b
    obtain ⟨hbudget, hcalls⟩ :=
      react_same id (c.detail number id l).outcome (s.receive (c.detail number id l))
    refine ⟨(hbudget.trans (Stage.budget_receive _ _)).trans h.budget, ?_⟩
    rw [ends, hcalls, Stage.calls_receive]
    exact h.calls
  halt := nofun

theorem run_error {c : Catalog} {o : Options} {w : World} {e : StoreError}
    (h : w.store.idsMissingInfo = .error e) : run c o w = (.error e, w) := by
  rw [run, h]

/-- A backfill that finds what is missing asks for it once, in order, and spends nothing. -/
theorem run_ok (c : Catalog) (o : Options) {w : World} {ids : List String}
    (h : w.store.idsMissingInfo = .ok ids) :
    ∃ report w', run c o w = (.ok report, w') ∧ w'.budget = w.budget ∧
      w'.calls.map (·.2) = w.calls.map (·.2) ++ w.store.undetailed.map (.detail · o.locale) := by
  let start : World := Logged.info .backfilling s!"Querying {ids.length} apps ..." w
  have hasks := Pacer.runUntil_invariant (unit_asks c o.locale ids start) o.batchSize
    o.backfillWindow start.now (s := ⟨start, {}⟩) ⟨rfl, rfl⟩
  have hcalls := hasks.calls
  rw [List.map_nil, List.append_nil] at hcalls
  rw [run, h, ← Store.idsMissingInfo_eq_ok h]
  exact ⟨_, _, rfl, hasks.budget, hcalls⟩

end Backfill

/-! ## The stages one after the other -/

theorem World.budget_exportTo (f : ExportFilter) (path : String) (w : World) :
    (w.exportTo f path).2.budget = w.budget := by
  unfold World.exportTo
  split
  · rfl
  · dsimp only
    split <;> rfl

namespace Crawl

variable {c : Catalog} {o : Options} {w : World}

/-- The second stage of a crawl. -/
def expanded (c : Catalog) (o : Options) (w : World) : Except StoreError Expansion.Report × World :=
  Expansion.run c o (expandStart c o w)

/-- The stage is listed just if it has failed. -/
def Listed (name : StageName) (failed : Prop) (names : List StageName) : Prop :=
  failed ∧ names = [name] ∨ ¬failed ∧ names = []

namespace Listed

variable {name : StageName} {failed : Prop} {names : List StageName}

theorem sublist (h : Listed name failed names) : names.Sublist [name] := by
  rcases h with ⟨-, rfl⟩ | ⟨-, rfl⟩
  · exact .refl _
  · exact List.nil_sublist _

theorem mem_iff (h : Listed name failed names) : name ∈ names ↔ failed := by
  rcases h with ⟨hfailed, rfl⟩ | ⟨hfailed, rfl⟩
  · exact ⟨fun _ => hfailed, fun _ => List.mem_singleton.mpr rfl⟩
  · exact ⟨nofun, fun h => (hfailed h).elim⟩

theorem not_mem (h : Listed name failed names) {other : StageName} (hne : other ≠ name) :
    other ∉ names :=
  fun hmem => hne (List.mem_singleton.mp (h.sublist.subset hmem))

/-- What is listed of three stages. -/
theorem mem_append_iff {P Q R : Prop} {names₁ names₂ names₃ : List StageName}
    (h₁ : Listed .expand P names₁) (h₂ : Listed .backfill Q names₂) (h₃ : Listed .save R names₃) :
    (.expand ∈ names₁ ++ names₂ ++ names₃ ↔ P) ∧ (.backfill ∈ names₁ ++ names₂ ++ names₃ ↔ Q) ∧
      (.save ∈ names₁ ++ names₂ ++ names₃ ↔ R) := by
  simp only [List.mem_append]
  refine ⟨?_, ?_, ?_⟩
  · rw [or_iff_left (h₃.not_mem (by decide)), or_iff_left (h₂.not_mem (by decide)), h₁.mem_iff]
  · rw [or_iff_left (h₃.not_mem (by decide)), or_iff_right (h₁.not_mem (by decide)), h₂.mem_iff]
  · rw [or_iff_right, h₃.mem_iff]
    rintro (hmem | hmem)
    · exact h₁.not_mem (by decide) hmem
    · exact h₂.not_mem (by decide) hmem

end Listed

/-- A stage that returns gives its report and is not listed; one that fails is listed, with an empty
report. Only a note is added to its world. -/
theorem settle_ofStore {ρ : Type} (name : StageName) (empty : ρ) (r : Except StoreError ρ × World) :
    ∃ report names u, settle name empty (ofStore r) = (report, names, u) ∧
      Listed name (∃ e, r.1 = .error e) names ∧ ((∃ e, r.1 = .error e) → report = empty) ∧
      (∀ x, r.1 = .ok x → report = x) ∧
      u.store = r.2.store ∧ u.budget = r.2.budget ∧ u.calls = r.2.calls := by
  rcases r with ⟨e | x, w⟩
  · exact ⟨_, _, _, rfl, .inl ⟨⟨e, rfl⟩, rfl⟩, fun _ => rfl, nofun, rfl, rfl, rfl⟩
  · refine ⟨_, _, _, rfl, .inr ⟨nofun, rfl⟩, nofun, ?_, rfl, rfl, rfl⟩
    rintro _ ⟨⟩
    rfl

/-- A backfill fails just if what is missing cannot be found out. Otherwise it asks for the details
of each id that has none. -/
theorem settle_backfill (c : Catalog) (o : Options) (w : World) :
    ∃ report names u, settle .backfill {} (ofStore (Backfill.run c o w)) = (report, names, u) ∧
      Listed .backfill (∃ e, w.store.idsMissingInfo = .error e) names ∧
      ((∃ e, w.store.idsMissingInfo = .error e) → report = {}) ∧ u.budget = w.budget ∧
      u.calls.map (·.2) = w.calls.map (·.2) ++
        if .backfill ∈ names then [] else w.store.undetailed.map (.detail · o.locale) := by
  cases hmissing : w.store.idsMissingInfo with
  | error e =>
    rw [Backfill.run_error hmissing]
    refine ⟨_, _, _, rfl, .inl ⟨⟨e, rfl⟩, rfl⟩, fun _ => rfl, rfl, ?_⟩
    rw [if_pos (List.mem_singleton.mpr rfl), List.append_nil]
    rfl
  | ok ids =>
    obtain ⟨report, w', hrun, hbudget, hcalls⟩ := Backfill.run_ok c o hmissing
    rw [hrun]
    refine ⟨report, [], w', rfl, .inr ⟨nofun, rfl⟩, nofun, hbudget, ?_⟩
    rw [if_neg List.not_mem_nil]
    exact hcalls

/-- An export is listed just if there is no number of exported ids. -/
theorem settle_save (f : ExportFilter) (path : String) (w : World) :
    ∃ exported names u, settle .save none
        ((w.exportTo f path).1.map fun ids => some ids.length, (w.exportTo f path).2) =
          (exported, names, u) ∧
      Listed .save (exported = none) names ∧ u.budget = w.budget ∧ u.calls = w.calls := by
  have hbudget := World.budget_exportTo f path w
  obtain ⟨-, hcalls⟩ := World.exportTo_same f path w
  rcases hexport : w.exportTo f path with ⟨e | ids, u⟩ <;> rw [hexport] at hbudget hcalls
  · exact ⟨_, _, _, rfl, .inl ⟨rfl, rfl⟩, hbudget, hcalls⟩
  · exact ⟨_, _, _, rfl, .inr ⟨nofun, rfl⟩, hbudget, hcalls⟩

theorem checkpoint_same (w : World) :
    (checkpoint w).budget = w.budget ∧ (checkpoint w).calls = w.calls := by
  unfold checkpoint
  split <;> exact ⟨rfl, rfl⟩

/-- The calls up to the end of the expansion. -/
theorem expanded_calls (c : Catalog) (o : Options) (w : World) :
    ∃ asked, (expanded c o w).2.calls.map (·.2) = w.calls.map (·.2) ++ asked ∧
      ∀ call ∈ asked, ∀ id l, call ≠ .detail id l := by
  obtain ⟨listed, hlisted, hlists⟩ := Seeding.run_calls c o
    (Logged.info .crawling "Retrieving seed apps ..." (w.fresh o.maxApps))
  obtain ⟨similar, hsimilar, hasked⟩ := Expansion.run_calls c o (expandStart c o w)
  have hstart : (expandStart c o w).calls = w.calls ++ listed := hlisted
  refine ⟨listed.map (·.2) ++ similar, ?_, fun call hcall id l => ?_⟩
  · rw [expanded, hsimilar, hstart, List.map_append, List.append_assoc]
  · rcases List.mem_append.mp hcall with hcall | hcall
    · obtain ⟨x, hx, rfl⟩ := List.mem_map.mp hcall
      obtain ⟨q, hq⟩ := hlists x hx
      rw [hq]
      exact nofun
    · obtain ⟨id', rfl⟩ := hasked call hcall
      exact nofun

theorem expanded_keyed (hw : w.store.Keyed) (hc : c.Within Store.Outside) :
    (expanded c o w).2.store.Keyed := by
  have hsteps : (w.fresh o.maxApps).Steps Store.Outside (expanded c o w).2 :=
    .head (.note _ _)
      ((Seeding.run_steps hc o _).trans (.head (.note _ _) (Expansion.run_steps hc o _)))
  obtain ⟨_, -, hpasses⟩ := hsteps.passes
  exact hpasses.keyed hw

/-- What the summary of a crawl from `w` says, and the world the crawl ends in. -/
structure AddsUp (c : Catalog) (o : Options) (w : World) (summary : Summary)
    (w' : World) : Prop where
  /-- Seeding is never listed. -/
  stages : summary.failedStages.Sublist [.expand, .backfill, .save]
  /-- The expansion fails at a level that it reaches. A level is read before the budget
  is looked at. -/
  expand : .expand ∈ summary.failedStages ↔
    ∃ d < o.maxDepth, Expansion.Reached c o (expandStart c o w) d ∧
      ∃ e, (Expansion.atLevel c o (expandStart c o w) d).store.entriesAt d .unvisited = .error e
  backfill :
    .backfill ∈ summary.failedStages ↔ ∃ e, (expanded c o w).2.store.idsMissingInfo = .error e
  save : .save ∈ summary.failedStages ↔ summary.exported = none
  expand_empty : .expand ∈ summary.failedStages → summary.expand = {}
  backfill_empty : .backfill ∈ summary.failedStages → summary.backfill = {}
  /-- Details are asked for only in the backfill, for each id that had none when the
  expansion ended. -/
  details : ∃ asked, w'.calls.map (·.2) = w.calls.map (·.2) ++ asked ++
      (if .backfill ∈ summary.failedStages then []
        else (expanded c o w).2.store.undetailed.map (.detail · o.locale)) ∧
    ∀ call ∈ asked, ∀ id l, call ≠ .detail id l
  /-- These ids are different, if the ids of the store are and others keep to its operations. -/
  once : w.store.Keyed → c.Within Store.Outside → (expanded c o w).2.store.undetailed.Nodup
  crawled : .expand ∉ summary.failedStages →
    summary.crawled = summary.seed.inserted + summary.expand.inserted
  seeded_le : summary.seed.inserted ≤ summary.crawled

theorem runStages_addsUp (c : Catalog) (o : Options) (w : World) :
    AddsUp c o w (runStages c o w).1 (runStages c o w).2 := by
  obtain ⟨r₁, r₂, r₃, r₄, r₅, hrun, hstart⟩ := runStages_eq c o w
  obtain ⟨expand, names, u, hexpand, hlisted, hempty, hreport, hstore, hbudget, hcalls⟩ :=
    settle_ofStore .expand {} (expanded c o w)
  obtain ⟨backfill, names', u', hbackfill, hlisted', hempty', hbudget', hcalls'⟩ :=
    settle_backfill c o (Logged.note r₃ (Logged.note r₂ u))
  obtain ⟨exported, names'', u'', hsave, hlisted'', hbudget'', hcalls''⟩ :=
    settle_save o.exportFilter o.exportPath (Logged.note r₅ (Logged.note r₄ u'))
  have hsummary : runStages c o w =
      ({ seed := (seeded c o w).1, expand, backfill, exported,
         crawled := (checkpoint u'').budget.crawled,
         failedStages := names ++ names' ++ names'' }, checkpoint u'') := by
    unfold expanded at hexpand
    rw [hrun]
    unfold afterSeeding
    rw [← hstart, hexpand]
    dsimp only
    rw [hbackfill]
    dsimp only
    rw [hsave]
  have hspent : (checkpoint u'').budget = (expanded c o w).2.budget :=
    (checkpoint_same u'').1.trans (hbudget''.trans (hbudget'.trans hbudget))
  have hmade : (checkpoint u'').calls.map (·.2) = u'.calls.map (·.2) :=
    congrArg _ ((checkpoint_same u'').2.trans hcalls'')
  have hseeded : (expandStart c o w).budget.crawled = (seeded c o w).1.inserted :=
    (Seeding.run_inserted c o _).trans (Nat.zero_add _)
  replace hlisted' : Listed .backfill (∃ e, u.store.idsMissingInfo = .error e) names' := hlisted'
  replace hempty' : (∃ e, u.store.idsMissingInfo = .error e) → backfill = {} := hempty'
  replace hcalls' : u'.calls.map (·.2) = u.calls.map (·.2) ++
      if .backfill ∈ names' then [] else u.store.undetailed.map (.detail · o.locale) := hcalls'
  rw [hstore] at hlisted' hempty' hcalls'
  obtain ⟨hexp, hback, hsav⟩ := hlisted.mem_append_iff hlisted' hlisted''
  obtain ⟨asked, hasked, hother⟩ := expanded_calls c o w
  rw [hsummary]
  refine ⟨(hlisted.sublist.append hlisted'.sublist).append hlisted''.sublist,
    hexp.trans (Expansion.run_error_iff c o _), hback, hsav, fun h => hempty (hexp.mp h),
    fun h => hempty' (hback.mp h), ⟨asked, ?_, hother⟩, fun hw hc => ?_, fun h => ?_, ?_⟩
  · simp only [hback.trans hlisted'.mem_iff.symm]
    rw [hmade, hcalls', hcalls, hasked]
  · exact (expanded_keyed hw hc).frontier.sublist List.filter_sublist
  · dsimp only
    cases hres : (expanded c o w).1 with
    | error e => exact (h (hexp.mpr ⟨e, hres⟩)).elim
    | ok report =>
      have hok : Expansion.run c o (expandStart c o w) = (.ok report, (expanded c o w).2) :=
        Prod.ext hres rfl
      obtain ⟨r, hlevels, rfl⟩ := Expansion.run_eq_ok hok
      have hinserted := (Expansion.runLevels_accounts c o _ _ hlevels).1.inserted
      rw [hspent, hinserted, hseeded, hreport _ hres]
  · dsimp only
    rw [hspent, ← hseeded]
    exact Expansion.run_crawled_le c o _

/-- **The summary of a crawl.** Options that are not valid are rejected, and nothing else
happens. Otherwise a crawl returns a summary that adds up, whatever the catalog answers and
the store does. -/
theorem run_summary (c : Catalog) (o : Options) (w : World) :
    match o.validate with
    | .error e => run c o w = (.error e.failure, w)
    | .ok () => ∃ summary w', run c o w = (.ok summary, w') ∧ AddsUp c o w summary w' := by
  unfold run
  cases o.validate with
  | error e => rfl
  | ok => exact ⟨_, _, rfl, runStages_addsUp c o w⟩

-- a row of level 1 that cannot be read ends the expansion, and not the crawl
example :
    let out := (runStages (.answering .sample (5 - ·))
      { categories := ["GAME"], collections := ["TOP_FREE"], maxDepth := 2 }
      { store := Store.seeded.append [⟨"b", 1, 0, "not json"⟩], budget := ⟨9, 0⟩ }).1
    out.failedStages = [.expand] ∧ out.expand = {} ∧ out.backfill.pending = 3 ∧
      out.crawled = 1 := by
  decide +kernel

end Crawl

end CatalogCrawl
