import CatalogCrawl.Proofs.StoreHistory
import CatalogCrawl.Proofs.Summary
import Mathlib.Data.Nat.Find

/-! # Where rows come from

As long as nobody but crawls writes to a store, each of its rows carries an item that the catalog
has given: one of a listing page for a row of depth 0, and one of what is similar to a row one level
above for any other (`FrontierRow.Traced`). An answer is found by the number of its call, so what a
call has brought about can be named when its answer comes (`World.Numbered`). It makes no difference
how often crawls are cut short, fail in part or begin anew with other limits. There is then a row at
every depth above that of another (`Operation.performAll_traced`). -/

namespace CatalogCrawl

/-! ## Answered calls -/

namespace Catalog

/-- The items that a call was answered with, by its number. -/
def page? (c : Catalog) (n : Nat) : Call → Option (List Item)
  | .list q => (c.list n q).outcome.toOption
  | .similar id l => (c.similar n id l).outcome.toOption
  | .detail _ _ => none

/-- The calls after the first `old` ones that were answered with items, and the items. -/
def pages (c : Catalog) (old : Nat) (calls : List (Nat × Call)) : List (Call × List Item) :=
  (calls.zipIdx.drop old).filterMap fun x => (c.page? x.2 x.1.2).map (x.1.2, ·)

theorem pages_subset {c : Catalog} {calls calls' : List (Nat × Call)} (h : calls <+: calls')
    (old : Nat) : c.pages old calls ⊆ c.pages old calls' := by
  obtain ⟨more, rfl⟩ := h
  rw [pages, pages, List.zipIdx_append, List.drop_append, List.filterMap_append]
  exact List.subset_append_left _ _

end Catalog

namespace World

variable {w w' w'' : World} {old n : Nat} {call : Call}

/-- The call with a number, after the first `old` ones. -/
def Numbered (old : Nat) (w : World) (n : Nat) (call : Call) : Prop :=
  old ≤ n ∧ ∃ t, w.calls[n]? = some (t, call)

theorem Numbered.later (h : w.Numbered old n call) (hcalls : w.calls <+: w'.calls) :
    w'.Numbered old n call := by
  obtain ⟨hold, t, ht⟩ := h
  obtain ⟨more, hmore⟩ := hcalls
  obtain ⟨hn, -⟩ := List.getElem?_eq_some_iff.mp ht
  exact ⟨hold, t, by rw [← hmore, List.getElem?_append_left hn, ht]⟩

theorem numbered_call (h : old ≤ w.calls.length) (hcalls : w'.calls = w.calls ++ [(n, call)]) :
    w'.Numbered old w.calls.length call :=
  ⟨h, n, by rw [hcalls, List.getElem?_concat_length]⟩

/-- An answer is among those that count, if its call is. -/
theorem Numbered.mem_pages (h : w.Numbered old n call) {c : Catalog} {page : List Item}
    (hpage : c.page? n call = some page) : (call, page) ∈ c.pages old w.calls := by
  obtain ⟨hold, t, ht⟩ := h
  refine List.mem_filterMap.mpr ⟨((t, call), n), List.mem_of_getElem? (i := n - old) ?_, ?_⟩
  · rw [List.getElem?_drop, Nat.add_sub_cancel' hold, List.getElem?_zipIdx, ht]
    simp
  · rw [hpage]
    rfl

/-- No row has changed, and calls may have been made. -/
structure Keeps (w w' : World) : Prop where
  rows : w'.store.rows = w.store.rows
  calls : w.calls <+: w'.calls

theorem Keeps.of_same (hs : w'.store = w.store) (hc : w'.calls = w.calls) : w.Keeps w' :=
  ⟨by rw [hs], hc ▸ List.prefix_rfl⟩

theorem Keeps.trans (h : w.Keeps w') (h' : w'.Keeps w'') : w.Keeps w'' :=
  ⟨h'.rows.trans h.rows, h.calls.trans h'.calls⟩

end World

/-! ## Rows and their sources -/

namespace FrontierRow

variable {pages pages' : List (Call × List Item)} {limit limit' : Nat} {s s' : Store}
  {r r' : FrontierRow}

/-- A row has the id and the payload of an item. -/
def Carries (r : FrontierRow) (item : Item) : Prop := r.id = item.id ∧ r.snapshot = item.raw.text

/-- A row of depth 0 carries an item of a page that was listed, and one further down carries an item
of what is similar to a row one level above. No row is deeper than the limit. -/
structure Traced (pages : List (Call × List Item)) (limit : Nat) (s : Store)
    (r : FrontierRow) : Prop where
  nonneg : 0 ≤ r.depth
  le : r.depth ≤ limit
  listed : r.depth = 0 → ∃ q page item, (.list q, page) ∈ pages ∧ item ∈ page ∧ r.Carries item
  related : r.depth ≠ 0 → ∃ parent ∈ s.rows, parent.depth + 1 = r.depth ∧
    ∃ l page item, (.similar parent.id l, page) ∈ pages ∧ item ∈ page ∧ r.Carries item

theorem Carries.becomes {item : Item} (h : r.Carries item) (hr : r.Becomes r') : r'.Carries item :=
  ⟨hr.id.trans h.1, hr.snapshot.trans h.2⟩

theorem Traced.later (h : r.Traced pages limit s) (hr : r.Becomes r') (hs : s.Evolves s')
    (hpages : pages ⊆ pages') (hlimit : limit ≤ limit') : r'.Traced pages' limit' s' where
  nonneg := hr.depth ▸ h.nonneg
  le := by
    have hle := h.le
    have hdepth := hr.depth
    omega
  listed hdepth := by
    obtain ⟨q, page, item, hpage, hitem, hcarries⟩ := h.listed (hr.depth.symm.trans hdepth)
    exact ⟨q, page, item, hpages hpage, hitem, hcarries.becomes hr⟩
  related hdepth := by
    obtain ⟨parent, hparent, habove, l, page, item, hpage, hitem, hcarries⟩ :=
      h.related fun hzero => hdepth (hr.depth.trans hzero)
    obtain ⟨parent', hparent', hbecomes⟩ := hs.exists_row hparent
    refine ⟨parent', hparent', ?_, l, page, item, ?_, hitem, hcarries.becomes hr⟩
    · rw [hbecomes.depth, habove, hr.depth]
    · rw [hbecomes.id]
      exact hpages hpage

end FrontierRow

namespace Store

variable {pages pages' : List (Call × List Item)} {limit limit' : Nat} {s s' : Store}

/-- Every row has its source. -/
def Traced (pages : List (Call × List Item)) (limit : Nat) (s : Store) : Prop :=
  ∀ r ∈ s.rows, r.Traced pages limit s

/-- Rows keep their sources, so that only new rows need one. -/
theorem Traced.later (h : s.Traced pages limit) (hs : s.Evolves s') (hpages : pages ⊆ pages')
    (hlimit : limit ≤ limit')
    (hnew : ∀ (i : Nat) r, s.rows.length ≤ i → s'.rows[i]? = some r → r.Traced pages' limit' s') :
    s'.Traced pages' limit' := by
  intro r hr
  obtain ⟨i, hi⟩ := List.mem_iff_getElem?.mp hr
  rcases Nat.lt_or_ge i s.rows.length with hlt | hge
  · obtain ⟨r', hr', hbecomes⟩ := hs.row (List.getElem?_eq_getElem hlt)
    rw [hi] at hr'
    cases hr'
    exact (h _ (List.getElem_mem hlt)).later hbecomes hs hpages hlimit
  · exact hnew i r hge hi

theorem Traced.of_rows (h : s.Traced pages limit) (hrows : s'.rows = s.rows)
    (hpages : pages ⊆ pages') (hlimit : limit ≤ limit') : s'.Traced pages' limit' := by
  intro r hr
  rw [hrows] at hr
  have htraced := h r hr
  refine ⟨htraced.nonneg, by have hle := htraced.le; omega, fun hdepth => ?_, fun hdepth => ?_⟩
  · obtain ⟨q, page, item, hpage, hrest⟩ := htraced.listed hdepth
    exact ⟨q, page, item, hpages hpage, hrest⟩
  · obtain ⟨parent, hparent, habove, l, page, item, hpage, hrest⟩ := htraced.related hdepth
    exact ⟨parent, hrows ▸ hparent, habove, l, page, item, hpages hpage, hrest⟩

/-- The depths of the rows are the numbers up to some one. -/
theorem Traced.depths (h : s.Traced pages limit) :
    ∃ n ≤ limit + 1, ∀ d : Int, (∃ r ∈ s.rows, r.depth = d) ↔ 0 ≤ d ∧ d < (n : Int) := by
  have hfree : ∃ n : Nat, ¬∃ r ∈ s.rows, r.depth = (n : Int) := by
    refine ⟨limit + 1, ?_⟩
    rintro ⟨r, hr, hdepth⟩
    have hle := (h r hr).le
    omega
  classical
  -- no row is at the first depth that is free, so none is below it
  have hbelow (k : Nat) (r : FrontierRow) (hr : r ∈ s.rows) :
      r.depth ≠ (Nat.find hfree + k : Nat) := by
    induction k generalizing r with
    | zero => exact fun hdepth => Nat.find_spec hfree ⟨r, hr, hdepth⟩
    | succ k ih =>
      intro hdepth
      obtain ⟨parent, hparent, habove, -⟩ := (h r hr).related (by omega)
      exact ih parent hparent (by omega)
  refine ⟨Nat.find hfree, Nat.find_min' hfree ?_, fun d => ⟨?_, ?_⟩⟩
  · rintro ⟨r, hr, hdepth⟩
    have hle := (h r hr).le
    omega
  · rintro ⟨r, hr, rfl⟩
    refine ⟨(h r hr).nonneg, ?_⟩
    by_contra hge
    have hnonneg := (h r hr).nonneg
    exact hbelow (r.depth.toNat - Nat.find hfree) r hr (by omega)
  · rintro ⟨hnonneg, hlt⟩
    have hrow := not_not.mp (Nat.find_min hfree (m := d.toNat) (by omega))
    obtain ⟨r, hr, hdepth⟩ := hrow
    exact ⟨r, hr, by omega⟩

end Store

/-! ## A crawl under way -/

variable {c : Catalog} {base : List (Call × List Item)} {old limit : Nat} {w w' : World}

/-- In the world of a crawl that began after `old` calls, every row has its source in the answers of
the crawl or in earlier ones. -/
structure Sourced (c : Catalog) (base : List (Call × List Item)) (old limit : Nat)
    (w : World) : Prop where
  traced : w.store.Traced (base ++ c.pages old w.calls) limit
  old_le : old ≤ w.calls.length

namespace Sourced

theorem keeps (h : Sourced c base old limit w) (hw : w.Keeps w') : Sourced c base old limit w' where
  traced := h.traced.of_rows hw.rows
    (List.append_subset.mpr ⟨List.subset_append_left _ _,
      List.subset_append_of_subset_right _ (Catalog.pages_subset hw.calls old)⟩) (Nat.le_refl _)
  old_le := Nat.le_trans h.old_le hw.calls.length_le

/-- Rows are added whose sources are known. -/
theorem evolves (h : Sourced c base old limit w) (hs : w.store.Evolves w'.store)
    (hcalls : w'.calls = w.calls)
    (hnew : ∀ (i : Nat) r, w.store.rows.length ≤ i → w'.store.rows[i]? = some r →
      r.Traced (base ++ c.pages old w.calls) limit w'.store) : Sourced c base old limit w' where
  traced := by
    rw [hcalls]
    exact h.traced.later hs (List.Subset.refl _) (Nat.le_refl _) hnew
  old_le := hcalls ▸ h.old_le

end Sourced

/-- When an answer arrives all rows are kept, if nobody else writes. -/
theorem Stage.keeps_receive {τ α : Type} {answer : Answer α}
    (h : ∀ s : Store, s.Unwritten (answer.meanwhile s))
    (s : Stage τ) : s.world.Keeps (s.receive answer).world := by
  refine ⟨?_, (calls_receive answer s).symm ▸ List.prefix_rfl⟩
  rw [store_receive]
  exact (h _).rows

theorem Stage.keeps_request {τ α : Type} {call : Call} {ask : Nat → Answer α}
    {react : Except FetchError α → Stage τ → Stage τ × Option String} (now : Nat) (s : Stage τ) :
    s.world.Keeps (request call ask react now s).1.world := by
  refine ⟨by rw [store_request], ?_⟩
  rw [calls_request]
  exact List.prefix_append _ _

namespace Seeding

/-- How a launched unit ends, by the number of its call. -/
def ends (c : Catalog) : ListQuery × Nat → Nat → Stage Tally → Stage Tally × Option String
  | (q, n), _, s => react q (c.list n q).outcome (s.receive (c.list n q))

/-- A listing page adds rows of depth 0, each from one of its items. -/
theorem seedPage_adds (items : List Item) (w : World) :
    ∃ added, w.store.Adds (w.seedPage items).2.store added ∧
      ∀ r ∈ added, ∃ item ∈ items, r = Store.newRow item.id 0 item.raw := by
  unfold World.seedPage
  dsimp only
  split
  · exact ⟨[], .nil _, nofun⟩
  · rcases Store.insertPage_cases (items.take w.budget.remaining) w.store with
      ⟨s', added, hins, hadds, hsub⟩ | ⟨e, hins⟩
    · rw [hins]
      refine ⟨added, hadds, fun r hr => ?_⟩
      obtain ⟨item, hitem, rfl⟩ := List.mem_map.mp (hsub.subset hr)
      exact ⟨item, List.mem_of_mem_take hitem, rfl⟩
    · rw [hins]
      exact ⟨[], .nil _, nofun⟩

/-- A page brings rows of its items. -/
theorem react_adds (q : ListQuery) (outcome : Except FetchError (List Item)) (s : Stage Tally) :
    ∃ added, s.world.store.Adds (react q outcome s).1.world.store added ∧
      ∀ r ∈ added, ∃ page item, outcome = .ok page ∧ item ∈ page ∧
        r = Store.newRow item.id 0 item.raw := by
  cases outcome with
  | error e => exact ⟨[], .nil _, nofun⟩
  | ok items =>
    obtain ⟨added, hadds, hitems⟩ := seedPage_adds items s.world
    refine ⟨added, ?_, fun r hr => ?_⟩
    · simp only [react, Stage.lift]
      generalize s.world.seedPage items = res at hadds ⊢
      obtain ⟨_ | _, u⟩ := res <;> exact hadds
    · obtain ⟨item, hitem, heq⟩ := hitems r hr
      exact ⟨items, item, rfl, hitem, heq⟩

/-- Rows from a listing page have their source in the answer to its call. -/
theorem react_sourced {q : ListQuery} {n : Nat} {s : Stage Tally}
    (h : Sourced c base old limit s.world) (hown : s.world.Numbered old n (.list q)) :
    Sourced c base old limit (react q (c.list n q).outcome s).1.world := by
  obtain ⟨added, hadds, hitems⟩ := react_adds q (c.list n q).outcome s
  refine h.evolves hadds.evolves (calls_react q _ s) fun i r hi hr => ?_
  rw [hadds.rows, List.getElem?_append_right hi] at hr
  obtain ⟨page, item, hpage, hitem, rfl⟩ := hitems r (List.mem_of_getElem? hr)
  have hanswer : c.page? n (.list q) = some page := by
    rw [Catalog.page?, hpage]
    rfl
  refine ⟨Int.le_refl _, Int.natCast_nonneg _, fun _ => ?_, fun hne => (hne rfl).elim⟩
  exact ⟨q, page, item, List.mem_append_right _ (hown.mem_pages hanswer), hitem, rfl, rfl⟩

/-- Seeding keeps all rows sourced, and each ticket in flight has the number of its call. -/
theorem unit_sourced (hc : c.Within Store.Unwritten) (base : List (Call × List Item))
    (old limit : Nat) (stop : Stage Tally → Bool) :
    Pacer.Invariant (unit c) (ends c) stop fun _ fl _ s =>
      Sourced c base old limit s.world ∧ ∀ b ∈ fl, s.world.Numbered old b.2 (.list b.1) where
  note _ h := ⟨h.1.keeps (.of_same rfl rfl), h.2⟩
  launch {q _ fl n s} now h := by
    refine ⟨(q, s.world.calls.length), rfl, h.1.keeps (Stage.keeps_request now s), ?_⟩
    refine List.forall_mem_append.mpr ⟨fun b hb => ?_, List.forall_mem_singleton.mpr ?_⟩
    · exact (h.2 b hb).later (Stage.keeps_request now s).calls
    · exact World.numbered_call h.1.old_le (Stage.calls_request now s)
  finish {_ fl b fl' n s} now h := by
    obtain ⟨q, number⟩ := b
    obtain ⟨hsourced, hnumbered⟩ := h
    obtain ⟨hbefore, hrest⟩ := List.forall_mem_append.mp hnumbered
    obtain ⟨hown, hafter⟩ := List.forall_mem_cons.mp hrest
    have hkeeps := Stage.keeps_receive (hc.list number q) s
    refine ⟨react_sourced (hsourced.keeps hkeeps) (hown.later hkeeps.calls), fun b hb => ?_⟩
    have hb := (List.forall_mem_append.mpr ⟨hbefore, hafter⟩ b hb).later hkeeps.calls
    exact hb.later (calls_react q _ _ ▸ List.prefix_rfl)
  halt _ h := h

theorem run_sourced (hc : c.Within Store.Unwritten) (o : Options) (h : Sourced c base old limit w) :
    Sourced c base old limit (run c o w).2 := by
  let start : World := Logged.info .seeding s!"Seeding from {o.seedQueries.length} listing pages" w
  have hstart : Sourced c base old limit start := h.keeps (.of_same rfl rfl)
  let stop (s : Stage Tally) : Bool := s.world.budget.exhausted
  have hend : Sourced c base old limit
      (Pacer.runUntil o.batchSize o.seedWindow stop (o.seedQueries.map (unit c)) start.now
        ⟨start, {}⟩).state.world :=
    (Pacer.runUntil_invariant
      (unit_sourced hc base old limit stop) o.batchSize o.seedWindow start.now
      ⟨hstart, List.forall_mem_nil _⟩).1
  unfold run
  dsimp only
  split <;> exact hend.keeps (.of_same rfl rfl)

end Seeding

namespace Expansion

variable {o : Options} {events new : List Event} {k k' : Moment}

/-- There is a row for an entry that was read. -/
def Stands (s : Store) (e : FrontierEntry) : Prop :=
  ∃ r ∈ s.rows, r.id = e.id ∧ r.depth = (e.depth : Int)

theorem Stands.later {s s' : Store} {e : FrontierEntry} (h : Stands s e) (hs : s.Evolves s') :
    Stands s' e := by
  obtain ⟨r, hr, hid, hdepth⟩ := h
  obtain ⟨r', hr', hbecomes⟩ := hs.exists_row hr
  exact ⟨r', hr', hbecomes.id.trans hid, hbecomes.depth.trans hdepth⟩

/-- A unit ends with a source for each of its rows: its own row is the one above. -/
theorem Ending.sourced {e : FrontierEntry} {n : Nat} {s s' : Stage Tally} {failure : Option String}
    (h : Ending e (c.similar n e.id o.locale).outcome s s' failure)
    (hs : Sourced c base old limit s.world)
    (hrow : Stands s.world.store e) (hown : s.world.Numbered old n (.similar e.id o.locale))
    (hlimit : e.depth + 1 ≤ limit) : Sourced c base old limit s'.world := by
  refine hs.evolves h.evolves h.calls fun i r hi hr => ?_
  obtain ⟨page, item, hpage, hitem, hbecomes⟩ := h.exists_item hi hr
  have hdepth : r.depth = ((e.depth + 1 : Nat) : Int) := hbecomes.depth
  have hanswer : c.page? n (.similar e.id o.locale) = some page := by
    rw [Catalog.page?, hpage]
    rfl
  obtain ⟨parent, hparent, hid, habove⟩ := hrow.later h.evolves
  refine ⟨by omega, by omega, fun hzero => by omega, fun _ => ⟨parent, hparent, by omega, ?_⟩⟩
  rw [hid]
  exact ⟨o.locale, page, item, List.mem_append_right _ (hown.mem_pages hanswer), hitem,
    hbecomes.id, hbecomes.snapshot⟩

/-- At a moment of an expansion every row has its source. There are rows for what waits or is under
way, and the calls for the latter are known by their numbers. -/
structure Rooted (c : Catalog) (o : Options) (base : List (Call × List Item)) (old limit : Nat)
    (k : Moment) : Prop where
  sourced : Sourced c base old limit k.stage.world
  queue : ∀ e ∈ k.queue, Stands k.stage.world.store e
  flight : ∀ f ∈ k.flight, Stands k.stage.world.store f.1 ∧
    k.stage.world.Numbered old f.2 (.similar f.1.id o.locale)

/-- A move of an expansion keeps all rows sourced, and those that wait in their places. -/
theorem Move.rooted (hc : c.Within Store.Unwritten) (hmove : Move c o k new k')
    (hk : Levelled o events k) (hlimit : o.maxDepth ≤ limit) (h : Rooted c o base old limit k) :
    Rooted c o base old limit k' := by
  cases hmove with
  | note | clock => exact ⟨h.sourced.keeps (.of_same rfl rfl), h.queue, h.flight⟩
  | read hd hread =>
    refine ⟨h.sourced, fun e he => ?_, nofun⟩
    obtain ⟨r, hr, hid, hdepth, -⟩ := Store.exists_row_of_entry hread he
    exact ⟨r, hr, hid, hdepth⟩
  | skip => exact ⟨h.sourced, fun e he => h.queue e (List.mem_cons_of_mem _ he), h.flight⟩
  | @call d e q fl s now hroom =>
    have hkeeps : s.world.Keeps (s.world.call now (.similar e.id o.locale)) :=
      ⟨rfl, List.prefix_append _ _⟩
    obtain ⟨hfirst, hrest⟩ := List.forall_mem_cons.mp h.queue
    refine ⟨h.sourced.keeps hkeeps, hrest, List.forall_mem_append.mpr ⟨fun f hf => ?_, ?_⟩⟩
    · exact ⟨(h.flight f hf).1, (h.flight f hf).2.later hkeeps.calls⟩
    · exact List.forall_mem_singleton.mpr ⟨hfirst, World.numbered_call h.sourced.old_le rfl⟩
  | @settle d n e q fl fl' s s' failure hreact =>
    have hending := Ending.of_react hreact
    have hothers := hc.similar n e.id o.locale
    have hkeeps := Stage.keeps_receive hothers s
    have hmeanwhile :
        s.world.store.Evolves (s.receive (c.similar n e.id o.locale)).world.store := by
      rw [Stage.store_receive]
      exact (hothers _).outside.evolves
    -- no row is ever lost, so the one that the call was made for is there to be the parent
    have hevolves := hmeanwhile.trans hending.evolves
    obtain ⟨hbefore, hafter⟩ := List.forall_mem_append.mp h.flight
    obtain ⟨⟨hrow, hown⟩, hafter⟩ := List.forall_mem_cons.mp hafter
    have hlevel : e.depth + 1 = d := hk.flight (e, n) (List.mem_append_right _ List.mem_cons_self)
    have hdepth : d ≤ o.maxDepth := hk.depth_le
    have hsourced := hending.sourced (h.sourced.keeps hkeeps) (hrow.later hmeanwhile)
      (hown.later hkeeps.calls) (by omega)
    refine ⟨hsourced, fun e he => (h.queue e he).later hevolves, fun f hf => ?_⟩
    obtain ⟨hrow', hown'⟩ := List.forall_mem_append.mpr ⟨hbefore, hafter⟩ f hf
    exact ⟨hrow'.later hevolves, (hown'.later hkeeps.calls).later (hending.calls ▸ List.prefix_rfl)⟩
  | stop => exact ⟨h.sourced, nofun, nofun⟩

/-- So does a whole course. -/
theorem Course.rooted (hc : c.Within Store.Unwritten) (hlimit : o.maxDepth ≤ limit)
    (hw : Sourced c base old limit w) (h : Course c o w events k) :
    Rooted c o base old limit k := by
  induction h with
  | start => exact ⟨hw, List.forall_mem_nil _, List.forall_mem_nil _⟩
  | move hcourse hmove ih => exact hmove.rooted hc hcourse.levelled hlimit ih

theorem run_sourced (hc : c.Within Store.Unwritten) (hlimit : o.maxDepth ≤ limit)
    (h : Sourced c base old limit w) : Sourced c base old limit (run c o w).2 := by
  obtain ⟨events, k, hcourse, -, -, hworld, -⟩ := run_course c o w
  exact hworld ▸ (hcourse.rooted hc hlimit h).sourced

end Expansion

namespace Backfill

theorem react_keeps (id : String) (outcome : Except FetchError Detail) (s : Stage Tally) :
    s.world.Keeps (react id outcome s).1.world := by
  cases outcome with
  | error e => exact .of_same rfl rfl
  | ok detail =>
    have hsaved : s.world.Keeps (s.world.write (Store.insertInfo (detail.toRecord id))).2 :=
      ⟨Store.rows_congr (Store.insertInfo_frontier _ _), List.prefix_rfl⟩
    simp only [react, Stage.onStore, Stage.lift]
    generalize s.world.write _ = r at hsaved ⊢
    obtain ⟨e | _, u⟩ := r
    · cases e with
      | duplicate => exact hsaved.trans (.of_same rfl rfl)
      | corrupt | engine => exact hsaved
    · exact hsaved.trans (.of_same rfl rfl)

theorem unit_keeps (hc : c.Within Store.Unwritten) (l : Locale) (w : World) :
    Pacer.Invariant (unit c l) (ends c l) (fun _ => false) fun _ _ _ s => w.Keeps s.world where
  note _ h := h.trans (.of_same rfl rfl)
  launch {id _ _ _ s} now h :=
    ⟨(id, s.world.calls.length), rfl, h.trans (Stage.keeps_request now s)⟩
  finish {_ _ b _ _ s} _ h :=
    (h.trans (Stage.keeps_receive (hc.detail b.2 b.1 l) s)).trans (react_keeps b.1 _ _)
  halt := nofun

/-- Details concern no rows of the frontier. -/
theorem run_keeps (hc : c.Within Store.Unwritten) (o : Options) (w : World) :
    w.Keeps (run c o w).2 := by
  unfold run
  cases w.store.idsMissingInfo with
  | error e => exact .of_same rfl rfl
  | ok ids =>
    let start : World := Logged.info .backfilling s!"Querying {ids.length} apps ..." w
    have hend : w.Keeps (Pacer.runUntil o.batchSize o.backfillWindow (fun _ => false)
        (ids.map (unit c o.locale)) start.now ⟨start, {}⟩).state.world :=
      Pacer.runUntil_invariant (unit_keeps hc o.locale w) o.batchSize o.backfillWindow start.now
        (.of_same rfl rfl)
    exact hend.trans (.of_same rfl rfl)

end Backfill

namespace Crawl

theorem settle_keeps {ρ : Type} (name : StageName) (empty : ρ) (r : Except Failure ρ × World) :
    r.2.Keeps (settle name empty r).2.2 := by
  rcases r with ⟨e | x, u⟩ <;> exact .of_same rfl rfl

theorem checkpoint_keeps (w : World) : w.Keeps (checkpoint w) := by
  unfold checkpoint
  split <;> exact .of_same rfl rfl

/-- After the expansion no row changes. -/
theorem expanded_keeps (hc : c.Within Store.Unwritten) (o : Options) (w : World) :
    (expanded c o w).2.Keeps (runStages c o w).2 := by
  obtain ⟨r₁, r₂, r₃, r₄, r₅, hrun, hstart⟩ := runStages_eq c o w
  have hnotes (r r' : Log.Record) (u : World) : u.Keeps (Logged.note r (Logged.note r' u)) :=
    .of_same rfl rfl
  have hexport (u : World) : u.Keeps (u.exportTo o.exportFilter o.exportPath).2 :=
    .of_same (World.exportTo_same _ _ u).1 (World.exportTo_same _ _ u).2
  rw [hrun]
  unfold afterSeeding
  rw [← hstart]
  refine .trans (.trans ?_ (settle_keeps _ _ _)) (checkpoint_keeps _)
  refine .trans (.trans ?_ (hnotes _ _ _)) (hexport _)
  refine .trans ?_ (settle_keeps _ _ _)
  rw [ofStore_world]
  refine .trans (.trans ?_ (hnotes _ _ _)) (Backfill.run_keeps hc o _)
  exact ofStore_world (expanded c o w) ▸ settle_keeps _ _ _

/-- After a crawl every row has its source in the answers of this crawl, or in those from before. -/
theorem runStages_traced (hc : c.Within Store.Unwritten) (o : Options)
    (h : w.store.Traced base limit) :
    (runStages c o w).2.store.Traced (base ++ c.pages w.calls.length (runStages c o w).2.calls)
      (max limit o.maxDepth) := by
  have hstart : Sourced c base w.calls.length (max limit o.maxDepth)
      (Logged.info .crawling "Retrieving seed apps ..." (w.fresh o.maxApps)) :=
    ⟨h.of_rows rfl (List.subset_append_left _ _) (Nat.le_max_left _ _), Nat.le_refl _⟩
  have hseeded : Sourced c base w.calls.length (max limit o.maxDepth) (expandStart c o w) :=
    (Seeding.run_sourced hc o hstart).keeps (.of_same rfl rfl)
  exact ((Expansion.run_sourced hc (Nat.le_max_right _ _) hseeded).keeps
    (expanded_keeps hc o w)).traced

end Crawl

/-! ## Sequences of crawls -/

namespace Operation

/-- Nobody but a crawl writes, while other things may stand in the way of writes at any time. -/
def Solitary : Operation → Prop
  | insert _ _ _ | page _ | mark _ _ | info _ => False
  | read _ => True
  | fault f => ∀ s : Store, s.Unwritten (f s)
  | crawl c _ => c.Within Store.Unwritten

/-- The calls of an operation that were answered with items, and the items. -/
def answers : Operation → World → List (Call × List Item)
  | crawl c o, w => c.pages w.calls.length ((crawl c o).perform w).calls
  | _, _ => []

def answersAll : List Operation → World → List (Call × List Item)
  | [], _ => []
  | op :: ops, w => op.answers w ++ answersAll ops (op.perform w)

/-- The greatest depth that an operation may give to rows. -/
def reach : Operation → Nat
  | crawl _ o => o.maxDepth
  | _ => 0

def deepest (ops : List Operation) : Nat := (ops.map reach).foldr max 0

theorem perform_traced {op : Operation} (hop : op.Solitary) (h : w.store.Traced base limit) :
    (op.perform w).store.Traced (base ++ op.answers w) (max limit op.reach) := by
  cases op with
  | insert | page | mark | info => exact hop.elim
  | read f => exact h.of_rows rfl (List.subset_append_left _ _) (Nat.le_max_left _ _)
  | fault f =>
    exact h.of_rows (hop w.store).rows (List.subset_append_left _ _) (Nat.le_max_left _ _)
  | crawl c o => exact Crawl.runStages_traced hop o h

/-- After a sequence of operations every row has its source in the answers of its crawls. -/
theorem performAll_sources {ops : List Operation} (hops : ∀ op ∈ ops, op.Solitary)
    (h : w.store.Traced base limit) :
    (performAll ops w).store.Traced (base ++ answersAll ops w) (max limit (deepest ops)) := by
  induction ops generalizing w base limit with
  | nil => exact h.of_rows rfl (List.subset_append_left _ _) (Nat.le_max_left _ _)
  | cons op ops ih =>
    obtain ⟨hop, hrest⟩ := List.forall_mem_cons.mp hops
    have hall := ih hrest (perform_traced hop h)
    rw [List.append_assoc, Nat.max_assoc] at hall
    exact hall

/-- **Rows have their sources.** Whatever crawls are made in turn on a store that has no rows at
first, with any options, answers and failures of the store, each row of depth 0 carries an item of a
listing page that one of them was given, and each row further down carries an item that was given as
similar to a row one level above it, which is in the frontier. So the depths that occur are those
from 0 up to some one, which is not beyond the deepest that any of the crawls was to reach. -/
theorem performAll_traced {ops : List Operation} (hops : ∀ op ∈ ops, op.Solitary) {w : World}
    (hrows : w.store.rows = []) :
    (performAll ops w).store.Traced (answersAll ops w) (deepest ops) ∧
      ∃ n ≤ deepest ops + 1, ∀ d : Int,
        (∃ r ∈ (performAll ops w).store.rows, r.depth = d) ↔ 0 ≤ d ∧ d < (n : Int) := by
  have hstart : w.store.Traced [] 0 := by
    intro r hr
    rw [hrows] at hr
    cases hr
  have htraced := performAll_sources hops hstart
  rw [List.nil_append, Nat.zero_max] at htraced
  exact ⟨htraced, htraced.depths⟩

/-- A crawl that ends for want of budget, after which no mark can be set on one of its rows, and
another with a lower limit and other answers. -/
def sampleCrawls : List Operation :=
  let listing : Catalog := { Catalog.answering .sample (5 - ·) with
    list := fun _ _ => { outcome := .ok [⟨"a", .bool true⟩] } }
  let options : Options := { categories := ["GAME"], collections := ["TOP_FREE"] }
  [crawl listing { options with maxApps := 2, maxDepth := 4 },
    fault fun s => { s with frontier := s.frontier.map ({ · with noUpdate := ["b"] }) },
    crawl (.answering .sample id) { options with maxApps := 9, maxDepth := 2 }]

theorem sampleCrawls_solitary : ∀ op ∈ sampleCrawls, op.Solitary := by
  have hlisting := Expansion.answering_within .sample (5 - ·)
  have hother := Expansion.answering_within .sample id
  refine List.forall_mem_cons.mpr ⟨⟨fun _ _ _ => ⟨rfl, rfl⟩, hlisting.similar, hlisting.detail⟩, ?_⟩
  refine List.forall_mem_cons.mpr ⟨fun s => ⟨?_, rfl⟩, List.forall_mem_singleton.mpr hother⟩
  rw [Option.map_map]
  rfl

theorem performAll_traced_sample :
    (∀ op ∈ sampleCrawls, op.Solitary) ∧
      (performAll sampleCrawls { store := .empty, budget := ⟨0, 0⟩ }).store.rows.map
        (fun r => (r.id, r.depth, r.code)) = [("a", 0, 1), ("b", 1, 0), ("c", 1, -2), ("d", 2, 0)] ∧
      (performAll sampleCrawls { store := .empty, budget := ⟨0, 0⟩ }).store.Traced
        (answersAll sampleCrawls { store := .empty, budget := ⟨0, 0⟩ }) 4 := by
  refine ⟨sampleCrawls_solitary, by decide +kernel, ?_⟩
  exact (performAll_traced sampleCrawls_solitary rfl).1

end Operation

end CatalogCrawl
