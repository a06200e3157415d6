import CatalogCrawl.Proofs.Errands
import CatalogCrawl.Proofs.Provenance

/-! # What seeding does

Listing pages are asked for in the order of the product of categories and collections, and dealt
with in the order in which they come (`Seeding.run_course`). A page is cut to what the budget
leaves when it comes, and of what is left of it the items with new ids become rows, of each id the
first one (`World.seedPage_cases`).

The cut comes first. Items whose ids are known use up room on the page, though not in the budget, so
an item behind the cut can be lost while the budget is never spent. -/

namespace CatalogCrawl

/-! ## New items -/

namespace Seeding

/-- The items whose ids are not known, of each id the first one only. -/
def newItems (known : List String) (items : List Item) : List Item :=
  (items.zipIdx.filter fun x : Item × Nat =>
    x.1.id ∉ known ∧ ∀ earlier ∈ items.take x.2, earlier.id ≠ x.1.id).map (·.1)

@[simp] theorem newItems_nil (known : List String) : newItems known [] = [] := rfl

/-- The first item is new or not. After it its id is known. -/
theorem newItems_cons (known : List String) (item : Item) (rest : List Item) :
    newItems known (item :: rest) =
      if item.id ∈ known then newItems known rest
      else item :: newItems (known ++ [item.id]) rest := by
  have hrest : ∀ x : Item × Nat,
      (x.1.id ∉ known ∧ ∀ earlier ∈ (item :: rest).take (x.2 + 1), earlier.id ≠ x.1.id) ↔
        (x.1.id ∉ known ++ [item.id] ∧ ∀ earlier ∈ rest.take x.2, earlier.id ≠ x.1.id) := by
    intro x
    rw [List.take_succ_cons, List.forall_mem_cons, List.mem_append, List.mem_singleton, not_or,
      and_assoc]
    exact and_congr_right fun _ => and_congr_left fun _ => ne_comm
  have htail : (((rest.zipIdx.map (Prod.map id (· + 1))).filter fun x : Item × Nat =>
      x.1.id ∉ known ∧ ∀ earlier ∈ (item :: rest).take x.2, earlier.id ≠ x.1.id).map (·.1)) =
        newItems (known ++ [item.id]) rest := by
    rw [List.filter_map, List.map_map, newItems]
    congr 1
    exact List.filter_congr fun x _ => decide_eq_decide.mpr (hrest x)
  rw [newItems, List.zipIdx_cons', List.filter_cons]
  split
  · next hnew =>
    have hid : item.id ∉ known := (of_decide_eq_true hnew).1
    rw [if_neg hid, List.map_cons, htail]
  · next hnew =>
    have hid : item.id ∈ known := by simpa using hnew
    rw [if_pos hid, htail, newItems, newItems]
    congr 1
    refine List.filter_congr fun x _ => decide_eq_decide.mpr (and_congr_left fun _ => not_congr ?_)
    rw [List.mem_append, List.mem_singleton]
    refine or_iff_left_of_imp ?_
    rintro hx
    exact hx ▸ hid

/-- Behind the known ids, those of the new items are all ids there are. -/
theorem id_mem_newItems {known : List String} {items : List Item} {item : Item} (h : item ∈ items) :
    item.id ∈ known ++ (newItems known items).map (·.id) := by
  induction items generalizing known with
  | nil => cases h
  | cons first rest ih =>
    rw [newItems_cons]
    rcases List.mem_cons.mp h with rfl | hrest
    · split
      · next hknown => exact List.mem_append_left _ hknown
      · exact List.mem_append_right _ List.mem_cons_self
    · split
      · exact ih hrest
      · have hmem := @ih (known ++ [first.id]) hrest
        rwa [List.append_assoc] at hmem

/-- If not all items are new, one is known or has the id of an earlier one. -/
theorem exists_of_length_newItems_lt {known : List String} {items : List Item}
    (h : (newItems known items).length < items.length) :
    ∃ i item, items[i]? = some item ∧
      (item.id ∈ known ∨ ∃ earlier ∈ items.take i, earlier.id = item.id) := by
  rw [newItems, List.length_map, ← List.length_zipIdx (l := items) (i := 0),
    List.length_filter_lt_length_iff_exists] at h
  obtain ⟨⟨item, i⟩, hmem, hnot⟩ := h
  refine ⟨i, item, List.mk_mem_zipIdx_iff_getElem?.mp hmem, ?_⟩
  by_contra hnew
  push Not at hnew
  exact hnot (decide_eq_true hnew)

end Seeding

/-! ## Pages -/

namespace Store

variable {s : Store} {items : List Item}

/-- The row of an item of a listing. -/
def seedRow (item : Item) : FrontierRow := newRow item.id 0 item.raw

@[simp] theorem append_nil (s : Store) : s.append [] = s := by
  rcases s with ⟨_ | t, i, l, a⟩ <;> simp [append]

theorem ids_prefix_append (s : Store) (added : List FrontierRow) :
    s.ids <+: (s.append added).ids := by
  cases hf : s.frontier with
  | none => simp [append, ids, rows, hf]
  | some t =>
    rw [ids, ids, rows_append (by simp [hf]), List.map_append]
    exact List.prefix_append _ _

theorem append_append (s : Store) (added more : List FrontierRow) :
    (s.append added).append more = s.append (added ++ more) := by
  cases hf : s.frontier <;> simp [append, hf]

/-- The store can be written, and none of the ids is blocked. -/
def Admits (s : Store) (items : List Item) : Prop :=
  s.access = .full ∧ ∃ t, s.frontier = some t ∧ ∀ item ∈ items, item.id ∉ t.noInsert

/-- What a store admits it takes, unless it is there. -/
theorem insertIfAbsent_of_admits {item : Item} (h : s.Admits [item]) :
    insertIfAbsent item.id 0 item.raw s =
      if item.id ∈ s.ids then (.ok false, s) else (.ok true, s.append [seedRow item]) := by
  obtain ⟨haccess, t, ht, hfree⟩ := h
  have hfree := List.forall_mem_singleton.mp hfree
  have hids : s.ids = t.rows.map (·.id) := by rw [ids, rows_of_frontier ht]
  simp only [insertIfAbsent, writing, frontierTable, ht, if_pos haccess, hasFrontierId_iff, ← hids,
    List.contains_iff_mem, if_neg hfree]
  split
  · rfl
  · simp [append, ht, seedRow, newRow]

theorem admits_of_insertIfAbsent {item : Item} {added : Bool} {s' : Store}
    (h : insertIfAbsent item.id 0 item.raw s = (.ok added, s')) : s.Admits [item] := by
  unfold insertIfAbsent at h
  obtain ⟨t, ht, haccess, hwrite⟩ | ⟨e, -, hwrite⟩ := writing_cases frontierTable _ s <;>
    rw [hwrite] at h
  · split at h
    · cases h
    · next hfree =>
      refine ⟨haccess, t, frontierTable_eq_ok ht, List.forall_mem_singleton.mpr fun hmem => ?_⟩
      exact hfree (List.contains_iff_mem.mpr hmem)
  · cases h

theorem admits_append (s : Store) (added : List FrontierRow) (items : List Item) :
    (s.append added).Admits items ↔ s.Admits items := by
  cases hf : s.frontier <;> simp [Admits, append, hf]

theorem admits_cons {item : Item} :
    s.Admits (item :: items) ↔ s.Admits [item] ∧ s.Admits items := by
  constructor
  · rintro ⟨haccess, t, ht, hfree⟩
    obtain ⟨hitem, hrest⟩ := List.forall_mem_cons.mp hfree
    exact ⟨⟨haccess, t, ht, List.forall_mem_singleton.mpr hitem⟩, haccess, t, ht, hrest⟩
  · rintro ⟨⟨haccess, t, ht, hitem⟩, -, t', ht', hrest⟩
    cases ht.symm.trans ht'
    exact ⟨haccess, t, ht, List.forall_mem_cons.mpr ⟨hitem item List.mem_cons_self, hrest⟩⟩

/-- The items that a store takes become rows if they are new, each behind the ones before. -/
theorem insertEach_of_admits (h : s.Admits items) (n : Nat) :
    insertEach items n s = (.ok (n + (Seeding.newItems s.ids items).length),
      s.append ((Seeding.newItems s.ids items).map seedRow)) := by
  induction items generalizing s n with
  | nil => simp [insertEach]
  | cons item rest ih =>
    obtain ⟨hitem, hrest⟩ := admits_cons.mp h
    rw [insertEach, insertIfAbsent_of_admits hitem, Seeding.newItems_cons]
    split
    · next added mid heq =>
      split at heq
      · next hid =>
        cases heq
        rw [if_pos hid]
        exact ih hrest n
      · next hid =>
        cases heq
        obtain ⟨-, t, ht, -⟩ := hitem
        have hids : (s.append [seedRow item]).ids = s.ids ++ [item.id] := by
          rw [ids, rows_append (by simp [ht]), List.map_append]
          rfl
        rw [if_neg hid, if_pos rfl, ih ((admits_append _ _ _).mpr hrest), hids, append_append,
          List.length_cons, List.map_cons]
        refine Prod.ext (congrArg Except.ok ?_) rfl
        omega
    · next heq => split at heq <;> cases heq

theorem admits_of_insertEach {n m : Nat} {s' : Store} (h : insertEach items n s = (.ok m, s'))
    (hne : items ≠ []) : s.Admits items := by
  induction items generalizing s n with
  | nil => exact (hne rfl).elim
  | cons item rest ih =>
    unfold insertEach at h
    split at h
    · next added mid hins =>
      have hitem := admits_of_insertIfAbsent hins
      rw [insertIfAbsent_of_admits hitem] at hins
      have hmid : ∃ rows, mid = s.append rows := by
        split at hins
        · cases hins
          exact ⟨[], (append_nil _).symm⟩
        · cases hins
          exact ⟨_, rfl⟩
      obtain ⟨rows, rfl⟩ := hmid
      rw [admits_cons]
      refine ⟨hitem, ?_⟩
      rcases rest with - | ⟨next, rest⟩
      · obtain ⟨haccess, t, ht, -⟩ := hitem
        exact ⟨haccess, t, ht, List.forall_mem_nil _⟩
      · exact (admits_append _ _ _).mp (ih h (List.cons_ne_nil _ _))
    · cases h

/-- A page with items is taken as a whole if the store takes all of them, and otherwise it fails. -/
theorem insertPage_eq (hne : items ≠ []) (s : Store) :
    s.Admits items ∧ insertPage items s = (.ok (Seeding.newItems s.ids items).length,
        s.append ((Seeding.newItems s.ids items).map seedRow)) ∨
      ¬s.Admits items ∧ ∃ e, insertPage items s = (.error e, s) := by
  by_cases hadmits : s.Admits items
  · refine .inl ⟨hadmits, ?_⟩
    obtain ⟨-, t, ht, -⟩ := id hadmits
    simp only [insertPage, frontierTable, ht, insertEach_of_admits hadmits, Nat.zero_add]
  · refine .inr ⟨hadmits, ?_⟩
    unfold insertPage
    split
    · exact ⟨_, rfl⟩
    · split
      · next heach => exact (hadmits (admits_of_insertEach heach hne)).elim
      · exact ⟨_, rfl⟩

end Store

namespace World

/-- What is left of a page when it is cut to what the budget leaves. -/
def cut (w : World) (items : List Item) : List Item := items.take w.budget.remaining

/-- The new items of what is left of a page. -/
def newItems (w : World) (items : List Item) : List Item :=
  Seeding.newItems w.store.ids (w.cut items)

/-- A page, cut to what the budget leaves, has its new items become rows, which are counted, or it
fails and leaves store and budget as they were. It fails just if something is left of it that the
store does not take. -/
theorem seedPage_cases (items : List Item) (w : World) :
    (w.cut items = [] ∨ w.store.Admits (w.cut items)) ∧
        (w.seedPage items).1 = .ok (w.newItems items).length ∧
        (w.seedPage items).2.store = w.store.append ((w.newItems items).map Store.seedRow) ∧
        (w.seedPage items).2.budget = w.budget.spend (w.newItems items).length ∨
      ¬(w.cut items = [] ∨ w.store.Admits (w.cut items)) ∧
        (∃ e, (w.seedPage items).1 = .error e) ∧ (w.seedPage items).2.store = w.store ∧
        (w.seedPage items).2.budget = w.budget := by
  unfold seedPage newItems
  rw [← cut]
  dsimp only
  split
  · next hpage =>
    rw [List.isEmpty_iff] at hpage
    rw [hpage]
    exact .inl ⟨.inl rfl, rfl, (Store.append_nil _).symm, rfl⟩
  · next hpage =>
    rw [List.isEmpty_iff] at hpage
    rcases Store.insertPage_eq hpage w.store with ⟨hadmits, hins⟩ | ⟨hadmits, e, hins⟩
    · rw [hins]
      exact .inl ⟨.inr hadmits, rfl, rfl, rfl⟩
    · rw [hins]
      exact .inr ⟨not_or.mpr ⟨hpage, hadmits⟩, ⟨e, rfl⟩, rfl, rfl⟩

end World

/-! ## Queries -/

namespace Options

end Options

/-! ## Replies -/

namespace Seeding

variable {c : Catalog} {o : Options} {w : World} {qs : List ListQuery} {made : Nat}
  {s₀ s : Stage Tally} {rs : List (Errand.Reply Tally)}

/-- Listing pages as calls and what is done with their answers. -/
def errand (c : Catalog) : Errand ListQuery (List Item) Tally :=
  ⟨.list, fun q n => c.list n q, react⟩

/-- What becomes of a page, by the outcome of its call. -/
inductive Dealt (r : Errand.Reply Tally) : Except FetchError (List Item) → Prop
  /-- The page could not be fetched. -/
  | lost {e : FetchError} (hfailure : r.failure = none)
      (hstore : r.ended.world.store = r.arrival.world.store)
      (hbudget : r.ended.world.budget = r.arrival.world.budget)
      (htally : r.ended.tally = { r.arrival.tally with failed := r.arrival.tally.failed + 1 }) :
      Dealt r (.error e)
  /-- The new items of the page, as far as the budget goes, are rows behind the others. -/
  | added {items : List Item}
      (hadmits : r.arrival.world.cut items = [] ∨
        r.arrival.world.store.Admits (r.arrival.world.cut items))
      (hfailure : r.failure = none)
      (hstore : r.ended.world.store =
        r.arrival.world.store.append ((r.arrival.world.newItems items).map Store.seedRow))
      (hbudget : r.ended.world.budget =
        r.arrival.world.budget.spend (r.arrival.world.newItems items).length)
      (htally : r.ended.tally = { r.arrival.tally with
        inserted := r.arrival.tally.inserted + (r.arrival.world.newItems items).length }) :
      Dealt r (.ok items)
  /-- The store does not take the page. -/
  | refused {items : List Item} (hcut : r.arrival.world.cut items ≠ [])
      (hadmits : ¬r.arrival.world.store.Admits (r.arrival.world.cut items))
      (hfailure : r.failure.isSome)
      (hstore : r.ended.world.store = r.arrival.world.store)
      (hbudget : r.ended.world.budget = r.arrival.world.budget)
      (htally : r.ended.tally = r.arrival.tally) : Dealt r (.ok items)

theorem reply_dealt (c : Catalog) (q : ListQuery) (place number : Nat) (s : Stage Tally) :
    Dealt ((errand c).reply q place number s) (c.list number q).outcome := by
  simp only [Errand.reply, errand]
  generalize s.receive (c.list number q) = arrival
  cases (c.list number q).outcome with
  | error e => exact .lost rfl rfl rfl rfl
  | ok items =>
    have hcases := World.seedPage_cases items arrival.world
    simp only [react, Stage.lift]
    generalize arrival.world.seedPage items = res at hcases ⊢
    obtain ⟨res, w'⟩ := res
    rcases hcases with ⟨hadmits, hok, hstore, hbudget⟩ | ⟨hadmits, ⟨e, herror⟩, hstore, hbudget⟩
    · obtain rfl : res = _ := hok
      exact .added hadmits rfl hstore hbudget rfl
    · obtain rfl : res = _ := herror
      obtain ⟨hcut, hadmits⟩ := not_or.mp hadmits
      exact .refused hcut hadmits rfl hstore hbudget rfl

/-- How many rows a reply has added. -/
def gained (r : Errand.Reply Tally) : Nat :=
  r.ended.world.store.rows.length - r.arrival.world.store.rows.length

/-- Whether the call for the query at a place fails. -/
def fails (c : Catalog) (qs : List ListQuery) (made place : Nat) : Bool :=
  qs[place]?.any fun q => !(c.list (made + place) q).outcome.isOk

/-- An answer adds its new rows to the count, or is counted as failed. -/
theorem Dealt.tally {r : Errand.Reply Tally} {outcome : Except FetchError (List Item)}
    (h : Dealt r outcome) :
    r.ended.tally.inserted = r.arrival.tally.inserted + gained r ∧
      r.ended.tally.failed = r.arrival.tally.failed + if outcome.isOk then 0 else 1 := by
  cases h with
  | lost _ hstore _ htally => simp [htally, gained, hstore, Except.isOk, Except.toBool]
  | refused _ _ _ hstore _ htally => simp [htally, gained, hstore, Except.isOk, Except.toBool]
  | @added items hadmits _ hstore _ htally =>
    have hgained : gained r = (r.arrival.world.newItems items).length := by
      rcases hadmits with hcut | ⟨-, t, ht, -⟩
      · rw [gained, hstore, World.newItems, hcut, newItems_nil, List.map_nil, Store.append_nil,
          Nat.sub_self]
        rfl
      · rw [gained, hstore, Store.rows_append (by simp [ht]), List.length_append, List.length_map,
          Nat.add_sub_cancel_left]
    rw [htally, hgained]
    exact ⟨rfl, rfl⟩

theorem Course.dealt (h : (errand c).Course qs made s₀ rs s) {r : Errand.Reply Tally}
    (hr : r ∈ rs) : ∃ q, qs[r.place]? = some q ∧ Dealt r (c.list (made + r.place) q).outcome :=
  h.exists_outcome (P := fun _ => Dealt) (reply_dealt c) hr

/-! ## Seeding as a whole -/

/-- What seeding takes its course from, and where it is left. -/
theorem run_course (c : Catalog) (o : Options) (w : World) :
    let report := (run c o w).1
    let w' := (run c o w).2
    report.pages + report.skippedPages = o.seedQueries.length ∧
      (0 < report.skippedPages → w'.budget.exhausted = true) ∧
      w'.calls.map (·.2) = w.calls.map (·.2) ++ (o.seedQueries.take report.pages).map .list ∧
      ∃ rs, (errand c).Course o.seedQueries w.calls.length ⟨w, {}⟩ rs
          ⟨w', ⟨report.failedPages, report.inserted⟩⟩ ∧
        (rs.map (·.place)).Perm (List.range report.pages) ∧
        ∀ k, max o.batchSize 1 * k < report.pages →
          ∃ s, (errand c).Course o.seedQueries w.calls.length ⟨w, {}⟩
            (rs.take (max o.batchSize 1 * k)) s ∧ s.world.budget.exhausted = false := by
  let start : World := Logged.info .seeding s!"Seeding from {o.seedQueries.length} listing pages" w
  let stop (s : Stage Tally) : Bool := s.world.budget.exhausted
  obtain ⟨hcalls, rs, hcourse, -, hplaces, hbatches⟩ :=
    (errand c).run_course calls_react o.batchSize
    o.seedWindow stop o.seedQueries start.now ⟨start, {}⟩
  obtain ⟨-, -, -, -, -, hexecuted, hskipped, hreached, hstop, -⟩ :=
    Pacer.runUntil_rounds o.batchSize
    o.seedWindow stop (o.seedQueries.map (errand c).unit) start.now ⟨start, {}⟩
  obtain ⟨u, hrun, hstore, hbudget, hmade⟩ : ∃ u,
      let p := Pacer.runUntil o.batchSize o.seedWindow stop (o.seedQueries.map (errand c).unit)
        start.now ⟨start, {}⟩
      run c o w =
        (⟨p.report.executed, p.state.tally.failed, p.report.skipped, p.state.tally.inserted⟩, u) ∧
        u.store = p.state.world.store ∧ u.budget = p.state.world.budget ∧
        u.calls = p.state.world.calls := by
    refine ⟨_, rfl, ?_⟩
    dsimp only
    split <;> exact ⟨rfl, rfl, rfl⟩
  rw [hrun]
  dsimp only at hcalls hplaces hbatches hstore hbudget hmade ⊢
  generalize Pacer.runUntil o.batchSize o.seedWindow stop (o.seedQueries.map (errand c).unit)
    start.now ⟨start, {}⟩ = p at *
  rw [List.length_map] at hexecuted hskipped
  refine ⟨by omega, fun hleft => ?_, ?_, rs, ?_, hplaces, fun k hk => ?_⟩
  · have hspent := hstop hleft
    rw [hreached, if_pos hleft] at hbudget
    rw [hbudget]
    exact hspent
  · rw [hmade]
    exact hcalls
  · exact .still (hcourse.of_start rfl rfl rfl) hstore hbudget rfl
  · obtain ⟨s, hs, hroom⟩ := hbatches k hk
    exact ⟨s, hs.of_start rfl rfl rfl, hroom⟩

/-- What is left of a page after the cut is in the frontier once it has been dealt with. -/
theorem Dealt.mem_ids {r : Errand.Reply Tally} {items : List Item} (h : Dealt r (.ok items))
    (hfailure : r.failure = none) {item : Item} (hitem : item ∈ r.arrival.world.cut items) :
    item.id ∈ r.ended.world.store.ids := by
  cases h with
  | added hadmits _ hstore _ _ =>
    rcases hadmits with hcut | ⟨-, t, ht, -⟩
    · rw [hcut] at hitem
      cases hitem
    · rw [hstore, Store.ids, Store.rows_append (by simp [ht]), List.map_append, List.map_map]
      exact id_mem_newItems hitem
  | refused _ _ hsome => simp [hfailure] at hsome

/-- If a page had to be cut and all that is left of it is new, the budget is spent. -/
theorem Dealt.exhausted {r : Errand.Reply Tally} {items : List Item} (h : Dealt r (.ok items))
    (hfailure : r.failure = none) (hlong : r.arrival.world.budget.remaining < items.length)
    (hnew : (r.arrival.world.cut items).length ≤ (r.arrival.world.newItems items).length) :
    r.ended.world.budget.exhausted = true := by
  cases h with
  | added _ _ _ hbudget _ =>
    rw [World.cut, List.length_take, Nat.min_eq_left (Nat.le_of_lt hlong), Budget.remaining] at hnew
    rw [hbudget, Budget.exhausted_iff, Budget.limit_spend, Budget.crawled_spend]
    omega
  | refused _ _ hsome => simp [hfailure] at hsome

/-- No id is lost, and a budget that is spent stays so. -/
theorem Dealt.grows {r : Errand.Reply Tally} {outcome : Except FetchError (List Item)}
    (h : Dealt r outcome) :
    r.arrival.world.store.ids <+: r.ended.world.store.ids ∧
      (r.arrival.world.budget.exhausted = true → r.ended.world.budget.exhausted = true) := by
  cases h with
  | lost _ hstore hbudget _ =>
    rw [hstore, hbudget]
    exact ⟨List.prefix_rfl, id⟩
  | refused _ _ _ hstore hbudget _ =>
    rw [hstore, hbudget]
    exact ⟨List.prefix_rfl, id⟩
  | added _ _ hstore hbudget _ =>
    rw [hstore, hbudget, Budget.exhausted_iff, Budget.exhausted_iff, Budget.limit_spend,
      Budget.crawled_spend]
    exact ⟨Store.ids_prefix_append _ _, fun hspent => hspent.trans (Nat.le_add_right _ _)⟩

/-- Ids that a page has led to stay in the frontier, and a budget that is spent stays so. -/
theorem Course.grows (hc : c.Within Store.Outside) (h : (errand c).Course qs made s₀ rs s) :
    ∀ r ∈ rs, r.ended.world.store.ids <+: s.world.store.ids ∧
      (r.ended.world.budget.exhausted = true → s.world.budget.exhausted = true) := by
  have hlater := h.later
    (R := fun a b => a.1.ids <+: b.1.ids ∧ (a.2.exhausted = true → b.2.exhausted = true))
    (fun _ => ⟨List.prefix_rfl, id⟩) (fun hab hbc => ⟨hab.1.trans hbc.1, hbc.2 ∘ hab.2⟩)
    fun q place number s => ⟨?_, (reply_dealt c q place number s).grows⟩
  · exact fun r hr => (hlater.2 r hr).2
  · simp only [Stage.possessions, Errand.reply, Stage.store_receive, Stage.budget_receive]
    exact ⟨Store.Outside.ids_prefix (hc.list _ _ _), id⟩

/-- What a page has led to in the end. It is cut to the room that the budget has for it when it
comes, and what is left of it is kept. If the budget is not spent, the whole page is kept, or some
of that room was lost to an item that was not new. -/
structure Kept (w' : World) (r : Errand.Reply Tally) (items : List Item) : Prop where
  cut : ∀ item ∈ r.arrival.world.cut items, item.id ∈ w'.store.ids
  rest : w'.budget.exhausted = false → (∀ item ∈ items, item.id ∈ w'.store.ids) ∨
    r.arrival.world.budget.remaining < items.length ∧
      ∃ i item, (r.arrival.world.cut items)[i]? = some item ∧
        (item.id ∈ r.arrival.world.store.ids ∨
          ∃ earlier ∈ (r.arrival.world.cut items).take i, earlier.id = item.id)

/-- **Seeds are kept.** Every id on a page that was fetched and that the store took is in the
frontier when seeding ends with some budget left, but for what stood behind the cut on a page of
which some items were not new. -/
theorem run_seeds_kept (hc : c.Within Store.Outside) (o : Options) (w : World) :
    ∃ rs, (errand c).Course o.seedQueries w.calls.length ⟨w, {}⟩ rs
        ⟨(run c o w).2, ⟨(run c o w).1.failedPages, (run c o w).1.inserted⟩⟩ ∧
      (rs.map (·.place)).Perm (List.range (run c o w).1.pages) ∧
      ∀ r ∈ rs, ∀ q items, o.seedQueries[r.place]? = some q →
        (c.list (w.calls.length + r.place) q).outcome = .ok items → r.failure = none →
        Kept (run c o w).2 r items := by
  obtain ⟨-, -, -, rs, hcourse, hplaces, -⟩ := run_course c o w
  refine ⟨rs, hcourse, hplaces, fun r hr q items hq hitems hfailure => ?_⟩
  obtain ⟨hids, hspent⟩ := Course.grows hc hcourse r hr
  obtain ⟨q', hq', hdealt⟩ := Course.dealt hcourse hr
  obtain rfl : q' = q := Option.some.inj (hq'.symm.trans hq)
  rw [hitems] at hdealt
  have hcut : ∀ item ∈ r.arrival.world.cut items, item.id ∈ (run c o w).2.store.ids :=
    fun item hitem => hids.subset (hdealt.mem_ids hfailure hitem)
  refine ⟨hcut, fun hroom => ?_⟩
  rcases Nat.lt_or_ge r.arrival.world.budget.remaining items.length with hlong | hshort
  · refine .inr ⟨hlong, exists_of_length_newItems_lt (Nat.lt_of_not_le fun hnew => ?_)⟩
    exact Bool.false_ne_true (hroom.symm.trans (hspent (hdealt.exhausted hfailure hlong hnew)))
  · rw [World.cut, List.take_of_length_le hshort] at hcut
    exact .inl hcut

/-- A catalog of listings only, where later calls are answered sooner. -/
def listings (page : ListQuery → List Item) : Catalog where
  list n q := { delay := 5 - n, outcome := .ok (page q) }
  similar _ id _ := { outcome := .error (.status id 404) }
  detail _ id _ := { outcome := .error (.status id 404) }

theorem listings_within (page : ListQuery → List Item) : (listings page).Within Store.Outside where
  list _ _ _ := .refl
  similar _ _ _ _ := .refl
  detail _ _ _ _ := .refl

/-- Two pages with ids in common. -/
def overlapping (q : ListQuery) : List Item :=
  (if q.collection = "TOP_FREE" then ["a", "b"] else ["b", "a", "c"]).map (⟨·, .null⟩)

def games : Options := { categories := ["GAME"], collections := ["TOP_FREE", "TOP_PAID"] }

/-- The second page comes first, and leaves room for one item of the other, which is known. -/
def overlappingRun : Report × World :=
  run (listings overlapping) games { store := .seeded, budget := ⟨3, 0⟩ }

/-- Two listings have an item in common, which is there from the first that arrives. -/
theorem run_seeds_kept_overlapping :
    overlappingRun.2.budget.exhausted = false ∧ overlappingRun.2.store.ids = ["a", "b", "c"] ∧
      ∃ rs : List (Errand.Reply Tally), (rs.map (·.place)).Perm (List.range 2) ∧
        ∀ r ∈ rs, r.failure = none → ∀ q, games.seedQueries[r.place]? = some q →
          Kept overlappingRun.2 r (overlapping q) := by
  obtain ⟨rs, -, hplaces, hkept⟩ := run_seeds_kept (listings_within overlapping) games
    { store := .seeded, budget := ⟨3, 0⟩ }
  refine ⟨by decide +kernel, by decide +kernel, rs, ?_, fun r hr hfailure q hq => ?_⟩
  · have hpages : overlappingRun.1.pages = 2 := by decide +kernel
    rwa [← hpages]
  · exact hkept r hr q _ hq rfl hfailure

/-- Room for one row is lost to a known id, and the new one behind it is not kept.
Nothing has failed. -/
theorem run_seed_lost :
    let page : List Item := [⟨"a", .null⟩, ⟨"b", .null⟩]
    let lost := run (listings fun _ => page) { categories := ["GAME"], collections := ["TOP_FREE"] }
      { store := .seeded, budget := ⟨1, 0⟩ }
    lost.1 = { pages := 1, inserted := 0 } ∧
      (∀ r ∈ lost.2.log, r.level = .debug ∨ r.level = .info) ∧
      lost.2.budget.exhausted = false ∧ lost.2.store.ids = ["a"] := by
  exact ⟨by decide +kernel, by decide +kernel, by decide +kernel, by decide +kernel⟩

end Seeding

end CatalogCrawl
