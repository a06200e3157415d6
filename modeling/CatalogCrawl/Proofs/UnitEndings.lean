import CatalogCrawl.Proofs.ExpansionCourse
import CatalogCrawl.Proofs.StoreEvolution

/-! # How the units of an expansion end

From the arrival of its answer on, a unit puts neighbours into the frontier and then ends in one of
four ways (`Expansion.Ending`): its row is marked visited when all neighbours are there, it is left
for a later run when the budget leaves no room for one of them, it is marked as an error when there
was no answer, or the store failed. This holds on every store, and whatever others have written
while the answer was on its way. -/

namespace CatalogCrawl

namespace Store

variable {s : Store} {id : String}

theorem contains_of_mem (h : id ∈ s.ids) : s.contains id = .ok true := by
  unfold contains frontierTable
  cases hf : s.frontier with
  | none => simp [ids, rows, hf] at h
  | some t =>
    rw [ids, rows_of_frontier hf] at h
    have hthere := hasFrontierId_iff.mpr h
    simp [Bind.bind, Except.bind, Pure.pure, Except.pure, hthere]

theorem mem_of_contains {there : Bool} (h : s.contains id = .ok there) :
    there = true ↔ id ∈ s.ids := by
  constructor
  · rintro rfl
    unfold contains frontierTable at h
    cases hf : s.frontier with
    | none => simp [hf, Bind.bind, Except.bind] at h
    | some t =>
      rw [ids, rows_of_frontier hf]
      simpa [hf, Bind.bind, Except.bind, Pure.pure, Except.pure, hasFrontierId_iff] using h
  · intro hid
    rw [contains_of_mem hid] at h
    exact (Except.ok.inj h).symm

end Store

/-! ## Notes and answers -/

namespace Stage

variable {τ : Type}

/-- Notes change neither store nor budget nor calls. -/
theorem noteAll_cases (rs : List Log.Record) (s : Stage τ) :
    (Logged.noteAll rs s).world.store = s.world.store ∧
      (Logged.noteAll rs s).world.budget = s.world.budget ∧
      (Logged.noteAll rs s).world.calls = s.world.calls := by
  induction rs generalizing s with
  | nil => exact ⟨rfl, rfl, rfl⟩
  | cons r rs ih => exact ih (Logged.note r s)

variable {α : Type} (answer : Answer α) (s : Stage τ)

@[simp] theorem store_receive : (s.receive answer).world.store = answer.meanwhile s.world.store :=
  (noteAll_cases answer.received _).1

@[simp] theorem budget_receive : (s.receive answer).world.budget = s.world.budget :=
  (noteAll_cases answer.received _).2.1

@[simp] theorem calls_receive : (s.receive answer).world.calls = s.world.calls :=
  (noteAll_cases answer.received _).2.2

end Stage

namespace Expansion

variable {s s' s'' : Stage Tally} {depth : Nat} {items : List Item} {added more : List FrontierRow}

/-! ## Neighbours -/

/-- Some of the items have become rows at a depth, each charged to the budget and counted. -/
structure Finds (depth : Nat) (items : List Item) (s s' : Stage Tally) (added : List FrontierRow) :
    Prop where
  adds : s.world.store.Adds s'.world.store added
  listed : ∀ r ∈ added, ∃ item ∈ items, r = Store.newRow item.id depth item.raw
  budget : s'.world.budget = s.world.budget.spend added.length
  tally : s'.tally = { s.tally with inserted := s.tally.inserted + added.length }
  calls : s'.world.calls = s.world.calls

namespace Finds

theorem depth_eq (h : Finds depth items s s' added) {r : FrontierRow} (hr : r ∈ added) :
    r.depth = (depth : Int) := by
  obtain ⟨item, -, rfl⟩ := h.listed r hr
  rfl

theorem nil (depth : Nat) (items : List Item) (s : Stage Tally) : Finds depth items s s [] :=
  ⟨.nil _, by simp, rfl, rfl, rfl⟩

/-- Only the store, the budget, the tally and the calls matter. -/
theorem congr (h : Finds depth items s s' added) (hs : s''.world.store = s'.world.store)
    (hb : s''.world.budget = s'.world.budget) (ht : s''.tally = s'.tally)
    (hc : s''.world.calls = s'.world.calls) : Finds depth items s s'' added :=
  ⟨hs ▸ h.adds, h.listed, hb ▸ h.budget, ht ▸ h.tally, hc ▸ h.calls⟩

theorem trans {rest : List Item} (h : Finds depth items s s' added)
    (h' : Finds depth rest s' s'' more) : Finds depth (items ++ rest) s s'' (added ++ more) where
  adds := h.adds.trans h'.adds
  listed := by
    intro r hr
    rcases List.mem_append.mp hr with hr | hr
    · obtain ⟨item, hitem, heq⟩ := h.listed r hr
      exact ⟨item, List.mem_append_left _ hitem, heq⟩
    · obtain ⟨item, hitem, heq⟩ := h'.listed r hr
      exact ⟨item, List.mem_append_right _ hitem, heq⟩
  budget := by simp [h'.budget, h.budget, Budget.spend, Nat.add_assoc]
  tally := by simp [h'.tally, h.tally, Nat.add_assoc]
  calls := h'.calls.trans h.calls

theorem mem_added (h : Finds depth items s s' added) {i : Nat} {r : FrontierRow}
    (hi : s.world.store.rows.length ≤ i) (hr : s'.world.store.rows[i]? = some r) : r ∈ added := by
  rw [h.adds.rows, List.getElem?_append_right hi] at hr
  exact List.mem_of_getElem? hr

theorem ids_subset (h : Finds depth items s s' added) : s.world.store.ids ⊆ s'.world.store.ids := by
  rw [h.adds.ids]
  exact List.subset_append_left _ _

end Finds

/-- What becomes of one item that is offered. -/
theorem discover_cases (depth : Nat) (item : Item) (s : Stage Tally) :
    (s.lift (World.discover item.id depth item.raw) = (.ok .overBudget, s) ∧
        s.world.budget.exhausted = true) ∨
      (∃ s₁ row, s.lift (World.discover item.id depth item.raw) = (.ok .inserted, s₁) ∧
        item.id ∈ s₁.world.store.ids ∧
        Finds depth [item] s (s₁.count fun t => { t with inserted := t.inserted + 1 }) [row]) ∨
      (∃ s₁, s.lift (World.discover item.id depth item.raw) = (.ok .known, s₁) ∧
        item.id ∈ s₁.world.store.ids ∧ Finds depth [item] s s₁ []) ∨
      ∃ e s₁, s.lift (World.discover item.id depth item.raw) = (.error e, s₁) ∧
        Finds depth [item] s s₁ [] := by
  dsimp only [Stage.lift, World.discover]
  split
  · next hspent => exact .inl ⟨rfl, hspent⟩
  · refine .inr ?_
    have hsame (store : Store) (hstore : store = s.world.store) : Finds depth [item] s
        ⟨s.world.turn .crawl store s.world.budget, s.tally⟩ [] :=
      (Finds.nil depth [item] s).congr hstore rfl rfl rfl
    rcases Store.insertIfAbsent_cases item.id depth item.raw s.world.store with
      ⟨hid, hf, hins⟩ | ⟨hid, hins⟩ | ⟨e, hins⟩
    · have hadds := Store.Adds.single depth item.raw hid hf
      rw [hins]
      refine .inl ⟨_, _, rfl, ?_, hadds, by simp, rfl, rfl, rfl⟩
      exact hadds.ids ▸ List.mem_append_right _ List.mem_cons_self
    · rw [hins]
      exact .inr (.inl ⟨_, rfl, hid, hsame _ rfl⟩)
    · rw [hins]
      exact .inr (.inr ⟨e, _, rfl, hsame _ rfl⟩)

/-- What has become of items that were offered in turn: all are there in the end, or the budget is
spent and one of them is not, or the store failed. -/
structure Offered (depth : Nat) (items : List Item) (s : Stage Tally)
    (r : Except StoreError Bool × Stage Tally) : Prop where
  finds : ∃ added, Finds depth items s r.2 added
  all : r.1 = .ok true → ∀ item ∈ items, item.id ∈ r.2.world.store.ids
  cut : r.1 = .ok false →
    r.2.world.budget.exhausted = true ∧ ∃ item ∈ items, item.id ∉ r.2.world.store.ids

/-- An item that has its row, before others that are offered. -/
theorem Offered.cons {item : Item} {rest : List Item} {r : Except StoreError Bool × Stage Tally}
    (hfirst : Finds depth [item] s s' added) (hid : item.id ∈ s'.world.store.ids)
    (h : Offered depth rest s' r) : Offered depth (item :: rest) s r := by
  obtain ⟨more, hmore⟩ := h.finds
  refine ⟨⟨_, hfirst.trans hmore⟩, fun hok => ?_, fun hok => ?_⟩
  · exact List.forall_mem_cons.mpr ⟨hmore.ids_subset hid, h.all hok⟩
  · obtain ⟨hspent, i, hi, hmissing⟩ := h.cut hok
    exact ⟨hspent, i, List.mem_cons_of_mem _ hi, hmissing⟩

theorem discoverAll_offered (depth : Nat) (items : List Item) (s : Stage Tally) :
    Offered depth items s (discoverAll depth items s) := by
  induction items generalizing s with
  | nil => exact ⟨⟨[], .nil _ _ _⟩, fun _ => by simp, nofun⟩
  | cons item rest ih =>
    unfold discoverAll
    cases hcontains : s.world.store.contains item.id with
    | error e => exact ⟨⟨[], .nil _ _ _⟩, nofun, nofun⟩
    | ok there =>
      cases there with
      | true => exact (ih s).cons (.nil _ _ _) ((Store.mem_of_contains hcontains).mp rfl)
      | false =>
        have habsent : item.id ∉ s.world.store.ids := by
          intro hid
          cases (Store.mem_of_contains hcontains).mpr hid
        dsimp only
        rcases discover_cases depth item s with ⟨hr, hspent⟩ | ⟨s₁, row, hr, hid, hfinds⟩ |
          ⟨s₁, hr, hid, hfinds⟩ | ⟨e, s₁, hr, hfinds⟩
        · -- nothing was written, so the item is missing still
          rw [hr]
          exact ⟨⟨[], .nil _ _ _⟩, nofun, fun _ => ⟨hspent, item, List.mem_cons_self, habsent⟩⟩
        · rw [hr]
          exact (ih _).cons hfinds hid
        · rw [hr]
          exact (ih _).cons hfinds hid
        · rw [hr]
          exact ⟨⟨[], hfinds.adds, by simp, hfinds.budget, hfinds.tally, hfinds.calls⟩, nofun,
            nofun⟩

/-- Items that are all there are passed over, whatever the budget. -/
theorem discoverAll_present (depth : Nat) {items : List Item} {s : Stage Tally}
    (h : ∀ item ∈ items, item.id ∈ s.world.store.ids) :
    discoverAll depth items s = (.ok true, s) := by
  induction items with
  | nil => rfl
  | cons item rest ih =>
    obtain ⟨hid, hrest⟩ := List.forall_mem_cons.mp h
    unfold discoverAll
    rw [Store.contains_of_mem hid]
    exact ih hrest

/-! ## Endings -/

/-- How the unit of a row can end. -/
inductive Ending (e : FrontierEntry) (outcome : Except FetchError (List Item))
    (s s' : Stage Tally) :
    Option String → Prop
  | visited {page : List Item} {mid : Stage Tally} {added : List FrontierRow}
      (hpage : outcome = .ok page) (hfinds : Finds (e.depth + 1) page s mid added)
      (hall : ∀ item ∈ page, item.id ∈ mid.world.store.ids)
      (hstore : s'.world.store = mid.world.store.markRows e.id .visited)
      (hbudget : s'.world.budget = mid.world.budget) (hcalls : s'.world.calls = mid.world.calls)
      (htally : s'.tally = { mid.tally with visited := mid.tally.visited + 1 }) :
      Ending e outcome s s' none
  | truncated {page : List Item} {mid : Stage Tally} {added : List FrontierRow}
      (hpage : outcome = .ok page) (hfinds : Finds (e.depth + 1) page s mid added)
      (hspent : s'.world.budget.exhausted = true)
      (hmissing : ∃ item ∈ page, item.id ∉ s'.world.store.ids)
      (hstore : s'.world.store = mid.world.store) (hbudget : s'.world.budget = mid.world.budget)
      (hcalls : s'.world.calls = mid.world.calls)
      (htally : s'.tally = { mid.tally with truncated := mid.tally.truncated + 1 }) :
      Ending e outcome s s' none
  | errored {err : FetchError} (herr : outcome = .error err)
      (hstore : s'.world.store = s.world.store.markRows e.id .error)
      (hbudget : s'.world.budget = s.world.budget) (hcalls : s'.world.calls = s.world.calls)
      (htally : s'.tally = { s.tally with errors := s.tally.errors + 1 }) :
      Ending e outcome s s' none
  | failed {page : List Item} {added : List FrontierRow} (text : String)
      (hfinds : Finds (e.depth + 1) page s s' added) (hpage : outcome = .ok page ∨ added = []) :
      Ending e outcome s s' (some text)

/-- A mark takes its turn, whether it is made or fails. -/
theorem onStore_mark_cases (id : String) (status : Status) (s : Stage Tally) :
    (∃ hit, s.onStore (Store.markStatus id status) =
        (.ok hit,
          ⟨s.world.turn .crawl (s.world.store.markRows id status) s.world.budget, s.tally⟩)) ∨
      ∃ e, s.onStore (Store.markStatus id status) =
        (.error e, ⟨s.world.turn .crawl s.world.store s.world.budget, s.tally⟩) := by
  rcases Store.markStatus_cases id status s.world.store with ⟨hit, hmark⟩ | ⟨e, hmark⟩
  · exact .inl ⟨hit, by simp only [Stage.onStore, Stage.lift, World.write, hmark]⟩
  · exact .inr ⟨e, by simp only [Stage.onStore, Stage.lift, World.write, hmark]⟩

/-- A unit ends in one of the four ways. -/
theorem react_ending (e : FrontierEntry) (outcome : Except FetchError (List Item))
    (s : Stage Tally) : Ending e outcome s (react e outcome s).1 (react e outcome s).2 := by
  cases outcome with
  | error err =>
    let noted := Logged.warn .expanding s!"Failed to fetch similar apps for {e.id}: {err.message}" s
    rcases onStore_mark_cases e.id .error noted with ⟨hit, hmark⟩ | ⟨e', hmark⟩
    · simp only [react, explore, noted, hmark]
      exact .errored rfl rfl rfl rfl rfl
    · simp only [react, explore, noted, hmark]
      exact .failed _ ((Finds.nil (e.depth + 1) [] s).congr rfl rfl rfl rfl) (.inr rfl)
  | ok page =>
    have hoffered := discoverAll_offered (e.depth + 1) page s
    obtain ⟨added, hfinds⟩ := hoffered.finds
    rcases hrun : discoverAll (e.depth + 1) page s with ⟨r, mid⟩
    rw [hrun] at hoffered hfinds
    cases r with
    | error e' =>
      simp only [react, explore, hrun]
      exact .failed _ hfinds (.inl rfl)
    | ok all =>
      cases all with
      | false =>
        obtain ⟨hspent, hmissing⟩ := hoffered.cut rfl
        simp only [react, explore, hrun]
        exact .truncated rfl hfinds hspent hmissing rfl rfl rfl rfl
      | true =>
        rcases onStore_mark_cases e.id .visited mid with ⟨hit, hmark⟩ | ⟨e', hmark⟩
        · simp only [react, explore, hrun, hmark]
          exact .visited rfl hfinds (hoffered.all rfl) rfl rfl rfl rfl
        · simp only [react, explore, hrun, hmark]
          exact .failed _ (hfinds.congr rfl rfl rfl rfl) (.inl rfl)

variable {e : FrontierEntry} {outcome : Except FetchError (List Item)} {failure : Option String}

namespace Ending

theorem of_react (h : react e outcome s = (s', failure)) : Ending e outcome s s' failure := by
  have hending := react_ending e outcome s
  rw [h] at hending
  exact hending

theorem calls (h : Ending e outcome s s' failure) : s'.world.calls = s.world.calls := by
  cases h with
  | visited _ hfinds _ _ _ hcalls => exact hcalls.trans hfinds.calls
  | truncated _ hfinds _ _ _ _ hcalls => exact hcalls.trans hfinds.calls
  | errored _ _ _ hcalls => exact hcalls
  | failed _ hfinds => exact hfinds.calls

theorem budget (h : Ending e outcome s s' failure) :
    ∃ n, s'.world.budget = s.world.budget.spend n := by
  cases h with
  | visited _ hfinds _ _ hbudget => exact ⟨_, hbudget.trans hfinds.budget⟩
  | truncated _ hfinds _ _ _ hbudget => exact ⟨_, hbudget.trans hfinds.budget⟩
  | errored _ _ hbudget => exact ⟨0, hbudget⟩
  | failed _ hfinds => exact ⟨_, hfinds.budget⟩

theorem evolves (h : Ending e outcome s s' failure) : s.world.store.Evolves s'.world.store := by
  cases h with
  | visited _ hfinds _ hstore =>
    exact hstore ▸ hfinds.adds.evolves.trans (Store.evolves_markRows _ _ _)
  | truncated _ hfinds _ _ hstore => exact hstore ▸ hfinds.adds.evolves
  | errored _ hstore => exact hstore ▸ Store.evolves_markRows _ _ _
  | failed _ hfinds => exact hfinds.adds.evolves

theorem keyed (h : Ending e outcome s s' failure) (hs : s.world.store.Keyed) :
    s'.world.store.Keyed := by
  cases h with
  | visited _ hfinds _ hstore => exact hstore ▸ (hfinds.adds.keyed hs).markRows _ _
  | truncated _ hfinds _ _ hstore => exact hstore ▸ hfinds.adds.keyed hs
  | errored _ hstore => exact hstore ▸ hs.markRows _ _
  | failed _ hfinds => exact hfinds.adds.keyed hs

/-- What a unit inserts are rows of items of its answer, on which it may have set a mark since. -/
theorem exists_item (h : Ending e outcome s s' failure) {i : Nat} {r : FrontierRow}
    (hi : s.world.store.rows.length ≤ i) (hr : s'.world.store.rows[i]? = some r) :
    ∃ page item, outcome = .ok page ∧ item ∈ page ∧
      (Store.newRow item.id (e.depth + 1) item.raw).Becomes r := by
  cases h with
  | visited hpage hfinds _ hstore =>
    rw [hstore, Store.rows_markRows, List.getElem?_map, Option.map_eq_some_iff] at hr
    obtain ⟨r₀, hr₀, rfl⟩ := hr
    obtain ⟨item, hitem, rfl⟩ := hfinds.listed r₀ (hfinds.mem_added hi hr₀)
    exact ⟨_, item, hpage, hitem, .mark e.id .visited _⟩
  | truncated hpage hfinds _ _ hstore =>
    obtain ⟨item, hitem, rfl⟩ := hfinds.listed r (hfinds.mem_added hi (hstore ▸ hr))
    exact ⟨_, item, hpage, hitem, .refl _⟩
  | errored _ hstore =>
    rw [hstore, Store.rows_markRows, List.getElem?_map, List.getElem?_eq_none hi] at hr
    cases hr
  | failed _ hfinds hpage =>
    have hadded := hfinds.mem_added hi hr
    obtain ⟨item, hitem, rfl⟩ := hfinds.listed r hadded
    rcases hpage with hpage | rfl
    · exact ⟨_, item, hpage, hitem, .refl _⟩
    · cases hadded

/-- What a unit inserts stands one level below its row. -/
theorem new_row (h : Ending e outcome s s' failure) {i : Nat} {r : FrontierRow}
    (hi : s.world.store.rows.length ≤ i) (hr : s'.world.store.rows[i]? = some r) :
    r.depth = ((e.depth + 1 : Nat) : Int) := by
  obtain ⟨-, item, -, -, hbecomes⟩ := h.exists_item hi hr
  exact hbecomes.depth

end Ending

/-- If all neighbours are there when the answer arrives, the unit only marks its row, and can fail
only in that, whatever is left of the budget. -/
theorem react_present (e : FrontierEntry) {page : List Item} {s : Stage Tally}
    (h : ∀ item ∈ page, item.id ∈ s.world.store.ids) :
    (react e (.ok page) s).2 = none ∧
        (react e (.ok page) s).1.world.store = s.world.store.markRows e.id .visited ∧
        (react e (.ok page) s).1.tally = { s.tally with visited := s.tally.visited + 1 } ∨
      (∃ err, (Store.markStatus e.id .visited s.world.store).1 = .error err) ∧
        (react e (.ok page) s).2.isSome ∧ (react e (.ok page) s).1.world.store = s.world.store := by
  rcases onStore_mark_cases e.id .visited s with ⟨hit, hmark⟩ | ⟨err, hmark⟩
  · have hreact : react e (.ok page) s =
        (⟨s.world.turn .crawl (s.world.store.markRows e.id .visited) s.world.budget,
          { s.tally with visited := s.tally.visited + 1 }⟩, none) := by
      simp only [react, explore, discoverAll_present _ h, hmark, Stage.count]
    rw [hreact]
    exact .inl ⟨rfl, rfl, rfl⟩
  · have hfails : (Store.markStatus e.id .visited s.world.store).1 = .error err :=
      congrArg Prod.fst hmark
    have hreact : react e (.ok page) s =
        (⟨s.world.turn .crawl s.world.store s.world.budget, s.tally⟩,
          some s!"{e.id}: {err.message}") := by
      simp only [react, explore, discoverAll_present _ h, hmark]
    rw [hreact]
    exact .inr ⟨⟨err, hfails⟩, rfl, rfl⟩

/-! ## Visited means recorded -/

/-- What the unit of a row has recorded when it ends. -/
structure Recorded (e : FrontierEntry) (outcome : Except FetchError (List Item))
    (arrival ended : Stage Tally) (failure : Option String) : Prop where
  /-- Only the row of the unit may have become visited, and all its neighbours are then there. -/
  visited : ∀ {i : Nat} {r : FrontierRow}, ended.world.store.rows[i]? = some r →
    r.code = Status.visited.code → arrival.world.store.rows[i]? = some r ∨
      r.id = e.id ∧ ∃ page, outcome = .ok page ∧ ∀ item ∈ page, item.id ∈ ended.world.store.ids
  /-- A unit that counts its row as visited has all the neighbours there. -/
  counted : ended.tally.visited ≠ arrival.tally.visited →
    ∃ page, outcome = .ok page ∧ ∀ item ∈ page, item.id ∈ ended.world.store.ids
  truncated : ended.tally.truncated ≠ arrival.tally.truncated →
    ended.world.budget.exhausted = true ∧
      (∃ page, outcome = .ok page ∧ ∃ item ∈ page, item.id ∉ ended.world.store.ids) ∧
      arrival.world.store.rows <+: ended.world.store.rows
  /-- With all neighbours there from the beginning the row is marked, unless the mark
  itself fails. -/
  present : ∀ {page : List Item}, outcome = .ok page →
    (∀ item ∈ page, item.id ∈ arrival.world.store.ids) →
    failure = none ∧
        ended.world.store.rows = arrival.world.store.rows.map (Store.markRow e.id .visited) ∧
        ended.tally.visited = arrival.tally.visited + 1 ∨
      failure.isSome ∧ ∃ err, (Store.markStatus e.id .visited arrival.world.store).1 = .error err
  failed : failure.isSome → arrival.world.store.rows <+: ended.world.store.rows

/-- A settled row is one from before: what is found is unvisited. -/
theorem Finds.settled_row (h : Finds depth items s s' added) {i : Nat} {r : FrontierRow}
    (hr : s'.world.store.rows[i]? = some r) (hcode : r.code ≠ Status.unvisited.code) :
    s.world.store.rows[i]? = some r := by
  rw [h.adds.rows] at hr
  rcases Nat.lt_or_ge i s.world.store.rows.length with hi | hi
  · rw [List.getElem?_append_left hi] at hr
    exact hr
  · rw [List.getElem?_append_right hi] at hr
    exact (hcode (h.adds.unvisited r (List.mem_of_getElem? hr))).elim

theorem Finds.rows_prefix (h : Finds depth items s s' added) :
    s.world.store.rows <+: s'.world.store.rows := h.adds.rows ▸ List.prefix_append _ _

/-- A row that a mark has made what it is, or that the mark left alone. -/
theorem markRows_row {s : Store} {id : String} {status : Status} {i : Nat} {r : FrontierRow}
    (hr : (s.markRows id status).rows[i]? = some r) :
    s.rows[i]? = some r ∨ r.id = id ∧ r.code = status.code := by
  rw [Store.rows_markRows, List.getElem?_map, Option.map_eq_some_iff] at hr
  obtain ⟨r₀, hr₀, rfl⟩ := hr
  unfold Store.markRow
  split
  · next hhit => exact .inr ⟨hhit.1, rfl⟩
  · exact .inl hr₀

/-- A row is visited only if it was before, or its unit has ended with all the neighbours there. -/
theorem Ending.visited_row (h : Ending e outcome s s' failure) {i : Nat} {r : FrontierRow}
    (hr : s'.world.store.rows[i]? = some r) (hcode : r.code = Status.visited.code) :
    s.world.store.rows[i]? = some r ∨
      r.id = e.id ∧ ∃ page, outcome = .ok page ∧ ∀ item ∈ page, item.id ∈ s'.world.store.ids := by
  have hsettled : r.code ≠ Status.unvisited.code := by rw [hcode]; decide
  cases h with
  | visited hpage hfinds hall hstore =>
    rw [hstore] at hr
    rcases markRows_row hr with hold | ⟨hid, -⟩
    · exact .inl (hfinds.settled_row hold hsettled)
    · refine .inr ⟨hid, _, hpage, fun item hitem => ?_⟩
      rw [hstore, Store.ids_markRows]
      exact hall item hitem
  | truncated _ hfinds _ _ hstore =>
    rw [hstore] at hr
    exact .inl (hfinds.settled_row hr hsettled)
  | errored _ hstore =>
    rw [hstore] at hr
    rcases markRows_row hr with hold | ⟨-, herror⟩
    · exact .inl hold
    · rw [hcode] at herror
      cases herror
  | failed _ hfinds => exact .inl (hfinds.settled_row hr hsettled)

/-- A row is counted as visited only with all its neighbours there. -/
theorem Ending.all_of_visited (h : Ending e outcome s s' failure)
    (hcount : s'.tally.visited ≠ s.tally.visited) :
    ∃ page, outcome = .ok page ∧ ∀ item ∈ page, item.id ∈ s'.world.store.ids := by
  cases h with
  | visited hpage _ hall hstore =>
    refine ⟨_, hpage, fun item hitem => ?_⟩
    rw [hstore, Store.ids_markRows]
    exact hall item hitem
  | truncated _ hfinds _ _ _ _ _ htally => simp [htally, hfinds.tally] at hcount
  | errored _ _ _ _ htally => simp [htally] at hcount
  | failed _ hfinds => simp [hfinds.tally] at hcount

/-- A unit is counted as cut short only with the budget spent and a neighbour missing. No status
has changed then. -/
theorem Ending.cut_of_truncated (h : Ending e outcome s s' failure)
    (hcount : s'.tally.truncated ≠ s.tally.truncated) :
    s'.world.budget.exhausted = true ∧
      (∃ page, outcome = .ok page ∧ ∃ item ∈ page, item.id ∉ s'.world.store.ids) ∧
      s.world.store.rows <+: s'.world.store.rows := by
  cases h with
  | visited _ hfinds _ _ _ _ htally => simp [htally, hfinds.tally] at hcount
  | truncated hpage hfinds hspent hmissing hstore =>
    exact ⟨hspent, ⟨_, hpage, hmissing⟩, hstore ▸ hfinds.rows_prefix⟩
  | errored _ _ _ _ htally => simp [htally] at hcount
  | failed _ hfinds => simp [hfinds.tally] at hcount

theorem Ending.rows_of_failed (h : Ending e outcome s s' failure) (hfailure : failure.isSome) :
    s.world.store.rows <+: s'.world.store.rows := by
  cases h with
  | visited | truncated | errored => cases hfailure
  | failed _ hfinds => exact hfinds.rows_prefix

/-- The reaction to an answer, whatever the answer is and whatever the store does. -/
theorem react_recorded (e : FrontierEntry) (outcome : Except FetchError (List Item))
    (s : Stage Tally) :
    Recorded e outcome s (react e outcome s).1 (react e outcome s).2 where
  visited := (react_ending e outcome s).visited_row
  counted := (react_ending e outcome s).all_of_visited
  truncated := (react_ending e outcome s).cut_of_truncated
  present {page} hpage hall := by
    subst hpage
    rcases react_present e hall with ⟨hnone, hstore, htally⟩ | ⟨herr, hsome, -⟩
    · exact .inl ⟨hnone, by rw [hstore, Store.rows_markRows], by rw [htally]⟩
    · exact .inr ⟨hsome, herr⟩
  failed := (react_ending e outcome s).rows_of_failed

/-- The calls of a course are those of its events. -/
theorem Course.calls_eq {c : Catalog} {o : Options} {w : World} {events : List Event}
    {k : Moment} (h : Course c o w events k) :
    k.stage.world.calls.map (·.2) =
      w.calls.map (·.2) ++ (called events).map fun e => .similar e.id o.locale := by
  refine h.keeps (I := fun events k => k.stage.world.calls.map (·.2) =
    w.calls.map (·.2) ++ (called events).map fun e => .similar e.id o.locale) (by simp) ?_
  intro events new k k' hmove ih
  cases hmove with
  | note | clock | skip | stop =>
    rw [List.append_nil]
    exact ih
  | read =>
    rw [called_append, called_read, List.append_nil]
    exact ih
  | @call _ e _ _ s now =>
    have hcalls : (s.world.call now (.similar e.id o.locale)).calls =
      s.world.calls ++ [(now, .similar e.id o.locale)] := rfl
    rw [called_append, called_call, List.map_append, ← List.append_assoc, ← ih, hcalls,
      List.map_append]
    rfl
  | @settle _ n e _ _ _ s s' failure hreact =>
    have hending := Ending.of_react hreact
    have hcalls := hending.calls
    rw [Stage.calls_receive] at hcalls
    rw [called_append, called_settle, List.append_nil, ← ih, hcalls]

/-- **Visited means recorded.** In every expansion the events account for all the calls that are
made, and each of these is settled in the end. From the arrival of its answer on, a unit marks its
row visited only if all the neighbours are in the frontier. One that is cut short leaves the budget
spent, a neighbour missing and every status as it was. One whose neighbours are all there marks its
row whatever is left of the budget, and one that fails changes no status. -/
theorem run_visited_recorded (c : Catalog) (o : Options) (w : World) :
    ∃ events, Leads c o w events (run c o w).2 ∧
      (run c o w).2.calls.map (·.2) =
        w.calls.map (·.2) ++ (called events).map (fun e => .similar e.id o.locale) ∧
      (∀ e u, .call e u ∈ events → ∃ arrival ended failure,
        .settle e u.calls.length arrival ended failure ∈ events) ∧
      ∀ e n arrival ended failure, .settle e n arrival ended failure ∈ events →
        Recorded e (c.similar n e.id o.locale).outcome arrival ended failure := by
  obtain ⟨events, k, hcourse, hqueue, hflight, hworld, -⟩ := run_course c o w
  refine ⟨events, ⟨k, hcourse, hqueue, hflight, hworld⟩, hworld ▸ hcourse.calls_eq,
    fun e u hcall => ?_, ?_⟩
  · rcases hcourse.settled hcall with hwaits | hdone
    · rw [hflight] at hwaits
      cases hwaits
    · exact hdone
  · intro e n arrival ended failure hsettle
    have hrecorded := react_recorded e (c.similar n e.id o.locale).outcome arrival
    rw [hcourse.reacts hsettle] at hrecorded
    exact hrecorded

end Expansion

end CatalogCrawl
