import CatalogCrawl.Store.Frontier
import CatalogCrawl.Store.Info
import Mathlib.Data.List.Nodup
import Mathlib.Logic.Relation

/-! # What the writes do to the frontier rows

Each write to a store is described by the rows it leaves, in every state of the store: with the
table missing, with writes blocked, or read-only. A write that fails leaves the store as it was. -/

namespace CatalogCrawl.Store

/-- The frontier rows, none if the table is missing. -/
def rows (s : Store) : List FrontierRow := (s.frontier.map (·.rows)).getD []

/-- The ids of the frontier. -/
def ids (s : Store) : List String := s.rows.map (·.id)

theorem rows_of_frontier {s : Store} {t : Table FrontierRow} (h : s.frontier = some t) :
    s.rows = t.rows := by simp [rows, h]

theorem rows_congr {s s' : Store} (h : s'.frontier = s.frontier) : s'.rows = s.rows := by
  simp [rows, h]

theorem hasFrontierId_iff {t : Table FrontierRow} {id : String} :
    hasFrontierId t id = true ↔ id ∈ t.rows.map (·.id) := by
  simp [hasFrontierId]

/-- A row as it is when it enters the frontier. -/
def newRow (id : String) (depth : Nat) (snapshot : Json) : FrontierRow :=
  ⟨id, depth, Status.unvisited.code, snapshot.text⟩

/-- Puts rows behind those of the frontier, if the table is there. -/
def append (added : List FrontierRow) (s : Store) : Store :=
  { s with frontier := s.frontier.map fun t => { t with rows := t.rows ++ added } }

theorem rows_append {s : Store} {added : List FrontierRow} (h : s.frontier.isSome) :
    (s.append added).rows = s.rows ++ added := by
  obtain ⟨t, ht⟩ := Option.isSome_iff_exists.mp h
  simp [append, rows, ht]

theorem frontierTable_eq_ok {s : Store} {t : Table FrontierRow} (h : s.frontierTable = .ok t) :
    s.frontier = some t := by
  unfold frontierTable at h
  split at h
  · cases h; assumption
  · cases h

/-- A write is done to its table, or it fails and leaves the store as it was: because the table is
missing, or because the store cannot be written. -/
theorem writing_cases {ρ α : Type} (table : Store → Except StoreError (Table ρ))
    (f : Table ρ → Action α) (s : Store) :
    (∃ t, table s = .ok t ∧ s.access = .full ∧ writing table f s = f t s) ∨
      ∃ e, (table s = .error e ∨ s.access ≠ .full ∧ e = .engine .readOnly) ∧
        writing table f s = (.error e, s) := by
  cases ht : table s with
  | error e => exact .inr ⟨e, .inl rfl, by simp only [writing, ht]⟩
  | ok t =>
    by_cases hfull : s.access = .full
    · exact .inl ⟨t, rfl, hfull, by simp only [writing, ht, if_pos hfull]⟩
    · exact .inr ⟨_, .inr ⟨hfull, rfl⟩, by simp only [writing, ht, if_neg hfull]⟩

/-! ## Single inserts -/

/-- A single insert adds a row, finds the id there, or fails and changes nothing. -/
theorem insertIfAbsent_cases (id : String) (depth : Nat) (snapshot : Json) (s : Store) :
    (id ∉ s.ids ∧ s.frontier.isSome ∧
        insertIfAbsent id depth snapshot s = (.ok true, s.append [newRow id depth snapshot])) ∨
      (id ∈ s.ids ∧ insertIfAbsent id depth snapshot s = (.ok false, s)) ∨
      ∃ e, insertIfAbsent id depth snapshot s = (.error e, s) := by
  unfold insertIfAbsent
  obtain ⟨t, ht, -, hwrite⟩ | ⟨e, -, hwrite⟩ := writing_cases frontierTable _ s <;> rw [hwrite]
  · have hf := frontierTable_eq_ok ht
    have hids : s.ids = t.rows.map (·.id) := by rw [ids, rows_of_frontier hf]
    split
    · exact .inr (.inr ⟨_, rfl⟩)
    · split
      · next hmem => exact .inr (.inl ⟨hids ▸ hasFrontierId_iff.mp hmem, rfl⟩)
      · next hmem =>
        refine .inl ⟨fun h => hmem (hasFrontierId_iff.mpr (hids ▸ h)), by simp [hf], ?_⟩
        simp [append, hf, newRow]
  · exact .inr (.inr ⟨e, rfl⟩)

/-! ## Pages -/

/-- The frontier has grown by unvisited rows with new ids, no two of them the same. -/
structure Adds (s s' : Store) (added : List FrontierRow) : Prop where
  rows : s'.rows = s.rows ++ added
  fresh : ∀ r ∈ added, r.id ∉ s.ids
  distinct : (added.map (·.id)).Nodup
  unvisited : ∀ r ∈ added, r.code = Status.unvisited.code
  info : s'.info = s.info
  table : s'.frontier.isSome = s.frontier.isSome

theorem Adds.nil (s : Store) : s.Adds s [] := ⟨by simp, by simp, by simp, by simp, rfl, rfl⟩

theorem Adds.ids {s s' : Store} {added : List FrontierRow} (h : s.Adds s' added) :
    s'.ids = s.ids ++ added.map (·.id) := by simp [Store.ids, h.rows]

/-- One row with a new id. -/
theorem Adds.single {s : Store} {id : String} (depth : Nat) (snapshot : Json) (hid : id ∉ s.ids)
    (hs : s.frontier.isSome) :
    s.Adds (s.append [newRow id depth snapshot]) [newRow id depth snapshot] :=
  ⟨rows_append hs, by simpa [newRow] using hid, by simp, by simp [newRow], rfl, Option.isSome_map⟩

theorem Adds.trans {s s' s'' : Store} {added more : List FrontierRow} (h : s.Adds s' added)
    (h' : s'.Adds s'' more) : s.Adds s'' (added ++ more) where
  rows := by rw [h'.rows, h.rows, List.append_assoc]
  fresh := by
    intro r hr
    rcases List.mem_append.mp hr with hr | hr
    · exact h.fresh r hr
    · exact fun hmem => h'.fresh r hr (h.ids ▸ List.mem_append_left _ hmem)
  distinct := by
    rw [List.map_append]
    refine h.distinct.append h'.distinct fun id hid hid' => ?_
    obtain ⟨r, hr, rfl⟩ := List.mem_map.mp hid'
    exact h'.fresh r hr (h.ids ▸ List.mem_append_right _ hid)
  unvisited := by
    intro r hr
    rcases List.mem_append.mp hr with hr | hr
    · exact h.unvisited r hr
    · exact h'.unvisited r hr
  info := h'.info.trans h.info
  table := h'.table.trans h.table

/-- Items that go in one by one add some of their rows, and these are counted. -/
theorem insertEach_adds (items : List Item) {n m : Nat} {s s' : Store}
    (h : insertEach items n s = (.ok m, s')) :
    ∃ added, s.Adds s' added ∧ m = n + added.length ∧
      added.Sublist (items.map fun item => newRow item.id 0 item.raw) := by
  induction items generalizing n s with
  | nil =>
    cases h
    exact ⟨[], .nil _, rfl, .slnil⟩
  | cons item rest ih =>
    unfold insertEach at h
    rcases insertIfAbsent_cases item.id 0 item.raw s with ⟨hid, hs, hins⟩ | ⟨-, hins⟩ | ⟨e, hins⟩
    · simp only [hins, if_true] at h
      obtain ⟨added, hadd, hm, hsub⟩ := ih h
      refine ⟨_, (Adds.single 0 item.raw hid hs).trans hadd, ?_, hsub.cons_cons _⟩
      rw [hm, List.length_append, List.length_singleton]; omega
    · simp only [hins] at h
      obtain ⟨added, hadd, hm, hsub⟩ := ih h
      exact ⟨added, hadd, by simpa using hm, hsub.cons _⟩
    · simp [hins] at h

/-- A page is added with all its new ids, or not at all. -/
theorem insertPage_cases (items : List Item) (s : Store) :
    (∃ s' added, insertPage items s = (.ok added.length, s') ∧ s.Adds s' added ∧
        added.Sublist (items.map fun item => newRow item.id 0 item.raw)) ∨
      ∃ e, insertPage items s = (.error e, s) := by
  unfold insertPage
  split
  · exact .inr ⟨_, rfl⟩
  · split
    · next n s' heach =>
      obtain ⟨added, hadd, hn, hsub⟩ := insertEach_adds items heach
      rw [Nat.zero_add] at hn
      exact .inl ⟨s', added, by rw [hn], hadd, hsub⟩
    · exact .inr ⟨_, rfl⟩

/-! ## Marks and details -/

/-- The row after its id has been marked: only an unvisited row changes. -/
def markRow (id : String) (status : Status) (r : FrontierRow) : FrontierRow :=
  if r.id = id ∧ r.code = Status.unvisited.code then { r with code := status.code } else r

@[simp] theorem id_markRow (id : String) (status : Status) (r : FrontierRow) :
    (markRow id status r).id = r.id := by unfold markRow; split <;> rfl

@[simp] theorem snapshot_markRow (id : String) (status : Status) (r : FrontierRow) :
    (markRow id status r).snapshot = r.snapshot := by unfold markRow; split <;> rfl

/-- Marks the rows of an id. -/
def markRows (id : String) (status : Status) (s : Store) : Store :=
  { s with frontier := s.frontier.map fun t => { t with rows := t.rows.map (markRow id status) } }

@[simp] theorem rows_markRows (id : String) (status : Status) (s : Store) :
    (s.markRows id status).rows = s.rows.map (markRow id status) := by
  cases h : s.frontier <;> simp [markRows, rows, h]

@[simp] theorem ids_markRows (id : String) (status : Status) (s : Store) :
    (s.markRows id status).ids = s.ids := by simp [ids, Function.comp_def]

/-- There is nothing to mark without an unvisited row of the id. -/
theorem markRows_eq_self {id : String} {status : Status} {s : Store}
    (h : ∀ r ∈ s.rows, ¬(r.id = id ∧ r.code = Status.unvisited.code)) :
    s.markRows id status = s := by
  have hrow : ∀ r ∈ s.rows, markRow id status r = r := fun r hr => if_neg (h r hr)
  rcases s with ⟨_ | t, i, l, a⟩
  · rfl
  · have hrows : t.rows.map (markRow id status) = t.rows :=
      (List.map_congr_left hrow).trans (List.map_id _)
    simp [markRows, hrows]

/-- A mark is made, or it fails and changes nothing. -/
theorem markStatus_cases (id : String) (status : Status) (s : Store) :
    (∃ hit, markStatus id status s = (.ok hit, s.markRows id status)) ∨
      ∃ e, markStatus id status s = (.error e, s) := by
  unfold markStatus
  obtain ⟨t, ht, -, hwrite⟩ | ⟨e, -, hwrite⟩ := writing_cases frontierTable _ s <;> rw [hwrite]
  · have hf := frontierTable_eq_ok ht
    dsimp only
    split
    · split
      · exact .inr ⟨_, rfl⟩
      · exact .inl ⟨true, by simp [markRows, hf, markRow]⟩
    · next hnone =>
      refine .inl ⟨false, ?_⟩
      rw [markRows_eq_self]
      simpa [rows_of_frontier hf] using hnone
  · exact .inr ⟨e, rfl⟩

@[simp] theorem ids_markStatus (id : String) (status : Status) (s : Store) :
    (markStatus id status s).2.ids = s.ids := by
  rcases markStatus_cases id status s with ⟨hit, hmark⟩ | ⟨e, hmark⟩
  · rw [hmark, ids_markRows]
  · rw [hmark]

theorem insertInfo_frontier (r : InfoRecord) (s : Store) :
    (insertInfo r s).2.frontier = s.frontier := by
  unfold insertInfo
  obtain ⟨t, -, -, hwrite⟩ | ⟨e, -, hwrite⟩ := writing_cases infoTable _ s <;> rw [hwrite]
  split <;> rfl

@[simp] theorem ids_insertInfo (r : InfoRecord) (s : Store) : (insertInfo r s).2.ids = s.ids := by
  rw [ids, ids, rows_congr (insertInfo_frontier r s)]

/-! ## Other writers -/

/-- What can be done to a store that concerns no rows. -/
structure Unwritten (s s' : Store) : Prop where
  frontier : s'.frontier.map (·.rows) = s.frontier.map (·.rows)
  info : s'.info.map (·.rows) = s.info.map (·.rows)

theorem Unwritten.rows {s s' : Store} (h : s.Unwritten s') : s'.rows = s.rows := by
  rw [Store.rows, h.frontier, Store.rows]

/-- What another writer may do at a time: one of the operations above, whether it succeeds or not,
or begin or cease to stand in the way of writes. -/
inductive Touch : Store → Store → Prop
  | insert (id : String) (depth : Nat) (snapshot : Json) (s : Store) :
      Touch s (insertIfAbsent id depth snapshot s).2
  | page (items : List Item) (s : Store) : Touch s (insertPage items s).2
  | mark (id : String) (status : Status) (s : Store) : Touch s (markStatus id status s).2
  | info (r : InfoRecord) (s : Store) : Touch s (insertInfo r s).2
  | faults {s s' : Store} (h : s.Unwritten s') : Touch s s'

/-- What other writers may do while a call is on its way. -/
abbrev Outside : Store → Store → Prop := Relation.ReflTransGen Touch

theorem Touch.ids_prefix {s s' : Store} (h : Touch s s') : s.ids <+: s'.ids := by
  cases h with
  | insert id depth snapshot =>
    rcases insertIfAbsent_cases id depth snapshot s with ⟨hid, hs, hins⟩ | ⟨-, hins⟩ | ⟨e, hins⟩
    · rw [hins, (Adds.single depth snapshot hid hs).ids]
      exact List.prefix_append _ _
    · simp only [hins, List.prefix_rfl]
    · simp only [hins, List.prefix_rfl]
  | page items =>
    rcases insertPage_cases items s with ⟨s', added, hins, hadd, -⟩ | ⟨e, hins⟩
    · rw [hins, hadd.ids]
      exact List.prefix_append _ _
    · simp only [hins, List.prefix_rfl]
  | mark id status => simp only [ids_markStatus, List.prefix_rfl]
  | info r => simp only [ids_insertInfo, List.prefix_rfl]
  | faults hfaults => simp only [ids, hfaults.rows, List.prefix_rfl]

/-- No id leaves the frontier. -/
theorem Outside.ids_prefix {s s' : Store} (h : Outside s s') : s.ids <+: s'.ids := by
  induction h with
  | refl => exact List.prefix_rfl
  | tail _ htouch ih => exact ih.trans htouch.ids_prefix

end CatalogCrawl.Store
