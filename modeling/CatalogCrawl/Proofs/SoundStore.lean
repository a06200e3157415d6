import CatalogCrawl.Proofs.Levels
import CatalogCrawl.Proofs.Rows

/-! # Sound stores

A store is sound if no operation on its frontier fails: the table is there, nothing is blocked, ids
are unique and every payload can be read back. Each operation keeps a store sound and is described
by what it does to the chart of the frontier. -/

namespace CatalogCrawl.Store

variable {s : Store} {id x : String} {d c : Int}

/-- Where each id of the frontier stands. -/
def chart (s : Store) : Chart := fun x => (s.rows.find? (·.id = x)).map fun r => (r.depth, r.code)

theorem chart_eq_none_iff : s.chart x = none ↔ x ∉ s.ids := by
  simp [chart, ids]

theorem chart_isSome_iff : (s.chart x).isSome = true ↔ x ∈ s.ids := by
  rw [← not_iff_not, ← chart_eq_none_iff]
  simp

theorem exists_row_of_chart (h : s.chart x = some (d, c)) :
    ∃ r ∈ s.rows, r.id = x ∧ r.depth = d ∧ r.code = c := by
  obtain ⟨r, hr, hv⟩ := Option.map_eq_some_iff.mp h
  have hid := List.find?_some hr
  rw [Prod.mk.injEq] at hv
  exact ⟨r, List.mem_of_find?_eq_some hr, of_decide_eq_true hid, hv.1, hv.2⟩

theorem chart_of_mem (hkeyed : s.ids.Nodup) {r : FrontierRow} (hr : r ∈ s.rows) :
    s.chart r.id = some (r.depth, r.code) := by
  cases hfind : s.rows.find? (·.id = r.id) with
  | none =>
    rw [List.find?_eq_none] at hfind
    exact absurd (decide_eq_true rfl) (hfind r hr)
  | some r' =>
    have hr' := List.mem_of_find?_eq_some hfind
    have hid : r'.id = r.id := by simpa using List.find?_some hfind
    have heq : r' = r := List.inj_on_of_nodup_map hkeyed hr' hr hid
    rw [chart, hfind, heq]
    rfl

/-! ## The writes on a chart -/

theorem chart_append (hs : s.frontier.isSome) (depth : Nat) (snapshot : Json) (hid : id ∉ s.ids) :
    (s.append [newRow id depth snapshot]).chart = s.chart.insert id depth := by
  funext x
  rw [chart, rows_append hs, List.find?_append, Chart.insert]
  split
  · next hx =>
    subst hx
    have hnone : s.rows.find? (·.id = x) = none := by
      rw [List.find?_eq_none]
      intro r hr hrx
      exact hid (List.mem_map.mpr ⟨r, hr, of_decide_eq_true hrx⟩)
    simp [hnone, newRow]
  · next hx =>
    have hne : ¬id = x := fun h => hx h.symm
    simp [chart, newRow, hne]

theorem chart_markRows (id : String) (status : Status) (s : Store) :
    (s.markRows id status).chart = s.chart.mark id status := by
  funext x
  have hfind : (s.markRows id status).rows.find? (·.id = x) =
      (s.rows.find? (·.id = x)).map (markRow id status) := by
    rw [rows_markRows, List.find?_map]
    simp only [Function.comp_def, id_markRow]
  rw [chart, hfind, Chart.mark, chart, Option.map_map, Option.map_map]
  cases hr : s.rows.find? (·.id = x) with
  | none => rfl
  | some r =>
    have hid : r.id = x := by simpa using List.find?_some hr
    simp only [Option.map_some, Function.comp_apply, markRow, hid]
    split <;> rfl

/-! ## Sound stores -/

/-- No operation on the frontier fails. -/
structure Sound (s : Store) : Prop where
  writable : s.access = .full
  unblocked : ∃ t, s.frontier = some t ∧ t.noInsert = [] ∧ t.noUpdate = []
  keyed : s.ids.Nodup
  readable : ∀ r ∈ s.rows, (Json.read? r.snapshot).isSome

namespace Sound

theorem isSome (h : s.Sound) : s.frontier.isSome := by
  obtain ⟨t, ht, -⟩ := h.unblocked
  simp [ht]

theorem contains (h : s.Sound) (id : String) : s.contains id = .ok (decide (id ∈ s.ids)) := by
  obtain ⟨t, ht, -⟩ := h.unblocked
  have hmem : hasFrontierId t id = decide (id ∈ s.ids) := by
    rw [Bool.eq_iff_iff, hasFrontierId_iff, decide_eq_true_iff, ids, rows_of_frontier ht]
  simp [Store.contains, frontierTable, ht, hmem, bind, Except.bind, pure, Except.pure]

theorem insertIfAbsent (h : s.Sound) (depth : Nat) (snapshot : Json) (hid : id ∉ s.ids) :
    Store.insertIfAbsent id depth snapshot s = (.ok true, s.append [newRow id depth snapshot]) := by
  obtain ⟨t, ht, hno, -⟩ := h.unblocked
  rcases insertIfAbsent_cases id depth snapshot s with ⟨-, -, hins⟩ | ⟨hmem, -⟩ | ⟨e, hins⟩
  · exact hins
  · exact absurd hmem hid
  · have hmem : hasFrontierId t id = false := by
      rw [← Bool.not_eq_true, hasFrontierId_iff, ← rows_of_frontier ht]
      exact hid
    simp [Store.insertIfAbsent, writing, h.writable, frontierTable, ht, hno, hmem] at hins

theorem append (h : s.Sound) (depth : Nat) {snapshot : Json} (hid : id ∉ s.ids)
    (hread : (Json.read? snapshot.text).isSome) : (s.append [newRow id depth snapshot]).Sound where
  writable := h.writable
  unblocked := by
    obtain ⟨t, ht, hno, hup⟩ := h.unblocked
    exact ⟨{ t with rows := t.rows ++ [newRow id depth snapshot] }, by simp [Store.append, ht], hno,
      hup⟩
  keyed := by
    rw [(Adds.single depth snapshot hid h.isSome).ids]
    refine h.keyed.append (List.nodup_singleton _) fun y hy hy' => ?_
    obtain rfl : y = id := List.mem_singleton.mp hy'
    exact hid hy
  readable := by
    intro r hr
    rw [rows_append h.isSome, List.mem_append, List.mem_singleton] at hr
    rcases hr with hr | rfl
    · exact h.readable r hr
    · exact hread

theorem markStatus (h : s.Sound) (id : String) (status : Status) :
    ∃ hit, Store.markStatus id status s = (.ok hit, s.markRows id status) := by
  obtain ⟨t, ht, -, hup⟩ := h.unblocked
  rcases markStatus_cases id status s with hmark | ⟨e, hmark⟩
  · exact hmark
  · simp only [Store.markStatus, writing, h.writable, frontierTable, ht, hup, if_true] at hmark
    split at hmark <;> simp at hmark

theorem markRows (h : s.Sound) (id : String) (status : Status) : (s.markRows id status).Sound where
  writable := h.writable
  unblocked := by
    obtain ⟨t, ht, hno, hup⟩ := h.unblocked
    exact ⟨{ t with rows := t.rows.map (markRow id status) }, by simp [Store.markRows, ht], hno,
      hup⟩
  keyed := by rw [ids_markRows]; exact h.keyed
  readable := by
    intro r hr
    rw [rows_markRows] at hr
    obtain ⟨r', hr', rfl⟩ := List.mem_map.mp hr
    rw [snapshot_markRow]
    exact h.readable r' hr'

end Sound

/-! ## Reading a level -/

/-- Rows whose payloads can be read are read, in order and with their depth. -/
theorem mapM_readSnapshot (depth : Nat) (status : Status) (rows : List FrontierRow)
    (h : ∀ r ∈ rows, (Json.read? r.snapshot).isSome) :
    ∃ es : List FrontierEntry,
      (rows.mapM fun r => do return ⟨r.id, depth, status, ← readSnapshot r⟩ : Except StoreError _) =
        .ok es ∧
      es.map (·.id) = rows.map (·.id) ∧ ∀ e ∈ es, e.depth = depth := by
  induction rows with
  | nil => exact ⟨[], rfl, rfl, by simp⟩
  | cons r rows ih =>
    obtain ⟨es, hes, hids, hdepth⟩ := ih fun r' hr => h r' (List.mem_cons_of_mem _ hr)
    obtain ⟨v, hv⟩ := Option.isSome_iff_exists.mp (h r List.mem_cons_self)
    have hread : readSnapshot r = .ok v := by simp [readSnapshot, hv]
    refine ⟨⟨r.id, depth, status, v⟩ :: es, ?_, by simp [hids], ?_⟩
    · rw [List.mapM_cons, hes, hread]
      rfl
    · simpa using hdepth

/-- The entries of a level are the ids that are pending there. -/
theorem Sound.entriesAt (h : s.Sound) (k : Nat) :
    ∃ es, s.entriesAt k .unvisited = .ok es ∧ (∀ e ∈ es, e.depth = k ∧ s.chart.Pending k e.id) ∧
      ∀ x, s.chart.Pending k x → ∃ e ∈ es, e.id = x := by
  obtain ⟨t, ht, -⟩ := h.unblocked
  have hrows := rows_of_frontier ht
  obtain ⟨es, hes, hids, hdepth⟩ := mapM_readSnapshot k .unvisited
    (s.rows.filter fun r => r.depth = (k : Int) && r.code = Status.unvisited.code)
    fun r hr => h.readable r (List.mem_of_mem_filter hr)
  refine ⟨es, ?_, fun e he => ⟨hdepth e he, ?_⟩, fun x hx => ?_⟩
  · rw [hrows] at hes
    simpa [Store.entriesAt, frontierTable, ht, bind, Except.bind] using hes
  · have hmem : e.id ∈ es.map (·.id) := List.mem_map_of_mem he
    rw [hids] at hmem
    obtain ⟨r, hr, hre⟩ := List.mem_map.mp hmem
    obtain ⟨hr, hlevel⟩ := List.mem_filter.mp hr
    simp only [Bool.and_eq_true, decide_eq_true_eq] at hlevel
    rw [Chart.Pending, ← hre, chart_of_mem h.keyed hr, hlevel.1, hlevel.2]
  · obtain ⟨r, hr, rfl, hd, hc⟩ := exists_row_of_chart hx
    have hmem : r.id ∈ es.map (·.id) := by
      rw [hids]
      exact List.mem_map_of_mem (List.mem_filter.mpr ⟨hr, by simp [hd, hc]⟩)
    exact List.mem_map.mp hmem

end CatalogCrawl.Store
