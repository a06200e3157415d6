import CatalogCrawl.Proofs.Atomicity
import CatalogCrawl.Proofs.JsonRoundTrip
import CatalogCrawl.Proofs.SeedPages
import CatalogCrawl.Proofs.StatusCounts

/-! # Stored payloads read back

A payload is stored as text and read from it whenever its row is asked for. A row that an insertion
has created stays the only one of its id and keeps its text, whatever is done to the store later
(`Store.Bears.later`), so it is found with the payload it was given. A store that has only ever been
given payloads that read back holds no row that cannot be read (`Store.Written.legible`). -/

namespace CatalogCrawl.Store

variable {s s' : Store} {id : String} {depth : Nat} {v : Json}

/-! ## A frontier row and its payload -/

/-- The frontier has the id, and its row has this depth and this payload. -/
structure Bears (s : Store) (id : String) (depth : Nat) (v : Json) : Prop where
  present : id ∈ s.ids
  row : ∀ r ∈ s.rows, r.id = id →
    r.depth = (depth : Int) ∧ r.snapshot = v.text ∧ ∃ status : Status, r.code = status.code

theorem Adds.bears {added : List FrontierRow} (h : s.Adds s' added)
    (hnew : newRow id depth v ∈ added) : s'.Bears id depth v where
  present := by
    rw [h.ids]
    exact List.mem_append_right _ (List.mem_map_of_mem hnew)
  row r hr hid := by
    rw [h.rows] at hr
    rcases List.mem_append.mp hr with hold | hadded
    · have hmem : r.id ∈ s.ids := List.mem_map_of_mem hold
      exact (h.fresh _ hnew (hid ▸ hmem)).elim
    · obtain rfl : r = newRow id depth v := List.inj_on_of_nodup_map h.distinct hadded hnew hid
      exact ⟨rfl, rfl, .unvisited, rfl⟩

theorem Bears.mark (h : s.Bears id depth v) (marked : String) (status : Status) :
    (s.markRows marked status).Bears id depth v where
  present := by
    rw [ids_markRows]
    exact h.present
  row r hr hid := by
    rw [rows_markRows] at hr
    obtain ⟨r', hr', rfl⟩ := List.mem_map.mp hr
    obtain ⟨hdepth, htext, hcode⟩ := h.row r' hr' ((id_markRow marked status r').symm.trans hid)
    refine ⟨?_, by rw [snapshot_markRow, htext], ?_⟩
    · unfold markRow
      split <;> exact hdepth
    · unfold markRow
      split
      · exact ⟨status, rfl⟩
      · exact hcode

theorem Bears.touch (h : s.Bears id depth v) (htouch : Touch s s') : s'.Bears id depth v := by
  have hsame (hrows : s'.rows = s.rows) : s'.Bears id depth v :=
    ⟨by rw [ids, hrows]; exact h.present, by rw [hrows]; exact h.row⟩
  obtain ⟨given, hoffers⟩ := htouch.offers
  obtain ⟨added, hadd, -⟩ | ⟨marked, status, rfl⟩ | ⟨row, -, hf, -⟩ | ⟨hrows, -⟩ := hoffers.effect
  · -- an added row has a new id, so it is no second row of this one
    refine ⟨by rw [hadd.ids]; exact List.mem_append_left _ h.present, fun r hr hid => ?_⟩
    rw [hadd.rows] at hr
    rcases List.mem_append.mp hr with hold | hnew
    · exact h.row r hold hid
    · exact (hadd.fresh r hnew (hid ▸ h.present)).elim
  · exact h.mark marked status
  · exact hsame (rows_congr hf)
  · exact hsame hrows

/-- The row stays as it is but for its status. -/
theorem Bears.later (h : s.Bears id depth v) (hlater : Outside s s') : s'.Bears id depth v := by
  induction hlater with
  | refl => exact h
  | tail _ htouch ih => exact ih.touch htouch

/-- The id is found at this depth and status, and if the other rows there can be read,
with this payload. -/
def Returns (s : Store) (id : String) (depth : Nat) (status : Status) (v : Json) : Prop :=
  (∃ r ∈ s.rowsAt depth status, r.id = id) ∧
    ((∀ r ∈ s.rowsAt depth status, r.id ≠ id → r.Readable) →
      ∃ es, s.entriesAt depth status = .ok es ∧ ⟨id, depth, status, v⟩ ∈ es)

/-- A row that bears a payload returns it when its level is read, with the status that it has. -/
theorem Bears.returns (h : s.Bears id depth v) (hv : v.Exact Json.maxDepth) {r : FrontierRow}
    (hr : r ∈ s.rows) (hid : r.id = id) {status : Status} (hcode : r.code = status.code) :
    s.Returns id depth status v := by
  obtain ⟨hdepth, htext, -⟩ := h.row r hr hid
  have hat : r ∈ s.rowsAt depth status := mem_rowsAt.mpr ⟨hr, hdepth, hcode⟩
  refine ⟨⟨r, hat, hid⟩, fun hothers => ?_⟩
  have hsome : s.frontier.isSome := by
    cases hf : s.frontier with
    | none => simp [rows, hf] at hr
    | some t => rfl
  have hread : ∀ r ∈ s.rowsAt depth status, r.Readable := by
    intro r hr
    by_cases hid : r.id = id
    · obtain ⟨-, htext, -⟩ := h.row r (mem_rowsAt.mp hr).1 hid
      rw [FrontierRow.Readable, htext, Json.read?_text hv]
      rfl
    · exact hothers r hr hid
  obtain ⟨es, hes, hentries⟩ := entriesAt_of_readable hsome hread
  obtain ⟨e, he, hentry⟩ := exists_of_forall₂ hentries hat
  obtain ⟨v', hv', rfl⟩ := readEntry_eq_ok_iff.mp hentry
  rw [htext, Json.read?_text hv] at hv'
  cases hv'
  exact ⟨es, hes, hid ▸ he⟩

/-- An id whose row has been created is found at its depth: unvisited at first, later
with its status. -/
theorem Adds.returns {added : List FrontierRow} (h : s.Adds s' added)
    (hnew : newRow id depth v ∈ added) (hv : v.Exact Json.maxDepth) :
    s'.Returns id depth .unvisited v ∧ ∀ s'', Outside s' s'' →
      ∃ status, s''.Returns id depth status v := by
  have hbears := h.bears hnew
  refine ⟨hbears.returns hv (h.rows ▸ List.mem_append_right _ hnew) rfl rfl, fun s'' hlater => ?_⟩
  have hlast := hbears.later hlater
  obtain ⟨r, hr, hid⟩ := List.mem_map.mp hlast.present
  obtain ⟨-, -, status, hcode⟩ := hlast.row r hr hid
  exact ⟨status, hlast.returns hv hr hid hcode⟩

theorem adds_of_insertIfAbsent (h : insertIfAbsent id depth v s = (.ok true, s')) :
    s.Adds s' [newRow id depth v] := by
  obtain ⟨hid, hs, hins⟩ | ⟨-, hins⟩ | ⟨e, hins⟩ := insertIfAbsent_cases id depth v s <;>
    rw [hins] at h <;> cases h
  exact .single depth v hid hs

/-- A page adds a row for each of its new items, in their order. -/
theorem adds_of_insertPage {items : List Item} {n : Nat} (hne : items ≠ [])
    (h : insertPage items s = (.ok n, s')) :
    s.Adds s' ((Seeding.newItems s.ids items).map seedRow) := by
  obtain ⟨t, added, hins, hadd, -⟩ | ⟨e, hins⟩ := insertPage_cases items s
  · rw [hins] at h
    cases h
    obtain ⟨hadmits, hins'⟩ | ⟨-, e, hins'⟩ := insertPage_eq hne s
    · rw [hins] at hins'
      obtain ⟨-, rfl⟩ := Prod.mk.inj hins'
      obtain ⟨-, t, ht, -⟩ := hadmits
      -- both descriptions of the page give the rows behind the old ones
      have hrows := hadd.rows
      rw [rows_append (by simp [ht]), List.append_cancel_left_eq] at hrows
      exact hrows ▸ hadd
    · rw [hins] at hins'
      cases hins'
  · rw [hins] at h
    cases h

/-! ## Details -/

/-- The details are there, under an id that no other row has. -/
structure Details (s : Store) (r : InfoRecord) : Prop where
  present : infoRow r ∈ s.infoRows
  row : ∀ row ∈ s.infoRows, row.id = r.id → row = infoRow r

theorem details_of_insertInfo {r : InfoRecord} (h : insertInfo r s = (.ok (), s')) :
    s'.Details r := by
  obtain ⟨hopen, -, hid, hins⟩ | ⟨-, -, hins⟩ | ⟨-, fault, hins⟩ := insertInfo_eq r s <;>
    rw [hins] at h <;> cases h
  have hrows : (s.appendInfo [infoRow r]).infoRows = s.infoRows ++ [infoRow r] :=
    infoRows_appendInfo hopen.2
  refine ⟨by simp [hrows], fun row hrow hrowid => ?_⟩
  rw [hrows] at hrow
  rcases List.mem_append.mp hrow with hold | hnew
  · have hmem : row.id ∈ s.detailed := List.mem_map_of_mem hold
    exact (hid (hrowid ▸ hmem)).elim
  · exact List.mem_singleton.mp hnew

theorem Details.touch {r : InfoRecord} (h : s.Details r) (htouch : Touch s s') : s'.Details r := by
  have hsame (hrows : s'.infoRows = s.infoRows) : s'.Details r :=
    ⟨by rw [hrows]; exact h.present, by rw [hrows]; exact h.row⟩
  obtain ⟨given, hoffers⟩ := htouch.offers
  obtain ⟨added, hadd, -⟩ | ⟨marked, status, rfl⟩ | ⟨row, hfresh, -, hrows⟩ | ⟨-, hrows⟩ :=
    hoffers.effect
  · exact hsame (infoRows_congr hadd.info)
  · exact hsame rfl
  · refine ⟨by rw [hrows]; exact List.mem_append_left _ h.present, fun row' hrow' hid => ?_⟩
    rw [hrows] at hrow'
    rcases List.mem_append.mp hrow' with hold | hnew
    · exact h.row row' hold hid
    · rw [List.mem_singleton.mp hnew] at hid
      exact (hfresh (hid ▸ List.mem_map_of_mem h.present)).elim
  · exact hsame hrows

theorem Details.later {r : InfoRecord} (h : s.Details r) (hlater : Outside s s') :
    s'.Details r := by
  induction hlater with
  | refl => exact h
  | tail _ htouch ih => exact ih.touch htouch

theorem readInfo_infoRow {r : InfoRecord} (h : r.detail.Exact Json.maxDepth) :
    readInfo (infoRow r) = .ok r := by
  refine readInfo_eq_ok_iff.mpr ⟨r.detail, Json.read?_text h, ?_⟩
  cases hfree : r.isFree <;> simp [infoRow, InfoRow.flag, hfree] <;> simp [← hfree]

/-- Details are found under any filter that they pass, if the others that pass it can be read. -/
theorem Details.infoMatching {r : InfoRecord} (h : s.Details r) (hv : r.detail.Exact Json.maxDepth)
    {f : ExportFilter} (hfree : f.onlyFree = r.isFree) (hmin : f.minInstalls ≤ r.minInstalls)
    (hothers : ∀ row ∈ s.matching f, row.id ≠ r.id → row.Readable) :
    ∃ rs, s.infoMatching f = .ok rs ∧ r ∈ rs := by
  have hmatch : infoRow r ∈ s.matching f := mem_matching.mpr ⟨h.present, by rw [hfree]; rfl, hmin⟩
  have hread : ∀ row ∈ s.matching f, row.Readable := by
    intro row hrow
    by_cases hid : row.id = r.id
    · rw [h.row row (mem_matching.mp hrow).1 hid]
      exact exists_readInfo_iff.mp ⟨r, readInfo_infoRow hv⟩
    · exact hothers row hrow hid
  have hsome : s.info.isSome := by
    cases hi : s.info with
    | none => simpa [infoRows, hi] using h.present
    | some t => rfl
  obtain ⟨rs, hrs⟩ := exists_infoMatching_iff.mpr ⟨hsome, hread⟩
  obtain ⟨r', hr', hrow⟩ := exists_of_forall₂ (infoMatching_eq_ok_iff.mp hrs).2 hmatch
  rw [readInfo_infoRow hv] at hrow
  cases hrow
  exact ⟨rs, hrs, hr'⟩

/-! ## Stores that are only given payloads that read back -/

/-- The payloads that the operation is given read back. -/
def Command.Exact : {α : Type} → Command α → Prop
  | _, insertIfAbsent _ _ snapshot => snapshot.Exact Json.maxDepth
  | _, insertPage items => ∀ item ∈ items, item.raw.Exact Json.maxDepth
  | _, insertInfo r => r.detail.Exact Json.maxDepth
  | _, _ => True

/-- Stores that start without rows and are written by the operations only. In between, tables may go
missing as long as they are empty, and writes may be blocked or not. -/
inductive Written : Store → Prop
  | start {s : Store} (hrows : s.rows = []) (hinfo : s.infoRows = []) : Written s
  | perform {s : Store} {α : Type} (op : Command α) (hop : op.Exact) (h : Written s) :
      Written (op.perform s).2
  | faults {s s' : Store} (hrows : s'.rows = s.rows) (hinfo : s'.infoRows = s.infoRows)
      (h : Written s) : Written s'

/-- Every payload can be read, and every status code is known. -/
structure Legible (s : Store) : Prop where
  frontier : ∀ r ∈ s.rows, r.Readable ∧ ∃ status : Status, r.code = status.code
  info : ∀ row ∈ s.infoRows, row.Readable

theorem readable_newRow (id : String) (depth : Nat) (h : v.Exact Json.maxDepth) :
    (newRow id depth v).Readable := by
  simp [FrontierRow.Readable, newRow, Json.read?_text h]

theorem Legible.adds {added : List FrontierRow} (h : s.Legible) (hadd : s.Adds s' added)
    (hread : ∀ r ∈ added, r.Readable) : s'.Legible where
  frontier r hr := by
    rw [hadd.rows] at hr
    rcases List.mem_append.mp hr with hold | hnew
    · exact h.frontier r hold
    · exact ⟨hread r hnew, .unvisited, hadd.unvisited r hnew⟩
  info := by
    rw [infoRows_congr hadd.info]
    exact h.info

theorem Legible.markRows (h : s.Legible) (marked : String) (status : Status) :
    (s.markRows marked status).Legible where
  frontier r hr := by
    rw [rows_markRows] at hr
    obtain ⟨r', hr', rfl⟩ := List.mem_map.mp hr
    obtain ⟨hread, hcode⟩ := h.frontier r' hr'
    refine ⟨by rwa [FrontierRow.Readable, snapshot_markRow], ?_⟩
    unfold markRow
    split
    · exact ⟨status, rfl⟩
    · exact hcode
  info := h.info

theorem Legible.perform (h : s.Legible) {α : Type} (op : Command α) (hop : op.Exact) :
    (op.perform s).2.Legible := by
  cases op with
  | insertIfAbsent id depth v =>
    obtain ⟨hid, hs, hins⟩ | ⟨-, hins⟩ | ⟨e, hins⟩ := insertIfAbsent_cases id depth v s <;>
      rw [Command.perform, hins]
    · exact h.adds (.single depth v hid hs)
        (List.forall_mem_singleton.mpr (readable_newRow id depth hop))
    · exact h
    · exact h
  | insertPage items =>
    obtain ⟨t, added, hins, hadd, hsub⟩ | ⟨e, hins⟩ := insertPage_cases items s <;>
      rw [Command.perform, hins]
    · refine h.adds hadd fun r hr => ?_
      obtain ⟨item, hitem, rfl⟩ := List.mem_map.mp (hsub.mem hr)
      exact readable_newRow _ _ (hop item hitem)
    · exact h
  | markStatus id status =>
    obtain ⟨hit, hmark⟩ | ⟨e, hmark⟩ := markStatus_cases id status s <;> rw [Command.perform, hmark]
    · exact h.markRows id status
    · exact h
  | insertInfo r =>
    obtain ⟨hopen, -, -, hins⟩ | ⟨-, -, hins⟩ | ⟨-, fault, hins⟩ := insertInfo_eq r s <;>
      rw [Command.perform, hins]
    · refine ⟨h.frontier, fun row hrow => ?_⟩
      rcases List.mem_append.mp (mem_infoRows_appendInfo hrow) with hold | hnew
      · exact h.info row hold
      · rw [List.mem_singleton.mp hnew]
        exact exists_readInfo_iff.mp ⟨r, readInfo_infoRow hop⟩
    · exact h
    · exact h
  | entriesAt | contains | idsMissingInfo | missingInfoCount | summary | frontierCount | infoMatching
  | infoCount | checkpoint => exact h

theorem Written.legible (h : s.Written) : s.Legible := by
  induction h with
  | start hrows hinfo => exact ⟨by simp [hrows], by simp [hinfo]⟩
  | perform op hop _ ih => exact ih.perform op hop
  | faults hrows hinfo _ ih =>
    exact ⟨by rw [hrows]; exact ih.frontier, by rw [hinfo]; exact ih.info⟩

/-! ## Operations that find no row unreadable -/

/-- The answer is not that a row cannot be read. -/
def Clean {α : Type} (answer : Except StoreError α) : Prop :=
  ∀ id reason, answer ≠ .error (.corrupt id reason)

section Clean

variable {α β : Type}

theorem clean_ok (a : α) : Clean (.ok a) := nofun

theorem clean_engine (fault : EngineFault) :
    Clean (.error (.engine fault) : Except StoreError α) := by
  simp [Clean]

/-- An error that is passed on. -/
theorem Clean.error {answer : Except StoreError α} {e : StoreError} (h : Clean answer)
    (he : answer = .error e) : Clean (.error e : Except StoreError β) := by
  rintro id reason ⟨⟩
  exact h id reason he

theorem Clean.bind {answer : Except StoreError α} {f : α → Except StoreError β} (h : Clean answer)
    (hf : ∀ a, answer = .ok a → Clean (f a)) : Clean (answer >>= f) := by
  cases answer with
  | error e => exact h.error rfl
  | ok a => exact hf a rfl

theorem clean_mapM {f : α → Except StoreError β} {xs : List α} (h : ∀ x ∈ xs, ∃ y, f x = .ok y) :
    Clean (xs.mapM f) := by
  obtain ⟨ys, hys⟩ := exists_mapM_eq_ok_iff.mpr h
  rw [hys]
  exact clean_ok ys

theorem clean_frontierTable (s : Store) : Clean s.frontierTable := by
  unfold frontierTable
  split
  · exact clean_ok _
  · exact clean_engine _

theorem clean_infoTable (s : Store) : Clean s.infoTable := by
  unfold infoTable
  split
  · exact clean_ok _
  · exact clean_engine _

/-- A write that reaches its table fails only as the write to the table does. -/
theorem clean_writing {ρ : Type} {table : Store → Except StoreError (Table ρ)}
    {f : Table ρ → Action α} (htable : Clean (table s)) (hf : ∀ t, Clean (f t s).1) :
    Clean (writing table f s).1 := by
  obtain ⟨t, -, -, hwrite⟩ | ⟨e, he | ⟨-, rfl⟩, hwrite⟩ := writing_cases table f s <;> rw [hwrite]
  · exact hf t
  · exact htable.error he
  · exact clean_engine _

theorem clean_insertIfAbsent (id : String) (depth : Nat) (v : Json) (s : Store) :
    Clean (insertIfAbsent id depth v s).1 := by
  refine clean_writing (clean_frontierTable s) fun t => ?_
  split
  · exact clean_engine _
  · split <;> exact clean_ok _

theorem clean_insertEach (items : List Item) (n : Nat) (s : Store) :
    Clean (insertEach items n s).1 := by
  induction items generalizing n s with
  | nil => exact clean_ok n
  | cons item rest ih =>
    have hitem := clean_insertIfAbsent item.id 0 item.raw s
    unfold insertEach
    split
    · exact ih _ _
    · next hins => exact hitem.error (congrArg Prod.fst hins)

theorem clean_insertPage (items : List Item) (s : Store) : Clean (insertPage items s).1 := by
  unfold insertPage
  split
  · next ht => exact (clean_frontierTable s).error ht
  · split
    · exact clean_ok _
    · next heach => exact (clean_insertEach items 0 s).error (congrArg Prod.fst heach)

theorem clean_markStatus (id : String) (status : Status) (s : Store) :
    Clean (markStatus id status s).1 := by
  refine clean_writing (clean_frontierTable s) fun t => ?_
  dsimp only
  split
  · split
    · exact clean_engine _
    · exact clean_ok _
  · exact clean_ok _

theorem clean_insertInfo (r : InfoRecord) (s : Store) : Clean (insertInfo r s).1 := by
  obtain ⟨-, -, -, hins⟩ | ⟨-, -, hins⟩ | ⟨-, fault, hins⟩ := insertInfo_eq r s <;> rw [hins]
  · exact clean_ok ()
  · simp [Clean]
  · exact clean_engine fault

end Clean

theorem Legible.clean_entriesAt (h : s.Legible) (depth : Nat) (status : Status) :
    Clean (s.entriesAt depth status) := by
  refine (clean_frontierTable s).bind fun t ht => clean_mapM fun r hr => ?_
  have hr := (List.mem_filter.mp hr).1
  rw [← rows_of_frontier (frontierTable_eq_ok ht)] at hr
  exact (exists_readEntry_iff depth status).mpr (h.frontier r hr).1

theorem Legible.clean_infoMatching (h : s.Legible) (f : ExportFilter) :
    Clean (s.infoMatching f) := by
  refine (clean_infoTable s).bind fun t ht => clean_mapM fun row hrow => ?_
  have hrow := (List.mem_filter.mp hrow).1
  rw [← infoRows_of_info (infoTable_eq_ok ht)] at hrow
  exact exists_readInfo_iff.mpr (h.info row hrow)

/-- A depth may be out of range, but no status is unknown. -/
theorem Legible.clean_summary (h : s.Legible) : Clean s.summary := by
  refine (clean_frontierTable s).bind fun t ht => ?_
  have hrows : s.rows = t.rows := rows_of_frontier (frontierTable_eq_ok ht)
  rintro id reason herr
  obtain ⟨⟨d, c, n⟩, hg, herr⟩ := exists_of_mapM_eq_error herr
  obtain ⟨r, hr, -, hcode⟩ := exists_row_of_mem_groups hg
  obtain ⟨-, status, hstatus⟩ := h.frontier r (hrows ▸ hr)
  obtain rfl : c = status.code := hcode.symm.trans hstatus
  dsimp only [readGroup] at herr
  split at herr
  · cases herr
  · rw [Status.ofCode?_code] at herr
    cases herr

theorem Legible.clean_perform (h : s.Legible) {α : Type} (op : Command α) :
    Clean (op.perform s).1 := by
  have hfrontier := clean_frontierTable s
  have hinfo := clean_infoTable s
  cases op with
  | insertIfAbsent id depth v => exact clean_insertIfAbsent id depth v s
  | insertPage items => exact clean_insertPage items s
  | markStatus id status => exact clean_markStatus id status s
  | insertInfo r => exact clean_insertInfo r s
  | entriesAt depth status => exact h.clean_entriesAt depth status
  | infoMatching f => exact h.clean_infoMatching f
  | summary => exact h.clean_summary
  | contains | frontierCount => exact hfrontier.bind fun _ _ => clean_ok _
  | infoCount => exact hinfo.bind fun _ _ => clean_ok _
  | idsMissingInfo | missingInfoCount =>
    exact hfrontier.bind fun _ _ => hinfo.bind fun _ _ => clean_ok _
  | checkpoint =>
    unfold Command.perform reading checkpoint
    dsimp only
    split
    · exact clean_engine _
    · exact clean_ok ()

/-- Payloads without doubles that nest no deeper than the reader goes come back as they were put in,
at once and at any later time. A row that another writer has made unreadable can stand in the way of
a query that picks it; in a store that has only ever been given such payloads there is none. -/
theorem payloads_read_back :
    (∀ s s' id depth v, insertIfAbsent id depth v s = (.ok true, s') → v.Exact Json.maxDepth →
      s'.Returns id depth .unvisited v ∧
        ∀ s'', Outside s' s'' → ∃ status, s''.Returns id depth status v) ∧
    (∀ s s' items n, insertPage items s = (.ok n, s') →
      ∀ item ∈ Seeding.newItems s.ids items, item.raw.Exact Json.maxDepth →
        s'.Returns item.id 0 .unvisited item.raw ∧
          ∀ s'', Outside s' s'' → ∃ status, s''.Returns item.id 0 status item.raw) ∧
    (∀ s s' r, insertInfo r s = (.ok (), s') → r.detail.Exact Json.maxDepth →
      ∀ s'', Outside s' s'' →
        ∀ f : ExportFilter, f.onlyFree = r.isFree → f.minInstalls ≤ r.minInstalls →
        (∀ row ∈ s''.matching f, row.id ≠ r.id → row.Readable) →
          ∃ rs, s''.infoMatching f = .ok rs ∧ r ∈ rs) ∧
    ∀ s : Store, s.Written → ∀ (α : Type) (op : Command α) (id reason : String),
      (op.perform s).1 ≠ .error (.corrupt id reason) := by
  refine ⟨?_, ?_, ?_, ?_⟩
  · intro s s' id depth v hins hv
    exact (adds_of_insertIfAbsent hins).returns List.mem_cons_self hv
  · intro s s' items n hins item hitem hv
    have hne : items ≠ [] := by
      rintro rfl
      cases hitem
    exact (adds_of_insertPage hne hins).returns (List.mem_map_of_mem hitem) hv
  · intro s s' r hins hv s'' hlater f hfree hmin hothers
    exact ((details_of_insertInfo hins).later hlater).infoMatching hv hfree hmin hothers
  · intro s hs α op
    exact hs.legible.clean_perform op

/-- The least and the largest whole number, a string that has to be escaped, keys out of order
and one twice. -/
def motley : Json :=
  .mkObj [("z", .int Json.minSigned),
    ("a", .arr [.int Json.maxUnsigned, .str "\x01\"\\🙂", .mkObj []]), ("z", .null)]

theorem exact_motley : motley.Exact Json.maxDepth := by
  refine Json.Exact.mkObj (n := 126) fun f hf => ?_
  simp only [List.mem_cons, List.not_mem_nil, or_false] at hf
  obtain rfl | rfl | rfl := hf
  · exact .int (by decide) (by decide)
  · refine .arr (n := 125) fun v hv => ?_
    simp only [List.mem_cons, List.not_mem_nil, or_false] at hv
    obtain rfl | rfl | rfl := hv
    · exact .int (by decide) (by decide)
    · exact .str _
    · exact .mkObj (n := 124) (List.forall_mem_nil _)
  · exact .null

/-- A page in which an id comes that is there already. -/
def repeating : List Item := [⟨"x", .null⟩, ⟨"y", motley⟩]

def found : InfoRecord := ⟨"y", "10+", 10, 50, true, motley⟩

def gathered : Store :=
  (insertInfo found (insertPage repeating (insertIfAbsent "x" 3 motley empty).2).2).2

theorem written_gathered : gathered.Written := by
  have hinsert : Written (insertIfAbsent "x" 3 motley empty).2 :=
    .perform (.insertIfAbsent "x" 3 motley) exact_motley (.start rfl rfl)
  have hpage : Written (insertPage repeating (insertIfAbsent "x" 3 motley empty).2).2 :=
    .perform (.insertPage repeating)
      (List.forall_mem_cons.mpr ⟨.null, List.forall_mem_singleton.mpr exact_motley⟩) hinsert
  exact .perform (.insertInfo found) exact_motley hpage

/-- An item, a page that has it again among others, and details. -/
theorem payloads_read_back_gathered :
    (∃ status es, gathered.entriesAt 3 status = .ok es ∧ ⟨"x", 3, status, motley⟩ ∈ es) ∧
    (∃ status es, gathered.entriesAt 0 status = .ok es ∧ ⟨"y", 0, status, motley⟩ ∈ es) ∧
    (∃ rs, gathered.infoMatching ⟨true, 10⟩ = .ok rs ∧ found ∈ rs) ∧
    ∀ reason, gathered.summary ≠ .error (.corrupt "depth 3" reason) := by
  obtain ⟨hinsert, hpage, hinfo, hwritten⟩ := payloads_read_back
  have hread := written_gathered.legible
  refine ⟨?_, ?_, ?_, hwritten gathered written_gathered _ .summary "depth 3"⟩
  · obtain ⟨status, -, hreturns⟩ :=
      (hinsert empty _ "x" 3 motley (Prod.ext rfl rfl) exact_motley).2 gathered
        (.tail (.single (.page _ _)) (.info _ _))
    exact ⟨status, hreturns fun r hr _ => (hread.frontier r (mem_rowsAt.mp hr).1).1⟩
  · obtain ⟨status, -, hreturns⟩ :=
      (hpage (insertIfAbsent "x" 3 motley empty).2 _ repeating 1 (Prod.ext rfl rfl) ⟨"y", motley⟩
        List.mem_cons_self exact_motley).2 gathered (.single (.info _ _))
    exact ⟨status, hreturns fun r hr _ => (hread.frontier r (mem_rowsAt.mp hr).1).1⟩
  · exact hinfo _ _ found (Prod.ext rfl rfl) exact_motley gathered .refl ⟨true, 10⟩ rfl (by decide)
      fun row hrow _ => hread.info row (mem_matching.mp hrow).1

end CatalogCrawl.Store
