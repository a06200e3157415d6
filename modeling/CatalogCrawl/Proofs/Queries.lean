import CatalogCrawl.Proofs.StoreEvolution
import Mathlib.Data.List.Forall2

/-! # Queries row by row

A query picks rows of a table and reads them one after the other. It succeeds exactly if the table
is there and each of these rows can be read, and then its answer stands for them row by row, in
their order. Rows that it does not pick make no difference. -/

namespace CatalogCrawl

section Traversal

variable {α β ε : Type} {f : α → Except ε β} {xs : List α} {ys : List β}

theorem mapM_eq_ok_iff : xs.mapM f = .ok ys ↔ List.Forall₂ (fun x y => f x = .ok y) xs ys := by
  induction xs generalizing ys with
  | nil => cases ys <;> simp [pure, Except.pure]
  | cons x xs ih =>
    rw [List.mapM_cons]
    cases hx : f x with
    | error e => cases ys <;> simp [bind, Except.bind, hx]
    | ok y =>
      cases hrest : xs.mapM f with
      | error e => cases ys <;> simp [bind, Except.bind, hx, ← ih, hrest]
      | ok rest => cases ys <;> simp [bind, Except.bind, pure, Except.pure, hx, ← ih, hrest]

theorem exists_of_forall₂ {R : α → β → Prop} (h : List.Forall₂ R xs ys) {x : α} (hx : x ∈ xs) :
    ∃ y ∈ ys, R x y := by
  induction h with
  | nil => cases hx
  | cons hfirst _ ih =>
    rcases List.mem_cons.mp hx with rfl | hx
    · exact ⟨_, List.mem_cons_self, hfirst⟩
    · obtain ⟨y, hy, hrel⟩ := ih hx
      exact ⟨y, List.mem_cons_of_mem _ hy, hrel⟩

theorem exists_mapM_eq_ok_iff : (∃ ys, xs.mapM f = .ok ys) ↔ ∀ x ∈ xs, ∃ y, f x = .ok y := by
  constructor
  · rintro ⟨ys, hys⟩ x hx
    obtain ⟨y, -, hy⟩ := exists_of_forall₂ (mapM_eq_ok_iff.mp hys) hx
    exact ⟨y, hy⟩
  · intro h
    induction xs with
    | nil => exact ⟨[], rfl⟩
    | cons x xs ih =>
      obtain ⟨y, hy⟩ := h x List.mem_cons_self
      obtain ⟨ys, hys⟩ := ih fun x' hx' => h x' (List.mem_cons_of_mem _ hx')
      exact ⟨y :: ys, mapM_eq_ok_iff.mpr (.cons hy (mapM_eq_ok_iff.mp hys))⟩

/-- The error of a traversal is the error at one of the elements. -/
theorem exists_of_mapM_eq_error {e : ε} (h : xs.mapM f = .error e) : ∃ x ∈ xs, f x = .error e := by
  induction xs with
  | nil => cases h
  | cons x xs ih =>
    rw [List.mapM_cons] at h
    cases hx : f x with
    | error e' =>
      rw [hx] at h
      cases h
      exact ⟨x, List.mem_cons_self, hx⟩
    | ok y =>
      cases hrest : xs.mapM f with
      | error e' =>
        rw [hx, hrest] at h
        cases h
        obtain ⟨x', hx', he⟩ := ih hrest
        exact ⟨x', List.mem_cons_of_mem _ hx', he⟩
      | ok ys =>
        rw [hx, hrest] at h
        cases h

end Traversal

/-- The payload of the row can be read. -/
def FrontierRow.Readable (r : FrontierRow) : Prop := (Json.read? r.snapshot).isSome = true

instance (r : FrontierRow) : Decidable r.Readable := inferInstanceAs (Decidable (_ = true))

/-- The details of the row can be read. -/
def InfoRow.Readable (r : InfoRow) : Prop := (Json.read? r.detail).isSome = true

instance (r : InfoRow) : Decidable r.Readable := inferInstanceAs (Decidable (_ = true))

namespace Store

variable {s : Store}

theorem frontierTable_of_isSome (h : s.frontier.isSome) :
    ∃ t, s.frontierTable = .ok t ∧ t.rows = s.rows := by
  obtain ⟨t, ht⟩ := Option.isSome_iff_exists.mp h
  exact ⟨t, by simp [frontierTable, ht], (rows_of_frontier ht).symm⟩

theorem infoTable_of_isSome (h : s.info.isSome) :
    ∃ t, s.infoTable = .ok t ∧ t.rows = s.infoRows := by
  obtain ⟨t, ht⟩ := Option.isSome_iff_exists.mp h
  exact ⟨t, by simp [infoTable, ht], (infoRows_of_info ht).symm⟩

/-! ## The frontier -/

/-- The rows with a depth and a status. -/
def rowsAt (depth : Nat) (status : Status) (s : Store) : List FrontierRow :=
  s.rows.filter fun r => r.depth = (depth : Int) && r.code = status.code

theorem mem_rowsAt {depth : Nat} {status : Status} {r : FrontierRow} :
    r ∈ s.rowsAt depth status ↔ r ∈ s.rows ∧ r.depth = (depth : Int) ∧ r.code = status.code := by
  simp [rowsAt]

/-- A row read as an entry. -/
def readEntry (depth : Nat) (status : Status) (r : FrontierRow) : Except StoreError FrontierEntry :=
  (readSnapshot r).map fun v => ⟨r.id, depth, status, v⟩

/-- A row is read if its payload can be. -/
theorem readEntry_eq_ok_iff {depth : Nat} {status : Status} {r : FrontierRow} {e : FrontierEntry} :
    readEntry depth status r = .ok e ↔
      ∃ v, Json.read? r.snapshot = some v ∧ e = ⟨r.id, depth, status, v⟩ := by
  unfold readEntry readSnapshot
  cases Json.read? r.snapshot <;> simp [Except.map, eq_comm]

theorem exists_readEntry_iff (depth : Nat) (status : Status) {r : FrontierRow} :
    (∃ e, readEntry depth status r = .ok e) ↔ r.Readable := by
  simp [readEntry_eq_ok_iff, FrontierRow.Readable, Option.isSome_iff_exists]

theorem entriesAt_eq_mapM (h : s.frontier.isSome) (depth : Nat) (status : Status) :
    s.entriesAt depth status = (s.rowsAt depth status).mapM (readEntry depth status) := by
  obtain ⟨t, ht, hrows⟩ := frontierTable_of_isSome h
  unfold entriesAt rowsAt
  rw [ht, ← hrows]
  rfl

/-- The rows with a depth and a status are read if all of them can be, each as an entry
with its payload. -/
theorem entriesAt_of_readable (h : s.frontier.isSome) {depth : Nat} {status : Status}
    (hread : ∀ r ∈ s.rowsAt depth status, r.Readable) :
    ∃ es, s.entriesAt depth status = .ok es ∧
      List.Forall₂ (fun r e => readEntry depth status r = .ok e) (s.rowsAt depth status) es := by
  obtain ⟨es, hes⟩ := exists_mapM_eq_ok_iff.mpr fun r hr =>
    (exists_readEntry_iff depth status).mpr (hread r hr)
  exact ⟨es, (entriesAt_eq_mapM h depth status).trans hes, mapM_eq_ok_iff.mp hes⟩

/-! ## Details -/

/-- The detail rows that pass a filter. -/
def matching (f : ExportFilter) (s : Store) : List InfoRow := s.infoRows.filter f.accepts

theorem mem_matching {f : ExportFilter} {row : InfoRow} :
    row ∈ s.matching f ↔
      row ∈ s.infoRows ∧ row.free = InfoRow.flag f.onlyFree ∧ f.minInstalls ≤ row.minInstalls := by
  simp [matching, ExportFilter.accepts]

theorem infoMatching_eq_mapM (h : s.info.isSome) (f : ExportFilter) :
    s.infoMatching f = (s.matching f).mapM readInfo := by
  obtain ⟨t, ht, hrows⟩ := infoTable_of_isSome h
  unfold infoMatching matching
  rw [ht, ← hrows]
  rfl

theorem readInfo_eq_ok_iff {row : InfoRow} {r : InfoRecord} :
    readInfo row = .ok r ↔ ∃ v, Json.read? row.detail = some v ∧
      r = ⟨row.id, row.installRange, row.minInstalls, row.maxInstalls, row.free != 0, v⟩ := by
  unfold readInfo
  cases Json.read? row.detail <;> simp [eq_comm]

/-- A query succeeds if all the rows it is to give can be read. -/
theorem infoMatching_eq_ok_iff {f : ExportFilter} {rs : List InfoRecord} :
    s.infoMatching f = .ok rs ↔ s.info.isSome ∧
      List.Forall₂ (fun row r => readInfo row = .ok r) (s.matching f) rs := by
  cases hi : s.info with
  | none => simp [infoMatching, infoTable, hi, bind, Except.bind]
  | some t =>
    have hsome : s.info.isSome = true := by simp [hi]
    rw [infoMatching_eq_mapM hsome, mapM_eq_ok_iff]
    simp

theorem exists_readInfo_iff {row : InfoRow} : (∃ r, readInfo row = .ok r) ↔ row.Readable := by
  simp [readInfo_eq_ok_iff, InfoRow.Readable, Option.isSome_iff_exists]

theorem exists_infoMatching_iff {f : ExportFilter} :
    (∃ rs, s.infoMatching f = .ok rs) ↔ s.info.isSome ∧ ∀ row ∈ s.matching f, row.Readable := by
  simp only [infoMatching_eq_ok_iff, exists_and_left, ← mapM_eq_ok_iff, exists_mapM_eq_ok_iff,
    exists_readInfo_iff]

end Store

end CatalogCrawl
