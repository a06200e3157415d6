import CatalogCrawl.Crawl.World
import CatalogCrawl.Proofs.HeldFile
import CatalogCrawl.Proofs.Rows

/-! # Worlds that differ in how some rows were settled

A row that is an error to one world may be visited to another (`Store.revise`). Nothing that
is asked of a store or done to it depends on which of the two it is: neither is read again,
and both are kept. So what is done in two such worlds has the same outcome in both, and leaves
them so (`World.Twin`). -/

namespace CatalogCrawl

namespace Store

variable {s : Store} {ids : List String} {id : String}

/-- The store with every row of the frontier changed. -/
def mapRows (f : FrontierRow → FrontierRow) (s : Store) : Store :=
  { s with frontier := s.frontier.map fun t => { t with rows := t.rows.map f } }

theorem mapRows_mapRows (f g : FrontierRow → FrontierRow) (s : Store) :
    (s.mapRows f).mapRows g = s.mapRows (g ∘ f) := by
  rcases s with ⟨_ | t, i, l, a⟩ <;> simp [mapRows]

theorem mapRows_congr {f g : FrontierRow → FrontierRow} (h : ∀ r ∈ s.rows, f r = g r) :
    s.mapRows f = s.mapRows g := by
  rcases s with ⟨_ | t, i, l, a⟩
  · rfl
  · have hrows : t.rows.map f = t.rows.map g := List.map_congr_left h
    simp only [mapRows, Option.map_some, hrows]

/-- The row as visited, if it is one of those given. -/
def reviseRow (ids : List String) (r : FrontierRow) : FrontierRow :=
  if r.id ∈ ids then { r with code := Status.visited.code } else r

/-- The store with the rows of some ids visited. -/
def revise (ids : List String) (s : Store) : Store := s.mapRows (reviseRow ids)

@[simp] theorem id_reviseRow (ids : List String) (r : FrontierRow) :
    (reviseRow ids r).id = r.id := by
  unfold reviseRow
  split <;> rfl

@[simp] theorem depth_reviseRow (ids : List String) (r : FrontierRow) :
    (reviseRow ids r).depth = r.depth := by
  unfold reviseRow
  split <;> rfl

theorem reviseRow_of_not_mem {r : FrontierRow} (h : r.id ∉ ids) : reviseRow ids r = r := if_neg h

@[simp] theorem revise_nil (s : Store) : s.revise [] = s := by
  have hrow : reviseRow [] = id := funext fun r => if_neg List.not_mem_nil
  rcases s with ⟨_ | t, i, l, a⟩ <;> simp [revise, mapRows, hrow]

@[simp] theorem rows_revise (ids : List String) (s : Store) :
    (s.revise ids).rows = s.rows.map (reviseRow ids) := by
  cases h : s.frontier <;> simp [revise, mapRows, rows, h]

theorem frontierTable_revise (ids : List String) (s : Store) :
    (s.revise ids).frontierTable =
      s.frontierTable.map fun t => { t with rows := t.rows.map (reviseRow ids) } := by
  cases h : s.frontier <;> simp [frontierTable, revise, mapRows, h, Except.map]

@[simp] theorem hasFrontierId_revise (ids : List String) (t : Table FrontierRow) (id : String) :
    hasFrontierId { t with rows := t.rows.map (reviseRow ids) } id = hasFrontierId t id := by
  simp [hasFrontierId, List.any_map, Function.comp_def]

/-! ## What is asked -/

theorem contains_revise (ids : List String) (id : String) (s : Store) :
    (s.revise ids).contains id = s.contains id := by
  unfold contains
  rw [frontierTable_revise]
  cases s.frontierTable with
  | error e => rfl
  | ok t => simp [bind, Except.bind, Except.map]

theorem idsMissingInfo_revise (ids : List String) (s : Store) :
    (s.revise ids).idsMissingInfo = s.idsMissingInfo := by
  have hinfo : (s.revise ids).infoTable = s.infoTable := rfl
  unfold idsMissingInfo
  rw [frontierTable_revise, hinfo]
  cases s.frontierTable with
  | error e => rfl
  | ok t => simp [bind, Except.bind, Except.map, Function.comp_def]

theorem exportIds_revise (f : ExportFilter) (ids : List String) (s : Store) :
    (s.revise ids).exportIds f = s.exportIds f := rfl

/-- Writes to a store and to its revision are related if they are so on the tables, and if failures
are. -/
theorem writing_revise {ρ α : Type}
    {R : Except StoreError α × Store → Except StoreError α × Store → Prop}
    {table : Store → Except StoreError (Table ρ)} {f f' : Table ρ → Action α}
    {g : Table ρ → Table ρ} (htable : table (s.revise ids) = (table s).map g)
    (hfails : ∀ e, R (.error e, s.revise ids) (.error e, s))
    (hwrites : ∀ t, table s = .ok t → R (f' (g t) (s.revise ids)) (f t s)) :
    R (writing table f' (s.revise ids)) (writing table f s) := by
  have haccess : (s.revise ids).access = s.access := rfl
  unfold writing
  rw [haccess, htable]
  cases ht : table s with
  | error e => exact hfails e
  | ok t =>
    dsimp only [Except.map]
    split
    · exact hwrites t ht
    · exact hfails _

theorem insertInfo_revise (r : InfoRecord) (ids : List String) (s : Store) :
    insertInfo r (s.revise ids) = ((insertInfo r s).1, (insertInfo r s).2.revise ids) := by
  have htable : (s.revise ids).infoTable = s.infoTable.map id := by
    have hsame : (s.revise ids).infoTable = s.infoTable := rfl
    rw [hsame]
    cases s.infoTable <;> rfl
  refine writing_revise (R := fun x y => x = (y.1, y.2.revise ids)) htable (fun _ => rfl)
    fun t _ => ?_
  dsimp only [id]
  split <;> rfl

/-! ## What is done -/

/-- The rows of the ids are there, and are errors. -/
structure Failed (ids : List String) (s : Store) : Prop where
  present : ∀ id ∈ ids, id ∈ s.ids
  code : ∀ r ∈ s.rows, r.id ∈ ids → r.code = Status.error.code

namespace Failed

theorem nil (s : Store) : s.Failed [] := ⟨nofun, nofun⟩

/-- No row of the ids is unvisited, whichever way it was settled. -/
theorem code_ne (h : s.Failed ids) {r : FrontierRow} (hr : r ∈ s.rows) (hid : r.id ∈ ids) :
    r.code ≠ Status.unvisited.code := by
  rw [h.code r hr hid]
  decide

theorem code_reviseRow (h : s.Failed ids) {r : FrontierRow} (hr : r ∈ s.rows) :
    (reviseRow ids r).code = Status.unvisited.code ↔ r.code = Status.unvisited.code := by
  unfold reviseRow
  split
  · next hid =>
    have hcode := h.code_ne hr hid
    have hvisited : Status.visited.code ≠ Status.unvisited.code := by decide
    exact ⟨fun heq => (hvisited heq).elim, fun heq => (hcode heq).elim⟩
  · exact Iff.rfl

theorem adds {s' : Store} {added : List FrontierRow} (h : s.Failed ids) (hadds : s.Adds s' added) :
    s'.Failed ids where
  present id hid := by
    rw [hadds.ids]
    exact List.mem_append_left _ (h.present id hid)
  code r hr hid := by
    rw [hadds.rows] at hr
    rcases List.mem_append.mp hr with hr | hr
    · exact h.code r hr hid
    · exact (hadds.fresh r hr (h.present r.id hid)).elim

theorem insertIfAbsent (h : s.Failed ids) (id : String) (depth : Nat) (snapshot : Json) :
    (Store.insertIfAbsent id depth snapshot s).2.Failed ids := by
  rcases insertIfAbsent_cases id depth snapshot s with ⟨hid, hs, hins⟩ | ⟨-, hins⟩ | ⟨e, hins⟩
  · rw [hins]
    exact h.adds (.single depth snapshot hid hs)
  · rw [hins]
    exact h
  · rw [hins]
    exact h

theorem markRows (h : s.Failed ids) (id : String) (status : Status) :
    (s.markRows id status).Failed ids where
  present x hx := by
    rw [ids_markRows]
    exact h.present x hx
  code r hr hid := by
    rw [rows_markRows] at hr
    obtain ⟨r₀, hr₀, rfl⟩ := List.mem_map.mp hr
    rw [id_markRow] at hid
    have hcode := h.code_ne hr₀ hid
    rw [markRow, if_neg fun hhit => hcode hhit.2]
    exact h.code r₀ hr₀ hid

/-- One more row has become an error. -/
theorem cons (h : s.Failed ids) (hid : id ∈ s.ids)
    (hrow : ∀ r ∈ s.rows, r.id = id → r.code = Status.unvisited.code) :
    (s.markRows id .error).Failed (id :: ids) where
  present x hx := by
    rw [ids_markRows]
    rcases List.mem_cons.mp hx with rfl | hx
    · exact hid
    · exact h.present x hx
  code r hr hx := by
    rcases List.mem_cons.mp hx with hx | hx
    · rw [rows_markRows] at hr
      obtain ⟨r₀, hr₀, rfl⟩ := List.mem_map.mp hr
      rw [id_markRow] at hx
      rw [markRow, if_pos ⟨hx, hrow r₀ hr₀ hx⟩]
    · exact (h.markRows id .error).code r hr hx

end Failed

theorem entriesAt_revise (h : s.Failed ids) (depth : Nat) :
    (s.revise ids).entriesAt depth .unvisited = s.entriesAt depth .unvisited := by
  unfold entriesAt
  rw [frontierTable_revise]
  cases ht : s.frontierTable with
  | error e => rfl
  | ok t =>
    have hrows := rows_of_frontier (frontierTable_eq_ok ht)
    -- the rows that differ are not among those read
    have hfilter : (t.rows.map (reviseRow ids)).filter
          (fun r => r.depth = (depth : Int) && r.code = Status.unvisited.code) =
        t.rows.filter (fun r => r.depth = (depth : Int) && r.code = Status.unvisited.code) := by
      rw [List.filter_map, ← hrows]
      have hsame : s.rows.filter
            ((fun r => r.depth = (depth : Int) && r.code = Status.unvisited.code) ∘ reviseRow ids) =
          s.rows.filter fun r => r.depth = (depth : Int) && r.code = Status.unvisited.code := by
        refine List.filter_congr fun r hr => Bool.eq_iff_iff.mpr ?_
        simp only [Function.comp_apply, depth_reviseRow, Bool.and_eq_true, decide_eq_true_eq,
          h.code_reviseRow hr]
      rw [hsame]
      refine (List.map_congr_left fun r hr => ?_).trans (List.map_id _)
      obtain ⟨hr, hread⟩ := List.mem_filter.mp hr
      simp only [Bool.and_eq_true, decide_eq_true_eq] at hread
      exact reviseRow_of_not_mem fun hid => h.code_ne hr hid hread.2
    simp only [bind, Except.bind, Except.map, hfilter]

/-- How settled rows are marked does not matter to an insert. -/
theorem insertIfAbsent_revise (h : s.Failed ids) (id : String) (depth : Nat) (snapshot : Json) :
    insertIfAbsent id depth snapshot (s.revise ids) =
      ((insertIfAbsent id depth snapshot s).1,
        (insertIfAbsent id depth snapshot s).2.revise ids) := by
  refine writing_revise (R := fun x y => x = (y.1, y.2.revise ids)) (frontierTable_revise ids s)
    (fun _ => rfl) fun t ht => ?_
  simp only [hasFrontierId_revise]
  split
  · rfl
  · split
    · rfl
    · next hnew =>
      have hid : id ∉ s.ids := by
        rw [Store.ids, rows_of_frontier (frontierTable_eq_ok ht)]
        exact fun hmem => hnew (hasFrontierId_iff.mpr hmem)
      have hrow : reviseRow ids (newRow id depth snapshot) = newRow id depth snapshot :=
        reviseRow_of_not_mem fun hmem => hid (h.present id hmem)
      simp only [newRow] at hrow
      simp [revise, mapRows, hrow]

theorem markRows_revise (h : s.Failed ids) (id : String) (status : Status) :
    (s.revise ids).markRows id status = (s.markRows id status).revise ids := by
  have hmark (s : Store) : s.markRows id status = s.mapRows (markRow id status) := rfl
  rw [hmark, hmark, revise, revise, mapRows_mapRows, mapRows_mapRows]
  refine mapRows_congr fun r hr => ?_
  simp only [Function.comp_apply]
  by_cases hid : r.id ∈ ids
  · have hcode := h.code_ne hr hid
    have hrevised : (reviseRow ids r).code ≠ Status.unvisited.code :=
      fun heq => hcode ((h.code_reviseRow hr).mp heq)
    rw [markRow, if_neg fun hhit => hrevised hhit.2, markRow, if_neg fun hhit => hcode hhit.2]
  · rw [reviseRow_of_not_mem hid, reviseRow_of_not_mem]
    rwa [id_markRow]

/-- A row that is settled in two ways. -/
theorem markRows_cons (hrow : ∀ r ∈ s.rows, r.id = id → r.code = Status.unvisited.code)
    (hid : id ∉ ids) :
    (s.revise ids).markRows id .visited = (s.markRows id .error).revise (id :: ids) := by
  have hmark (status : Status) (s : Store) : s.markRows id status = s.mapRows (markRow id status) :=
    rfl
  rw [hmark, hmark, revise, revise, mapRows_mapRows, mapRows_mapRows]
  refine mapRows_congr fun r hr => ?_
  simp only [Function.comp_apply]
  by_cases hr' : r.id = id
  · have hcode := hrow r hr hr'
    rw [reviseRow_of_not_mem (hr' ▸ hid), markRow, if_pos ⟨hr', hcode⟩, markRow,
      if_pos ⟨hr', hcode⟩, reviseRow, if_pos (by simp [hr'])]
  · rw [markRow, if_neg fun hhit => hr' (by simpa using hhit.1), markRow,
      if_neg fun hhit => hr' hhit.1]
    simp only [reviseRow, List.mem_cons, hr', false_or]

/-- Whether a row can be marked does not depend on the mark. -/
theorem markStatus_revise (h : s.Failed ids) (id : String) (status status' : Status) :
    (markStatus id status' (s.revise ids)).1 = (markStatus id status s).1 := by
  refine writing_revise (R := fun x y => x.1 = y.1) (frontierTable_revise ids s) (fun _ => rfl)
    fun t ht => ?_
  have hhit : (t.rows.map (reviseRow ids)).any
        (fun r => r.id = id && r.code = Status.unvisited.code) =
      t.rows.any (fun r => r.id = id && r.code = Status.unvisited.code) := by
    rw [List.any_map, ← rows_of_frontier (frontierTable_eq_ok ht)]
    refine Bool.eq_iff_iff.mpr ?_
    simp only [List.any_eq_true, Function.comp_apply, id_reviseRow, Bool.and_eq_true,
      decide_eq_true_eq]
    exact exists_congr fun r => and_congr_right fun hr => and_congr_right fun _ =>
      h.code_reviseRow hr
  simp only [hhit]
  split
  · split <;> rfl
  · rfl

end Store

/-! ## Worlds -/

namespace World

/-- Two worlds that have come to the same, but for rows that are errors in the one and visited in
the other, and for what was noted. -/
structure Twin (ids : List String) (w w' : World) : Prop where
  store : w'.store = w.store.revise ids
  failed : w.store.Failed ids
  budget : w'.budget = w.budget
  now : w'.now = w.now
  calls : w'.calls = w.calls
  disk : w.disk.Alike w'.disk

namespace Twin

variable {w w' : World} {ids ids' : List String}

theorem refl (w : World) : w.Twin [] w :=
  ⟨(Store.revise_nil _).symm, .nil _, rfl, rfl, rfl, .refl _⟩

theorem note_left (r : Log.Record) (h : w.Twin ids w') : (Logged.note r w).Twin ids w' :=
  { h with disk := h.disk.appendHeld_left _ }

theorem note_right (r : Log.Record) (h : w.Twin ids w') : w.Twin ids (Logged.note r w') :=
  { h with disk := h.disk.appendHeld_right _ }

theorem note (r r' : Log.Record) (h : w.Twin ids w') :
    (Logged.note r w).Twin ids (Logged.note r' w') := (h.note_left r).note_right r'

theorem noteAll (rs rs' : List Log.Record) (h : w.Twin ids w') :
    (Logged.noteAll rs w).Twin ids (Logged.noteAll rs' w') := by
  have hleft : (Logged.noteAll rs w).Twin ids w' := by
    induction rs generalizing w with
    | nil => exact h
    | cons r rs ih => exact ih (h.note_left r)
  clear h
  induction rs' generalizing w' with
  | nil => exact hleft
  | cons r rs' ih => exact ih (hleft.note_right r)

theorem call (now : Nat) (c : Call) (h : w.Twin ids w') : (w.call now c).Twin ids (w'.call now c) :=
  { h with calls := by rw [World.call, World.call, h.calls] }

theorem clock (now : Nat) (h : w.Twin ids w') : { w with now }.Twin ids { w' with now } :=
  { h with now := rfl }

theorem turn {store store' : Store} (writer : Writer) (budget : Budget) (h : w.Twin ids w')
    (hstore : store' = store.revise ids') (hfailed : store.Failed ids') :
    (w.turn writer store budget).Twin ids' (w'.turn writer store' budget) :=
  ⟨hstore, hfailed, rfl, h.now, h.calls, h.disk⟩

/-- Nobody else writes. -/
theorem yield {f f' : Store → Store} (h : w.Twin ids w') (hf : f w.store = w.store)
    (hf' : f' w'.store = w'.store) : (w.yield f).Twin ids (w'.yield f') := by
  unfold World.yield
  rw [hf, hf', h.budget]
  exact h.turn .others w.budget h.store h.failed

/-- A discovery comes out the same in twin worlds. -/
theorem discover (h : w.Twin ids w') (id : String) (depth : Nat) (snapshot : Json) :
    (w'.discover id depth snapshot).1 = (w.discover id depth snapshot).1 ∧
      (w.discover id depth snapshot).2.Twin ids (w'.discover id depth snapshot).2 := by
  have hfailed := h.failed.insertIfAbsent id depth snapshot
  unfold World.discover
  rw [h.budget, h.store, Store.insertIfAbsent_revise h.failed]
  split
  · exact ⟨rfl, h⟩
  · generalize Store.insertIfAbsent id depth snapshot w.store = r at hfailed ⊢
    obtain ⟨e | added, store⟩ := r
    · exact ⟨rfl, h.turn .crawl _ rfl hfailed⟩
    · cases added <;> exact ⟨rfl, h.turn .crawl _ rfl hfailed⟩

/-- So does a mark that is the same in both. -/
theorem mark (h : w.Twin ids w') (id : String) (status : Status) :
    (w'.write (Store.markStatus id status)).1 = (w.write (Store.markStatus id status)).1 ∧
      (w.write (Store.markStatus id status)).2.Twin ids
        (w'.write (Store.markStatus id status)).2 := by
  have hsame := Store.markStatus_revise h.failed id status status
  unfold World.write
  rw [h.budget, h.store]
  rcases Store.markStatus_cases id status w.store with ⟨hit, hmark⟩ | ⟨e, hmark⟩ <;>
    rcases Store.markStatus_cases id status (w.store.revise ids) with
      ⟨hit', hmark'⟩ | ⟨e', hmark'⟩ <;>
    rw [hmark, hmark'] at hsame <;> cases hsame <;> rw [hmark, hmark']
  · exact ⟨rfl, h.turn .crawl _ (Store.markRows_revise h.failed id status)
      (h.failed.markRows id status)⟩
  · exact ⟨rfl, h.turn .crawl _ rfl h.failed⟩

/-- A row that becomes an error in one world and visited in the other, if it can be marked. -/
theorem mark_apart (h : w.Twin ids w') {id : String} (hid : id ∈ w.store.ids) (hnew : id ∉ ids)
    (hrow : ∀ r ∈ w.store.rows, r.id = id → r.code = Status.unvisited.code) :
    (∃ hit, (w.write (Store.markStatus id .error)).1 = .ok hit ∧
        (w'.write (Store.markStatus id .visited)).1 = .ok hit ∧
        (w.write (Store.markStatus id .error)).2.Twin (id :: ids)
          (w'.write (Store.markStatus id .visited)).2) ∨
      ∃ e, (w.write (Store.markStatus id .error)).1 = .error e ∧
        (w'.write (Store.markStatus id .visited)).1 = .error e ∧
        (w.write (Store.markStatus id .error)).2.store = w.store ∧
        (w.write (Store.markStatus id .error)).2.Twin ids
          (w'.write (Store.markStatus id .visited)).2 := by
  have hsame := Store.markStatus_revise h.failed id .error .visited
  unfold World.write
  rw [h.budget, h.store]
  rcases Store.markStatus_cases id .error w.store with ⟨hit, hmark⟩ | ⟨e, hmark⟩ <;>
    rcases Store.markStatus_cases id .visited (w.store.revise ids) with
      ⟨hit', hmark'⟩ | ⟨e', hmark'⟩ <;>
    rw [hmark, hmark'] at hsame <;> cases hsame <;> rw [hmark, hmark']
  · exact .inl ⟨hit, rfl, rfl,
      h.turn .crawl _ (Store.markRows_cons hrow hnew) (h.failed.cons hid hrow)⟩
  · exact .inr ⟨e, rfl, rfl, rfl, h.turn .crawl _ rfl h.failed⟩

/-- So do details. -/
theorem save (h : w.Twin ids w') (r : InfoRecord) :
    (w'.write (Store.insertInfo r)).1 = (w.write (Store.insertInfo r)).1 ∧
      (w.write (Store.insertInfo r)).2.Twin ids (w'.write (Store.insertInfo r)).2 := by
  have hrows := Store.rows_congr (Store.insertInfo_frontier r w.store)
  unfold World.write
  rw [h.budget, h.store, Store.insertInfo_revise]
  refine ⟨rfl, h.turn .crawl _ rfl ⟨?_, ?_⟩⟩
  · intro id hid
    rw [Store.ids_insertInfo]
    exact h.failed.present id hid
  · rw [hrows]
    exact h.failed.code

end Twin

end World

namespace Stage

variable {τ : Type}

theorem noteAll_eq (rs : List Log.Record) (s : Stage τ) :
    Logged.noteAll rs s = ⟨Logged.noteAll rs s.world, s.tally⟩ := by
  induction rs generalizing s with
  | nil => rfl
  | cons r rs ih => exact ih (Logged.note r s)

@[simp] theorem tally_receive {α : Type} (answer : Answer α) (s : Stage τ) :
    (s.receive answer).tally = s.tally := by
  rw [receive, noteAll_eq]

/-- Answers arrive in both worlds while nobody else writes. -/
theorem twin_receive {α : Type} {ids : List String} {s s' : Stage τ} {answer answer' : Answer α}
    (h : s.world.Twin ids s'.world) (ha : ∀ s, answer.meanwhile s = s)
    (ha' : ∀ s, answer'.meanwhile s = s) :
    (s.receive answer).world.Twin ids (s'.receive answer').world := by
  rw [receive, receive, noteAll_eq, noteAll_eq]
  exact (h.yield (ha _) (ha' _)).noteAll _ _

end Stage

end CatalogCrawl
