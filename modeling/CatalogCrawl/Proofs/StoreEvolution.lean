import CatalogCrawl.Proofs.Rows

/-! # What becomes of a store

Every operation of a store, whether it succeeds or not, adds rows behind those that are there,
settles the status of unvisited rows, or adds details. So a store at any later time has each
row at its place, with its id, depth and snapshot, and each detail row as it was
(`Store.Evolves`); and ids stay unique (`Store.Keyed`). Rows that are new are as they were
given to an insertion (`Store.Offers.new`). -/

namespace CatalogCrawl

/-! ## Rows -/

/-- A row later on. Its status may have been settled, once, and nothing else about it
has changed. -/
structure FrontierRow.Becomes (r r' : FrontierRow) : Prop where
  id : r'.id = r.id
  depth : r'.depth = r.depth
  snapshot : r'.snapshot = r.snapshot
  code : r'.code = r.code ∨
    r.code = Status.unvisited.code ∧ (r'.code = Status.visited.code ∨ r'.code = Status.error.code)

namespace FrontierRow.Becomes

variable {r r' r'' : FrontierRow}

theorem refl (r : FrontierRow) : r.Becomes r := ⟨rfl, rfl, rfl, .inl rfl⟩

theorem trans (h : r.Becomes r') (h' : r'.Becomes r'') : r.Becomes r'' where
  id := h'.id.trans h.id
  depth := h'.depth.trans h.depth
  snapshot := h'.snapshot.trans h.snapshot
  code := by
    have hc := h.code
    have hc' := h'.code
    simp only [Status.code] at hc hc' ⊢
    omega

theorem mark (id : String) (status : Status) (r : FrontierRow) :
    r.Becomes (Store.markRow id status r) := by
  unfold Store.markRow
  split
  · next hhit =>
    refine ⟨rfl, rfl, rfl, ?_⟩
    cases status with
    | unvisited => exact .inl hhit.2.symm
    | visited => exact .inr ⟨hhit.2, .inl rfl⟩
    | error => exact .inr ⟨hhit.2, .inr rfl⟩
  · exact .refl r

end FrontierRow.Becomes

namespace Store

variable {s s' s'' : Store}

/-! ## Details -/

/-- The detail rows, none if the table is missing. -/
def infoRows (s : Store) : List InfoRow := (s.info.map (·.rows)).getD []

theorem infoRows_of_info {t : Table InfoRow} (h : s.info = some t) : s.infoRows = t.rows := by
  simp [infoRows, h]

theorem infoRows_congr (h : s'.info = s.info) : s'.infoRows = s.infoRows := by simp [infoRows, h]

theorem infoTable_eq_ok {t : Table InfoRow} (h : s.infoTable = .ok t) : s.info = some t := by
  unfold infoTable at h
  split at h
  · cases h; assumption
  · cases h

/-- Details are added under a new id, or the store is as it was. -/
theorem insertInfo_cases (r : InfoRecord) (s : Store) :
    (∃ row s', insertInfo r s = (.ok (), s') ∧ row.id ∉ s.infoRows.map (·.id) ∧
        s'.frontier = s.frontier ∧ s'.infoRows = s.infoRows ++ [row]) ∨
      ∃ e, insertInfo r s = (.error e, s) := by
  unfold insertInfo
  obtain ⟨t, ht, -, hwrite⟩ | ⟨e, -, hwrite⟩ := writing_cases infoTable _ s <;> rw [hwrite]
  · have hrows := infoRows_of_info (infoTable_eq_ok ht)
    split
    · exact .inr ⟨_, rfl⟩
    · next hfree =>
      refine .inl ⟨⟨r.id, r.installRange, r.minInstalls, r.maxInstalls, InfoRow.flag r.isFree,
        r.detail.text⟩, _, rfl, ?_, rfl, ?_⟩
      · simp only [hasInfoId, Bool.or_eq_true, List.any_eq_true, decide_eq_true_eq, not_or] at hfree
        rw [hrows]
        intro hmem
        exact hfree.2 (List.mem_map.mp hmem)
      · simp [infoRows, infoTable_eq_ok ht]
  · exact .inr ⟨e, rfl⟩

/-! ## Later stores -/

/-- A store later on: place by place the rows have become what they are, and the details
are still there. -/
structure Evolves (s s' : Store) : Prop where
  row : ∀ {i : Nat} {r : FrontierRow}, s.rows[i]? = some r →
    ∃ r', s'.rows[i]? = some r' ∧ r.Becomes r'
  info : s.infoRows <+: s'.infoRows

theorem Evolves.ofSame (hr : s'.rows = s.rows) (hi : s'.infoRows = s.infoRows) : s.Evolves s' where
  row {_ r} h := ⟨r, hr ▸ h, .refl r⟩
  info := hi ▸ List.prefix_rfl

theorem Evolves.refl (s : Store) : s.Evolves s := .ofSame rfl rfl

theorem Evolves.trans (h : s.Evolves s') (h' : s'.Evolves s'') : s.Evolves s'' where
  row hr := by
    obtain ⟨r', hr', hbecome⟩ := h.row hr
    obtain ⟨r'', hr'', hbecome'⟩ := h'.row hr'
    exact ⟨r'', hr'', hbecome.trans hbecome'⟩
  info := h.info.trans h'.info

/-- A row is still there, with its id and depth. -/
theorem Evolves.exists_row (h : s.Evolves s') {r : FrontierRow} (hr : r ∈ s.rows) :
    ∃ r' ∈ s'.rows, r.Becomes r' := by
  obtain ⟨i, hi⟩ := List.mem_iff_getElem?.mp hr
  obtain ⟨r', hr', hbecome⟩ := h.row hi
  exact ⟨r', List.mem_of_getElem? hr', hbecome⟩

theorem Adds.evolves {added : List FrontierRow} (h : s.Adds s' added) : s.Evolves s' where
  row {i r} hr := by
    obtain ⟨hi, -⟩ := List.getElem?_eq_some_iff.mp hr
    exact ⟨r, by rw [h.rows, List.getElem?_append_left hi, hr], .refl r⟩
  info := by simp only [infoRows_congr h.info, List.prefix_rfl]

theorem evolves_markRows (id : String) (status : Status) (s : Store) :
    s.Evolves (s.markRows id status) where
  row {i r} hr :=
    ⟨markRow id status r, by rw [rows_markRows, List.getElem?_map, hr]; rfl, .mark id status r⟩
  info := List.prefix_rfl

/-- No two rows of a table have one id. -/
structure Keyed (s : Store) : Prop where
  frontier : s.ids.Nodup
  info : (s.infoRows.map (·.id)).Nodup

theorem Adds.keyed {added : List FrontierRow} (h : s.Adds s' added) (hs : s.Keyed) : s'.Keyed where
  frontier := by
    rw [h.ids]
    refine hs.frontier.append h.distinct fun id hid hid' => ?_
    obtain ⟨r, hr, rfl⟩ := List.mem_map.mp hid'
    exact h.fresh r hr hid
  info := by rw [infoRows_congr h.info]; exact hs.info

theorem Keyed.markRows (h : s.Keyed) (id : String) (status : Status) :
    (s.markRows id status).Keyed :=
  ⟨by rw [ids_markRows]; exact h.frontier, h.info⟩

/-! ## Operations -/

/-- An operation, whether it succeeds or not, with the rows that it is given to insert. -/
inductive Offers : Store → Store → List FrontierRow → Prop
  | insert (id : String) (depth : Nat) (snapshot : Json) (s : Store) :
      Offers s (insertIfAbsent id depth snapshot s).2 [newRow id depth snapshot]
  | page (items : List Item) (s : Store) :
      Offers s (insertPage items s).2 (items.map fun item => newRow item.id 0 item.raw)
  | mark (id : String) (status : Status) (s : Store) : Offers s (markStatus id status s).2 []
  | info (r : InfoRecord) (s : Store) : Offers s (insertInfo r s).2 []
  | faults {s s' : Store} (h : s.Unwritten s') : Offers s s' []

theorem Touch.offers (h : Touch s s') : ∃ given, s.Offers s' given := by
  cases h with
  | insert id depth snapshot => exact ⟨_, .insert id depth snapshot s⟩
  | page items => exact ⟨_, .page items s⟩
  | mark id status => exact ⟨_, .mark id status s⟩
  | info r => exact ⟨_, .info r s⟩
  | faults hfaults => exact ⟨_, .faults hfaults⟩

variable {given : List FrontierRow}

/-- What an operation can do: add some of the rows it is given, mark rows, add details, or nothing
that shows in the rows. -/
theorem Offers.effect (h : s.Offers s' given) :
    (∃ added, s.Adds s' added ∧ added.Sublist given) ∨
      (∃ id status, s' = s.markRows id status) ∨
      (∃ row, row.id ∉ s.infoRows.map (·.id) ∧ s'.frontier = s.frontier ∧
        s'.infoRows = s.infoRows ++ [row]) ∨
      s'.rows = s.rows ∧ s'.infoRows = s.infoRows := by
  cases h with
  | insert id depth snapshot =>
    rcases insertIfAbsent_cases id depth snapshot s with ⟨hid, hs, hins⟩ | ⟨-, hins⟩ | ⟨e, hins⟩
    · rw [hins]; exact .inl ⟨_, .single depth snapshot hid hs, .refl _⟩
    · rw [hins]; exact .inl ⟨[], .nil s, List.nil_sublist _⟩
    · rw [hins]; exact .inl ⟨[], .nil s, List.nil_sublist _⟩
  | page items =>
    rcases insertPage_cases items s with ⟨s', added, hins, hadd, hsub⟩ | ⟨e, hins⟩
    · rw [hins]; exact .inl ⟨added, hadd, hsub⟩
    · rw [hins]; exact .inl ⟨[], .nil s, List.nil_sublist _⟩
  | mark id status =>
    rcases markStatus_cases id status s with ⟨hit, hmark⟩ | ⟨e, hmark⟩
    · rw [hmark]; exact .inr (.inl ⟨id, status, rfl⟩)
    · rw [hmark]; exact .inl ⟨[], .nil s, List.nil_sublist _⟩
  | info r =>
    rcases insertInfo_cases r s with ⟨row, s', hins, hid, hf, hi⟩ | ⟨e, hins⟩
    · rw [hins]; exact .inr (.inr (.inl ⟨row, hid, hf, hi⟩))
    · rw [hins]; exact .inl ⟨[], .nil s, List.nil_sublist _⟩
  | faults hfaults =>
    have hinfo : s'.infoRows = s.infoRows := by rw [infoRows, hfaults.info, infoRows]
    exact .inr (.inr (.inr ⟨hfaults.rows, hinfo⟩))

theorem Offers.evolves (h : s.Offers s' given) : s.Evolves s' := by
  obtain ⟨added, hadd, -⟩ | ⟨id, status, rfl⟩ | ⟨row, -, hf, hi⟩ | ⟨hr, hi⟩ := h.effect
  · exact hadd.evolves
  · exact evolves_markRows id status s
  · have hsame : s.Evolves { s' with info := s.info } := .ofSame (rows_congr hf) rfl
    exact ⟨hsame.row, hi ▸ List.prefix_append _ _⟩
  · exact .ofSame hr hi

theorem Offers.keyed (h : s.Offers s' given) (hs : s.Keyed) : s'.Keyed := by
  obtain ⟨added, hadd, -⟩ | ⟨id, status, rfl⟩ | ⟨row, hid, hf, hi⟩ | ⟨hr, hi⟩ := h.effect
  · exact hadd.keyed hs
  · exact hs.markRows id status
  · refine ⟨by rw [ids, rows_congr hf]; exact hs.frontier, ?_⟩
    rw [hi, List.map_append]
    refine hs.info.append (List.nodup_singleton _) fun id hid' hrow => ?_
    obtain rfl : id = row.id := List.mem_singleton.mp hrow
    exact hid hid'
  · exact ⟨by rw [ids, hr]; exact hs.frontier, by rw [hi]; exact hs.info⟩

/-- A row that is new is one that was given, and unvisited. -/
theorem Offers.new (h : s.Offers s' given) {i : Nat} {r : FrontierRow} (hi : s.rows.length ≤ i)
    (hr : s'.rows[i]? = some r) : r ∈ given ∧ r.code = Status.unvisited.code := by
  have hnone (hlen : s'.rows.length = s.rows.length) : False := by
    obtain ⟨hlt, -⟩ := List.getElem?_eq_some_iff.mp hr
    omega
  obtain ⟨added, hadd, hsub⟩ | ⟨id, status, rfl⟩ | ⟨row, -, hf, -⟩ | ⟨hrows, -⟩ := h.effect
  · rw [hadd.rows, List.getElem?_append_right hi] at hr
    have hmem := List.mem_of_getElem? hr
    exact ⟨hsub.mem hmem, hadd.unvisited r hmem⟩
  · exact (hnone (by rw [rows_markRows, List.length_map])).elim
  · exact (hnone (by rw [rows_congr hf])).elim
  · exact (hnone (by rw [hrows])).elim

theorem Outside.evolves (h : Outside s s') : s.Evolves s' := by
  induction h with
  | refl => exact .refl s
  | tail _ htouch ih =>
    obtain ⟨given, hoffers⟩ := htouch.offers
    exact ih.trans hoffers.evolves

theorem Outside.keyed (h : Outside s s') (hs : s.Keyed) : s'.Keyed := by
  induction h with
  | refl => exact hs
  | tail _ htouch ih =>
    obtain ⟨given, hoffers⟩ := htouch.offers
    exact hoffers.keyed ih

/-! ## Reading a level -/

/-- The unvisited rows of a depth. -/
def level (d : Nat) (s : Store) : List FrontierRow :=
  s.rows.filter fun r => r.depth = (d : Int) && r.code = Status.unvisited.code

theorem mem_level {d : Nat} {r : FrontierRow} :
    r ∈ s.level d ↔ r ∈ s.rows ∧ r.depth = (d : Int) ∧ r.code = Status.unvisited.code := by
  simp [level]

/-- What is read from rows has their ids, in order, and the depth asked for. -/
theorem mapM_entries {depth : Nat} {status : Status} {rows : List FrontierRow}
    {es : List FrontierEntry}
    (h : (rows.mapM fun r => do
      return ⟨r.id, depth, status, ← readSnapshot r⟩ : Except StoreError _) = .ok es) :
    es.map (·.id) = rows.map (·.id) ∧ ∀ e ∈ es, e.depth = depth := by
  induction rows generalizing es with
  | nil =>
    cases h
    exact ⟨rfl, nofun⟩
  | cons r rows ih =>
    rw [List.mapM_cons] at h
    cases hread : readSnapshot r with
    | error e => simp [hread, bind, Except.bind] at h
    | ok v =>
      cases hrest : (rows.mapM fun r => do return ⟨r.id, depth, status, ← readSnapshot r⟩ :
          Except StoreError (List FrontierEntry)) with
      | error e =>
        rw [hrest, hread] at h
        cases h
      | ok rest =>
        rw [hrest, hread] at h
        cases h
        obtain ⟨hids, hdepth⟩ := ih hrest
        exact ⟨by simp [hids], by simpa using hdepth⟩

/-- A level that could be read gives an entry for each of its rows. -/
theorem entriesAt_eq_ok {d : Nat} {es : List FrontierEntry}
    (h : s.entriesAt d .unvisited = .ok es) :
    s.frontier.isSome ∧ es.map (·.id) = (s.level d).map (·.id) ∧ ∀ e ∈ es, e.depth = d := by
  unfold entriesAt at h
  cases ht : s.frontierTable with
  | error e => simp [ht, bind, Except.bind] at h
  | ok t =>
    have hf := frontierTable_eq_ok ht
    rw [ht] at h
    rw [level, rows_of_frontier hf]
    exact ⟨by simp [hf], mapM_entries h⟩

/-- An entry of a level stands for an unvisited row. -/
theorem exists_row_of_entry {d : Nat} {es : List FrontierEntry} {e : FrontierEntry}
    (h : s.entriesAt d .unvisited = .ok es) (he : e ∈ es) :
    ∃ r ∈ s.rows, r.id = e.id ∧ r.depth = (e.depth : Int) ∧ r.code = Status.unvisited.code := by
  obtain ⟨-, hids, hdepth⟩ := entriesAt_eq_ok h
  have hmem : e.id ∈ es.map (·.id) := List.mem_map_of_mem he
  rw [hids] at hmem
  obtain ⟨r, hlevel, hid⟩ := List.mem_map.mp hmem
  obtain ⟨hr, hrdepth, hcode⟩ := mem_level.mp hlevel
  exact ⟨r, hr, hid, by rw [hrdepth, hdepth e he], hcode⟩

end Store

end CatalogCrawl
