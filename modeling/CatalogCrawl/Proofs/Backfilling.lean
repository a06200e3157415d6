import CatalogCrawl.Proofs.Errands
import CatalogCrawl.Proofs.Summary

/-! # What a backfill does

The ids of the frontier without details are asked for, in order, and each answer is dealt with
when it comes: it is lost, saved, found to be there already, or refused by the store
(`Backfill.Dealt`). What is there is never overwritten, whoever has written it. If nobody else
writes and the store takes what comes, details are missing afterwards just for the ids whose
call failed (`Backfill.Course.alone`). -/

namespace CatalogCrawl

/-! ## Details in the store -/

namespace Store

variable {s : Store}

/-- The row of fetched details. -/
def infoRow (r : InfoRecord) : InfoRow :=
  ⟨r.id, r.installRange, r.minInstalls, r.maxInstalls, InfoRow.flag r.isFree, r.detail.text⟩

/-- Puts rows behind those of the details, if the table is there. -/
def appendInfo (added : List InfoRow) (s : Store) : Store :=
  { s with info := s.info.map fun t => { t with rows := t.rows ++ added } }

/-- Details can be written. -/
def InfoOpen (s : Store) : Prop := s.access = .full ∧ s.info.isSome

/-- The ids whose details are made to fail. -/
def infoBlocked (s : Store) : List String := (s.info.map (·.noInsert)).getD []

/-- The ids that have details. -/
def detailed (s : Store) : List String := s.infoRows.map (·.id)

@[simp] theorem appendInfo_nil (s : Store) : s.appendInfo [] = s := by
  rcases s with ⟨f, _ | t, l, a⟩ <;> simp [appendInfo]

theorem appendInfo_append (s : Store) (added more : List InfoRow) :
    (s.appendInfo added).appendInfo more = s.appendInfo (added ++ more) := by
  cases hi : s.info <;> simp [appendInfo, hi]

theorem infoRows_appendInfo {added : List InfoRow} (h : s.info.isSome) :
    (s.appendInfo added).infoRows = s.infoRows ++ added := by
  obtain ⟨t, ht⟩ := Option.isSome_iff_exists.mp h
  simp [appendInfo, infoRows, ht]

theorem infoRows_prefix_appendInfo (s : Store) (added : List InfoRow) :
    s.infoRows <+: (s.appendInfo added).infoRows := by
  cases hi : s.info with
  | none => simp [appendInfo, infoRows, hi]
  | some t => exact ⟨added, (infoRows_appendInfo (by simp [hi])).symm⟩

theorem mem_infoRows_appendInfo {row : InfoRow} {added : List InfoRow}
    (h : row ∈ (s.appendInfo added).infoRows) : row ∈ s.infoRows ++ added := by
  cases hi : s.info with
  | none => simp [appendInfo, infoRows, hi] at h
  | some t => rwa [infoRows_appendInfo (by simp [hi])] at h

@[simp] theorem infoOpen_appendInfo (s : Store) (added : List InfoRow) :
    (s.appendInfo added).InfoOpen ↔ s.InfoOpen := by
  simp [InfoOpen, appendInfo]

@[simp] theorem infoBlocked_appendInfo (s : Store) (added : List InfoRow) :
    (s.appendInfo added).infoBlocked = s.infoBlocked := by
  simp [infoBlocked, appendInfo, Function.comp_def]

/-- Details are added, or their id is blocked or taken, or details cannot be written at all. -/
theorem insertInfo_eq (r : InfoRecord) (s : Store) :
    s.InfoOpen ∧ r.id ∉ s.infoBlocked ∧ r.id ∉ s.detailed ∧
        insertInfo r s = (.ok (), s.appendInfo [infoRow r]) ∨
      s.InfoOpen ∧ (r.id ∈ s.infoBlocked ∨ r.id ∈ s.detailed) ∧
        insertInfo r s = (.error (.duplicate .info r.id), s) ∨
      ¬s.InfoOpen ∧ ∃ fault, insertInfo r s = (.error (.engine fault), s) := by
  unfold insertInfo
  obtain ⟨t, ht, haccess, hwrite⟩ | ⟨e, hwhy, hwrite⟩ := writing_cases infoTable _ s <;> rw [hwrite]
  · have hi := infoTable_eq_ok ht
    have hopen : s.InfoOpen := ⟨haccess, by simp [hi]⟩
    have hblocked : s.infoBlocked = t.noInsert := by simp [infoBlocked, hi]
    have hdetailed : s.detailed = t.rows.map (·.id) := by rw [detailed, infoRows_of_info hi]
    have htaken : (t.noInsert.contains r.id || hasInfoId t r.id) = true ↔
        r.id ∈ s.infoBlocked ∨ r.id ∈ s.detailed := by
      rw [hblocked, hdetailed]
      simp [hasInfoId]
    split
    · next hfull => exact .inr (.inl ⟨hopen, htaken.mp hfull, rfl⟩)
    · next hfree =>
      obtain ⟨hb, hd⟩ := not_or.mp (mt htaken.mpr hfree)
      refine .inl ⟨hopen, hb, hd, ?_⟩
      simp [appendInfo, hi, infoRow]
  · refine .inr (.inr ?_)
    rcases hwhy with hmissing | ⟨haccess, rfl⟩
    · cases hi : s.info with
      | none =>
        simp only [infoTable, hi, Except.error.injEq] at hmissing
        exact ⟨by simp [InfoOpen, hi], _, by rw [← hmissing]⟩
      | some t => simp [infoTable, hi] at hmissing
    · exact ⟨fun hopen => haccess hopen.1, _, rfl⟩

/-- The ids without details are found if both tables are there. -/
theorem idsMissingInfo_of_isSome (hf : s.frontier.isSome) (hi : s.info.isSome) :
    s.idsMissingInfo = .ok s.undetailed := by
  obtain ⟨t, ht⟩ := Option.isSome_iff_exists.mp hf
  obtain ⟨i, hi⟩ := Option.isSome_iff_exists.mp hi
  have hok :
      s.idsMissingInfo = .ok ((t.rows.map (·.id)).filter fun id => !i.rows.any (·.id = id)) := by
    simp only [idsMissingInfo, frontierTable, infoTable, ht, hi]
    rfl
  rw [hok, idsMissingInfo_eq_ok hok]

end Store

/-! ## Replies -/

namespace Backfill

variable {c : Catalog} {l : Locale} {ids : List String} {made : Nat} {s₀ s : Stage Tally}
  {rs : List (Errand.Reply Tally)}

/-- Calls for details and what is done with their answers. -/
def errand (c : Catalog) (l : Locale) : Errand String Detail Tally :=
  ⟨(.detail · l), fun id n => c.detail n id l, react⟩

/-- What becomes of the call for an id, by its outcome. -/
inductive Dealt (id : String) (r : Errand.Reply Tally) : Except FetchError Detail → Prop
  /-- The details could not be fetched. -/
  | lost {e : FetchError} (hfailure : r.failure = none)
      (hstore : r.ended.world.store = r.arrival.world.store)
      (htally : r.ended.tally =
        { r.arrival.tally with fetchFailures := r.arrival.tally.fetchFailures + 1 }) :
      Dealt id r (.error e)
  /-- They are a row behind the others. -/
  | saved {d : Detail} (hopen : r.arrival.world.store.InfoOpen)
      (hfree : id ∉ r.arrival.world.store.infoBlocked) (hnew : id ∉ r.arrival.world.store.detailed)
      (hfailure : r.failure = none)
      (hstore : r.ended.world.store =
        r.arrival.world.store.appendInfo [Store.infoRow (d.toRecord id)])
      (htally : r.ended.tally = { r.arrival.tally with saved := r.arrival.tally.saved + 1 }) :
      Dealt id r (.ok d)
  /-- There are some already, or the id is blocked. -/
  | taken {d : Detail} (hopen : r.arrival.world.store.InfoOpen)
      (htaken : id ∈ r.arrival.world.store.infoBlocked ∨ id ∈ r.arrival.world.store.detailed)
      (hfailure : r.failure = none)
      (hstore : r.ended.world.store = r.arrival.world.store)
      (htally : r.ended.tally =
        { r.arrival.tally with duplicates := r.arrival.tally.duplicates + 1 }) :
      Dealt id r (.ok d)
  /-- The store takes no details. -/
  | refused {d : Detail} (hclosed : ¬r.arrival.world.store.InfoOpen) (hfailure : r.failure.isSome)
      (hstore : r.ended.world.store = r.arrival.world.store)
      (htally : r.ended.tally = r.arrival.tally) : Dealt id r (.ok d)

/-- Every answer is dealt with in one of the four ways. -/
theorem reply_dealt (c : Catalog) (l : Locale) (id : String) (place number : Nat)
    (s : Stage Tally) :
    Dealt id ((errand c l).reply id place number s) (c.detail number id l).outcome := by
  simp only [Errand.reply, errand]
  generalize s.receive (c.detail number id l) = arrival
  cases (c.detail number id l).outcome with
  | error e => exact .lost rfl rfl rfl
  | ok d =>
    simp only [react, Stage.onStore, Stage.lift, World.write]
    rcases Store.insertInfo_eq (d.toRecord id) arrival.world.store with
      ⟨hopen, hfree, hnew, hins⟩ | ⟨hopen, htaken, hins⟩ | ⟨hclosed, fault, hins⟩
    · rw [hins]
      exact .saved hopen hfree hnew rfl rfl rfl
    · rw [hins]
      exact .taken hopen htaken rfl rfl rfl
    · rw [hins]
      exact .refused hclosed rfl rfl rfl

/-- Each reaction of a course deals with the answer for the id at its place. -/
theorem Course.dealt (h : (errand c l).Course ids made s₀ rs s) {r : Errand.Reply Tally}
    (hr : r ∈ rs) :
    ∃ id, ids[r.place]? = some id ∧ Dealt id r (c.detail (made + r.place) id l).outcome :=
  h.exists_outcome (reply_dealt c l) hr

/-- Rows of details stay as they are. -/
theorem Dealt.keeps {id : String} {r : Errand.Reply Tally} {outcome : Except FetchError Detail}
    (h : Dealt id r outcome) : r.arrival.world.store.infoRows <+: r.ended.world.store.infoRows := by
  cases h with
  | lost _ hstore | taken _ _ _ hstore | refused _ _ hstore => simp only [hstore, List.prefix_rfl]
  | saved _ _ _ _ hstore =>
    rw [hstore]
    exact Store.infoRows_prefix_appendInfo _ _

/-- What is counted, with the replies that failed. -/
def Tally.total (t : Tally) : Nat := t.saved + t.fetchFailures + t.duplicates

/-- A reaction is counted once, in the tally or as a failure of the store. -/
theorem Dealt.total {id : String} {r : Errand.Reply Tally} {outcome : Except FetchError Detail}
    (h : Dealt id r outcome) :
    r.ended.tally.total + (if r.failure.isSome then 1 else 0) = r.arrival.tally.total + 1 := by
  cases h with
  | lost hfailure _ htally =>
    simp only [htally, hfailure, Tally.total, Option.isSome_none, Bool.false_eq_true, if_false]
    omega
  | saved _ _ _ hfailure _ htally =>
    simp only [htally, hfailure, Tally.total, Option.isSome_none, Bool.false_eq_true, if_false]
    omega
  | taken _ _ hfailure _ htally =>
    simp only [htally, hfailure, Tally.total, Option.isSome_none, Bool.false_eq_true, if_false]
    omega
  | refused _ hfailure _ htally => rw [htally, if_pos hfailure]

/-- What others have written when an answer comes stays as it is. -/
theorem Course.keeps (hc : c.Within Store.Outside) (h : (errand c l).Course ids made s₀ rs s) :
    s₀.world.store.infoRows <+: s.world.store.infoRows ∧
      ∀ r ∈ rs, r.arrival.world.store.infoRows <+: s.world.store.infoRows := by
  have hlater := h.later (R := fun a b => a.1.infoRows <+: b.1.infoRows) (fun _ => List.prefix_rfl)
    List.IsPrefix.trans fun id place number s => ⟨?_, (reply_dealt c l id place number s).keeps⟩
  · exact ⟨hlater.1, fun r hr => (hlater.2 r hr).1⟩
  · simp only [Stage.possessions, Errand.reply, Stage.store_receive]
    exact (Store.Outside.evolves (hc.detail _ _ _ _)).info

/-! ## Nobody else writes -/

/-- The row of the details of the id at a place, if its call succeeds. -/
def fetched (c : Catalog) (l : Locale) (ids : List String) (made place : Nat) : Option InfoRow :=
  ids[place]?.bind fun id =>
    (c.detail (made + place) id l).outcome.toOption.map fun d => Store.infoRow (d.toRecord id)

/-- The store takes the details of every id whose call succeeds. -/
def Takes (c : Catalog) (l : Locale) (ids : List String) (made : Nat) (s : Store) : Prop :=
  ∀ place id d, ids[place]? = some id → (c.detail (made + place) id l).outcome = .ok d →
    s.InfoOpen ∧ id ∉ s.infoBlocked

/-- An id whose call fails gives no row. -/
theorem fetched_eq_none {place : Nat} {id : String} {e : FetchError} (hid : ids[place]? = some id)
    (he : (c.detail (made + place) id l).outcome = .error e) :
    fetched c l ids made place = none := by
  rw [fetched, hid, Option.bind_some, he]
  rfl

/-- An id whose call succeeds gives the row of its details. -/
theorem fetched_eq_some {place : Nat} {id : String} {d : Detail} (hid : ids[place]? = some id)
    (hd : (c.detail (made + place) id l).outcome = .ok d) :
    fetched c l ids made place = some (Store.infoRow (d.toRecord id)) := by
  rw [fetched, hid, Option.bind_some, hd]
  rfl

/-- A fetched row has the id of its place. -/
theorem getElem?_of_fetched {place : Nat} {row : InfoRow}
    (h : fetched c l ids made place = some row) :
    ids[place]? = some row.id ∧ ∃ d, (c.detail (made + place) row.id l).outcome = .ok d := by
  obtain ⟨id, hid, hrow⟩ := Option.bind_eq_some_iff.mp h
  obtain ⟨d, hd, rfl⟩ := Option.map_eq_some_iff.mp hrow
  refine ⟨hid, d, ?_⟩
  show (c.detail (made + place) id l).outcome = .ok d
  cases houtcome : (c.detail (made + place) id l).outcome with
  | error e =>
    rw [houtcome] at hd
    cases hd
  | ok d' =>
    rw [houtcome] at hd
    cases hd
    rfl

/-- Where nobody else writes, the rows of the details that come follow each other. -/
theorem Course.alone (hc : c.Within fun s s' => s' = s) (hids : ids.Nodup)
    (hnew : ∀ id ∈ ids, id ∉ s₀.world.store.detailed) (htakes : Takes c l ids made s₀.world.store)
    (h : (errand c l).Course ids made s₀ rs s) (hplaces : (rs.map (·.place)).Nodup) :
    s.world.store = s₀.world.store.appendInfo
      ((rs.map (·.place)).filterMap (fetched c l ids made)) ∧
      s.tally.duplicates = s₀.tally.duplicates ∧ ∀ r ∈ rs, r.failure = none := by
  induction h with
  | start => exact ⟨(Store.appendInfo_nil _).symm, rfl, List.forall_mem_nil _⟩
  | still _ hstore _ htally ih =>
    rw [hstore, htally]
    exact ih hplaces
  | @reply rs s id place _ hid ih =>
    rw [List.map_append, List.nodup_append] at hplaces
    obtain ⟨hbefore, -, hplace⟩ := hplaces
    obtain ⟨hstore, hduplicates, hfailures⟩ := ih hbefore
    have harrival :
        ((errand c l).reply id place (made + place) s).arrival.world.store = s.world.store :=
      (Stage.store_receive _ _).trans (hc.detail _ _ _ _)
    have htally : ((errand c l).reply id place (made + place) s).arrival.tally = s.tally :=
      Stage.tally_receive _ _
    have hmap : (rs ++ [(errand c l).reply id place (made + place) s]).map (·.place) =
        rs.map (·.place) ++ [place] := by
      rw [List.map_append]
      rfl
    -- no other place has given a row of this id
    have hfresh : id ∉ s.world.store.detailed := by
      intro hmem
      rw [hstore] at hmem
      obtain ⟨row, hrow, rfl⟩ := List.mem_map.mp hmem
      rcases List.mem_append.mp (Store.mem_infoRows_appendInfo hrow) with hold | hrow
      · exact hnew _ (List.mem_of_getElem? hid) (List.mem_map.mpr ⟨row, hold, rfl⟩)
      · obtain ⟨place', hplace', hfetched⟩ := List.mem_filterMap.mp hrow
        obtain ⟨hid', -⟩ := getElem?_of_fetched hfetched
        have hlt : place' < ids.length := (List.getElem?_eq_some_iff.mp hid').1
        have hsame : place' = place := (List.getElem?_inj hlt hids).mp (hid'.trans hid.symm)
        exact hplace place' hplace' place List.mem_cons_self hsame
    have hdealt := reply_dealt c l id place (made + place) s
    rw [hmap, List.filterMap_append]
    cases houtcome : (c.detail (made + place) id l).outcome with
    | error e =>
      rw [houtcome] at hdealt
      obtain ⟨hfailure, hended, hcount⟩ := hdealt
      rw [hended, harrival, hcount, htally, List.filterMap_cons_none (fetched_eq_none hid houtcome),
        List.filterMap_nil, List.append_nil]
      exact ⟨hstore, hduplicates,
        List.forall_mem_append.mpr ⟨hfailures, List.forall_mem_singleton.mpr hfailure⟩⟩
    | ok d =>
      rw [houtcome] at hdealt
      obtain ⟨hopen, hfree⟩ := htakes place id d hid houtcome
      have hopen' : s.world.store.InfoOpen := by rwa [hstore, Store.infoOpen_appendInfo]
      have hfree' : id ∉ s.world.store.infoBlocked := by rwa [hstore, Store.infoBlocked_appendInfo]
      cases hdealt with
      | saved _ _ _ hfailure hended hcount =>
        rw [hended, harrival, hcount, htally,
          List.filterMap_cons_some (fetched_eq_some hid houtcome),
          List.filterMap_nil, ← Store.appendInfo_append, ← hstore]
        exact ⟨rfl, hduplicates,
          List.forall_mem_append.mpr ⟨hfailures, List.forall_mem_singleton.mpr hfailure⟩⟩
      | taken _ htaken =>
        rw [harrival] at htaken
        exact (not_or.mpr ⟨hfree', hfresh⟩ htaken).elim
      | refused hclosed =>
        rw [harrival] at hclosed
        exact (hclosed hopen').elim

variable {o : Options} {w w' : World} {report : Report}

end Backfill

end CatalogCrawl
