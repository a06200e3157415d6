import CatalogCrawl.Proofs.CallDiscipline

/-! # What an expansion leaves behind

As long as the budget lasts and nobody else writes, the unvisited rows of the levels read so far are
accounted for: each of them waits for its turn or its answer, or its unit has failed on the store
(`Expansion.Accounted`). New rows stand below these levels, and a row is settled only by its own
unit. So when nothing is under way any more the failed ones are left, and if there are none another
expansion finds nothing to do. -/

namespace CatalogCrawl

/-- The row is unvisited, at a depth below `D`. -/
def FrontierRow.isLeft (D : Nat) (r : FrontierRow) : Bool :=
  0 ≤ r.depth ∧ r.depth < (D : Int) ∧ r.code = Status.unvisited.code

theorem FrontierRow.isLeft_iff {D : Nat} {r : FrontierRow} :
    r.isLeft D = true ↔ 0 ≤ r.depth ∧ r.depth < (D : Int) ∧ r.code = Status.unvisited.code :=
  decide_eq_true_iff

namespace Store

variable {s s' : Store} {added : List FrontierRow} {D d : Nat}

/-- The unvisited rows at depths below `D`. -/
def leftover (D : Nat) (s : Store) : List FrontierRow := s.rows.filter (·.isLeft D)

theorem leftover_congr (h : s'.rows = s.rows) (D : Nat) : s'.leftover D = s.leftover D := by
  rw [leftover, leftover, h]

theorem nodup_leftover (h : s.ids.Nodup) (D : Nat) : ((s.leftover D).map (·.id)).Nodup :=
  h.sublist (List.filter_sublist.map _)

theorem leftover_zero (s : Store) : s.leftover 0 = [] := by
  refine List.filter_eq_nil_iff.mpr fun r _ hleft => ?_
  have hr := FrontierRow.isLeft_iff.mp hleft
  omega

/-- One more level. -/
theorem leftover_succ (d : Nat) (s : Store) :
    (s.leftover (d + 1)).Perm (s.leftover d ++ s.level d) := by
  have habove : (s.leftover (d + 1)).filter (fun r => r.depth < (d : Int)) = s.leftover d := by
    rw [leftover, leftover, List.filter_filter]
    refine List.filter_congr fun r _ => Bool.eq_iff_iff.mpr ?_
    simp only [Bool.and_eq_true, decide_eq_true_eq, FrontierRow.isLeft_iff]
    omega
  have hlevel : (s.leftover (d + 1)).filter (fun r => !(r.depth < (d : Int))) = s.level d := by
    rw [leftover, level, List.filter_filter]
    refine List.filter_congr fun r _ => Bool.eq_iff_iff.mpr ?_
    simp only [Bool.and_eq_true, Bool.not_eq_true', decide_eq_true_eq, decide_eq_false_iff_not,
      FrontierRow.isLeft_iff]
    omega
  rw [← habove, ← hlevel]
  exact (List.filter_append_perm _ _).symm

/-- Rows at the depth `D` are not below it. -/
theorem Adds.leftover (h : s.Adds s' added) (hdepth : ∀ r ∈ added, r.depth = (D : Int)) :
    s'.leftover D = s.leftover D := by
  have hnone : added.filter (·.isLeft D) = [] := by
    refine List.filter_eq_nil_iff.mpr fun r hr hleft => ?_
    have hbelow := FrontierRow.isLeft_iff.mp hleft
    have hat := hdepth r hr
    omega
  rw [Store.leftover, h.rows, List.filter_append, hnone, List.append_nil, Store.leftover]

theorem isLeft_markRow {status : Status} (hstatus : status ≠ .unvisited) (id : String) (D : Nat)
    (r : FrontierRow) : (markRow id status r).isLeft D = (r.id != id && r.isLeft D) := by
  have hcode : status.code ≠ Status.unvisited.code := by
    cases status with
    | unvisited => exact (hstatus rfl).elim
    | visited | error => decide
  unfold markRow
  split
  · next hhit => simp [FrontierRow.isLeft, hcode, hhit.1]
  · next hhit =>
    refine Bool.eq_iff_iff.mpr ?_
    simp only [Bool.and_eq_true, bne_iff_ne, FrontierRow.isLeft_iff]
    constructor
    · exact fun hleft => ⟨fun hid => hhit ⟨hid, hleft.2.2⟩, hleft⟩
    · exact fun hleft => hleft.2

/-- A settled row is left no more, and the others are as before. -/
theorem leftover_markRows {status : Status} (hstatus : status ≠ .unvisited) (id : String) (D : Nat)
    (s : Store) :
    ((s.markRows id status).leftover D).map (·.id) =
      ((s.leftover D).map (·.id)).filter (· != id) := by
  have hids : (fun r : FrontierRow => r.id) ∘ markRow id status = fun r => r.id := by
    funext r
    exact id_markRow id status r
  have hleft : (fun r : FrontierRow => r.isLeft D) ∘ markRow id status =
      fun r => r.id != id && r.isLeft D := by
    funext r
    exact isLeft_markRow hstatus id D r
  rw [leftover, rows_markRows, List.filter_map, List.map_map, hids, hleft, List.filter_map,
    leftover, List.filter_filter]
  rfl

/-- A mark takes its id out of those left. -/
theorem leftover_markRows_perm {status : Status} (hstatus : status ≠ .unvisited) {id : String}
    {rest : List String} (hs : s.ids.Nodup)
    (h : ((s.leftover D).map (·.id)).Perm (id :: rest)) :
    (((s.markRows id status).leftover D).map (·.id)).Perm rest := by
  have hnodup := nodup_leftover hs D
  rw [leftover_markRows hstatus, ← hnodup.erase_eq_filter]
  have herase := h.erase id
  rw [List.erase_cons_head] at herase
  exact herase

theorem leftover_eq_nil_of_le {D' : Nat} (h : s.leftover D = []) (hle : D' ≤ D) :
    s.leftover D' = [] := by
  refine List.filter_eq_nil_iff.mpr fun r hr hleft => ?_
  have hbelow := FrontierRow.isLeft_iff.mp hleft
  exact List.filter_eq_nil_iff.mp h r hr
    (FrontierRow.isLeft_iff.mpr ⟨hbelow.1, by omega, hbelow.2.2⟩)

/-- A level is read as empty if no row is left. -/
theorem entriesAt_of_leftover (hs : s.frontier.isSome) (h : s.leftover D = []) (hd : d < D) :
    s.entriesAt d .unvisited = .ok [] := by
  have hlevel : s.level d = [] := by
    rw [List.eq_nil_iff_forall_not_mem]
    intro r hr
    obtain ⟨hmem, hat, hcode⟩ := mem_level.mp hr
    exact List.filter_eq_nil_iff.mp h r hmem
      (FrontierRow.isLeft_iff.mpr ⟨by omega, by omega, hcode⟩)
  obtain ⟨t, ht⟩ := Option.isSome_iff_exists.mp hs
  rw [level, rows_of_frontier ht] at hlevel
  simp only [entriesAt, frontierTable, ht]
  exact congrArg (List.mapM _) hlevel

theorem Unwritten.outside (h : s.Unwritten s') : Outside s s' := .single (.faults h)

theorem Unwritten.table (h : s.Unwritten s') : s'.frontier.isSome = s.frontier.isSome := by
  simpa using congrArg Option.isSome h.frontier

end Store

namespace Expansion

variable {c : Catalog} {o : Options} {w : World} {events new : List Event} {k k' : Moment}

/-! ## The accounts -/

/-- No unit makes or removes the table. -/
theorem Ending.table {e : FrontierEntry} {outcome : Except FetchError (List Item)}
    {s s' : Stage Tally} {failure : Option String} (h : Ending e outcome s s' failure) :
    s'.world.store.frontier.isSome = s.world.store.frontier.isSome := by
  cases h with
  | visited _ hfinds _ hstore => rw [hstore, Store.markRows, Option.isSome_map, hfinds.adds.table]
  | truncated _ hfinds _ _ hstore => rw [hstore, hfinds.adds.table]
  | errored _ hstore => rw [hstore, Store.markRows, Option.isSome_map]
  | failed _ hfinds => exact hfinds.adds.table

/-- Each unvisited row of the levels read so far waits, is under way or has failed. -/
structure Accounted (events : List Event) (k : Moment) : Prop where
  keyed : k.stage.world.store.Keyed
  table : 0 < k.depth → k.stage.world.store.frontier.isSome
  left : ((k.stage.world.store.leftover k.depth).map (·.id)).Perm
    ((k.queue ++ (k.flight.map (·.1) ++ failed events)).map (·.id))

/-- The rows that a level leaves unvisited when it is read are all in the queue. -/
theorem Accounted.read {d : Nat} {s : Stage Tally} {pending : List FrontierEntry}
    (h : Accounted events ⟨d, [], [], s⟩)
    (hread : s.world.store.entriesAt d .unvisited = .ok pending) :
    Accounted (events ++ [.read d s.world]) ⟨d + 1, pending, [], ⟨s.world, {}⟩⟩ := by
  obtain ⟨htable, hids, -⟩ := Store.entriesAt_eq_ok hread
  refine ⟨h.keyed, fun _ => htable, ?_⟩
  have hleft : ((s.world.store.leftover d).map (·.id)).Perm ((failed events).map (·.id)) := h.left
  have hnext : ((s.world.store.leftover (d + 1)).map (·.id)).Perm
      ((s.world.store.leftover d).map (·.id) ++ pending.map (·.id)) := by
    rw [hids, ← List.map_append]
    exact (Store.leftover_succ d s.world.store).map _
  refine hnext.trans ((hleft.append_right _).trans ?_)
  rw [failed_append, failed_read, List.append_nil, List.map_nil, List.nil_append, List.map_append]
  exact List.perm_append_comm

/-- The row whose answer has come is among those left, beside those that stay accounted for. -/
theorem Accounted.arrival {d n : Nat} {e : FrontierEntry} {q : List FrontierEntry}
    {fl fl' : List (FrontierEntry × Nat)} {s arrival : Stage Tally}
    (h : Accounted events ⟨d, q, fl ++ (e, n) :: fl', s⟩)
    (hothers : s.world.store.Unwritten arrival.world.store) :
    ((arrival.world.store.leftover d).map (·.id)).Perm
      (e.id :: (q ++ ((fl ++ fl').map (·.1) ++ failed events)).map (·.id)) := by
  have hmiddle : (q ++ ((fl ++ (e, n) :: fl').map (·.1) ++ failed events)).Perm
      (e :: (q ++ ((fl ++ fl').map (·.1) ++ failed events))) := by
    simp only [List.map_append, List.map_cons, List.append_assoc, List.cons_append]
    rw [← List.append_assoc, ← List.append_assoc]
    exact List.perm_middle
  rw [Store.leftover_congr hothers.rows, ← List.map_cons]
  exact h.left.trans (hmiddle.map _)

/-- The unit of a row ends, while nobody else has written. Either the row is settled, or the unit
has failed, or the budget is spent. -/
theorem Accounted.settle {d n : Nat} {e : FrontierEntry} {q : List FrontierEntry}
    {fl fl' : List (FrontierEntry × Nat)} {outcome : Except FetchError (List Item)}
    {s arrival s' : Stage Tally} {failure : Option String}
    (h : Accounted events ⟨d, q, fl ++ (e, n) :: fl', s⟩) (hdepth : e.depth + 1 = d)
    (hothers : s.world.store.Unwritten arrival.world.store)
    (hending : Ending e outcome arrival s' failure) :
    s'.world.budget.exhausted = true ∨
      Accounted (events ++ [.settle e n arrival s' failure]) ⟨d, q, fl ++ fl', s'⟩ := by
  have hkeyed := hothers.outside.keyed h.keyed
  have hkeyed' := hending.keyed hkeyed
  have hleft := h.arrival hothers
  have htable : 0 < d → s'.world.store.frontier.isSome := by
    intro hd
    rw [hending.table, hothers.table]
    exact h.table hd
  -- what the unit inserts stands at the level to be read next
  have hadds {mid : Stage Tally} {page : List Item} {added : List FrontierRow}
      (hfinds : Finds (e.depth + 1) page arrival mid added) :
      mid.world.store.leftover d = arrival.world.store.leftover d :=
    hfinds.adds.leftover fun r hr => hdepth ▸ hfinds.depth_eq hr
  cases hending with
  | visited _ hfinds _ hstore =>
    refine .inr ⟨hkeyed', htable, ?_⟩
    rw [← hadds hfinds] at hleft
    rw [hstore, failed_append, failed_settle, if_neg (by simp), List.append_nil]
    exact Store.leftover_markRows_perm (by decide) (hfinds.adds.keyed hkeyed).frontier hleft
  | truncated _ _ hspent => exact .inl hspent
  | errored _ hstore =>
    refine .inr ⟨hkeyed', htable, ?_⟩
    rw [hstore, failed_append, failed_settle, if_neg (by simp), List.append_nil]
    exact Store.leftover_markRows_perm (by decide) hkeyed.frontier hleft
  | failed _ hfinds =>
    refine .inr ⟨hkeyed', htable, ?_⟩
    rw [← hadds hfinds] at hleft
    have hlast : q ++ ((fl ++ fl').map (·.1) ++ (failed events ++ [e])) =
        (q ++ ((fl ++ fl').map (·.1) ++ failed events)) ++ [e] := by simp only [List.append_assoc]
    rw [failed_append, failed_settle, if_pos (by simp), hlast, List.map_append]
    exact hleft.trans (List.perm_append_singleton e.id _).symm

/-- A move keeps account of the unvisited rows, unless it spends the budget. -/
theorem Move.accounted (hc : c.Within Store.Unwritten) (hmove : Move c o k new k')
    (hl : Levelled o events k) (h : Accounted events k) :
    k'.stage.world.budget.exhausted = true ∨ Accounted (events ++ new) k' := by
  cases hmove with
  | note | clock =>
    rw [List.append_nil]
    exact .inr ⟨h.keyed, h.table, h.left⟩
  | read _ hread => exact .inr (h.read hread)
  | skip hspent => exact .inl hspent
  | @call d e q fl s now =>
    refine .inr ⟨h.keyed, h.table, h.left.trans (List.Perm.map _ ?_)⟩
    simp only [failed_append, failed_call, List.append_nil, List.map_append, List.map_cons,
      List.map_nil, List.append_assoc, List.cons_append, List.nil_append]
    rw [← List.append_assoc, ← List.append_assoc]
    exact List.perm_middle.symm
  | @settle _ n e _ _ _ s s' failure hreact =>
    have hending := Ending.of_react hreact
    refine h.settle (hl.flight (e, n) (List.mem_append_right _ List.mem_cons_self)) ?_ hending
    rw [Stage.store_receive]
    exact hc.similar n e.id o.locale s.world.store
  | stop hspent => exact .inl hspent

/-- A budget that is spent stays so. -/
theorem Move.exhausted (hmove : Move c o k new k') (h : k.stage.world.budget.exhausted = true) :
    k'.stage.world.budget.exhausted = true := by
  cases hmove with
  | note | clock | read | skip | call | stop => exact h
  | @settle _ n e _ _ _ s s' failure hreact =>
    have hending := Ending.of_react hreact
    obtain ⟨m, hbudget⟩ := hending.budget
    have hspent : s.world.budget.exhausted = true := h
    rw [Budget.exhausted_iff] at hspent ⊢
    rw [hbudget, Stage.budget_receive, Budget.limit_spend, Budget.crawled_spend]
    exact Nat.le_add_right_of_le hspent

/-- The accounts hold throughout, unless the budget is spent. -/
theorem Course.accounted (hc : c.Within Store.Unwritten) (hw : w.store.Keyed)
    (h : Course c o w events k) :
    k.stage.world.budget.exhausted = true ∨ Accounted events k := by
  induction h with
  | start =>
    refine .inr ⟨hw, nofun, ?_⟩
    rw [Store.leftover_zero]
    exact .nil
  | move hcourse hmove ih =>
    rcases ih with hspent | haccounted
    · exact .inl (hmove.exhausted hspent)
    · exact hmove.accounted hc hcourse.levelled haccounted

/-! ## Another run -/

/-- Levels without unvisited rows are read and no more. -/
theorem runLevels_idle (c : Catalog) (o : Options) (levels depth : Nat) (r : Report) {w : World}
    (h : ∀ d, d < depth + levels → w.store.entriesAt d .unvisited = .ok []) :
    ∃ w', runLevels c o levels depth r w = (.ok r, w') ∧ w'.store = w.store ∧
      w'.calls = w.calls := by
  induction levels generalizing depth w with
  | zero => exact ⟨w, rfl, rfl, rfl⟩
  | succ levels ih =>
    have hread := h depth (by omega)
    by_cases hspent : w.budget.exhausted = true
    · simp only [runLevels, hread, if_pos hspent]
      exact ⟨_, rfl, rfl, rfl⟩
    · simp only [runLevels, hread, if_neg hspent]
      exact ih (depth + 1) fun d hd => h d (by omega)

/-- An expansion that finds no row left below its limit does nothing. -/
theorem run_idle (c : Catalog) {o : Options} {w : World}
    (htable : 0 < o.maxDepth → w.store.frontier.isSome) (h : w.store.leftover o.maxDepth = []) :
    ∃ report w', run c o w = (.ok report, w') ∧ report.levelsRun = 0 ∧ report.similarCalls = 0 ∧
      w'.calls = w.calls ∧ w'.store = w.store := by
  have hread : ∀ d, d < 0 + o.maxDepth → w.store.entriesAt d .unvisited = .ok [] := by
    intro d hd
    rw [Nat.zero_add] at hd
    exact Store.entriesAt_of_leftover (htable (by omega)) h hd
  obtain ⟨w', hlevels, hstore, hcalls⟩ := runLevels_idle c o o.maxDepth 0 {} hread
  refine ⟨{ budgetExhausted := w'.budget.exhausted }, w', ?_, rfl, rfl, hcalls, hstore⟩
  rw [run, hlevels]

/-- **Nothing is left behind.** Let an expansion return with some budget left, where nobody else
wrote but single operations may have failed. Then the unvisited rows below its limit are, by their
ids, those whose units failed on the store, and their number is reported. If there are none, another
expansion of these rows that goes no deeper, with whatever catalog and budget, makes no call, runs
no level and leaves the store as it is. -/
theorem run_leftovers (hc : c.Within Store.Unwritten) (hw : w.store.Keyed) {report : Report}
    {w' : World} (hrun : run c o w = (.ok report, w')) (hroom : w'.budget.exhausted = false) :
    ∃ events, Leads c o w events w' ∧
      ((w'.store.leftover o.maxDepth).map (·.id)).Perm ((failed events).map (·.id)) ∧
      (w'.store.leftover o.maxDepth).length = report.storeFailures ∧
      (report.storeFailures = 0 → ∀ c' o' w₁, o'.maxDepth ≤ o.maxDepth →
        w₁.store.frontier.map (·.rows) = w'.store.frontier.map (·.rows) →
        ∃ report' w₂, run c' o' w₁ = (.ok report', w₂) ∧ report'.levelsRun = 0 ∧
          report'.similarCalls = 0 ∧ w₂.calls = w₁.calls ∧ w₂.store = w₁.store) := by
  obtain ⟨events, k, hcourse, hqueue, hflight, hworld, hok⟩ := run_course c o w
  rw [hrun] at hworld hok
  dsimp only at hworld hok
  obtain ⟨hreport, hdepth⟩ := hok report rfl
  have haccounted : Accounted events k := by
    rcases hcourse.accounted hc hw with hspent | haccounted
    · rw [hworld, hroom] at hspent
      cases hspent
    · exact haccounted
  have hleft := haccounted.left
  rw [hqueue, hflight, hworld, hdepth hroom] at hleft
  have hnumber : (w'.store.leftover o.maxDepth).length = report.storeFailures := by
    rw [hreport, ← List.length_map (·.id), hleft.length_eq, List.length_map]
    rfl
  refine ⟨events, ⟨k, hcourse, hqueue, hflight, hworld⟩, hleft, hnumber, ?_⟩
  intro hnone c' o' w₁ hlimit hsame
  have hempty : w'.store.leftover o.maxDepth = [] :=
    List.eq_nil_of_length_eq_zero (hnumber.trans hnone)
  have hrows : w₁.store.rows = w'.store.rows := by rw [Store.rows, hsame, Store.rows]
  refine run_idle c' (fun hpos => ?_) ?_
  · have htable := haccounted.table (by rw [hdepth hroom]; omega)
    have hsome := congrArg Option.isSome hsame
    rw [Option.isSome_map, Option.isSome_map] at hsome
    rw [hsome, ← hworld]
    exact htable
  · rw [Store.leftover_congr hrows]
    exact Store.leftover_eq_nil_of_le hempty hlimit

/-- The store with one row to start from, where no mark can be set on a neighbour of it. -/
def stuck : Store :=
  { Store.seeded with frontier := Store.seeded.frontier.map ({ · with noUpdate := ["b"] }) }

theorem answering_within (f : Related) (delay : Nat → Nat) :
    (Catalog.answering f delay).Within Store.Unwritten where
  list _ _ _ := ⟨rfl, rfl⟩
  similar _ _ _ _ := ⟨rfl, rfl⟩
  detail _ _ _ _ := ⟨rfl, rfl⟩

/-- An expansion with answers in an order other than that of the calls. -/
def sampleRun (store : Store) : Except StoreError Report × World :=
  run (.answering .sample (5 - ·)) { maxDepth := 3 } { store, budget := ⟨9, 0⟩ }

/-- One unit fails, after it has inserted a neighbour. Without the obstacle none does, and another
expansion finds nothing to do. -/
theorem run_leftovers_stuck :
    (∃ report w' events, sampleRun stuck = (.ok report, w') ∧
        Leads (.answering .sample (5 - ·)) { maxDepth := 3 } { store := stuck, budget := ⟨9, 0⟩ }
          events w' ∧
        w'.budget.exhausted = false ∧ report.storeFailures = 1 ∧
          (failed events).map (·.id) = ["b"]) ∧
      ∃ report w' report' w₂, sampleRun .seeded = (.ok report, w') ∧ report.storeFailures = 0 ∧
        run crowded { maxDepth := 2 } w' = (.ok report', w₂) ∧ report'.levelsRun = 0 ∧
        w₂.calls = w'.calls ∧ w₂.store = w'.store := by
  constructor
  · have hroom : (sampleRun stuck).2.budget.exhausted = false := by decide +kernel
    have hfailures : (sampleRun stuck).1.toOption.map (·.storeFailures) = some 1 := by
      decide +kernel
    have hleft : ((sampleRun stuck).2.store.leftover 3).map (·.id) = ["b"] := by decide +kernel
    have hkeyed : stuck.Keyed := ⟨by decide, by decide⟩
    rcases hrun : sampleRun stuck with ⟨_ | report, w'⟩ <;> rw [hrun] at hroom hfailures hleft
    · cases hfailures
    · obtain ⟨events, hleads, hperm, -, -⟩ :=
        run_leftovers (answering_within .sample (5 - ·)) hkeyed hrun hroom
      replace hperm : ["b"].Perm ((failed events).map (·.id)) := hleft ▸ hperm
      exact ⟨report, w', events, rfl, hleads, hroom, Option.some.inj hfailures,
        (List.singleton_perm.mp hperm).symm⟩
  · have hroom : (sampleRun .seeded).2.budget.exhausted = false := by decide +kernel
    have hfailures : (sampleRun .seeded).1.toOption.map (·.storeFailures) = some 0 := by
      decide +kernel
    have hkeyed : Store.seeded.Keyed := ⟨by decide, by decide⟩
    rcases hrun : sampleRun .seeded with ⟨_ | report, w'⟩ <;> rw [hrun] at hroom hfailures
    · cases hfailures
    · have hnone : report.storeFailures = 0 := Option.some.inj hfailures
      obtain ⟨events, -, -, -, hidle⟩ :=
        run_leftovers (answering_within .sample (5 - ·)) hkeyed hrun hroom
      obtain ⟨report', w₂, hrun', hlevels, -, hcalls, hstore⟩ :=
        hidle hnone crowded { maxDepth := 2 } w' (by decide) rfl
      exact ⟨report, w', report', w₂, rfl, hnone, hrun', hlevels, hcalls, hstore⟩

end Expansion

end CatalogCrawl
