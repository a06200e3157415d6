import CatalogCrawl.Proofs.CallRate
import CatalogCrawl.Proofs.ExpansionPairs
import CatalogCrawl.Proofs.Leftovers

/-! # The accounts of an expansion

At every moment of a level, each row that was selected waits for its turn, has had a call made for
it or was skipped, and each call is under way or has been counted by how its unit ended
(`Expansion.Balanced`). So the report of an expansion that returns adds up, on every store and
whatever others write. If nobody else writes, the rows it counts as visited and as errors are those
that have become so (`Expansion.Marked`). -/

namespace CatalogCrawl

namespace Pacer

variable {α β σ : Type}

/-- What everything but a stop keeps holds at the end of a run for the units that were skipped. If
there are any, the stop condition holds. -/
theorem runUntil_remainder [Logged σ] {unit : α → Work σ} {ends : β → Nat → σ → σ × Option String}
    {I : List α → List β → Nat → σ → Prop} (hI : Invariant unit ends (fun _ => false) I)
    (stop : σ → Bool) (hstop : ∀ r s, stop (Logged.note r s) = stop s) (size window : Nat)
    {xs : List α} (now : Nat) {s : σ} (h : I xs [] 0 s) :
    ∃ rest, rest.length = (runUntil size window stop (xs.map unit) now s).report.skipped ∧
      I rest [] (runUntil size window stop (xs.map unit) now s).report.failed
        (runUntil size window stop (xs.map unit) now s).state ∧
      (0 < rest.length → stop (runUntil size window stop (xs.map unit) now s).state = true) := by
  obtain ⟨k, hk, -, hcase⟩ := runUntil_boundary size window stop (xs.map unit) now s
  obtain ⟨-, -, -, -, -, hnone, -⟩ := boundary_rounds size window (xs.map unit) now s hk
  let n := max size 1 * k
  -- up to the boundary the run is that of the first units, with the others still waiting
  have hfirst : Invariant unit ends (fun _ => false) (fun q => I (q ++ xs.drop n)) :=
    ⟨hI.note, hI.launch, hI.finish, nofun⟩
  have hreached : I (xs.drop n) [] (boundary size window (xs.map unit) now s k).report.failed
      (boundary size window (xs.map unit) now s k).state := by
    rw [boundary, ← List.map_take]
    refine runUntil_invariant hfirst size window now ?_
    rw [List.take_append_drop]
    exact h
  rw [List.length_map] at hcase
  refine ⟨xs.drop n, ?_⟩
  rcases hcase with ⟨hall, hrun⟩ | ⟨hleft, hspent, hrun⟩
  · have hzero : (xs.drop n).length = 0 := by
      rw [List.length_drop]
      exact Nat.sub_eq_zero_of_le hall
    rw [hrun, hzero, hnone]
    exact ⟨rfl, hreached, nofun⟩
  · rw [hrun]
    refine ⟨List.length_drop, hI.note _ hreached, fun _ => ?_⟩
    exact (hstop _ _).trans hspent

end Pacer

namespace Stage

variable {α τ : Type} {call : Call} {ask : Nat → Answer α}
  {react : Except FetchError α → Stage τ → Stage τ × Option String} (now : Nat) (s : Stage τ)

theorem store_request : (request call ask react now s).1.world.store = s.world.store :=
  (noteAll_cases _ _).1

theorem budget_request : (request call ask react now s).1.world.budget = s.world.budget :=
  (noteAll_cases _ _).2.1

theorem tally_request : (request call ask react now s).1.tally = s.tally := by
  rw [request, noteAll_eq]

end Stage

/-! ## Rows that change their status -/

namespace Store

variable {s₀ s s' : Store} {status : Status}

/-- A row has a status, and was unvisited in the store if it was there. -/
def hasTurned (status : Status) (s : Store) (r : FrontierRow) : Bool :=
  r.code = status.code ∧ ∀ r₀ ∈ s.rows, r₀.id = r.id → r₀.code = Status.unvisited.code

/-- The rows of a later store that have come to a status. -/
def turned (status : Status) (s s' : Store) : List FrontierRow :=
  s'.rows.filter (s.hasTurned status)

theorem hasTurned_of_unvisited (hstatus : status ≠ .unvisited) {r : FrontierRow}
    (hcode : r.code = Status.unvisited.code) : s.hasTurned status r = false := by
  refine decide_eq_false fun hturned => hstatus ?_
  have hsame : some status = some .unvisited := by
    rw [← Status.ofCode?_code, ← hturned.1, hcode, Status.ofCode?_code]
  exact Option.some.inj hsame

theorem turned_congr (h : s'.rows = s.rows) (status : Status) :
    s₀.turned status s' = s₀.turned status s := by
  rw [turned, turned, h]

theorem turned_self (hstatus : status ≠ .unvisited) (s : Store) : s.turned status s = [] := by
  refine List.filter_eq_nil_iff.mpr fun r hr hturned => ?_
  have hcode := (of_decide_eq_true hturned).2 r hr rfl
  rw [hasTurned_of_unvisited hstatus hcode] at hturned
  cases hturned

/-- New rows are unvisited. -/
theorem Adds.turned {added : List FrontierRow} (h : s.Adds s' added)
    (hstatus : status ≠ .unvisited) : s₀.turned status s' = s₀.turned status s := by
  have hnone : added.filter (s₀.hasTurned status) = [] := by
    refine List.filter_eq_nil_iff.mpr fun r hr hturned => ?_
    rw [hasTurned_of_unvisited hstatus (h.unvisited r hr)] at hturned
    cases hturned
  rw [Store.turned, h.rows, List.filter_append, hnone, List.append_nil, Store.turned]

/-- A mark changes the one row of its id. -/
theorem rows_markRows_split {r : FrontierRow} (hs : s.ids.Nodup) (hr : r ∈ s.rows)
    (hcode : r.code = Status.unvisited.code) (status : Status) :
    ∃ before after, s.rows = before ++ r :: after ∧
      (s.markRows r.id status).rows = before ++ { r with code := status.code } :: after := by
  obtain ⟨before, after, hsplit⟩ := List.append_of_mem hr
  refine ⟨before, after, hsplit, ?_⟩
  have hnew : r.id ∉ before.map (·.id) ∧ r.id ∉ after.map (·.id) := by
    rw [ids, hsplit, List.map_append, List.map_cons] at hs
    have hmiddle := List.nodup_middle.mp hs
    rw [← not_or, ← List.mem_append]
    exact (List.nodup_cons.mp hmiddle).1
  have hkept {rows : List FrontierRow} (hid : r.id ∉ rows.map (·.id)) :
      rows.map (markRow r.id status) = rows := by
    refine (List.map_congr_left fun x hx => ?_).trans (List.map_id rows)
    exact if_neg fun hhit => hid (List.mem_map.mpr ⟨x, hx, hhit.1⟩)
  rw [rows_markRows, hsplit, List.map_append, List.map_cons, hkept hnew.1, hkept hnew.2]
  congr 2
  exact if_pos ⟨rfl, hcode⟩

/-- A mark that is set on an unvisited row is one more, if the row was not settled before. -/
theorem length_turned_markRows {r : FrontierRow} (hs : s.ids.Nodup) (hr : r ∈ s.rows)
    (hcode : r.code = Status.unvisited.code)
    (hbefore : ∀ r₀ ∈ s₀.rows, r₀.id = r.id → r₀.code = Status.unvisited.code)
    (hstatus : status ≠ .unvisited) (mark : Status) :
    (s₀.turned status (s.markRows r.id mark)).length =
      (s₀.turned status s).length + if status = mark then 1 else 0 := by
  obtain ⟨before, after, hrows, hmarked⟩ := rows_markRows_split hs hr hcode mark
  have hwas : s₀.hasTurned status r = false := hasTurned_of_unvisited hstatus hcode
  have hnow : s₀.hasTurned status { r with code := mark.code } = decide (status = mark) := by
    refine decide_eq_decide.mpr ⟨fun hturned => ?_, fun hsame => ⟨by rw [hsame], hbefore⟩⟩
    have hsame : some status = some mark := by
      rw [← Status.ofCode?_code, ← hturned.1, Status.ofCode?_code]
    exact Option.some.inj hsame
  rw [turned, turned, hmarked, hrows]
  simp only [List.filter_append, List.filter_cons, hwas, hnow, decide_eq_true_eq,
    Bool.false_eq_true, if_false, List.length_append]
  split
  · rw [List.length_cons, Nat.add_assoc]
  · rfl

end Store

namespace Expansion

variable {c : Catalog} {o : Options} {w₀ w w' : World} {l : Locale} {r : Report}
  {s s' : Stage Tally}
  {e : FrontierEntry} {outcome : Except FetchError (List Item)} {failure : Option String}
  {selected waiting flight : Nat}

/-! ## What adds up -/

/-- How the rows selected since the world `w₀` have been counted, while some wait for their turn and
some calls are under way. -/
structure Balanced (w₀ : World) (l : Locale) (selected waiting flight : Nat) (r : Report)
    (w : World) : Prop where
  rows : selected = waiting + r.similarCalls + r.skipped
  calls : r.similarCalls = flight + r.visited + r.errors + r.truncated + r.storeFailures
  made : ∃ made, w.calls = w₀.calls ++ made ∧ made.length = r.similarCalls ∧
    ∀ x ∈ made, ∃ id, x.2 = .similar id l
  inserted : w.budget.crawled = w₀.budget.crawled + r.inserted
  cut : 0 < r.truncated + r.skipped → w.budget.exhausted = true

/-- How a unit that ends is counted. -/
theorem Ending.counts (h : Ending e outcome s s' failure) :
    s'.tally.calls = s.tally.calls ∧ s'.tally.skipped = s.tally.skipped ∧
      s'.tally.visited + s'.tally.errors + s'.tally.truncated + (if failure.isSome then 1 else 0) =
        s.tally.visited + s.tally.errors + s.tally.truncated + 1 ∧
      s'.world.budget.crawled + s.tally.inserted = s.world.budget.crawled + s'.tally.inserted := by
  cases h with
  | visited _ hfinds _ _ hbudget _ htally =>
    simp only [htally, hbudget, hfinds.tally, hfinds.budget, Budget.crawled_spend,
      Option.isSome_none, Bool.false_eq_true, if_false, true_and]
    omega
  | truncated _ hfinds _ _ _ hbudget _ htally =>
    simp only [htally, hbudget, hfinds.tally, hfinds.budget, Budget.crawled_spend,
      Option.isSome_none, Bool.false_eq_true, if_false, true_and]
    omega
  | errored _ _ hbudget _ htally =>
    simp only [htally, hbudget, Option.isSome_none, Bool.false_eq_true, if_false, true_and,
      and_true]
    omega
  | failed _ hfinds =>
    simp only [hfinds.tally, hfinds.budget, Budget.crawled_spend, Option.isSome_some, if_true,
      true_and]
    omega

theorem Ending.exhausted (h : Ending e outcome s s' failure)
    (hspent : s.world.budget.exhausted = true) : s'.world.budget.exhausted = true := by
  obtain ⟨n, hbudget⟩ := h.budget
  rw [Budget.exhausted_iff] at hspent ⊢
  rw [hbudget, Budget.limit_spend, Budget.crawled_spend]
  exact Nat.le_add_right_of_le hspent

namespace Balanced

theorem start (w : World) (l : Locale) : Balanced w l 0 0 0 {} w :=
  ⟨rfl, rfl, ⟨[], (List.append_nil _).symm, rfl, List.forall_mem_nil _⟩, rfl, nofun⟩

theorem congr (h : Balanced w₀ l selected waiting flight r w) (hcalls : w'.calls = w.calls)
    (hbudget : w'.budget = w.budget) : Balanced w₀ l selected waiting flight r w' :=
  ⟨h.rows, h.calls, hcalls ▸ h.made, hbudget ▸ h.inserted, hbudget ▸ h.cut⟩

/-- The rows of a level are selected. -/
theorem select (h : Balanced w₀ l selected 0 0 r w) (n : Nat) :
    Balanced w₀ l (selected + n) n 0 (r.add {} {}) w where
  rows := by
    have hrows := h.rows
    simp only [Report.add]
    omega
  calls := h.calls
  made := h.made
  inserted := h.inserted
  cut := h.cut

/-- A unit that finds the budget spent counts its row as skipped. -/
theorem skip {batch : Pacer.Report}
    (h : Balanced w₀ l selected (waiting + 1) flight (r.add s.tally batch) s.world)
    (hspent : s.world.budget.exhausted = true) :
    Balanced w₀ l selected waiting flight
      (r.add { s.tally with skipped := s.tally.skipped + 1 } batch) s.world where
  rows := by
    have hrows := h.rows
    simp only [Report.add] at hrows ⊢
    omega
  calls := h.calls
  made := h.made
  inserted := h.inserted
  cut _ := hspent

/-- A call takes its row from those that wait to those under way. -/
theorem call {batch : Pacer.Report}
    (h : Balanced w₀ l selected (waiting + 1) flight (r.add s.tally batch) s.world) (now : Nat)
    (id : String) :
    Balanced w₀ l selected waiting (flight + 1)
      (r.add { s.tally with calls := s.tally.calls + 1 } batch)
      (s.world.call now (.similar id l)) where
  rows := by
    have hrows := h.rows
    simp only [Report.add] at hrows ⊢
    omega
  calls := by
    have hcalls := h.calls
    simp only [Report.add] at hcalls ⊢
    omega
  made := by
    obtain ⟨made, hcalls, hlength, hsimilar⟩ := h.made
    refine ⟨made ++ [(now, .similar id l)], ?_, ?_, ?_⟩
    · rw [World.call, hcalls, List.append_assoc]
    · rw [List.length_append, hlength]
      exact Nat.add_assoc _ _ _
    · exact List.forall_mem_append.mpr ⟨hsimilar, List.forall_mem_singleton.mpr ⟨id, rfl⟩⟩
  inserted := h.inserted
  cut := h.cut

/-- A unit ends. It is counted by how it ended, or is one more failure. -/
theorem settle {batch : Pacer.Report}
    (h : Balanced w₀ l selected waiting (flight + 1) (r.add s.tally batch) s.world)
    (hending : Ending e outcome s s' failure) :
    Balanced w₀ l selected waiting flight
      (r.add s'.tally { batch with failed := batch.failed + if failure.isSome then 1 else 0 })
        s'.world := by
  obtain ⟨hcalls, hskipped, hended, hinserted⟩ := hending.counts
  refine ⟨?_, ?_, ?_, ?_, fun hcut => ?_⟩
  · have hrows := h.rows
    simp only [Report.add] at hrows ⊢
    omega
  · have hold := h.calls
    simp only [Report.add] at hold ⊢
    omega
  · simp only [Report.add, hcalls, hending.calls]
    exact h.made
  · have hold := h.inserted
    simp only [Report.add] at hold ⊢
    omega
  · by_cases htruncated : s'.tally.truncated = s.tally.truncated
    · refine hending.exhausted (h.cut ?_)
      simp only [Report.add] at hcut ⊢
      omega
    · exact (hending.cut_of_truncated htruncated).1

/-- The rows that wait are skipped. -/
theorem drop {t : Tally} {batch : Pacer.Report}
    (h : Balanced w₀ l selected waiting 0 (r.add t batch) w)
    (hspent : 0 < waiting → w.budget.exhausted = true) :
    Balanced w₀ l selected 0 0 (r.add t { batch with skipped := batch.skipped + waiting }) w where
  rows := by
    have hrows := h.rows
    simp only [Report.add] at hrows ⊢
    omega
  calls := h.calls
  made := h.made
  inserted := h.inserted
  cut hcut := by
    rcases Nat.eq_zero_or_pos waiting with hzero | hpos
    · refine h.cut ?_
      simp only [Report.add] at hcut ⊢
      omega
    · exact hspent hpos

end Balanced

/-! ## What is marked -/

/-- The number of rows counted as marked with a status. -/
def Tally.marked (t : Tally) : Status → Nat
  | .unvisited => 0
  | .visited => t.visited
  | .error => t.errors

/-- The rows that have been visited or marked as errors since `s₀` are those of the report, and the
rows whose turns or answers are to come are unvisited. -/
structure Marked (s₀ : Store) (es : List FrontierEntry) (r : Report) (s : Store) : Prop where
  keyed : s.Keyed
  waits : Waits es s
  kept : ∀ r₀ ∈ s₀.rows, r₀.code ≠ Status.unvisited.code → r₀ ∈ s.rows
  visited : (s₀.turned .visited s).length = r.visited
  errors : (s₀.turned .error s).length = r.errors

namespace Marked

variable {s₀ store store' : Store} {es : List FrontierEntry}

theorem start (hs : store.Keyed) : Marked store [] {} store where
  keyed := hs
  waits := .nil store
  kept _ hr _ := hr
  visited := by rw [Store.turned_self (by decide)]; rfl
  errors := by rw [Store.turned_self (by decide)]; rfl

theorem of_rows (h : Marked s₀ es r store) (hk : store'.Keyed) (hrows : store'.rows = store.rows) :
    Marked s₀ es r store' where
  keyed := hk
  waits := ⟨h.waits.distinct, hrows ▸ h.waits.row⟩
  kept := hrows ▸ h.kept
  visited := (congrArg List.length (Store.turned_congr hrows .visited)).trans h.visited
  errors := (congrArg List.length (Store.turned_congr hrows .error)).trans h.errors

/-- A row whose answer is on its way was not settled before. -/
theorem unsettled (h : Marked s₀ (e :: es) r store) {r₀ : FrontierRow} (hr : r₀ ∈ s₀.rows)
    (hid : r₀.id = e.id) : r₀.code = Status.unvisited.code := by
  by_contra hcode
  exact hcode (h.waits.code h.keyed List.mem_cons_self (h.kept r₀ hr hcode) hid)

/-- What a mark adds to the rows of a status, if neighbours were found before. -/
theorem length_turned {mid : Stage Tally} {depth : Nat} {page : List Item}
    {added : List FrontierRow}
    (h : Marked s₀ (e :: es) r s.world.store) (hfinds : Finds depth page s mid added)
    {status : Status} (hstatus : status ≠ .unvisited) (mark : Status) :
    (s₀.turned status (mid.world.store.markRows e.id mark)).length =
      (s₀.turned status s.world.store).length + if status = mark then 1 else 0 := by
  obtain ⟨row, hrow, hid, hcode⟩ := h.waits.row e List.mem_cons_self
  have hkeyed := hfinds.adds.keyed h.keyed
  have hbefore (r₀ : FrontierRow) (hr₀ : r₀ ∈ s₀.rows) (hsame : r₀.id = row.id) :
      r₀.code = Status.unvisited.code := h.unsettled hr₀ (hsame.trans hid)
  have hmarked := Store.length_turned_markRows hkeyed.frontier (hfinds.rows_prefix.subset hrow)
    hcode hbefore hstatus mark
  rw [hid, hfinds.adds.turned hstatus] at hmarked
  exact hmarked

/-- A unit that ends counts its row with those of the status that it gives to it. -/
theorem turned_ending (h : Marked s₀ (e :: es) r s.world.store)
    (hending : Ending e outcome s s' failure) {status : Status} (hstatus : status ≠ .unvisited) :
    (s₀.turned status s'.world.store).length + s.tally.marked status =
      (s₀.turned status s.world.store).length + s'.tally.marked status := by
  cases hending with
  | visited _ hfinds _ hstore _ _ htally =>
    rw [hstore, h.length_turned hfinds hstatus, htally, hfinds.tally]
    cases status <;> simp only [Tally.marked, reduceCtorEq, if_true, if_false] <;> omega
  | truncated _ hfinds _ _ hstore _ _ htally =>
    rw [hstore, hfinds.adds.turned hstatus, htally, hfinds.tally]
    cases status <;> rfl
  | errored _ hstore _ _ htally =>
    rw [hstore, h.length_turned (.nil 0 [] s) hstatus, htally]
    cases status <;> simp only [Tally.marked, reduceCtorEq, if_true, if_false] <;> omega
  | failed _ hfinds =>
    rw [hfinds.adds.turned hstatus, hfinds.tally]
    cases status <;> rfl

/-- However its unit ends, a row is marked as it is counted. -/
theorem settle {batch batch' : Pacer.Report}
    (h : Marked s₀ (e :: es) (r.add s.tally batch) s.world.store)
    (hending : Ending e outcome s s' failure) :
    Marked s₀ es (r.add s'.tally batch') s'.world.store where
  keyed := hending.keyed h.keyed
  waits := hending.waits h.waits
  kept r₀ hr₀ hcode := hending.row_kept (h.kept r₀ hr₀ hcode) fun hid => hcode (h.unsettled hr₀ hid)
  visited := by
    have hold := h.visited
    have hturned : (s₀.turned .visited s'.world.store).length + s.tally.visited =
        (s₀.turned .visited s.world.store).length + s'.tally.visited :=
      h.turned_ending hending (by decide)
    simp only [Report.add] at hold ⊢
    omega
  errors := by
    have hold := h.errors
    have hturned : (s₀.turned .error s'.world.store).length + s.tally.errors =
        (s₀.turned .error s.world.store).length + s'.tally.errors :=
      h.turned_ending hending (by decide)
    simp only [Report.add] at hold ⊢
    omega

end Marked

/-! ## A level -/

/-- Everything that can happen while a level is expanded keeps the balance. -/
theorem unit_balanced (c : Catalog) (l : Locale) (w₀ : World) (selected : Nat) (r : Report) :
    Pacer.Invariant (unit c l) (ends c l) (fun _ => false) fun q fl n s =>
      Balanced w₀ l selected q.length fl.reduceOption.length
        (r.add s.tally { failed := n }) s.world where
  note _ h := h.congr rfl rfl
  launch {e q fl n s} now h := by
    unfold unit
    split
    · next hspent =>
      refine ⟨none, rfl, ?_⟩
      rw [List.reduceOption_append, List.reduceOption_singleton, Option.toList_none,
        List.append_nil]
      exact h.skip hspent
    · refine ⟨some (e, s.world.calls.length), rfl, ?_⟩
      rw [List.reduceOption_append, List.reduceOption_singleton, List.length_append,
        Stage.tally_request]
      exact (h.call now e.id).congr (Stage.calls_request _ _) (Stage.budget_request _ _)
  finish {q fl b fl' n s} now h := by
    rw [List.reduceOption_append] at h ⊢
    cases b with
    | none => exact h
    | some b =>
      obtain ⟨e, number⟩ := b
      rw [List.reduceOption_cons_of_some, List.length_append, List.length_cons] at h
      rw [List.length_append]
      have harrival :
          Balanced w₀ l selected q.length (fl.reduceOption.length + fl'.reduceOption.length + 1)
          (r.add (s.receive (c.similar number e.id l)).tally { failed := n })
          (s.receive (c.similar number e.id l)).world := by
        rw [Stage.tally_receive]
        exact h.congr (Stage.calls_receive _ _) (Stage.budget_receive _ _)
      exact harrival.settle (react_ending e _ _)
  halt := nofun

/-- A level adds the rows that were read for it to those selected. -/
theorem runLevel_balanced (c : Catalog) (o : Options) (depth : Nat) (pending : List FrontierEntry)
    (h : Balanced w₀ o.locale selected 0 0 r w) :
    Balanced w₀ o.locale (selected + pending.length) 0 0 (runLevel c o depth pending r w).1
      (runLevel c o depth pending r w).2 := by
  obtain ⟨rest, hrest, hend, hspent⟩ := Pacer.runUntil_remainder
    (unit_balanced c o.locale w₀ (selected + pending.length) r)
    (fun s => s.world.budget.exhausted) (fun _ _ => rfl) o.batchSize o.expandWindow w.now
    (s := ⟨w, {}⟩) (h.select pending.length)
  have hdropped := hend.drop hspent
  rw [Nat.zero_add, hrest] at hdropped
  exact hdropped.congr rfl rfl

/-- While nobody else writes, the marks agree with the counts throughout a level. -/
theorem unit_marked {c : Catalog} (hc : c.Within Store.Unwritten) (l : Locale) (s₀ : Store)
    (r : Report) :
    Pacer.Invariant (unit c l) (ends c l) (fun _ => false) fun q fl n s =>
      Marked s₀ (q ++ fl.reduceOption.map (·.1)) (r.add s.tally { failed := n }) s.world.store where
  note _ h := h
  launch {e q fl n s} now h := by
    unfold unit
    split
    · refine ⟨none, rfl, ?_⟩
      rw [List.reduceOption_append, List.reduceOption_singleton, Option.toList_none,
        List.append_nil]
      exact { h with waits := h.waits.tail }
    · refine ⟨some (e, s.world.calls.length), rfl, ?_⟩
      rw [List.reduceOption_append, List.reduceOption_singleton, Option.toList_some,
        List.map_append, ← List.append_assoc, Stage.tally_request, Stage.store_request]
      exact { h with waits := h.waits.perm (List.perm_append_singleton _ _) }
  finish {q fl b fl' n s} now h := by
    rw [List.reduceOption_append] at h ⊢
    cases b with
    | none => exact h
    | some b =>
      obtain ⟨e, number⟩ := b
      rw [List.reduceOption_cons_of_some, List.map_append, List.map_cons, ← List.append_assoc] at h
      rw [List.map_append, ← List.append_assoc]
      have hothers := hc.similar number e.id l s.world.store
      have harrival :
          Marked s₀ (e :: (q ++ fl.reduceOption.map (·.1) ++ fl'.reduceOption.map (·.1)))
          (r.add (s.receive (c.similar number e.id l)).tally { failed := n })
          (s.receive (c.similar number e.id l)).world.store := by
        rw [Stage.tally_receive, Stage.store_receive]
        refine Marked.of_rows ?_ (hothers.outside.keyed h.keyed) hothers.rows
        exact { h with waits := h.waits.perm List.perm_middle.symm }
      exact harrival.settle (react_ending e _ _)
  halt := nofun

/-- After a level the marks agree with the counts, and no row waits. -/
theorem runLevel_marked {c : Catalog} (hc : c.Within Store.Unwritten) (o : Options) (depth : Nat)
    {s₀ : Store} {pending : List FrontierEntry} (h : Marked s₀ [] r w.store)
    (hwaits : Waits pending w.store) :
    Marked s₀ [] (runLevel c o depth pending r w).1 (runLevel c o depth pending r w).2.store := by
  have hstart : Marked s₀ (pending ++ []) (r.add {} {}) w.store := by
    rw [List.append_nil]
    exact ⟨h.keyed, hwaits, h.kept, h.visited, h.errors⟩
  obtain ⟨rest, -, hend, -⟩ := Pacer.runUntil_remainder (unit_marked hc o.locale s₀ r)
    (fun s => s.world.budget.exhausted) (fun _ _ => rfl) o.batchSize o.expandWindow w.now
    (s := ⟨w, {}⟩) hstart
  exact ⟨hend.keyed, .nil _, hend.kept, hend.visited, hend.errors⟩

/-! ## The levels -/

/-- The world after the first levels of an expansion, in which the next one is read if
none has failed. -/
def atLevel (c : Catalog) (o : Options) (w : World) (d : Nat) : World := (runLevels c o d 0 {} w).2

/-- The rows selected at a level: those that are unvisited when it is read, if there is
budget left. -/
def selectedAt (c : Catalog) (o : Options) (w : World) (d : Nat) : List FrontierRow :=
  if (atLevel c o w d).budget.exhausted then [] else (atLevel c o w d).store.level d

/-- An expansion reaches a level if all levels above it could be read and had budget. -/
def Reached (c : Catalog) (o : Options) (w : World) (d : Nat) : Prop :=
  ∀ d' < d, (∃ es, (atLevel c o w d').store.entriesAt d' .unvisited = .ok es) ∧
    (atLevel c o w d').budget.exhausted = false

/-- A level leads on to the next if its rows can be read and some budget is left by then. -/
theorem reached_succ {d : Nat} :
    Reached c o w (d + 1) ↔ Reached c o w d ∧
      (∃ es, (atLevel c o w d).store.entriesAt d .unvisited = .ok es) ∧
      (atLevel c o w d).budget.exhausted = false :=
  Nat.forall_lt_succ_right

/-- The levels from a reached one on are run after those above it. -/
theorem Reached.runLevels {d : Nat} (h : Reached c o w d) :
    ∃ r, ∀ levels, runLevels c o (d + levels) 0 {} w =
      runLevels c o levels d r (atLevel c o w d) := by
  induction d with
  | zero => exact ⟨{}, fun levels => by rw [Nat.zero_add]; rfl⟩
  | succ d ih =>
    obtain ⟨hd, ⟨es, hread⟩, hroom⟩ := reached_succ.mp h
    obtain ⟨r, hr⟩ := ih hd
    have hnext : ∃ r' u, ∀ levels,
        Expansion.runLevels c o (d + 1 + levels) 0 {} w =
          Expansion.runLevels c o levels (d + 1) r' u := by
      simp only [Nat.add_assoc, Nat.add_comm 1, hr, Expansion.runLevels, hread, hroom,
        Bool.false_eq_true, if_false]
      split
      · exact ⟨_, _, fun _ => rfl⟩
      · exact ⟨_, _, fun _ => rfl⟩
    obtain ⟨r', u, hnext⟩ := hnext
    obtain rfl : atLevel c o w (d + 1) = u := congrArg Prod.snd (hnext 0)
    exact ⟨r', hnext⟩

/-- If a level is not reached, those below it make no difference, because one above could not be
read or had no budget. -/
theorem runLevels_of_not_reached {d : Nat} (h : ¬Reached c o w d) (levels : Nat) :
    runLevels c o (d + levels) 0 {} w = runLevels c o d 0 {} w ∧
      ((∃ e, (runLevels c o d 0 {} w).1 = .error e) ∨
        (atLevel c o w d).budget.exhausted = true) := by
  induction d generalizing levels with
  | zero => exact (h nofun).elim
  | succ d ih =>
    by_cases hd : Reached c o w d
    · obtain ⟨r, hr⟩ := hd.runLevels
      unfold atLevel
      rw [Nat.add_assoc, Nat.add_comm 1, hr, hr]
      cases hread : (atLevel c o w d).store.entriesAt d .unvisited with
      | error e =>
        simp only [runLevels, hread]
        exact ⟨trivial, .inl ⟨e, rfl⟩⟩
      | ok es =>
        have hspent : (atLevel c o w d).budget.exhausted = true := by
          by_contra hroom
          exact h (reached_succ.mpr ⟨hd, ⟨es, hread⟩, Bool.not_eq_true _ ▸ hroom⟩)
        simp only [runLevels, hread, hspent, if_true]
        exact ⟨trivial, .inr hspent⟩
    · obtain ⟨hsame, hend⟩ := ih hd 1
      unfold atLevel at hend ⊢
      rw [hsame, Nat.add_assoc, (ih hd _).1]
      exact ⟨rfl, hend⟩

/-- One level that is read. It is run if there is budget and there are rows. -/
theorem runLevels_one {depth : Nat} {r' : Report} (h : runLevels c o 1 depth r w = (.ok r', w')) :
    ∃ pending, w.store.entriesAt depth .unvisited = .ok pending ∧
      ((w.budget.exhausted = true ∨ w.budget.exhausted = false ∧ pending = []) ∧
          (∃ note, w' = Logged.note note w) ∧ r' = r ∨
        w.budget.exhausted = false ∧
          ∃ note, runLevel c o depth pending r (Logged.note note w) = (r', w')) := by
  unfold runLevels at h
  cases hread : w.store.entriesAt depth .unvisited with
  | error e =>
    rw [hread] at h
    cases h
  | ok pending =>
    rw [hread] at h
    refine ⟨pending, rfl, ?_⟩
    dsimp only at h
    split at h
    · next hspent =>
      cases h
      exact .inl ⟨.inl hspent, ⟨_, rfl⟩, rfl⟩
    · next hroom =>
      rw [Bool.not_eq_true] at hroom
      split at h
      · next hempty =>
        cases h
        exact .inl ⟨.inr ⟨hroom, List.isEmpty_iff.mp hempty⟩, ⟨_, rfl⟩, rfl⟩
      · rw [runLevels] at h
        cases h
        exact .inr ⟨hroom, _, rfl⟩

/-- One level of the loop. It selects no row if the budget is spent before it. -/
theorem runLevels_one_balanced {depth : Nat} {r' : Report}
    (h : runLevels c o 1 depth r w = (.ok r', w')) (hb : Balanced w₀ o.locale selected 0 0 r w) :
    Balanced w₀ o.locale
      (selected + (if w.budget.exhausted then [] else w.store.level depth).length) 0 0 r' w' := by
  obtain ⟨pending, hread, hcase⟩ := runLevels_one h
  have hlevel : pending.length = (w.store.level depth).length := by
    have hids := congrArg List.length (Store.entriesAt_eq_ok hread).2.1
    rwa [List.length_map, List.length_map] at hids
  rcases hcase with ⟨hspent | ⟨hroom, rfl⟩, ⟨note, rfl⟩, rfl⟩ | ⟨hroom, note, hrun⟩
  · rw [if_pos hspent]
    exact hb.congr rfl rfl
  · rw [hroom, if_neg Bool.false_ne_true, ← hlevel]
    exact hb.congr rfl rfl
  · have hafter := runLevel_balanced (w := Logged.note note w) c o depth pending (hb.congr rfl rfl)
    rw [hrun] at hafter
    rw [hroom, if_neg Bool.false_ne_true, ← hlevel]
    exact hafter

/-- One level of the loop keeps the marks in agreement with the counts. -/
theorem runLevels_one_marked {c : Catalog} (hc : c.Within Store.Unwritten) {depth : Nat}
    {r' : Report}
    {s₀ : Store} (h : runLevels c o 1 depth r w = (.ok r', w')) (hm : Marked s₀ [] r w.store) :
    Marked s₀ [] r' w'.store := by
  obtain ⟨pending, hread, ⟨-, ⟨note, rfl⟩, rfl⟩ | ⟨-, note, hrun⟩⟩ := runLevels_one h
  · exact hm
  · have hafter := runLevel_marked (w := Logged.note note w) hc o depth hm
      (waits_entries hm.keyed hread)
    rw [hrun] at hafter
    exact hafter

/-- The accounts after some levels. -/
theorem runLevels_accounts (c : Catalog) (o : Options) (w : World) (levels : Nat) {r : Report}
    {w' : World} (h : runLevels c o levels 0 {} w = (.ok r, w')) :
    Balanced w o.locale ((List.range levels).flatMap (selectedAt c o w)).length 0 0 r w' ∧
      (c.Within Store.Unwritten → w.store.Keyed → Marked w.store [] r w'.store) := by
  induction levels generalizing r w' with
  | zero =>
    cases h
    exact ⟨.start w o.locale, fun _ hw => .start hw⟩
  | succ levels ih =>
    rw [List.range_succ, List.flatMap_append, List.flatMap_singleton, List.length_append]
    by_cases hreached : Reached c o w levels
    · obtain ⟨r₁, hr₁⟩ := hreached.runLevels
      rw [hr₁ 1] at h
      obtain ⟨hbalanced, hmarked⟩ := ih (hr₁ 0)
      exact ⟨runLevels_one_balanced h hbalanced,
        fun hc hw => runLevels_one_marked hc h (hmarked hc hw)⟩
    · obtain ⟨hsame, hend⟩ := runLevels_of_not_reached hreached 1
      rw [hsame] at h
      rcases hend with ⟨e, herr⟩ | hspent
      · rw [h] at herr
        cases herr
      · rw [selectedAt, if_pos hspent]
        exact ih h

/-- A run that returns is its levels, with the state of the budget noted at the end. -/
theorem run_eq_ok {report : Report} (h : run c o w = (.ok report, w')) :
    ∃ r, runLevels c o o.maxDepth 0 {} w = (.ok r, w') ∧
      report = { r with budgetExhausted := w'.budget.exhausted } := by
  unfold run at h
  split at h
  · next r u hlevels =>
    cases h
    exact ⟨r, hlevels, rfl⟩
  · cases h

/-- **The accounts of an expansion.** Let an expansion return, on whatever store and whatever others
write. Then each row selected at one of its levels has been visited, is an error, was cut short by
the budget, has failed on the store or was skipped. A call was made for each but the skipped ones,
and no other. The budget has counted the rows inserted, and whether it is spent is reported; where
rows were cut short or skipped it is. If nobody else wrote, the rows counted as visited and as
errors are those that were unvisited before and have become so. -/
theorem run_accounting {report : Report} (hrun : run c o w = (.ok report, w')) :
    ((List.range o.maxDepth).flatMap (selectedAt c o w)).length =
        report.visited + report.errors + report.truncated + report.storeFailures + report.skipped ∧
      report.similarCalls = report.visited + report.errors + report.truncated +
        report.storeFailures ∧
      (∃ made, w'.calls = w.calls ++ made ∧ made.length = report.similarCalls ∧
        ∀ x ∈ made, ∃ id, x.2 = .similar id o.locale) ∧
      w'.budget.crawled = w.budget.crawled + report.inserted ∧
      report.budgetExhausted = w'.budget.exhausted ∧
      (0 < report.truncated + report.skipped → report.budgetExhausted = true) ∧
      (c.Within Store.Unwritten → w.store.Keyed →
        (w.store.turned .visited w'.store).length = report.visited ∧
          (w.store.turned .error w'.store).length = report.errors) := by
  obtain ⟨r, hlevels, rfl⟩ := run_eq_ok hrun
  obtain ⟨hbalanced, hmarked⟩ := runLevels_accounts c o w o.maxDepth hlevels
  have hrows := hbalanced.rows
  have hcalls := hbalanced.calls
  refine ⟨?_, ?_, hbalanced.made, hbalanced.inserted, rfl, hbalanced.cut, fun hc hw => ?_⟩
  · dsimp only
    omega
  · dsimp only
    omega
  · exact ⟨(hmarked hc hw).visited, (hmarked hc hw).errors⟩

/-- One id has no neighbours, one has two, and about one the call fails. -/
def mixed : Related
  | "c" => .error (.status "c" 500)
  | "d" => .ok [⟨"x", .null⟩, ⟨"y", .null⟩]
  | _ => .ok []

/-- A store with five rows to start from, one of which cannot be marked. -/
def five : Store :=
  { Store.empty with
    frontier :=
      some { rows := ["a", "b", "c", "d", "e"].map (Store.newRow · 0 .null), noUpdate := ["b"] } }

/-- An expansion with room for one row, in which units end in each of the ways. -/
def mixedRun : Except StoreError Report × World :=
  run (.answering mixed (5 - ·)) { batchSize := 4, maxDepth := 2 }
    { store := five, budget := ⟨1, 0⟩ }

/-- Of five rows one is visited, one is an error, one is cut short, one fails on the store and
one is skipped. -/
theorem run_accounting_mixed :
    ∃ report w', mixedRun = (.ok report, w') ∧
      report = { levelsRun := 1, similarCalls := 4, visited := 1, errors := 1, truncated := 1,
                 skipped := 1, storeFailures := 1, inserted := 1, budgetExhausted := true } ∧
      ((List.range 2).flatMap
        (selectedAt (.answering mixed (5 - ·)) { batchSize := 4, maxDepth := 2 }
        { store := five, budget := ⟨1, 0⟩ })).length = 5 ∧
      w'.calls.length = 4 ∧ w'.budget.crawled = 1 ∧ w'.budget.exhausted = true ∧
      (five.turned .visited w'.store).length = 1 ∧ (five.turned .error w'.store).length = 1 := by
  have hreport : mixedRun.1.toOption =
      some { levelsRun := 1, similarCalls := 4, visited := 1, errors := 1, truncated := 1,
             skipped := 1,
             storeFailures := 1, inserted := 1, budgetExhausted := true } := by decide +kernel
  have hkeyed : five.Keyed := ⟨by decide, by decide⟩
  rcases hrun : mixedRun with ⟨_ | report, w'⟩ <;> rw [hrun] at hreport
  · cases hreport
  · obtain rfl := Option.some.inj hreport
    obtain ⟨hrows, -, ⟨made, hcalls, hmade, -⟩, hinserted, hspent, -, hmarked⟩ :=
      run_accounting hrun
    obtain ⟨hvisited, herrors⟩ := hmarked (answering_within mixed (5 - ·)) hkeyed
    exact ⟨_, w', rfl, rfl, hrows, by rw [hcalls]; exact hmade, hinserted, hspent.symm, hvisited,
      herrors⟩

end Expansion

end CatalogCrawl
