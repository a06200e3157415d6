import CatalogCrawl.Proofs.ExpansionRun
import CatalogCrawl.Proofs.Steps
import CatalogCrawl.Proofs.UnitEndings

/-! # The calls of an expansion

Rows wait for their turn, and answers are on their way, only for the level read last
(`Expansion.Levelled`). So when a call is made all calls of earlier levels have been settled
(`Course.orderly`). That no id is called twice rests on the rows: an id that was called has a row at
its depth for good, and a later level gives rows of another depth (`Expansion.Separate`). Others may
use the operations of the store throughout. -/

namespace CatalogCrawl.Expansion

variable {c : Catalog} {o : Options} {w : World} {events new : List Event} {k k' : Moment}

/-! ## One level at a time -/

/-- When the level of a row was read, the row was there, unvisited and at its depth. -/
def Selected (events : List Event) (e : FrontierEntry) : Prop :=
  ∃ v, .read e.depth v ∈ events ∧ ∃ r ∈ v.store.rows,
    r.id = e.id ∧ r.depth = (e.depth : Int) ∧ r.code = Status.unvisited.code

theorem Selected.later {e : FrontierEntry} (h : Selected events e) :
    Selected (events ++ new) e := by
  obtain ⟨v, hread, hrow⟩ := h
  exact ⟨v, List.mem_append_left _ hread, hrow⟩

/-- What waits or is under way belongs to the level read last, and calls were made for
no later one. -/
structure Levelled (o : Options) (events : List Event) (k : Moment) : Prop where
  depth_le : k.depth ≤ o.maxDepth
  queue : ∀ e ∈ k.queue, e.depth + 1 = k.depth ∧ Selected events e
  flight : ∀ f ∈ k.flight, f.1.depth + 1 = k.depth
  called : ∀ e ∈ called events, e.depth + 1 ≤ k.depth

/-- A level that is read while nothing is under way. -/
theorem Levelled.read {d : Nat} {s : Stage Tally} {pending : List FrontierEntry}
    (h : Levelled o events ⟨d, [], [], s⟩) (hd : d < o.maxDepth)
    (hread : s.world.store.entriesAt d .unvisited = .ok pending) :
    Levelled o (events ++ [.read d s.world]) ⟨d + 1, pending, [], ⟨s.world, {}⟩⟩ where
  depth_le := hd
  queue := by
    intro e he
    obtain ⟨-, -, hdepth⟩ := Store.entriesAt_eq_ok hread
    have hrow := Store.exists_row_of_entry hread he
    obtain rfl := hdepth e he
    exact ⟨rfl, s.world, List.mem_append_right _ List.mem_cons_self, hrow⟩
  flight := nofun
  called := by
    intro e he
    rw [called_append, called_read, List.append_nil] at he
    exact Nat.le_succ_of_le (h.called e he)

theorem Move.levelled (hmove : Move c o k new k') (h : Levelled o events k) :
    Levelled o (events ++ new) k' := by
  cases hmove with
  | note | clock =>
    rw [List.append_nil]
    exact ⟨h.depth_le, h.queue, h.flight, h.called⟩
  | read hd hread => exact h.read hd hread
  | skip =>
    rw [List.append_nil]
    exact ⟨h.depth_le, fun e he => h.queue e (List.mem_cons_of_mem _ he), h.flight, h.called⟩
  | call =>
    obtain ⟨hdepth, -⟩ := h.queue _ List.mem_cons_self
    refine ⟨h.depth_le, fun e he => ?_, fun f hf => ?_, fun e he => ?_⟩
    · obtain ⟨hlevel, hselected⟩ := h.queue e (List.mem_cons_of_mem _ he)
      exact ⟨hlevel, hselected.later⟩
    · rcases List.mem_append.mp hf with hf | hf
      · exact h.flight f hf
      · rw [List.mem_singleton.mp hf]
        exact hdepth
    · rw [called_append, called_call] at he
      rcases List.mem_append.mp he with he | he
      · exact h.called e he
      · rw [List.mem_singleton.mp he]
        exact Nat.le_of_eq hdepth
  | settle =>
    refine ⟨h.depth_le, fun e he => ⟨(h.queue e he).1, (h.queue e he).2.later⟩, fun f hf => ?_, ?_⟩
    · refine h.flight f ?_
      rcases List.mem_append.mp hf with hf | hf
      · exact List.mem_append_left _ hf
      · exact List.mem_append_right _ (List.mem_cons_of_mem _ hf)
    · rw [called_append, called_settle, List.append_nil]
      exact h.called
  | stop =>
    rw [List.append_nil]
    exact ⟨h.depth_le, nofun, nofun, h.called⟩

theorem Course.levelled (h : Course c o w events k) : Levelled o events k :=
  h.keeps ⟨Nat.zero_le _, nofun, nofun, nofun⟩ Move.levelled

/-! ## When calls are made -/

/-- What holds when a call is made for a row, after the given events. -/
structure Orderly (o : Options) (past : List Event) (e : FrontierEntry) (u : World) : Prop where
  selected : Selected past e
  depth_lt : e.depth < o.maxDepth
  room : u.budget.exhausted = false
  level : ∀ e' u', .call e' u' ∈ past → e'.depth ≤ e.depth
  settled : ∀ e' u', .call e' u' ∈ past → e'.depth < e.depth → ∃ arrival ended failure,
    .settle e' u'.calls.length arrival ended failure ∈ past

theorem mem_called {e : FrontierEntry} {u : World} (h : .call e u ∈ events) : e ∈ called events :=
  List.mem_filterMap.mpr ⟨_, h, rfl⟩

/-- The row whose turn it is may be called, if some budget is left. -/
theorem Course.orderly_call {d : Nat} {e : FrontierEntry} {q : List FrontierEntry}
    {fl : List (FrontierEntry × Nat)} {s : Stage Tally} (h : Course c o w events ⟨d, e :: q, fl, s⟩)
    (hroom : s.world.budget.exhausted = false) : Orderly o events e s.world := by
  have hlevelled := h.levelled
  have hdepth : e.depth + 1 = d := (hlevelled.queue e List.mem_cons_self).1
  refine ⟨(hlevelled.queue e List.mem_cons_self).2, ?_, hroom, fun e' u' hcall => ?_, ?_⟩
  · have hle : d ≤ o.maxDepth := hlevelled.depth_le
    omega
  · have hle : e'.depth + 1 ≤ d := hlevelled.called e' (mem_called hcall)
    omega
  · intro e' u' hcall hlt
    rcases h.settled hcall with hflight | hdone
    · -- an answer on its way is one of the present level
      have hlevel : e'.depth + 1 = d := hlevelled.flight _ hflight
      omega
    · exact hdone

/-- Every call of a course is made in order. -/
theorem Course.orderly (h : Course c o w events k) {past : List Event} {e : FrontierEntry}
    {u : World} (hpast : past ++ [.call e u] <+: events) : Orderly o past e u := by
  induction h with
  | start => simp at hpast
  | @move events new k k' hcourse hmove ih =>
    cases hmove with
    | note | clock | skip | stop =>
      rw [List.append_nil] at hpast
      exact ih hpast
    | read | settle =>
      rcases List.prefix_concat_iff.mp hpast with heq | hpast
      · have hlast := (List.append_inj' heq rfl).2
        cases List.singleton_inj.mp hlast
      · exact ih hpast
    | call _ hroom =>
      rcases List.prefix_concat_iff.mp hpast with heq | hpast
      · obtain ⟨rfl, hlast⟩ := List.append_inj' heq rfl
        cases List.singleton_inj.mp hlast
        exact hcourse.orderly_call hroom
      · exact ih hpast

/-- Calls are settled only for rows below the limit. -/
theorem Course.settle_depth (h : Course c o w events k) {e : FrontierEntry} {n : Nat}
    {arrival ended : Stage Tally} {failure : Option String}
    (hsettle : .settle e n arrival ended failure ∈ events) : e.depth + 1 ≤ o.maxDepth := by
  induction h with
  | start => cases hsettle
  | @move events new k k' hcourse hmove ih =>
    rcases List.mem_append.mp hsettle with hold | hnew
    · exact ih hold
    · cases hmove with
      | note | clock | skip | stop => cases hnew
      | read | call => cases List.mem_singleton.mp hnew
      | settle =>
        cases List.mem_singleton.mp hnew
        have hflight := hcourse.levelled.flight (e, n) (List.mem_append_right _ List.mem_cons_self)
        exact Nat.le_trans (Nat.le_of_eq hflight) hcourse.levelled.depth_le

/-! ## No id twice -/

/-- The rows called so far and those that wait have different ids, and each is in the frontier
at its depth. -/
structure Separate (events : List Event) (k : Moment) : Prop where
  keyed : k.stage.world.store.Keyed
  rows : ∀ e ∈ called events ++ k.queue, ∃ r ∈ k.stage.world.store.rows,
    r.id = e.id ∧ r.depth = (e.depth : Int)
  distinct : ((called events ++ k.queue).map (·.id)).Nodup

/-- A later moment at which no row has been added to those called or waiting. -/
theorem Separate.later {events' : List Event} (h : Separate events k)
    (hkeyed : k'.stage.world.store.Keyed)
    (hstore : k.stage.world.store.Evolves k'.stage.world.store)
    (hsub : (called events' ++ k'.queue).Sublist (called events ++ k.queue)) :
    Separate events' k' where
  keyed := hkeyed
  rows := by
    intro e he
    obtain ⟨r, hr, hid, hdepth⟩ := h.rows e (hsub.subset he)
    obtain ⟨r', hr', hbecomes⟩ := hstore.exists_row hr
    exact ⟨r', hr', hbecomes.id.trans hid, hbecomes.depth.trans hdepth⟩
  distinct := h.distinct.sublist (hsub.map _)

/-- The rows of a new level have a depth that no called row has. -/
theorem Separate.read {d : Nat} {s : Stage Tally} {pending : List FrontierEntry}
    (h : Separate events ⟨d, [], [], s⟩) (hl : Levelled o events ⟨d, [], [], s⟩)
    (hread : s.world.store.entriesAt d .unvisited = .ok pending) :
    Separate (events ++ [.read d s.world]) ⟨d + 1, pending, [], ⟨s.world, {}⟩⟩ := by
  obtain ⟨-, hids, hdepth⟩ := Store.entriesAt_eq_ok hread
  have hcalled : called (events ++ [.read d s.world]) = called events := by simp
  have hrow (e : FrontierEntry) (he : e ∈ pending) :
      ∃ r ∈ s.world.store.rows, r.id = e.id ∧ r.depth = (e.depth : Int) := by
    obtain ⟨r, hr, hid, hrdepth, -⟩ := Store.exists_row_of_entry hread he
    exact ⟨r, hr, hid, hrdepth⟩
  have hold := h.rows
  have hnodup := h.distinct
  simp only [List.append_nil] at hold hnodup
  refine ⟨h.keyed, ?_, ?_⟩
  · rw [hcalled]
    intro e he
    rcases List.mem_append.mp he with he | he
    · exact hold e he
    · exact hrow e he
  · rw [hcalled, List.map_append]
    refine hnodup.append ?_ ?_
    · rw [hids]
      exact h.keyed.frontier.sublist (List.filter_sublist.map _)
    · -- an id has one row, and the row one depth
      intro id hid hid'
      obtain ⟨e, he, rfl⟩ := List.mem_map.mp hid
      obtain ⟨e', he', hsame⟩ := List.mem_map.mp hid'
      obtain ⟨r, hr, hrid, hrdepth⟩ := hold e he
      obtain ⟨r', hr', hrid', hrdepth'⟩ := hrow e' he'
      have hrr : r = r' := List.inj_on_of_nodup_map h.keyed.frontier hr hr'
        (by rw [hrid, hrid', hsame])
      have hlt : e.depth + 1 ≤ d := hl.called e he
      have heq : e'.depth = d := hdepth e' he'
      rw [hrr, hrdepth'] at hrdepth
      omega

theorem Move.separate (hc : c.Within Store.Outside) (hmove : Move c o k new k')
    (hl : Levelled o events k) (h : Separate events k) : Separate (events ++ new) k' := by
  cases hmove with
  | note | clock => exact h.later h.keyed (.refl _) (by simp)
  | read _ hread => exact h.read hl hread
  | skip => exact h.later h.keyed (.refl _) (by simp)
  | call => exact h.later h.keyed (.refl _) (by simp)
  | @settle _ n e _ _ _ s s' failure hreact =>
    have hending := Ending.of_react hreact
    have hothers :
        Store.Outside s.world.store (s.receive (c.similar n e.id o.locale)).world.store := by
      rw [Stage.store_receive]
      exact hc.similar n e.id o.locale s.world.store
    exact h.later (hending.keyed (hothers.keyed h.keyed)) (hothers.evolves.trans hending.evolves)
      (by simp)
  | stop => exact h.later h.keyed (.refl _) (by simp)

theorem Course.separate (hc : c.Within Store.Outside) (hw : w.store.Keyed)
    (h : Course c o w events k) : Separate events k := by
  induction h with
  | start => exact ⟨hw, nofun, List.nodup_nil⟩
  | move hcourse hmove ih => exact hmove.separate hc hcourse.levelled ih

/-- **The discipline of the calls.** In every expansion of a store whose ids are unique, while
others use the operations of the store, each call is made for a row that was unvisited at its depth,
below the limit, when that level was read; the budget is not spent at that moment, and every call
for a row of smaller depth has been made and settled. No id is called twice. What a unit inserts
stands one level below its row, which is within the limit, so that its depth is exact in 32 bits. -/
theorem run_call_discipline (hc : c.Within Store.Outside) (hmax : o.maxDepth < UInt32.size)
    (hw : w.store.Keyed) :
    ∃ events, Leads c o w events (run c o w).2 ∧
      (run c o w).2.calls.map (·.2) =
        w.calls.map (·.2) ++ (called events).map (fun e => .similar e.id o.locale) ∧
      (∀ past e u, past ++ [.call e u] <+: events → Orderly o past e u) ∧
      ((called events).map (·.id)).Nodup ∧
      ∀ e n arrival ended failure, .settle e n arrival ended failure ∈ events →
        e.depth + 1 ≤ o.maxDepth ∧ (e.depth.toUInt32 + 1).toNat = e.depth + 1 ∧
          ∀ (i : Nat) r, arrival.world.store.rows.length ≤ i → ended.world.store.rows[i]? = some r →
            r.depth = ((e.depth + 1 : Nat) : Int) := by
  obtain ⟨events, k, hcourse, hqueue, hflight, hworld, -⟩ := run_course c o w
  refine ⟨events, ⟨k, hcourse, hqueue, hflight, hworld⟩, ?_, fun _ _ _ => hcourse.orderly, ?_, ?_⟩
  · rw [← hworld]
    exact hcourse.calls_eq
  · have hdistinct := (hcourse.separate hc hw).distinct
    rw [hqueue, List.append_nil] at hdistinct
    exact hdistinct
  · intro e n arrival ended failure hsettle
    have hdepth := hcourse.settle_depth hsettle
    have hending := Ending.of_react (hcourse.reacts hsettle)
    refine ⟨hdepth, ?_, fun i r => hending.new_row⟩
    rw [UInt32.toNat_add, Nat.toUInt32_eq, UInt32.toNat_ofNat']
    have hone : (1 : UInt32).toNat = 1 := rfl
    have hsize : UInt32.size = 4294967296 := rfl
    omega

/-- A catalog that answers later calls sooner, while someone else adds a row and marks another. -/
def crowded : Catalog where
  list _ _ := { outcome := .ok [] }
  similar n id _ :=
    { delay := 9 - n
      meanwhile := fun s => (Store.markStatus "b" .error (Store.insertIfAbsent "z" 1 .null s).2).2
      outcome := Related.sample id }
  detail _ id _ := { outcome := .error (.status id 404) }

theorem crowded_within : crowded.Within Store.Outside where
  list _ _ _ := .refl
  similar _ _ _ s := .tail (.single (.insert "z" 1 .null s)) (.mark "b" .error _)
  detail _ _ _ _ := .refl

/-- The row that someone else adds at depth 1 is called in its turn. -/
theorem run_call_discipline_crowded :
    crowded.Within Store.Outside ∧ Store.seeded.Keyed ∧
      ∃ events, Leads crowded { maxDepth := 3 } { store := .seeded, budget := ⟨9, 0⟩ } events
          (run crowded { maxDepth := 3 } { store := .seeded, budget := ⟨9, 0⟩ }).2 ∧
        ((called events).map fun e => Call.similar e.id ({} : Options).locale) =
          ["a", "z", "b", "c", "d"].map (Call.similar · ({} : Options).locale) ∧
        ((called events).map (·.id)).Nodup ∧
        ∀ past e u, past ++ [.call e u] <+: events → Orderly { maxDepth := 3 } past e u := by
  have hkeyed : Store.seeded.Keyed := ⟨by decide, by decide⟩
  obtain ⟨events, hleads, hcalls, horderly, hnodup, -⟩ :=
    run_call_discipline (o := { maxDepth := 3 }) (w := { store := .seeded, budget := ⟨9, 0⟩ })
      crowded_within (by decide) hkeyed
  have hrun :
      (run crowded { maxDepth := 3 } { store := .seeded, budget := ⟨9, 0⟩ }).2.calls.map (·.2) =
      ["a", "z", "b", "c", "d"].map (Call.similar · ({} : Options).locale) := by decide +kernel
  refine ⟨crowded_within, hkeyed, events, hleads, ?_, hnodup, horderly⟩
  exact (hcalls.symm.trans hrun :)

end CatalogCrawl.Expansion
