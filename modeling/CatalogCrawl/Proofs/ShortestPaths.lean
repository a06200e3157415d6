import CatalogCrawl.Proofs.ExpansionRun
import Mathlib.Data.Nat.Find

/-! # Depths are distances

From a frontier of roots only, complete levels give each id its distance from the roots as its
depth (`Chart.measures_complete`). An expansion is below that chart wherever it was cut short,
so the depths it leaves are distances in any case, and it has found all ids in reach if it leaves
some budget (`Expansion.run_breadth_first`). -/

namespace CatalogCrawl

namespace Related

variable {f : Related} {roots : String → Prop} {n : Nat} {x y : String}

/-- There is a way of length `n` from a root to the id, each id listed by the one before. -/
inductive Walk (f : Related) (roots : String → Prop) : Nat → String → Prop
  | root {x : String} (h : roots x) : Walk f roots 0 x
  | step {n : Nat} {y x : String} (h : Walk f roots n y) (hl : f.Lists y x) : Walk f roots (n + 1) x

/-- The length of a shortest way from a root to the id. -/
structure Distance (f : Related) (roots : String → Prop) (n : Nat) (x : String) : Prop where
  walk : Walk f roots n x
  least : ∀ {n'}, Walk f roots n' x → n ≤ n'

theorem Distance.unique {n' : Nat} (h : f.Distance roots n x) (h' : f.Distance roots n' x) :
    n = n' :=
  Nat.le_antisymm (h.least h'.walk) (h'.least h.walk)

theorem Walk.exists_distance (h : f.Walk roots n x) : ∃ d ≤ n, f.Distance roots d x := by
  classical
  have hex : ∃ d, f.Walk roots d x := ⟨n, h⟩
  exact ⟨Nat.find hex, Nat.find_le h, Nat.find_spec hex, fun h' => Nat.find_le h'⟩

theorem distance_zero_iff : f.Distance roots 0 x ↔ roots x := by
  constructor
  · rintro ⟨⟨h⟩, -⟩
    exact h
  · exact fun h => ⟨.root h, fun _ => Nat.zero_le _⟩

/-- The last id but one of a shortest way is as near as it can be. -/
theorem Distance.pred (h : f.Distance roots (n + 1) x) :
    ∃ y, f.Distance roots n y ∧ f.Lists y x := by
  obtain ⟨hw, hleast⟩ := h
  cases hw with
  | @step _ y _ hy hl =>
    refine ⟨y, ⟨hy, fun hy' => ?_⟩, hl⟩
    have := hleast (hy'.step hl)
    omega

end Related

namespace Chart

variable {f : Related} {roots : String → Prop} {m : Chart} {k n : Nat} {x : String}

/-- The status of an id at the distance `n` when the levels below `k` are complete. -/
def statusAt (f : Related) (k n : Nat) (x : String) : Status :=
  if n < k then f.outcome x else .unvisited

theorem statusAt_of_lt (h : n < k) : statusAt f k n x = f.outcome x := if_pos h

@[simp] theorem statusAt_self : statusAt f k k x = .unvisited := if_neg (Nat.lt_irrefl k)

/-- The ids are those up to a distance of `k` from the roots, with their distances as depths, and
those nearer than `k` have been explored. -/
def Measures (f : Related) (roots : String → Prop) (k : Nat) (m : Chart) : Prop :=
  ∀ x v, m x = some v ↔ ∃ n ≤ k, f.Distance roots n x ∧ v = ((n : Int), (statusAt f k n x).code)

namespace Measures

theorem eq_some (h : Measures f roots k m) (hn : n ≤ k) (hdist : f.Distance roots n x) :
    m x = some ((n : Int), (statusAt f k n x).code) :=
  (h x _).mpr ⟨n, hn, hdist, rfl⟩

theorem eq_none (h : Measures f roots k m) (hn : k < n) (hdist : f.Distance roots n x) :
    m x = none := by
  rw [Option.eq_none_iff_forall_ne_some]
  intro v hv
  obtain ⟨n', hn', hdist', -⟩ := (h x v).mp hv
  have := hdist.unique hdist'
  omega

/-- What is pending at the last level is what has its distance. -/
theorem pending_iff (h : Measures f roots k m) : m.Pending k x ↔ f.Distance roots k x := by
  constructor
  · intro hp
    obtain ⟨n, -, hdist, hv⟩ := (h x _).mp hp
    obtain rfl : k = n := Int.ofNat.inj (congrArg Prod.fst hv)
    exact hdist
  · intro hdist
    rw [Pending, h.eq_some (Nat.le_refl k) hdist, statusAt_self]

/-- The chart of the next level at an id in its reach. -/
theorem next_eq_some (h : Measures f roots k m) (hn : n ≤ k + 1) (hdist : f.Distance roots n x) :
    next f k m x = some ((n : Int), (statusAt f (k + 1) n x).code) := by
  rcases Nat.lt_trichotomy n k with hlt | rfl | hgt
  · have hx := h.eq_some (Nat.le_of_lt hlt) hdist
    rw [statusAt_of_lt hlt] at hx
    rw [statusAt_of_lt (Nat.lt_succ_of_lt hlt)]
    refine next_of_some hx fun hp => Nat.ne_of_lt hlt ?_
    exact hdist.unique (h.pending_iff.mp hp)
  · rw [statusAt_of_lt (Nat.lt_succ_self n)]
    exact next_of_pending (h.pending_iff.mpr hdist)
  · obtain rfl : n = k + 1 := Nat.le_antisymm hn hgt
    obtain ⟨y, hy, hl⟩ := hdist.pred
    rw [statusAt_self]
    exact next_of_listed (h.eq_none hgt hdist) (h.pending_iff.mpr hy) hl

theorem next (h : Measures f roots k m) : Measures f roots (k + 1) (next f k m) := by
  intro x v
  constructor
  · intro hx
    have hreach : ∃ n ≤ k + 1, f.Distance roots n x := by
      cases hm : m x with
      | some v' =>
        obtain ⟨n, hn, hdist, -⟩ := (h x v').mp hm
        exact ⟨n, Nat.le_succ_of_le hn, hdist⟩
      | none =>
        by_cases hl : ∃ y, m.Pending k y ∧ f.Lists y x
        · obtain ⟨y, hy, hl⟩ := hl
          exact ((h.pending_iff.mp hy).walk.step hl).exists_distance
        · rw [next_of_none hm hl] at hx
          cases hx
    obtain ⟨n, hn, hdist⟩ := hreach
    exact ⟨n, hn, hdist, Option.some.inj (hx.symm.trans (h.next_eq_some hn hdist))⟩
  · rintro ⟨n, hn, hdist, rfl⟩
    exact h.next_eq_some hn hdist

end Measures

/-- **Complete levels give distances**, from a chart of roots that nobody has looked at. -/
theorem measures_complete (hm : ∀ x v, m x = some v ↔ roots x ∧ v = (0, Status.unvisited.code))
    (k : Nat) : Measures f roots k (complete f m k) := by
  induction k with
  | zero =>
    intro x v
    rw [complete, hm]
    constructor
    · rintro ⟨hroot, rfl⟩
      exact ⟨0, Nat.le_refl 0, Related.distance_zero_iff.mpr hroot, rfl⟩
    · rintro ⟨n, hn, hdist, rfl⟩
      obtain rfl := Nat.le_zero.mp hn
      exact ⟨Related.distance_zero_iff.mp hdist, rfl⟩
  | succ k ih => exact ih.next

end Chart

namespace Expansion

variable {f : Related} {c : Catalog} {w : World}

/-- The chart of a frontier that has just been seeded. -/
theorem chart_eq_some_of_roots
    (hroots : ∀ r ∈ w.store.rows, r.depth = 0 ∧ r.code = Status.unvisited.code) (x : String)
    (v : Int × Int) :
    w.store.chart x = some v ↔ x ∈ w.store.ids ∧ v = (0, Status.unvisited.code) := by
  have hvalue {v} (h : w.store.chart x = some v) : v = (0, Status.unvisited.code) := by
    obtain ⟨r, hr, -, hd, hc⟩ := Store.exists_row_of_chart h
    obtain ⟨hdepth, hcode⟩ := hroots r hr
    exact Prod.ext (hd.symm.trans hdepth) (hc.symm.trans hcode)
  rw [← Store.chart_isSome_iff]
  constructor
  · intro h
    exact ⟨by simp [h], hvalue h⟩
  · rintro ⟨hx, rfl⟩
    obtain ⟨v, hv⟩ := Option.isSome_iff_exists.mp hx
    rw [hv, hvalue hv]

/-- **Expansion is a breadth-first search.** From a frontier of unvisited rows at depth 0 it
returns its report, and every row has its distance from the initial rows as its depth, also when
the budget is spent before the end. If some of the budget is left, the rows are just those up to
`maxDepth`; those nearer are visited, or in error if the call about them fails, and the last
ones are unvisited. -/
theorem run_breadth_first (hc : c.Steady f) (hf : f.Readable) (o : Options) (hw : w.store.Sound)
    (hroots : ∀ r ∈ w.store.rows, r.depth = 0 ∧ r.code = Status.unvisited.code) :
    ∃ report w', run c o w = (.ok report, w') ∧
      (∀ r ∈ w'.store.rows,
        ∃ d ≤ o.maxDepth, f.Distance (· ∈ w.store.ids) d r.id ∧ r.depth = (d : Int)) ∧
      (w'.budget.exhausted = false →
        (∀ x, x ∈ w'.store.ids ↔ ∃ d ≤ o.maxDepth, f.Distance (· ∈ w.store.ids) d x) ∧
        ∀ r ∈ w'.store.rows, ∀ d, f.Distance (· ∈ w.store.ids) d r.id →
          (d < o.maxDepth → r.code = (f.outcome r.id).code) ∧
          (d = o.maxDepth → r.code = Status.unvisited.code)) := by
  obtain ⟨report, w', hrun, hacc, -, hunder, hdone⟩ := run_spec hc hf o hw
  have hfull := Chart.measures_complete (f := f) (chart_eq_some_of_roots hroots) o.maxDepth
  refine ⟨report, w', hrun, fun r hr => ?_, fun hleft => ?_⟩
  · have hr' := Store.chart_of_mem hacc.sound.keyed hr
    obtain ⟨code, hbelow, -⟩ := hunder.below r.id r.depth r.code hr'
    obtain ⟨d, hd, hdist, hv⟩ := (hfull _ _).mp hbelow
    exact ⟨d, hd, hdist, congrArg Prod.fst hv⟩
  · rw [← hdone hleft] at hfull
    refine ⟨fun x => ?_, fun r hr d hdist => ?_⟩
    · rw [← Store.chart_isSome_iff, Option.isSome_iff_exists]
      constructor
      · rintro ⟨v, hv⟩
        obtain ⟨d, hd, hdist, -⟩ := (hfull x v).mp hv
        exact ⟨d, hd, hdist⟩
      · rintro ⟨d, hd, hdist⟩
        exact ⟨_, hfull.eq_some hd hdist⟩
    · have hr' := Store.chart_of_mem hacc.sound.keyed hr
      obtain ⟨d', -, hdist', hv⟩ := (hfull _ _).mp hr'
      obtain rfl := hdist.unique hdist'
      have hcode : r.code = (Chart.statusAt f o.maxDepth d r.id).code := congrArg Prod.snd hv
      refine ⟨fun hlt => ?_, fun heq => ?_⟩
      · rw [hcode, Chart.statusAt_of_lt hlt]
      · rw [hcode, heq, Chart.statusAt_self]

theorem run_breadth_first_sample :
    ∃ report w', run (.answering .sample (10 - ·)) { maxDepth := 2, batchSize := 2 }
        { store := .seeded, budget := ⟨100, 0⟩ } = (.ok report, w') ∧
      w'.store.rows.map (fun r => (r.id, r.depth, r.code)) =
        [("a", 0, 1), ("b", 1, 1), ("c", 1, -2), ("d", 2, 0)] ∧
      w'.budget.exhausted = false ∧
      ∀ x, x ∈ w'.store.ids ↔ ∃ d ≤ 2, Related.sample.Distance (· ∈ Store.seeded.ids) d x := by
  obtain ⟨report, w', hrun, -, hend⟩ :=
    run_breadth_first (Catalog.answering_steady .sample (10 - ·))
    Related.sample_readable { maxDepth := 2, batchSize := 2 }
    (w := { store := .seeded, budget := ⟨100, 0⟩ }) Store.seeded_sound (by decide)
  have heval : let w' := (run (.answering .sample (10 - ·)) { maxDepth := 2, batchSize := 2 }
      { store := .seeded, budget := ⟨100, 0⟩ }).2
      w'.store.rows.map (fun r => (r.id, r.depth, r.code)) =
        [("a", 0, 1), ("b", 1, 1), ("c", 1, -2), ("d", 2, 0)] ∧
      w'.budget.exhausted = false := by decide +kernel
  rw [hrun] at heval
  obtain ⟨hrows, hleft⟩ := heval
  exact ⟨report, w', hrun, hrows, hleft, (hend hleft).1⟩

end Expansion

end CatalogCrawl
