import CatalogCrawl.Catalog.Basic

/-! # Levels of a search

Where the ids of a frontier stand, apart from rows and their order: a chart gives the depth and the
status code of each. `Chart.next` expands a level completely. `Chart.Advances` says that a level has
been expanded in part: some of its pending ids are marked, and these have all that they list in the
chart; some of what the others list may be there too. What is left of the level does not depend on
which part was done (`Advances.next_eq`), and so a search that was cut short anywhere ends, when it
is taken up again, where it would have ended at once (`Underway.complete_eq`). -/

namespace CatalogCrawl

/-- What the catalog answers about an id: the items similar to it, or why there are none. -/
abbrev Related := String → Except FetchError (List Item)

namespace Related

/-- `x` is on the page of `y`. -/
def Lists (f : Related) (y x : String) : Prop := ∃ page, f y = .ok page ∧ x ∈ page.map (·.id)

/-- The status of an id once it has been explored. -/
def outcome (f : Related) (x : String) : Status :=
  match f x with
  | .ok _ => .visited
  | .error _ => .error

theorem outcome_ne (f : Related) (x : String) : (f.outcome x).code ≠ Status.unvisited.code := by
  unfold outcome
  split <;> decide

end Related

/-- The depth and the status code of each id of a frontier. -/
abbrev Chart := String → Option (Int × Int)

namespace Chart

variable {f : Related} {k D : Nat} {m m' m'' : Chart} {x y : String} {d c : Int}

/-- The id is to be expanded at a level. -/
def Pending (m : Chart) (k : Nat) (x : String) : Prop :=
  m x = some ((k : Int), Status.unvisited.code)

/-- A level has been expanded in part. -/
structure Advances (f : Related) (k : Nat) (m m' : Chart) : Prop where
  kept : ∀ {x d c}, m x = some (d, c) → m' x = some (d, c) ∨
    m.Pending k x ∧ m' x = some ((k : Int), (f.outcome x).code) ∧ ∀ z, f.Lists x z → (m' z).isSome
  new : ∀ {x v}, m x = none → m' x = some v →
    v = (((k + 1 : Nat) : Int), Status.unvisited.code) ∧ ∃ y, m.Pending k y ∧ f.Lists y x

theorem Advances.refl (f : Related) (k : Nat) (m : Chart) : Advances f k m m where
  kept := .inl
  new h h' := by rw [h] at h'; cases h'

/-- Nothing becomes pending at a level while it is expanded. -/
theorem Advances.pending (h : Advances f k m m') {j : Nat} (hj : j ≤ k) (hx : m'.Pending j x) :
    m.Pending j x := by
  cases hm : m x with
  | none =>
    obtain ⟨hv, -⟩ := h.new hm hx
    simp only [Prod.mk.injEq] at hv
    omega
  | some v =>
    rcases h.kept hm with hkept | ⟨-, hmark, -⟩
    · rw [Pending, hm, ← hkept]
      exact hx
    · rw [Pending, hmark, Option.some.injEq, Prod.mk.injEq] at hx
      exact (f.outcome_ne x hx.2).elim

/-! ## One change at a time -/

/-- Puts an id into the chart, to be expanded at a depth. -/
def insert (x : String) (d : Int) (m : Chart) : Chart :=
  fun z => if z = x then some (d, Status.unvisited.code) else m z

/-- Gives an id another status if it is unvisited. -/
def mark (x : String) (status : Status) (m : Chart) : Chart := fun z =>
  (m z).map fun v => if z = x ∧ v.2 = Status.unvisited.code then (v.1, status.code) else v

theorem insert_of_ne (h : y ≠ x) (d : Int) (m : Chart) : m.insert x d y = m y := if_neg h

theorem insert_of_some {v : Int × Int} (hx : m x = none) (hy : m y = some v) (d : Int) :
    m.insert x d y = some v := by
  rw [insert_of_ne _ d m, hy]
  rintro rfl
  rw [hx] at hy
  cases hy

theorem isSome_insert (x : String) (d : Int) (h : (m y).isSome) : (m.insert x d y).isSome := by
  unfold insert
  split
  · rfl
  · exact h

theorem isSome_insert_self (x : String) (d : Int) (m : Chart) : (m.insert x d x).isSome := by
  rw [insert, if_pos rfl]
  rfl

@[simp] theorem isSome_mark (x : String) (status : Status) (m : Chart) (y : String) :
    (m.mark x status y).isSome = (m y).isSome := Option.isSome_map

theorem mark_of_ne (h : y ≠ x) (status : Status) (m : Chart) : m.mark x status y = m y := by
  cases hy : m y <;> simp [mark, hy, h]

theorem mark_of_settled (h : m y = some (d, c)) (hc : c ≠ Status.unvisited.code) (x : String)
    (status : Status) : m.mark x status y = some (d, c) := by
  simp [mark, h, hc]

theorem mark_self (h : m x = some (d, Status.unvisited.code)) (status : Status) :
    m.mark x status x = some (d, status.code) := by
  simp [mark, h]

theorem not_pending_mark {status : Status} (h : status.code ≠ Status.unvisited.code) :
    ¬(m.mark x status).Pending k x := by
  intro hp
  obtain ⟨v, -, hv⟩ := Option.map_eq_some_iff.mp hp
  split at hv
  · exact h (congrArg Prod.snd hv)
  · next hn => exact hn ⟨rfl, congrArg Prod.snd hv⟩

/-- One more id that a pending one lists. -/
theorem Advances.insert (h : Advances f k m m') (hx : m' x = none) (hy : m.Pending k y)
    (hl : f.Lists y x) : Advances f k m (m'.insert x (k + 1 : Nat)) where
  kept := by
    intro z d c hz
    rcases h.kept hz with hkept | ⟨hp, hmark, hall⟩
    · exact .inl (insert_of_some hx hkept _)
    · exact .inr ⟨hp, insert_of_some hx hmark _, fun w hw => isSome_insert x _ (hall w hw)⟩
  new := by
    intro z v hz hv
    by_cases hzx : z = x
    · subst hzx
      rw [Chart.insert, if_pos rfl, Option.some.injEq] at hv
      exact ⟨hv.symm, y, hy, hl⟩
    · rw [insert_of_ne hzx] at hv
      exact h.new hz hv

/-- The mark of a pending id all of whose listed ids are there. -/
theorem Advances.mark (h : Advances f k m m') (hx : m.Pending k x)
    (hall : ∀ z, f.Lists x z → (m' z).isSome) : Advances f k m (m'.mark x (f.outcome x)) where
  kept := by
    intro z d c hz
    rcases h.kept hz with hkept | ⟨hp, hmark, hall'⟩
    · by_cases hzx : z = x
      · subst hzx
        have hz' : m' z = some ((k : Int), Status.unvisited.code) := hkept.trans (hz.symm.trans hx)
        exact .inr ⟨hx, mark_self hz' _, fun w hw => by rw [isSome_mark]; exact hall w hw⟩
      · exact .inl ((mark_of_ne hzx _ _).trans hkept)
    · refine .inr ⟨hp, mark_of_settled hmark (f.outcome_ne z) _ _, fun w hw => ?_⟩
      rw [isSome_mark]
      exact hall' w hw
  new := by
    intro z v hz hv
    have hzx : z ≠ x := by
      rintro rfl
      rw [hx] at hz
      cases hz
    rw [mark_of_ne hzx] at hv
    exact h.new hz hv

/-! ## Complete levels -/

open Classical in
/-- The chart after a level has been expanded completely. -/
noncomputable def next (f : Related) (k : Nat) (m : Chart) : Chart := fun x =>
  match m x with
  | some v => if m.Pending k x then some ((k : Int), (f.outcome x).code) else some v
  | none =>
    if ∃ y, m.Pending k y ∧ f.Lists y x then
      some (((k + 1 : Nat) : Int), Status.unvisited.code)
    else none

theorem next_of_pending (h : m.Pending k x) :
    next f k m x = some ((k : Int), (f.outcome x).code) := by
  have hx : m x = some ((k : Int), Status.unvisited.code) := h
  simp [next, hx, h]

theorem next_of_some (h : m x = some (d, c)) (hp : ¬m.Pending k x) :
    next f k m x = some (d, c) := by
  simp [next, h, hp]

theorem next_of_listed (h : m x = none) (hy : m.Pending k y) (hl : f.Lists y x) :
    next f k m x = some (((k + 1 : Nat) : Int), Status.unvisited.code) := by
  have hex : ∃ y, m.Pending k y ∧ f.Lists y x := ⟨y, hy, hl⟩
  simp only [next, h, if_pos hex]

theorem next_of_none (h : m x = none) (hn : ¬∃ y, m.Pending k y ∧ f.Lists y x) :
    next f k m x = none := by
  simp only [next, h, if_neg hn]

theorem next_eq_self (h : ∀ x, ¬m.Pending k x) : next f k m = m := by
  funext x
  cases hm : m x with
  | none => exact next_of_none hm fun ⟨y, hy, _⟩ => h y hy
  | some v => exact next_of_some hm (h x)

/-- A level of which nothing is pending any more is complete. -/
theorem Advances.eq_next (h : Advances f k m m') (hdone : ∀ x, ¬m'.Pending k x) :
    m' = next f k m := by
  funext x
  cases hm : m x with
  | some v =>
    rcases h.kept hm with hkept | ⟨hp, hmark, -⟩
    · rw [hkept, next_of_some hm fun hp => hdone x ?_]
      rw [Pending, hkept, ← hm]
      exact hp
    · rw [hmark, next_of_pending hp]
  | none =>
    by_cases hl : ∃ y, m.Pending k y ∧ f.Lists y x
    · obtain ⟨y, hy, hl⟩ := hl
      rw [next_of_listed hm hy hl]
      -- the source is marked, so all that it lists is there
      rcases h.kept hy with hkept | ⟨-, -, hall⟩
      · exact (hdone y hkept).elim
      · obtain ⟨v, hv⟩ := Option.isSome_iff_exists.mp (hall x hl)
        rw [hv, (h.new hm hv).1]
    · rw [next_of_none hm hl]
      cases hm' : m' x with
      | none => rfl
      | some v => exact (hl (h.new hm hm').2).elim

/-- The rest of a level leads to the same chart as the whole level. -/
theorem Advances.next_eq (h : Advances f k m m') : next f k m' = next f k m := by
  funext x
  cases hm : m x with
  | some v =>
    rcases h.kept hm with hkept | ⟨hp, hmark, -⟩
    · by_cases hp : m.Pending k x
      · rw [next_of_pending hp, next_of_pending]
        rw [Pending, hkept, ← hm]
        exact hp
      · rw [next_of_some hm hp, next_of_some hkept fun hp' => hp (h.pending (Nat.le_refl k) hp')]
    · rw [next_of_pending hp, next_of_some hmark]
      rw [Pending, hmark, Option.some.injEq, Prod.mk.injEq]
      exact fun heq => f.outcome_ne x heq.2
  | none =>
    cases hm' : m' x with
    | some v =>
      obtain ⟨rfl, y, hy, hl⟩ := h.new hm hm'
      rw [next_of_listed hm hy hl, next_of_some hm']
      rw [Pending, hm', Option.some.injEq, Prod.mk.injEq]
      omega
    | none =>
      by_cases hl : ∃ y, m.Pending k y ∧ f.Lists y x
      · obtain ⟨y, hy, hl⟩ := hl
        rw [next_of_listed hm hy hl]
        rcases h.kept hy with hkept | ⟨-, -, hall⟩
        · exact next_of_listed hm' hkept hl
        · have := hall x hl
          rw [hm'] at this
          cases this
      · rw [next_of_none hm hl, next_of_none hm']
        exact fun ⟨y, hy, hl'⟩ => hl ⟨y, h.pending (Nat.le_refl k) hy, hl'⟩

/-- The chart after all levels below `k` have been expanded completely. -/
noncomputable def complete (f : Related) (m : Chart) : Nat → Chart
  | 0 => m
  | k + 1 => next f k (complete f m k)

/-- What is complete is not pending. -/
theorem not_pending_complete {j : Nat} (hj : j < k) : ¬(complete f m k).Pending j x := by
  induction k with
  | zero => exact absurd hj (Nat.not_lt_zero j)
  | succ k ih =>
    intro hp
    rw [Pending, complete] at hp
    cases hm : complete f m k x with
    | some v =>
      by_cases hk : (complete f m k).Pending k x
      · rw [next_of_pending hk, Option.some.injEq, Prod.mk.injEq] at hp
        exact f.outcome_ne x hp.2
      · rw [next_of_some hm hk, ← hm] at hp
        rcases Nat.lt_succ_iff_lt_or_eq.mp hj with hj | rfl
        · exact ih hj hp
        · exact hk hp
    | none =>
      by_cases hl : ∃ y, (complete f m k).Pending k y ∧ f.Lists y x
      · obtain ⟨y, hy, hl⟩ := hl
        rw [next_of_listed hm hy hl, Option.some.injEq, Prod.mk.injEq] at hp
        omega
      · rw [next_of_none hm hl] at hp
        cases hp

theorem complete_eq_self (h : ∀ j < k, ∀ x, ¬m.Pending j x) : complete f m k = m := by
  induction k with
  | zero => rfl
  | succ k ih =>
    rw [complete, ih fun j hj => h j (Nat.lt_succ_of_lt hj)]
    exact next_eq_self (h k (Nat.lt_succ_self k))

theorem complete_congr (h : complete f m k = complete f m' k) (hk : k ≤ D) :
    complete f m D = complete f m' D := by
  induction hk with
  | refl => exact h
  | step _ ih => rw [complete, complete, ih]

/-! ## Searches that were cut short -/

/-- What the levels below `D` may have come to: all are complete, or one of them is expanded in part
and those above it are untouched. -/
inductive Underway (f : Related) (D : Nat) (m : Chart) : Chart → Prop
  | done : Underway f D m (complete f m D)
  | cut {k : Nat} {m' : Chart} (hk : k < D) (h : Advances f k (complete f m k) m') :
      Underway f D m m'

/-- A search that is taken up again ends where it would have ended at once. -/
theorem Underway.complete_eq (h : Underway f D m m') : complete f m' D = complete f m D := by
  cases h with
  | done => exact complete_eq_self fun j hj x => not_pending_complete hj
  | @cut k m' hk h =>
    have hself : complete f m' k = m' :=
      complete_eq_self fun j hj x hp => not_pending_complete hj (h.pending (Nat.le_of_lt hj) hp)
    refine complete_congr (k := k + 1) ?_ hk
    rw [complete, complete, hself, h.next_eq]

/-- Every id of the one chart is in the other, with its depth, and with its status unless it is
unvisited in the one. -/
def Below (m m' : Chart) : Prop :=
  ∀ x d c, m x = some (d, c) → ∃ c', m' x = some (d, c') ∧ (c = c' ∨ c = Status.unvisited.code)

theorem Below.refl (m : Chart) : Below m m := fun _ _ c h => ⟨c, h, .inl rfl⟩

theorem Below.trans (h : Below m m') (h' : Below m' m'') : Below m m'' := by
  intro x d c hx
  obtain ⟨c', hx', hc⟩ := h x d c hx
  obtain ⟨c'', hx'', hc'⟩ := h' x d c' hx'
  refine ⟨c'', hx'', ?_⟩
  rcases hc with rfl | hc
  · exact hc'
  · exact .inr hc

theorem Advances.below_next (h : Advances f k m m') : Below m' (next f k m) := by
  rw [← h.next_eq]
  intro x d c hx
  by_cases hp : m'.Pending k x
  · rw [Pending, hx, Option.some.injEq, Prod.mk.injEq] at hp
    obtain ⟨rfl, rfl⟩ := hp
    exact ⟨_, next_of_pending hx, .inr rfl⟩
  · exact ⟨c, next_of_some hx hp, .inl rfl⟩

theorem below_complete (hk : k ≤ D) : Below (complete f m k) (complete f m D) := by
  induction hk with
  | refl => exact .refl _
  | step _ ih => exact ih.trans (Advances.refl f _ _).below_next

theorem Underway.below (h : Underway f D m m') : Below m' (complete f m D) := by
  cases h with
  | done => exact .refl _
  | cut hk h => exact h.below_next.trans (below_complete hk)

end Chart

end CatalogCrawl
