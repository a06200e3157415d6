import CatalogCrawl.Proofs.Rows
import CatalogCrawl.Proofs.Steps

/-! # The budget is strict

A moment of a crawl is a beginning of its history. What the crawl has created by then is read off
the stores before and after its own turns, without a look at the counter (`History.created`).
Each step takes turns that keep to the budget (`World.Step.follows`), so along every crawl the
counter is the number of rows created so far and stays within the limit (`Crawl.strict_budget`):
an id that was there already, comes twice in a page or from two sources, or whose insertion
failed is not counted. -/

namespace CatalogCrawl

/-- The ids that a turn of the crawl has put into the frontier. -/
def Turn.created (t : Turn) : List String :=
  match t.writer with
  | .crawl => t.after.ids.filter (· ∉ t.before.ids)
  | .others => []

namespace History

/-- The ids that the crawl itself has put into the frontier. -/
def created (h : History) : List String := h.flatMap Turn.created

/-- What the budget has counted at the end of a history that began with `n`. -/
def crawled (n : Nat) (h : History) : Nat :=
  match h.getLast? with
  | some t => t.crawled
  | none => n

/-- The store at the end of a history that began with `s`. -/
def store (s : Store) (h : History) : Store :=
  match h.getLast? with
  | some t => t.after
  | none => s

/-- Each turn finds the store as the one before has left it. -/
def Linked : Store → History → Prop
  | _, [] => True
  | s, t :: h => t.before = s ∧ Linked t.after h

theorem created_cons (t : Turn) (h : History) : created (t :: h) = t.created ++ created h := rfl

end History

/-! ## Fair turns -/

variable {P : Store → Store → Prop} {limit n n' : Nat} {s s' : Store}

theorem Turn.mem_created {t : Turn} {id : String} (h : id ∈ t.created) :
    id ∉ t.before.ids ∧ id ∈ t.after.ids := by
  unfold Turn.created at h
  split at h
  · obtain ⟨hafter, hbefore⟩ := List.mem_filter.mp h
    exact ⟨of_decide_eq_true hbefore, hafter⟩
  · exact (List.not_mem_nil h).elim

theorem Turn.created_others {t : Turn} (hw : t.writer = .others) : t.created = [] := by
  simp [Turn.created, hw]

/-- What the crawl appends under new ids, it has created. -/
theorem Turn.created_append {t : Turn} {new : List String} (hw : t.writer = .crawl)
    (hids : t.after.ids = t.before.ids ++ new) (hnew : ∀ id ∈ new, id ∉ t.before.ids) :
    t.created = new := by
  have hold : t.before.ids.filter (fun id => decide (id ∉ t.before.ids)) = [] :=
    List.filter_eq_nil_iff.mpr fun id hid => by simp [hid]
  have hkept : new.filter (fun id => decide (id ∉ t.before.ids)) = new :=
    List.filter_eq_self.mpr fun id hid => decide_eq_true (hnew id hid)
  simp only [Turn.created, hw, hids, List.filter_append, hold, hkept, List.nil_append]

/-- The turn keeps to a budget of which `n` is spent. The counter goes up by what the turn creates,
and not over the limit; others act within `P`, and the crawl removes nothing. -/
structure Turn.Fair (P : Store → Store → Prop) (limit n : Nat) (t : Turn) : Prop where
  crawled : t.crawled = n + t.created.length
  within : n ≤ limit → t.crawled ≤ limit
  distinct : t.created.Nodup
  own : t.writer = .crawl → t.before.ids ⊆ t.after.ids
  others : t.writer = .others → P t.before t.after

theorem Turn.Fair.ofOthers {store : Store} (h : P s store) :
    Turn.Fair P limit n ⟨.others, s, store, n⟩ where
  crawled := by rw [Turn.created_others rfl]; rfl
  within := id
  distinct := by rw [Turn.created_others rfl]; exact List.nodup_nil
  own := nofun
  others _ := h

/-- A turn of the crawl that adds rows is fair if it counts them and they fit the limit. -/
theorem Turn.Fair.ofAdds {store : Store} {added : List FrontierRow} (h : s.Adds store added)
    (hfit : n ≤ limit → n + added.length ≤ limit) :
    Turn.Fair P limit n ⟨.crawl, s, store, n + added.length⟩ := by
  have hcreated : Turn.created ⟨.crawl, s, store, n + added.length⟩ = added.map (·.id) := by
    refine Turn.created_append rfl h.ids fun id hid => ?_
    obtain ⟨r, hr, rfl⟩ := List.mem_map.mp hid
    exact h.fresh r hr
  refine ⟨by rw [hcreated, List.length_map], hfit, by rw [hcreated]; exact h.distinct, fun _ => ?_,
    nofun⟩
  rw [h.ids]
  exact List.subset_append_left _ _

/-- A turn of the crawl that leaves the ids alone is fair if it counts nothing. -/
theorem Turn.Fair.ofSame {store : Store} (h : store.ids = s.ids) :
    Turn.Fair P limit n ⟨.crawl, s, store, n⟩ := by
  have hcreated : Turn.created ⟨.crawl, s, store, n⟩ = [] :=
    Turn.created_append rfl (by simpa using h) (by simp)
  exact ⟨by rw [hcreated]; rfl, id, by rw [hcreated]; exact List.nodup_nil,
    fun _ => h ▸ List.Subset.refl _, nofun⟩

/-! ## Trails -/

/-- The turns lead from one store and counter to another, and all of them are fair. -/
inductive Trail (P : Store → Store → Prop) (limit : Nat) :
    Store → Nat → History → Store → Nat → Prop
  | nil (s : Store) (n : Nat) : Trail P limit s n [] s n
  | cons {t : Turn} {n : Nat} {h : History} {s' : Store} {n' : Nat} (fair : t.Fair P limit n)
      (rest : Trail P limit t.after t.crawled h s' n') : Trail P limit t.before n (t :: h) s' n'

namespace Trail

variable {h h' : History}

theorem append {s'' : Store} {n'' : Nat} (H : Trail P limit s n h s' n')
    (H' : Trail P limit s' n' h' s'' n'') : Trail P limit s n (h ++ h') s'' n'' := by
  induction H with
  | nil => exact H'
  | cons fair _ ih => exact .cons fair (ih H')

theorem split (H : Trail P limit s n (h ++ h') s' n') :
    ∃ s₁ n₁, Trail P limit s n h s₁ n₁ ∧ Trail P limit s₁ n₁ h' s' n' := by
  induction h generalizing s n with
  | nil => exact ⟨s, n, .nil s n, H⟩
  | cons t h ih =>
    cases H with
    | cons fair rest =>
      obtain ⟨s₁, n₁, H₁, H₂⟩ := ih rest
      exact ⟨s₁, n₁, .cons fair H₁, H₂⟩

theorem linked (H : Trail P limit s n h s' n') : History.Linked s h := by
  induction H with
  | nil => trivial
  | cons _ _ ih => exact ⟨rfl, ih⟩

theorem store_eq (H : Trail P limit s n h s' n') : h.store s = s' := by
  induction H with
  | nil => rfl
  | @cons t n h s' n' _ _ ih =>
    rw [← ih, History.store, History.store, List.getLast?_cons]
    cases h.getLast? <;> rfl

theorem crawled_eq (H : Trail P limit s n h s' n') : h.crawled n = n' := by
  induction H with
  | nil => rfl
  | @cons t n h s' n' _ _ ih =>
    rw [← ih, History.crawled, History.crawled, List.getLast?_cons]
    cases h.getLast? <;> rfl

theorem crawled_created (H : Trail P limit s n h s' n') : n' = n + h.created.length := by
  induction H with
  | nil => rfl
  | cons fair _ ih => rw [ih, fair.crawled, History.created_cons, List.length_append, Nat.add_assoc]

theorem crawled_le (H : Trail P limit s n h s' n') (hn : n ≤ limit) : n' ≤ limit := by
  induction H with
  | nil => exact hn
  | cons fair _ ih => exact ih (fair.within hn)

/-- What the crawl has created is all different, was not there at first and is there now, if others
remove nothing. -/
theorem created_fresh (hP : ∀ s s', P s s' → s.ids ⊆ s'.ids) (H : Trail P limit s n h s' n') :
    s.ids ⊆ s'.ids ∧ h.created.Nodup ∧ ∀ id ∈ h.created, id ∉ s.ids ∧ id ∈ s'.ids := by
  induction H with
  | nil s => exact ⟨List.Subset.refl _, List.nodup_nil, by simp [History.created]⟩
  | @cons t n h s' n' fair _ ih =>
    obtain ⟨hkept, hnodup, hfresh⟩ := ih
    have hturn : t.before.ids ⊆ t.after.ids := by
      cases hw : t.writer with
      | crawl => exact fair.own hw
      | others => exact hP _ _ (fair.others hw)
    rw [History.created_cons]
    refine ⟨fun id hid => hkept (hturn hid), ?_, fun id hid => ?_⟩
    · refine fair.distinct.append hnodup fun id hid hid' => ?_
      exact (hfresh id hid').1 (Turn.mem_created hid).2
    · rcases List.mem_append.mp hid with hid | hid
      · exact ⟨(Turn.mem_created hid).1, hkept (Turn.mem_created hid).2⟩
      · exact ⟨fun hs => (hfresh id hid).1 (hturn hs), (hfresh id hid).2⟩

end Trail

/-! ## Steps keep to the budget -/

/-- A later world of the same run: the turns taken since are a trail from one to the other. -/
structure World.Follows (P : Store → Store → Prop) (w w' : World) : Prop where
  limit : w'.budget.limit = w.budget.limit
  trail : ∃ more, w'.turns = w.turns ++ more ∧
    Trail P w.budget.limit w.store w.budget.crawled more w'.store w'.budget.crawled

namespace World

variable {w w' w'' : World}

theorem Follows.ofSame (hs : w'.store = w.store) (hb : w'.budget = w.budget)
    (ht : w'.turns = w.turns) : w.Follows P w' :=
  ⟨by rw [hb], [], by rw [ht, List.append_nil], by rw [hs, hb]; exact .nil _ _⟩

theorem Follows.refl (w : World) : w.Follows P w := .ofSame rfl rfl rfl

theorem Follows.trans (h : w.Follows P w') (h' : w'.Follows P w'') : w.Follows P w'' := by
  obtain ⟨hlimit, more, hturns, htrail⟩ := h
  obtain ⟨hlimit', more', hturns', htrail'⟩ := h'
  refine ⟨hlimit'.trans hlimit, more ++ more', ?_, ?_⟩
  · rw [hturns', hturns, List.append_assoc]
  · rw [hlimit] at htrail'
    exact htrail.append htrail'

/-- One turn that is fair. -/
theorem Follows.ofTurn {writer : Writer} {store : Store} {budget : Budget}
    (hlimit : budget.limit = w.budget.limit)
    (hfair : Turn.Fair P w.budget.limit w.budget.crawled ⟨writer, w.store, store, budget.crawled⟩) :
    w.Follows P (w.turn writer store budget) :=
  ⟨hlimit, _, rfl, .cons hfair (.nil _ _)⟩

theorem follows_discover (id : String) (depth : Nat) (snapshot : Json) (w : World) :
    w.Follows P (w.discover id depth snapshot).2 := by
  unfold discover
  split
  · exact .refl w
  · next hleft =>
    have hroom : w.budget.crawled < w.budget.limit := by
      rw [Budget.exhausted_iff] at hleft
      omega
    rcases Store.insertIfAbsent_cases id depth snapshot w.store with
      ⟨hid, hs, hins⟩ | ⟨-, hins⟩ | ⟨e, hins⟩
    · rw [hins]
      exact .ofTurn rfl (.ofAdds (Store.Adds.single depth snapshot hid hs) fun _ => hroom)
    · rw [hins]; exact .ofTurn rfl (.ofSame rfl)
    · rw [hins]; exact .ofTurn rfl (.ofSame rfl)

theorem follows_seedPage (items : List Item) (w : World) : w.Follows P (w.seedPage items).2 := by
  unfold seedPage
  dsimp only
  split
  · exact .refl w
  · rcases Store.insertPage_cases (items.take w.budget.remaining) w.store with
      ⟨s', added, hins, hadd, hsub⟩ | ⟨e, hins⟩
    · rw [hins]
      refine .ofTurn rfl (.ofAdds hadd fun hn => ?_)
      -- the page was cut to what the budget leaves
      have hcut : added.length ≤ w.budget.remaining := by
        have hlen := hsub.length_le
        rw [List.length_map] at hlen
        exact Nat.le_trans hlen (List.length_take_le _ _)
      unfold Budget.remaining at hcut
      omega
    · rw [hins]; exact .ofTurn rfl (.ofSame rfl)

theorem follows_write {α : Type} {f : Store.Action α} (h : (f w.store).2.ids = w.store.ids) :
    w.Follows P (w.write f).2 := .ofTurn rfl (.ofSame h)

theorem Step.follows (h : Step P w w') : w.Follows P w' := by
  cases h with
  | note | call | clock | disk => exact .ofSame rfl rfl rfl
  | discover id depth snapshot => exact follows_discover id depth snapshot w
  | seedPage items => exact follows_seedPage items w
  | mark id status => exact follows_write (Store.ids_markStatus id status w.store)
  | save r => exact follows_write (Store.ids_insertInfo r w.store)
  | yield f _ hf => exact .ofTurn rfl (.ofOthers hf)

theorem Steps.follows (h : Steps P w w') : w.Follows P w' := by
  induction h with
  | refl => exact .refl w
  | tail _ hstep ih => exact ih.trans hstep.follows

end World

/-- **The budget is strict.** At every moment of a crawl, the counter is within the limit and is the
number of rows that the crawl itself has created so far; these have different ids, none of which was
in the frontier when the crawl began, and all of which are there. The history misses nothing: its
turns lead from the store at the beginning to the store at the end. -/
theorem Crawl.strict_budget {c : Catalog} (hc : c.Within Store.Outside) (o : Options) (w : World) :
    ∃ summary w', runStages c o w = (summary, w') ∧
      w'.turns.Linked w.store ∧ w'.turns.store w.store = w'.store ∧
      w'.turns.crawled 0 = summary.crawled ∧
      ∀ past : History, past <+: w'.turns →
        past.crawled 0 ≤ o.maxApps ∧ past.crawled 0 = past.created.length ∧ past.created.Nodup ∧
          ∀ id ∈ past.created, id ∉ w.store.ids ∧ id ∈ (past.store w.store).ids := by
  obtain ⟨-, turns, hturns, htrail⟩ := (Crawl.runStages_steps hc o w).follows
  replace hturns : (runStages c o w).2.turns = turns := hturns
  replace htrail : Trail Store.Outside o.maxApps w.store 0 turns _ _ := htrail
  refine ⟨(runStages c o w).1, (runStages c o w).2, rfl, ?_⟩
  rw [hturns]
  refine ⟨htrail.linked, htrail.store_eq, htrail.crawled_eq, fun past hpast => ?_⟩
  obtain ⟨later, rfl⟩ := hpast
  obtain ⟨s₁, n₁, hpast, -⟩ := htrail.split
  obtain ⟨-, hnodup, hfresh⟩ :=
    hpast.created_fresh fun s s' h => (Store.Outside.ids_prefix h).subset
  rw [hpast.crawled_eq, hpast.store_eq]
  exact ⟨hpast.crawled_le (Nat.zero_le _), by rw [hpast.crawled_created, Nat.zero_add], hnodup,
    hfresh⟩

/-- A catalog whose listing repeats an id, and names one that someone else adds while
it is fetched. -/
def Catalog.contested : Catalog where
  list _ _ :=
    { delay := 5
      meanwhile := fun s => (Store.insertIfAbsent "b" 0 .null s).2
      outcome := .ok [⟨"a", .null⟩, ⟨"a", .null⟩, ⟨"b", .null⟩, ⟨"c", .null⟩] }
  similar _ _ _ := { outcome := .ok [⟨"b", .null⟩, ⟨"d", .null⟩, ⟨"e", .null⟩] }
  detail _ id _ := { outcome := .error (.status id 404) }

theorem Catalog.contested_within : contested.Within Store.Outside where
  list _ _ s := .single (.insert "b" 0 .null s)
  similar _ _ _ _ := .refl
  detail _ _ _ _ := .refl

theorem Crawl.strict_budget_contested :
    Catalog.contested.Within Store.Outside ∧
      ∃ summary w', runStages .contested
          { maxApps := 3, categories := ["GAME"], collections := ["TOP_FREE"] }
          { store := .empty, budget := ⟨0, 0⟩ } = (summary, w') ∧
        w'.turns.created = ["a", "d", "e"] ∧
        ∀ past : History, past <+: w'.turns →
          past.crawled 0 ≤ 3 ∧ past.crawled 0 = past.created.length := by
  obtain ⟨summary, w', hrun, -, -, -, hpast⟩ := strict_budget Catalog.contested_within
    { maxApps := 3, categories := ["GAME"], collections := ["TOP_FREE"] }
    { store := .empty, budget := ⟨0, 0⟩ }
  have hcreated : (runStages .contested
      { maxApps := 3, categories := ["GAME"], collections := ["TOP_FREE"] }
      { store := .empty, budget := ⟨0, 0⟩ }).2.turns.created = ["a", "d", "e"] := by decide +kernel
  rw [hrun] at hcreated
  refine ⟨Catalog.contested_within, summary, w', hrun, hcreated, fun past h => ?_⟩
  exact ⟨(hpast past h).1, (hpast past h).2.1⟩

end CatalogCrawl
