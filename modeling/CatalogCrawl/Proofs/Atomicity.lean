import CatalogCrawl.Crawl.World
import CatalogCrawl.Proofs.StoreEvolution

/-! # Failures leave no trace

An operation of the store that fails leaves both tables as they were, in every state of the
store (`Store.Command.perform_error`). For a page of items this is more than that each
insertion does so: the insertions before the one that fails have gone through, and are undone
with it (`Store.insertEach_eq_error`). The budget is charged only after an insertion, so an
attempt of the crawl that fails leaves it alone as well, and a later attempt comes out as if it
were the first (`World.Traceless`). -/

namespace CatalogCrawl

namespace Store

variable {s s' : Store} {e : StoreError}

/-! ## Operations -/

/-- The operations of a store, with their arguments, by what they give. -/
inductive Command : Type → Type 1 where
  | insertIfAbsent (id : String) (depth : Nat) (snapshot : Json) : Command Bool
  | insertPage (items : List Item) : Command Nat
  | markStatus (id : String) (status : Status) : Command Bool
  | insertInfo (r : InfoRecord) : Command Unit
  | entriesAt (depth : Nat) (status : Status) : Command (List FrontierEntry)
  | contains (id : String) : Command Bool
  | idsMissingInfo : Command (List String)
  | missingInfoCount : Command Nat
  | summary : Command (List LevelCount)
  | frontierCount : Command Nat
  | infoMatching (f : ExportFilter) : Command (List InfoRecord)
  | infoCount : Command Nat
  | checkpoint : Command Unit

/-- An operation that only reads. -/
def reading {α : Type} (f : Store → Except StoreError α) : Action α := fun s => (f s, s)

def Command.perform : {α : Type} → Command α → Action α
  | _, insertIfAbsent id depth snapshot => Store.insertIfAbsent id depth snapshot
  | _, insertPage items => Store.insertPage items
  | _, markStatus id status => Store.markStatus id status
  | _, insertInfo r => Store.insertInfo r
  | _, entriesAt depth status => reading (Store.entriesAt depth status)
  | _, contains id => reading (Store.contains id)
  | _, idsMissingInfo => reading Store.idsMissingInfo
  | _, missingInfoCount => reading Store.missingInfoCount
  | _, summary => reading Store.summary
  | _, frontierCount => reading Store.frontierCount
  | _, infoMatching f => reading (Store.infoMatching f)
  | _, infoCount => reading Store.infoCount
  | _, checkpoint => reading Store.checkpoint

theorem insertIfAbsent_eq_error {id : String} {depth : Nat} {snapshot : Json}
    (h : insertIfAbsent id depth snapshot s = (.error e, s')) : s' = s := by
  rcases insertIfAbsent_cases id depth snapshot s with ⟨-, -, hins⟩ | ⟨-, hins⟩ | ⟨e', hins⟩ <;>
    rw [hins] at h <;> cases h
  rfl

theorem markStatus_eq_error {id : String} {status : Status}
    (h : markStatus id status s = (.error e, s')) : s' = s := by
  rcases markStatus_cases id status s with ⟨hit, hmark⟩ | ⟨e', hmark⟩ <;> rw [hmark] at h <;>
    cases h
  rfl

theorem insertInfo_eq_error {r : InfoRecord} (h : insertInfo r s = (.error e, s')) : s' = s := by
  rcases insertInfo_cases r s with ⟨row, s₁, hins, -⟩ | ⟨e', hins⟩ <;> rw [hins] at h <;> cases h
  rfl

theorem insertPage_eq_error {items : List Item} (h : insertPage items s = (.error e, s')) :
    s' = s := by
  rcases insertPage_cases items s with ⟨s₁, added, hins, -⟩ | ⟨e', hins⟩ <;> rw [hins] at h <;>
    cases h
  rfl

theorem reading_eq {α : Type} {f : Store → Except StoreError α} {r : Except StoreError α}
    (h : reading f s = (r, s')) : s' = s := (congrArg Prod.snd h).symm

theorem Command.perform_error {α : Type} {op : Command α} (h : op.perform s = (.error e, s')) :
    s' = s := by
  cases op with
  | insertIfAbsent => exact insertIfAbsent_eq_error h
  | insertPage => exact insertPage_eq_error h
  | markStatus => exact markStatus_eq_error h
  | insertInfo => exact insertInfo_eq_error h
  | entriesAt | contains | idsMissingInfo | missingInfoCount | summary | frontierCount | infoMatching
  | infoCount | checkpoint => exact reading_eq h

/-! ## Pages -/

/-- The insertions of a page get as far as some item, which cannot be inserted. -/
def StopsAt (items : List Item) (s : Store) (e : StoreError) (mid : Store) : Prop :=
  ∃ before item after n, items = before ++ item :: after ∧ insertEach before 0 s = (.ok n, mid) ∧
    insertIfAbsent item.id 0 item.raw mid = (.error e, mid)

/-- Items are inserted in order: the later ones into the store that the earlier ones leave, if none
of these fails. -/
theorem insertEach_append (before after : List Item) (n : Nat) (s : Store) :
    insertEach (before ++ after) n s =
      match insertEach before n s with
      | (.ok m, mid) => insertEach after m mid
      | (.error e, mid) => (.error e, mid) := by
  induction before generalizing n s with
  | nil => rfl
  | cons item before ih =>
    simp only [List.cons_append, insertEach]
    cases insertIfAbsent item.id 0 item.raw s with
    | mk r s₁ =>
      cases r with
      | error e => rfl
      | ok added => exact ih _ s₁

/-- A failure leaves what was inserted before. -/
theorem insertEach_eq_error {items : List Item} {n : Nat} {mid : Store} :
    insertEach items n s = (.error e, mid) ↔
      ∃ before item after m, items = before ++ item :: after ∧
        insertEach before n s = (.ok m, mid) ∧
        insertIfAbsent item.id 0 item.raw mid = (.error e, mid) := by
  constructor
  · intro h
    induction items generalizing n s with
    | nil => cases h
    | cons item rest ih =>
      unfold insertEach at h
      cases hins : insertIfAbsent item.id 0 item.raw s with
      | mk r s₁ =>
        rw [hins] at h
        cases r with
        | error e' =>
          cases h
          obtain rfl := insertIfAbsent_eq_error hins
          exact ⟨[], item, rest, n, rfl, rfl, hins⟩
        | ok added =>
          obtain ⟨before, next, after, m, rfl, hbefore, hnext⟩ := ih h
          refine ⟨item :: before, next, after, m, rfl, ?_, hnext⟩
          simp only [insertEach, hins]
          exact hbefore
  · rintro ⟨before, item, after, m, rfl, hbefore, hitem⟩
    rw [insertEach_append, hbefore]
    simp only [insertEach, hitem]

/-- A page fails for want of the table, or at some item. None of its rows is there then. -/
theorem insertPage_error_iff {items : List Item} :
    insertPage items s = (.error e, s') ↔
      s' = s ∧ (s.frontierTable = .error e ∨ s.frontier.isSome ∧ ∃ mid, StopsAt items s e mid) := by
  simp only [insertPage, StopsAt, ← insertEach_eq_error]
  cases ht : s.frontierTable with
  | error e' =>
    have hnone : s.frontier.isSome = false := by
      unfold frontierTable at ht
      split at ht
      · cases ht
      · next hf => simp [hf]
    simp only [hnone, Prod.mk.injEq, Except.error.injEq, Bool.false_eq_true, false_and, or_false]
    exact ⟨fun ⟨he, hs⟩ => ⟨hs.symm, he⟩, fun ⟨hs, he⟩ => ⟨he, hs.symm⟩⟩
  | ok t =>
    have hsome : s.frontier.isSome = true := by simp [frontierTable_eq_ok ht]
    rcases insertEach items 0 s with ⟨e' | n, mid⟩
    · simp only [hsome, Prod.mk.injEq, Except.error.injEq, reduceCtorEq, true_and, false_or]
      exact ⟨fun ⟨he, hs⟩ => ⟨hs.symm, mid, he, rfl⟩, fun ⟨hs, _, he, _⟩ => ⟨he, hs.symm⟩⟩
    · simp

theorem insertEach_present {items : List Item} {n m : Nat}
    (h : insertEach items n s = (.ok m, s')) : ∀ item ∈ items, item.id ∈ s'.ids := by
  induction items generalizing n s with
  | nil => exact List.forall_mem_nil _
  | cons item rest ih =>
    unfold insertEach at h
    have hrest {k : Nat} {mid : Store} (hid : item.id ∈ mid.ids)
        (hmore : insertEach rest k mid = (.ok m, s')) :
        ∀ i ∈ item :: rest, i.id ∈ s'.ids := by
      obtain ⟨added, hadds, -⟩ := insertEach_adds rest hmore
      refine List.forall_mem_cons.mpr ⟨?_, ih hmore⟩
      rw [hadds.ids]
      exact List.mem_append_left _ hid
    rcases insertIfAbsent_cases item.id 0 item.raw s with ⟨hid, hs, hins⟩ | ⟨hid, hins⟩ | ⟨e, hins⟩
    · rw [hins] at h
      refine hrest ?_ h
      rw [(Adds.single 0 item.raw hid hs).ids]
      exact List.mem_append_right _ List.mem_cons_self
    · rw [hins] at h
      exact hrest hid h
    · rw [hins] at h
      cases h

/-- A page that does not fail is there as a whole, and its new rows are counted. -/
theorem insertPage_ok {items : List Item} {n : Nat} (h : insertPage items s = (.ok n, s')) :
    (∀ item ∈ items, item.id ∈ s'.ids) ∧ s'.rows.length = s.rows.length + n := by
  unfold insertPage at h
  split at h
  · cases h
  · split at h
    · next heach =>
      cases h
      obtain ⟨added, hadds, hn, -⟩ := insertEach_adds items heach
      refine ⟨insertEach_present heach, ?_⟩
      rw [hadds.rows, List.length_append]
      omega
    · cases h

end Store

/-! ## Attempts of a crawl -/

namespace World

variable {w w' : World}

/-- What one attempt gives is what the other gives, and they leave the same store and
the same budget. -/
structure SameOutcome {α : Type} (r r' : Except StoreError α × World) : Prop where
  result : r.1 = r'.1
  store : r.2.store = r'.2.store
  budget : r.2.budget = r'.2.budget

/-- The attempt leaves the store and the budget as they were. Whatever then happens to the store,
another attempt comes out as it would without the first. -/
structure Traceless {α : Type} (attempt : World → Except StoreError α × World)
    (w : World) : Prop where
  store : (attempt w).2.store = w.store
  budget : (attempt w).2.budget = w.budget
  again : ∀ change : Store → Store,
    SameOutcome (attempt ((attempt w).2.yield change)) (attempt (w.yield change))

/-- Only the store and the budget matter to an attempt. -/
def Local {α : Type} (attempt : World → Except StoreError α × World) : Prop :=
  ∀ w w' : World, w'.store = w.store → w'.budget = w.budget → SameOutcome (attempt w') (attempt w)

/-- An attempt to which only the store and the budget matter leaves no trace if it
changes neither. -/
theorem Local.traceless {α : Type} {attempt : World → Except StoreError α × World}
    (h : Local attempt)
    (hstore : (attempt w).2.store = w.store) (hbudget : (attempt w).2.budget = w.budget) :
    Traceless attempt w where
  store := hstore
  budget := hbudget
  again change := h _ _ (by simp only [yield, turn, hstore]) hbudget

theorem seedPage_local (items : List Item) : Local (seedPage items) := by
  intro w w' hs hb
  unfold seedPage
  rw [hs, hb]
  dsimp only
  split
  · exact ⟨rfl, hs, hb⟩
  · split <;> exact ⟨rfl, rfl, rfl⟩

theorem discover_local (id : String) (depth : Nat) (snapshot : Json) :
    Local (discover id depth snapshot) := by
  intro w w' hs hb
  unfold discover
  rw [hs, hb]
  split
  · exact ⟨rfl, hs, hb⟩
  · split <;> exact ⟨rfl, rfl, rfl⟩

/-- Nor does a page that fails. -/
theorem seedPage_traceless {items : List Item} {e : StoreError}
    (h : (w.seedPage items).1 = .error e) : Traceless (seedPage items) w := by
  have hsame : (w.seedPage items).2.store = w.store ∧ (w.seedPage items).2.budget = w.budget := by
    unfold seedPage at h ⊢
    dsimp only at h ⊢
    split at h
    · cases h
    · next hpage =>
      rw [if_neg hpage]
      split at h
      · cases h
      · next hins => exact ⟨Store.insertPage_eq_error hins, rfl⟩
  exact (seedPage_local items).traceless hsame.1 hsame.2

/-- A discovery that fails leaves no trace. -/
theorem discover_traceless {id : String} {depth : Nat} {snapshot : Json} {e : StoreError}
    (h : (w.discover id depth snapshot).1 = .error e) :
    Traceless (discover id depth snapshot) w := by
  have hsame : (w.discover id depth snapshot).2.store = w.store ∧
      (w.discover id depth snapshot).2.budget = w.budget := by
    unfold discover at h ⊢
    split at h
    · cases h
    · next hroom =>
      rw [if_neg hroom]
      split at h
      · cases h
      · cases h
      · next hins => exact ⟨Store.insertIfAbsent_eq_error hins, rfl⟩
  exact (discover_local id depth snapshot).traceless hsame.1 hsame.2

/-- **Failures leave no trace.** Whatever the state of a store, an operation on it that fails leaves
it as it was. A page is inserted as a whole, with its new rows counted, or not at all: it fails
exactly if the table is missing or the insertions come to an item that cannot be inserted, wherever
it stands, and then the store is the one before the first of them. An attempt of a crawl at a page
or an item that fails leaves the budget as it was too, and another attempt comes out as it would
without the first. -/
theorem failures_atomic :
    (∀ {α : Type} (op : Store.Command α) (s s' : Store) (e : StoreError),
        op.perform s = (.error e, s') → s' = s) ∧
      (∀ (items : List Item) (s s' : Store),
        (∀ n, Store.insertPage items s = (.ok n, s') →
          (∀ item ∈ items, item.id ∈ s'.ids) ∧ s'.rows.length = s.rows.length + n) ∧
        ∀ e, Store.insertPage items s = (.error e, s') ↔
          s' = s ∧ (s.frontierTable = .error e ∨
            s.frontier.isSome ∧ ∃ mid, Store.StopsAt items s e mid)) ∧
      (∀ (items : List Item) (w : World) (e : StoreError),
        (w.seedPage items).1 = .error e → Traceless (seedPage items) w) ∧
      ∀ (id : String) (depth : Nat) (snapshot : Json) (w : World) (e : StoreError),
        (w.discover id depth snapshot).1 = .error e → Traceless (discover id depth snapshot) w := by
  refine ⟨fun op s s' e => Store.Command.perform_error,
    fun items s s' => ⟨fun n => ?_, fun e => ?_⟩, ?_, ?_⟩
  · exact Store.insertPage_ok
  · exact Store.insertPage_error_iff
  · exact fun items w e => seedPage_traceless
  · exact fun id depth snapshot w e => discover_traceless

/-- A world whose store does not take one id. -/
def guarded : World :=
  { store := { frontier := some { noInsert := ["c"] }, info := some {} }, budget := ⟨5, 0⟩ }

/-- The insertions come to the third item with two rows there. These are gone after the failure, and
once the obstacle is removed all three are inserted and counted. By itself the third item fails in
the same way. -/
theorem failures_atomic_guarded :
    let page : List Item := [⟨"a", .null⟩, ⟨"b", .null⟩, ⟨"c", .null⟩]
    (Store.insertEach page 0 guarded.store).2.ids = ["a", "b"] ∧
      (guarded.seedPage page).2.store.ids = [] ∧ (guarded.seedPage page).2.budget = guarded.budget ∧
      (((guarded.seedPage page).2.yield fun _ => .empty).seedPage page).2.store.ids =
        ["a", "b", "c"] ∧
      (((guarded.seedPage page).2.yield fun _ => .empty).seedPage page).2.budget.crawled = 3 ∧
      (guarded.discover "c" 1 .null).2.budget = guarded.budget ∧
      ((Store.Command.insertIfAbsent "c" 1 .null).perform guarded.store).2 = guarded.store := by
  intro page
  have hfails : (guarded.seedPage page).1 = .error (.engine .blocked) := by decide
  have hfails' : (guarded.discover "c" 1 .null).1 = .error (.engine .blocked) := by decide
  obtain ⟨hcommand, -, hpage, hitem⟩ := failures_atomic
  have htraceless := hpage page guarded _ hfails
  have hagain := htraceless.again fun _ => .empty
  refine ⟨by decide, ?_, htraceless.budget, ?_, ?_, (hitem "c" 1 .null guarded _ hfails').budget,
    ?_⟩
  · rw [htraceless.store]
    decide
  · rw [hagain.store]
    decide
  · rw [hagain.budget]
    decide
  · exact hcommand (.insertIfAbsent "c" 1 .null) guarded.store _ (.engine .blocked)
      (Prod.ext (by decide) rfl)

end World

end CatalogCrawl
