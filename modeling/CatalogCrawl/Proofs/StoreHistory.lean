import CatalogCrawl.Proofs.StoreEvolution
import CatalogCrawl.Proofs.StrictBudget

/-! # The history of a store

Operations and whole crawls follow one another on a store that is empty at first. Every store on
the way is reached from the one before by single operations (`Operation.performAll_passes`): a
crawl is taken apart into its turns, and what others do during one of them into what they do one
after the other. So what each operation keeps holds between any two stores of the history, near
or far (`Operation.history_invariant`). -/

namespace CatalogCrawl

namespace Store

variable {T : Store → Store → Prop} {s s' s'' : Store} {ss ss' : List Store}

/-! ## Sequences of stores -/

/-- From a store through others to the last of them, each by `T` from the one before. -/
inductive Passes (T : Store → Store → Prop) : Store → List Store → Store → Prop
  | nil (s : Store) : Passes T s [] s
  | cons {s s₁ s' : Store} {ss : List Store} (h : T s s₁) (rest : Passes T s₁ ss s') :
      Passes T s (s₁ :: ss) s'

namespace Passes

theorem single (h : T s s') : Passes T s [s'] s' := .cons h (.nil s')

theorem append (h : Passes T s ss s') (h' : Passes T s' ss' s'') : Passes T s (ss ++ ss') s'' := by
  induction h with
  | nil => exact h'
  | cons hT _ ih => exact .cons hT (ih h')

theorem mono {T' : Store → Store → Prop} (hT : ∀ s s', T s s' → T' s s') (h : Passes T s ss s') :
    Passes T' s ss s' := by
  induction h with
  | nil s => exact .nil s
  | cons h _ ih => exact .cons (hT _ _ h) ih

/-- What `T` keeps holds of all stores on the way. -/
theorem keeps {I : Store → Prop} (hT : ∀ s s', T s s' → I s → I s') (h : Passes T s ss s')
    (hs : I s) : ∀ s₁ ∈ ss, I s₁ := by
  induction h with
  | nil => simp
  | cons h _ ih => exact List.forall_mem_cons.mpr ⟨hT _ _ h hs, ih (hT _ _ h hs)⟩

theorem evolves (hT : ∀ s s', T s s' → s.Evolves s') (h : Passes T s ss s') :
    ∀ s₁ ∈ ss, s.Evolves s₁ := by
  induction h with
  | nil => simp
  | cons h _ ih =>
    have hfirst := hT _ _ h
    exact List.forall_mem_cons.mpr ⟨hfirst, fun s₁ hs₁ => hfirst.trans (ih s₁ hs₁)⟩

/-- Any store on the way has become any later one. -/
theorem pairwise (hT : ∀ s s', T s s' → s.Evolves s') (h : Passes T s ss s') :
    (s :: ss).Pairwise Evolves := by
  induction h with
  | nil s => exact List.pairwise_singleton _ s
  | cons h rest ih => exact .cons ((Passes.cons h rest).evolves hT) ih

end Passes

/-! ## Single operations -/

/-- An operation whose new rows are unvisited and as they were given to it. -/
def Brings (s s' : Store) : Prop :=
  ∃ given, s.Offers s' given ∧ ∀ (i : Nat) r, s.rows.length ≤ i → s'.rows[i]? = some r →
    r ∈ given ∧ r.code = Status.unvisited.code

theorem Touch.brings (h : Touch s s') : s.Brings s' := by
  obtain ⟨given, hoffers⟩ := h.offers
  exact ⟨given, hoffers, fun _ _ => hoffers.new⟩

theorem Outside.passes (h : Outside s s') : ∃ ss, Passes Touch s (ss ++ [s']) s' := by
  induction h with
  | refl => exact ⟨[], .single (.faults ⟨rfl, rfl⟩)⟩
  | tail _ htouch ih =>
    obtain ⟨ss, hss⟩ := ih
    exact ⟨_, hss.append (.single htouch)⟩

/-- Between two stores of a sequence there are those that single operations lead through. -/
theorem Passes.refine (h : Passes Outside s ss s') :
    ∃ fine, ss.Sublist fine ∧ Passes Touch s fine s' := by
  induction h with
  | nil s => exact ⟨[], .slnil, .nil s⟩
  | @cons s s₁ s' ss houtside _ ih =>
    obtain ⟨between, hbetween⟩ := houtside.passes
    obtain ⟨fine, hsub, hfine⟩ := ih
    have hfirst : [s₁].Sublist (between ++ [s₁]) := List.sublist_append_right between [s₁]
    exact ⟨_, hfirst.append hsub, hbetween.append hfine⟩

end Store

/-! ## The turns of a crawl -/

namespace World

open Store

variable {w w' w'' : World}

/-- A later world, after turns that lead from one store to the other. -/
def Passes (w w' : World) : Prop :=
  ∃ more, w'.turns = w.turns ++ more ∧ Store.Passes Outside w.store (more.map (·.after)) w'.store

theorem Passes.ofSame (hs : w'.store = w.store) (ht : w'.turns = w.turns) : w.Passes w' :=
  ⟨[], by rw [ht, List.append_nil], by rw [hs]; exact .nil _⟩

theorem Passes.ofTurn {writer : Writer} {store : Store} (budget : Budget)
    (h : Outside w.store store) : w.Passes (w.turn writer store budget) :=
  ⟨_, rfl, .single h⟩

theorem Passes.trans (h : w.Passes w') (h' : w'.Passes w'') : w.Passes w'' := by
  obtain ⟨more, hturns, hpasses⟩ := h
  obtain ⟨more', hturns', hpasses'⟩ := h'
  refine ⟨more ++ more', ?_, ?_⟩
  · rw [hturns', hturns, List.append_assoc]
  · rw [List.map_append]
    exact hpasses.append hpasses'

theorem passes_discover (id : String) (depth : Nat) (snapshot : Json) (w : World) :
    w.Passes (w.discover id depth snapshot).2 := by
  have hinsert : Outside w.store (insertIfAbsent id depth snapshot w.store).2 :=
    .single (.insert id depth snapshot w.store)
  unfold discover
  split
  · exact .ofSame rfl rfl
  · split <;> next h => rw [h] at hinsert; exact .ofTurn _ hinsert

theorem passes_seedPage (items : List Item) (w : World) : w.Passes (w.seedPage items).2 := by
  have hpage : Outside w.store (insertPage (items.take w.budget.remaining) w.store).2 :=
    .single (.page _ w.store)
  unfold seedPage
  dsimp only
  split
  · exact .ofSame rfl rfl
  · split <;> next h => rw [h] at hpage; exact .ofTurn _ hpage

theorem Step.passes (h : Step Outside w w') : w.Passes w' := by
  cases h with
  | note | call | clock | disk => exact .ofSame rfl rfl
  | discover id depth snapshot => exact passes_discover id depth snapshot w
  | seedPage items => exact passes_seedPage items w
  | mark id status => exact .ofTurn _ (.single (.mark id status w.store))
  | save r => exact .ofTurn _ (.single (.info r w.store))
  | yield f _ hf => exact .ofTurn _ hf

theorem Steps.passes (h : Steps Outside w w') : w.Passes w' := by
  induction h with
  | refl => exact .ofSame rfl rfl
  | tail _ hstep ih => exact ih.trans hstep.passes

end World

/-! ## Sequences of operations -/

/-- What is done with a store, by itself or by a crawl. -/
inductive Operation : Type 1 where
  | insert (id : String) (depth : Nat) (snapshot : Json)
  | page (items : List Item)
  | mark (id : String) (status : Status)
  | info (r : InfoRecord)
  | read {α : Type} (f : Store → Except StoreError α)
  /-- Something begins or ceases to stand in the way of writes. -/
  | fault (f : Store → Store)
  | crawl (c : Catalog) (o : Options)

namespace Operation

open Store

def perform : Operation → World → World
  | insert id depth snapshot, w => { w with store := (insertIfAbsent id depth snapshot w.store).2 }
  | page items, w => { w with store := (insertPage items w.store).2 }
  | mark id status, w => { w with store := (markStatus id status w.store).2 }
  | info r, w => { w with store := (insertInfo r w.store).2 }
  | read _, w => w
  | fault f, w => { w with store := f w.store }
  | crawl c o, w => (Crawl.runStages c o w).2

/-- The stores that an operation leads through. -/
def stores : Operation → World → List Store
  | crawl c o, w => (Crawl.runStages c o w).2.turns.map (·.after)
  | op, w => [(op.perform w).store]

/-- A fault concerns no rows, and during a crawl others only use the operations of the store. -/
def Allowed : Operation → Prop
  | fault f => ∀ s : Store, s.Unwritten (f s)
  | crawl c _ => c.Within Outside
  | _ => True

def performAll : List Operation → World → World
  | [], w => w
  | op :: ops, w => performAll ops (op.perform w)

/-- The stores that a sequence of operations leads through. -/
def history : List Operation → World → List Store
  | [], _ => []
  | op :: ops, w => op.stores w ++ history ops (op.perform w)

theorem perform_passes {op : Operation} (h : op.Allowed) (w : World) :
    Passes Outside w.store (op.stores w) (op.perform w).store := by
  cases op with
  | insert id depth snapshot => exact .single (.single (.insert id depth snapshot w.store))
  | page items => exact .single (.single (.page items w.store))
  | mark id status => exact .single (.single (.mark id status w.store))
  | info r => exact .single (.single (.info r w.store))
  | read f => exact .single .refl
  | fault f => exact .single (.single (.faults (h w.store)))
  | crawl c o =>
    obtain ⟨turns, hturns, hpasses⟩ := (Crawl.runStages_steps h o w).passes
    replace hturns : (Crawl.runStages c o w).2.turns = turns := hturns
    rw [stores, hturns]
    exact hpasses

theorem performAll_passes {ops : List Operation} (hops : ∀ op ∈ ops, op.Allowed) (w : World) :
    Passes Outside w.store (history ops w) (performAll ops w).store := by
  induction ops generalizing w with
  | nil => exact .nil w.store
  | cons op ops ih =>
    obtain ⟨hop, hrest⟩ := List.forall_mem_cons.mp hops
    exact (perform_passes hop w).append (ih hrest (op.perform w))

/-- **The history of a store.** Whatever is done with a store that has no rows at first, by
operations that succeed or fail and by whole crawls, all stores on the way are reached by single
operations, each of which brings new rows only as they were given to it, unvisited. In every one of
them ids are unique, and of any two the earlier one is found in the later place by place: rows with
their ids, depths and snapshots, and with their status unless it has been settled since, and the
details as they were. -/
theorem history_invariant {ops : List Operation} (hops : ∀ op ∈ ops, op.Allowed) {w : World}
    (hrows : w.store.rows = []) (hinfo : w.store.infoRows = []) :
    ∃ all : List Store, (history ops w).Sublist all ∧
      Passes Brings w.store all (performAll ops w).store ∧
      (∀ s ∈ all, s.ids.Nodup ∧ (s.infoRows.map (·.id)).Nodup) ∧
      (w.store :: all).Pairwise Evolves := by
  obtain ⟨all, hsub, hall⟩ := (performAll_passes hops w).refine
  have hempty : w.store.Keyed := ⟨by simp [ids, hrows], by simp [hinfo]⟩
  have hkeyed : ∀ s ∈ all, s.Keyed := by
    refine hall.keeps (fun s s' htouch hs => ?_) hempty
    obtain ⟨given, hoffers⟩ := htouch.offers
    exact hoffers.keyed hs
  refine ⟨all, hsub, hall.mono fun s s' => Touch.brings, fun s hs => ?_,
    hall.pairwise fun s s' htouch => ?_⟩
  · exact ⟨(hkeyed s hs).frontier, (hkeyed s hs).info⟩
  · obtain ⟨given, hoffers⟩ := htouch.offers
    exact hoffers.evolves

/-- An id inserted twice, a crawl during which someone else adds a row, marks and details given
twice, and a write to a store that has become read-only. -/
def sampleOperations : List Operation :=
  [insert "b" 3 .null, insert "b" 0 (.bool true),
    crawl .contested
      { maxApps := 3, maxDepth := 1, categories := ["GAME"], collections := ["TOP_FREE"] },
    mark "b" .error, mark "b" .visited,
    info ⟨"a", "", 1, 2, true, .null⟩, info ⟨"a", "", 3, 4, false, .null⟩,
    fault ({ · with access := .readOnly }), insert "z" 0 .null]

theorem history_invariant_sample :
    (∀ op ∈ sampleOperations, op.Allowed) ∧
      (performAll sampleOperations { store := .empty, budget := ⟨0, 0⟩ }).store.rows.map
        (fun r => (r.id, r.depth, r.code)) = [("b", 3, -2), ("a", 0, 1), ("d", 1, 0), ("e", 1, 0)] ∧
      ∃ all : List Store,
        (history sampleOperations { store := .empty, budget := ⟨0, 0⟩ }).Sublist all ∧
        (∀ s ∈ all, s.ids.Nodup ∧ (s.infoRows.map (·.id)).Nodup) ∧
        (Store.empty :: all).Pairwise Evolves := by
  have hops : ∀ op ∈ sampleOperations, op.Allowed := by
    have hfault (access : Access) (s : Store) : s.Unwritten { s with access } := ⟨rfl, rfl⟩
    simp [sampleOperations, Allowed, Catalog.contested_within, hfault]
  obtain ⟨all, hsub, -, hkeyed, hevolves⟩ := history_invariant hops
    (w := { store := .empty, budget := ⟨0, 0⟩ }) rfl rfl
  exact ⟨hops, by decide +kernel, all, hsub, hkeyed, hevolves⟩

end Operation

end CatalogCrawl
