import CatalogCrawl.Crawl.Run
import CatalogCrawl.Proofs.Pacing
import Mathlib.Logic.Relation

/-! # What a crawl can do to its world

A crawl changes its world by steps of nine kinds (`World.Step`). Four of them are turns of its own
at the store, one is a turn of others, and the rest leave store and budget alone. Every stage, and
so a whole crawl, is a sequence of such steps (`Crawl.runStages_steps`), for every catalog, every
schedule and every store. What holds of each step therefore holds along every crawl. -/

namespace CatalogCrawl

/-- Whatever others do to the store while an answer is on its way is within `P`. -/
structure Catalog.Within (P : Store → Store → Prop) (c : Catalog) : Prop where
  list : ∀ n q s, P s ((c.list n q).meanwhile s)
  similar : ∀ n id l s, P s ((c.similar n id l).meanwhile s)
  detail : ∀ n id l s, P s ((c.detail n id l).meanwhile s)

namespace World

/-- One step of a crawl, where others act on the store within `P`. -/
inductive Step (P : Store → Store → Prop) : World → World → Prop
  | note (r : Log.Record) (w : World) : Step P w (Logged.note r w)
  | call (now : Nat) (c : Call) (w : World) : Step P w (w.call now c)
  | clock (now : Nat) (w : World) : Step P w { w with now }
  | disk (d : Disk) (w : World) : Step P w { w with disk := d }
  | discover (id : String) (depth : Nat) (snapshot : Json) (w : World) :
      Step P w (w.discover id depth snapshot).2
  | seedPage (items : List Item) (w : World) : Step P w (w.seedPage items).2
  | mark (id : String) (status : Status) (w : World) :
      Step P w (w.write (Store.markStatus id status)).2
  | save (r : InfoRecord) (w : World) : Step P w (w.write (Store.insertInfo r)).2
  | yield (f : Store → Store) (w : World) (h : P w.store (f w.store)) : Step P w (w.yield f)

/-- Any number of steps. -/
abbrev Steps (P : Store → Store → Prop) : World → World → Prop := Relation.ReflTransGen (Step P)

end World

open World

variable {P : Store → Store → Prop} {τ : Type}

namespace Stage

/-- The world of a stage goes by steps. -/
def Goes (P : Store → Store → Prop) (s s' : Stage τ) : Prop := Steps P s.world s'.world

theorem Goes.refl (s : Stage τ) : Goes P s s := Relation.ReflTransGen.refl

theorem Goes.trans {s₁ s₂ s₃ : Stage τ} (h : Goes P s₁ s₂) (h' : Goes P s₂ s₃) : Goes P s₁ s₃ :=
  Relation.ReflTransGen.trans h h'

theorem goes_note (r : Log.Record) (s : Stage τ) : Goes P s (Logged.note r s) := .single (.note r _)

theorem goes_count (f : τ → τ) (s : Stage τ) : Goes P s (s.count f) := Relation.ReflTransGen.refl

theorem goes_flow : Pacer.Flow (Goes P (τ := τ)) := ⟨.refl, .trans, goes_note⟩

theorem goes_mark (id : String) (status : Status) (s : Stage τ) :
    Goes P s (s.onStore (Store.markStatus id status)).2 := .single (.mark id status _)

theorem goes_receive {α : Type} {answer : Answer α} (h : ∀ s, P s (answer.meanwhile s))
    (s : Stage τ) : Goes P s (s.receive answer) :=
  Goes.trans (.single (.yield answer.meanwhile s.world (h _))) (goes_flow.noteAll _ _)

/-- A unit that makes one call goes by steps if its reaction does. -/
theorem request_goes {α : Type} (c : Call) {ask : Nat → Answer α}
    {react : Except FetchError α → Stage τ → Stage τ × Option String}
    (hask : ∀ n s, P s ((ask n).meanwhile s)) (hreact : ∀ r s, Goes P s (react r s).1)
    (s₀ : Stage τ) : Pacer.Keeps (Goes P) (fun _ => True) s₀ (request c ask react) := by
  intro now s _
  refine ⟨Goes.trans (.single (.call now c s.world)) (goes_flow.noteAll _ _),
    fun s' _ _ => ⟨?_, trivial⟩⟩
  exact (goes_receive (hask _) s').trans (hreact _ _)

/-- A run goes by single steps if its units do. -/
theorem run_goes {α : Type} (size window : Nat) (stop : World → Bool) (xs : List α)
    {unit : α → Pacer.Work (Stage τ)}
    (hu : ∀ x s₀, Pacer.Keeps (Goes P) (fun _ => True) s₀ (unit x)) (tally : τ) (w : World) :
    Steps P w (run size window stop (xs.map unit) tally w).2.world := by
  have hrun :=
    (Pacer.runUntil_keeps (Q := fun _ _ => True) goes_flow (fun _ _ _ h _ => h) size window
    (fun s : Stage τ => stop s.world) xs unit ⟨w, tally⟩ (fun x _ => hu x _) w.now).1
  exact hrun.tail (.clock _ _)

end Stage

/-! ## Seeding -/

namespace Seeding
open Stage

theorem react_goes (q : ListQuery) (outcome : Except FetchError (List Item)) (s : Stage Tally) :
    Goes P s (react q outcome s).1 := by
  unfold react
  cases outcome with
  | error e => exact goes_note _ s
  | ok items =>
    have hpage : Goes P s (s.lift (World.seedPage items)).2 := .single (.seedPage items _)
    dsimp only
    split
    · next h => rw [h] at hpage; exact hpage
    · next h => rw [h] at hpage; exact hpage.trans (goes_note _ _)

theorem run_steps {c : Catalog} (hc : c.Within P) (o : Options) (w : World) :
    Steps P w (run c o w).2 := by
  have hunit := fun q => request_goes (.list q) (fun n => hc.list n q) (react_goes q)
  have hunits := fun w => run_goes o.batchSize o.seedWindow (·.budget.exhausted) o.seedQueries
    hunit {} w
  unfold run
  dsimp only
  split
  · exact .head (.note _ w) (hunits _)
  · exact .head (.note _ w) ((hunits _).tail (.note _ _))

end Seeding

/-! ## Expansion -/

namespace Expansion
open Stage

theorem discoverAll_goes (depth : Nat) (items : List Item) (s : Stage Tally) :
    Goes P s (discoverAll depth items s).2 := by
  induction items generalizing s with
  | nil => exact .refl s
  | cons item rest ih =>
    have hdiscover : Goes P s (s.lift (World.discover item.id depth item.raw)).2 :=
      .single (.discover item.id depth item.raw _)
    unfold discoverAll
    split
    · exact .refl s
    · exact ih s
    · split
      · next h => rw [h] at hdiscover; exact hdiscover
      · next h => rw [h] at hdiscover; exact hdiscover.trans ((goes_count _ _).trans (ih _))
      · next h => rw [h] at hdiscover; exact hdiscover.trans (ih _)
      · next h => rw [h] at hdiscover; exact hdiscover

theorem explore_goes (entry : FrontierEntry) (outcome : Except FetchError (List Item))
    (s : Stage Tally) : Goes P s (explore entry outcome s).2 := by
  unfold explore
  cases outcome with
  | error e =>
    let s' := Logged.warn .expanding s!"Failed to fetch similar apps for {entry.id}: {e.message}" s
    have hmark : Goes P s (s'.onStore (Store.markStatus entry.id .error)).2 :=
      (goes_note _ s).trans (goes_mark entry.id .error s')
    dsimp only
    split
    · next h => rw [h] at hmark; exact hmark
    · next h => rw [h] at hmark; exact hmark.trans (goes_count _ _)
  | ok neighbours =>
    have hall := discoverAll_goes (P := P) (entry.depth + 1) neighbours s
    dsimp only
    split
    · next h => rw [h] at hall; exact hall
    · next h => rw [h] at hall; exact hall.trans ((goes_note _ _).trans (goes_count _ _))
    · next s' h =>
      rw [h] at hall
      have hmark := goes_mark (P := P) entry.id .visited s'
      split
      · next h => rw [h] at hmark; exact hall.trans hmark
      · next h => rw [h] at hmark; exact hall.trans (hmark.trans (goes_count _ _))

theorem react_goes (entry : FrontierEntry) (outcome : Except FetchError (List Item))
    (s : Stage Tally) : Goes P s (react entry outcome s).1 := by
  have hexplore := explore_goes (P := P) entry outcome s
  unfold react
  split <;> next h => rw [h] at hexplore; exact hexplore

theorem unit_goes {c : Catalog} (hc : c.Within P) (locale : Locale) (entry : FrontierEntry)
    (s₀ : Stage Tally) : Pacer.Keeps (Goes P) (fun _ => True) s₀ (unit c locale entry) := by
  intro now s hs
  unfold unit
  split
  · exact ⟨.refl s, fun s' _ _ => ⟨.refl s', trivial⟩⟩
  · exact request_goes (.similar entry.id locale) (fun n => hc.similar n entry.id locale)
      (react_goes entry) s₀ now (s.count fun t => { t with calls := t.calls + 1 }) hs

theorem runLevel_steps {c : Catalog} (hc : c.Within P) (o : Options) (depth : Nat)
    (pending : List FrontierEntry) (r : Report) (w : World) :
    Steps P w (runLevel c o depth pending r w).2 :=
  (run_goes o.batchSize o.expandWindow (·.budget.exhausted) pending (unit_goes hc o.locale)
    {} w).tail (.note _ _)

theorem runLevels_steps {c : Catalog} (hc : c.Within P) (o : Options) (levels depth : Nat)
    (r : Report) (w : World) : Steps P w (runLevels c o levels depth r w).2 := by
  induction levels generalizing depth r w with
  | zero => exact .refl
  | succ levels ih =>
    unfold runLevels
    split
    · exact .refl
    · split
      · exact .single (.note _ _)
      · dsimp only
        split
        · exact .head (.note _ w) (ih _ _ _)
        · exact .head (.note _ w) ((runLevel_steps hc o depth _ r _).trans (ih _ _ _))

theorem run_steps {c : Catalog} (hc : c.Within P) (o : Options) (w : World) :
    Steps P w (run c o w).2 := by
  have hlevels := runLevels_steps hc o o.maxDepth 0 {} w
  unfold run
  split <;> next h => rw [h] at hlevels; exact hlevels

end Expansion

/-! ## Backfill and export -/

namespace Backfill
open Stage

theorem react_goes (id : String) (outcome : Except FetchError Detail) (s : Stage Tally) :
    Goes P s (react id outcome s).1 := by
  unfold react
  cases outcome with
  | error e => exact goes_note _ s
  | ok detail =>
    have hsave : Goes P s (s.onStore (Store.insertInfo (detail.toRecord id))).2 :=
      .single (.save _ _)
    dsimp only
    split
    · next h => rw [h] at hsave; exact hsave.trans ((goes_note _ _).trans (goes_count _ _))
    · next h => rw [h] at hsave; exact hsave.trans ((goes_note _ _).trans (goes_count _ _))
    · next h => rw [h] at hsave; exact hsave

theorem run_steps {c : Catalog} (hc : c.Within P) (o : Options) (w : World) :
    Steps P w (run c o w).2 := by
  unfold run
  split
  · exact .refl
  · exact .head (.note _ w) (run_goes o.batchSize o.backfillWindow (fun _ => false) _
      (fun id => request_goes (.detail id o.locale) (fun n => hc.detail n id o.locale)
        (react_goes id)) {} _)

end Backfill

theorem World.exportTo_steps (f : ExportFilter) (path : String) (w : World) :
    Steps P w (w.exportTo f path).2 := by
  unfold exportTo
  split
  · exact .refl
  · dsimp only
    split
    · exact .head (.note _ w) (.single (.disk _ _))
    · exact .head (.note _ w) (.head (.disk _ _) (.single (.note _ _)))

/-! ## Whole crawls -/

namespace Crawl

theorem settle_steps {ρ : Type} (name : StageName) (empty : ρ) (r : Except Failure ρ × World) :
    Steps P r.2 (settle name empty r).2.2 := by
  obtain ⟨r | r, w⟩ := r
  · exact .single (.note _ _)
  · exact .refl

@[simp] theorem ofStore_world {ρ : Type} (r : Except StoreError ρ × World) :
    (ofStore r).2 = r.2 := by
  obtain ⟨r | r, w⟩ := r <;> rfl

theorem checkpoint_steps (w : World) : Steps P w (checkpoint w) := by
  unfold checkpoint
  split
  · exact .refl
  · exact .single (.note _ w)

/-- A crawl is a sequence of steps, from the world with a budget of its own on. -/
theorem runStages_steps {c : Catalog} (hc : c.Within P) (o : Options) (w : World) :
    Steps P (w.fresh o.maxApps) (runStages c o w).2 := by
  unfold runStages
  dsimp only
  refine .trans (.trans ?_ (settle_steps _ _ _)) (checkpoint_steps _)
  refine .trans (.tail ?_ (.note _ _)) (exportTo_steps _ _ _)
  refine .tail (.trans ?_ (settle_steps _ _ _)) (.note _ _)
  rw [ofStore_world]
  refine .trans (.tail (.tail (.trans ?_ (settle_steps _ _ _)) (.note _ _)) (.note _ _))
    (Backfill.run_steps hc o _)
  rw [ofStore_world]
  refine .trans (.tail ?_ (.note _ _)) (Expansion.run_steps hc o _)
  exact .head (.note _ _) (Seeding.run_steps hc o _)

end Crawl

end CatalogCrawl
