import CatalogCrawl.Proofs.Lockstep
import CatalogCrawl.Proofs.Steps
import CatalogCrawl.Proofs.Twins
import CatalogCrawl.Proofs.UnitEndings
import Mathlib.Data.Set.Defs

/-! # Expansions with failed calls and with empty answers

Two catalogs answer alike, but for some ids: where the one cannot say what is similar to
them, the other says that nothing is, after the same time (`Catalog.Differs`). Expansions
with the one and with the other go in lockstep. Each unit ends alike in both, but for the
mark that the units of these ids set (`Expansion.Paired.react_apart`). So the two make the
same calls, come to the same rows and fail alike, and their reports count the rows with the
other mark differently (`Expansion.run_coupled`). -/

namespace CatalogCrawl

/-- What is similar to the ids of `X` cannot be told by the one catalog, and is nothing
by the other, after the same time. Otherwise they answer alike, and nobody else writes to
the store meanwhile. -/
structure Catalog.Differs (X : Set String) (c c' : Catalog) : Prop where
  list : c'.list = c.list
  detail : c'.detail = c.detail
  similar : ∀ n id l, id ∉ X → c'.similar n id l = c.similar n id l
  delay : ∀ n id l, id ∈ X → (c'.similar n id l).delay = (c.similar n id l).delay
  fails : ∀ n id l, id ∈ X → ∃ e, (c.similar n id l).outcome = .error e
  empty : ∀ n id l, id ∈ X → (c'.similar n id l).outcome = .ok []
  alone : c.Within fun s s' => s' = s
  alone' : c'.Within fun s s' => s' = s

/-- Two stages in lockstep. -/
theorem Stage.run_lockstep {α β τ : Type} {unit unit' : α → Pacer.Work (Stage τ)}
    {ends ends' : β → Nat → Stage τ → Stage τ × Option String} (stop : World → Bool)
    {I : List α → List β → Stage τ → Stage τ → Prop}
    (hI : Pacer.Coupling unit unit' ends ends' (fun s => stop s.world) (fun s => stop s.world) I)
    (size window : Nat) (xs : List α) {tally : τ} {w w' : World}
    (h : I xs [] ⟨w, tally⟩ ⟨w', tally⟩) (hnow : w'.now = w.now) :
    (run size window stop (xs.map unit) tally w).1 =
      (run size window stop (xs.map unit') tally w').1 ∧
      ∃ now s s', I [] [] s s' ∧
        (run size window stop (xs.map unit) tally w).2 = ⟨{ s.world with now }, s.tally⟩ ∧
        (run size window stop (xs.map unit') tally w').2 = ⟨{ s'.world with now }, s'.tally⟩ := by
  obtain ⟨hclock, -, hreport, hstate⟩ := Pacer.runUntil_lockstep hI size window w.now h
  unfold run
  rw [hnow]
  dsimp only
  refine ⟨hreport, _, _, _, hstate, rfl, ?_⟩
  rw [hclock]

/-! ## Rows and calls -/

/-- Something similar to an id was asked for after the first `old` calls. -/
def World.Asked (old : Nat) (l : Locale) (w : World) (id : String) : Prop :=
  ∃ t, (t, Call.similar id l) ∈ w.calls.drop old

theorem World.asked_congr {old : Nat} {l : Locale} {w w' : World} (h : w'.calls = w.calls)
    (id : String) : w'.Asked old l id ↔ w.Asked old l id := by
  unfold Asked
  rw [h]

/-- After a call its id has been asked about, and no other besides those from before. -/
theorem World.asked_call {old : Nat} {l : Locale} {w : World} (h : old ≤ w.calls.length) (now : Nat)
    (c : Call) (id : String) :
    (w.call now c).Asked old l id ↔ w.Asked old l id ∨ c = .similar id l := by
  unfold Asked call
  simp only [List.drop_append_of_le_length h, List.mem_append, List.mem_singleton, Prod.mk.injEq]
  constructor
  · rintro ⟨t, hold | ⟨-, hc⟩⟩
    · exact .inl ⟨t, hold⟩
    · exact .inr hc.symm
  · rintro (⟨t, hold⟩ | hc)
    · exact ⟨t, .inl hold⟩
    · exact ⟨now, .inr ⟨rfl, hc.symm⟩⟩

/-- The ids are those of `X` that were asked about and whose rows have been settled. -/
structure Fits (X : Set String) (l : Locale) (old : Nat) (ids : List String)
    (w : World) : Prop where
  keyed : w.store.Keyed
  nodup : ids.Nodup
  later : old ≤ w.calls.length
  asked : ∀ id ∈ ids, id ∈ X ∧ w.Asked old l id
  settled : ∀ r ∈ w.store.rows, r.id ∈ X → w.Asked old l r.id →
    r.id ∈ ids ∨ r.code = Status.unvisited.code

/-- The rows whose turns are to come, or whose answers are on their way, are unvisited. -/
structure Waits (es : List FrontierEntry) (s : Store) : Prop where
  distinct : (es.map (·.id)).Nodup
  row : ∀ e ∈ es, ∃ r ∈ s.rows, r.id = e.id ∧ r.code = Status.unvisited.code

section
variable {X : Set String} {l : Locale} {old : Nat} {ids : List String} {w w' : World}
  {es es' : List FrontierEntry} {e : FrontierEntry} {s : Store}

theorem Fits.of_rows (h : Fits X l old ids w) (hk : w'.store.Keyed)
    (hr : w'.store.rows = w.store.rows) (hc : w'.calls = w.calls) : Fits X l old ids w' where
  keyed := hk
  nodup := h.nodup
  later := hc ▸ h.later
  asked id hid := ⟨(h.asked id hid).1, (World.asked_congr hc id).mpr (h.asked id hid).2⟩
  settled r hr' hX hasked := h.settled r (hr ▸ hr') hX ((World.asked_congr hc r.id).mp hasked)

theorem Fits.congr (h : Fits X l old ids w) (hs : w'.store = w.store) (hc : w'.calls = w.calls) :
    Fits X l old ids w' := h.of_rows (hs ▸ h.keyed) (by rw [hs]) hc

/-- A call that is not about an id of `X`, or about one whose row is unvisited. -/
theorem Fits.call (h : Fits X l old ids w) (now : Nat) {c : Call}
    (hrow : ∀ r ∈ w.store.rows, c = .similar r.id l → r.code = Status.unvisited.code) :
    Fits X l old ids (w.call now c) where
  keyed := h.keyed
  nodup := h.nodup
  later := by
    simp only [World.call, List.length_append]
    exact Nat.le_trans h.later (Nat.le_add_right _ _)
  asked id hid :=
    ⟨(h.asked id hid).1, (World.asked_call h.later now c id).mpr (.inl (h.asked id hid).2)⟩
  settled r hr hX hasked := by
    rcases (World.asked_call h.later now c r.id).mp hasked with hasked | hc
    · exact h.settled r hr hX hasked
    · exact .inr (hrow r hr hc)

theorem Waits.perm (h : Waits es s) (hp : es'.Perm es) : Waits es' s :=
  ⟨(hp.map _).nodup_iff.mpr h.distinct, fun e he => h.row e (hp.subset he)⟩

theorem Waits.tail (h : Waits (e :: es) s) : Waits es s :=
  ⟨(List.nodup_cons.mp h.distinct).2, fun x hx => h.row x (List.mem_cons_of_mem _ hx)⟩

theorem Waits.nil (s : Store) : Waits [] s := ⟨List.nodup_nil, nofun⟩

/-- With unique ids, every row of the id is unvisited. -/
theorem Waits.code (h : Waits es s) (hs : s.Keyed) (he : e ∈ es) {r : FrontierRow} (hr : r ∈ s.rows)
    (hid : r.id = e.id) : r.code = Status.unvisited.code := by
  obtain ⟨r', hr', hid', hcode⟩ := h.row e he
  have hsame : r = r' := List.inj_on_of_nodup_map hs.frontier hr hr' (hid.trans hid'.symm)
  rw [hsame, hcode]

theorem Waits.mem_ids (h : Waits es s) (he : e ∈ es) : e.id ∈ s.ids := by
  obtain ⟨r, hr, hid, -⟩ := h.row e he
  exact List.mem_map.mpr ⟨r, hr, hid⟩

theorem Waits.not_mem (h : Waits es s) (he : e ∈ es) (hids : s.Failed ids) : e.id ∉ ids := by
  obtain ⟨r, hr, hid, hcode⟩ := h.row e he
  exact fun hmem => hids.code_ne hr (hid ▸ hmem) hcode

end

namespace Expansion

variable {s s' : Stage Tally} {e : FrontierEntry} {outcome : Except FetchError (List Item)}
  {failure : Option String}

/-- When a unit has ended, a row was there before, is new and unvisited, or is the unit's own. -/
theorem Ending.row_cases (h : Ending e outcome s s' failure) {r : FrontierRow}
    (hr : r ∈ s'.world.store.rows) :
    r ∈ s.world.store.rows ∨ r.code = Status.unvisited.code ∨ r.id = e.id := by
  have hfinds {mid : Stage Tally} {depth : Nat} {items : List Item} {added : List FrontierRow}
      (hfinds : Finds depth items s mid added) {r : FrontierRow} (hr : r ∈ mid.world.store.rows) :
      r ∈ s.world.store.rows ∨ r.code = Status.unvisited.code ∨ r.id = e.id := by
    rw [hfinds.adds.rows] at hr
    rcases List.mem_append.mp hr with hr | hr
    · exact .inl hr
    · exact .inr (.inl (hfinds.adds.unvisited r hr))
  have hmarked {mid : Store} {status : Status} (hr : r ∈ (mid.markRows e.id status).rows) :
      r ∈ mid.rows ∨ r.id = e.id := by
    rw [Store.rows_markRows] at hr
    obtain ⟨r₀, hr₀, rfl⟩ := List.mem_map.mp hr
    unfold Store.markRow
    split
    · next hhit => exact .inr hhit.1
    · exact .inl hr₀
  cases h with
  | visited _ hadded _ hstore =>
    rw [hstore] at hr
    rcases hmarked hr with hr | hid
    · exact hfinds hadded hr
    · exact .inr (.inr hid)
  | truncated _ hadded _ _ hstore => exact hfinds hadded (hstore ▸ hr)
  | errored _ hstore =>
    rw [hstore] at hr
    rcases hmarked hr with hr | hid
    · exact .inl hr
    · exact .inr (.inr hid)
  | failed _ hadded => exact hfinds hadded hr

theorem Ending.row_kept (h : Ending e outcome s s' failure) {r : FrontierRow}
    (hr : r ∈ s.world.store.rows) (hid : r.id ≠ e.id) : r ∈ s'.world.store.rows := by
  have hmarked {mid : Store} (status : Status) (hr : r ∈ mid.rows) :
      r ∈ (mid.markRows e.id status).rows := by
    rw [Store.rows_markRows]
    exact List.mem_map.mpr ⟨r, hr, if_neg fun hhit => hid hhit.1⟩
  cases h with
  | visited _ hadded _ hstore =>
    rw [hstore]
    exact hmarked .visited (hadded.rows_prefix.subset hr)
  | truncated _ hadded _ _ hstore =>
    rw [hstore]
    exact hadded.rows_prefix.subset hr
  | errored _ hstore =>
    rw [hstore]
    exact hmarked .error hr
  | failed _ hadded => exact hadded.rows_prefix.subset hr

theorem Ending.waits {es : List FrontierEntry} (h : Ending e outcome s s' failure)
    (hw : Waits (e :: es) s.world.store) : Waits es s'.world.store where
  distinct := hw.tail.distinct
  row x hx := by
    obtain ⟨r, hr, hid, hcode⟩ := hw.tail.row x hx
    refine ⟨r, h.row_kept hr fun heq => ?_, hid, hcode⟩
    have hnew := (List.nodup_cons.mp hw.distinct).1
    exact hnew (List.mem_map.mpr ⟨x, hx, hid.symm.trans heq⟩)

/-- The unit of a row settles that row alone. -/
theorem Ending.fits {X : Set String} {l : Locale} {old : Nat} {ids ids' : List String}
    (h : Ending e outcome s s' failure) (hf : Fits X l old ids s.world) (hnodup : ids'.Nodup)
    (hsub : ids ⊆ ids') (hasked : ∀ id ∈ ids', id ∈ X ∧ s.world.Asked old l id)
    (hown : ∀ r ∈ s'.world.store.rows, r.id = e.id → e.id ∈ X →
      r.id ∈ ids' ∨ r.code = Status.unvisited.code) :
    Fits X l old ids' s'.world where
  keyed := h.keyed hf.keyed
  nodup := hnodup
  later := h.calls ▸ hf.later
  asked id hid := ⟨(hasked id hid).1, (World.asked_congr h.calls id).mpr (hasked id hid).2⟩
  settled r hr hX hra := by
    rcases h.row_cases hr with hold | hcode | hid
    · exact (hf.settled r hold hX ((World.asked_congr h.calls r.id).mp hra)).imp_left (hsub ·)
    · exact .inr hcode
    · exact hown r hr hid (hid ▸ hX)

/-! ## The ends of units -/

/-- The tallies agree but for `n` rows that are counted as errors in the one and as visited
in the other. -/
structure Tally.Moved (n : Nat) (t t' : Tally) : Prop where
  errors : t.errors = t'.errors + n
  visited : t'.visited = t.visited + n
  calls : t.calls = t'.calls
  truncated : t.truncated = t'.truncated
  skipped : t.skipped = t'.skipped
  inserted : t.inserted = t'.inserted

/-- Two expansions that have come to the same, but for the rows of some ids. -/
structure Paired (ids : List String) (n : Nat) (s s' : Stage Tally) : Prop where
  world : s.world.Twin ids s'.world
  tally : s.tally.Moved n s'.tally

namespace Paired

variable {ids : List String} {n : Nat}

theorem note (r r' : Log.Record) (h : Paired ids n s s') :
    Paired ids n (Logged.note r s) (Logged.note r' s') := ⟨h.world.note r r', h.tally⟩

/-- A mark comes out the same in both. -/
theorem mark (h : Paired ids n s s') (id : String) (status : Status) :
    (s'.onStore (Store.markStatus id status)).1 = (s.onStore (Store.markStatus id status)).1 ∧
      Paired ids n (s.onStore (Store.markStatus id status)).2
        (s'.onStore (Store.markStatus id status)).2 := by
  obtain ⟨hres, hworld⟩ := h.world.mark id status
  exact ⟨hres, hworld, h.tally⟩

/-- Discoveries come out the same in both. -/
theorem discoverAll (h : Paired ids n s s') (depth : Nat) (items : List Item) :
    (Expansion.discoverAll depth items s').1 = (Expansion.discoverAll depth items s).1 ∧
      Paired ids n (Expansion.discoverAll depth items s).2
        (Expansion.discoverAll depth items s').2 := by
  induction items generalizing s s' with
  | nil => exact ⟨rfl, h⟩
  | cons item rest ih =>
    obtain ⟨hres, hworld⟩ := h.world.discover item.id depth item.raw
    unfold Expansion.discoverAll
    rw [h.world.store, Store.contains_revise]
    cases s.world.store.contains item.id with
    | error e => exact ⟨rfl, h⟩
    | ok there =>
      cases there with
      | true => exact ih h
      | false =>
        simp only [Stage.lift]
        generalize s.world.discover item.id depth item.raw = r,
          s'.world.discover item.id depth item.raw = r' at hres hworld ⊢
        obtain ⟨res, u⟩ := r
        obtain ⟨res', u'⟩ := r'
        cases hres
        rcases res with e | ⟨_ | _ | _⟩
        · exact ⟨rfl, hworld, h.tally⟩
        · exact ih ⟨hworld, { h.tally with inserted := congrArg (· + 1) h.tally.inserted }⟩
        · exact ih ⟨hworld, h.tally⟩
        · exact ⟨rfl, hworld, h.tally⟩

/-- Units with one answer end alike. -/
theorem react (h : Paired ids n s s') (e : FrontierEntry)
    (outcome : Except FetchError (List Item)) :
    (Expansion.react e outcome s').2 = (Expansion.react e outcome s).2 ∧
      Paired ids n (Expansion.react e outcome s).1 (Expansion.react e outcome s').1 := by
  cases outcome with
  | error err =>
    let text := s!"Failed to fetch similar apps for {e.id}: {err.message}"
    have hnoted := h.note ⟨.warn, .expanding, text⟩ ⟨.warn, .expanding, text⟩
    obtain ⟨hres, hmarked⟩ := hnoted.mark e.id .error
    simp only [Expansion.react, explore, Logged.warn]
    generalize (Logged.note _ s).onStore _ = r, (Logged.note _ s').onStore _ = r' at hres hmarked ⊢
    obtain ⟨res, s₁⟩ := r
    obtain ⟨res', s₁'⟩ := r'
    cases hres
    cases res with
    | error e' => exact ⟨rfl, hmarked⟩
    | ok hit =>
      refine ⟨rfl, hmarked.world, { hmarked.tally with errors := ?_ }⟩
      have herrors := hmarked.tally.errors
      simp only [Stage.count] at herrors ⊢
      omega
  | ok page =>
    obtain ⟨hres, hfound⟩ := h.discoverAll (e.depth + 1) page
    simp only [Expansion.react, explore]
    generalize Expansion.discoverAll (e.depth + 1) page s = r,
      Expansion.discoverAll (e.depth + 1) page s' = r' at hres hfound ⊢
    obtain ⟨res, mid⟩ := r
    obtain ⟨res', mid'⟩ := r'
    cases hres
    rcases res with e' | all
    · exact ⟨rfl, hfound⟩
    · cases all with
      | false =>
        refine ⟨rfl, hfound.world.note _ _, ?_⟩
        exact { hfound.tally with truncated := congrArg (· + 1) hfound.tally.truncated }
      | true =>
        obtain ⟨hres, hmarked⟩ := hfound.mark e.id .visited
        dsimp only at hres hmarked ⊢
        generalize mid.onStore _ = r, mid'.onStore _ = r' at hres hmarked ⊢
        obtain ⟨res, s₁⟩ := r
        obtain ⟨res', s₁'⟩ := r'
        cases hres
        cases res with
        | error e' => exact ⟨rfl, hmarked⟩
        | ok hit =>
          refine ⟨rfl, hmarked.world, { hmarked.tally with visited := ?_ }⟩
          have hvisited := hmarked.tally.visited
          simp only [Stage.count] at hvisited ⊢
          omega

/-- A unit without an answer and one whose answer lists nothing end alike, but for the mark
that they set. -/
theorem react_apart (h : Paired ids n s s') {e : FrontierEntry} (err : FetchError)
    (hid : e.id ∈ s.world.store.ids) (hnew : e.id ∉ ids)
    (hrow : ∀ r ∈ s.world.store.rows, r.id = e.id → r.code = Status.unvisited.code) :
    (Expansion.react e (.ok []) s').2 = (Expansion.react e (.error err) s).2 ∧
      (Paired (e.id :: ids) (n + 1) (Expansion.react e (.error err) s).1
          (Expansion.react e (.ok []) s').1 ∨
        (Expansion.react e (.error err) s).1.world.store = s.world.store ∧
          Paired ids n (Expansion.react e (.error err) s).1 (Expansion.react e (.ok []) s').1) := by
  let noted := Logged.warn .expanding s!"Failed to fetch similar apps for {e.id}: {err.message}" s
  have hnoted : noted.world.Twin ids s'.world := h.world.note_left _
  have herrors := h.tally.errors
  have hvisited := h.tally.visited
  rcases hnoted.mark_apart hid hnew hrow with
    ⟨hit, hres, hres', hworld⟩ | ⟨e', hres, hres', hstore, hworld⟩
  · have hmark : noted.onStore (Store.markStatus e.id .error) =
        (.ok hit, ⟨(noted.world.write (Store.markStatus e.id .error)).2, s.tally⟩) :=
      Prod.ext hres rfl
    have hmark' : s'.onStore (Store.markStatus e.id .visited) =
        (.ok hit, ⟨(s'.world.write (Store.markStatus e.id .visited)).2, s'.tally⟩) :=
      Prod.ext hres' rfl
    simp only [Expansion.react, explore, Expansion.discoverAll, noted, hmark, hmark', Stage.count]
    refine ⟨trivial, .inl ⟨hworld, { h.tally with errors := ?_, visited := ?_ }⟩⟩
    · dsimp only
      omega
    · dsimp only
      omega
  · have hmark : noted.onStore (Store.markStatus e.id .error) =
        (.error e', ⟨(noted.world.write (Store.markStatus e.id .error)).2, s.tally⟩) :=
      Prod.ext hres rfl
    have hmark' : s'.onStore (Store.markStatus e.id .visited) =
        (.error e', ⟨(s'.world.write (Store.markStatus e.id .visited)).2, s'.tally⟩) :=
      Prod.ext hres' rfl
    simp only [Expansion.react, explore, Expansion.discoverAll, noted, hmark, hmark']
    exact ⟨trivial, .inr ⟨hstore, hworld, h.tally⟩⟩

end Paired

/-! ## Levels -/

/-- Where two expansions stand in a level. The rows that differ are those of before and some more,
which the tallies of the level count differently. -/
structure Coupled (X : Set String) (l : Locale) (old : Nat) (before : List String)
    (q : List FrontierEntry) (fl : List (Option (FrontierEntry × Nat)))
    (s s' : Stage Tally) : Prop where
  moved : ∃ moved, Paired (moved ++ before) moved.length s s' ∧
    Fits X l old (moved ++ before) s.world
  waits : Waits (q ++ fl.reduceOption.map (·.1)) s.world.store
  asked : ∀ b ∈ fl.reduceOption, s.world.Asked old l b.1.id

section
variable {X : Set String} {c c' : Catalog} {l : Locale} {old : Nat} {before : List String}
  {q : List FrontierEntry} {fl fl' : List (Option (FrontierEntry × Nat))}

/-- Both units are launched alike, with the same delay and the same ticket. -/
theorem Coupled.launch (hX : c.Differs X c') (now : Nat)
    (h : Coupled X l old before (e :: q) fl s s') :
    (unit c l e now s).2.delay = (unit c' l e now s').2.delay ∧
      ∃ b, (unit c l e now s).2.finish = ends c l b ∧ (unit c' l e now s').2.finish = ends c' l b ∧
        Coupled X l old before q (fl ++ [b]) (unit c l e now s).1 (unit c' l e now s').1 := by
  obtain ⟨moved, hpaired, hfits⟩ := h.moved
  unfold unit
  rw [hpaired.world.budget]
  split
  · refine ⟨rfl, none, rfl, rfl, ⟨moved, ⟨hpaired.world, ?_⟩, hfits⟩, ?_, ?_⟩
    · exact { hpaired.tally with skipped := congrArg (· + 1) hpaired.tally.skipped }
    · rw [List.reduceOption_append, List.reduceOption_singleton, Option.toList_none,
        List.append_nil]
      exact h.waits.tail
    · rw [List.reduceOption_append, List.reduceOption_singleton, Option.toList_none,
        List.append_nil]
      exact h.asked
  · have hcalls : s'.world.calls.length = s.world.calls.length := by rw [hpaired.world.calls]
    have hdelay : (c.similar s.world.calls.length e.id l).delay =
        (c'.similar s.world.calls.length e.id l).delay := by
      by_cases hid : e.id ∈ X
      · exact (hX.delay _ _ _ hid).symm
      · rw [hX.similar _ _ _ hid]
    have hrow : ∀ r ∈ s.world.store.rows, Call.similar e.id l = .similar r.id l →
        r.code = Status.unvisited.code := by
      intro r hr heq
      exact h.waits.code hfits.keyed List.mem_cons_self hr (Call.similar.inj heq).1.symm
    simp only [Stage.request, Stage.count, hcalls]
    refine ⟨hdelay, some (e, s.world.calls.length), rfl, rfl, ⟨moved, ⟨?_, ?_⟩, ?_⟩, ?_, ?_⟩
    · rw [Stage.noteAll_eq, Stage.noteAll_eq]
      exact (hpaired.world.call now _).noteAll _ _
    · rw [Stage.noteAll_eq, Stage.noteAll_eq]
      exact { hpaired.tally with calls := congrArg (· + 1) hpaired.tally.calls }
    · exact (hfits.call now hrow).congr (Stage.noteAll_cases _ _).1 (Stage.noteAll_cases _ _).2.2
    · rw [(Stage.noteAll_cases _ _).1, List.reduceOption_append, List.reduceOption_singleton,
        Option.toList_some, List.map_append, ← List.append_assoc]
      exact h.waits.perm (List.perm_append_singleton _ _)
    · intro b hb
      rw [World.asked_congr (Stage.noteAll_cases _ _).2.2]
      refine (World.asked_call hfits.later now _ _).mpr ?_
      rw [List.reduceOption_append, List.reduceOption_singleton, Option.toList_some] at hb
      rcases List.mem_append.mp hb with hb | hb
      · exact .inl (h.asked b hb)
      · cases List.mem_singleton.mp hb
        exact .inr rfl

/-- The unit of a row ends in both, from the arrival of the answers on. -/
theorem settle_paired (hX : c.Differs X c') (n : Nat) {moved : List String}
    {es : List FrontierEntry} (h : Paired (moved ++ before) moved.length s s')
    (hfits : Fits X l old (moved ++ before) s.world)
    (hwaits : Waits (e :: es) s.world.store) (hasked : s.world.Asked old l e.id) :
    (react e (c.similar n e.id l).outcome s).2 = (react e (c'.similar n e.id l).outcome s').2 ∧
      ∃ moved', Paired (moved' ++ before) moved'.length (react e (c.similar n e.id l).outcome s).1
          (react e (c'.similar n e.id l).outcome s').1 ∧
        Fits X l old (moved' ++ before) (react e (c.similar n e.id l).outcome s).1.world := by
  have hending := react_ending e (c.similar n e.id l).outcome s
  by_cases hid : e.id ∈ X
  · obtain ⟨err, herr⟩ := hX.fails n e.id l hid
    have hnew := hwaits.not_mem List.mem_cons_self h.world.failed
    rw [herr] at hending ⊢
    rw [hX.empty n e.id l hid]
    obtain ⟨hfailure, hmoved | ⟨hstore, hsame⟩⟩ :=
      h.react_apart err (hwaits.mem_ids List.mem_cons_self)
      hnew fun r hr => hwaits.code hfits.keyed List.mem_cons_self hr
    · refine ⟨hfailure.symm, e.id :: moved, hmoved, ?_⟩
      refine hending.fits hfits (List.nodup_cons.mpr ⟨hnew, hfits.nodup⟩)
        (List.subset_cons_self _ _) ?_ ?_
      · exact List.forall_mem_cons.mpr ⟨⟨hid, hasked⟩, hfits.asked⟩
      · intro r _ heq _
        exact .inl (heq ▸ List.mem_cons_self)
    · exact ⟨hfailure.symm, moved, hsame, hfits.congr hstore hending.calls⟩
  · rw [hX.similar n e.id l hid]
    obtain ⟨hfailure, hsame⟩ := h.react e (c.similar n e.id l).outcome
    refine ⟨hfailure.symm, moved, hsame,
      hending.fits hfits hfits.nodup (List.Subset.refl _) hfits.asked ?_⟩
    exact fun _ _ _ hmem => (hid hmem).elim

/-- Both units end alike. If the one call failed, and the other was answered with nothing, the row
is one of those moved from then on. -/
theorem Coupled.finish (hX : c.Differs X c') {b : Option (FrontierEntry × Nat)} (now : Nat)
    (h : Coupled X l old before q (fl ++ b :: fl') s s') :
    (ends c l b now s).2 = (ends c' l b now s').2 ∧
      Coupled X l old before q (fl ++ fl') (ends c l b now s).1 (ends c' l b now s').1 := by
  obtain ⟨⟨moved, hpaired, hfits⟩, hwaits, hasked⟩ := h
  rw [List.reduceOption_append] at hwaits hasked
  cases b with
  | none =>
    refine ⟨rfl, ⟨moved, hpaired, hfits⟩, ?_, ?_⟩
    · rw [List.reduceOption_append]
      exact hwaits
    · rw [List.reduceOption_append]
      exact hasked
  | some b =>
    obtain ⟨e, n⟩ := b
    rw [List.reduceOption_cons_of_some] at hwaits hasked
    have halone := hX.alone.similar n e.id l
    have hstore : (s.receive (c.similar n e.id l)).world.store = s.world.store := by
      rw [Stage.store_receive, halone]
    have hcalls : (s.receive (c.similar n e.id l)).world.calls = s.world.calls :=
      Stage.calls_receive _ s
    have harrived : Paired (moved ++ before) moved.length (s.receive (c.similar n e.id l))
        (s'.receive (c'.similar n e.id l)) :=
      ⟨Stage.twin_receive hpaired.world halone
        (hX.alone'.similar n e.id l), by simpa using hpaired.tally⟩
    have hmine : Waits (e :: (q ++ (fl.reduceOption ++ fl'.reduceOption).map (·.1)))
        (s.receive (c.similar n e.id l)).world.store := by
      rw [hstore]
      refine hwaits.perm ?_
      simp only [List.map_append, List.map_cons, ← List.append_assoc]
      exact List.perm_middle.symm
    have hown : (s.receive (c.similar n e.id l)).world.Asked old l e.id :=
      (World.asked_congr hcalls _).mpr (hasked (e, n) (List.mem_append_right _ List.mem_cons_self))
    have hending := react_ending e (c.similar n e.id l).outcome (s.receive (c.similar n e.id l))
    obtain ⟨hfailure, hmoved⟩ := settle_paired hX n harrived (hfits.congr hstore hcalls) hmine hown
    refine ⟨hfailure, hmoved, ?_, fun b hb => ?_⟩
    · rw [List.reduceOption_append]
      exact hending.waits hmine
    · rw [List.reduceOption_append] at hb
      refine (World.asked_congr (hending.calls.trans hcalls) _).mpr (hasked b ?_)
      rcases List.mem_append.mp hb with hb | hb
      · exact List.mem_append_left _ hb
      · exact List.mem_append_right _ (List.mem_cons_of_mem _ hb)

/-- The units of a level run in step with the two catalogs. -/
theorem unit_coupling (hX : c.Differs X c') (l : Locale) (old : Nat) (before : List String) :
    Pacer.Coupling (unit c l) (unit c' l) (ends c l) (ends c' l)
      (fun s : Stage Tally => s.world.budget.exhausted)
        (fun s : Stage Tally => s.world.budget.exhausted)
      (Coupled X l old before) where
  note r := fun ⟨⟨moved, hpaired, hfits⟩, hwaits, hasked⟩ =>
    ⟨⟨moved, hpaired.note r r, hfits.congr rfl rfl⟩, hwaits, hasked⟩
  launch := Coupled.launch hX
  finish := Coupled.finish hX
  agree := fun ⟨⟨moved, hpaired, hfits⟩, hwaits, hasked⟩ => by rw [hpaired.world.budget]
  halt _ := fun ⟨hmoved, hwaits, hasked⟩ => ⟨hmoved, .nil _, hasked⟩

/-- The reports agree but for `n` rows that are counted as errors in the one and as visited
in the other. -/
structure Report.Moved (n : Nat) (r r' : Report) : Prop where
  errors : r.errors = r'.errors + n
  visited : r'.visited = r.visited + n
  levelsRun : r.levelsRun = r'.levelsRun
  similarCalls : r.similarCalls = r'.similarCalls
  truncated : r.truncated = r'.truncated
  skipped : r.skipped = r'.skipped
  storeFailures : r.storeFailures = r'.storeFailures
  inserted : r.inserted = r'.inserted
  budgetExhausted : r.budgetExhausted = r'.budgetExhausted

/-- The rows moved by a level are added to those moved before. -/
theorem Report.Moved.add {n m : Nat} {r r' : Report} {t t' : Tally} (h : r.Moved n r')
    (ht : t.Moved m t')
    (batch : Pacer.Report) : (r.add t batch).Moved (m + n) (r'.add t' batch) where
  errors := by
    have herrors := h.errors
    have herrors' := ht.errors
    simp only [Report.add]
    omega
  visited := by
    have hvisited := h.visited
    have hvisited' := ht.visited
    simp only [Report.add]
    omega
  levelsRun := by rw [Report.add, Report.add, h.levelsRun]
  similarCalls := by rw [Report.add, Report.add, h.similarCalls, ht.calls]
  truncated := by rw [Report.add, Report.add, h.truncated, ht.truncated]
  skipped := by rw [Report.add, Report.add, h.skipped, ht.skipped]
  storeFailures := by rw [Report.add, Report.add, h.storeFailures]
  inserted := by rw [Report.add, Report.add, h.inserted, ht.inserted]
  budgetExhausted := h.budgetExhausted

variable {o : Options} {w w' : World} {r r' : Report} {ids : List String}

/-- After a level the worlds are twins again, for some more ids. -/
theorem runLevel_coupled (hX : c.Differs X c') (depth : Nat) {pending : List FrontierEntry}
    (h : w.Twin ids w') (hfits : Fits X o.locale old ids w) (hwaits : Waits pending w.store)
    (hr : r.Moved ids.length r') :
    ∃ ids', (runLevel c o depth pending r w).2.Twin ids' (runLevel c' o depth pending r' w').2 ∧
      Fits X o.locale old ids' (runLevel c o depth pending r w).2 ∧
      (runLevel c o depth pending r w).1.Moved ids'.length
        (runLevel c' o depth pending r' w').1 := by
  have hstart : Coupled X o.locale old ids pending [] (⟨w, {}⟩ : Stage Tally) ⟨w', {}⟩ := by
    refine ⟨⟨[], ⟨h, ⟨rfl, rfl, rfl, rfl, rfl, rfl⟩⟩, hfits⟩, ?_, nofun⟩
    simpa using hwaits
  obtain ⟨hbatch, now, t, t', ⟨⟨moved, hpaired, hfits⟩, -, -⟩, hrun, hrun'⟩ :=
    Stage.run_lockstep (·.budget.exhausted) (unit_coupling hX o.locale old ids) o.batchSize
      o.expandWindow pending hstart h.now
  simp only [runLevel, hrun, hrun', hbatch]
  refine ⟨moved ++ ids, (hpaired.world.clock now).note _ _, hfits.congr rfl rfl, ?_⟩
  rw [List.length_append]
  exact hr.add hpaired.tally _

/-! ## Expansions -/

/-- Two expansions that fail in the same way, or whose reports agree but for `n` rows. -/
inductive Agree (n : Nat) : Except StoreError Report → Except StoreError Report → Prop
  | error (e : StoreError) : Agree n (.error e) (.error e)
  | ok {r r' : Report} (h : r.Moved n r') : Agree n (.ok r) (.ok r')

theorem waits_entries {s : Store} {d : Nat} {es : List FrontierEntry} (hs : s.Keyed)
    (h : s.entriesAt d .unvisited = .ok es) : Waits es s where
  distinct := by
    rw [(Store.entriesAt_eq_ok h).2.1]
    exact hs.frontier.sublist (List.filter_sublist.map _)
  row e he := by
    obtain ⟨r, hr, hid, -, hcode⟩ := Store.exists_row_of_entry h he
    exact ⟨r, hr, hid, hcode⟩

/-- So they are after all levels, and either both expansions fail or neither does. -/
theorem runLevels_coupled (hX : c.Differs X c') (levels depth : Nat) (h : w.Twin ids w')
    (hfits : Fits X o.locale old ids w) (hr : r.Moved ids.length r') :
    ∃ ids', (runLevels c o levels depth r w).2.Twin ids' (runLevels c' o levels depth r' w').2 ∧
      Fits X o.locale old ids' (runLevels c o levels depth r w).2 ∧
      Agree ids'.length (runLevels c o levels depth r w).1
        (runLevels c' o levels depth r' w').1 := by
  induction levels generalizing depth r r' w w' ids with
  | zero => exact ⟨ids, h, hfits, .ok hr⟩
  | succ levels ih =>
    unfold runLevels
    rw [h.store, h.budget, Store.entriesAt_revise h.failed]
    cases hread : w.store.entriesAt depth .unvisited with
    | error e => exact ⟨ids, h, hfits, .error e⟩
    | ok pending =>
      dsimp only
      split
      · exact ⟨ids, h.note _ _, hfits.congr rfl rfl, .ok hr⟩
      · split
        · exact ih (depth + 1) (h.note _ _) (hfits.congr rfl rfl) hr
        · obtain ⟨ids', h', hfits', hr'⟩ := runLevel_coupled hX depth (h.note
              ⟨.info, .expanding, s!"Apps at depth {depth}: {pending.length}"⟩
              ⟨.info, .expanding, s!"Apps at depth {depth}: {pending.length}"⟩)
            (hfits.congr rfl rfl) (waits_entries hfits.keyed hread) hr
          exact ih (depth + 1) h' hfits' hr'

/-- The expansions with the two catalogs leave twins, and their reports differ by as many rows. -/
theorem run_coupled (hX : c.Differs X c') (h : w.Twin [] w') (hfits : Fits X o.locale old [] w) :
    ∃ ids, (run c o w).2.Twin ids (run c' o w').2 ∧ Fits X o.locale old ids (run c o w).2 ∧
      Agree ids.length (run c o w).1 (run c' o w').1 := by
  have hstart : Report.Moved 0 {} {} := ⟨rfl, rfl, rfl, rfl, rfl, rfl, rfl, rfl, rfl⟩
  obtain ⟨ids, htwin, hfits, hagree⟩ := runLevels_coupled hX o.maxDepth 0 h hfits hstart
  unfold run
  generalize runLevels c o o.maxDepth 0 {} w = p, runLevels c' o o.maxDepth 0 {} w' = p' at *
  obtain ⟨res, u⟩ := p
  obtain ⟨res', u'⟩ := p'
  dsimp only at hagree
  cases hagree with
  | error e => exact ⟨ids, htwin, hfits, .error e⟩
  | ok hr =>
    refine ⟨ids, htwin, hfits, .ok { hr with budgetExhausted := ?_ }⟩
    rw [htwin.budget]

end

end Expansion

end CatalogCrawl
