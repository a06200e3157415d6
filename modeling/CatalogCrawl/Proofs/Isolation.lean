import CatalogCrawl.Proofs.CallRate
import CatalogCrawl.Proofs.ExpansionPairs
import CatalogCrawl.Proofs.StoreHistory

/-! # Failed calls disturb nothing else

A crawl in which the calls for what is similar to some ids fail goes as one in which they are
answered with nothing, after the same time. Seeding does not make such calls, expansions go in
lockstep, and what follows them does not look at how a row was settled (`Backfill.run_coupled`,
`Crawl.Beside.save`). So the two crawls make the same calls and leave the same store but for the
marks of these ids (`Crawl.runStages_isolated`). -/

namespace CatalogCrawl

/-! ## Backfill -/

namespace Backfill

/-- How a launched unit ends, by the number of its call. -/
def ends (c : Catalog) (l : Locale) : String × Nat → Nat → Stage Tally → Stage Tally × Option String
  | (id, n), _, s => react id (c.detail n id l).outcome (s.receive (c.detail n id l))

section
variable {X : Set String} {c c' : Catalog} {l : Locale} {old : Nat} {ids : List String}
  {s s' : Stage Tally}

/-- Details are taken alike in twin worlds. -/
theorem react_twin (h : s.world.Twin ids s'.world) (ht : s.tally = s'.tally) (id : String)
    (outcome : Except FetchError Detail) :
    (react id outcome s).2 = (react id outcome s').2 ∧
      (react id outcome s).1.world.Twin ids (react id outcome s').1.world ∧
      (react id outcome s).1.tally = (react id outcome s').1.tally := by
  cases outcome with
  | error err =>
    refine ⟨rfl, h.note _ _, ?_⟩
    simp only [react, Stage.count, Logged.warn, Logged.note, ht]
  | ok detail =>
    obtain ⟨hres, hworld⟩ := h.save (detail.toRecord id)
    simp only [react, Stage.onStore, Stage.lift]
    generalize s.world.write _ = r, s'.world.write _ = r' at hres hworld ⊢
    obtain ⟨res, u⟩ := r
    obtain ⟨res', u'⟩ := r'
    cases hres
    rcases res with e | _
    · cases e with
      | duplicate =>
        exact ⟨rfl, hworld.note _ _, by simp only [Stage.count, Logged.warn, Logged.note, ht]⟩
      | corrupt | engine => exact ⟨rfl, hworld, ht⟩
    · exact ⟨rfl, hworld.note _ _, by simp only [Stage.count, Logged.debug, Logged.note, ht]⟩

theorem react_fits (h : Fits X l old ids s.world) (id : String)
    (outcome : Except FetchError Detail) : Fits X l old ids (react id outcome s).1.world := by
  cases outcome with
  | error err => exact h.congr rfl rfl
  | ok detail =>
    have hsaved : Fits X l old ids (s.world.write (Store.insertInfo (detail.toRecord id))).2 :=
      h.of_rows ((Store.Offers.info (detail.toRecord id) _).keyed h.keyed)
        (Store.rows_congr (Store.insertInfo_frontier _ _)) rfl
    simp only [react, Stage.onStore, Stage.lift]
    generalize s.world.write _ = r at hsaved ⊢
    obtain ⟨e | _, u⟩ := r
    · cases e with
      | duplicate => exact hsaved.congr rfl rfl
      | corrupt | engine => exact hsaved
    · exact hsaved.congr rfl rfl

/-- Where two backfills stand. -/
structure Coupled (X : Set String) (l : Locale) (old : Nat) (ids : List String)
    (s s' : Stage Tally) : Prop where
  world : s.world.Twin ids s'.world
  tally : s.tally = s'.tally
  fits : Fits X l old ids s.world

/-- The units of the two backfills run in step. -/
theorem unit_coupling (hX : c.Differs X c') (l : Locale) (old : Nat) (ids : List String) :
    Pacer.Coupling (unit c l) (unit c' l) (ends c l) (ends c' l) (fun _ => false) (fun _ => false)
      (fun _ _ => Coupled X l old ids) where
  note r h := ⟨h.world.note r r, h.tally, h.fits.congr rfl rfl⟩
  launch {id q fl s s'} now h := by
    have hcalls : s'.world.calls.length = s.world.calls.length := by rw [h.world.calls]
    simp only [unit, Stage.request, hcalls, hX.detail]
    refine ⟨trivial, (id, s.world.calls.length), rfl, ?_, ?_, ?_, ?_⟩
    · funext _ _
      simp only [ends, hX.detail]
    · rw [Stage.noteAll_eq, Stage.noteAll_eq]
      exact (h.world.call now _).noteAll _ _
    · rw [Stage.noteAll_eq, Stage.noteAll_eq]
      exact h.tally
    · refine (h.fits.call now (c := .detail id l) fun _ _ heq => by cases heq).congr ?_ ?_
      · exact (Stage.noteAll_cases _ _).1
      · exact (Stage.noteAll_cases _ _).2.2
  finish {q fl b fl' s s'} now h := by
    obtain ⟨id, n⟩ := b
    have halone := hX.alone.detail n id l
    have hfits : Fits X l old ids (s.receive (c.detail n id l)).world :=
      h.fits.congr (by rw [Stage.store_receive, halone]) (Stage.calls_receive _ s)
    simp only [ends, hX.detail]
    obtain ⟨hfailure, hworld, htally⟩ := react_twin (Stage.twin_receive h.world halone halone)
      (by simpa using h.tally) id (c.detail n id l).outcome
    exact ⟨hfailure, hworld, htally, react_fits hfits id _⟩
  agree _ := rfl
  halt hstop := nomatch hstop

/-- A backfill comes out the same in twin worlds. -/
theorem run_coupled (hX : c.Differs X c') (o : Options) {w w' : World} (h : w.Twin ids w')
    (hfits : Fits X o.locale old ids w) :
    (run c o w).1 = (run c' o w').1 ∧ (run c o w).2.Twin ids (run c' o w').2 ∧
      Fits X o.locale old ids (run c o w).2 := by
  unfold run
  rw [h.store, Store.idsMissingInfo_revise]
  cases w.store.idsMissingInfo with
  | error e => exact ⟨rfl, h, hfits⟩
  | ok pending =>
    let record : Log.Record := ⟨.info, .backfilling, s!"Querying {pending.length} apps ..."⟩
    have hstart :
        Coupled X o.locale old ids ⟨Logged.note record w, {}⟩ ⟨Logged.note record w', {}⟩ :=
      ⟨h.note record record, rfl, hfits.congr rfl rfl⟩
    obtain ⟨hbatch, now, t, t', ht, hrun, hrun'⟩ := Stage.run_lockstep (fun _ => false)
      (unit_coupling hX o.locale old ids) o.batchSize o.backfillWindow pending hstart h.now
    simp only [Logged.info, record, hrun, hrun', hbatch] at *
    exact ⟨by rw [ht.tally], ht.world.clock now, ht.fits.congr rfl rfl⟩

end

end Backfill

/-! ## Seeding and export -/

namespace Seeding

theorem calls_react (q : ListQuery) (outcome : Except FetchError (List Item)) (s : Stage Tally) :
    (react q outcome s).1.world.calls = s.world.calls := by
  have hseed (items : List Item) : (s.world.seedPage items).2.calls = s.world.calls := by
    unfold World.seedPage
    dsimp only
    split
    · rfl
    · split <;> rfl
  cases outcome with
  | error e => rfl
  | ok items =>
    have hcalls := hseed items
    simp only [react, Stage.lift]
    generalize s.world.seedPage items = r at hcalls ⊢
    obtain ⟨_ | _, u⟩ := r <;> exact hcalls

/-- Seeding asks for listing pages only. -/
theorem run_calls (c : Catalog) (o : Options) (w : World) :
    ∃ more, (run c o w).2.calls = w.calls ++ more ∧ ∀ x ∈ more, ∃ q, x.2 = .list q := by
  have hunit {b : Pacer.Work (Stage Tally) × Nat} (hb : b ∈ (o.seedQueries.map (unit c)).zipIdx) :
      ∃ q ∈ o.seedQueries, unit c q = b.1 := List.mem_map.mp (List.fst_mem_of_mem_zipIdx hb)
  let start : World := Logged.info .seeding s!"Seeding from {o.seedQueries.length} listing pages" w
  obtain ⟨-, more, -, hcalls, -, hown⟩ := (Pacer.runUntil_advances o.batchSize o.seedWindow
      (fun s => s.world.budget.exhausted) (o.seedQueries.map (unit c)) start.now ⟨start, {}⟩).emits
    (fun s => s.world.calls) Prod.fst (fun x => ∃ q, x.2 = .list q)
    (fun _ _ => rfl)
    (fun b hb now s => by
      obtain ⟨q, -, heq⟩ := hunit hb
      rw [← heq]
      exact ⟨_, Stage.calls_request now s, List.Sublist.refl _, by simp⟩)
    (fun b hb start s₀ now s => by
      obtain ⟨q, -, heq⟩ := hunit hb
      rw [← heq]
      exact Stage.calls_request_finish (calls_react q) start s₀ now s)
  refine ⟨more, ?_, hown⟩
  unfold run
  dsimp only
  split <;> exact hcalls

end Seeding

/-- An export comes out the same in twin worlds, which have the same details. -/
theorem World.Twin.exportTo {ids : List String} {w w' : World} (h : w.Twin ids w')
    (f : ExportFilter) (path : String) :
    (w.exportTo f path).1 = (w'.exportTo f path).1 ∧
      (w.exportTo f path).2.Twin ids (w'.exportTo f path).2 := by
  unfold World.exportTo
  rw [h.store, Store.exportIds_revise]
  cases w.store.exportIds f with
  | error e => exact ⟨rfl, h⟩
  | ok found =>
    let record : Log.Record := ⟨.info, .exporting,
      s!"Found {found.length} apps (free: {f.onlyFree}) with at least {f.minInstalls} installs"⟩
    have hnoted := h.note record record
    obtain ⟨hres, hdisk⟩ := hnoted.disk.replaceText path ("\n".intercalate found)
    simp only [Logged.info]
    generalize Disk.replaceText path _ (Logged.note _ w).disk = r,
      Disk.replaceText path _ (Logged.note _ w').disk = r' at hres hdisk ⊢
    obtain ⟨res, d⟩ := r
    obtain ⟨res', d'⟩ := r'
    cases hres
    have hwritten : { Logged.note record w with disk := d }.Twin ids
        { Logged.note record w' with disk := d' } := { hnoted with disk := hdisk }
    cases res with
    | error e => exact ⟨rfl, hwritten⟩
    | ok => exact ⟨rfl, hwritten.note _ _⟩

theorem World.exportTo_same (f : ExportFilter) (path : String) (w : World) :
    (w.exportTo f path).2.store = w.store ∧ (w.exportTo f path).2.calls = w.calls := by
  unfold World.exportTo
  split
  · exact ⟨rfl, rfl⟩
  · dsimp only
    split <;> exact ⟨rfl, rfl⟩

theorem Store.Passes.keyed {s s' : Store} {ss : List Store} (h : Passes Outside s ss s')
    (hs : s.Keyed) : s'.Keyed := by
  induction h with
  | nil => exact hs
  | cons houtside _ ih => exact ih (houtside.keyed hs)

/-! ## Crawls -/

namespace Crawl

variable {X : Set String} {c c' : Catalog} {l : Locale} {old : Nat} {ids : List String}
  {w w' : World}

/-- The worlds of two crawls at some time. -/
structure Beside (X : Set String) (l : Locale) (old : Nat) (ids : List String)
    (w w' : World) : Prop where
  twin : w.Twin ids w'
  fits : Fits X l old ids w

theorem Beside.note (r r' : Log.Record) (h : Beside X l old ids w w') :
    Beside X l old ids (Logged.note r w) (Logged.note r' w') :=
  ⟨h.twin.note r r', h.fits.congr rfl rfl⟩

/-- A stage that came out alike in two crawls, where it is not the expansion. -/
structure Settled (X : Set String) (l : Locale) (old : Nat) (ids : List String) {ρ : Type}
    (y y' : ρ × List StageName × World) : Prop where
  report : y.1 = y'.1
  failed : y.2.1 = y'.2.1
  names : .expand ∉ y.2.1
  beside : Beside X l old ids y.2.2 y'.2.2

/-- A stage with the same result in both is settled alike. -/
theorem Beside.settle {ρ : Type} (name : StageName) (hname : name ≠ .expand) (empty : ρ)
    {res : Except Failure ρ} (h : Beside X l old ids w w') :
    Settled X l old ids (settle name empty (res, w)) (settle name empty (res, w')) := by
  cases res with
  | error e => exact ⟨rfl, rfl, fun hmem => hname (List.mem_singleton.mp hmem).symm, h.note _ _⟩
  | ok r => exact ⟨rfl, rfl, List.not_mem_nil, h⟩

/-- Two expansions that failed, or whose reports agree but for the rows of the ids. -/
structure Expanded (X : Set String) (l : Locale) (old : Nat) (ids : List String)
    (y y' : Expansion.Report × List StageName × World) : Prop where
  failed : y.2.1 = y'.2.1
  reports : y.2.1 = [] ∧ y.1.Moved ids.length y'.1 ∨ y.2.1 = [.expand] ∧ y.1 = {} ∧ y'.1 = {}
  beside : Beside X l old ids y.2.2 y'.2.2

/-- Both expansions return or both fail, and the worlds stay side by side, apart by some ids. -/
theorem Beside.expand (hX : c.Differs X c') (o : Options) (h : Beside X o.locale old [] w w') :
    ∃ ids, Expanded X o.locale old ids (Crawl.settle .expand {} (ofStore (Expansion.run c o w)))
      (Crawl.settle .expand {} (ofStore (Expansion.run c' o w'))) := by
  obtain ⟨ids, htwin, hfits, hagree⟩ := Expansion.run_coupled hX h.twin h.fits
  generalize Expansion.run c o w = r, Expansion.run c' o w' = r' at htwin hfits hagree ⊢
  obtain ⟨res, u⟩ := r
  obtain ⟨res', u'⟩ := r'
  dsimp only at hagree
  have hb : Beside X o.locale old ids u u' := ⟨htwin, hfits⟩
  cases hagree with
  | error e => exact ⟨ids, rfl, .inr ⟨rfl, rfl, rfl⟩, hb.note _ _⟩
  | ok hr => exact ⟨ids, rfl, .inl ⟨rfl, hr⟩, hb⟩

/-- The backfills have the same report and are apart by the same ids as before. -/
theorem Beside.backfill (hX : c.Differs X c') (o : Options) (h : Beside X o.locale old ids w w') :
    Settled X o.locale old ids (Crawl.settle .backfill {} (ofStore (Backfill.run c o w)))
      (Crawl.settle .backfill {} (ofStore (Backfill.run c' o w'))) := by
  obtain ⟨hres, htwin, hfits⟩ := Backfill.run_coupled hX o h.twin h.fits
  generalize Backfill.run c o w = r, Backfill.run c' o w' = r' at hres htwin hfits ⊢
  obtain ⟨res, u⟩ := r
  obtain ⟨res', u'⟩ := r'
  cases hres
  have hb : Beside X o.locale old ids u u' := ⟨htwin, hfits⟩
  cases res with
  | error e => exact hb.settle .backfill (by decide) _
  | ok report => exact hb.settle .backfill (by decide) _

theorem Beside.checkpoint (h : Beside X l old ids w w') :
    Beside X l old ids (checkpoint w) (checkpoint w') := by
  have hsame : w'.store.checkpoint = w.store.checkpoint := by
    rw [h.twin.store]
    rfl
  unfold Crawl.checkpoint
  rw [hsame]
  cases w.store.checkpoint with
  | error e => exact h.note _ _
  | ok => exact h

/-- So are the exports. -/
theorem Beside.save (f : ExportFilter) (path : String) (h : Beside X l old ids w w') :
    Settled X l old ids
      (Crawl.settle .save none
        ((w.exportTo f path).1.map fun ids => some ids.length, (w.exportTo f path).2))
      (Crawl.settle .save none
        ((w'.exportTo f path).1.map fun ids => some ids.length, (w'.exportTo f path).2)) := by
  obtain ⟨hres, htwin⟩ := h.twin.exportTo f path
  obtain ⟨hstore, hcalls⟩ := World.exportTo_same f path w
  have hb : Beside X l old ids (w.exportTo f path).2 (w'.exportTo f path).2 :=
    ⟨htwin, h.fits.congr hstore hcalls⟩
  rw [hres]
  exact hb.settle .save (by decide) none

/-- The first stage of a crawl. -/
def seeded (c : Catalog) (o : Options) (w : World) : Seeding.Report × World :=
  Seeding.run c o (Logged.info .crawling "Retrieving seed apps ..." (w.fresh o.maxApps))

/-- The world in which the expansion of a crawl begins. -/
def expandStart (c : Catalog) (o : Options) (w : World) : World :=
  let (seed, w) := seeded c o w
  Logged.info .crawling
    s!"Retrieved seed apps: {seed.inserted} new from {seed.pages} pages ({seed.failedPages} failed)"
    w

/-- The stages after seeding, with given notes between them. -/
def afterSeeding (c : Catalog) (o : Options) (r₁ r₂ r₃ r₄ r₅ : Log.Record)
    (seeded : Seeding.Report × World) : Summary × World :=
  let (expand, failed, w) :=
    settle .expand {} (ofStore (Expansion.run c o (Logged.note r₁ seeded.2)))
  let (backfill, failed', w) :=
    settle .backfill {} (ofStore (Backfill.run c o (Logged.note r₃ (Logged.note r₂ w))))
  let (exported, w) := (Logged.note r₅ (Logged.note r₄ w)).exportTo o.exportFilter o.exportPath
  let (exported, failed'', w) := settle .save none (exported.map fun ids => some ids.length, w)
  let w := checkpoint w
  ({ seed := seeded.1, expand, backfill, exported, crawled := w.budget.crawled,
     failedStages := failed ++ failed' ++ failed'' }, w)

/-- The notes between the stages are of no account, but for the one in the world that the
expansion begins in. -/
theorem runStages_eq (c : Catalog) (o : Options) (w : World) : ∃ r₁ r₂ r₃ r₄ r₅,
    runStages c o w = afterSeeding c o r₁ r₂ r₃ r₄ r₅ (seeded c o w) ∧
      expandStart c o w = Logged.note r₁ (seeded c o w).2 := by
  simp only [runStages, afterSeeding, expandStart, seeded, Logged.info]
  exact ⟨_, _, _, _, _, rfl, rfl⟩

/-- Seeding is the same in both crawls, and asks about no id. -/
theorem seeded_beside (hX : c.Differs X c') (o : Options) (hw : w.store.Keyed) :
    seeded c' o w = seeded c o w ∧
      Beside X o.locale w.calls.length [] (seeded c o w).2 (seeded c o w).2 := by
  have hunit : Seeding.unit c' = Seeding.unit c := by
    funext q
    simp only [Seeding.unit, hX.list]
  refine ⟨by simp only [seeded, Seeding.run, hunit], .refl _, ?_⟩
  have houtside : c.Within Store.Outside := by
    refine ⟨fun n q s => ?_, fun n id l s => ?_, fun n id l s => ?_⟩
    · rw [hX.alone.list n q s]
    · rw [hX.alone.similar n id l s]
    · rw [hX.alone.detail n id l s]
  let start := Logged.info .crawling "Retrieving seed apps ..." (w.fresh o.maxApps)
  obtain ⟨more, hcalls, hlists⟩ := Seeding.run_calls c o start
  replace hcalls : (seeded c o w).2.calls = w.calls ++ more := hcalls
  obtain ⟨_, -, hpasses⟩ := (Seeding.run_steps houtside o start).passes
  refine ⟨hpasses.keyed hw, List.nodup_nil, by simp [hcalls], nofun, ?_⟩
  rintro r - - ⟨t, ht⟩
  rw [hcalls, List.drop_left] at ht
  obtain ⟨q, hq⟩ := hlists _ ht
  cases hq

/-- **Failed calls disturb nothing else.** The crawl with failed calls and the one with empty
answers make the same calls at the same times, and leave the same rows in the same order, the same
records, the same files and the same budget. Only the rows that such a call was made for and that
were settled are errors in the one and visited in the other, and only their number is counted
differently, unless the expansion fails as a whole, which it does in both. -/
theorem runStages_isolated (hX : c.Differs X c') (o : Options) (hw : w.store.Keyed) :
    let out := runStages c o w
    let out' := runStages c' o w
    ∃ ids : List String, out.2.Twin ids out'.2 ∧ ids.Nodup ∧
      (∀ r ∈ out.2.store.rows, r.id ∈ ids ↔ r.id ∈ X ∧
        out.2.Asked w.calls.length o.locale r.id ∧ r.code ≠ Status.unvisited.code) ∧
      out.1.seed = out'.1.seed ∧ out.1.backfill = out'.1.backfill ∧
      out.1.exported = out'.1.exported ∧ out.1.crawled = out'.1.crawled ∧
      out.1.failedStages = out'.1.failedStages ∧
      (.expand ∉ out.1.failedStages → out.1.expand.Moved ids.length out'.1.expand) ∧
      (.expand ∈ out.1.failedStages → out.1.expand = {} ∧ out'.1.expand = {}) := by
  obtain ⟨r₁, r₂, r₃, r₄, r₅, hrun, -⟩ := runStages_eq c o w
  obtain ⟨r₁', r₂', r₃', r₄', r₅', hrun', -⟩ := runStages_eq c' o w
  obtain ⟨hseed, hb⟩ := seeded_beside hX o hw
  rw [hrun, hrun', hseed]
  generalize seeded c o w = start at hb ⊢
  unfold afterSeeding
  dsimp only
  obtain ⟨ids, hexpanded⟩ := (hb.note r₁ r₁').expand hX o
  generalize settle .expand {} (ofStore (Expansion.run c o _)) = x,
    settle .expand {} (ofStore (Expansion.run c' o _)) = x' at hexpanded ⊢
  have hfilled := ((hexpanded.beside.note r₂ r₂').note r₃ r₃').backfill hX o
  generalize settle .backfill {} (ofStore (Backfill.run c o _)) = y,
    settle .backfill {} (ofStore (Backfill.run c' o _)) = y' at hfilled ⊢
  have hsaved := ((hfilled.beside.note r₄ r₄').note r₅ r₅').save o.exportFilter o.exportPath
  generalize settle .save none (_, (World.exportTo _ _ (Logged.note r₅ _)).2) = z,
    settle .save none (_, (World.exportTo _ _ (Logged.note r₅' _)).2) = z' at hsaved ⊢
  replace hb := hsaved.beside.checkpoint
  have hmem : StageName.expand ∈ x.2.1 ++ y.2.1 ++ z.2.1 ↔ StageName.expand ∈ x.2.1 := by
    simp [hfilled.names, hsaved.names]
  refine ⟨ids, hb.twin, hb.fits.nodup, fun r hr => ⟨fun hid => ?_, ?_⟩, rfl, hfilled.report,
    hsaved.report, ?_, ?_, ?_, ?_⟩
  · obtain ⟨hx, hasked⟩ := hb.fits.asked r.id hid
    exact ⟨hx, hasked, hb.twin.failed.code_ne hr hid⟩
  · rintro ⟨hx, hasked, hcode⟩
    exact (hb.fits.settled r hr hx hasked).resolve_right hcode
  · rw [hb.twin.budget]
  · rw [hexpanded.failed, hfilled.failed, hsaved.failed]
  · intro hok
    rw [hmem] at hok
    rcases hexpanded.reports with ⟨-, hmoved⟩ | ⟨hlost, -⟩
    · exact hmoved
    · simp [hlost] at hok
  · intro hlost
    rw [hmem] at hlost
    rcases hexpanded.reports with ⟨hok, -⟩ | ⟨-, hempty⟩
    · simp [hok] at hlost
    · exact hempty

/-- Catalogs that answer from two tables differ where the tables do. -/
theorem answering_differs {f f' : Related} (delay : Nat → Nat) (hsame : ∀ id ∉ X, f' id = f id)
    (hfails : ∀ id ∈ X, ∃ e, f id = .error e) (hempty : ∀ id ∈ X, f' id = .ok []) :
    (Catalog.answering f delay).Differs X (.answering f' delay) where
  list := rfl
  detail := rfl
  similar n id l hid := by
    simp only [Catalog.answering, hsame id hid]
  delay _ _ _ _ := rfl
  fails _ id _ hid := hfails id hid
  empty _ id _ hid := hempty id hid
  alone := ⟨fun _ _ _ => rfl, fun _ _ _ _ => rfl, fun _ _ _ _ => rfl⟩
  alone' := ⟨fun _ _ _ => rfl, fun _ _ _ _ => rfl, fun _ _ _ _ => rfl⟩

/-- The third id of the sample is found by the first and the second, and cannot be asked about. -/
theorem runStages_isolated_sample :
    let f' : Related := fun id => if id = "c" then .ok [] else Related.sample id
    let c : Catalog := .answering .sample (5 - ·)
    let c' : Catalog := .answering f' (5 - ·)
    let o : Options := { categories := ["GAME"], collections := ["TOP_FREE"], maxDepth := 3 }
    let w : World := { store := .seeded, budget := ⟨9, 0⟩ }
    (runStages c o w).2.Twin ["c"] (runStages c' o w).2 ∧
      (runStages c o w).1.expand.errors = 1 ∧ (runStages c' o w).1.expand.errors = 0 := by
  intro f' c c' o w
  have hX : c.Differs {"c"} c' := by
    refine answering_differs (5 - ·) (fun _ hid => if_neg hid) ?_ ?_
    · rintro id rfl
      exact ⟨_, rfl⟩
    · rintro id rfl
      rfl
  have herrors : (runStages c o w).1.expand.errors = 1 := by decide +kernel
  have herrors' : (runStages c' o w).1.expand.errors = 0 := by decide +kernel
  have hok : .expand ∉ (runStages c o w).1.failedStages := by decide +kernel
  obtain ⟨ids, htwin, -, hids, -, -, -, -, -, hmoved, -⟩ :=
    runStages_isolated hX o (w := w) ⟨by decide, by decide⟩
  have hlen : ids.length = 1 := by
    have hcount := (hmoved hok).errors
    omega
  obtain ⟨id, rfl⟩ := List.length_eq_one_iff.mp hlen
  obtain ⟨row, hrow, hid⟩ := List.mem_map.mp (htwin.failed.present id (List.mem_singleton.mpr rfl))
  obtain ⟨hc, -⟩ := (hids row hrow).mp (List.mem_singleton.mpr hid)
  obtain rfl : id = "c" := hid.symm.trans hc
  exact ⟨htwin, herrors, herrors'⟩

/-- An expansion that comes to a row which cannot be read fails, and with it goes its report. -/
theorem runStages_report_lost :
    ¬ ∀ (X : Set String) (c c' : Catalog) (o : Options) (w : World), c.Differs X c' →
      w.store.Keyed →
      ∃ ids : List String, (runStages c o w).2.Twin ids (runStages c' o w).2 ∧ ids.Nodup ∧
        (runStages c o w).1.expand.Moved ids.length (runStages c' o w).1.expand := by
  intro h
  let o : Options := { categories := ["GAME"], collections := ["TOP_FREE"], maxDepth := 2 }
  let w : World := { store := Store.seeded.append [⟨"b", 1, 0, "not json"⟩], budget := ⟨9, 0⟩ }
  let f : Related := fun id => .error (.status id 500)
  let f' : Related := fun _ => .ok []
  have hX : (Catalog.answering f fun _ => 0).Differs Set.univ (.answering f' fun _ => 0) :=
    answering_differs _ (fun _ hid => (hid trivial).elim) (fun _ _ => ⟨_, rfl⟩) fun _ _ => rfl
  obtain ⟨ids, htwin, -, hmoved⟩ := h _ _ _ o w hX ⟨by decide, by decide⟩
  have hnone : (runStages (.answering f fun _ => 0) o w).1.expand.errors = 0 := by decide +kernel
  have hrows : (runStages (.answering f fun _ => 0) o w).2.store.rows ≠
      (runStages (.answering f' fun _ => 0) o w).2.store.rows := by decide +kernel
  have herrors := hmoved.errors
  obtain rfl : ids = [] := List.eq_nil_of_length_eq_zero (by omega)
  apply hrows
  rw [htwin.store, Store.revise_nil]

end Crawl

end CatalogCrawl
