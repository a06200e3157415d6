import CatalogCrawl.Crawl.Export
import CatalogCrawl.Proofs.Queries
import CatalogCrawl.Proofs.Replacing

/-! # What an export writes

An export asks for the rows that pass its filter before it touches the disk, and fails then and
there if one of them cannot be read. Otherwise the file holds their ids, one on a line, as a whole
(`World.Exported.ofExportTo`). The only text that can get behind them is a line of the log, and only
if the log has the name of the sibling that the file is written through. -/

namespace CatalogCrawl

namespace Store

variable {s s' : Store} {f f' : ExportFilter} {ids : List String}

/-- The ids are those of the rows that pass the filter, and all of these have to be readable. -/
theorem exportIds_eq_ok_iff :
    s.exportIds f = .ok ids ↔
      s.info.isSome ∧ (∀ row ∈ s.matching f, row.Readable) ∧ ids = (s.matching f).map (·.id) := by
  have hids {rs : List InfoRecord} (h : s.infoMatching f = .ok rs) :
      rs.map (·.id) = (s.matching f).map (·.id) := by
    have hrows := (infoMatching_eq_ok_iff.mp h).2
    rw [eq_comm, ← List.forall₂_eq_eq_eq, List.forall₂_map_left_iff, List.forall₂_map_right_iff]
    refine hrows.imp fun row r hread => ?_
    obtain ⟨v, -, rfl⟩ := readInfo_eq_ok_iff.mp hread
    rfl
  rw [← and_assoc, ← exists_infoMatching_iff]
  unfold exportIds
  cases h : s.infoMatching f with
  | error e => simp [bind, Except.bind]
  | ok rs =>
    rw [← hids h]
    simp [bind, Except.bind, pure, Except.pure, eq_comm]

theorem exists_exportIds_eq_error (h : s.info = none ∨ ∃ row ∈ s.matching f, ¬row.Readable) :
    ∃ e, s.exportIds f = .error e := by
  cases hids : s.exportIds f with
  | error e => exact ⟨e, rfl⟩
  | ok ids =>
    obtain ⟨hsome, hread, -⟩ := exportIds_eq_ok_iff.mp hids
    rcases h with hnone | ⟨row, hrow, hnot⟩
    · simp [hnone] at hsome
    · exact (hnot (hread row hrow)).elim

/-- Rows that do not pass the filter make no difference. -/
theorem exportIds_congr (hs : s.info.isSome) (hs' : s'.info.isSome)
    (h : s'.matching f = s.matching f) : s'.exportIds f = s.exportIds f := by
  unfold exportIds
  rw [infoMatching_eq_mapM hs, infoMatching_eq_mapM hs', h]

/-- A higher threshold lets fewer rows pass. -/
theorem matching_sublist (hfree : f'.onlyFree = f.onlyFree)
    (hmin : f.minInstalls ≤ f'.minInstalls) : (s.matching f').Sublist (s.matching f) := by
  refine List.monotone_filter_right s.infoRows fun row hrow => ?_
  simp only [ExportFilter.accepts, hfree, Bool.and_eq_true, decide_eq_true_eq] at hrow ⊢
  exact ⟨hrow.1, Int.le_trans hmin hrow.2⟩

end Store

/-- Ids without line breaks can be told apart in the text that they are written as. -/
theorem splitOn_lines {ids : List String} (hne : ids ≠ []) (h : ∀ id ∈ ids, '\n' ∉ id.toList) :
    Text.splitOn '\n' ("\n".intercalate ids).toList = ids.map String.toList := by
  rw [String.toList_intercalate, show "\n".toList = ['\n'] from rfl]
  exact List.splitOn_intercalate '\n' (by simpa using h) (by simpa using hne)

namespace Disk

variable {d d' : Disk} {path text : String} {l m : Place}

/-! ## A log beside an export -/

theorem held_appendHeld (d : Disk) (line : String) : (d.appendHeld line).held = d.held := by
  unfold appendHeld append
  split
  · split <;> rfl
  · rfl

theorem get?_appendHeld (line : String) (hm : d.held ≠ some m) :
    (d.appendHeld line).get? m = d.get? m := by
  unfold appendHeld append
  split
  · next l hheld =>
    have hne : m ≠ l := fun heq => hm (heq ▸ hheld)
    split
    · exact get?_set_of_ne hne _
    · exact get?_set_of_ne hne _
    · rfl
  · rfl

theorem keeps_appendHeld (d : Disk) (line : String) : d.Keeps (d.appendHeld line) := by
  unfold appendHeld append
  split
  · split
    · next hget => exact .set (by simp [hget]) _
    · next hget => exact .set (by simp [hget]) _
    · exact .refl d
  · exact .refl d

theorem Opens.appendHeld {p : String} (h : d.Opens p l) (line : String) :
    (d.appendHeld line).Opens p l := by
  obtain ⟨base, name, hlocate, hshort, hl⟩ := h.located
  refine ⟨⟨base, name, (keeps_appendHeld d line).locate hlocate, hshort, hl⟩, ?_⟩
  unfold Disk.appendHeld append
  split
  · next m hheld =>
    have hset (c : Content) : (d.set m (.file c)).get? l ≠ some .dir := by
      rw [Disk.get?_set m _ h.ne_nil]
      split
      · simp
      · exact h.notDir
    split
    · exact hset _
    · exact hset _
    · exact h.notDir
  · exact h.notDir

theorem readText_of_resolve (h : d.resolve path = .ok (l, .file (.text text))) :
    d.readText path = .ok text := by
  rw [readText, h]
  rfl

/-- The log is in the file that has been replaced if it was in the sibling. -/
theorem held_of_replaceText (h : replaceText path text d = (.ok (), d')) :
    ∃ l l', d'.resolve path = .ok (l', .file (.text text)) ∧ d'.site (tempPath path) = some l ∧
      (d'.held = some l' ↔ d.held = some l) := by
  obtain ⟨d₁, l, l', hgrown, hopens, hopens', rfl⟩ := replaceFile_eq_ok h
  have hrenamed := Renamed.ofMove hopens hopens'
  refine ⟨l, l', hrenamed.target, hrenamed.keeps.site hopens.site, ?_⟩
  rw [← hgrown.held]
  exact hrenamed.held

/-- A line that is logged next gets behind the text only if the log was the sibling. -/
theorem readText_appendHeld (h : replaceText path text d = (.ok (), d')) (line : String) :
    ∃ l, (d'.appendHeld line).site (tempPath path) = some l ∧
      (d'.appendHeld line).readText path =
        .ok (if d.held = some l then text ++ line else text) := by
  obtain ⟨l, l', hresolve, hsite, hheld⟩ := held_of_replaceText h
  have hkeeps := keeps_appendHeld d' line
  refine ⟨l, hkeeps.site hsite, ?_⟩
  obtain ⟨base, name, hlocate, hshort, hl, hget⟩ := resolve_file_iff.mp hresolve
  refine readText_of_resolve
    (resolve_file_iff.mpr ⟨base, name, hkeeps.locate hlocate, hshort, hl, ?_⟩)
  split
  · next hlog =>
    have hroot : l' ≠ [] := by simp [hl]
    rw [appendHeld, hheld.mpr hlog]
    dsimp only
    rw [append, hget]
    dsimp only
    rw [get?_set _ _ hroot, if_pos rfl]
  · next hlog => rw [get?_appendHeld line fun hd' => hlog (hheld.mp hd'), hget]

end Disk

/-! ## Exports -/

namespace World

variable {f : ExportFilter} {path : String} {w out : World} {ids : List String}

/-- What is logged when ids have been found. -/
def found (f : ExportFilter) (ids : List String) : Log.Record :=
  ⟨.info, .exporting,
    s!"Found {ids.length} apps (free: {f.onlyFree}) with at least {f.minInstalls} installs"⟩

/-- What is logged when ids have been saved. -/
def saved (ids : List String) (path : String) : Log.Record :=
  ⟨.info, .exporting, s!"Saved {ids.length} apps to {path}"⟩

/-- The rows cannot be read, or the file cannot be replaced, or it is. -/
theorem exportTo_cases (f : ExportFilter) (path : String) (w : World) :
    (∃ e, w.store.exportIds f = .error e ∧ ∃ e', w.exportTo f path = (.error e', w)) ∨
      ∃ ids, w.store.exportIds f = .ok ids ∧
        ((∃ e d,
            Disk.replaceText path ("\n".intercalate ids) (Logged.note (found f ids) w).disk =
              (.error e, d) ∧
            w.exportTo f path = (.error e, { Logged.note (found f ids) w with disk := d })) ∨
          ∃ d, Disk.replaceText path ("\n".intercalate ids) (Logged.note (found f ids) w).disk =
            (.ok (), d) ∧
            w.exportTo f path =
              (.ok ids, Logged.note (saved ids path)
                { Logged.note (found f ids) w with disk := d })) := by
  unfold exportTo
  cases hids : w.store.exportIds f with
  | error e => exact .inl ⟨e, rfl, _, rfl⟩
  | ok ids =>
    refine .inr ⟨ids, rfl, ?_⟩
    dsimp only [Logged.info, found, saved]
    split
    · next hreplace => exact .inl ⟨_, _, hreplace, rfl⟩
    · next hreplace => exact .inr ⟨_, hreplace, rfl⟩

/-- An export that succeeds. A log that is written to the sibling is moved to the file, and
goes on there. -/
structure Exported (f : ExportFilter) (path : String) (w : World) (ids : List String)
    (out : World) : Prop where
  rows : ids = (w.store.matching f).map (·.id)
  once : (w.store.infoRows.map (·.id)).Nodup → ids.Nodup
  content : (∀ l, w.disk.held = some l → out.disk.site (Disk.tempPath path) ≠ some l) →
    out.disk.readText path = .ok ("\n".intercalate ids)
  lines : ids ≠ [] → (∀ id ∈ ids, '\n' ∉ id.toList) →
    Text.splitOn '\n' ("\n".intercalate ids).toList = ids.map String.toList
  logged : ∀ l, w.disk.held = some l → out.disk.site (Disk.tempPath path) = some l →
    out.disk.readText path = .ok ("\n".intercalate ids ++ w.style.render [saved ids path])

theorem exportIds_of_exportTo (h : w.exportTo f path = (.ok ids, out)) :
    w.store.exportIds f = .ok ids := by
  obtain ⟨-, -, e', hexport⟩ | ⟨ids', hids, ⟨e, d, -, hexport⟩ | ⟨d, -, hexport⟩⟩ :=
    exportTo_cases f path w <;>
    rw [hexport] at h <;> cases h
  exact hids

theorem Exported.ofExportTo (h : w.exportTo f path = (.ok ids, out)) :
    Exported f path w ids out := by
  obtain ⟨-, -, hmatch⟩ := Store.exportIds_eq_ok_iff.mp (exportIds_of_exportTo h)
  obtain ⟨-, -, e', hexport⟩ | ⟨ids', -, ⟨e, d, -, hexport⟩ | ⟨d, hreplace, hexport⟩⟩ :=
      exportTo_cases f path w <;>
    rw [hexport] at h <;> cases h
  obtain ⟨l, hsite, hread⟩ := Disk.readText_appendHeld hreplace (w.style.render [saved ids path])
  have hheld : (Logged.note (found f ids) w).disk.held = w.disk.held := Disk.held_appendHeld _ _
  rw [hheld] at hread
  refine ⟨hmatch, fun hnodup => ?_, fun hlog => ?_, splitOn_lines, fun l' hl' hsite' => ?_⟩
  · rw [hmatch]
    exact hnodup.sublist (List.filter_sublist.map _)
  · rw [if_neg fun hl => hlog l hl hsite] at hread
    exact hread
  · rw [if_pos (hl'.trans (hsite'.symm.trans hsite))] at hread
    exact hread

/-- If an export fails once its query has succeeded, the file is left alone. -/
theorem leftAlone_of_exportTo {e : Failure} (hids : w.store.exportIds f = .ok ids)
    (h : w.exportTo f path = (.error e, out)) :
    Disk.LeftAlone path (Logged.note (found f ids) w).disk out.disk := by
  obtain ⟨e', he', -⟩ | ⟨ids', hids', ⟨e', d, hreplace, hexport⟩ | ⟨d, -, hexport⟩⟩ :=
    exportTo_cases f path w
  · rw [hids] at he'
    cases he'
  · rw [hids] at hids'
    cases hids'
    rw [hexport] at h
    cases h
    exact .ofReplaceFile hreplace
  · rw [hexport] at h
    cases h

/-- If the rows can be read, and the file and its sibling can be written, the export succeeds. -/
theorem exportTo_of_opens {l t : Place} (hsome : w.store.info.isSome)
    (hread : ∀ row ∈ w.store.matching f, row.Readable) (h : w.disk.Opens path l)
    (ht : w.disk.Opens (Disk.tempPath path) t) : ∃ ids out, w.exportTo f path = (.ok ids, out) := by
  have hids := Store.exportIds_eq_ok_iff.mpr ⟨hsome, hread, rfl⟩
  obtain ⟨e, he, -⟩ | ⟨ids, -, ⟨e, d, hreplace, -⟩ | ⟨d, -, hexport⟩⟩ := exportTo_cases f path w
  · rw [hids] at he
    cases he
  · have hreplaced :
        ∃ d', Disk.replaceText path ("\n".intercalate ids) (Logged.note (found f ids) w).disk =
        (.ok (), d') := Disk.replaceFile_of_opens (h.appendHeld _) (ht.appendHeld _)
    obtain ⟨d', hd'⟩ := hreplaced
    exact nomatch hreplace.symm.trans hd'
  · exact ⟨ids, _, hexport⟩

/-- An export is exact and all or nothing. -/
theorem exportTo_exact (f : ExportFilter) (path : String) (w : World) :
    (w.store.info.isSome → (∀ row ∈ w.store.matching f, row.Readable) →
      ∀ l t, w.disk.Opens path l → w.disk.Opens (Disk.tempPath path) t →
        ∃ ids out, w.exportTo f path = (.ok ids, out)) ∧
    (w.store.info = none ∨ (∃ row ∈ w.store.matching f, ¬row.Readable) →
      ∃ e, w.exportTo f path = (.error e, w)) ∧
    (∀ ids out, w.exportTo f path = (.ok ids, out) → Exported f path w ids out) ∧
    (∀ ids e out, w.store.exportIds f = .ok ids → w.exportTo f path = (.error e, out) →
      Disk.LeftAlone path (Logged.note (found f ids) w).disk out.disk) ∧
    (∀ s : Store, w.store.info.isSome → s.info.isSome → s.matching f = w.store.matching f →
      exportTo f path { w with store := s } =
        ((w.exportTo f path).1, { (w.exportTo f path).2 with store := s })) ∧
    (∀ f' path' w' ids ids' out out', f'.onlyFree = f.onlyFree → f.minInstalls ≤ f'.minInstalls →
      w'.store = w.store → w.exportTo f path = (.ok ids, out) →
        exportTo f' path' w' = (.ok ids', out') →
        ids'.Sublist ids) := by
  refine ⟨fun hsome hread l t => exportTo_of_opens hsome hread, fun hbad => ?_,
    fun ids out => .ofExportTo, fun ids e out => leftAlone_of_exportTo, ?_, ?_⟩
  · obtain ⟨e, he⟩ := Store.exists_exportIds_eq_error hbad
    obtain ⟨-, -, e', hexport⟩ | ⟨ids, hids, -⟩ := exportTo_cases f path w
    · exact ⟨e', hexport⟩
    · rw [he] at hids
      cases hids
  · intro s hw hs hmatch
    unfold exportTo
    rw [show World.store { w with store := s } = s from rfl, Store.exportIds_congr hw hs hmatch]
    cases w.store.exportIds f with
    | error e => rfl
    | ok ids =>
      dsimp only [Logged.info, Logged.note]
      split
      · rfl
      · rfl
  · intro f' path' w' ids ids' out out' hfree hmin hstore h h'
    rw [(Exported.ofExportTo h).rows, (Exported.ofExportTo h').rows, hstore]
    exact (Store.matching_sublist hfree hmin).map _

/-- Rows on either side of a filter, one of which cannot be read, and an export from before. -/
def stocked : World :=
  { store := { info := some { rows :=
      [⟨"b", "5+", 5, 5, 1, "null"⟩, ⟨"x", "9+", 9, 9, 0, "?"⟩, ⟨"a", "50+", 50, 50, 1, "[]"⟩] } }
    budget := { limit := 0 }
    disk :=
      { cwd := ["w"], entries := [(["w"], .dir), (["w", "a.csv"], .file (.text "b\nc\nd"))] } }

/-- The row that cannot be read stops an export only if it passes the filter. -/
theorem exportTo_exact_stocked :
    (∃ ids out, stocked.exportTo ⟨true, 5⟩ "a.csv" = (.ok ids, out)) ∧
    (∃ out, stocked.exportTo ⟨true, 5⟩ "a.csv" = (.ok ["b", "a"], out) ∧
      out.disk.readText "a.csv" = .ok "b\na" ∧ Text.splitOn '\n' "b\na".toList = [['b'], ['a']]) ∧
    (∃ e, stocked.exportTo ⟨false, 9⟩ "a.csv" = (.error e, stocked)) ∧
    (∃ ids out, stocked.exportTo ⟨true, 6⟩ "c/a.csv" = (.ok ids, out) ∧
      ids.Sublist ["b", "a"]) := by
  obtain ⟨hsucceeds, -, hexported, -, -, hfewer⟩ := exportTo_exact ⟨true, 5⟩ "a.csv" stocked
  have hrun : stocked.exportTo ⟨true, 5⟩ "a.csv" =
      (.ok ["b", "a"], (stocked.exportTo ⟨true, 5⟩ "a.csv").2) :=
    Prod.ext rfl rfl
  have hrun' : stocked.exportTo ⟨true, 6⟩ "c/a.csv" =
      (.ok ["a"], (stocked.exportTo ⟨true, 6⟩ "c/a.csv").2) :=
    Prod.ext rfl rfl
  have hout := hexported _ _ hrun
  refine ⟨?_, ⟨_, hrun, hout.content nofun, hout.lines (by simp) (by decide)⟩, ?_, ?_⟩
  · exact hsucceeds rfl (by decide) ["w", "a.csv"] ["w", "a.csv.tmp"]
      ⟨⟨["w"], "a.csv", rfl, by decide, rfl⟩, by decide⟩
        ⟨⟨["w"], "a.csv.tmp", rfl, by decide, rfl⟩, by decide⟩
  · exact (exportTo_exact ⟨false, 9⟩ "a.csv" stocked).2.1
      (.inr ⟨⟨"x", "9+", 9, 9, 0, "?"⟩, by decide, by decide⟩)
  · exact ⟨_, _, hrun', hfewer ⟨true, 6⟩ "c/a.csv" stocked _ _ _ _ rfl (by decide) rfl hrun hrun'⟩

/-- A log that is written to the sibling of an export. -/
def crossed : World :=
  { store := { info := some { rows := [⟨"a", "5+", 5, 5, 1, "null"⟩] } }
    budget := { limit := 0 }
    style := { filter := { directives := [⟨none, .all⟩] } }
    disk :=
      { cwd := [], entries := [(["a.csv.tmp"], .file (.text ""))], held := some ["a.csv.tmp"] } }

/-- The last line of the log ends up in the export. -/
theorem log_line_in_export :
    ∃ out, crossed.exportTo ⟨true, 0⟩ "a.csv" = (.ok ["a"], out) ∧
      out.disk.readText "a.csv" = .ok "a[appcrawl] Saved 1 apps to a.csv\n" :=
  ⟨(crossed.exportTo ⟨true, 0⟩ "a.csv").2, Prod.ext rfl rfl, by decide +kernel⟩

end World

end CatalogCrawl
