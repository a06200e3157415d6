import CatalogCrawl.Proofs.Backfilling
import CatalogCrawl.Proofs.Queries
import CatalogCrawl.Store.Report
import Mathlib.Data.Set.Card

/-! # What a status report counts

The report is put together from queries that know nothing of each other: groups of rows, two counts,
and the ids without details. Rows are counted one by one into groups that stay in order
(`Store.ordered_countRow`), and what the groups weigh, under any condition on depth and status code,
is the number of rows that meet it (`Store.weigh_groups`). So the counts of the levels, the totals
and the number of rows agree. -/

namespace CatalogCrawl

namespace Store

/-- A depth, a status code and the number of rows with them. -/
abbrev Group := Int × Int × Nat

/-! ## Groups in order -/

/-- By depth, then by status code from high to low. -/
def Group.Before (g g' : Group) : Prop := g.1 < g'.1 ∨ g.1 = g'.1 ∧ g'.2.1 < g.2.1

theorem groupBefore_iff {d c d' c' : Int} :
    groupBefore d c d' c' = true ↔ d < d' ∨ d = d' ∧ c' < c := by
  simp [groupBefore]

/-- The groups after a row has been counted are those from before, apart from the number,
and its own. -/
theorem mem_countRow {r : FrontierRow} {groups : List Group} {g : Group}
    (h : g ∈ countRow r groups) : g.1 = r.depth ∧ g.2.1 = r.code ∧ 0 < g.2.2 ∨ g ∈ groups := by
  fun_induction countRow r groups with
  | case1 =>
    obtain rfl := List.mem_singleton.mp h
    exact .inl ⟨rfl, rfl, Nat.one_pos⟩
  | case2 d c n rest hkey =>
    simp only [Bool.and_eq_true, decide_eq_true_eq] at hkey
    rcases List.mem_cons.mp h with rfl | hrest
    · exact .inl ⟨hkey.1.symm, hkey.2.symm, Nat.succ_pos n⟩
    · exact .inr (List.mem_cons_of_mem _ hrest)
  | case3 d c n rest _ _ =>
    rcases List.mem_cons.mp h with rfl | hold
    · exact .inl ⟨rfl, rfl, Nat.one_pos⟩
    · exact .inr hold
  | case4 d c n rest _ _ ih =>
    rcases List.mem_cons.mp h with rfl | hrest
    · exact .inr List.mem_cons_self
    · exact (ih hrest).imp_right (List.mem_cons_of_mem _)

theorem ordered_countRow (r : FrontierRow) {groups : List Group}
    (h : groups.Pairwise Group.Before) : (countRow r groups).Pairwise Group.Before := by
  fun_induction countRow r groups with
  | case1 => exact List.pairwise_singleton _ _
  | case2 d c n rest _ =>
    obtain ⟨hfirst, hrest⟩ := List.pairwise_cons.mp h
    exact .cons hfirst hrest
  | case3 d c n rest _ hbefore =>
    obtain ⟨hfirst, -⟩ := List.pairwise_cons.mp h
    have hnew := groupBefore_iff.mp hbefore
    refine .cons (fun g hg => ?_) h
    rcases List.mem_cons.mp hg with rfl | hrest
    · exact hnew
    · have hnext := hfirst g hrest
      simp only [Group.Before] at hnext ⊢
      omega
  | case4 d c n rest hkey hbefore ih =>
    obtain ⟨hfirst, hrest⟩ := List.pairwise_cons.mp h
    refine .cons (fun g hg => ?_) (ih hrest)
    rcases mem_countRow hg with ⟨hdepth, hcode, -⟩ | hold
    · -- neither equal to nor before the first group, so after it
      rw [groupBefore_iff] at hbefore
      simp only [Bool.and_eq_true, decide_eq_true_eq] at hkey
      simp only [Group.Before]
      omega
    · exact hfirst g hold

/-! ## The weight of groups -/

/-- The rows counted in the groups that meet a condition on depth and code. -/
def weigh (p : Int → Int → Bool) : List Group → Nat
  | [] => 0
  | (d, c, n) :: rest => (if p d c then n else 0) + weigh p rest

theorem weigh_countRow (p : Int → Int → Bool) (r : FrontierRow) (groups : List Group) :
    weigh p (countRow r groups) = weigh p groups + if p r.depth r.code then 1 else 0 := by
  fun_induction countRow r groups with
  | case1 => simp [weigh]
  | case2 d c n rest hkey =>
    simp only [Bool.and_eq_true, decide_eq_true_eq] at hkey
    rw [hkey.1, hkey.2]
    simp only [weigh]
    split <;> omega
  | case3 d c n rest _ _ => simp only [weigh]; omega
  | case4 d c n rest _ _ ih => simp only [weigh, ih]; omega

theorem weigh_eq_zero {p : Int → Int → Bool} {groups : List Group}
    (h : ∀ g ∈ groups, p g.1 g.2.1 = false) : weigh p groups = 0 := by
  induction groups with
  | nil => rfl
  | cons g groups ih =>
    rw [weigh, h g List.mem_cons_self, ih fun g' hg' => h g' (List.mem_cons_of_mem _ hg')]
    rfl

/-- Among groups in order only one has its depth and code. -/
theorem weigh_of_mem {groups : List Group} (h : groups.Pairwise Group.Before) {g : Group}
    (hg : g ∈ groups) : weigh (fun d c => d = g.1 && c = g.2.1) groups = g.2.2 := by
  induction groups with
  | nil => cases hg
  | cons g' groups ih =>
    obtain ⟨hfirst, hrest⟩ := List.pairwise_cons.mp h
    rcases List.mem_cons.mp hg with rfl | hg
    · have hothers : weigh (fun d c => d = g.1 && c = g.2.1) groups = 0 := by
        refine weigh_eq_zero fun g' hg' => ?_
        have hafter := hfirst g' hg'
        simp only [Group.Before] at hafter
        simp only [Bool.and_eq_false_iff, decide_eq_false_iff_not]
        omega
      simp [weigh, hothers]
    · have hbefore := hfirst g hg
      simp only [Group.Before] at hbefore
      have hother : (decide (g'.1 = g.1) && decide (g'.2.1 = g.2.1)) = false := by
        simp only [Bool.and_eq_false_iff, decide_eq_false_iff_not]
        omega
      simp only [weigh, hother, ih hrest hg]
      simp

/-! ## The groups of a table -/

/-- The groups of rows. -/
def groups (rows : List FrontierRow) : List Group :=
  rows.foldl (fun groups r => countRow r groups) []

/-- What counting a row preserves holds of the groups. -/
theorem groups_induction {P : List Group → Prop} (hnil : P [])
    (hstep : ∀ r gs, P gs → P (countRow r gs)) (rows : List FrontierRow) : P (groups rows) :=
  List.foldlRecOn rows _ hnil fun gs hgs r _ => hstep r gs hgs

theorem ordered_groups (rows : List FrontierRow) : (groups rows).Pairwise Group.Before :=
  groups_induction .nil (fun r _ => ordered_countRow r) rows

theorem pos_of_mem_groups {rows : List FrontierRow} {g : Group} (h : g ∈ groups rows) :
    0 < g.2.2 := by
  refine groups_induction (P := fun gs => ∀ g ∈ gs, 0 < g.2.2) (by simp)
    (fun r gs hgs g hg => ?_) rows g h
  rcases mem_countRow hg with ⟨-, -, hpos⟩ | hold
  · exact hpos
  · exact hgs g hold

theorem weigh_groups (p : Int → Int → Bool) (rows : List FrontierRow) :
    weigh p (groups rows) = rows.countP fun r => p r.depth r.code := by
  suffices hall : ∀ start, weigh p (rows.foldl (fun groups r => countRow r groups) start) =
      weigh p start + rows.countP fun r => p r.depth r.code by
    rw [groups, hall, weigh, Nat.zero_add]
  induction rows with
  | nil => simp
  | cons r rows ih =>
    intro start
    rw [List.foldl_cons, ih, weigh_countRow, List.countP_cons]
    omega

/-- A group counts the rows with its depth and code. -/
theorem count_of_mem_groups {rows : List FrontierRow} {g : Group} (h : g ∈ groups rows) :
    g.2.2 = rows.countP fun r => r.depth = g.1 && r.code = g.2.1 := by
  rw [← weigh_of_mem (ordered_groups rows) h, weigh_groups]

theorem exists_row_of_mem_groups {rows : List FrontierRow} {g : Group} (h : g ∈ groups rows) :
    ∃ r ∈ rows, r.depth = g.1 ∧ r.code = g.2.1 := by
  have hpos := pos_of_mem_groups h
  rw [count_of_mem_groups h, List.countP_pos_iff] at hpos
  simpa using hpos

theorem exists_group_of_mem {rows : List FrontierRow} {r : FrontierRow} (h : r ∈ rows) :
    ∃ g ∈ groups rows, g.1 = r.depth ∧ g.2.1 = r.code := by
  have hpos : 0 < weigh (fun d c => d = r.depth && c = r.code) (groups rows) := by
    rw [weigh_groups, List.countP_pos_iff]
    exact ⟨r, h, by simp⟩
  by_contra hnone
  rw [weigh_eq_zero fun g hg => ?_] at hpos
  · exact Nat.lt_irrefl 0 hpos
  · rw [Bool.eq_false_iff]
    intro heq
    simp only [Bool.and_eq_true, decide_eq_true_eq] at heq
    exact hnone ⟨g, hg, heq⟩

end Store

/-! ## Levels -/

/-- The group that a level is read from. -/
def LevelCount.group (l : LevelCount) : Store.Group := (l.depth, l.status.code, l.count)

namespace Store

theorem readGroup_eq_ok_iff {g : Group} {l : LevelCount} :
    readGroup g = .ok l ↔ g = l.group ∧ (l.depth : Int) ≤ maxDepth := by
  obtain ⟨d, c, n⟩ := g
  constructor
  · intro h
    dsimp only [readGroup] at h
    split at h
    · cases h
    · next hrange =>
      split at h
      · next status hstatus =>
        cases h
        simp only [Bool.or_eq_true, decide_eq_true_eq, not_or] at hrange
        have hdepth : ((d.toNat : Nat) : Int) = d := Int.toNat_of_nonneg (by omega)
        rw [LevelCount.group, hdepth, ← Status.ofCode?_eq_some_iff.mp hstatus]
        exact ⟨rfl, by omega⟩
      · cases h
  · rintro ⟨heq, hmax⟩
    cases heq
    dsimp only [readGroup]
    rw [if_neg (by simp; omega), Status.ofCode?_code, Int.toNat_natCast]

/-- A row that a report can count: its status code is known and its depth fits 32 bits. -/
def Countable (r : FrontierRow) : Prop :=
  (∃ status : Status, r.code = status.code) ∧ 0 ≤ r.depth ∧ r.depth ≤ maxDepth

/-- A group can be read if its code is that of a status and its depth is in range. -/
theorem exists_readGroup_iff {g : Group} :
    (∃ l, readGroup g = .ok l) ↔
      (∃ status : Status, g.2.1 = status.code) ∧ 0 ≤ g.1 ∧ g.1 ≤ maxDepth := by
  simp only [readGroup_eq_ok_iff]
  constructor
  · rintro ⟨l, rfl, hmax⟩
    exact ⟨⟨l.status, rfl⟩, Int.natCast_nonneg _, hmax⟩
  · obtain ⟨d, c, n⟩ := g
    rintro ⟨⟨status, hcode⟩, hmin, hmax⟩
    dsimp only at hcode hmin hmax
    refine ⟨⟨d.toNat, status, n⟩, ?_, ?_⟩
    · simp only [LevelCount.group, hcode, Int.toNat_of_nonneg hmin]
    · simp only [Int.toNat_of_nonneg hmin, hmax]

variable {s : Store}

theorem summary_eq_mapM (h : s.frontier.isSome) : s.summary = (groups s.rows).mapM readGroup := by
  obtain ⟨t, ht, hrows⟩ := frontierTable_of_isSome h
  unfold summary
  rw [ht, ← hrows]
  rfl

theorem exists_summary_iff (h : s.frontier.isSome) :
    (∃ levels, s.summary = .ok levels) ↔ ∀ r ∈ s.rows, Countable r := by
  rw [summary_eq_mapM h, exists_mapM_eq_ok_iff]
  simp only [exists_readGroup_iff]
  constructor
  · intro hgroups r hr
    obtain ⟨g, hg, hdepth, hcode⟩ := exists_group_of_mem hr
    have hread := hgroups g hg
    rwa [hdepth, hcode] at hread
  · intro hrows g hg
    obtain ⟨r, hr, hdepth, hcode⟩ := exists_row_of_mem_groups hg
    have hcount := hrows r hr
    unfold Countable at hcount
    rwa [hdepth, hcode] at hcount

/-- The levels are the groups of the rows. -/
theorem groups_of_summary (h : s.frontier.isSome) {levels : List LevelCount}
    (hsum : s.summary = .ok levels) : groups s.rows = levels.map LevelCount.group := by
  rw [summary_eq_mapM h, mapM_eq_ok_iff] at hsum
  rw [← List.forall₂_eq_eq_eq, List.forall₂_map_right_iff]
  exact hsum.imp fun g l hread => (readGroup_eq_ok_iff.mp hread).1

/-! ## Counts -/

theorem missingInfoCount_of_isSome (hf : s.frontier.isSome) (hi : s.info.isSome) :
    s.missingInfoCount = .ok s.undetailed.length := by
  obtain ⟨t, ht, hrows⟩ := frontierTable_of_isSome hf
  obtain ⟨i, hinfo, hdetails⟩ := infoTable_of_isSome hi
  have hcount : s.missingInfoCount = .ok (t.rows.countP fun r => !i.rows.any (·.id = r.id)) := by
    simp only [missingInfoCount, ht, hinfo]
    rfl
  rw [hcount, hrows, hdetails, undetailed, ids, ← List.countP_eq_length_filter, List.countP_map]
  congr 2
  funext r
  rw [Bool.eq_iff_iff]
  simp

/-- The ids of the frontier have details or not. -/
theorem length_rows_eq (hids : s.ids.Nodup) :
    s.rows.length = s.undetailed.length + {id | id ∈ s.ids ∧ id ∈ s.detailed}.ncard := by
  have hboth : {id | id ∈ s.ids ∧ id ∈ s.detailed} =
      ((s.ids.filter (· ∈ s.detailed)).toFinset : Set String) := by
    ext id
    simp
  have hsplit := List.length_eq_length_filter_add (l := s.ids) (· ∈ s.detailed)
  have hrest : s.undetailed = s.ids.filter fun id => !decide (id ∈ s.detailed) := by
    refine List.filter_congr fun id _ => ?_
    rw [Bool.eq_iff_iff]
    simp [detailed]
  rw [hboth, Set.ncard_coe_finset, List.toFinset_card_of_nodup (hids.filter _), hrest]
  rw [ids, List.length_map] at hsplit
  exact hsplit.trans (Nat.add_comm _ _)

theorem ncard_both_le (s : Store) :
    {id | id ∈ s.ids ∧ id ∈ s.detailed}.ncard ≤ s.infoRows.length := by
  have hsub : {id | id ∈ s.ids ∧ id ∈ s.detailed} ⊆ (s.detailed.toFinset : Set String) := by
    intro id hid
    simpa using hid.2
  calc {id | id ∈ s.ids ∧ id ∈ s.detailed}.ncard ≤ (s.detailed.toFinset : Set String).ncard :=
        Set.ncard_le_ncard hsub (Finset.finite_toSet _)
    _ ≤ s.detailed.length := by rw [Set.ncard_coe_finset]; exact List.toFinset_card_le _
    _ = s.infoRows.length := List.length_map _

end Store

namespace StatusReport

open Store

variable {s : Store} {report : StatusReport}

/-- With both tables there a report can fail over its levels only. -/
theorem ofStore_eq_ok_iff (hf : s.frontier.isSome) (hi : s.info.isSome) :
    ofStore s = .ok report ↔ s.summary = .ok report.levels ∧ report.frontier = s.rows.length ∧
      report.withInfo = s.infoRows.length ∧ report.missingInfo = s.undetailed.length := by
  have hfrontier : s.frontierCount = .ok s.rows.length := by
    obtain ⟨t, ht, hrows⟩ := frontierTable_of_isSome hf
    rw [frontierCount, ht, ← hrows]
    rfl
  have hinfo : s.infoCount = .ok s.infoRows.length := by
    obtain ⟨t, ht, hrows⟩ := infoTable_of_isSome hi
    rw [infoCount, ht, ← hrows]
    rfl
  unfold ofStore
  rw [hfrontier, hinfo, missingInfoCount_of_isSome hf hi]
  obtain ⟨levels, frontier, withInfo, missingInfo⟩ := report
  cases s.summary with
  | error e => simp [bind, Except.bind]
  | ok levels' => simp [bind, Except.bind, pure, Except.pure, eq_comm]

/-- The total of a status is the weight of its groups. -/
theorem total_eq_weigh (report : StatusReport) (status : Status) :
    report.total status = weigh (fun _ c => c = status.code)
      (report.levels.map LevelCount.group) := by
  have hcode (l : LevelCount) : l.status = status ↔ l.status.code = status.code := by
    refine ⟨congrArg _, fun h => ?_⟩
    have hsame := congrArg Status.ofCode? h
    simpa using hsame
  suffices hall : ∀ (levels : List LevelCount) (start : Nat),
      (levels.filter (·.status = status)).foldl (fun sum level => sum + level.count) start =
        start + weigh (fun _ c => c = status.code) (levels.map LevelCount.group) by
    rw [total, hall, Nat.zero_add]
  intro levels
  induction levels with
  | nil => simp [weigh]
  | cons l levels ih =>
    intro start
    rw [List.map_cons, LevelCount.group, weigh, List.filter_cons]
    simp only [hcode, decide_eq_true_eq] at ih ⊢
    split
    · rw [List.foldl_cons, ih, Nat.add_assoc]
    · rw [ih, Nat.zero_add]

/-- A report that agrees with the tables, row by row. -/
structure Agrees (report : StatusReport) (s : Store) : Prop where
  /-- No two levels have the same depth and status. -/
  ordered : report.levels.Pairwise fun l l' =>
    l.depth < l'.depth ∨ l.depth = l'.depth ∧ l'.status.code < l.status.code
  counts : ∀ l ∈ report.levels, 0 < l.count ∧ l.count = (s.rowsAt l.depth l.status).length
  /-- A level that can be read has as many entries. -/
  entries : ∀ l ∈ report.levels, (∀ r ∈ s.rowsAt l.depth l.status, r.Readable) →
    ∃ es, s.entriesAt l.depth l.status = .ok es ∧ es.length = l.count
  /-- No row is left out. -/
  covers : ∀ r ∈ s.rows, ∃ l ∈ report.levels, r ∈ s.rowsAt l.depth l.status
  total : ∀ status, report.total status = (s.rows.filter (·.code = status.code)).length
  totals : report.total .unvisited + report.total .visited + report.total .error = report.frontier
  frontier : report.frontier = s.rows.length
  withInfo : report.withInfo = s.infoRows.length
  missing : ∃ ids, s.idsMissingInfo = .ok ids ∧ report.missingInfo = ids.length
  /-- The other ids have details, of which there may be more. -/
  both : s.ids.Nodup →
    report.frontier = report.missingInfo + {id | id ∈ s.ids ∧ id ∈ s.detailed}.ncard ∧
      {id | id ∈ s.ids ∧ id ∈ s.detailed}.ncard ≤ report.withInfo

theorem total_of_groups (hgroups : groups s.rows = report.levels.map LevelCount.group)
    (status : Status) : report.total status = (s.rows.filter (·.code = status.code)).length := by
  rw [total_eq_weigh, ← hgroups, weigh_groups, List.countP_eq_length_filter]

/-- A row whose status code is known has one of the three statuses. -/
theorem totals_of_groups (hgroups : groups s.rows = report.levels.map LevelCount.group)
    (hrows : ∀ r ∈ s.rows, ∃ status : Status, r.code = status.code) :
    report.total .unvisited + report.total .visited + report.total .error = s.rows.length := by
  rw [total_of_groups hgroups, total_of_groups hgroups, total_of_groups hgroups]
  generalize s.rows = rows at hrows
  induction rows with
  | nil => rfl
  | cons r rows ih =>
    have hrest := ih fun r' hr' => hrows r' (List.mem_cons_of_mem _ hr')
    obtain ⟨status, hcode⟩ := hrows r List.mem_cons_self
    rw [List.length_cons, ← hrest]
    cases status <;> simp [hcode, Status.code] <;> omega

theorem Agrees.ofStore (hf : s.frontier.isSome) (hi : s.info.isSome) (h : ofStore s = .ok report) :
    report.Agrees s := by
  obtain ⟨hsummary, hfrontier, hwith, hmissing⟩ := (ofStore_eq_ok_iff hf hi).mp h
  have hgroups := groups_of_summary hf hsummary
  have hrows := (exists_summary_iff hf).mp ⟨_, hsummary⟩
  have hmem : ∀ l ∈ report.levels, l.group ∈ groups s.rows := fun l hl =>
    hgroups ▸ List.mem_map_of_mem hl
  have hcount : ∀ l ∈ report.levels, l.count = (s.rowsAt l.depth l.status).length := by
    intro l hl
    rw [rowsAt, ← List.countP_eq_length_filter]
    exact count_of_mem_groups (hmem l hl)
  refine
    { ordered := ?_, counts := fun l hl => ⟨pos_of_mem_groups (hmem l hl), hcount l hl⟩,
      entries := ?_, covers := ?_, total := total_of_groups hgroups, totals := ?_,
      frontier := hfrontier, withInfo := hwith,
      missing := ⟨_, idsMissingInfo_of_isSome hf hi, hmissing⟩, both := fun hids => ?_ }
  · have hordered := ordered_groups s.rows
    rw [hgroups, List.pairwise_map] at hordered
    refine hordered.imp fun hbefore => ?_
    simpa [Group.Before, LevelCount.group] using hbefore
  · intro l hl hread
    obtain ⟨es, hes, hsame⟩ := entriesAt_of_readable hf hread
    exact ⟨es, hes, by rw [hcount l hl, hsame.length_eq]⟩
  · intro r hr
    obtain ⟨g, hg, hdepth, hcode⟩ := exists_group_of_mem hr
    rw [hgroups] at hg
    obtain ⟨l, hl, rfl⟩ := List.mem_map.mp hg
    exact ⟨l, hl, mem_rowsAt.mpr ⟨hr, hdepth.symm, hcode.symm⟩⟩
  · rw [totals_of_groups hgroups fun r hr => (hrows r hr).1, hfrontier]
  · rw [hfrontier, hmissing, hwith]
    exact ⟨length_rows_eq hids, ncard_both_le s⟩

/-- **The status report agrees with the tables.** With both tables there, a report is given exactly
if every row of the frontier has a known status code and a depth of 32 bits. Its levels are in
order, by depth and then by status code from high to low, and each counts the rows that reading it
gives. The totals add up to the number of rows, the ids missing details are those that are listed,
and the other ids are those in both tables, which are no more than there are details. -/
theorem ofStore_agrees (s : Store) (hf : s.frontier.isSome) (hi : s.info.isSome) :
    ((∃ report, ofStore s = .ok report) ↔ ∀ r ∈ s.rows, Countable r) ∧
      ∀ report, ofStore s = .ok report → report.Agrees s := by
  refine ⟨?_, fun report => Agrees.ofStore hf hi⟩
  rw [← exists_summary_iff hf]
  constructor
  · rintro ⟨report, h⟩
    exact ⟨_, ((ofStore_eq_ok_iff hf hi).mp h).1⟩
  · rintro ⟨levels, h⟩
    exact ⟨⟨levels, _, _, _⟩, (ofStore_eq_ok_iff hf hi).mpr ⟨h, rfl, rfl, rfl⟩⟩

/-- A frontier with a row that cannot be read, and details of an id that it does not have. -/
def surveyed : Store :=
  { frontier := some { rows :=
      [⟨"a", 1, 0, "null"⟩, ⟨"b", 0, 1, "null"⟩, ⟨"c", 1, -2, "null"⟩, ⟨"d", 1, 0, "?"⟩,
        ⟨"e", 0, 1, "null"⟩] }
    info := some { rows := [⟨"z", "", 0, 0, 1, "null"⟩, ⟨"b", "", 0, 0, 0, "null"⟩] } }

theorem ofStore_agrees_surveyed :
    (∀ r ∈ surveyed.rows, Countable r) ∧
      Agrees ⟨[⟨0, .visited, 2⟩, ⟨1, .unvisited, 2⟩, ⟨1, .error, 1⟩], 5, 2, 4⟩ surveyed := by
  obtain ⟨hiff, hagrees⟩ := ofStore_agrees surveyed rfl rfl
  have hreport : ofStore surveyed =
      .ok ⟨[⟨0, .visited, 2⟩, ⟨1, .unvisited, 2⟩, ⟨1, .error, 1⟩], 5, 2, 4⟩ := by decide
  exact ⟨hiff.mp ⟨_, hreport⟩, hagrees _ hreport⟩

end StatusReport

end CatalogCrawl
