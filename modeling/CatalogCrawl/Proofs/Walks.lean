import CatalogCrawl.Proofs.HeldFile
import CatalogCrawl.Proofs.Paths

/-! # Walks along paths

A path is walked name by name through directories, and its last step is what differs: a
directory is at the end of the whole walk (`Disk.resolve_dir_iff`), a file beside the directory
before (`Disk.resolve_file_iff`). A walk that succeeds goes on to succeed as long as no
directory is lost (`Disk.Keeps`). -/

namespace CatalogCrawl.Disk

variable {d d' d'' : Disk} {p q name : String} {base l m : Place} {content : Content}

/-! ## Other places -/

theorem get?_set_of_ne (h : m ≠ l) (e : Entry) : (d.set l e).get? m = d.get? m := by
  by_cases hroot : m = []
  · rw [hroot]
    rfl
  · rw [get?_set l e hroot, if_neg h]

theorem get?_erase_of_ne (h : m ≠ l) : (d.erase l).get? m = d.get? m := by
  by_cases hroot : m = []
  · rw [hroot]
    rfl
  · rw [get?_erase l hroot, if_neg h]

theorem get?_move_of_ne {l' : Place} (h : m ≠ l) (h' : m ≠ l') (content : Content) :
    (d.move l l' content).get? m = d.get? m := by
  by_cases hroot : m = []
  · rw [hroot]
    rfl
  · rw [get?_move l l' content hroot, if_neg h', if_neg h]

theorem ne_of_dir (hm : d.get? m = some .dir) (hl : d.get? l ≠ some .dir) : m ≠ l := by
  rintro rfl
  exact hl hm

/-! ## Walks -/

/-- Where the walk along a path starts. -/
def start (d : Disk) (p : String) : Place := if Path.isAbsolute p then [] else d.cwd

def walk (d : Disk) (base : Place) (names : List String) : Except OsError Place :=
  names.foldlM (d.enter ·) base

/-- A step stays, goes up, or goes down to a directory. -/
theorem enter_eq_ok_iff :
    d.enter base name = .ok l ↔ name = "." ∧ l = base ∨ name = ".." ∧ l = base.dropLast ∨
      name ≠ "." ∧ name ≠ ".." ∧ name.utf8ByteSize ≤ maxName ∧ l = base ++ [name] ∧
        d.get? l = some .dir := by
  unfold enter
  split
  · next hdot =>
    subst hdot
    simp [eq_comm (a := base)]
  · split
    · next hdots =>
      subst hdots
      simp [eq_comm (a := base.dropLast)]
    · next hdot hdots =>
      split
      · next hlong => simp [hdot, hdots, Nat.not_le.mpr hlong]
      · next hshort =>
        simp only [hdot, hdots, Nat.not_lt.mp hshort, false_and, false_or, ne_eq, not_false_eq_true,
          true_and]
        constructor
        · intro h
          split at h
          · next hget =>
            cases h
            exact ⟨rfl, hget⟩
          · cases h
          · cases h
        · rintro ⟨rfl, hget⟩
          rw [hget]

/-- A walk goes on from where its first part leads. -/
theorem walk_append_eq_ok {names more : List String} :
    d.walk base (names ++ more) = .ok l ↔
      ∃ mid, d.walk base names = .ok mid ∧ d.walk mid more = .ok l := by
  unfold walk
  rw [List.foldlM_append]
  cases names.foldlM (d.enter ·) base <;> simp [bind, Except.bind]

theorem walk_concat_eq_ok {names : List String} :
    d.walk base (names ++ [name]) = .ok l ↔
      ∃ mid, d.walk base names = .ok mid ∧ d.enter mid name = .ok l := by
  rw [walk_append_eq_ok]
  simp [walk]

/-- A text that can be walked along at all. -/
structure Legal (p : String) : Prop where
  noNul : '\x00' ∉ p.toList
  ne_empty : p ≠ ""
  short : p.utf8ByteSize ≤ maxPath

theorem Legal.part (h : Legal p) (hq : q.toList <+: p.toList) (hne : q ≠ "") : Legal q := by
  obtain ⟨rest, hrest⟩ := hq
  have hp : p = q ++ String.ofList rest := by
    rw [← String.ofList_toList (s := p), ← hrest, String.ofList_append, String.ofList_toList]
  refine ⟨fun hmem => h.noNul (hrest ▸ List.mem_append_left _ hmem), hne, ?_⟩
  have hshort := h.short
  rw [hp, String.utf8ByteSize_append] at hshort
  omega

theorem legal_of_locate {x : Place × Last} (h : d.locate p = .ok x) : Legal p := by
  unfold locate at h
  split at h
  · cases h
  · split at h
    · cases h
    · split at h
      · cases h
      · next hnul hempty hlong => exact ⟨by simpa using hnul, by simpa using hempty, by omega⟩

/-- A path leads to its last name, in the directory that the names before it lead to. -/
theorem locate_of_legal (h : Legal p) :
    d.locate p = match (Path.names p).getLast? with
      | none => .ok (d.start p, .root)
      | some name => (d.walk (d.start p) (Path.names p).dropLast).map
          fun base => (base, .ofName name (p.toList.getLast? = some '/')) := by
  unfold locate
  rw [if_neg (by simpa using h.noNul), if_neg (by simpa using h.ne_empty),
    if_neg (by simpa using h.short)]
  simp only [bind, Except.bind, pure, Except.pure]
  rfl

/-- The last step of a path is at the end of a walk along the names before. -/
theorem locate_eq_ok_iff {last : Last} :
    d.locate p = .ok (base, last) ↔ Legal p ∧
      (Path.names p = [] ∧ base = d.start p ∧ last = .root ∨
        ∃ init name, Path.names p = init ++ [name] ∧ d.walk (d.start p) init = .ok base ∧
          last = .ofName name (p.toList.getLast? = some '/')) := by
  by_cases hlegal : Legal p
  · rw [locate_of_legal hlegal]
    rcases List.eq_nil_or_concat' (Path.names p) with hnil | ⟨init, name, hnames⟩
    · rw [hnil]
      constructor
      · intro h
        cases h
        exact ⟨hlegal, .inl ⟨rfl, rfl, rfl⟩⟩
      · rintro ⟨-, ⟨-, rfl, rfl⟩ | ⟨init, name, hnames, -⟩⟩
        · rfl
        · simp at hnames
    · rw [hnames, List.getLast?_concat, List.dropLast_concat]
      dsimp only
      constructor
      · intro h
        cases hwalk : d.walk (d.start p) init with
        | error e =>
          rw [hwalk] at h
          cases h
        | ok mid =>
          rw [hwalk] at h
          cases h
          exact ⟨hlegal, .inr ⟨init, name, rfl, hwalk, rfl⟩⟩
      · rintro ⟨-, ⟨hnil, -⟩ | ⟨init', name', hnames', hwalk, rfl⟩⟩
        · simp at hnil
        · obtain ⟨rfl, rfl⟩ := List.append_singleton_inj.mp hnames'
          rw [hwalk]
          rfl
  · simp only [hlegal, false_and, iff_false]
    exact fun h => hlegal (legal_of_locate h)

/-- What is at the last step of a path. -/
def arrive (d : Disk) : Place × Last → Except OsError (Place × Entry)
  | (base, .root) => .ok (base, .dir)
  | (base, .dots name) => (d.enter base name).map (·, .dir)
  | (base, .name name slash) =>
    if maxName < name.utf8ByteSize then .error .nameTooLong
    else match d.get? (base ++ [name]) with
      | none => .error .notFound
      | some .dir => .ok (base ++ [name], .dir)
      | some e => if slash then .error .notDirectory else .ok (base ++ [name], e)

theorem resolve_eq (d : Disk) (p : String) : d.resolve p = (d.locate p).bind d.arrive := by
  unfold resolve
  cases d.locate p with
  | error e => rfl
  | ok x =>
    obtain ⟨base, last⟩ := x
    cases last <;> rfl

theorem arrive_ofName_dir {slash : Bool} :
    d.arrive (base, .ofName name slash) = .ok (l, .dir) ↔ d.enter base name = .ok l := by
  unfold Last.ofName
  split
  · rw [arrive]
    cases d.enter base name <;> simp [Except.map]
  · next hdots =>
    rw [Bool.or_eq_true, decide_eq_true_eq, decide_eq_true_eq, not_or] at hdots
    rw [arrive, enter, if_neg hdots.1, if_neg hdots.2]
    split
    · simp
    · cases d.get? (base ++ [name]) with
      | none => simp
      | some e =>
        cases e with
        | dir => simp
        | file content => cases slash <;> simp

/-- A directory is at the end of the whole walk. -/
theorem resolve_dir_iff :
    d.resolve p = .ok (l, .dir) ↔ Legal p ∧ d.walk (d.start p) (Path.names p) = .ok l := by
  rw [resolve_eq]
  constructor
  · intro h
    cases hlocate : d.locate p with
    | error e =>
      rw [hlocate] at h
      cases h
    | ok x =>
      rw [hlocate] at h
      obtain ⟨base, last⟩ := x
      obtain ⟨hlegal, ⟨hnil, rfl, rfl⟩ | ⟨init, name, hnames, hwalk, rfl⟩⟩ :=
        locate_eq_ok_iff.mp hlocate
      · cases h
        exact ⟨hlegal, by rw [hnil]; rfl⟩
      · rw [hnames, walk_concat_eq_ok]
        exact ⟨hlegal, base, hwalk, arrive_ofName_dir.mp h⟩
  · rintro ⟨hlegal, hwalk⟩
    rcases List.eq_nil_or_concat' (Path.names p) with hnil | ⟨init, name, hnames⟩
    · rw [locate_eq_ok_iff.mpr ⟨hlegal, .inl ⟨hnil, rfl, rfl⟩⟩]
      rw [hnil] at hwalk
      cases hwalk
      rfl
    · rw [hnames, walk_concat_eq_ok] at hwalk
      obtain ⟨base, hwalk, henter⟩ := hwalk
      rw [locate_eq_ok_iff.mpr ⟨hlegal, .inr ⟨init, name, hnames, hwalk, rfl⟩⟩]
      exact arrive_ofName_dir.mpr henter

/-- A file is found under the last name of a path, with no slash behind it. -/
theorem arrive_file_iff {last : Last} :
    d.arrive (base, last) = .ok (l, .file content) ↔
      ∃ name, last = .name name false ∧ name.utf8ByteSize ≤ maxName ∧ l = base ++ [name] ∧
        d.get? l = some (.file content) := by
  cases last with
  | root => simp [arrive]
  | dots name => cases henter : d.enter base name <;> simp [arrive, henter, Except.map]
  | name name slash =>
    constructor
    · intro h
      rw [arrive] at h
      split at h
      · cases h
      · next hshort =>
        cases hget : d.get? (base ++ [name]) with
        | none =>
          rw [hget] at h
          cases h
        | some e =>
          rw [hget] at h
          cases e with
          | dir => cases h
          | file content =>
            dsimp only at h
            split at h
            · cases h
            · next hslash =>
              cases h
              exact ⟨name, by simp [hslash], by omega, rfl, hget⟩
    · rintro ⟨_, ⟨⟩, hshort, rfl, hget⟩
      rw [arrive, if_neg (by omega), hget]
      rfl

/-- A file is at the end of a path that does not end in a slash. -/
theorem resolve_file_iff :
    d.resolve p = .ok (l, .file content) ↔
      ∃ base name, d.locate p = .ok (base, .name name false) ∧ name.utf8ByteSize ≤ maxName ∧
        l = base ++ [name] ∧ d.get? l = some (.file content) := by
  rw [resolve_eq]
  cases d.locate p with
  | error e => simp [Except.bind]
  | ok x =>
    obtain ⟨base, last⟩ := x
    simp [Except.bind, arrive_file_iff]

theorem isDir_iff : d.isDir p = true ↔ ∃ l, d.resolve p = .ok (l, .dir) := by
  unfold isDir
  split
  · next heq => simp [heq]
  · next hne => simpa using fun l heq => hne l heq

theorem isFile_iff : d.isFile p = true ↔ ∃ l content, d.resolve p = .ok (l, .file content) := by
  unfold isFile
  split
  · next heq => simp [heq]
  · next hne => simpa using fun l content heq => hne l content heq

/-- A name at the end of a path is the name of the file. -/
theorem fileName?_of_locate {slash : Bool} (h : d.locate p = .ok (base, .name name slash)) :
    Path.fileName? p = some name := by
  obtain ⟨-, ⟨-, -, hroot⟩ | ⟨init, name', hnames, -, hlast⟩⟩ := locate_eq_ok_iff.mp h
  · cases hroot
  · unfold Last.ofName at hlast
    split at hlast
    · cases hlast
    · next hdots =>
      rw [Bool.or_eq_true, decide_eq_true_eq, decide_eq_true_eq, not_or] at hdots
      cases hlast
      have hmem : name ∈ Path.names p := by simp [hnames]
      exact Path.fileName?_of_names hnames (Path.isName_of_mem_names hmem hdots.1 hdots.2)

/-- The place that a path gives to an entry, if it ends in a name. -/
def site (d : Disk) (p : String) : Option Place :=
  match d.locate p with
  | .ok (base, .name name _) => some (base ++ [name])
  | _ => none

/-- The site of a path is the place of its last name, whether anything is there or not. -/
theorem site_eq_some_iff :
    d.site p = some l ↔ ∃ base name slash, d.locate p = .ok (base, .name name slash) ∧
      l = base ++ [name] := by
  unfold site
  split
  · next base name slash hlocate =>
    constructor
    · intro h
      cases h
      exact ⟨base, name, slash, hlocate, rfl⟩
    · rintro ⟨base', name', slash', hlocate', rfl⟩
      rw [hlocate] at hlocate'
      cases hlocate'
      rfl
  · next hnot =>
    simp only [reduceCtorEq, false_iff]
    rintro ⟨base, name, slash, hlocate, -⟩
    exact hnot _ _ _ hlocate

/-! ## Directories that stay -/

/-- No directory is lost. -/
structure Keeps (d d' : Disk) : Prop where
  cwd : d'.cwd = d.cwd
  dir : ∀ l, d.get? l = some .dir → d'.get? l = some .dir

namespace Keeps

theorem refl (d : Disk) : d.Keeps d := ⟨rfl, fun _ => id⟩

theorem trans (h : d.Keeps d') (h' : d'.Keeps d'') : d.Keeps d'' :=
  ⟨h'.cwd.trans h.cwd, fun l hl => h'.dir l (h.dir l hl)⟩

theorem enter (h : d.Keeps d') (henter : d.enter base name = .ok l) :
    d'.enter base name = .ok l := by
  rw [enter_eq_ok_iff] at henter ⊢
  obtain hdot | hdots | ⟨hdot, hdots, hshort, hl, hget⟩ := henter
  · exact .inl hdot
  · exact .inr (.inl hdots)
  · exact .inr (.inr ⟨hdot, hdots, hshort, hl, h.dir l hget⟩)

theorem walk (h : d.Keeps d') {names : List String} (hwalk : d.walk base names = .ok l) :
    d'.walk base names = .ok l := by
  induction names using List.reverseRecOn generalizing l with
  | nil => exact hwalk
  | append_singleton names name ih =>
    obtain ⟨mid, hmid, henter⟩ := walk_concat_eq_ok.mp hwalk
    exact walk_concat_eq_ok.mpr ⟨mid, ih hmid, h.enter henter⟩

theorem start (h : d.Keeps d') (p : String) : d'.start p = d.start p := by
  unfold Disk.start
  rw [h.cwd]

theorem locate (h : d.Keeps d') {last : Last} (hlocate : d.locate p = .ok (base, last)) :
    d'.locate p = .ok (base, last) := by
  obtain ⟨hlegal, ⟨hnil, hbase, hlast⟩ | ⟨init, name, hnames, hwalk, hlast⟩⟩ :=
    locate_eq_ok_iff.mp hlocate
  · exact locate_eq_ok_iff.mpr ⟨hlegal, .inl ⟨hnil, by rw [h.start, hbase], hlast⟩⟩
  · refine locate_eq_ok_iff.mpr ⟨hlegal, .inr ⟨init, name, hnames, ?_, hlast⟩⟩
    rw [h.start]
    exact h.walk hwalk

theorem resolve_dir (h : d.Keeps d') (hresolve : d.resolve p = .ok (l, .dir)) :
    d'.resolve p = .ok (l, .dir) := by
  obtain ⟨hlegal, hwalk⟩ := resolve_dir_iff.mp hresolve
  refine resolve_dir_iff.mpr ⟨hlegal, ?_⟩
  rw [h.start]
  exact h.walk hwalk

theorem site (h : d.Keeps d') (hsite : d.site p = some l) : d'.site p = some l := by
  obtain ⟨base, name, slash, hlocate, rfl⟩ := site_eq_some_iff.mp hsite
  exact site_eq_some_iff.mpr ⟨base, name, slash, h.locate hlocate, rfl⟩

theorem set (h : d.get? l ≠ some .dir) (e : Entry) : d.Keeps (d.set l e) where
  cwd := rfl
  dir m hm := by rw [get?_set_of_ne (ne_of_dir hm h), hm]

theorem erase (h : d.get? l ≠ some .dir) : d.Keeps (d.erase l) where
  cwd := rfl
  dir m hm := by rw [get?_erase_of_ne (ne_of_dir hm h), hm]

theorem move {l' : Place} (h : d.get? l ≠ some .dir) (h' : d.get? l' ≠ some .dir)
    (content : Content) : d.Keeps (d.move l l' content) where
  cwd := rfl
  dir m hm := by rw [get?_move_of_ne (ne_of_dir hm h) (ne_of_dir hm h'), hm]

end Keeps

end CatalogCrawl.Disk
