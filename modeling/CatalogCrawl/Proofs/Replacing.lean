import CatalogCrawl.Proofs.Walks
import Mathlib.Logic.Relation

/-! # Replacing a file, or leaving it alone

Replacing a file makes the directories above it, writes a sibling and renames that, and none of
these steps loses a directory. So a failure at any of them finds the sibling where it was written,
and everything else is as it was but for directories above the path (`Disk.Fate`). If the
directories cannot be made, the sibling has no place to be in (`Disk.makeParent_cases`). -/

namespace CatalogCrawl.Disk

variable {d d' d'' : Disk} {p q path name : String} {base l m : Place} {content : Content}

/-! ## Directories above a path -/

/-- A path that another one goes through on its way. -/
abbrev Above : String → String → Prop := Relation.TransGen fun q p => Path.parent? p = some q

/-- A directory that has been made, at one of some paths. -/
structure Made (above : String → Prop) (d d' : Disk) (m : Place) : Prop where
  absent : d.get? m = none
  dir : d'.get? m = some .dir
  path : ∃ q, above q ∧ d'.resolve q = .ok (m, .dir)

/-- Nothing but directories has been made, and those at some paths. -/
structure Grown (above : String → Prop) (d d' : Disk) : Prop where
  cwd : d'.cwd = d.cwd
  held : d'.held = d.held
  entry : ∀ m, d'.get? m = d.get? m ∨ Made above d d' m

namespace Grown

variable {above : String → Prop}

theorem refl (above : String → Prop) (d : Disk) : Grown above d d := ⟨rfl, rfl, fun _ => .inl rfl⟩

theorem keeps (h : Grown above d d') : d.Keeps d' where
  cwd := h.cwd
  dir m hm := by
    rcases h.entry m with heq | hmade
    · rw [heq, hm]
    · exact hmade.dir

theorem trans (h : Grown above d d') (h' : Grown above d' d'') : Grown above d d'' where
  cwd := h'.cwd.trans h.cwd
  held := h'.held.trans h.held
  entry m := by
    rcases h'.entry m with heq' | hmade'
    · rcases h.entry m with heq | hmade
      · exact .inl (heq'.trans heq)
      · obtain ⟨q, hq, hresolve⟩ := hmade.path
        exact .inr ⟨hmade.absent, heq'.trans hmade.dir, q, hq, h'.keeps.resolve_dir hresolve⟩
    · rcases h.entry m with heq | hmade
      · exact .inr ⟨heq.symm.trans hmade'.absent, hmade'.dir, hmade'.path⟩
      · have hgone := hmade'.absent
        rw [hmade.dir] at hgone
        cases hgone

end Grown

theorem makeDir_eq_ok (h : d.makeDir p = .ok d') :
    ∃ l, d.get? l = none ∧ d' = d.set l .dir ∧ d'.resolve p = .ok (l, .dir) := by
  unfold makeDir at h
  cases hlocate : d.locate p with
  | error e =>
    rw [hlocate] at h
    cases h
  | ok x =>
    obtain ⟨base, last⟩ := x
    rw [hlocate] at h
    cases last with
    | root | dots => cases h
    | name name slash =>
      simp only [bind, Except.bind] at h
      split at h
      · cases h
      · next hshort =>
        split at h
        · cases h
        · next hget =>
          cases h
          refine ⟨base ++ [name], hget, rfl, ?_⟩
          have hkeeps : d.Keeps (d.set (base ++ [name]) .dir) := .set (by simp [hget]) _
          rw [resolve_eq, hkeeps.locate hlocate]
          simp [Except.bind, arrive, hshort, get?_set]

theorem grown_of_makeDir {above : String → Prop} (h : d.makeDir p = .ok d') (hp : above p) :
    Grown above d d' := by
  obtain ⟨l, hnone, rfl, hresolve⟩ := makeDir_eq_ok h
  refine ⟨rfl, rfl, fun m => ?_⟩
  by_cases hm : m = l
  · subst hm
    have hroot : m ≠ [] := by
      rintro rfl
      cases hnone
    exact .inr ⟨hnone, by rw [get?_set _ _ hroot, if_pos rfl], p, hp, hresolve⟩
  · exact .inl (get?_set_of_ne hm .dir)

/-- What is a directory is not made again. -/
theorem makeDir_of_dir (h : d.resolve p = .ok (l, .dir)) : d.makeDir p = .error .alreadyExists := by
  rw [resolve_eq] at h
  unfold makeDir
  cases hlocate : d.locate p with
  | error e =>
    rw [hlocate] at h
    cases h
  | ok x =>
    obtain ⟨base, last⟩ := x
    rw [hlocate] at h
    cases last with
    | root | dots => rfl
    | name name slash =>
      simp only [Except.bind, arrive] at h
      simp only [bind, Except.bind]
      split
      · next hlong =>
        rw [if_pos hlong] at h
        cases h
      · next hshort =>
        rw [if_neg hshort] at h
        split
        · rfl
        · next hget =>
          rw [hget] at h
          cases h

theorem grown_makeDirsAux {above : String → Prop} {ps : List String} (h : ∀ p ∈ ps, above p)
    (d : Disk) : Grown above d (makeDirsAux ps d).2 := by
  induction ps with
  | nil => exact .refl above d
  | cons p rest ih =>
    have hp := h p List.mem_cons_self
    have hrest := ih fun q hq => h q (List.mem_cons_of_mem p hq)
    unfold makeDirsAux
    split
    · next hmake => exact grown_of_makeDir hmake hp
    · split <;> exact .refl above d
    · split
      · next haux => exact haux ▸ hrest
      · next haux =>
        rw [haux] at hrest
        split
        · next hmake => exact hrest.trans (grown_of_makeDir hmake hp)
        · split <;> exact hrest
        · exact hrest
    · exact .refl above d

theorem isAbsolute_of_prefix (h : q.toList <+: p.toList) (hne : q ≠ "") :
    Path.isAbsolute q = Path.isAbsolute p := by
  obtain ⟨rest, hrest⟩ := h
  rw [Path.isAbsolute, Path.isAbsolute, ← hrest, List.head?_append_of_ne_nil]
  simpa using hne

/-- What a directory is in is a directory. -/
theorem dir_parent (h : d.resolve p = .ok (l, .dir)) (hq : Path.parent? p = some q) (hne : q ≠ "") :
    ∃ l', d.resolve q = .ok (l', .dir) := by
  obtain ⟨hlegal, hwalk⟩ := resolve_dir_iff.mp h
  obtain ⟨more, hmore⟩ := Path.names_parent? hq
  have hbegins := Path.prefix_parent? hq
  rw [← hmore, walk_append_eq_ok] at hwalk
  obtain ⟨mid, hmid, -⟩ := hwalk
  refine ⟨mid, resolve_dir_iff.mpr ⟨hlegal.part hbegins hne, ?_⟩⟩
  rw [start, isAbsolute_of_prefix hbegins hne]
  exact hmid

theorem not_dir_of_makeDir {e : OsError} (h : d.makeDir p = .error e) (he : e ≠ .alreadyExists)
    (l : Place) : d.resolve p ≠ .ok (l, .dir) := by
  intro hdir
  rw [makeDir_of_dir hdir] at h
  cases h
  exact he rfl

/-- A failure comes from the first directory, which is none then, or from those above it. -/
theorem makeDirsAux_cons_eq_error {rest : List String} {e : OsError}
    (h : makeDirsAux (p :: rest) d = (.error e, d')) :
    (∀ l, d'.resolve p ≠ .ok (l, .dir)) ∨ makeDirsAux rest d = (.error e, d') := by
  have hexists {d : Disk} (hdir : ¬d.isDir p = true) (l : Place) : d.resolve p ≠ .ok (l, .dir) :=
    fun hl => hdir (isDir_iff.mpr ⟨l, hl⟩)
  unfold makeDirsAux at h
  split at h
  · cases h
  · split at h
    · cases h
    · next hdir =>
      cases h
      exact .inl (hexists hdir)
  · split at h
    · next haux => exact .inr (haux.trans h)
    · split at h
      · cases h
      · split at h
        · cases h
        · next hdir =>
          cases h
          exact .inl (hexists hdir)
      · next hother hmake =>
        cases h
        exact .inl (not_dir_of_makeDir hmake hother)
  · next hother _ hmake =>
    cases h
    exact .inl (not_dir_of_makeDir hmake hother)

/-- If directories cannot be made, the first of them is not there afterwards. -/
theorem not_dir_of_makeDirsAux {rest : List String} {e : OsError}
    (hchain : List.IsChain (fun p q => Path.parent? p = some q) (p :: rest))
    (hne : ∀ q ∈ rest, q ≠ "")
    (h : makeDirsAux (p :: rest) d = (.error e, d')) (l : Place) :
    d'.resolve p ≠ .ok (l, .dir) := by
  rcases makeDirsAux_cons_eq_error h with hnot | hrest
  · exact hnot l
  · induction rest generalizing p l with
    | nil => cases hrest
    | cons q rest ih =>
      rw [List.isChain_cons_cons] at hchain
      obtain ⟨hq, hrestne⟩ := List.forall_mem_cons.mp hne
      intro hdir
      -- if it were there, so would be the one above, from which the failure came
      obtain ⟨l', hl'⟩ := dir_parent hdir hchain.1 hq
      rcases makeDirsAux_cons_eq_error hrest with hnot | hrest'
      · exact hnot l' hl'
      · exact ih hchain.2 hrestne hrest l' hrest' hl'

/-! ## Directories above a file -/

theorem isChain_ancestorsAux (fuel : Nat) (p : String) :
    List.IsChain (fun p q => Path.parent? p = some q) (Path.ancestorsAux fuel p) := by
  induction fuel generalizing p with
  | zero => exact .nil
  | succ fuel ih =>
    rw [Path.ancestorsAux]
    split
    · exact .nil
    · next q hq =>
      have hrest := ih q
      cases fuel with
      | zero => exact .singleton p
      | succ fuel =>
        rw [Path.ancestorsAux] at hrest ⊢
        split
        · exact .singleton p
        · next r hr =>
          rw [hr] at hrest
          exact .cons_cons hq hrest

theorem mem_ancestorsAux {fuel : Nat} (h : q ∈ Path.ancestorsAux fuel p) :
    (q = p ∨ Above q p) ∧ q ≠ "" := by
  induction fuel generalizing p with
  | zero => cases h
  | succ fuel ih =>
    rw [Path.ancestorsAux] at h
    split at h
    · cases h
    · next r hr =>
      rcases List.mem_cons.mp h with rfl | hrest
      · refine ⟨.inl rfl, ?_⟩
        rintro rfl
        cases hr
      · obtain ⟨rfl | habove, hne⟩ := ih hrest
        · exact ⟨.inr (.single hr), hne⟩
        · exact ⟨.inr (.tail habove hr), hne⟩

theorem not_dir_of_makeDirs {e : OsError} (h : d.makeDirs p = (.error e, d')) (l : Place) :
    d'.resolve p ≠ .ok (l, .dir) := by
  unfold makeDirs Path.ancestors at h
  have hchain := isChain_ancestorsAux (p.length + 1) p
  have hne : ∀ q ∈ Path.ancestorsAux (p.length + 1) p, q ≠ "" := fun q hq => (mem_ancestorsAux hq).2
  rw [Path.ancestorsAux] at h hchain hne
  cases hq : Path.parent? p with
  | none =>
    rw [hq] at h
    cases h
  | some q =>
    rw [hq] at h hchain hne
    exact not_dir_of_makeDirsAux hchain (List.forall_mem_cons.mp hne).2 h l

/-- The directories above a file are made, or the one that it is to be in is not there. -/
theorem makeParent_cases (path : String) (d : Disk) :
    ∃ r d', makeParent path d = (r, d') ∧ Grown (Above · path) d d' ∧
      ∀ e, r = .error e → ∃ q, Path.parent? path = some q ∧ q ≠ "" ∧
        ∀ l, d'.resolve q ≠ .ok (l, .dir) := by
  unfold makeParent
  split
  · exact ⟨_, _, rfl, .refl _ d, nofun⟩
  · next q hq =>
    split
    · exact ⟨_, _, rfl, .refl _ d, nofun⟩
    · next hempty =>
      have hgrown : Grown (Above · path) d (d.makeDirs q).2 := by
        refine grown_makeDirsAux (fun p hp => ?_) d
        obtain ⟨rfl | habove, -⟩ := mem_ancestorsAux hp
        · exact .single hq
        · exact .tail habove hq
      split
      · next d' hmake =>
        rw [hmake] at hgrown
        exact ⟨_, _, rfl, hgrown, nofun⟩
      · next e d' hmake =>
        rw [hmake] at hgrown
        refine ⟨_, _, rfl, hgrown, fun _ _ => ⟨q, hq, by simpa using hempty, ?_⟩⟩
        exact not_dir_of_makeDirs hmake

theorem makeDirs_of_dir (h : d.resolve p = .ok (l, .dir)) : d.makeDirs p = (.ok (), d) := by
  unfold makeDirs Path.ancestors
  rw [Path.ancestorsAux]
  split
  · rfl
  · rw [makeDirsAux, makeDir_of_dir h]
    exact if_pos (isDir_iff.mpr ⟨l, h⟩)

/-! ## The sibling -/

theorem prefix_join (q name : String) (hname : Path.IsName name) :
    q.toList <+: (Path.join q name).toList := by
  unfold Path.join
  rw [hname.isAbsolute, if_neg Bool.false_ne_true]
  split
  · next hempty =>
    obtain rfl : q = "" := by simpa using hempty
    exact List.nil_prefix
  · split
    · simp
    · simp

/-- The sibling is in the directory that the parent of the path leads to. -/
theorem dir_of_locate_tempPath {last : Last} (h : d.locate (tempPath path) = .ok (base, last))
    (hq : Path.parent? path = some q) (hne : q ≠ "") : d.resolve q = .ok (base, .dir) := by
  have hname := isName_tempName path
  rw [tempPath_eq, hq, Option.getD_some] at h
  have hbegins := prefix_join q (tempName path) hname
  obtain ⟨hlegal, ⟨hnil, -⟩ | ⟨init, name, hnames, hwalk, -⟩⟩ := locate_eq_ok_iff.mp h
  · rw [Path.names_join q hname] at hnil
    simp at hnil
  · rw [Path.names_join q hname, List.append_singleton_inj] at hnames
    refine resolve_dir_iff.mpr ⟨hlegal.part hbegins hne, ?_⟩
    rw [start, isAbsolute_of_prefix hbegins hne, hnames.1]
    exact hwalk

/-- The sibling is not at the place of the file itself. -/
theorem site_tempPath_ne (h : d.site path = some l) : d.site (tempPath path) ≠ some l := by
  intro htemp
  obtain ⟨base, name, slash, hlocate, rfl⟩ := site_eq_some_iff.mp h
  obtain ⟨base', name', slash', hlocate', heq⟩ := site_eq_some_iff.mp htemp
  obtain ⟨-, rfl⟩ := List.append_singleton_inj.mp heq
  have hname := fileName?_of_locate hlocate'
  rw [fileName?_tempPath] at hname
  exact tempName_ne (fileName?_of_locate hlocate) (Option.some.inj hname)

/-! ## Writing and renaming -/

/-- Where a file can be written. -/
structure Opens (d : Disk) (p : String) (l : Place) : Prop where
  located : ∃ base name, d.locate p = .ok (base, .name name false) ∧ name.utf8ByteSize ≤ maxName ∧
    l = base ++ [name]
  notDir : d.get? l ≠ some .dir

theorem openForWriting_eq_ok_iff : d.openForWriting p = .ok l ↔ d.Opens p l := by
  unfold openForWriting
  constructor
  · intro h
    cases hlocate : d.locate p with
    | error e =>
      rw [hlocate] at h
      cases h
    | ok x =>
      obtain ⟨base, last⟩ := x
      rw [hlocate] at h
      cases last with
      | root | dots => cases h
      | name name slash =>
        simp only [bind, Except.bind] at h
        split at h
        · cases h
        · next hslash =>
          split at h
          · cases h
          · next hshort =>
            split at h
            · cases h
            · next hget =>
              cases h
              refine ⟨⟨base, name, ?_, by omega, rfl⟩, hget⟩
              rw [hlocate, eq_false_of_ne_true hslash]
  · rintro ⟨⟨base, name, hlocate, hshort, rfl⟩, hget⟩
    rw [hlocate]
    simp only [bind, Except.bind]
    rw [if_neg Bool.false_ne_true, if_neg (by omega)]
    rfl

theorem write_eq_ok (h : d.write p content = .ok d') :
    ∃ l, d.Opens p l ∧ d' = d.set l (.file content) := by
  unfold write at h
  cases hopen : d.openForWriting p with
  | error e =>
    rw [hopen] at h
    cases h
  | ok l =>
    rw [hopen] at h
    cases h
    exact ⟨l, openForWriting_eq_ok_iff.mp hopen, rfl⟩

/-- A file that cannot be written is not there. -/
theorem not_isFile_of_write {e : OsError} (h : d.write p content = .error e) :
    d.isFile p = false := by
  rw [← Bool.not_eq_true, isFile_iff]
  rintro ⟨l, old, hresolve⟩
  obtain ⟨base, name, hlocate, hshort, hl, hget⟩ := resolve_file_iff.mp hresolve
  have hopen := openForWriting_eq_ok_iff.mpr ⟨⟨base, name, hlocate, hshort, hl⟩, by simp [hget]⟩
  rw [write, hopen] at h
  cases h

/-- A rename that succeeds has moved a file to a place where one may be written. -/
theorem rename_eq_ok (h : d.rename p q = .ok d') :
    ∃ l l' content, d.site p = some l ∧ d.get? l = some (.file content) ∧ d.Opens q l' ∧
      d' = d.move l l' content := by
  unfold rename at h
  cases hlocate : d.locate p with
  | error e =>
    rw [hlocate] at h
    cases h
  | ok x =>
    cases hlocate' : d.locate q with
    | error e =>
      rw [hlocate, hlocate'] at h
      cases h
    | ok y =>
      obtain ⟨base, last⟩ := x
      obtain ⟨base', last'⟩ := y
      rw [hlocate, hlocate'] at h
      simp only [bind, Except.bind] at h
      split at h
      · next name slash name' slash' =>
        split at h
        · next content hget =>
          split at h
          · cases h
          · next hshort =>
            split at h
            · cases h
            · next hslash =>
              split at h
              · cases h
              · next hdir =>
                cases h
                refine ⟨_, _, content, site_eq_some_iff.mpr ⟨base, name, slash, hlocate, rfl⟩, hget,
                  ?_, rfl⟩
                refine ⟨⟨base', name', ?_, by omega, rfl⟩, hdir⟩
                rw [hlocate', eq_false_of_ne_true hslash]
        · cases h
        · cases h
      · cases h

/-- A file can be renamed to any place where one may be written. -/
theorem rename_of_opens {slash : Bool} (hlocate : d.locate p = .ok (base, .name name slash))
    (hget : d.get? (base ++ [name]) = some (.file content)) (h : d.Opens q l) :
    d.rename p q = .ok (d.move (base ++ [name]) l content) := by
  obtain ⟨base', name', hlocate', hshort, rfl⟩ := h.located
  unfold rename
  rw [hlocate, hlocate']
  simp only [bind, Except.bind, hget]
  rw [if_neg (by omega), if_neg Bool.false_ne_true, if_neg h.notDir]
  rfl

namespace Opens

theorem site (h : d.Opens p l) : d.site p = some l := by
  obtain ⟨base, name, hlocate, -, hl⟩ := h.located
  exact site_eq_some_iff.mpr ⟨base, name, false, hlocate, hl⟩

theorem ne_nil (h : d.Opens p l) : l ≠ [] := by
  obtain ⟨base, name, -, -, rfl⟩ := h.located
  simp

theorem keeps (h : d.Opens p l) (e : Entry) : d.Keeps (d.set l e) := .set h.notDir e

/-- If a file comes to a place that could be written, the path leads to it. -/
theorem resolve_of_file (h : d.Opens p l) (hkeeps : d.Keeps d')
    (hget : d'.get? l = some (.file content)) : d'.resolve p = .ok (l, .file content) := by
  obtain ⟨base, name, hlocate, hshort, hl⟩ := h.located
  exact resolve_file_iff.mpr ⟨base, name, hkeeps.locate hlocate, hshort, hl, hget⟩

theorem resolve_of_absent (h : d.Opens p l) (hkeeps : d.Keeps d') (hget : d'.get? l = none) :
    d'.resolve p = .error .notFound := by
  obtain ⟨base, name, hlocate, hshort, rfl⟩ := h.located
  rw [resolve_eq, hkeeps.locate hlocate]
  simp [Except.bind, arrive, Nat.not_lt.mpr hshort, hget]

theorem get?_set (h : d.Opens p l) (e : Entry) : (d.set l e).get? l = some e := by
  rw [Disk.get?_set l e h.ne_nil, if_pos rfl]

end Opens

/-! ## Replacing -/

/-- A file is replaced by a sibling that could be written, at a place that could be. -/
theorem replaceFile_eq_ok (h : replaceFile path content d = (.ok (), d')) :
    ∃ d₁ l l', Grown (Above · path) d d₁ ∧ d₁.Opens (tempPath path) l ∧
      (d₁.set l (.file content)).Opens path l' ∧
        d' = (d₁.set l (.file content)).move l l' content := by
  obtain ⟨r, d₁, hmake, hgrown, -⟩ := makeParent_cases path d
  unfold replaceFile at h
  rw [hmake] at h
  cases r with
  | error e => cases h
  | ok u =>
    dsimp only at h
    split at h
    · cases h
    · next d₂ hwrite =>
      obtain ⟨l, hopens, rfl⟩ := write_eq_ok hwrite
      split at h
      · next d₃ hrename =>
        cases h
        obtain ⟨l₂, l', content', hsite, hget, hopens', rfl⟩ := rename_eq_ok hrename
        rw [(hopens.keeps _).site hopens.site] at hsite
        cases hsite
        rw [hopens.get?_set] at hget
        cases hget
        exact ⟨d₁, l, l', hgrown, hopens, hopens', rfl⟩
      · cases h

/-- If a file is not replaced, the sibling could not be written or has been removed. -/
theorem replaceFile_eq_error {e : Failure} (h : replaceFile path content d = (.error e, d')) :
    ∃ d₁, Grown (Above · path) d d₁ ∧ (d' = d₁ ∧ d₁.isFile (tempPath path) = false ∨
      ∃ l, d₁.Opens (tempPath path) l ∧ d' = (d₁.set l (.file content)).erase l) := by
  obtain ⟨r, d₁, hmake, hgrown, hfails⟩ := makeParent_cases path d
  refine ⟨d₁, hgrown, ?_⟩
  unfold replaceFile at h
  rw [hmake] at h
  cases r with
  | error e' =>
    cases h
    -- a sibling would be in the directory that could not be made
    obtain ⟨q, hq, hne, hnot⟩ := hfails _ rfl
    refine .inl ⟨rfl, ?_⟩
    rw [← Bool.not_eq_true, isFile_iff]
    rintro ⟨l, old, hresolve⟩
    obtain ⟨base, name, hlocate, -⟩ := resolve_file_iff.mp hresolve
    exact hnot base (dir_of_locate_tempPath hlocate hq hne)
  | ok u =>
    dsimp only at h
    split at h
    · next hwrite =>
      cases h
      exact .inl ⟨rfl, not_isFile_of_write hwrite⟩
    · next d₂ hwrite =>
      obtain ⟨l, hopens, rfl⟩ := write_eq_ok hwrite
      split at h
      · cases h
      · -- what has just been written is where it was, and can be removed
        have hthere := hopens.resolve_of_file (hopens.keeps _) (hopens.get?_set (.file content))
        have hremove : (d₁.set l (.file content)).removeFile (tempPath path) =
            .ok ((d₁.set l (.file content)).erase l) := by
          rw [removeFile, hthere]
          rfl
        rw [hremove] at h
        cases h
        exact .inr ⟨l, hopens, rfl⟩

/-- If the file and its sibling can be written, the file is replaced. -/
theorem replaceFile_of_opens {t : Place} (h : d.Opens path l) (ht : d.Opens (tempPath path) t) :
    ∃ d', replaceFile path content d = (.ok (), d') := by
  obtain ⟨base, name, hlocate, hshort, rfl⟩ := ht.located
  have hmake : makeParent path d = (.ok (), d) := by
    unfold makeParent
    split
    · rfl
    · next q hq =>
      split
      · rfl
      · next hempty =>
        have hdir := dir_of_locate_tempPath hlocate hq (by simpa using hempty)
        rw [makeDirs_of_dir hdir]
  have hwrite : d.write (tempPath path) content = .ok (d.set (base ++ [name]) (.file content)) := by
    rw [write, openForWriting_eq_ok_iff.mpr ht]
    rfl
  have hkeeps := ht.keeps (.file content)
  have hopens : (d.set (base ++ [name]) (.file content)).Opens path l := by
    obtain ⟨base', name', hlocate', hshort', hl⟩ := h.located
    refine ⟨⟨base', name', hkeeps.locate hlocate', hshort', hl⟩, ?_⟩
    rw [get?_set_of_ne]
    · exact h.notDir
    · rintro rfl
      exact site_tempPath_ne h.site ht.site
  unfold replaceFile
  simp only [hmake, hwrite, rename_of_opens (hkeeps.locate hlocate) (ht.get?_set _) hopens]
  exact ⟨_, rfl⟩

/-- What may have become of a place: nothing, or a directory above the path has been made there, or
it is the place of the sibling, which is gone. -/
inductive Fate (path : String) (d d' : Disk) (m : Place) : Prop
  | same (h : d'.get? m = d.get? m)
  | made (h : Made (Above · path) d d' m)
  | sibling (hsite : d'.site (tempPath path) = some m) (hold : d.get? m ≠ some .dir)
      (hgone : d'.get? m = none)

theorem Grown.fate (h : Grown (Above · path) d d') (hkeeps : d'.Keeps d'')
    (hm : d''.get? m = d'.get? m) : Fate path d d'' m := by
  rcases h.entry m with heq | hmade
  · exact .same (hm.trans heq)
  · obtain ⟨q, hq, hresolve⟩ := hmade.path
    exact .made ⟨hmade.absent, hm.trans hmade.dir, q, hq, hkeeps.resolve_dir hresolve⟩

theorem Opens.fate (h : d'.Opens (tempPath path) l) (hgrown : Grown (Above · path) d d')
    (hkeeps : d'.Keeps d'') (hgone : d''.get? l = none) : Fate path d d'' l :=
  .sibling (hkeeps.site h.site) (fun hdir => h.notDir (hgrown.keeps.dir l hdir)) hgone

/-- The file holds the content, the sibling is gone, and nothing else has changed but
for directories above. -/
structure Replaced (path : String) (content : Content) (d d' : Disk) : Prop where
  target : ∃ l, d'.resolve path = .ok (l, .file content) ∧ ∀ m, m ≠ l → Fate path d d' m
  sibling : d'.resolve (tempPath path) = .error .notFound

/-- What the path led to is as it was, and nothing has changed but for directories above. If there
was nothing, there is nothing, unless the path goes through its own target. -/
structure LeftAlone (path : String) (d d' : Disk) : Prop where
  entry : ∀ m, Fate path d d' m
  target : ∀ l e, d.resolve path = .ok (l, e) → d'.resolve path = .ok (l, e)
  absent : ∀ l, d'.site path = some l → d.get? l = none →
    d'.get? l = none ∨ Made (Above · path) d d' l
  sibling : d'.isFile (tempPath path) = false

/-- The disk with the sibling renamed. The file that is held open goes with it. -/
structure Renamed (path : String) (content : Content) (l l' : Place) (d d' : Disk) : Prop where
  keeps : d.Keeps d'
  target : d'.resolve path = .ok (l', .file content)
  gone : d'.get? l = none
  held : d'.held = some l' ↔ d.held = some l
  other : ∀ m, m ≠ l → m ≠ l' → d'.get? m = d.get? m

/-- A sibling that has been written and then moved is what the path leads to. -/
theorem Renamed.ofMove {l' : Place} (hopens : d.Opens (tempPath path) l)
    (hopens' : (d.set l (.file content)).Opens path l') :
    Renamed path content l l' d ((d.set l (.file content)).move l l' content) := by
  have hset := hopens.get?_set (.file content)
  have hkeeps := hopens.keeps (.file content)
  have hmove : (d.set l (.file content)).Keeps ((d.set l (.file content)).move l l' content) :=
    .move (by simp [hset]) hopens'.notDir content
  have hne : l ≠ l' := by
    rintro rfl
    exact site_tempPath_ne hopens'.site (hkeeps.site hopens.site)
  refine ⟨hkeeps.trans hmove, hopens'.resolve_of_file hmove ?_, ?_, ?_, fun m hl hl' => ?_⟩
  · rw [get?_move l l' content hopens'.ne_nil, if_pos rfl]
  · rw [get?_move l l' content hopens.ne_nil, if_neg hne, if_pos rfl]
  · rw [held_move, show (d.set l (.file content)).held = d.held from rfl]
    by_cases hl : d.held = some l
    · rw [if_pos hl, hl]
      exact ⟨fun _ => rfl, fun _ => rfl⟩
    · rw [if_neg hl]
      by_cases hl' : d.held = some l'
      · simp [hl', hne.symm]
      · simp [hl, hl']
  · rw [get?_move_of_ne hl hl', get?_set_of_ne hl]

theorem Replaced.ofReplaceFile (h : replaceFile path content d = (.ok (), d')) :
    Replaced path content d d' := by
  obtain ⟨d₁, l, l', hgrown, hopens, hopens', rfl⟩ := replaceFile_eq_ok h
  have hrenamed := Renamed.ofMove hopens hopens'
  refine ⟨⟨l', hrenamed.target, fun m hm => ?_⟩,
    hopens.resolve_of_absent hrenamed.keeps hrenamed.gone⟩
  by_cases hl : m = l
  · rw [hl]
    exact hopens.fate hgrown hrenamed.keeps hrenamed.gone
  · exact hgrown.fate hrenamed.keeps (hrenamed.other m hl hm)

/-- The sibling is not what the path leads to, so it makes no difference to that what
becomes of it. -/
theorem LeftAlone.ofFate (hkeeps : d.Keeps d') (hsibling : d'.isFile (tempPath path) = false)
    (hentry : ∀ m, Fate path d d' m) : LeftAlone path d d' := by
  refine ⟨hentry, fun l e hresolve => ?_, fun l hsite hnone => ?_, hsibling⟩
  · cases e with
    | dir => exact hkeeps.resolve_dir hresolve
    | file content =>
      obtain ⟨base, name, hlocate, hshort, hl, hget⟩ := resolve_file_iff.mp hresolve
      refine resolve_file_iff.mpr ⟨base, name, hkeeps.locate hlocate, hshort, hl, ?_⟩
      cases hentry l with
      | same h => rw [h, hget]
      | made h => exact nomatch h.absent.symm.trans hget
      | sibling h =>
        have hsite : d.site path = some l := site_eq_some_iff.mpr ⟨base, name, false, hlocate, hl⟩
        exact (site_tempPath_ne (hkeeps.site hsite) h).elim
  · cases hentry l with
    | same h => exact .inl (h.trans hnone)
    | made h => exact .inr h
    | sibling h => exact (site_tempPath_ne hsite h).elim

theorem LeftAlone.ofReplaceFile {e : Failure} (h : replaceFile path content d = (.error e, d')) :
    LeftAlone path d d' := by
  obtain ⟨d₁, hgrown, ⟨rfl, hnot⟩ | ⟨l, hopens, rfl⟩⟩ := replaceFile_eq_error h
  · exact .ofFate hgrown.keeps hnot fun m => hgrown.fate (.refl _) rfl
  · have hset := hopens.get?_set (.file content)
    have hkeeps := (hopens.keeps (.file content)).trans (.erase (l := l) (by simp [hset]))
    have hgone : ((d₁.set l (.file content)).erase l).get? l = none := by
      rw [get?_erase l hopens.ne_nil, if_pos rfl]
    refine .ofFate (hgrown.keeps.trans hkeeps) ?_ fun m => ?_
    · rw [isFile, hopens.resolve_of_absent hkeeps hgone]
    · by_cases hl : m = l
      · rw [hl]
        exact hopens.fate hgrown hkeeps hgone
      · exact hgrown.fate hkeeps (by rw [get?_erase_of_ne hl, get?_set_of_ne hl])

/-- A file is replaced as a whole or left alone, on every disk. It is replaced if it and the sibling
can be written. -/
theorem replaceFile_replaced_or_left (path : String) (content : Content) (d : Disk) :
    (∀ l t, d.Opens path l → d.Opens (tempPath path) t →
      ∃ d', replaceFile path content d = (.ok (), d')) ∧
    (∀ d', replaceFile path content d = (.ok (), d') → Replaced path content d d') ∧
    (∀ e d', replaceFile path content d = (.error e, d') → LeftAlone path d d') ∧
    tempPath path ≠ path ∧ (∀ l, d.site path = some l → d.site (tempPath path) ≠ some l) ∧
    ∀ name, Path.fileName? path = some name → Path.parent? (tempPath path) = Path.parent? path :=
  ⟨fun _ _ => replaceFile_of_opens, fun _ => .ofReplaceFile, fun _ _ => .ofReplaceFile,
    tempPath_ne path, fun _ => site_tempPath_ne, fun _ => parent?_tempPath⟩

/-- A working directory with a file, a sibling left from before and a directory. -/
def shelf : Disk :=
  { cwd := ["w"]
    entries := [(["w"], .dir), (["w", "a.csv"], .file (.text "one\ntwo")),
      (["w", "a.csv.tmp"], .file (.bytes [255])), (["w", "b"], .dir)] }

/-- Over a file, into directories still to be made, onto a directory, and below a file. -/
theorem replaceFile_replaced_or_left_shelf :
    (∃ d', replaceFile "a.csv" (.text "three") shelf = (.ok (), d')) ∧
    Replaced "a.csv" (.text "three") shelf (replaceFile "a.csv" (.text "three") shelf).2 ∧
    Replaced "c/./d/e.csv" (.text "") shelf (replaceFile "c/./d/e.csv" (.text "") shelf).2 ∧
    LeftAlone "b" shelf (replaceFile "b" (.text "three") shelf).2 ∧
    LeftAlone "a.csv/f" shelf (replaceFile "a.csv/f" (.text "three") shelf).2 :=
  ⟨(replaceFile_replaced_or_left "a.csv" (.text "three") shelf).1 ["w", "a.csv"] ["w", "a.csv.tmp"]
      ⟨⟨["w"], "a.csv", rfl, by decide, rfl⟩, by decide⟩
        ⟨⟨["w"], "a.csv.tmp", rfl, by decide, rfl⟩, by decide⟩,
    (replaceFile_replaced_or_left "a.csv" (.text "three") shelf).2.1 _ (Prod.ext rfl rfl),
    (replaceFile_replaced_or_left "c/./d/e.csv" (.text "") shelf).2.1 _ (Prod.ext rfl rfl),
    (replaceFile_replaced_or_left "b" (.text "three") shelf).2.2.1
      (.during "rename onto b" (.os .isDirectory)) _ (Prod.ext rfl rfl),
    (replaceFile_replaced_or_left "a.csv/f" (.text "three") shelf).2.2.1
      (.during "create a.csv" (.os .alreadyExists)) _ (Prod.ext rfl rfl)⟩

/-- A path that goes through its own target makes it a directory, and then cannot replace it. -/
theorem absent_target_made :
    ∃ e d', replaceFile "x/../x" (.text "t") { cwd := [] } = (.error e, d') ∧
      d'.site "x/../x" = some ["x"] ∧ get? { cwd := [] } ["x"] = none ∧ d'.get? ["x"] = some .dir :=
  ⟨_, _, rfl, rfl, rfl, rfl⟩

end CatalogCrawl.Disk
