import CatalogCrawl.Disk.Replace

/-! # Disks that differ in the file held open

The file that is held open, such as a log, is the only one that a crawl writes to all the time. What
it holds makes no difference to anything else: on disks that are alike but for it, every operation
has the same outcome and leaves disks that are alike again (`Disk.Alike`). -/

namespace CatalogCrawl.Disk

variable {d d' : Disk}

/-! ## What is at a place -/

theorem find?_erase (l m : Place) (es : List (Place × Entry)) :
    ((es.filter (·.1 ≠ l)).find? (·.1 = m)).map (·.2) =
      if m = l then none else (es.find? (·.1 = m)).map (·.2) := by
  rw [List.find?_filter]
  split
  · next heq => simp [heq]
  · next hne =>
    congr 2
    funext x
    by_cases hx : x.1 = m <;> simp [hx, hne]

theorem get?_set (l : Place) (e : Entry) {m : Place} (hm : m ≠ []) :
    (d.set l e).get? m = if m = l then some e else d.get? m := by
  simp only [get?, set, List.isEmpty_eq_false_iff.mpr hm, Keyed.find?_put]
  by_cases hl : m = l
  · simp [hl]
  · simp [hl, Ne.symm hl]

theorem get?_erase (l : Place) {m : Place} (hm : m ≠ []) :
    (d.erase l).get? m = if m = l then none else d.get? m := by
  simp only [get?, erase, List.isEmpty_eq_false_iff.mpr hm]
  exact find?_erase l m d.entries

/-- A move puts the content at the new place and nothing at the old one. -/
theorem get?_move (l l' : Place) (content : Content) {m : Place} (hm : m ≠ []) :
    (d.move l l' content).get? m =
      if m = l' then some (.file content) else if m = l then none else d.get? m := by
  have hset :
      (d.move l l' content).get? m = (((d.erase l).erase l').set l' (.file content)).get? m := rfl
  rw [hset, get?_set _ _ hm, get?_erase _ hm, get?_erase _ hm]
  split <;> simp_all

/-- The file held open is followed to its new place, and let go if another file takes its place. -/
theorem held_move (l l' : Place) (content : Content) :
    (d.move l l' content).held =
      if d.held = some l then some l' else if d.held = some l' then none else d.held := by
  unfold move erase set
  dsimp only
  split
  · rfl
  · rfl

/-! ## Alike -/

/-- The same disk but for what the file held open holds. -/
structure Alike (d d' : Disk) : Prop where
  cwd : d'.cwd = d.cwd
  held : d'.held = d.held
  entry : ∀ l, d'.get? l = d.get? l ∨
    d.held = some l ∧ ∃ content content', d.get? l = some (.file content) ∧
      d'.get? l = some (.file content')

namespace Alike

theorem refl (d : Disk) : d.Alike d := ⟨rfl, rfl, fun _ => .inl rfl⟩

theorem symm (h : d.Alike d') : d'.Alike d where
  cwd := h.cwd.symm
  held := h.held.symm
  entry l := by
    rcases h.entry l with heq | ⟨hheld, content, content', hget, hget'⟩
    · exact .inl heq.symm
    · exact .inr ⟨h.held.trans hheld, content', content, hget', hget⟩

/-- A file is there in both, with the same content unless it is the one held open. -/
theorem file (h : d.Alike d') {l : Place} {content : Content}
    (hl : d.get? l = some (.file content)) :
    ∃ content', d'.get? l = some (.file content') ∧ (content' = content ∨ d.held = some l) := by
  rcases h.entry l with heq | ⟨hheld, -, content', -, hget'⟩
  · exact ⟨content, heq.trans hl, .inl rfl⟩
  · exact ⟨content', hget', .inr hheld⟩

theorem get?_of_not_file (h : d.Alike d') {l : Place}
    (hl : ∀ content, d.get? l ≠ some (.file content)) : d'.get? l = d.get? l := by
  rcases h.entry l with heq | ⟨-, content, -, hget, -⟩
  · exact heq
  · exact (hl content hget).elim

/-! ## Paths -/

theorem enter (h : d.Alike d') (base : Place) (name : String) :
    d'.enter base name = d.enter base name := by
  unfold Disk.enter
  rcases h.entry (base ++ [name]) with heq | ⟨-, content, content', hget, hget'⟩
  · rw [heq]
  · rw [hget, hget']

theorem locate (h : d.Alike d') (p : String) : d'.locate p = d.locate p := by
  have henter : d'.enter = d.enter := funext fun base => funext (h.enter base)
  simp only [Disk.locate, h.cwd, henter]

/-- A path leads to the same place, with the same entry unless it is the file held open. -/
theorem resolve (h : d.Alike d') (p : String) :
    d'.resolve p = d.resolve p ∨ ∃ l content content', d.resolve p = .ok (l, .file content) ∧
      d'.resolve p = .ok (l, .file content') := by
  unfold Disk.resolve
  rw [h.locate]
  cases d.locate p with
  | error e => exact .inl rfl
  | ok x =>
    obtain ⟨base, last⟩ := x
    cases last with
    | root => exact .inl rfl
    | dots name => exact .inl (by simp only [bind, Except.bind, h.enter])
    | name name slash =>
      simp only [bind, Except.bind]
      split
      · exact .inl rfl
      · rcases h.entry (base ++ [name]) with heq | ⟨-, content, content', hget, hget'⟩
        · rw [heq]
          exact .inl rfl
        · rw [hget, hget']
          dsimp only
          split
          · exact .inl rfl
          · exact .inr ⟨_, content, content', rfl, rfl⟩

theorem isDir (h : d.Alike d') (p : String) : d'.isDir p = d.isDir p := by
  unfold Disk.isDir
  rcases h.resolve p with heq | ⟨l, content, content', hres, hres'⟩
  · rw [heq]
  · rw [hres, hres']

theorem openForWriting (h : d.Alike d') (p : String) :
    d'.openForWriting p = d.openForWriting p := by
  unfold Disk.openForWriting
  rw [h.locate]
  cases d.locate p with
  | error e => rfl
  | ok x =>
    obtain ⟨base, last⟩ := x
    cases last with
    | root | dots => rfl
    | name name slash =>
      simp only [bind, Except.bind]
      rcases h.entry (base ++ [name]) with heq | ⟨-, content, content', hget, hget'⟩
      · rw [heq]
      · rw [hget, hget']

/-! ## Changes -/

theorem set (h : d.Alike d') (l : Place) (e : Entry) : (d.set l e).Alike (d'.set l e) where
  cwd := h.cwd
  held := h.held
  entry m := by
    by_cases hm : m = []
    · subst hm
      exact .inl rfl
    · rw [get?_set l e hm, get?_set l e hm]
      split
      · exact .inl rfl
      · exact h.entry m

theorem erase (h : d.Alike d') (l : Place) : (d.erase l).Alike (d'.erase l) where
  cwd := h.cwd
  held := by simp only [Disk.erase, h.held]
  entry m := by
    by_cases hm : m = []
    · subst hm
      exact .inl rfl
    · rw [get?_erase l hm, get?_erase l hm]
      split
      · exact .inl rfl
      · next hne =>
        refine (h.entry m).imp_right fun ⟨hheld, hfiles⟩ => ⟨?_, hfiles⟩
        simp only [Disk.erase, hheld]
        exact if_neg fun heq => hne (Option.some.inj heq)

theorem move (h : d.Alike d') {l : Place} (l' : Place) {content content' : Content}
    (hcontent : content' = content ∨ d.held = some l) :
    (d.move l l' content).Alike (d'.move l l' content') where
  cwd := h.cwd
  held := by rw [held_move, held_move, h.held]
  entry m := by
    by_cases hm : m = []
    · subst hm
      exact .inl rfl
    · rw [get?_move l l' content hm, get?_move l l' content' hm, held_move]
      by_cases hl' : m = l'
      · rw [if_pos hl', if_pos hl']
        rcases hcontent with rfl | hheld
        · exact .inl rfl
        · exact .inr ⟨by rw [if_pos hheld, hl'], content, content', rfl, rfl⟩
      · rw [if_neg hl', if_neg hl']
        by_cases hl : m = l
        · rw [if_pos hl, if_pos hl]
          exact .inl rfl
        · rw [if_neg hl, if_neg hl]
          refine (h.entry m).imp_right fun ⟨hheld, hfiles⟩ => ⟨?_, hfiles⟩
          rw [hheld, if_neg (fun heq => hl (Option.some.inj heq)),
            if_neg (fun heq => hl' (Option.some.inj heq))]

theorem appendHeld_left (h : d.Alike d') (s : String) : (d.appendHeld s).Alike d' := by
  have happended {l : Place} (hheld : d.held = some l) {content : Content}
      (hl : d.get? l = some (.file content)) (new : Content) : (d.set l (.file new)).Alike d' := by
    refine ⟨h.cwd, h.held, fun m => ?_⟩
    by_cases hm : m = []
    · subst hm
      exact .inl rfl
    · rw [get?_set l _ hm]
      split
      · next heq =>
        obtain ⟨content', hget', -⟩ := h.file hl
        exact .inr ⟨heq ▸ hheld, new, content', rfl, heq ▸ hget'⟩
      · exact h.entry m
  unfold appendHeld append
  split
  · next l hheld =>
    split
    · next hl => exact happended hheld hl _
    · next hl => exact happended hheld hl _
    · exact h
  · exact h

theorem appendHeld_right (h : d.Alike d') (s : String) : d.Alike (d'.appendHeld s) :=
  (h.symm.appendHeld_left s).symm

end Alike

/-! ## Operations -/

/-- An operation that fails in the same way on both disks, or leaves them alike. -/
inductive Agree : Except OsError Disk → Except OsError Disk → Prop
  | error (e : OsError) : Agree (.error e) (.error e)
  | ok {d d' : Disk} (h : d.Alike d') : Agree (.ok d) (.ok d')

namespace Alike

theorem makeDir (h : d.Alike d') (p : String) : Agree (d.makeDir p) (d'.makeDir p) := by
  unfold Disk.makeDir
  rw [h.locate]
  cases d.locate p with
  | error e => exact .error e
  | ok x =>
    obtain ⟨base, last⟩ := x
    cases last with
    | root | dots => exact .error _
    | name name slash =>
      simp only [bind, Except.bind]
      split
      · exact .error _
      · cases hget : d.get? (base ++ [name]) with
        | none =>
          rw [h.get?_of_not_file (by simp [hget]), hget]
          exact .ok (h.set _ _)
        | some e =>
          rcases h.entry (base ++ [name]) with heq | ⟨-, _, content', -, hget'⟩
          · rw [heq, hget]
            exact .error _
          · rw [hget']
            exact .error _

/-- Directories are made alike, or fail alike. -/
theorem makeDirsAux (h : d.Alike d') (ps : List String) :
    (Disk.makeDirsAux ps d').1 = (Disk.makeDirsAux ps d).1 ∧
      (Disk.makeDirsAux ps d).2.Alike (Disk.makeDirsAux ps d').2 := by
  induction ps with
  | nil => exact ⟨rfl, h⟩
  | cons p rest ih =>
    unfold Disk.makeDirsAux
    have hmake := h.makeDir p
    generalize d.makeDir p = r, d'.makeDir p = r' at hmake
    cases hmake with
    | ok hmade => exact ⟨rfl, hmade⟩
    | error e =>
      cases e with
      | alreadyExists =>
        dsimp only
        rw [h.isDir]
        split <;> exact ⟨rfl, h⟩
      | notFound =>
        dsimp only
        obtain ⟨hrest, habove⟩ := ih
        generalize Disk.makeDirsAux rest d = r, Disk.makeDirsAux rest d' = r' at hrest habove
        obtain ⟨_ | _, d₁⟩ := r <;> obtain ⟨_, d₁'⟩ := r' <;> cases hrest
        · exact ⟨rfl, habove⟩
        · dsimp only at habove ⊢
          have hagain := habove.makeDir p
          generalize d₁.makeDir p = r, d₁'.makeDir p = r' at hagain
          cases hagain with
          | ok hmade => exact ⟨rfl, hmade⟩
          | error e =>
            cases e with
            | alreadyExists =>
              dsimp only
              rw [habove.isDir]
              split <;> exact ⟨rfl, habove⟩
            | _ => exact ⟨rfl, habove⟩
      | _ => exact ⟨rfl, h⟩

theorem write (h : d.Alike d') (p : String) (content : Content) :
    Agree (d.write p content) (d'.write p content) := by
  unfold Disk.write
  rw [h.openForWriting]
  cases d.openForWriting p with
  | error e => exact .error e
  | ok l => exact .ok (h.set l _)

theorem rename (h : d.Alike d') (source target : String) :
    Agree (d.rename source target) (d'.rename source target) := by
  unfold Disk.rename
  rw [h.locate, h.locate]
  cases d.locate source with
  | error e => exact .error e
  | ok x =>
    cases d.locate target with
    | error e => exact .error e
    | ok y =>
      obtain ⟨base, last⟩ := x
      obtain ⟨base', last'⟩ := y
      simp only [bind, Except.bind]
      split
      · next name slash name' slash' =>
        have htarget :
            d'.get? (base' ++ [name']) = some .dir ↔ d.get? (base' ++ [name']) = some .dir := by
          rcases h.entry (base' ++ [name']) with heq | ⟨-, content, content', hget, hget'⟩
          · rw [heq]
          · simp [hget, hget']
        cases hget : d.get? (base ++ [name]) with
        | none =>
          rw [h.get?_of_not_file (by simp [hget]), hget]
          exact .error _
        | some e =>
          cases e with
          | dir =>
            rw [h.get?_of_not_file (by simp [hget]), hget]
            exact .error _
          | file content =>
            obtain ⟨content', hget', hcontent⟩ := h.file hget
            simp only [hget', htarget]
            split
            · exact .error _
            · split
              · exact .error _
              · split
                · exact .error _
                · exact .ok (h.move _ hcontent)
      · exact .error _

theorem removeFile (h : d.Alike d') (p : String) : Agree (d.removeFile p) (d'.removeFile p) := by
  unfold Disk.removeFile
  rcases h.resolve p with heq | ⟨l, content, content', hres, hres'⟩
  · rw [heq]
    rcases d.resolve p with e | ⟨l, _ | content⟩
    · exact .error e
    · exact .error _
    · exact .ok (h.erase l)
  · rw [hres, hres']
    exact .ok (h.erase l)

theorem makeParent (h : d.Alike d') (path : String) :
    (Disk.makeParent path d').1 = (Disk.makeParent path d).1 ∧
      (Disk.makeParent path d).2.Alike (Disk.makeParent path d').2 := by
  unfold Disk.makeParent
  split
  · exact ⟨rfl, h⟩
  · next parent _ =>
    split
    · exact ⟨rfl, h⟩
    · obtain ⟨hmade, halike⟩ := h.makeDirsAux (Path.ancestors parent)
      unfold makeDirs
      generalize Disk.makeDirsAux _ d = r, Disk.makeDirsAux _ d' = r' at hmade halike
      obtain ⟨_ | _, d₁⟩ := r <;> obtain ⟨_, d₁'⟩ := r' <;> cases hmade
      · exact ⟨rfl, halike⟩
      · exact ⟨rfl, halike⟩

/-- A file is replaced on both disks, or on neither. -/
theorem replaceText (h : d.Alike d') (path text : String) :
    (Disk.replaceText path text d').1 = (Disk.replaceText path text d).1 ∧
      (Disk.replaceText path text d).2.Alike (Disk.replaceText path text d').2 := by
  unfold Disk.replaceText Disk.replaceFile
  obtain ⟨hmade, halike⟩ := h.makeParent path
  generalize Disk.makeParent path d = r, Disk.makeParent path d' = r' at hmade halike
  obtain ⟨_ | _, d₁⟩ := r <;> obtain ⟨_, d₁'⟩ := r' <;> cases hmade
  · exact ⟨rfl, halike⟩
  · dsimp only at halike ⊢
    have hwrite := halike.write (tempPath path) (.text text)
    generalize d₁.write (tempPath path) _ = r, d₁'.write (tempPath path) _ = r' at hwrite
    cases hwrite with
    | error e => exact ⟨rfl, halike⟩
    | @ok d₂ d₂' hwritten =>
      dsimp only
      have hrename := hwritten.rename (tempPath path) path
      generalize d₂.rename (tempPath path) path = r, d₂'.rename (tempPath path) path = r' at hrename
      cases hrename with
      | ok hrenamed => exact ⟨rfl, hrenamed⟩
      | error e =>
        -- the sibling is left if it cannot be removed either
        refine ⟨rfl, ?_⟩
        dsimp only
        have hremove := hwritten.removeFile (tempPath path)
        generalize d₂.removeFile (tempPath path) = r, d₂'.removeFile (tempPath path) = r' at hremove
        cases hremove with
        | ok hremoved => exact hremoved
        | error _ => exact hwritten

end Alike

end CatalogCrawl.Disk
