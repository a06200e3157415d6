import CatalogCrawl.Pacer

/-! # What every unit keeps, a run keeps

The state of a run is followed through a relation `R` between an earlier and a later state. A unit
is launched in some state that `R` reaches from the start, and if it waits it is ended in a state
that other units have changed in the meantime, so what is asked of it is asked in every state that
`R` reaches from its launch. Then the relation holds between the start and the end of the run, and
unless the run was stopped every unit has brought about what it is for (`runUntil_keeps`), whatever
the delays, the size of the batches and their window. -/

namespace CatalogCrawl.Pacer

variable {σ : Type} {R : σ → σ → Prop}

/-- A relation along which a run can be followed. -/
structure Flow [Logged σ] (R : σ → σ → Prop) : Prop where
  refl : ∀ s, R s s
  trans : ∀ {s₁ s₂ s₃}, R s₁ s₂ → R s₂ s₃ → R s₁ s₃
  note : ∀ r s, R s (Logged.note r s)

theorem Flow.noteAll [Logged σ] (hR : Flow R) (rs : List Log.Record) (s : σ) :
    R s (Logged.noteAll rs s) := by
  induction rs generalizing s with
  | nil => exact hR.refl s
  | cons r rs ih => exact hR.trans (hR.note r s) (ih _)

/-- What is left of a unit stays within `R` and brings `Q` about, in whatever state it is ended. -/
def Ready (R : σ → σ → Prop) (Q : σ → Prop) (s : σ) (finish : Nat → σ → σ × Option String) : Prop :=
  ∀ s', R s s' → ∀ now, R s' (finish now s').1 ∧ Q (finish now s').1

/-- In a run from `s₀` on, the unit stays within `R` and has brought `Q` about when it has ended. -/
def Keeps (R : σ → σ → Prop) (Q : σ → Prop) (s₀ : σ) (u : Work σ) : Prop :=
  ∀ now s, R s₀ s → R s (u now s).1 ∧ Ready R Q (u now s).1 (u now s).2.finish

theorem Ready.mono {Q Q' : σ → Prop} {s : σ} {finish : Nat → σ → σ × Option String}
    (h : Ready R Q s finish) (hQ : ∀ s, Q s → Q' s) : Ready R Q' s finish :=
  fun s' hs now => ⟨(h s' hs now).1, hQ _ (h s' hs now).2⟩

theorem insertDue_perm (w : Waiting σ) (ws : List (Waiting σ)) :
    (insertDue w ws).Perm (w :: ws) := by
  induction ws with
  | nil => exact .refl _
  | cons x xs ih =>
    unfold insertDue
    split
    · exact .refl _
    · exact (ih.cons x).trans (.swap w x xs)

theorem foldl_insertDue_perm (ws acc : List (Waiting σ)) :
    (ws.foldl (fun acc w => insertDue w acc) acc).Perm (ws ++ acc) := by
  induction ws generalizing acc with
  | nil => exact .refl acc
  | cons w ws ih =>
    have hfirst : (ws ++ insertDue w acc).Perm (ws ++ w :: acc) :=
      (insertDue_perm w acc).append_left ws
    exact (ih (insertDue w acc)).trans (hfirst.trans List.perm_middle)

theorem sortDue_perm (ws : List (Waiting σ)) : (sortDue ws).Perm ws := by
  simpa [sortDue] using foldl_insertDue_perm ws []

@[simp] theorem mem_sortDue {x : Waiting σ} {ws : List (Waiting σ)} : x ∈ sortDue ws ↔ x ∈ ws :=
  (sortDue_perm ws).mem_iff

@[simp] theorem flatten_chunks {α : Type} (size : Nat) (xs : List α) :
    (chunks size xs).flatten = xs := by
  fun_induction chunks size xs with
  | case1 => rfl
  | case2 x xs ih => simp [ih]

section
variable [Logged σ] {Q : Work σ → σ → Prop} {s₀ : σ}

theorem Ready.later {Q : σ → Prop} {s s' : σ} {finish : Nat → σ → σ × Option String} (hR : Flow R)
    (h : Ready R Q s finish) (hs : R s s') : Ready R Q s' finish :=
  fun _ hs' now => h _ (hR.trans hs hs') now

/-! ## Launching and ending -/

/-- A launched unit has ended with its `Q`, or is among those that wait. -/
theorem Progress.launch_keeps (hR : Flow R) {u : Work σ} (hu : Keeps R (Q u) s₀ u) {p : Progress σ}
    (hp : R s₀ p.state) (unit : Nat) :
    R p.state (p.launch unit u).1.state ∧
      (Q u (p.launch unit u).1.state ∧ (p.launch unit u).2 = none ∨
        ∃ w, (p.launch unit u).2 = some w ∧ Ready R (Q u) (p.launch unit u).1.state w.finish) := by
  obtain ⟨hlaunch, hready⟩ := hu p.now p.state hp
  unfold Progress.launch
  dsimp only
  split
  · obtain ⟨hend, hQ⟩ := hready _ (hR.refl _) p.now
    exact ⟨hR.trans hlaunch hend, .inl ⟨hQ, rfl⟩⟩
  · exact ⟨hlaunch, .inr ⟨_, rfl, hready⟩⟩

/-- A batch that is launched keeps what its units keep. Each unit has then done its work, or waits
and is ready to do it. -/
theorem launchAll_keeps (hR : Flow R) (hQ : ∀ u {s s'}, Q u s → R s s' → Q u s')
    (batch : List (Work σ × Nat)) (hb : ∀ b ∈ batch, Keeps R (Q b.1) s₀ b.1) {p : Progress σ}
    (hp : R s₀ p.state) :
    R p.state (launchAll batch p).1.state ∧
      (∀ w ∈ (launchAll batch p).2, Ready R (fun _ => True) (launchAll batch p).1.state w.finish) ∧
      ∀ b ∈ batch, Q b.1 (launchAll batch p).1.state ∨
        ∃ w ∈ (launchAll batch p).2, Ready R (Q b.1) (launchAll batch p).1.state w.finish := by
  induction batch generalizing p with
  | nil => exact ⟨hR.refl _, by simp [launchAll], by simp⟩
  | cons b rest ih =>
    obtain ⟨u, unit⟩ := b
    obtain ⟨hfirst, hcase⟩ := Progress.launch_keeps hR (hb _ List.mem_cons_self) hp unit
    obtain ⟨hrest, hwait, hdone⟩ :=
      ih (fun b hb' => hb b (List.mem_cons_of_mem _ hb')) (hR.trans hp hfirst)
    simp only [launchAll]
    refine ⟨hR.trans hfirst hrest, fun w hw => ?_, fun b hb' => ?_⟩
    · rcases List.mem_append.mp hw with hw | hw
      · rcases hcase with ⟨_, hnone⟩ | ⟨w', hsome, hready⟩
        · simp [hnone] at hw
        · have hww : w = w' := by simpa [hsome, eq_comm] using hw
          exact hww ▸ (hready.later hR hrest).mono fun _ _ => trivial
      · exact hwait w hw
    · rcases List.mem_cons.mp hb' with rfl | hb'
      · rcases hcase with ⟨hdone, _⟩ | ⟨w, hsome, hready⟩
        · exact .inl (hQ _ hdone hrest)
        · exact .inr ⟨w, List.mem_append_left _ (by simp [hsome]), hready.later hR hrest⟩
      · rcases hdone b hb' with h | ⟨w, hw, hready⟩
        · exact .inl h
        · exact .inr ⟨w, List.mem_append_right _ hw, hready⟩

/-- When all that wait have ended, what one of them was to bring about holds. -/
theorem finishAll_keeps (hR : Flow R) (ws : List (Waiting σ)) (p : Progress σ)
    (hw : ∀ w ∈ ws, Ready R (fun _ => True) p.state w.finish) :
    R p.state (finishAll ws p).state ∧
      ∀ P : σ → Prop, (∀ {s s'}, P s → R s s' → P s') →
        (P p.state ∨ ∃ w ∈ ws, Ready R P p.state w.finish) → P (finishAll ws p).state := by
  induction ws generalizing p with
  | nil => exact ⟨hR.refl _, fun P _ h => h.elim id fun ⟨w, hw, _⟩ => (List.not_mem_nil hw).elim⟩
  | cons w ws ih =>
    have hfirst := (hw w List.mem_cons_self _ (hR.refl _) w.due).1
    obtain ⟨hrest, hP⟩ := ih ({ p with now := w.due }.finish w.unit w.finish)
      fun x hx => (hw x (List.mem_cons_of_mem _ hx)).later hR hfirst
    refine ⟨hR.trans hfirst hrest, fun P hstable h => hP P hstable ?_⟩
    rcases h with h | ⟨x, hx, hready⟩
    · exact .inl (hstable h hfirst)
    · rcases List.mem_cons.mp hx with rfl | hx
      · exact .inl (hready _ (hR.refl _) x.due).2
      · exact .inr ⟨x, hx, hready.later hR hfirst⟩

/-! ## Batches -/

theorem Progress.settle_keeps (hR : Flow R) (p : Progress σ) (failure : Option String) :
    R p.state (p.settle failure).state := by
  cases failure with
  | none => exact hR.refl _
  | some text => exact hR.note _ _

theorem foldl_settle_keeps (hR : Flow R) {α : Type} (failure : α → Option String) (xs : List α)
    (p : Progress σ) : R p.state (xs.foldl (fun q x => q.settle (failure x)) p).state := by
  induction xs generalizing p with
  | nil => exact hR.refl _
  | cons x xs ih => exact hR.trans (p.settle_keeps hR _) (ih _)

/-- A batch keeps what its units keep, and all of them have done their work in the end. -/
theorem runBatch_keeps (hR : Flow R) (hQ : ∀ u {s s'}, Q u s → R s s' → Q u s')
    (batch : List (Work σ × Nat)) (hb : ∀ b ∈ batch, Keeps R (Q b.1) s₀ b.1) {p : Progress σ}
    (hp : R s₀ p.state) :
    R p.state (runBatch batch p).state ∧ ∀ b ∈ batch, Q b.1 (runBatch batch p).state := by
  let start := { p with report := { p.report with batches := p.report.batches + 1 } }
  let launched := launchAll batch start
  let ended := finishAll (sortDue launched.2) launched.1
  obtain ⟨hlaunch, hwait, hdone⟩ := launchAll_keeps (p := start) hR hQ batch hb hp
  obtain ⟨hend, hP⟩ := finishAll_keeps hR (sortDue launched.2) launched.1
    fun w hw => hwait w (mem_sortDue.mp hw)
  have hsettle : R ended.state (runBatch batch p).state :=
    foldl_settle_keeps hR (fun b : Work σ × Nat => failureOf b.2 ended.events) batch ended
  refine ⟨hR.trans hlaunch (hR.trans hend hsettle),
    fun b hb' => hQ _ (hP (Q b.1) (hQ _) ?_) hsettle⟩
  exact (hdone b hb').imp_right fun ⟨w, hw, hready⟩ => ⟨w, mem_sortDue.mpr hw, hready⟩

/-- So do all batches, unless the stop condition held on the way. -/
theorem runBatches_keeps (hR : Flow R) (hQ : ∀ u {s s'}, Q u s → R s s' → Q u s') (window : Nat)
    (stop : σ → Bool) (batches : List (List (Work σ × Nat)))
    (hb : ∀ batch ∈ batches, ∀ b ∈ batch, Keeps R (Q b.1) s₀ b.1) (last : Option Nat)
    {p : Progress σ} (hp : R s₀ p.state) :
    R p.state (runBatches window stop batches last p).state ∧
      ((∀ batch ∈ batches, ∀ b ∈ batch, Q b.1 (runBatches window stop batches last p).state) ∨
        ∃ s, R s₀ s ∧ stop s = true ∧ R s (runBatches window stop batches last p).state) := by
  induction batches generalizing last p with
  | nil => exact ⟨hR.refl _, .inl (by simp)⟩
  | cons batch rest ih =>
    simp only [runBatches]
    split
    · next halt => exact ⟨hR.note _ _, .inr ⟨_, hp, halt, hR.note _ _⟩⟩
    · let start := { p with
        events := p.events ++ [Event.check (stop p.state)]
        now := nextStart window last p.now }
      obtain ⟨hfirst, hdone⟩ := runBatch_keeps (p := start) hR hQ batch (hb _ List.mem_cons_self) hp
      obtain ⟨hrest, hall⟩ :=
        ih (fun batch h => hb batch (List.mem_cons_of_mem _ h)) (some start.now)
          (hR.trans hp hfirst)
      refine ⟨hR.trans hfirst hrest, hall.imp_left fun hall batch' h b hb' => ?_⟩
      rcases List.mem_cons.mp h with rfl | h
      · exact hQ _ (hdone b hb') hrest
      · exact hall batch' h b hb'

/-- **What every unit keeps, a run keeps.** The relation holds between the start and the end, and
each unit has brought about its `Q`, if no state in which the run was stopped came before. -/
theorem runUntil_keeps {α : Type} {Q : α → σ → Prop} (hR : Flow R)
    (hQ : ∀ x {s s'}, Q x s → R s s' → Q x s') (size window : Nat) (stop : σ → Bool) (xs : List α)
    (unit : α → Work σ) (s : σ) (hu : ∀ x ∈ xs, Keeps R (Q x) s (unit x)) (now : Nat) :
    R s (runUntil size window stop (xs.map unit) now s).state ∧
      ((∀ x ∈ xs, Q x (runUntil size window stop (xs.map unit) now s).state) ∨
        ∃ s', R s s' ∧ stop s' = true ∧
          R s' (runUntil size window stop (xs.map unit) now s).state) := by
  -- two places of the queue may hold one unit, which then answers for both
  let Q' : Work σ → σ → Prop := fun u s => ∀ x ∈ xs, unit x = u → Q x s
  have hunit : ∀ b ∈ (xs.map unit).zipIdx, Keeps R (Q' b.1) s b.1 := by
    rintro ⟨u, i⟩ hb now s₁ hs₁
    obtain ⟨x, hx, rfl⟩ := List.mem_map.mp (List.fst_mem_of_mem_zipIdx hb)
    obtain ⟨hlaunch, hready⟩ := hu x hx now s₁ hs₁
    refine ⟨hlaunch, fun s₂ hs₂ t => ⟨(hready s₂ hs₂ t).1, fun y hy hyx => ?_⟩⟩
    rw [← hyx] at hs₂ ⊢
    exact ((hu y hy now s₁ hs₁).2 s₂ hs₂ t).2
  obtain ⟨hrun, hcase⟩ := runBatches_keeps (Q := Q') hR
    (fun u _ _ h hs x hx hxu => hQ x (h x hx hxu) hs) window stop (chunks size (xs.map unit).zipIdx)
    (fun batch hbatch b hb => hunit b (by
      rw [← flatten_chunks size (xs.map unit).zipIdx]
      exact List.mem_flatten.mpr ⟨batch, hbatch, hb⟩)) none (p := { state := s, now }) (hR.refl s)
  refine ⟨hrun, hcase.imp_left fun hall x hx => ?_⟩
  obtain ⟨i, hi, rfl⟩ := List.mem_iff_getElem.mp hx
  have hplace : (unit xs[i], i) ∈ (chunks size (xs.map unit).zipIdx).flatten := by
    rw [flatten_chunks, List.mk_mem_zipIdx_iff_getElem?]
    simp [hi]
  obtain ⟨batch, hbatch, hb⟩ := List.mem_flatten.mp hplace
  exact hall batch hbatch _ hb _ hx rfl

end

end CatalogCrawl.Pacer
