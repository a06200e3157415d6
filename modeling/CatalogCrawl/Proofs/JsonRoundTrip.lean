import CatalogCrawl.Json.Printer
import CatalogCrawl.Json.Reader

/-! # Values read back from their text

The text of a value without doubles is read as that value again (`Json.read?_text`), as long as it
nests no deeper than the reader goes. A value is read at the head of a text, whatever comes after
it, so the proof follows the value: digits, characters between quotes, then items and fields one
after the other. The fields of an object are read in the order in which they stand, and setting them
one by one keeps that order. -/

namespace CatalogCrawl.Json

/-- Values without doubles that nest at most `n` deep. Whole numbers fit 64 bits, with or without a
sign, and the fields of an object are in the order of their keys. -/
inductive Exact : Nat → Json → Prop
  | null {n : Nat} : Exact n .null
  | bool {n : Nat} (b : Bool) : Exact n (.bool b)
  | int {n : Nat} {k : Int} (hmin : minSigned ≤ k) (hmax : k ≤ maxUnsigned) : Exact n (.int k)
  | str {n : Nat} (s : String) : Exact n (.str s)
  | arr {n : Nat} {vs : List Json} (hitems : ∀ v ∈ vs, Exact n v) : Exact (n + 1) (.arr vs)
  | obj {n : Nat} {fs : List (String × Json)} (hkeys : (fs.map (·.1)).Pairwise (· < ·))
      (hfields : ∀ f ∈ fs, Exact n f.2) : Exact (n + 1) (.obj fs)

/-- What may follow a number without being taken for a part of it. -/
def Ends (rest : List Char) : Prop :=
  ∀ c r, rest = c :: r → c.isDigit = false ∧ c ≠ '.' ∧ c ≠ 'e' ∧ c ≠ 'E'

theorem ends_nil : Ends [] := nofun

theorem ends_cons {c : Char} {r : List Char} (h : c = ',' ∨ c = ']' ∨ c = '\x7d') :
    Ends (c :: r) := by
  rintro _ _ ⟨⟩
  rcases h with rfl | rfl | rfl <;> decide

/-! ## Numbers -/

theorem le_ofDigitChars (ds : List Char) (sig : Nat) : sig ≤ Nat.ofDigitChars 10 ds sig := by
  induction ds generalizing sig with
  | nil => simp
  | cons c ds ih =>
    rw [Nat.ofDigitChars_cons]
    exact Nat.le_trans (by omega) (ih _)

/-- Digits are taken up to the end of the number, as long as the value fits. -/
theorem takeDigits_append {ds rest : List Char} (hds : ∀ c ∈ ds, c.isDigit = true)
    (hrest : Ends rest)
    {sig : Nat} (count : Nat) (hfits : Nat.ofDigitChars 10 ds sig ≤ maxSignificand) :
    takeDigits sig count (ds ++ rest) = (Nat.ofDigitChars 10 ds sig, count + ds.length, rest) := by
  induction ds generalizing sig count with
  | nil =>
    cases rest with
    | nil => simp [takeDigits]
    | cons c r => simp [takeDigits, (hrest c r rfl).1]
  | cons c ds ih =>
    have hstep : sig * 10 + digitValue c = 10 * sig + (c.toNat - '0'.toNat) := by
      rw [Nat.mul_comm]
      rfl
    rw [Nat.ofDigitChars_cons, ← hstep] at hfits ⊢
    have hc : c.isDigit = true := hds c List.mem_cons_self
    have hmore := Nat.le_trans (le_ofDigitChars ds _) hfits
    rw [List.cons_append, takeDigits, hc, Bool.true_and, if_pos (decide_eq_true hmore),
      ih (fun c hmem => hds c (List.mem_cons_of_mem _ hmem)) (count + 1) hfits, List.length_cons]
    congr 2
    omega

/-- The digits of a positive number do not start with a zero. -/
theorem toDigits_head {n : Nat} (hn : 0 < n) : ∃ c ds, Nat.toDigits 10 n = c :: ds ∧ c ≠ '0' := by
  induction n using Nat.strongRecOn with
  | ind n ih =>
    by_cases hlt : n < 10
    · refine ⟨n.digitChar, [], Nat.toDigits_of_lt_base hlt, ?_⟩
      have hdigit : ∀ k < 10, 0 < k → Nat.digitChar k ≠ '0' := by decide
      exact hdigit n hlt hn
    · obtain ⟨c, ds, hdigits, hc⟩ := ih (n / 10) (by omega) (by omega)
      refine ⟨c, ds ++ [(n % 10).digitChar], ?_, hc⟩
      rw [Nat.toDigits_of_base_le (by decide) (by omega), hdigits, List.cons_append]

theorem readAfterWhole_ends (negative : Bool) (sig : Nat) {rest : List Char} (hrest : Ends rest) :
    readAfterWhole negative sig 0 rest = (whole negative sig).map (·, rest) := by
  unfold readAfterWhole
  split
  · exact absurd rfl (hrest _ _ rfl).2.1
  · exact absurd rfl (hrest _ _ rfl).2.2.1
  · exact absurd rfl (hrest _ _ rfl).2.2.2
  · rfl

/-- A natural number is read back from its digits. -/
theorem readUnsigned_toDigits (negative : Bool) {n : Nat} (hn : n ≤ maxSignificand)
    {rest : List Char} (hrest : Ends rest) :
    readUnsigned negative (Nat.toDigits 10 n ++ rest) = (whole negative n).map (·, rest) := by
  rcases Nat.eq_zero_or_pos n with rfl | hpos
  · rw [Nat.toDigits_zero, List.singleton_append, ← readAfterWhole_ends negative 0 hrest]
    cases rest with
    | nil => rfl
    | cons c r => simp [readUnsigned, (hrest c r rfl).1]
  · obtain ⟨c, ds, hdigits, hc⟩ := toDigits_head hpos
    have hall : ∀ x ∈ c :: ds, x.isDigit = true := by
      intro x hx
      rw [← hdigits] at hx
      exact Nat.isDigit_of_mem_toDigits (by decide) (by decide) hx
    have hvalue : Nat.ofDigitChars 10 ds (digitValue c) = n := by
      have hsame := Nat.ofDigitChars_ten_toDigits (n := n)
      rw [hdigits, Nat.ofDigitChars_cons, Nat.mul_zero, Nat.zero_add] at hsame
      exact hsame
    have htake := takeDigits_append (fun x hx => hall x (List.mem_cons_of_mem _ hx)) hrest 0
      (hvalue.symm ▸ hn)
    have hnone : rest.takeWhile Char.isDigit = [] ∧ rest.dropWhile Char.isDigit = rest := by
      cases rest with
      | nil => exact ⟨rfl, rfl⟩
      | cons c r => simp [(hrest c r rfl).1]
    rw [hdigits, List.cons_append]
    unfold readUnsigned
    split
    · contradiction
    · next heq => exact absurd (List.cons.inj heq).1 hc
    · next heq =>
      obtain ⟨rfl, rfl⟩ := List.cons.inj heq
      rw [hall c List.mem_cons_self, if_pos rfl, htake, hvalue]
      dsimp only
      rw [hnone.1, hnone.2]
      exact readAfterWhole_ends negative n hrest

/-- An integer in range is read back from its text. -/
theorem readNumber_intText {k : Int} (hmin : minSigned ≤ k) (hmax : k ≤ maxUnsigned)
    {rest : List Char}
    (hrest : Ends rest) : readNumber (intText k ++ rest) = some (.int k, rest) := by
  unfold minSigned at hmin
  unfold maxUnsigned at hmax
  unfold intText
  split
  · next hneg =>
    rw [List.cons_append, readNumber,
      readUnsigned_toDigits true (by unfold maxSignificand; omega) hrest,
      whole, if_pos rfl, if_pos (by simp; omega), Option.map_some]
    congr 3
    omega
  · next hpos =>
    obtain ⟨c, ds, hdigits⟩ :=
      List.exists_cons_of_ne_nil (Nat.toDigits_ne_nil (n := k.natAbs) (b := 10))
    have hc : c ≠ '-' := by
      rintro rfl
      have hmem : '-' ∈ Nat.toDigits 10 k.natAbs := hdigits ▸ List.mem_cons_self
      exact absurd (Nat.isDigit_of_mem_toDigits (by decide) (by decide) hmem) (by decide)
    have hread : readNumber (Nat.toDigits 10 k.natAbs ++ rest) =
        readUnsigned false (Nat.toDigits 10 k.natAbs ++ rest) := by
      rw [hdigits, List.cons_append, readNumber]
      rintro cs heq
      exact hc (List.cons.inj heq).1
    rw [hread, readUnsigned_toDigits false (by unfold maxSignificand; omega) hrest, whole,
      if_neg (by decide), Option.map_some]
    congr 3
    omega

/-! ## Strings -/

theorem hexValue_hexDigit : ∀ n < 16, hexValue (hexDigit n) = some n := by decide

/-- A character is read back from what stands for it between quotes. -/
theorem readString_escape (c : Char) (rest : List Char) :
    readString (escape c ++ rest) = (readString rest).map fun (s, r) => (c :: s, r) := by
  have hletter (x : Char) (hu : x ≠ 'u') (hx : unescape x = some c) :
      readString ('\\' :: x :: rest) = (readString rest).map fun (s, r) => (c :: s, r) := by
    rw [readString, hx]
    · cases readString rest <;> rfl
    · exact fun _ _ _ _ _ heq => absurd heq hu
  unfold escape
  split
  · next hc => exact hletter '"' (by decide) (by rw [hc]; rfl)
  split
  · next hc => exact hletter '\\' (by decide) (by rw [hc]; rfl)
  split
  · next hc => exact hletter 'n' (by decide) (by rw [hc]; rfl)
  split
  · next hc => exact hletter 't' (by decide) (by rw [hc]; rfl)
  split
  · next hc => exact hletter 'r' (by decide) (by rw [hc]; rfl)
  split
  · next hc => exact hletter 'b' (by decide) (by rw [hc]; rfl)
  split
  · next hc => exact hletter 'f' (by decide) (by rw [hc]; rfl)
  split
  · next hcontrol =>
    have hhex :
        hex4 '0' '0' (hexDigit (c.toNat / 16)) (hexDigit (c.toNat % 16)) = some c.toNat := by
      rw [hex4, hexValue_hexDigit _ (by omega), hexValue_hexDigit _ (by omega),
        show hexValue '0' = some 0 from rfl]
      show some _ = some _
      congr 1
      omega
    have hhigh : isHighSurrogate c.toNat = false := by simp [isHighSurrogate]; omega
    have hlow : isLowSurrogate c.toNat = false := by simp [isLowSurrogate]; omega
    simp only [List.cons_append, List.nil_append]
    rw [readString, hhex]
    simp only [Option.bind_eq_bind, Option.bind_some, hhigh, hlow, Bool.false_eq_true, if_false,
      Char.ofNat_toNat]
    cases readString rest <;> rfl
  · next hquote hslash _ _ _ _ _ hplain =>
    rw [List.singleton_append, readString, if_neg (by simp [hplain, hslash])]
    · cases readString rest <;> rfl
    · exact hquote
    · exact fun _ _ _ _ _ heq => absurd heq hslash
    · exact fun _ _ heq => absurd heq hslash

theorem readString_quoted (cs rest : List Char) :
    readString (cs.flatMap escape ++ '"' :: rest) = some (cs, rest) := by
  induction cs with
  | nil => rfl
  | cons c cs ih =>
    rw [List.flatMap_cons, List.append_assoc, readString_escape, ih, Option.map_some]

/-! ## Fields in order -/

theorem setField_of_lt {k : String} (v : Json) {fs : List (String × Json)} (h : ∀ f ∈ fs, f.1 < k) :
    setField k v fs = fs ++ [(k, v)] := by
  induction fs with
  | nil => rfl
  | cons f fs ih =>
    have hlt : f.1 < k := h f List.mem_cons_self
    have hne : k ≠ f.1 := fun heq => String.lt_irrefl _ (heq ▸ hlt)
    rw [setField, if_neg hne, if_neg (String.lt_asymm hlt),
      ih fun f hf => h f (List.mem_cons_of_mem _ hf), List.cons_append]

theorem mkObj_of_pairwise {fs : List (String × Json)} (h : (fs.map (·.1)).Pairwise (· < ·)) :
    mkObj fs = .obj fs := by
  -- the fields set so far stay in front
  suffices hall : ∀ done, ((done ++ fs).map (·.1)).Pairwise (· < ·) →
      fs.foldl (fun acc f => setField f.1 f.2 acc) done = done ++ fs by
    rw [mkObj, hall [] h, List.nil_append]
  clear h
  induction fs with
  | nil => simp
  | cons f fs ih =>
    intro done hdone
    have hlt : ∀ g ∈ done, g.1 < f.1 := by
      intro g hg
      rw [List.map_append, List.pairwise_append] at hdone
      exact hdone.2.2 g.1 (List.mem_map_of_mem hg) f.1 (List.mem_map_of_mem List.mem_cons_self)
    rw [List.foldl_cons, setField_of_lt f.2 hlt, ih _ (by simpa using hdone), List.append_assoc,
      List.singleton_append]

theorem mem_setField {k : String} {v : Json} {fs : List (String × Json)} {f : String × Json}
    (h : f ∈ setField k v fs) : f = (k, v) ∨ f ∈ fs := by
  fun_induction setField k v fs with
  | case1 => exact .inl (List.mem_singleton.mp h)
  | case2 v' rest => exact (List.mem_cons.mp h).imp_right (List.mem_cons_of_mem _)
  | case3 k' v' rest _ _ => exact List.mem_cons.mp h
  | case4 k' v' rest _ _ ih =>
    rcases List.mem_cons.mp h with rfl | hrest
    · exact .inr List.mem_cons_self
    · exact (ih hrest).imp_right (List.mem_cons_of_mem _)

theorem pairwise_setField (k : String) (v : Json) {fs : List (String × Json)}
    (h : (fs.map (·.1)).Pairwise (· < ·)) : ((setField k v fs).map (·.1)).Pairwise (· < ·) := by
  fun_induction setField k v fs with
  | case1 => exact List.pairwise_singleton _ _
  | case2 v' rest => exact h
  | case3 k' v' rest _ hlt =>
    obtain ⟨hfirst, -⟩ := List.pairwise_cons.mp h
    refine .cons (fun x hx => ?_) h
    rcases List.mem_cons.mp hx with rfl | hrest
    · exact hlt
    · exact String.lt_trans hlt (hfirst x hrest)
  | case4 k' v' rest hne hge ih =>
    obtain ⟨hfirst, hrest⟩ := List.pairwise_cons.mp h
    have hlt : k' < k := by
      rcases Decidable.em (k' < k) with hlt | hge'
      · exact hlt
      · exact absurd (String.le_antisymm hge' hge) hne
    refine .cons (fun x hx => ?_) (ih hrest)
    obtain ⟨f, hf, rfl⟩ := List.mem_map.mp hx
    rcases mem_setField hf with rfl | hf
    · exact hlt
    · exact hfirst f.1 (List.mem_map_of_mem hf)

/-- Fields in any order, of which later ones replace earlier ones, make up an object in order. -/
theorem Exact.mkObj {n : Nat} {fs : List (String × Json)} (h : ∀ f ∈ fs, Exact n f.2) :
    Exact (n + 1) (mkObj fs) := by
  suffices hall : ∀ done : List (String × Json), (done.map (·.1)).Pairwise (· < ·) →
      (∀ f ∈ done, Exact n f.2) →
        Exact (n + 1) (.obj (fs.foldl (fun acc f => setField f.1 f.2 acc) done)) from
    hall [] .nil (List.forall_mem_nil _)
  induction fs with
  | nil => exact fun done hkeys hfields => .obj hkeys hfields
  | cons f fs ih =>
    intro done hkeys hfields
    refine ih (fun g hg => h g (List.mem_cons_of_mem _ hg)) _
      (pairwise_setField f.1 f.2 hkeys) fun g hg => ?_
    rcases mem_setField hg with rfl | hg
    · exact h f List.mem_cons_self
    · exact hfields g hg

/-! ## Values -/

/-- A value is read back from its text, whatever follows it. The fuel pays twice for
each character. -/
def ReadsBack (n : Nat) (v : Json) : Prop :=
  ∀ fuel rest, Ends rest → 2 * (chars v).length ≤ fuel + 1 →
    readValue (fuel + 1) n (chars v ++ rest) = some (v, rest)

theorem skipSpace_cons {c : Char} (h : isSpace c = false) (cs : List Char) :
    skipSpace (c :: cs) = c :: cs := by
  simp [skipSpace, h]

theorem ne_of_isDigit {c d : Char} (hc : c.isDigit = true) (hd : d.isDigit = false) : c ≠ d := by
  rintro rfl
  rw [hc] at hd
  cases hd

theorem isSpace_of_isDigit {c : Char} (hc : c.isDigit = true) : isSpace c = false := by
  simp [isSpace, ne_of_isDigit hc (d := ' ') rfl, ne_of_isDigit hc (d := '\n') rfl,
    ne_of_isDigit hc (d := '\t') rfl, ne_of_isDigit hc (d := '\r') rfl]

theorem intText_head (k : Int) : ∃ c cs, intText k = c :: cs ∧ (c = '-' ∨ c.isDigit = true) := by
  unfold intText
  split
  · exact ⟨'-', _, rfl, .inl rfl⟩
  · obtain ⟨c, cs, hcs⟩ := List.exists_cons_of_ne_nil
      (Nat.toDigits_ne_nil (n := k.natAbs) (b := 10))
    have hc : c ∈ Nat.toDigits 10 k.natAbs := hcs ▸ List.mem_cons_self
    exact ⟨c, cs, hcs, .inr (Nat.isDigit_of_mem_toDigits (by decide) (by decide) hc)⟩

/-- A value starts with a character that is no blank and does not close an array. -/
theorem chars_head {n : Nat} {v : Json} (h : Exact n v) :
    ∃ c cs, chars v = c :: cs ∧ isSpace c = false ∧ c ≠ ']' := by
  cases h with
  | null => exact ⟨_, _, rfl, by decide, by decide⟩
  | bool b => cases b <;> exact ⟨_, _, rfl, by decide, by decide⟩
  | @int _ k =>
    obtain ⟨c, cs, hcs, rfl | hc⟩ := intText_head k
    · exact ⟨_, _, hcs, by decide, by decide⟩
    · exact ⟨c, cs, hcs, isSpace_of_isDigit hc, ne_of_isDigit hc rfl⟩
  | str s => exact ⟨_, _, rfl, by decide, by decide⟩
  | @arr _ vs => cases vs <;> exact ⟨_, _, by rw [chars], by decide, by decide⟩
  | @obj _ fs => cases fs <;> exact ⟨_, _, by rw [chars], by decide, by decide⟩

/-- A text that starts like a number is read as one. -/
theorem readValue_number {c : Char} (hc : c = '-' ∨ c.isDigit = true) (fuel n : Nat)
    (cs : List Char) : readValue (fuel + 1) n (c :: cs) = readNumber (c :: cs) := by
  have hspace : isSpace c = false := by
    rcases hc with rfl | hc
    · rfl
    · exact isSpace_of_isDigit hc
  have hother {d : Char} {ds : List Char} (hd : d.isDigit = false) (hminus : d ≠ '-')
      (heq : c :: cs = d :: ds) : False := by
    obtain ⟨rfl, -⟩ := List.cons.inj heq
    rcases hc with rfl | hc
    · exact hminus rfl
    · exact ne_of_isDigit hc hd rfl
  rw [readValue, skipSpace_cons hspace]
  split
  · next heq => exact (hother rfl (by decide) heq).elim
  · next heq => exact (hother rfl (by decide) heq).elim
  · next heq => exact (hother rfl (by decide) heq).elim
  · next heq => exact (hother rfl (by decide) heq).elim
  · next heq => exact (hother rfl (by decide) heq).elim
  · next heq => exact (hother rfl (by decide) heq).elim
  · rfl

/-- Items are read back if each is by itself. The fuel is in proportion to the text. -/
theorem readItems_text {n : Nat} {v : Json} {vs : List Json} (h : ∀ w ∈ v :: vs, ReadsBack n w)
    (fuel : Nat) (rest : List Char)
    (hfuel : 2 * (chars v).length + 2 * (restItems vs).length ≤ fuel + 1) :
    readItems (fuel + 2) n (chars v ++ (restItems vs ++ rest)) = some (v :: vs, rest) := by
  induction vs generalizing v fuel with
  | nil =>
    rw [restItems, List.singleton_append, readItems,
      h v List.mem_cons_self fuel _ (ends_cons (.inr (.inl rfl))) (by omega)]
    rfl
  | cons w ws ih =>
    simp only [restItems, List.length_cons, List.length_append] at hfuel
    obtain ⟨fuel, rfl⟩ := Nat.exists_eq_add_one.mpr (show 0 < fuel by omega)
    have hmore := ih (fun x hx => h x (List.mem_cons_of_mem _ hx)) fuel (by omega)
    rw [restItems, List.cons_append, List.append_assoc, readItems,
      h v List.mem_cons_self (fuel + 1) _ (ends_cons (.inl rfl)) (by omega)]
    simp only [Option.bind_eq_bind, Option.bind_some,
      skipSpace_cons (show isSpace ',' = false from rfl), hmore]
    rfl

/-- So are fields, each with its key in quotes. -/
theorem readFields_text {n : Nat} {f : String × Json} {fs : List (String × Json)}
    (h : ∀ g ∈ f :: fs, ReadsBack n g.2) (fuel : Nat) (rest : List Char)
    (hfuel : 2 * (chars f.2).length + 2 * (restFields fs).length ≤ fuel + 1) :
    readFields (fuel + 2) n (quote f.1 ++ ':' :: (chars f.2 ++ (restFields fs ++ rest))) =
      some (f :: fs, rest) := by
  induction fs generalizing f fuel with
  | nil =>
    rw [restFields, List.singleton_append, readFields, quote, List.cons_append,
      skipSpace_cons (show isSpace '"' = false from rfl), List.append_assoc, List.singleton_append]
    simp only [readString_quoted, Option.bind_eq_bind, Option.bind_some,
      skipSpace_cons (show isSpace ':' = false from rfl),
      h f List.mem_cons_self fuel _ (ends_cons (.inr (.inr rfl))) (by omega),
      skipSpace_cons (show isSpace '\x7d' = false from rfl), String.ofList_toList]
    rfl
  | cons g gs ih =>
    simp only [restFields, List.length_cons, List.length_append] at hfuel
    obtain ⟨fuel, rfl⟩ := Nat.exists_eq_add_one.mpr (show 0 < fuel by omega)
    have hmore := ih (fun x hx => h x (List.mem_cons_of_mem _ hx)) fuel (by omega)
    rw [restFields, List.cons_append, readFields, quote, List.cons_append,
      skipSpace_cons (show isSpace '"' = false from rfl), List.append_assoc, List.singleton_append]
    simp only [List.append_assoc, List.cons_append] at hmore ⊢
    simp only [readString_quoted, Option.bind_eq_bind, Option.bind_some,
      skipSpace_cons (show isSpace ':' = false from rfl),
      h f List.mem_cons_self (fuel + 1) _ (ends_cons (.inl rfl)) (by omega),
      skipSpace_cons (show isSpace ',' = false from rfl), hmore, String.ofList_toList]
    rfl

theorem readsBack_arr {n : Nat} {vs : List Json} (hexact : ∀ v ∈ vs, Exact n v)
    (h : ∀ v ∈ vs, ReadsBack n v) : ReadsBack (n + 1) (.arr vs) := by
  intro fuel rest hrest hfuel
  cases vs with
  | nil => rfl
  | cons v vs =>
    obtain ⟨c, cs, hcs, hspace, hclose⟩ := chars_head (hexact v List.mem_cons_self)
    rw [chars] at hfuel ⊢
    simp only [List.length_cons, List.length_append, hcs] at hfuel
    obtain ⟨fuel, rfl⟩ := Nat.exists_eq_add_of_le' (show 2 ≤ fuel by omega)
    have hitems := readItems_text h fuel rest (by simp only [hcs, List.length_cons]; omega)
    rw [List.cons_append, List.append_assoc, readValue,
      skipSpace_cons (show isSpace '[' = false from rfl)]
    simp only [hcs, List.cons_append, skipSpace_cons hspace] at hitems ⊢
    split
    · next heq => exact absurd (List.cons.inj heq).1 hclose
    · rw [hitems, Option.map_some]

/-- An object with its keys in order is read back if its values are. -/
theorem readsBack_obj {n : Nat} {fs : List (String × Json)}
    (hkeys : (fs.map (·.1)).Pairwise (· < ·))
    (h : ∀ f ∈ fs, ReadsBack n f.2) : ReadsBack (n + 1) (.obj fs) := by
  intro fuel rest hrest hfuel
  cases fs with
  | nil => rfl
  | cons f fs =>
    rw [chars] at hfuel ⊢
    simp only [List.length_cons, List.length_append] at hfuel
    obtain ⟨fuel, rfl⟩ := Nat.exists_eq_add_of_le' (show 2 ≤ fuel by omega)
    have hfields := readFields_text h fuel rest (by omega)
    rw [List.cons_append, readValue, skipSpace_cons (show isSpace '\x7b' = false from rfl)]
    simp only [quote, List.cons_append, List.append_assoc, List.nil_append,
      skipSpace_cons (show isSpace '"' = false from rfl)] at hfields ⊢
    split
    · next heq => exact absurd (List.cons.inj heq).1 (by decide)
    · rw [hfields, Option.map_some, mkObj_of_pairwise hkeys]

theorem Exact.readsBack {n : Nat} {v : Json} (h : Exact n v) : ReadsBack n v := by
  induction h with
  | null => exact fun _ _ _ _ => rfl
  | bool b => cases b <;> exact fun _ _ _ _ => rfl
  | @int _ k hmin hmax =>
    intro fuel rest hrest hfuel
    obtain ⟨c, cs, hcs, hc⟩ := intText_head k
    have hread := readNumber_intText hmin hmax hrest
    rw [chars]
    rw [hcs, List.cons_append] at hread ⊢
    rw [readValue_number hc, hread]
  | str s =>
    intro fuel rest hrest hfuel
    rw [chars, quote, List.cons_append, List.append_assoc, List.singleton_append, readValue,
      skipSpace_cons (show isSpace '"' = false from rfl)]
    simp only [readString_quoted, Option.map_some, String.ofList_toList]
  | arr hitems ih => exact readsBack_arr hitems ih
  | obj hkeys _ ih => exact readsBack_obj hkeys ih

/-- A value without doubles that nests no deeper than the reader goes is read back from its text. -/
theorem read?_text {v : Json} (h : Exact maxDepth v) : read? v.text = some v := by
  have hread := h.readsBack (2 * v.chars.length + 1) [] ends_nil (by omega)
  rw [List.append_nil] at hread
  rw [read?, text, String.toList_ofList, readChars?, hread]
  rfl

end CatalogCrawl.Json
