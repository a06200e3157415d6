import CatalogCrawl.Proofs.PercentCoding
import CatalogCrawl.Url.Parser
import Mathlib.Data.List.Basic

/-! # Paths of URLs

A path that starts with a slash is its segments with a slash before each (`Url.slashed_segments`),
and every URL such as one of `http` has such a path (`Url.head?_parse`). A plain text is added to it
as one segment (`Url.pushSegment_plain`), which can be read back (`Url.encodeSegment_clean`).

Not every text is plain. The texts `.` and `..` are not added at all, and tabs and line ends are
left out of the others, which can turn them into dot segments (`Url.pushed`). -/

namespace CatalogCrawl

namespace Url

/-! ## Segments of a path -/

/-- The segments of a path that starts with a slash. -/
def segments (path : List Char) : List (List Char) := (path.drop 1).splitOn '/'

/-- Segments with a slash before each. -/
def slashed (segs : List (List Char)) : List Char := segs.flatMap ('/' :: ·)

theorem slashed_concat (segs : List (List Char)) (s : List Char) :
    slashed (segs ++ [s]) = slashed segs ++ '/' :: s := by
  simp [slashed]

theorem slashed_eq {segs : List (List Char)} (h : segs ≠ []) :
    slashed segs = '/' :: ['/'].intercalate segs := by
  induction segs with
  | nil => exact (h rfl).elim
  | cons s rest ih =>
    cases rest with
    | nil => simp [slashed]
    | cons next rest =>
      have hrest := ih (List.cons_ne_nil _ _)
      rw [slashed, List.flatMap_cons, ← slashed, hrest, List.intercalate_cons_cons,
        List.append_assoc]
      rfl

/-- A path is its segments with a slash before each. -/
theorem slashed_segments {path : List Char} (h : path.head? = some '/') :
    slashed (segments path) = path := by
  obtain ⟨rest, rfl⟩ := List.head?_eq_some_iff.mp h
  rw [segments, slashed_eq (List.splitOn_ne_nil _ _), List.intercalate_splitOn, List.drop_one,
    List.tail_cons]

theorem segments_slashed {segs : List (List Char)} (hne : segs ≠ []) (h : ∀ s ∈ segs, '/' ∉ s) :
    segments (slashed segs) = segs := by
  rw [slashed_eq hne, segments, List.drop_one, List.tail_cons, List.splitOn_intercalate _ h hne]

theorem not_mem_of_mem_splitOn {sep : Char} {cs piece : List Char} (h : piece ∈ cs.splitOn sep) :
    sep ∉ piece := by
  induction cs generalizing piece with
  | nil =>
    rw [List.splitOn_nil, List.mem_singleton] at h
    rw [h]
    exact List.not_mem_nil
  | cons c cs ih =>
    obtain ⟨first, rest, heq⟩ := List.exists_cons_of_ne_nil (List.splitOn_ne_nil sep cs)
    rw [List.splitOn_cons_eq_if_modifyHead] at h
    rw [heq] at h ih
    split at h
    · rcases List.mem_cons.mp h with rfl | h
      · exact List.not_mem_nil
      · exact ih h
    · next hne =>
      rcases List.mem_cons.mp h with rfl | h
      · refine List.not_mem_cons_of_ne_of_not_mem (fun hsep => hne ?_) (ih List.mem_cons_self)
        rw [hsep, beq_self_eq_true]
      · exact ih (List.mem_cons_of_mem _ h)

theorem not_mem_segments {path s : List Char} (h : s ∈ segments path) : '/' ∉ s :=
  not_mem_of_mem_splitOn h

/-- What is left of a path when something is added to it: an empty segment at its end is dropped,
and of `//` nothing is left. -/
def root (path : List Char) : List (List Char) :=
  if path = ['/', '/'] then []
  else if (segments path).getLast? = some [] then (segments path).dropLast
  else segments path

theorem not_mem_root {path s : List Char} (h : s ∈ root path) : '/' ∉ s := by
  unfold root at h
  split at h
  · cases h
  · split at h
    · exact not_mem_segments ((List.dropLast_sublist _).subset h)
    · exact not_mem_segments h

theorem length_lt_slashed {segs : List (List Char)} {s : List Char} (h : s ∈ segs) :
    s.length < (slashed segs).length := by
  obtain ⟨before, after, rfl⟩ := List.append_of_mem h
  rw [slashed, List.flatMap_append, List.flatMap_cons, List.length_append, List.length_append,
    List.length_cons]
  omega

theorem endsWithSlash_concat (path : List Char) : endsWithSlash (path ++ ['/']) = true := by
  rw [endsWithSlash, List.getLast?_concat]
  rfl

/-- A path without an empty segment at its end is a slash, or the segments that are left. -/
theorem dropEmptySegment_cases {path : List Char} (h : path.head? = some '/') :
    dropEmptySegment path = ['/'] ∧ root path = [] ∨
      dropEmptySegment path = slashed (root path) ∧ 1 < (slashed (root path)).length := by
  by_cases hbare : path = ['/', '/']
  · rw [hbare]
    exact .inl ⟨rfl, rfl⟩
  have hpath := slashed_segments h
  rcases List.eq_nil_or_concat' (segments path) with hnil | ⟨before, last, hsegs⟩
  · exact (List.splitOn_ne_nil _ _ hnil).elim
  have hroot : root path = if last = [] then before else before ++ [last] := by
    rw [root, if_neg hbare, hsegs, List.getLast?_concat, List.dropLast_concat]
    simp
  have hslash : '/' ∉ last := by
    refine not_mem_segments (?_ : last ∈ segments path)
    rw [hsegs]
    exact List.mem_append_right _ List.mem_cons_self
  rw [hsegs, slashed_concat] at hpath
  rw [hroot]
  by_cases hlast : last = []
  · subst hlast
    rw [if_pos rfl]
    by_cases hbefore : before = []
    · subst hbefore
      rw [← hpath]
      exact .inl ⟨rfl, rfl⟩
    · have hlong : 1 < (slashed before).length := by
        obtain ⟨s, hs⟩ := List.exists_mem_of_ne_nil _ hbefore
        refine Nat.lt_of_le_of_ne (Nat.zero_lt_of_lt (length_lt_slashed hs)) fun hone => hbare ?_
        obtain ⟨c, hc⟩ := List.length_eq_one_iff.mp hone.symm
        rw [← hpath, hc] at h ⊢
        rw [Option.some.inj h]
        rfl
      have hends : (decide (1 < path.length) && endsWithSlash path) = true := by
        rw [← hpath, endsWithSlash_concat, Bool.and_true, decide_eq_true_iff, List.length_append,
          List.length_singleton]
        omega
      rw [dropEmptySegment, if_pos hends, ← hpath, List.dropLast_concat]
      exact .inr ⟨rfl, hlong⟩
  · have hends : endsWithSlash path = false := by
      refine decide_eq_false fun hend => hslash (List.mem_of_getLast? ?_)
      rwa [← hpath, List.getLast?_append_of_ne_nil _ (List.cons_ne_nil _ _),
        List.getLast?_cons_of_ne_nil hlast] at hend
    rw [if_neg hlast, slashed_concat, hpath, dropEmptySegment, hends, Bool.and_false]
    refine .inr ⟨rfl, ?_⟩
    have hpos := List.length_pos_iff.mpr hlast
    rw [← hpath, List.length_append, List.length_cons]
    omega

/-! ## Adding segments -/

/-- How a segment is written that is added to the path of a URL such as one of `http`. -/
def encodeSegment (cs : List Char) : List Char := percentEncode inSpecialSegmentSet cs

theorem encodeSegment_injective : Function.Injective encodeSegment := percentEncode_injective rfl

/-- What an encoded segment is read back as, it is the encoding of. -/
theorem eq_of_percentDecode {cs cs' : List Char}
    (h : percentDecode (encodeSegment cs) = Text.Utf8.encode cs') : cs = cs' := by
  rw [encodeSegment, percentDecode_percentEncode rfl] at h
  exact Text.Utf8.encode_injective h

/-- An encoded segment is one segment and nothing else, and can be read back. -/
theorem encodeSegment_clean (cs : List Char) :
    '/' ∉ encodeSegment cs ∧ '?' ∉ encodeSegment cs ∧ '#' ∉ encodeSegment cs ∧
      Text.Utf8.decode (percentDecode (encodeSegment cs)) = some cs := by
  refine ⟨?_, ?_, ?_, ?_⟩
  · exact not_mem_percentEncode (by decide) (by decide) (by decide) cs
  · exact not_mem_percentEncode (by decide) (by decide) (by decide) cs
  · exact not_mem_percentEncode (by decide) (by decide) (by decide) cs
  · rw [encodeSegment, percentDecode_percentEncode rfl, Text.Utf8.decode_encode]

/-- A text that is added as one segment: it is no dot segment, and nothing in it is passed over. -/
structure Plain (cs : List Char) : Prop where
  dot : cs ≠ ['.']
  dots : cs ≠ ['.', '.']
  passed : cs.any isPassedOver = false

theorem Plain.withoutPassed_eq {cs : List Char} (h : Plain cs) : withoutPassed cs = cs :=
  List.filter_eq_self.mpr fun c hc => by simp [List.any_eq_false.mp h.passed c hc]

/-- Only a dot is encoded as one of its spellings, all of which are read back as a dot. -/
theorem isDot_encodeSegment {cs : List Char} (h : cs ≠ ['.']) :
    isDot (encodeSegment cs) = false := by
  refine Bool.eq_false_iff.mpr fun hdot => h (eq_of_percentDecode ?_)
  simp only [isDot, List.any_cons, List.any_nil, Bool.or_false, Bool.or_eq_true,
    decide_eq_true_eq] at hdot
  rcases hdot with heq | heq | heq <;> rw [← heq] <;> decide

theorem isDotDot_encodeSegment {cs : List Char} (h : cs ≠ ['.', '.']) :
    isDotDot (encodeSegment cs) = false := by
  refine Bool.eq_false_iff.mpr fun hdots => h (eq_of_percentDecode ?_)
  simp only [isDotDot, List.any_cons, List.any_nil, Bool.or_false, Bool.or_eq_true,
    decide_eq_true_eq] at hdots
  rcases hdots with heq | heq | heq | heq | heq | heq | heq | heq | heq <;> rw [← heq] <;> decide

/-- What is no dot segment is put behind a slash, encoded. -/
theorem pushSegment_of_ne {path cs : List Char} (hdot : cs ≠ ['.']) (hdots : cs ≠ ['.', '.']) :
    pushSegment .special path cs =
      closeSegment .special (if path.length = 1 then path else path ++ ['/'])
        (encodeSegment (withoutPassed cs)) false := by
  have hnone : ¬(decide (cs = ['.']) || decide (cs = ['.', '.'])) = true := by simp [hdot, hdots]
  rw [pushSegment, if_neg hnone]
  rfl

/-- An encoded segment is no dot segment, and is kept. -/
theorem closeSegment_encodeSegment {path cs : List Char} (hdot : cs ≠ ['.'])
    (hdots : cs ≠ ['.', '.']) :
    closeSegment .special path (encodeSegment cs) false = path ++ encodeSegment cs := by
  simp [closeSegment, isDot_encodeSegment hdot, isDotDot_encodeSegment hdots, isLeadingDrive]

/-- A plain text is added as one segment. -/
theorem pushSegment_plain {path cs : List Char} (h : Plain cs) :
    pushSegment .special path cs =
      (if path.length = 1 then path else path ++ ['/']) ++ encodeSegment cs := by
  rw [pushSegment_of_ne h.dot h.dots, h.withoutPassed_eq, closeSegment_encodeSegment h.dot h.dots]

/-- A plain segment goes behind the others. -/
theorem pushSegment_slashed {segs : List (List Char)} {cs : List Char}
    (hlong : 1 < (slashed segs).length) (h : Plain cs) :
    pushSegment .special (slashed segs) cs = slashed (segs ++ [encodeSegment cs]) := by
  rw [pushSegment_plain h, if_neg (by omega), slashed_concat, List.append_assoc,
    List.singleton_append]

/-- A plain segment goes behind those of a path, without an empty one at its end. -/
theorem pushSegment_root {path cs : List Char} (hpath : path.head? = some '/') (h : Plain cs) :
    pushSegment .special (dropEmptySegment path) cs =
      slashed (root path ++ [encodeSegment cs]) := by
  rcases dropEmptySegment_cases hpath with ⟨hdrop, hroot⟩ | ⟨hdrop, hlong⟩
  · rw [hdrop, hroot, pushSegment_plain h]
    simp [slashed]
  · rw [hdrop, pushSegment_slashed hlong h]

theorem ne_slash_of_mem_reverse {s : List Char} (h : '/' ∉ s) :
    ∀ c ∈ s.reverse, decide (c ≠ '/') = true :=
  fun _ hc => decide_eq_true fun heq => h (heq ▸ List.mem_reverse.mp hc)

theorem uptoSlash_append {s : List Char} (h : '/' ∉ s) (path : List Char) :
    uptoSlash (path ++ '/' :: s) = path ++ ['/'] := by
  rw [uptoSlash, List.reverse_append, List.reverse_cons, List.append_assoc,
    List.dropWhile_append_of_pos (ne_slash_of_mem_reverse h)]
  simp

theorem lastSegment_append {s : List Char} (h : '/' ∉ s) (path : List Char) :
    lastSegment (path ++ '/' :: s) = s := by
  rw [lastSegment, List.reverse_append, List.reverse_cons, List.append_assoc,
    List.takeWhile_append_of_pos (ne_slash_of_mem_reverse h)]
  simp

/-- The segments after any text has been added behind `apps`. A dot segment is not added, and what
is passed over is left out of the others. If one is a dot segment only then, a single dot leaves an
empty segment and two dots take `apps` away. -/
def pushed (segs : List (List Char)) (cs : List Char) : List (List Char) :=
  if cs = ['.'] ∨ cs = ['.', '.'] then segs
  else if withoutPassed cs = ['.'] then segs ++ [[]]
  else if withoutPassed cs = ['.', '.'] then segs.dropLast ++ [[]]
  else segs ++ [encodeSegment (withoutPassed cs)]

theorem pushed_plain {segs : List (List Char)} {cs : List Char} (h : Plain cs) :
    pushed segs cs = segs ++ [encodeSegment cs] := by
  rw [pushed, h.withoutPassed_eq, if_neg (not_or.mpr ⟨h.dot, h.dots⟩), if_neg h.dot, if_neg h.dots]

theorem not_mem_pushed {segs : List (List Char)} (h : ∀ s ∈ segs, '/' ∉ s) (cs : List Char) :
    ∀ s ∈ pushed segs cs, '/' ∉ s := by
  have hlast {segs : List (List Char)} {s : List Char} (h : ∀ s ∈ segs, '/' ∉ s) (hs : '/' ∉ s) :
      ∀ t ∈ segs ++ [s], '/' ∉ t := by
    intro t ht
    rcases List.mem_append.mp ht with ht | ht
    · exact h t ht
    · rwa [List.mem_singleton.mp ht]
  rw [pushed]
  split
  · exact h
  · split
    · exact hlast h List.not_mem_nil
    · split
      · exact hlast (fun s hs => h s ((List.dropLast_sublist _).subset hs)) List.not_mem_nil
      · exact hlast h (encodeSegment_clean _).1

/-- A dot leaves a path that ends with a slash as it is. -/
theorem closeSegment_dot (path : List Char) :
    closeSegment .special (path ++ ['/']) ['.'] false = path ++ ['/'] := by
  have hdots : ¬isDotDot ['.'] = true := by decide
  have hdot : isDot ['.'] = true := by decide
  rw [closeSegment, if_neg hdots, if_pos hdot, if_pos (endsWithSlash_concat path)]

/-- A slash that follows `apps` can go. -/
theorem slashCanGo_apps (path : List Char) :
    slashCanGo (path ++ '/' :: "apps".toList ++ ['/']) = true := by
  have hlast : lastSegment (path ++ '/' :: "apps".toList) = "apps".toList :=
    lastSegment_append (by decide) _
  rw [slashCanGo, List.dropLast_concat, hlast, Bool.and_eq_true]
  exact ⟨by simp, by decide⟩

/-- Two dots take the segment `apps` away. -/
theorem closeSegment_dots (path : List Char) :
    closeSegment .special (path ++ '/' :: "apps".toList ++ ['/']) ['.', '.'] false =
      path ++ ['/'] := by
  have hpop : popSegment .special (path ++ '/' :: "apps".toList) = path ++ ['/'] := by
    rw [popSegment, if_neg (by simp), if_neg (by simp), uptoSlash_append (by decide)]
  have hdots : isDotDot ['.', '.'] = true := by decide
  rw [closeSegment, if_pos hdots, endsWithSlash_concat, slashCanGo_apps, Bool.and_self, if_pos rfl,
    List.dropLast_concat]
  simp only [hpop, Bool.false_and, Bool.false_eq_true, if_false]

/-- Any text is added behind `apps` as `pushed` says. -/
theorem pushSegment_any (segs : List (List Char)) (cs : List Char) :
    pushSegment .special (slashed (segs ++ ["apps".toList])) cs =
      slashed (pushed (segs ++ ["apps".toList]) cs) := by
  have hlong : (slashed (segs ++ ["apps".toList])).length ≠ 1 := by
    rw [slashed_concat, List.length_append]
    simp
  rw [pushed]
  split
  · next hdots =>
    have hnone : (decide (cs = ['.']) || decide (cs = ['.', '.'])) = true := by simpa using hdots
    rw [pushSegment, if_pos hnone]
  · next hdots =>
    obtain ⟨hdot, hdots⟩ := not_or.mp hdots
    rw [pushSegment_of_ne hdot hdots, if_neg hlong]
    split
    · next heq =>
      rw [heq, slashed_concat _ []]
      exact closeSegment_dot _
    · split
      · next heq =>
        rw [heq, List.dropLast_concat, slashed_concat, slashed_concat]
        exact closeSegment_dots _
      · next hne hne' =>
        rw [closeSegment_encodeSegment hne hne', slashed_concat _ (encodeSegment _),
          List.append_assoc, List.singleton_append]

/-! ## Paths that were read -/

theorem head?_append {path : List Char} (h : path.head? = some '/') (more : List Char) :
    (path ++ more).head? = some '/' := by
  rw [List.head?_append, h, Option.some_or]

theorem head?_uptoSlash {path : List Char} (h : path.head? = some '/') :
    (uptoSlash path).head? = some '/' := by
  obtain ⟨rest, rfl⟩ := List.head?_eq_some_iff.mp h
  rw [uptoSlash, List.reverse_cons, List.dropWhile_append]
  split
  · rfl
  · rw [List.reverse_append]
    rfl

theorem head?_dropLast {path : List Char} (h : path.head? = some '/')
    (hgo : slashCanGo path = true) : path.dropLast.head? = some '/' := by
  obtain ⟨rest, rfl⟩ := List.head?_eq_some_iff.mp h
  cases rest with
  | nil => cases hgo
  | cons c rest => rfl

theorem head?_popSegment (kind : SchemeKind) {path : List Char} (h : path.head? = some '/') :
    (popSegment kind path).head? = some '/' := by
  unfold popSegment
  split
  · exact h
  · split
    · exact h
    · exact head?_uptoSlash h

/-- A path that starts with a slash does so after another segment. -/
theorem head?_closeSegment (kind : SchemeKind) {path : List Char} (h : path.head? = some '/')
    (segment : List Char) (slash : Bool) :
    (closeSegment kind path segment slash).head? = some '/' := by
  unfold closeSegment
  split
  · have hshort :
        (if endsWithSlash path && slashCanGo path then path.dropLast else path).head? =
          some '/' := by
      split
      · next hgo => exact head?_dropLast h (Bool.and_eq_true_iff.mp hgo).2
      · exact h
    dsimp only
    generalize (if endsWithSlash path && slashCanGo path then path.dropLast else path) =
      short at hshort ⊢
    have hpop := head?_popSegment kind hshort
    split
    · exact head?_append hpop _
    · exact hpop
  · split
    · split
      · exact h
      · exact head?_append h _
    · dsimp only
      rw [List.append_assoc]
      exact head?_append h _

theorem path_push (kind : SchemeKind) (c : Char) (s : PathState) :
    (s.push kind c).path = s.path := by
  unfold PathState.push
  dsimp only
  split <;> rfl

theorem head?_readSegments (kind : SchemeKind) (cs : List Char) {s : PathState}
    (h : s.path.head? = some '/') :
    (readSegments kind cs s).1.path.head? = some '/' := by
  induction cs generalizing s with
  | nil => exact head?_closeSegment kind h _ _
  | cons c cs ih =>
    rw [readSegments]
    split
    · exact ih h
    · split
      · exact ih (head?_closeSegment kind h _ _)
      · split
        · exact head?_closeSegment kind h _ _
        · refine ih ?_
          rwa [path_push]

/-- The path of a URL such as one of `http` starts with a slash. -/
theorem head?_readPathStart (cs : List Char) :
    (readPathStart .special cs).path.head? = some '/' := by
  have hread (cs : List Char) : (readPath .special ['/'] cs).path.head? = some '/' :=
    head?_readSegments .special cs rfl
  unfold readPathStart
  split
  · rfl
  · split
    · exact hread _
    · split
      · next hother => cases hother
      · exact hread _

/-- What comes after an authority is read as a path. -/
theorem readAuthority_ok {scheme : List Char} {kind : SchemeKind} {cs : List Char} {u : Url}
    (h : readAuthority scheme kind cs = .ok u) :
    u.scheme = scheme ∧ ∃ rest, u.path = (readPathStart kind rest).path := by
  unfold readAuthority at h
  simp only [Bind.bind, Except.bind, Pure.pure, Except.pure] at h
  -- all ways but those that come to the path end in an error
  repeat' split at h
  all_goals cases h
  all_goals exact ⟨rfl, _, rfl⟩

theorem scheme_readFile {cs : List Char} {u : Url} (h : readFile cs = .ok u) :
    u.scheme = "file".toList := by
  unfold readFile at h
  simp only [Bind.bind, Except.bind, Pure.pure, Except.pure] at h
  split at h
  · cases h
  · cases h
    rfl

theorem scheme_readOther {scheme cs : List Char} {u : Url} (h : readOther scheme cs = .ok u) :
    u.scheme = scheme := by
  unfold readOther at h
  split at h
  · exact (readAuthority_ok h).1
  · cases h
    rfl
  · cases h
    rfl

theorem head?_parse {text : String} {u : Url} (h : parse text = .ok u) (hkind : u.kind = .special) :
    u.path.head? = some '/' := by
  unfold parse at h
  dsimp only at h
  split at h
  · cases h
  · next scheme rest _ =>
    split at h
    · rw [kind, scheme_readFile h] at hkind
      cases hkind
    · obtain ⟨-, rest, hpath⟩ := readAuthority_ok h
      rw [hpath]
      exact head?_readPathStart rest
    · next hother =>
      rw [kind, scheme_readOther h, hother] at hkind
      cases hkind

end Url

end CatalogCrawl
