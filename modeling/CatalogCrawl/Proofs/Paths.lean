import CatalogCrawl.Disk.Replace
import CatalogCrawl.Proofs.UrlPaths
import Mathlib.Data.List.DropRight

/-! # Paths and their parents

A path is a head and the pieces between its slashes (`Path.text_pieces`), and the pieces can be told
from the text again (`Path.pieces_text`). Its parent is the head with some of the first pieces, so
that a walk along the names of a path comes by its parent (`Path.names_parent?`). A name that is
joined to the parent of a path is beside the last component of that path (`Path.parent?_join`). -/

namespace CatalogCrawl

namespace Text

variable {sep : Char} {ps : List (List Char)}

theorem intercalate_cons (piece : List Char) (hne : ps ≠ []) :
    [sep].intercalate (piece :: ps) = piece ++ sep :: [sep].intercalate ps := by
  rw [List.intercalate_cons_of_ne_nil hne, List.append_assoc, List.singleton_append]

theorem intercalate_append {more : List (List Char)} (hne : ps ≠ []) (hmore : more ≠ []) :
    [sep].intercalate (ps ++ more) = [sep].intercalate ps ++ sep :: [sep].intercalate more := by
  induction ps with
  | nil => exact (hne rfl).elim
  | cons piece rest ih =>
    cases rest with
    | nil => rw [List.singleton_append, intercalate_cons piece hmore, List.intercalate_singleton]
    | cons next rest =>
      rw [List.cons_append, intercalate_cons piece (by simp), ih (List.cons_ne_nil next rest),
        intercalate_cons piece (List.cons_ne_nil next rest)]
      simp

end Text

namespace Path

variable {p q : String} {head : Head} {ps up : List (List Char)}

/-! ## Heads and pieces -/

/-- The text of a path with this head and these pieces. -/
def text (head : Head) (ps : List (List Char)) : List Char := head.chars ++ ['/'].intercalate ps

/-- What the pieces of a path are like. Where they could be taken for a head, there is none. -/
structure Fits (head : Head) (ps : List (List Char)) : Prop where
  clean : ∀ piece ∈ ps, '/' ∉ piece
  ne_nil : ps ≠ []
  here : head = .here → ps.head? = some []
  none : head = .none → ps.head? ≠ some ['.'] ∧ (ps.head? = some [] → ps = [[]])

theorem pieces_root (cs : List Char) :
    pieces (String.ofList ('/' :: cs)) = (.root, cs.splitOn '/') := by
  rw [pieces, String.toList_ofList]
  rfl

theorem pieces_here (cs : List Char) :
    pieces (String.ofList ('.' :: '/' :: cs)) = (.here, [] :: cs.splitOn '/') := by
  rw [pieces, String.toList_ofList]
  rfl

/-- A text that begins in no other way has no head. -/
theorem pieces_none {cs : List Char} (hroot : cs.head? ≠ some '/') (hdot : cs ≠ ['.'])
    (hhere : ∀ rest, cs ≠ '.' :: '/' :: rest) :
    pieces (String.ofList cs) = (.none, cs.splitOn '/') := by
  rw [pieces, String.toList_ofList]
  split
  · simp at hroot
  · exact (hdot rfl).elim
  · exact (hhere _ rfl).elim
  · rfl

theorem fits_splitOn {cs : List Char} (hroot : cs.head? ≠ some '/') (hdot : cs ≠ ['.'])
    (hhere : ∀ rest, cs ≠ '.' :: '/' :: rest) : Fits .none (cs.splitOn '/') where
  clean _ := Url.not_mem_of_mem_splitOn
  ne_nil := List.splitOn_ne_nil '/' cs
  here := nofun
  none _ := by
    obtain ⟨piece, rest, hcs⟩ := List.exists_cons_of_ne_nil (List.splitOn_ne_nil '/' cs)
    have hjoin : ['/'].intercalate (cs.splitOn '/') = cs := List.intercalate_splitOn '/'
    rw [hcs] at hjoin ⊢
    simp only [List.head?_cons, ne_eq, Option.some.injEq]
    cases rest with
    | nil =>
      obtain rfl : piece = cs := List.intercalate_singleton.symm.trans hjoin
      exact ⟨hdot, fun h => by rw [h]⟩
    | cons next rest =>
      rw [Text.intercalate_cons _ (List.cons_ne_nil next rest)] at hjoin
      constructor
      · rintro rfl
        exact hhere _ hjoin.symm
      · rintro rfl
        rw [← hjoin] at hroot
        simp at hroot

/-- A path is its head and its pieces. -/
theorem text_pieces (p : String) :
    String.ofList (text (pieces p).1 (pieces p).2) = p ∧ Fits (pieces p).1 (pieces p).2 := by
  obtain ⟨cs, rfl⟩ : ∃ cs, p = String.ofList cs := ⟨p.toList, String.ofList_toList.symm⟩
  by_cases hroot : cs.head? = some '/'
  · obtain ⟨rest, rfl⟩ := List.head?_eq_some_iff.mp hroot
    rw [pieces_root]
    refine ⟨by simp [text, Head.chars, List.intercalate_splitOn], ?_⟩
    exact ⟨fun _ => Url.not_mem_of_mem_splitOn, List.splitOn_ne_nil '/' rest, nofun, nofun⟩
  by_cases hdot : cs = ['.']
  · subst hdot
    exact ⟨rfl, by simp [pieces], by simp [pieces], by simp [pieces], by simp [pieces]⟩
  by_cases hhere : ∃ rest, cs = '.' :: '/' :: rest
  · obtain ⟨rest, rfl⟩ := hhere
    have hne := List.splitOn_ne_nil '/' rest
    rw [pieces_here]
    refine ⟨by simp [text, Head.chars, Text.intercalate_cons [] hne, List.intercalate_splitOn], ?_⟩
    refine ⟨fun piece hpiece => ?_, by simp, fun _ => rfl, nofun⟩
    rcases List.mem_cons.mp hpiece with rfl | hpiece
    · exact List.not_mem_nil
    · exact Url.not_mem_of_mem_splitOn hpiece
  · have hhere : ∀ rest, cs ≠ '.' :: '/' :: rest := fun rest h => hhere ⟨rest, h⟩
    rw [pieces_none hroot hdot hhere]
    exact ⟨by simp [text, Head.chars, List.intercalate_splitOn], fits_splitOn hroot hdot hhere⟩

/-- The head and the pieces can be told from the path. -/
theorem pieces_text (h : Fits head ps) : pieces (String.ofList (text head ps)) = (head, ps) := by
  obtain ⟨piece, rest, rfl⟩ := List.exists_cons_of_ne_nil h.ne_nil
  cases head with
  | root =>
    rw [text, Head.chars, List.singleton_append, pieces_root,
      List.splitOn_intercalate '/' h.clean h.ne_nil]
  | here =>
    obtain rfl : piece = [] := by simpa using h.here rfl
    cases rest with
    | nil => rfl
    | cons next rest =>
      have hrest := List.forall_mem_cons.mp h.clean
      rw [text, Head.chars, Text.intercalate_cons _ (List.cons_ne_nil next rest), List.nil_append,
        List.singleton_append, pieces_here,
          List.splitOn_intercalate '/' hrest.2 (List.cons_ne_nil next rest)]
  | none =>
    obtain ⟨hdot, hempty⟩ := h.none rfl
    have hsplit := List.splitOn_intercalate '/' h.clean h.ne_nil
    rw [text, Head.chars, List.nil_append]
    generalize ['/'].intercalate (piece :: rest) = cs at hsplit
    rw [← hsplit] at hdot hempty ⊢
    refine pieces_none (fun hroot => ?_) ?_ ?_
    · obtain ⟨cs, rfl⟩ := List.head?_eq_some_iff.mp hroot
      exact List.splitOn_ne_nil '/' cs (List.cons.inj (hempty rfl)).2
    · rintro rfl
      exact hdot rfl
    · rintro cs rfl
      exact hdot rfl

theorem Fits.part (h : Fits head ps) (hup : up <+: ps) (hne : up ≠ []) : Fits head up := by
  obtain ⟨more, rfl⟩ := hup
  have hhead : (up ++ more).head? = up.head? := List.head?_append_of_ne_nil up hne
  refine ⟨fun piece hpiece => h.clean piece (List.mem_append_left _ hpiece), hne, ?_,
    fun hnone => ?_⟩
  · rw [← hhead]
    exact h.here
  · obtain ⟨hdot, hempty⟩ := h.none hnone
    rw [hhead] at hdot hempty
    refine ⟨hdot, fun hhead => ?_⟩
    have hall := hempty hhead
    rcases List.append_eq_singleton_iff.mp hall with ⟨rfl, -⟩ | ⟨rfl, -⟩
    · exact (hne rfl).elim
    · rfl

theorem fits_bare (head : Head) : Fits head [[]] := ⟨by simp, by simp, by simp, by simp⟩

/-! ## Names -/

/-- The names of a head, and of pieces. -/
def Head.names : Head → List String
  | .here => ["."]
  | _ => []

def plain (ps : List (List Char)) : List String := (ps.filter (!·.isEmpty)).map String.ofList

theorem plain_append (ps more : List (List Char)) :
    plain (ps ++ more) = plain ps ++ plain more := by
  simp [plain]

theorem names_text (h : Fits head ps) :
    names (String.ofList (text head ps)) = head.names ++ plain ps := by
  have hsplit := List.splitOn_intercalate '/' h.clean h.ne_nil
  obtain ⟨piece, rest, rfl⟩ := List.exists_cons_of_ne_nil h.ne_nil
  rw [names, String.toList_ofList, text]
  cases head with
  | root =>
    rw [Head.chars, ← List.nil_append (['/'] ++ _), List.singleton_append,
      List.splitOn_append_cons_self, hsplit]
    rfl
  | here =>
    obtain rfl : piece = [] := by simpa using h.here rfl
    cases rest with
    | nil => rfl
    | cons next rest =>
      have hrest := h.clean
      rw [List.forall_mem_cons] at hrest
      rw [Head.chars, Text.intercalate_cons _ (List.cons_ne_nil next rest), List.nil_append,
        List.singleton_append]
      have hsplit := List.splitOn_intercalate '/' hrest.2 (List.cons_ne_nil next rest)
      rw [show '.' :: '/' :: _ = ['.'] ++ '/' :: _ from rfl, List.splitOn_append_cons_self, hsplit]
      rfl
  | none =>
    rw [Head.chars, List.nil_append, hsplit]
    rfl

theorem names_eq (p : String) : names p = (pieces p).1.names ++ plain (pieces p).2 := by
  obtain ⟨htext, hfits⟩ := text_pieces p
  rw [← names_text hfits, htext]

theorem text_bare (head : Head) : text head [[]] = text head [] := rfl

/-- The names of a part of a path. -/
theorem names_text_part (h : Fits head ps) (hup : up <+: ps) :
    names (String.ofList (text head up)) = head.names ++ plain up := by
  by_cases hne : up = []
  · rw [hne, ← text_bare, names_text (fits_bare head)]
    rfl
  · exact names_text (h.part hup hne)

/-! ## Parents -/

theorem parent?_of_concat {last : List Char} (h : dropVoid (pieces p).2 = up ++ [last]) :
    parent? p = some (String.ofList (text (pieces p).1 (dropVoid up))) := by
  unfold parent?
  dsimp only
  rw [h]
  split
  · next hnil => simp at hnil
  · rw [List.dropLast_concat]
    rfl

/-- A parent has the head and what is left of the pieces. If the head is all there is,
nothing is left. -/
theorem parent?_eq_some (h : parent? p = some q) :
    (pieces p).1 = .here ∧ q = "" ∨
      ∃ up last, dropVoid (pieces p).2 = up ++ [last] ∧
        q = String.ofList (text (pieces p).1 (dropVoid up)) := by
  rcases List.eq_nil_or_concat' (dropVoid (pieces p).2) with hnil | ⟨up, last, hbody⟩
  · unfold parent? at h
    dsimp only at h
    rw [hnil] at h
    dsimp only at h
    split at h
    · next hhere =>
      cases h
      exact .inl ⟨hhere, rfl⟩
    · cases h
  · rw [parent?_of_concat hbody] at h
    exact .inr ⟨up, last, hbody, (Option.some.inj h).symm⟩

theorem prefix_dropVoid (ps : List (List Char)) : dropVoid ps <+: ps :=
  List.rdropWhile_prefix isVoid ps

theorem prefix_of_dropVoid {last : List Char} (h : dropVoid ps = up ++ [last]) :
    dropVoid up <+: ps :=
  (prefix_dropVoid up).trans ((List.prefix_append up [last]).trans (h ▸ prefix_dropVoid ps))

theorem text_part (head : Head) (h : up <+: ps) : text head up <+: text head ps := by
  obtain ⟨more, rfl⟩ := h
  by_cases hup : up = []
  · simp [hup, text]
  by_cases hmore : more = []
  · simp [hmore]
  · rw [text, text, Text.intercalate_append hup hmore, ← List.append_assoc]
    exact List.prefix_append _ _

/-- A path begins with its parent. -/
theorem prefix_parent? (h : parent? p = some q) : q.toList <+: p.toList := by
  rcases parent?_eq_some h with ⟨-, rfl⟩ | ⟨up, last, hbody, rfl⟩
  · simp
  · have htext := congrArg String.toList (text_pieces p).1
    rw [String.toList_ofList] at htext
    rw [← htext, String.toList_ofList]
    exact text_part _ (prefix_of_dropVoid hbody)

/-- A walk along a path comes by its parent. -/
theorem names_parent? (h : parent? p = some q) : names q <+: names p := by
  rcases parent?_eq_some h with ⟨-, rfl⟩ | ⟨up, last, hbody, rfl⟩
  · exact List.nil_prefix
  · have hup := prefix_of_dropVoid hbody
    rw [names_text_part (text_pieces p).2 hup, names_eq p]
    obtain ⟨more, hmore⟩ := hup
    rw [← hmore, plain_append, ← List.append_assoc]
    exact List.prefix_append _ _

/-! ## Names of files -/

/-- What a file can be called. -/
structure IsName (n : String) : Prop where
  clean : '/' ∉ n.toList
  ne_empty : n ≠ ""
  ne_dot : n ≠ "."
  ne_dots : n ≠ ".."

variable {n : String}

theorem IsName.toList_ne_nil (h : IsName n) : n.toList ≠ [] := by simpa using h.ne_empty

theorem IsName.toList_ne_dot (h : IsName n) : n.toList ≠ ['.'] :=
  fun heq => h.ne_dot (by rw [← String.ofList_toList (s := n), heq])

theorem IsName.isVoid (h : IsName n) : isVoid n.toList = false := by
  simp [Path.isVoid, h.toList_ne_nil, h.toList_ne_dot]

theorem IsName.splitOn (h : IsName n) : n.toList.splitOn '/' = [n.toList] :=
  List.splitOn_eq_singleton h.clean

theorem IsName.isAbsolute (h : IsName n) : isAbsolute n = false := by
  rw [Path.isAbsolute, decide_eq_false_iff_not]
  exact fun hhead => h.clean (List.mem_of_mem_head? hhead)

theorem isName_of_mem_names (h : n ∈ names p) (hdot : n ≠ ".") (hdots : n ≠ "..") : IsName n := by
  obtain ⟨piece, hpiece, rfl⟩ := List.mem_map.mp h
  obtain ⟨hmem, hne⟩ := List.mem_filter.mp hpiece
  refine ⟨?_, by simpa using hne, hdot, hdots⟩
  rw [String.toList_ofList]
  exact Url.not_mem_of_mem_splitOn hmem

theorem find?_not_isVoid {l : List (List Char)} {x : List Char} (h : l.find? (!·.isEmpty) = some x)
    (hx : isVoid x = false) : l.find? (!isVoid ·) = some x := by
  induction l with
  | nil => cases h
  | cons piece rest ih =>
    rw [List.find?_cons] at h ⊢
    cases hpiece : piece.isEmpty with
    | true =>
      rw [hpiece] at h
      simp only [isVoid, hpiece]
      exact ih h
    | false =>
      rw [hpiece] at h
      cases h
      rw [hx]
      rfl

theorem getLast?_dropVoid (ps : List (List Char)) :
    (dropVoid ps).getLast? = ps.reverse.find? (!isVoid ·) := by
  rw [dropVoid, List.getLast?_reverse, List.find?_eq_head?_dropWhile_not]
  simp

/-- The file name is the last name, unless that is a dot or two. -/
theorem fileName?_of_names {init : List String} (h : names p = init ++ [n]) (hn : IsName n) :
    fileName? p = some n := by
  have hlast : (plain (pieces p).2).getLast? = some n := by
    rw [names_eq] at h
    rcases List.eq_nil_or_concat' (plain (pieces p).2) with hnil | ⟨before, last, hplain⟩
    · -- a head alone is no name
      rw [hnil, List.append_nil] at h
      have hmem : n ∈ (pieces p).1.names := by simp [h]
      cases hhead : (pieces p).1 <;> rw [hhead] at hmem
      · cases hmem
      · exact (hn.ne_dot (List.mem_singleton.mp hmem)).elim
      · cases hmem
    · rw [hplain, ← List.append_assoc, List.append_singleton_inj] at h
      rw [hplain, List.getLast?_concat, h.2]
  rw [plain, List.getLast?_map, List.getLast?_filter, Option.map_eq_some_iff] at hlast
  obtain ⟨piece, hpiece, rfl⟩ := hlast
  have hvoid := hn.isVoid
  rw [String.toList_ofList] at hvoid
  unfold fileName?
  rw [getLast?_dropVoid, find?_not_isVoid hpiece hvoid]
  dsimp only
  rw [if_neg]
  rintro rfl
  exact hn.ne_dots rfl

theorem not_mem_of_fileName? (h : fileName? p = some n) : '/' ∉ n.toList := by
  unfold fileName? at h
  split at h
  · next piece hlast =>
    split at h
    · cases h
    · cases h
      rw [String.toList_ofList]
      exact (text_pieces p).2.clean piece ((prefix_dropVoid _).subset (List.mem_of_getLast? hlast))
  · cases h

/-! ## Joining -/

theorem names_join (q : String) (hn : IsName n) : names (join q n) = names q ++ [n] := by
  have hplain : [n.toList].filter (!·.isEmpty) = [n.toList] := by simpa using hn.ne_empty
  have happend (r : List Char) :
      (r ++ '/' :: n.toList).splitOn '/' = r.splitOn '/' ++ [n.toList] := by
    rw [List.splitOn_append_cons_self, hn.splitOn]
  unfold join
  rw [hn.isAbsolute, if_neg Bool.false_ne_true]
  split
  · next hempty =>
    obtain rfl : q = "" := by simpa using hempty
    rw [names, hn.splitOn, hplain]
    simp [names]
  · split
    · next hlast =>
      -- the last piece of `q` is empty, and `n` comes in its place
      obtain ⟨r, hr⟩ := List.getLast?_eq_some_iff.mp hlast
      have hq : q.toList.splitOn '/' = r.splitOn '/' ++ [[]] := by
        rw [hr, List.splitOn_append_cons_self, List.splitOn_nil]
      rw [names, names, String.toList_append, hq, hr, List.append_assoc, List.singleton_append,
        happend]
      simp [hplain]
    · rw [names, names, String.append_assoc, String.toList_append, String.toList_append]
      rw [show "/".toList = ['/'] from rfl, List.singleton_append, happend]
      simp [hplain]

theorem fileName?_join (q : String) (hn : IsName n) : fileName? (join q n) = some n :=
  fileName?_of_names (names_join q hn) hn

theorem fits_concat (h : Fits head up) (hvoid : dropVoid up = up) (hn : IsName n) :
    Fits head (up ++ [n.toList]) := by
  have hhead : (up ++ [n.toList]).head? = up.head? := List.head?_append_of_ne_nil up h.ne_nil
  refine ⟨fun piece hpiece => ?_, by simp, fun hhere => by rw [hhead]; exact h.here hhere,
    fun hnone => ?_⟩
  · rcases List.mem_append.mp hpiece with hpiece | hpiece
    · exact h.clean piece hpiece
    · rw [List.mem_singleton.mp hpiece]
      exact hn.clean
  · obtain ⟨hdot, hempty⟩ := h.none hnone
    rw [hhead]
    refine ⟨hdot, fun hfirst => ?_⟩
    rw [hempty hfirst] at hvoid
    cases hvoid

/-- The last piece that is no void one ends the text. -/
theorem getLast?_text (head : Head) (hclean : ∀ piece ∈ up, '/' ∉ piece) (hvoid : dropVoid up = up)
    (hne : up ≠ []) : ∃ c, (text head up).getLast? = some c ∧ c ≠ '/' := by
  obtain ⟨init, last, rfl⟩ := (List.eq_nil_or_concat' up).resolve_left hne
  have hlast : last ≠ [] := by
    rintro rfl
    have hnot := List.rdropWhile_eq_self_iff.mp hvoid hne
    rw [List.getLast_concat] at hnot
    exact hnot rfl
  have hend : ∃ before, text head (init ++ [last]) = before ++ last := by
    by_cases hinit : init = []
    · exact ⟨head.chars, by simp [hinit, text]⟩
    · rw [text, Text.intercalate_append hinit (by simp)]
      exact ⟨head.chars ++ ['/'].intercalate init ++ ['/'], by simp⟩
  obtain ⟨before, hend⟩ := hend
  rw [hend, List.getLast?_append_of_ne_nil before hlast]
  refine ⟨last.getLast hlast, List.getLast?_eq_some_getLast hlast, fun heq => ?_⟩
  exact hclean last (by simp) (heq ▸ List.getLast_mem hlast)

/-- A name is joined as a piece of its own. -/
theorem join_text (h : Fits head ps) (hup : up <+: ps) (hvoid : dropVoid up = up) (hn : IsName n) :
    ∃ up', join (String.ofList (text head up)) n = String.ofList (text head (up' ++ [n.toList])) ∧
      Fits head (up' ++ [n.toList]) ∧ dropVoid up' = up := by
  have hbase : join (String.ofList (text head up)) n =
      if text head up = [] then n
      else if (text head up).getLast? = some '/' then String.ofList (text head up ++ n.toList)
      else String.ofList (text head up ++ '/' :: n.toList) := by
    simp [join, hn.isAbsolute, String.ofList_append, String.append_assoc]
  rw [hbase]
  by_cases hne : up = []
  · -- only the head is left, and whether a slash is added depends on it
    subst hne
    cases head with
    | root =>
      exact ⟨[], by simp [text, Head.chars], ⟨by simpa using hn.clean, by simp, nofun, nofun⟩, rfl⟩
    | here =>
      exact ⟨[[]], by simp [text, Head.chars],
        ⟨by simpa using hn.clean, by simp, fun _ => rfl, nofun⟩, rfl⟩
    | none =>
      refine ⟨[], by simp [text, Head.chars], ?_, rfl⟩
      exact ⟨by simpa using hn.clean, by simp, nofun, by simp [hn.toList_ne_nil, hn.toList_ne_dot]⟩
  · have hfits := h.part hup hne
    obtain ⟨c, hlast, hslash⟩ := getLast?_text head hfits.clean hvoid hne
    refine ⟨up, ?_, fits_concat hfits hvoid hn, hvoid⟩
    rw [if_neg, if_neg, text, text, Text.intercalate_append hne (by simp), List.append_assoc,
      List.intercalate_singleton]
    · rw [hlast]
      exact fun heq => hslash (Option.some.inj heq)
    · intro hnil
      rw [hnil] at hlast
      cases hlast

/-- A name joined to the parent of a path has the same parent. -/
theorem parent?_join (h : parent? p = some q) (hn : IsName n) : parent? (join q n) = some q := by
  have hjoin : ∃ head ps up, Fits head ps ∧ up <+: ps ∧ dropVoid up = up ∧
      q = String.ofList (text head up) := by
    rcases parent?_eq_some h with ⟨-, rfl⟩ | ⟨up, last, hbody, rfl⟩
    · exact ⟨.none, [[]], [], fits_bare _, List.nil_prefix, rfl, rfl⟩
    · exact ⟨_, _, _, (text_pieces p).2, prefix_of_dropVoid hbody,
        List.rdropWhile_idempotent isVoid up, rfl⟩
  obtain ⟨head, ps, up, hfits, hup, hvoid, rfl⟩ := hjoin
  obtain ⟨up', heq, hfits', hup'⟩ := join_text hfits hup hvoid hn
  have hpieces := pieces_text hfits'
  have hlast : dropVoid (up' ++ [n.toList]) = up' ++ [n.toList] :=
    List.rdropWhile_concat_neg isVoid up' n.toList (by simp [hn.isVoid])
  rw [heq, parent?_of_concat (by rw [hpieces]; exact hlast), hpieces, hup']

/-- What has a file name has a parent. -/
theorem exists_parent?_of_fileName? (h : fileName? p = some n) : ∃ q, parent? p = some q := by
  rcases List.eq_nil_or_concat' (dropVoid (pieces p).2) with hnil | ⟨up, last, hbody⟩
  · rw [fileName?, hnil] at h
    cases h
  · exact ⟨_, parent?_of_concat hbody⟩

end Path

/-! ## Siblings -/

namespace Disk

/-- The name of the sibling that is written first. -/
def tempName (path : String) : String := (Path.fileName? path).getD "export" ++ ".tmp"

theorem tempPath_eq (path : String) :
    tempPath path = Path.join ((Path.parent? path).getD ".") (tempName path) := rfl

theorem isName_tempName (path : String) : Path.IsName (tempName path) := by
  have hclean : '/' ∉ ((Path.fileName? path).getD "export").toList := by
    cases hname : Path.fileName? path with
    | none => decide
    | some name => exact Path.not_mem_of_fileName? hname
  have hne (s : String) (hs : s.toList.length < 4) : tempName path ≠ s := by
    intro heq
    have hlen := congrArg (·.toList.length) heq
    simp only [tempName, String.toList_append, List.length_append] at hlen
    rw [show ".tmp".toList.length = 4 from rfl] at hlen
    omega
  refine ⟨?_, hne _ (by decide), hne _ (by decide), hne _ (by decide)⟩
  rw [tempName, String.toList_append, List.mem_append, not_or]
  exact ⟨hclean, by decide⟩

theorem fileName?_tempPath (path : String) :
    Path.fileName? (tempPath path) = some (tempName path) := by
  rw [tempPath_eq, Path.fileName?_join _ (isName_tempName path)]

theorem tempName_ne {path name : String} (h : Path.fileName? path = some name) :
    tempName path ≠ name := by
  intro heq
  have hlen := congrArg String.length heq
  simp [tempName, h] at hlen

theorem tempPath_ne (path : String) : tempPath path ≠ path := by
  intro heq
  have hname := fileName?_tempPath path
  rw [heq] at hname
  exact tempName_ne hname rfl

/-- The sibling is in the same directory. -/
theorem parent?_tempPath {path name : String} (h : Path.fileName? path = some name) :
    Path.parent? (tempPath path) = Path.parent? path := by
  obtain ⟨q, hq⟩ := Path.exists_parent?_of_fileName? h
  rw [tempPath_eq, hq, Option.getD_some, Path.parent?_join hq (isName_tempName path)]

end Disk

end CatalogCrawl
