import CatalogCrawl.Config.Environment
import Mathlib.Data.List.TakeWhile

/-! # Lookups in the environment

A lookup may read the file `.env` into the environment, so that later lookups see another
environment than earlier ones. Each finds what it would have found alone all the same
(`Environment.lookups_independent`), for two reasons. Whether a line of the file is bad, and which
variable it sets, does not depend on the variables it refers to (`DotEnv.SameLine`), so reading the
file a second time stops at the same line, and every variable before that line is set already
(`Environment.loadLines_of_loaded`). And the environment only grows at its end, so a variable keeps
the value that it has (`Environment.get?_mono`). -/

namespace CatalogCrawl

namespace DotEnv

/-! ## What a line does whatever the variables are -/

variable (l l' : Lookup)

/-- How far a value has been read, without what has been read. -/
def ValueState.shape (s : ValueState) : ValueState := { s with output := [] }

/-- What a variable stands for goes to the output and does not tell on how the reader goes on. -/
theorem ValueState.shape_refer (s : ValueState) (out : List Char) (kind : Reference)
    (name : List Char) (c : Char) :
    (refer l' { s with output := out } kind name c).shape = (s.refer l kind name c).shape := by
  cases kind <;> simp only [refer, apply_ite shape] <;> rfl

theorem ValueState.shape_next (s : ValueState) (out : List Char) (c : Char) :
    (next l' { s with output := out } c).map shape = (s.next l c).map shape := by
  obtain ⟨output, strong, weak, escaped, ending, reference⟩ := s
  cases reference with
  | none =>
    simp only [next, apply_ite (Option.map shape), apply_ite shape, Option.map_some, Option.map_map]
    rfl
  | some r =>
    -- only within a reference are the variables asked for
    have hrefer := shape_refer l l' ⟨output, strong, weak, escaped, ending, some r⟩ out r.1 r.2 c
    simp only [next, apply_ite (Option.map shape), apply_ite shape, Option.map_some, Option.map_map,
      hrefer]
    rfl

theorem ValueState.eq_of_shape {s s' : ValueState} (h : s'.shape = s.shape) :
    s' = { s with output := s'.output } := by
  cases s
  cases s'
  simpa [shape] using h

theorem ValueState.isSome_finish (s : ValueState) (out : List Char) :
    (finish l' { s with output := out }).isSome = (s.finish l).isSome := by
  unfold finish
  dsimp only
  split
  · rfl
  split <;> rfl

/-- Whether a value can be read does not depend on the variables. -/
theorem isSome_readValue (cs : List Char) (s : ValueState) (out : List Char) :
    (readValue l' cs { s with output := out }).isSome = (readValue l cs s).isSome := by
  induction cs generalizing s out with
  | nil => exact ValueState.isSome_finish l l' s out
  | cons c cs ih =>
    unfold readValue
    dsimp only
    split
    · split
      · exact ih s out
      split
      · exact ValueState.isSome_finish l l' s out
      · rfl
    · have hshape := ValueState.shape_next l l' s out c
      cases hnext : s.next l c with
      | none =>
        rw [hnext, Option.map_none, Option.map_eq_none_iff] at hshape
        rw [hshape]
      | some t =>
        rw [hnext, Option.map_some, Option.map_eq_some_iff] at hshape
        obtain ⟨t', hnext', ht'⟩ := hshape
        rw [hnext', ValueState.eq_of_shape ht']
        exact ih t t'.output

theorem not_mem_of_readKey {cs key rest : List Char} (h : readKey cs = some (key, rest)) :
    '=' ∉ key := by
  unfold readKey at h
  split at h
  · cases h
    intro hmem
    exact absurd (List.mem_takeWhile_imp hmem) (by decide)
  · cases h

/-- The name of a variable that a line sets has no equals sign. -/
theorem not_mem_of_readTarget {cs key rest : List Char} (h : readTarget cs = some (key, rest)) :
    '=' ∉ key := by
  unfold readTarget at h
  obtain ⟨⟨first, more⟩, hfirst, h⟩ := Option.bind_eq_some_iff.mp h
  dsimp only at h
  split at h
  · cases h
    exact not_mem_of_readKey hfirst
  split at h
  · obtain ⟨⟨second, more'⟩, hsecond, h⟩ := Option.bind_eq_some_iff.mp h
    dsimp only at h
    split at h
    · cases h
      exact not_mem_of_readKey hsecond
    · cases h
  · cases h

/-- What two readings of one line have in common: they fail, they find nothing, or they
set one variable. -/
inductive SameLine : (first second : Except Unit (Option (List Char × List Char))) → Prop
  | bad : SameLine (.error ()) (.error ())
  | nothing : SameLine (.ok none) (.ok none)
  | sets {key : List Char} (value value' : List Char) (hkey : '=' ∉ key) :
      SameLine (.ok (some (key, value))) (.ok (some (key, value')))

theorem sameLine_readLine (line : List Char) : SameLine (readLine l line) (readLine l' line) := by
  unfold readLine
  dsimp only
  split
  · exact .nothing
  split
  · exact .bad
  next key rest htarget =>
    have hkey := not_mem_of_readTarget htarget
    split
    · exact .sets [] [] hkey
    have hsome := isSome_readValue l l' (Text.trimStart rest) {} []
    cases hvalue : readValue l (Text.trimStart rest) {} with
    | none =>
      rw [hvalue, Option.isSome_none, Option.isSome_eq_false_iff,
        Option.isNone_iff_eq_none] at hsome
      rw [hsome]
      exact .bad
    | some value =>
      rw [hvalue, Option.isSome_some] at hsome
      obtain ⟨value', hvalue'⟩ := Option.isSome_iff_exists.mp hsome
      rw [hvalue']
      exact .sets value value' hkey

end DotEnv

namespace Environment

variable {env env' : Environment} {name value : String}

/-! ## What stays set -/

theorem find?_mono (h : env <+: env') (hfind : env.find? name = some value) :
    env'.find? name = some value := by
  obtain ⟨more, rfl⟩ := h
  unfold find? at hfind ⊢
  obtain ⟨f, hf, rfl⟩ := Option.map_eq_some_iff.mp hfind
  rw [List.find?_append, hf]
  rfl

theorem get?_mono (h : env <+: env') (hget : env.get? name = some value) :
    env'.get? name = some value := by
  unfold get? at hget ⊢
  dsimp only at hget ⊢
  split at hget
  · exact find?_mono h hget
  · obtain ⟨v, hv, hrest⟩ := Option.bind_eq_some_iff.mp hget
    exact Option.bind_eq_some_iff.mpr ⟨v, find?_mono h hv, hrest⟩

theorem nonBlank?_mono (h : env <+: env') (hget : env.nonBlank? name = some value) :
    env'.nonBlank? name = some value := by
  unfold nonBlank? at hget ⊢
  cases hv : env.get? name with
  | none => simp [hv] at hget
  | some v =>
    rw [hv] at hget
    rw [get?_mono h hv]
    exact hget

/-- A name without an equals sign is looked for as it is. -/
theorem get?_of_not_mem (h : '=' ∉ name.toList) : env.get? name = env.find? name := by
  have hkey : name.toList.takeWhile (· ≠ '=') = name.toList := by
    rw [List.takeWhile_eq_self_iff]
    intro c hc
    exact decide_eq_true fun heq => h (heq ▸ hc)
  unfold get?
  dsimp only
  rw [hkey, List.drop_length]

theorem setIfUnset_of_isSome (h : (env.get? name).isSome) (value : String) :
    env.setIfUnset name value = env :=
  if_pos h

theorem grows_setIfUnset (env : Environment) (name value : String) :
    env <+: env.setIfUnset name value := by
  unfold setIfUnset
  split
  · exact List.prefix_rfl
  · exact List.prefix_append _ _

/-- After a variable has been set if it was unset, it is set. -/
theorem isSome_get?_setIfUnset (h : '=' ∉ name.toList) (env : Environment) (value : String) :
    ((env.setIfUnset name value).get? name).isSome := by
  unfold setIfUnset
  split
  · assumption
  · rw [get?_of_not_mem h, find?, Option.isSome_map, List.find?_isSome]
    exact ⟨(name, value), by simp, by simp⟩

/-! ## Reading a file -/

variable {lines : List (Except Unit (List Char))} {earlier earlier' : Environment}

theorem grows_loadLines : env <+: loadLines lines earlier env := by
  fun_induction loadLines lines earlier env with
  | case1 | case2 | case3 => exact List.prefix_rfl
  | case4 _ _ _ _ _ _ ih => exact ih
  | case5 _ _ _ _ _ _ _ _ _ _ ih => exact (grows_setIfUnset _ _ _).trans ih

/-- Lines that have been read into an environment set nothing when they are read again. -/
theorem loadLines_of_loaded (h : loadLines lines earlier env <+: env') (earlier' : Environment) :
    loadLines lines earlier' env' = env' := by
  induction lines generalizing earlier earlier' env with
  | nil => rfl
  | cons line rest ih =>
    cases line with
    | error => rfl
    | ok line =>
      unfold loadLines at h ⊢
      dsimp only at h ⊢
      generalize hfirst : DotEnv.readLine _ line = first at h
      generalize hsecond : DotEnv.readLine _ line = second
      have hsame : DotEnv.SameLine first second := hfirst ▸ hsecond ▸ DotEnv.sameLine_readLine ..
      cases hsame with
      | bad => rfl
      | nothing => exact ih h earlier'
      | @sets key value value' hkey =>
        -- the first reading has set the variable, so the second does not
        dsimp only at h ⊢
        have hname : '=' ∉ (String.ofList key).toList := by rwa [String.toList_ofList]
        have hset := isSome_get?_setIfUnset hname env (String.ofList value)
        obtain ⟨v, hv⟩ := Option.isSome_iff_exists.mp hset
        have hv' := get?_mono (grows_loadLines.trans h) hv
        rw [setIfUnset_of_isSome (hv' ▸ rfl)]
        exact ih h _

variable {disk : Disk} {path : String}

theorem grows_load (h : env.load disk path = some env') : env <+: env' := by
  unfold load at h
  split at h
  · cases h
    exact grows_loadLines
  · cases h

/-- Reading a file that has been read changes nothing. -/
theorem load_of_load (h : env.load disk path = some env') : env'.load disk path = some env' := by
  unfold load at h ⊢
  split at h
  · cases h
    exact congrArg some (loadLines_of_loaded List.prefix_rfl [])
  · cases h

/-! ## One lookup after the other -/

variable {dir key : String}

theorem lookup_of_nonBlank (h : env.nonBlank? (variableOf key) = some value) :
    env.lookup disk dir key = (some value, env) := by
  rw [lookup, h]

/-- A variable that is not set is looked for once more when the file has been read. -/
theorem lookup_of_load (h : env.nonBlank? (variableOf key) = none)
    (hload : env.load disk (Path.join dir ".env") = some env') :
    env.lookup disk dir key = (env'.nonBlank? (variableOf key), env') := by
  rw [lookup, h, hload]

/-- Without a file nothing is found, and nothing changes. -/
theorem lookup_of_no_file (h : env.nonBlank? (variableOf key) = none)
    (hload : env.load disk (Path.join dir ".env") = none) :
    env.lookup disk dir key = (none, env) := by
  rw [lookup, h, hload]

/-- The values for several keys, looked for in `dir` one after the other, and the
environment after that. -/
def lookups (disk : Disk) (dir : String) :
    List String → Environment → List (Option String) × Environment
  | [], env => ([], env)
  | key :: keys, env =>
    let (value, env) := env.lookup disk dir key
    let (values, env) := lookups disk dir keys env
    (value :: values, env)

/-- The later lookups start from the environment that the first one leaves. -/
theorem lookups_cons (key : String) (keys : List String) (env : Environment) :
    lookups disk dir (key :: keys) env =
      ((env.lookup disk dir key).1 :: (lookups disk dir keys (env.lookup disk dir key).2).1,
        (lookups disk dir keys (env.lookup disk dir key).2).2) := by
  rw [lookups]

/-- What lookups may have made of an environment: it is as it was, or the file has been
read into it. -/
inductive Reached (disk : Disk) (dir : String) (env : Environment) : Environment → Prop
  | start : Reached disk dir env env
  | loaded {env' : Environment} (h : env.load disk (Path.join dir ".env") = some env') :
      Reached disk dir env env'

theorem Reached.grows (h : Reached disk dir env env') : env <+: env' := by
  cases h with
  | start => exact List.prefix_rfl
  | loaded h => exact grows_load h

/-- A lookup finds after others what it finds before them, and leaves what they may leave. -/
theorem Reached.lookup (h : Reached disk dir env env') (key : String) :
    (env'.lookup disk dir key).1 = (env.lookup disk dir key).1 ∧
      Reached disk dir env (env'.lookup disk dir key).2 := by
  cases hvalue : env.nonBlank? (variableOf key) with
  | some value =>
    rw [lookup_of_nonBlank hvalue, lookup_of_nonBlank (nonBlank?_mono h.grows hvalue)]
    exact ⟨rfl, h⟩
  | none =>
    cases h with
    | start =>
      refine ⟨rfl, ?_⟩
      cases hload : env.load disk (Path.join dir ".env") with
      | none =>
        rw [lookup_of_no_file hvalue hload]
        exact .start
      | some loaded =>
        rw [lookup_of_load hvalue hload]
        exact .loaded hload
    | loaded hload =>
      rw [lookup_of_load hvalue hload]
      cases hvalue' : env'.nonBlank? (variableOf key) with
      | some value =>
        rw [lookup_of_nonBlank hvalue']
        exact ⟨rfl, .loaded hload⟩
      | none =>
        rw [lookup_of_load hvalue' (load_of_load hload)]
        exact ⟨hvalue', .loaded hload⟩

/-- After other lookups each one gives what it would have given at first. -/
theorem Reached.lookups (h : Reached disk dir env env') (keys : List String) :
    (lookups disk dir keys env').1 = keys.map (fun key => (env.lookup disk dir key).1) ∧
      Reached disk dir env (lookups disk dir keys env').2 := by
  induction keys generalizing env' with
  | nil => exact ⟨rfl, h⟩
  | cons key keys ih =>
    obtain ⟨hvalue, hreached⟩ := h.lookup key
    obtain ⟨hvalues, hend⟩ := ih hreached
    rw [lookups_cons, List.map_cons, hvalue, hvalues]
    exact ⟨rfl, hend⟩

/-- Lookups do not depend on each other, and no variable that is set is changed by them. -/
theorem lookups_independent (disk : Disk) (dir : String) (keys : List String) (env : Environment) :
    (lookups disk dir keys env).1 = keys.map (fun key => (env.lookup disk dir key).1) ∧
    ∀ name value, env.get? name = some value →
      (lookups disk dir keys env).2.get? name = some value := by
  have hstart : Reached disk dir env env := .start
  obtain ⟨hvalues, hreached⟩ := hstart.lookups keys
  exact ⟨hvalues, fun name value => get?_mono hreached.grows⟩

/-- A file that refers to a variable before it is set, sets one twice, one to nothing and one that
may be set already, and stops at a bad line. -/
def halfBad : Disk where
  cwd := []
  entries := [([".env"], .file (.text
    ("A=$\x7bAPPCRAWL_B\x7d-x\nAPPCRAWL_B=b\nAPPCRAWL_B=c\nAPPCRAWL_R=$\x7bA\x7d\n" ++
      "APPCRAWL_E=\nAPPCRAWL_S=t\n-\nAPPCRAWL_L=l")))]

theorem lookups_independent_halfBad :
    let env : Environment := [("APPCRAWL_S", " s ")]
    (lookups halfBad "." ["E", "R", "S", "L", "B"] env).1 =
      [none, some "-x", some "s", none, some "b"] ∧
      env.get? "APPCRAWL_S" = some " s " ∧
      (lookups halfBad "." ["E", "R", "S", "L", "B"] env).2.get? "APPCRAWL_S" = some " s " := by
  intro env
  obtain ⟨hvalues, hkept⟩ := lookups_independent halfBad "." ["E", "R", "S", "L", "B"] env
  have halone : ["E", "R", "S", "L", "B"].map (fun key => (env.lookup halfBad "." key).1) =
      [none, some "-x", some "s", none, some "b"] := by decide +kernel
  have hset : env.get? "APPCRAWL_S" = some " s " := by decide
  exact ⟨hvalues.trans halone, hset, hkept _ _ hset⟩

end Environment

end CatalogCrawl
