import CatalogCrawl.Toml.Reader
import Mathlib.Data.List.Nodup

/-! # The keys of a document

In a document that can be read no table has a key twice (`Toml.distinct_of_read?`), so that a key
has one value at most and it does not matter from which end a table is searched. Fields are only
ever set by `Toml.put`, which keeps the keys apart; the rest is to follow the fields down to the
table that is changed and up again. -/

namespace CatalogCrawl.Toml

variable {k : String} {v : Toml} {fs fs' : Fields} {origin : Origin}

/-- Values in which no table has a key twice. -/
inductive Distinct : Toml → Prop
  | str (s : String) : Distinct (.str s)
  | int (n : Int) : Distinct (.int n)
  | real (x : Real) : Distinct (.real x)
  | bool (b : Bool) : Distinct (.bool b)
  | time : Distinct .time
  | array {items : List Toml} (h : ∀ v ∈ items, Distinct v) : Distinct (.array items)
  | table {origin : Origin} {fs : Fields} (hkeys : (fs.map (·.1)).Nodup)
      (h : ∀ f ∈ fs, Distinct f.2) :
      Distinct (.table origin fs)
  | tables {els : List Fields} (hkeys : ∀ fs ∈ els, (fs.map (·.1)).Nodup)
      (h : ∀ fs ∈ els, ∀ f ∈ fs, Distinct f.2) : Distinct (.tables els)

/-- Fields without a key that stands twice, at any depth. -/
structure Fields.Distinct (fs : Fields) : Prop where
  keys : (fs.map (·.1)).Nodup
  values : ∀ f ∈ fs, Toml.Distinct f.2

theorem Fields.Distinct.nil : Fields.Distinct [] := ⟨List.nodup_nil, List.forall_mem_nil _⟩

theorem distinct_table_iff : Distinct (.table origin fs) ↔ fs.Distinct :=
  ⟨fun h => by cases h with | table hkeys h => exact ⟨hkeys, h⟩, fun h => .table h.keys h.values⟩

theorem distinct_tables_iff {els : List Fields} :
    Distinct (.tables els) ↔ ∀ fs ∈ els, fs.Distinct := by
  constructor
  · intro h fs hfs
    cases h with
    | tables hkeys h => exact ⟨hkeys fs hfs, h fs hfs⟩
  · exact fun h => .tables (fun fs hfs => (h fs hfs).keys) (fun fs hfs => (h fs hfs).values)

/-! ## Setting a field -/

theorem mem_of_find? (h : find? k fs = some v) : (k, v) ∈ fs := by
  obtain ⟨f, hf, rfl⟩ := Option.map_eq_some_iff.mp h
  have hk : f.1 = k := by simpa using List.find?_some hf
  exact hk ▸ List.mem_of_find?_eq_some hf

theorem Fields.Distinct.find? (h : fs.Distinct) (hfind : Toml.find? k fs = some v) :
    Toml.Distinct v :=
  h.values _ (mem_of_find? hfind)

theorem Fields.Distinct.put (h : fs.Distinct) (k : String) (hv : Toml.Distinct v) :
    Fields.Distinct (put k v fs) where
  keys := Keyed.nodup_put h.keys
  values f hf := by
    rcases Keyed.mem_put hf with rfl | hf
    · exact hv
    · exact h.values f hf

/-! ## Changing a table further down -/

/-- Changes after which no key stands twice if none did before. -/
def Keeps (f : Fields → Option Fields) : Prop :=
  ∀ fs fs', fs.Distinct → f fs = some fs' → fs'.Distinct

variable {f : Fields → Option Fields}

theorem Keeps.changeLast (hf : Keeps f) {els els' : List Fields} (hels : ∀ fs ∈ els, fs.Distinct)
    (h : changeLast f els = some els') : ∀ fs ∈ els', fs.Distinct := by
  fun_induction Toml.changeLast f els generalizing els' with
  | case1 => cases h
  | case2 fs =>
    obtain ⟨fs', hfs', rfl⟩ := Option.map_eq_some_iff.mp h
    rw [List.forall_mem_singleton] at hels ⊢
    exact hf _ _ hels hfs'
  | case3 fs rest _ ih =>
    obtain ⟨rest', hrest', rfl⟩ := Option.map_eq_some_iff.mp h
    rw [List.forall_mem_cons] at hels ⊢
    exact ⟨hels.1, ih hels.2 hrest'⟩

/-- Putting back a table that was found under a key and changed. -/
theorem Fields.Distinct.putTable (h : fs.Distinct) {changed : Option Fields}
    (hchanged : ∀ sub, changed = some sub → sub.Distinct)
    (hput : (changed.map fun sub => Toml.put k (.table origin sub) fs) = some fs') :
    fs'.Distinct := by
  obtain ⟨sub, hsub, rfl⟩ := Option.map_eq_some_iff.mp hput
  exact h.put k (distinct_table_iff.mpr (hchanged sub hsub))

/-- A change to the last of several tables keeps keys distinct if it does so within the table. -/
theorem Fields.Distinct.putTables (h : fs.Distinct) {els : List Fields} (hf : Keeps f)
    (hfind : Toml.find? k fs = some (.tables els))
    (hput : ((Toml.changeLast f els).map fun els => Toml.put k (.tables els) fs) = some fs') :
    fs'.Distinct := by
  obtain ⟨els', hels', rfl⟩ := Option.map_eq_some_iff.mp hput
  have hels := distinct_tables_iff.mp (h.find? hfind)
  exact h.put k (distinct_tables_iff.mpr (hf.changeLast hels hels'))

theorem keeps_assignIn (hv : v.Distinct) (takes : Bool) (ks : List String) :
    Keeps (assignIn takes ks v) := by
  induction ks generalizing takes with
  | nil =>
    intro fs fs' _ h
    cases h
  | cons k ks ih =>
    intro fs fs' hfs h
    cases ks with
    | nil =>
      unfold assignIn at h
      split at h
      · cases h
        exact hfs.put k hv
      · cases h
    | cons k' ks =>
      unfold assignIn at h
      split at h
      · exact hfs.putTable (fun sub => ih true _ _ .nil) h
      · next hfind =>
        exact hfs.putTable (fun sub => ih true _ _ (distinct_table_iff.mp (hfs.find? hfind))) h
      · next hfind =>
        exact hfs.putTable (fun sub => ih false _ _ (distinct_table_iff.mp (hfs.find? hfind))) h
      · next hfind => exact hfs.putTables (ih false) hfind h
      · cases h

theorem Keeps.within (hf : Keeps f) (path : List String) : Keeps (within f path) := by
  induction path with
  | nil => exact hf
  | cons k ks ih =>
    intro fs fs' hfs h
    unfold Toml.within at h
    split at h
    · exact hfs.putTable (fun sub => ih _ _ .nil) h
    · cases h
    · next hfind =>
      exact hfs.putTable (fun sub => ih _ _ (distinct_table_iff.mp (hfs.find? hfind))) h
    · next hfind => exact hfs.putTables ih hfind h
    · cases h

theorem keeps_openTable (k : String) : Keeps (openTable k) := by
  intro fs fs' hfs h
  unfold openTable at h
  split at h
  · cases h
    exact hfs.put k (distinct_table_iff.mpr .nil)
  · next hfind =>
    cases h
    exact hfs.put k (distinct_table_iff.mpr (distinct_table_iff.mp (hfs.find? hfind)))
  · cases h

theorem keeps_addTable (k : String) : Keeps (addTable k) := by
  intro fs fs' hfs h
  unfold addTable at h
  split at h
  · cases h
    exact hfs.put k (distinct_tables_iff.mpr (List.forall_mem_singleton.mpr .nil))
  · next hfind =>
    cases h
    have hels := distinct_tables_iff.mp (hfs.find? hfind)
    have hmore := List.forall_mem_append.mpr
      ⟨hels, List.forall_mem_singleton.mpr Fields.Distinct.nil⟩
    exact hfs.put k (distinct_tables_iff.mpr hmore)
  · cases h

theorem keeps_openHeader {name : String → Fields → Option Fields} (hname : ∀ k, Keeps (name k))
    (path : List String) : Keeps (openHeader name path) := by
  intro fs fs' hfs h
  unfold openHeader at h
  split at h
  · exact (hname _).within _ _ _ hfs h
  · cases h

/-! ## Reading -/

theorem distinct_scalar? {cs : List Char} (h : scalar? cs = some v) : v.Distinct := by
  unfold scalar? at h
  split at h
  · cases h
    exact .bool _
  split at h
  · cases h
    exact .bool _
  split at h
  · cases h
    exact .int _
  split at h
  · cases h
    exact .real _
  split at h
  · cases h
    exact .time
  · cases h

/-- What is read with so much fuel has no key twice. -/
structure Distinguishes (fuel : Nat) : Prop where
  value : ∀ {depth cs v rest}, readValue fuel depth cs = some (v, rest) → v.Distinct
  items : ∀ {depth cs vs rest}, readItems fuel depth cs = some (vs, rest) → ∀ v ∈ vs, v.Distinct
  fields : ∀ {depth fs cs fs' rest}, fs.Distinct → readFields fuel depth fs cs = some (fs', rest) →
    fs'.Distinct

section

variable {fuel depth : Nat} {cs rest : List Char} (hfuel : Distinguishes fuel)
include hfuel

theorem Distinguishes.value_succ (h : readValue (fuel + 1) depth cs = some (v, rest)) :
    v.Distinct := by
  unfold readValue at h
  split at h
  · obtain ⟨_, _, heq⟩ := Option.map_eq_some_iff.mp h
    cases heq
    exact .str _
  · obtain ⟨_, _, heq⟩ := Option.map_eq_some_iff.mp h
    cases heq
    exact .str _
  · split at h
    · cases h
    · obtain ⟨_, hread, heq⟩ := Option.map_eq_some_iff.mp h
      cases heq
      exact .array (hfuel.items hread)
  · split at h
    · cases h
    · obtain ⟨_, hread, heq⟩ := Option.map_eq_some_iff.mp h
      cases heq
      exact distinct_table_iff.mpr (hfuel.fields .nil hread)
  · obtain ⟨_, hscalar, heq⟩ := Option.map_eq_some_iff.mp h
    cases heq
    exact distinct_scalar? hscalar

theorem Distinguishes.items_succ {vs : List Toml}
    (h : readItems (fuel + 1) depth cs = some (vs, rest)) : ∀ v ∈ vs, v.Distinct := by
  unfold readItems at h
  split at h
  · cases h
    exact List.forall_mem_nil _
  · obtain ⟨⟨v, more⟩, hread, h⟩ := Option.bind_eq_some_iff.mp h
    dsimp only at h
    split at h
    · obtain ⟨⟨vs', more'⟩, hmore, heq⟩ := Option.bind_eq_some_iff.mp h
      cases heq
      exact List.forall_mem_cons.mpr ⟨hfuel.value hread, hfuel.items hmore⟩
    · cases h
      exact List.forall_mem_singleton.mpr (hfuel.value hread)
    · cases h

theorem Distinguishes.fields_succ (hfs : fs.Distinct)
    (h : readFields (fuel + 1) depth fs cs = some (fs', rest)) : fs'.Distinct := by
  unfold readFields at h
  split at h
  · cases h
    exact hfs
  · obtain ⟨⟨key, more⟩, -, h⟩ := Option.bind_eq_some_iff.mp h
    dsimp only at h
    split at h
    · obtain ⟨⟨v, more'⟩, hread, h⟩ := Option.bind_eq_some_iff.mp h
      obtain ⟨fs₁, hassign, h⟩ := Option.bind_eq_some_iff.mp h
      have hfs₁ := keeps_assignIn (hfuel.value hread) true key _ _ hfs hassign
      dsimp only at h
      split at h
      · exact hfuel.fields hfs₁ h
      · cases h
        exact hfs₁
      · cases h
    · cases h

end

theorem distinguishes (fuel : Nat) : Distinguishes fuel := by
  induction fuel with
  | zero =>
    refine ⟨fun h => ?_, fun h => ?_, fun _ h => ?_⟩
    · cases h
    · cases h
    · cases h
  | succ fuel ih => exact ⟨ih.value_succ, ih.items_succ, ih.fields_succ⟩

theorem distinct_readLines {fuel : Nat} {path : List String} {cs : List Char} (hfs : fs.Distinct)
    (h : readLines fuel path fs cs = some fs') : fs'.Distinct := by
  induction fuel generalizing path fs cs with
  | zero => cases h
  | succ fuel ih =>
    unfold readLines at h
    split at h
    · cases h
      exact hfs
    · exact ih hfs h
    split at h
    · obtain ⟨⟨key, more⟩, -, h⟩ := Option.bind_eq_some_iff.mp h
      dsimp only at h
      split at h
      · obtain ⟨rest, -, h⟩ := Option.bind_eq_some_iff.mp h
        obtain ⟨fs₁, hopen, h⟩ := Option.bind_eq_some_iff.mp h
        exact ih (keeps_openHeader keeps_addTable key _ _ hfs hopen) h
      · cases h
    · obtain ⟨⟨key, more⟩, -, h⟩ := Option.bind_eq_some_iff.mp h
      dsimp only at h
      split at h
      · obtain ⟨rest, -, h⟩ := Option.bind_eq_some_iff.mp h
        obtain ⟨fs₁, hopen, h⟩ := Option.bind_eq_some_iff.mp h
        exact ih (keeps_openHeader keeps_openTable key _ _ hfs hopen) h
      · cases h
    · obtain ⟨⟨key, more⟩, -, h⟩ := Option.bind_eq_some_iff.mp h
      dsimp only at h
      split at h
      · obtain ⟨⟨v, more'⟩, hread, h⟩ := Option.bind_eq_some_iff.mp h
        obtain ⟨rest, -, h⟩ := Option.bind_eq_some_iff.mp h
        obtain ⟨fs₁, hassign, h⟩ := Option.bind_eq_some_iff.mp h
        have hv := (distinguishes _).value hread
        exact ih ((keeps_assignIn hv true key).within path _ _ hfs hassign) h
      · cases h

theorem distinct_of_read? {s : String} (h : read? s = some fs) : fs.Distinct :=
  distinct_readLines .nil h

/-! ## Looking up a key -/

theorem find?_append (k : String) (fs fs' : Fields) :
    find? k (fs ++ fs') = (find? k fs).or (find? k fs') := by
  rw [find?, List.find?_append, Option.map_or]
  rfl

/-- A field with a new key behind the others. -/
theorem find?_concat (h : ((fs ++ [(k, v)]).map (·.1)).Nodup) :
    (find? · (fs ++ [(k, v)])) = Function.update (find? · fs) k (some v) := by
  rw [List.map_append, List.nodup_append_comm] at h
  have hnew : find? k fs = none := by
    rw [Option.eq_none_iff_forall_ne_some]
    intro w hw
    obtain ⟨hnot, -⟩ := List.nodup_cons.mp h
    exact hnot (List.mem_map.mpr ⟨(k, w), mem_of_find? hw, rfl⟩)
  funext k'
  rw [find?_append]
  by_cases hk : k' = k
  · rw [hk, hnew, Function.update_self]
    simp [find?]
  · rw [Function.update_of_ne hk]
    simp [find?, Ne.symm hk]

end CatalogCrawl.Toml
