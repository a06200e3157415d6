import CatalogCrawl.Catalog.Item
import Mathlib.Data.List.Basic

/-! # What a listing is read as

A listing gives an item for every element that has an id and a warning for every other one,
each in their order (`Item.parsePage_partition`). The elements are those of an array, however
it is wrapped. -/

namespace CatalogCrawl

theorem Json.str?_eq_some_iff {v : Json} {s : String} : v.str? = some s ↔ v = .str s := by
  cases v <;> simp [Json.str?]

namespace Item

variable {raw body : Json} {id url : String} {raws : List Json}

/-- The elements that a body lists: those of an array, or of the array under `results`. -/
inductive Lists : Json → List Json → Prop
  | array (raws : List Json) : Lists (.arr raws) raws
  | wrapped {fields : List (String × Json)} {raws : List Json}
      (h : (Json.obj fields).get? "results" = some (.arr raws)) : Lists (.obj fields) raws

/-- The id of an element. It is under `appId`, or under `id` where there is no `appId` at all. -/
inductive Named : Json → String → Prop
  | byAppId {fields : List (String × Json)} {id : String}
      (h : (Json.obj fields).get? "appId" = some (.str id)) : Named (.obj fields) id
  | byId {fields : List (String × Json)} {id : String}
      (hnone : (Json.obj fields).get? "appId" = none)
      (h : (Json.obj fields).get? "id" = some (.str id)) : Named (.obj fields) id

theorem idOf?_eq_some_iff : idOf? raw = some id ↔ Named raw id := by
  constructor
  · intro h
    cases raw with
    | obj fields =>
      unfold idOf? at h
      split at h
      · next v hv =>
        rw [Json.str?_eq_some_iff] at h
        exact .byAppId (h ▸ hv)
      · next hnone =>
        obtain ⟨v, hv, hstr⟩ := Option.bind_eq_some_iff.mp h
        rw [Json.str?_eq_some_iff] at hstr
        exact .byId hnone (hstr ▸ hv)
    | _ => cases h
  · intro h
    cases h with
    | byAppId h => simp [idOf?, h, Json.str?]
    | byId hnone h => simp [idOf?, hnone, h, Json.str?]

/-- Elements with an id. -/
def Identified (raw : Json) : Prop := ∃ id, Named raw id

theorem isSome_idOf?_iff : (idOf? raw).isSome ↔ Identified raw := by
  simp only [Option.isSome_iff_exists, idOf?_eq_some_iff, Identified]

instance : DecidablePred Identified := fun _ => decidable_of_iff _ isSome_idOf?_iff

theorem elements_eq_ok_iff : elements url body = .ok raws ↔ Lists body raws := by
  constructor
  · intro h
    unfold elements at h
    split at h
    · cases h
      exact .array _
    · split at h
      · next hresults =>
        cases h
        exact .wrapped hresults
      · cases h
    · cases h
  · intro h
    cases h with
    | array => rfl
    | wrapped h => rw [elements, h]

theorem parsePage_of_lists (h : Lists body raws) :
    parsePage url body = (.ok (ofElements url raws).1, (ofElements url raws).2) := by
  rw [parsePage, elements_eq_ok_iff.mpr h]

theorem parsePage_of_not_lists (url : String) (h : ∀ raws, ¬Lists body raws) :
    ∃ reason, parsePage url body = (.error (.malformed url reason), []) := by
  unfold parsePage
  cases helements : elements url body with
  | ok raws => exact (h raws (elements_eq_ok_iff.mp helements)).elim
  | error e =>
    unfold elements at helements
    split at helements
    · cases helements
    · split at helements
      · cases helements
      · cases helements
        exact ⟨_, rfl⟩
    · cases helements
      exact ⟨_, rfl⟩

/-- Every element is an item or gives a warning that shows it, and both keep their order. -/
structure Partition (url : String) (raws : List Json) (items : List Item)
    (warnings : List Log.Record) : Prop where
  raws_eq : items.map (·.raw) = raws.filter (Identified ·)
  named : ∀ item ∈ items, Named item.raw item.id
  warnings_eq : warnings = (raws.filter (¬Identified ·)).map fun raw =>
    ⟨.warn, .client, s!"Skipping item without appId from {url}: {raw.text}"⟩
  total : items.length + warnings.length = raws.length

theorem map_raw_ofJson? (raw : Json) :
    (ofJson? raw).map (·.raw) = Option.guard (Identified ·) raw := by
  cases hid : idOf? raw with
  | none =>
    have hnot : ¬Identified raw := by simp [← isSome_idOf?_iff, hid]
    simp [ofJson?, hid, Option.guard, hnot]
  | some id =>
    have hsome : Identified raw := ⟨id, idOf?_eq_some_iff.mp hid⟩
    simp [ofJson?, hid, Option.guard, hsome]

theorem partition_ofElements (url : String) (raws : List Json) :
    Partition url raws (ofElements url raws).1 (ofElements url raws).2 := by
  have hraws : ((ofElements url raws).1).map (·.raw) = raws.filter (Identified ·) := by
    rw [ofElements, List.map_filterMap, ← List.filterMap_eq_filter]
    exact congrArg (List.filterMap · raws) (funext map_raw_ofJson?)
  have hwarnings : (ofElements url raws).2 = (raws.filter (¬Identified ·)).map (skipped url) := by
    have hnone : (fun raw => (idOf? raw).isNone) = fun raw => decide ¬Identified raw := by
      funext raw
      rw [Bool.eq_iff_iff, decide_eq_true_iff, ← isSome_idOf?_iff]
      simp
    rw [ofElements, hnone]
  refine ⟨hraws, ?_, hwarnings, ?_⟩
  · intro item hitem
    obtain ⟨raw, -, hraw⟩ := List.mem_filterMap.mp hitem
    obtain ⟨id, hid, rfl⟩ := Option.map_eq_some_iff.mp hraw
    exact idOf?_eq_some_iff.mp hid
  · have hitems := congrArg List.length hraws
    rw [List.length_map] at hitems
    rw [hitems, hwarnings, List.length_map]
    simp only [decide_not]
    exact (List.length_eq_length_filter_add _).symm

/-- Elements are taken one by one, in their order. -/
theorem ofElements_append (url : String) (xs ys : List Json) :
    ofElements url (xs ++ ys) =
      ((ofElements url xs).1 ++ (ofElements url ys).1,
        (ofElements url xs).2 ++ (ofElements url ys).2) := by
  simp [ofElements]

/-- Reading a listing succeeds if it lists elements, loses none of them, and goes
element by element. -/
theorem parsePage_partition (url : String) :
    (∀ body, (∃ items, (parsePage url body).1 = .ok items) ↔ ∃ raws, Lists body raws) ∧
    (∀ body, (∀ raws, ¬Lists body raws) →
      ∃ reason, parsePage url body = (.error (.malformed url reason), [])) ∧
    (∀ body raws, Lists body raws → parsePage url body = parsePage url (.arr raws)) ∧
    (∀ raws, ∃ items warnings,
      parsePage url (.arr raws) = (.ok items, warnings) ∧ Partition url raws items warnings) ∧
    (∀ xs ys, ∃ items items' warnings warnings', parsePage url (.arr xs) = (.ok items, warnings) ∧
      parsePage url (.arr ys) = (.ok items', warnings') ∧
      parsePage url (.arr (xs ++ ys)) = (.ok (items ++ items'), warnings ++ warnings')) := by
  refine ⟨fun body => ⟨?_, ?_⟩, fun body => parsePage_of_not_lists url, ?_, ?_, ?_⟩
  · rintro ⟨items, hok⟩
    by_contra hnot
    obtain ⟨reason, herror⟩ := parsePage_of_not_lists url (not_exists.mp hnot)
    rw [herror] at hok
    cases hok
  · rintro ⟨raws, hlists⟩
    exact ⟨_, congrArg Prod.fst (parsePage_of_lists hlists)⟩
  · intro body raws hlists
    rw [parsePage_of_lists hlists, parsePage_of_lists (.array raws)]
  · intro raws
    exact ⟨_, _, parsePage_of_lists (.array raws), partition_ofElements url raws⟩
  · intro xs ys
    refine ⟨_, _, _, _, parsePage_of_lists (.array xs), parsePage_of_lists (.array ys), ?_⟩
    rw [parsePage_of_lists (.array (xs ++ ys)), ofElements_append]

/-- Elements of every type, of which the fourth and the seventh have an id. -/
def assorted : List Json :=
  [.str "a", .int 3, .arr [.obj [("appId", .str "b")]], .obj [("id", .str "c")],
    .obj [("appId", .null), ("id", .str "d")], .obj [("id", .int 4)],
    .obj [("appId", .str "e"), ("id", .str "f")], .null]

theorem parsePage_partition_assorted :
    let body := Json.obj [("next", .int 2), ("results", .arr assorted)]
    Lists body assorted ∧
      (∃ items warnings, parsePage "u" body = (.ok items, warnings) ∧
        items.map (·.id) = ["c", "e"] ∧
        warnings.length = 6) ∧
      ∃ reason, parsePage "u" (.obj [("results", .null)]) =
        (.error (.malformed "u" reason), []) := by
  obtain ⟨-, hmalformed, hwrapped, hpartition, -⟩ := parsePage_partition "u"
  have hlists : Lists (.obj [("next", .int 2), ("results", .arr assorted)]) assorted := .wrapped rfl
  obtain ⟨items, warnings, hparse, hparts⟩ := hpartition assorted
  have hids : items.map (·.id) = ["c", "e"] := by
    cases hparse
    rfl
  have hcount : items.length = 2 := by
    rw [← List.length_map (·.id), hids]
    rfl
  have htotal : items.length + warnings.length = 8 := hparts.total
  refine ⟨hlists, ⟨items, warnings, (hwrapped _ _ hlists).trans hparse, hids, by omega⟩,
    hmalformed _ ?_⟩
  rintro raws (_ | ⟨h⟩)
  cases h

end Item

end CatalogCrawl
