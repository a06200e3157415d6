/-! # Lists with a key

Elements are told apart by a key, and a new one takes the place of the first that has its key. -/

namespace CatalogCrawl.Keyed

variable {α κ : Type} [DecidableEq κ] {key : α → κ} {a b : α} {xs : List α}

/-- Puts an element in the place of the first one with its key, at the end if there is none. -/
def put (key : α → κ) (a : α) : List α → List α
  | [] => [a]
  | b :: rest => if key b = key a then a :: rest else b :: put key a rest

theorem mem_put (h : b ∈ put key a xs) : b = a ∨ b ∈ xs := by
  induction xs with
  | nil => exact .inl (List.mem_singleton.mp h)
  | cons x xs ih =>
    unfold put at h
    split at h
    · rcases List.mem_cons.mp h with rfl | h
      · exact .inl rfl
      · exact .inr (List.mem_cons_of_mem _ h)
    · rcases List.mem_cons.mp h with rfl | h
      · exact .inr List.mem_cons_self
      · exact (ih h).imp_right (List.mem_cons_of_mem _)

/-- Keys that are distinct stay so. -/
theorem nodup_put (h : (xs.map key).Nodup) : ((put key a xs).map key).Nodup := by
  induction xs with
  | nil => exact List.nodup_cons.mpr ⟨List.not_mem_nil, List.nodup_nil⟩
  | cons x xs ih =>
    rw [List.map_cons, List.nodup_cons] at h
    unfold put
    split
    · next hkey => exact List.nodup_cons.mpr (hkey ▸ h)
    · next hkey =>
      refine List.nodup_cons.mpr ⟨fun hmem => ?_, ih h.2⟩
      obtain ⟨y, hy, heq⟩ := List.mem_map.mp hmem
      rcases mem_put hy with rfl | hy
      · exact hkey heq.symm
      · exact h.1 (heq ▸ List.mem_map_of_mem hy)

/-- Under its key the new element is found, under any other key what was found before. -/
theorem find?_put (k : κ) :
    (put key a xs).find? (key · = k) = if key a = k then some a else xs.find? (key · = k) := by
  induction xs with
  | nil => by_cases hk : key a = k <;> simp [put, hk]
  | cons x xs ih =>
    unfold put
    split
    · next hkey => by_cases hk : key a = k <;> simp [hkey, hk]
    · next hkey =>
      by_cases hx : key x = k
      · have hk : ¬key a = k := fun hk => hkey (hx.trans hk.symm)
        simp [hx, hk]
      · simp [hx, ih]

end CatalogCrawl.Keyed
