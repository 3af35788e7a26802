import ProtoApi.EnumAlias

namespace ProtoApi

/-!
# Canonical names are names of the enum

* `mem_of_mem_add` — adding a name to the best names brings in that name at most;
* `lt_length_of_mem_uniqueNumberValues` — the canonical positions are positions of values.
-/

/-- Adding a name brings in that name at most. -/
theorem Canonical.mem_of_mem_add {best : List Canonical} {c x : Canonical}
    (h : x ∈ Canonical.add best c) : x = c ∨ x ∈ best := by
  induction best with
  | nil => exact Or.inl (List.mem_singleton.1 h)
  | cons b rest ih =>
    rw [Canonical.add] at h
    split at h
    · exact List.mem_cons.1 h
    · split at h
      -- The name is one for a number that is there already, and the better one of the two stays.
      · rcases List.mem_cons.1 h with rfl | h
        · split
          · exact Or.inl rfl
          · exact Or.inr List.mem_cons_self
        · exact Or.inr (List.mem_cons_of_mem _ h)
      · rcases List.mem_cons.1 h with rfl | h
        · exact Or.inr List.mem_cons_self
        · exact (ih h).imp_right (List.mem_cons_of_mem _)

/-- After many names have been added, the best ones are among them and those at the beginning. -/
theorem Canonical.mem_of_mem_foldl_add {names best : List Canonical} {x : Canonical}
    (h : x ∈ names.foldl Canonical.add best) : x ∈ names ∨ x ∈ best := by
  induction names generalizing best with
  | nil => exact Or.inr h
  | cons c rest ih =>
    rcases ih h with h | h
    · exact Or.inl (List.mem_cons_of_mem _ h)
    · rcases Canonical.mem_of_mem_add h with rfl | h
      · exact Or.inl List.mem_cons_self
      · exact Or.inr h

/-- The canonical positions are positions of values. -/
theorem lt_length_of_mem_uniqueNumberValues {values : List EnumValue} {i : Nat}
    (h : i ∈ uniqueNumberValues values) : i < values.length := by
  rw [uniqueNumberValues, List.mem_map] at h
  obtain ⟨c, hc, rfl⟩ := h
  rcases Canonical.mem_of_mem_foldl_add hc with hc | hc
  · obtain ⟨⟨v, position⟩, hv, rfl⟩ := List.mem_map.1 hc
    have h := (List.mem_zipIdx hv).2.1
    rwa [Nat.zero_add] at h
  · exact absurd hc (by simp)

end ProtoApi
