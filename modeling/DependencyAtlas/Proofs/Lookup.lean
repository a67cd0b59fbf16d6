import Mathlib.Data.List.Nodup

namespace DependencyAtlas

variable {κ β γ : Type} [BEq κ] {k : κ} {b : β}

section

variable [LawfulBEq κ]

theorem mem_of_lookup {table : List (κ × β)} (h : table.lookup k = some b) : (k, b) ∈ table := by
  obtain ⟨before, after, rfl, -⟩ := List.lookup_eq_some_iff.mp h
  simp

theorem lookup_of_mem {table : List (κ × β)} (hnodup : (table.map Prod.fst).Nodup)
    (h : (k, b) ∈ table) : table.lookup k = some b := by
  obtain ⟨before, after, rfl⟩ := List.append_of_mem h
  apply List.lookup_eq_some_iff.mpr
  refine ⟨before, after, rfl, ?_⟩
  intro p hp
  rw [List.map_append, List.map_cons] at hnodup
  have hne : p.1 ≠ k :=
    (List.nodup_append.mp hnodup).2.2 p.1 (List.mem_map_of_mem hp) k List.mem_cons_self
  simp [Ne.symm hne]

theorem lookup_eq_some_iff_mem {table : List (κ × β)} (hnodup : (table.map Prod.fst).Nodup) :
    table.lookup k = some b ↔ (k, b) ∈ table :=
  ⟨mem_of_lookup, lookup_of_mem hnodup⟩

theorem lookup_perm {table table' : List (κ × β)} (hnodup : (table.map Prod.fst).Nodup)
    (h : table.Perm table') (k : κ) : table.lookup k = table'.lookup k := by
  have hnodup' : (table'.map Prod.fst).Nodup := (h.map Prod.fst).nodup_iff.mp hnodup
  apply Option.ext
  intro b
  rw [lookup_eq_some_iff_mem hnodup, lookup_eq_some_iff_mem hnodup', h.mem_iff]

theorem lookup_eq_none_of_not_mem {table : List (κ × β)} (h : k ∉ table.map Prod.fst) :
    table.lookup k = none := by
  rw [List.lookup_eq_none_iff]
  intro entry hentry
  rw [bne_iff_ne]
  rintro rfl
  exact h (List.mem_map_of_mem hentry)

theorem exists_lookup_of_mem {table : List (κ × β)} (h : k ∈ table.map Prod.fst) :
    ∃ b, table.lookup k = some b := by
  induction table with
  | nil => cases h
  | cons entry rest ih =>
    rw [List.lookup_cons]
    by_cases hk : k = entry.1
    · rw [beq_iff_eq.mpr hk]
      exact ⟨entry.2, rfl⟩
    · rw [beq_false_of_ne hk]
      rw [List.map_cons, List.mem_cons] at h
      exact ih (h.resolve_left hk)

theorem lookup_cons_of_ne {k' : κ} (h : k ≠ k') (b : β) (table : List (κ × β)) :
    ((k', b) :: table).lookup k = table.lookup k := by
  rw [List.lookup_cons, beq_false_of_ne h]

theorem lookup_replaced [DecidableEq κ] (table : List (κ × β)) (k k' : κ) (b : β) :
    (table.map fun entry => if entry.1 = k then (k, b) else entry).lookup k' =
      if k' = k then (table.lookup k).map fun _ => b else table.lookup k' := by
  induction table with
  | nil => split <;> rfl
  | cons entry rest ih =>
    obtain ⟨key, value⟩ := entry
    rw [List.map_cons]
    by_cases hkey : key = k
    · obtain rfl := hkey
      rw [if_pos rfl, List.lookup_cons_self, Option.map_some]
      by_cases hk : k' = key
      · rw [if_pos hk, hk, List.lookup_cons_self]
      · rw [if_neg hk, lookup_cons_of_ne hk, lookup_cons_of_ne hk, ih, if_neg hk]
    · rw [if_neg hkey, lookup_cons_of_ne (Ne.symm hkey)]
      by_cases hk : k' = key
      · rw [hk, if_neg hkey, List.lookup_cons_self, List.lookup_cons_self]
      · rw [lookup_cons_of_ne hk, lookup_cons_of_ne hk, ih]

theorem lookup_filter (table : List (κ × β)) (keep : κ → Bool) (k : κ) :
    (table.filter fun entry => keep entry.1).lookup k = if keep k then table.lookup k else none := by
  induction table with
  | nil => split <;> rfl
  | cons entry rest ih =>
    obtain ⟨key, value⟩ := entry
    rw [List.filter_cons]
    by_cases hk : k = key
    · obtain rfl := hk
      by_cases hkeep : keep k = true
      · rw [if_pos hkeep, if_pos hkeep, List.lookup_cons_self, List.lookup_cons_self]
      · rw [if_neg hkeep, ih, if_neg hkeep, if_neg hkeep]
    · rw [lookup_cons_of_ne hk, ← ih]
      split
      · exact lookup_cons_of_ne hk _ _
      · rfl

theorem lookup_mapKeyed (f : κ → β → γ) (k : κ) (table : List (κ × β)) :
    (table.map fun entry => (entry.1, f entry.1 entry.2)).lookup k = (table.lookup k).map (f k) := by
  induction table with
  | nil => rfl
  | cons entry rest ih =>
    rw [List.map_cons]
    by_cases hk : k = entry.1
    · subst hk
      rw [List.lookup_cons_self, List.lookup_cons_self, Option.map_some]
    · rw [lookup_cons_of_ne hk, lookup_cons_of_ne hk, ih]

theorem lookup_map (f : β → γ) (k : κ) (table : List (κ × β)) :
    (table.map fun entry => (entry.1, f entry.2)).lookup k = (table.lookup k).map f :=
  lookup_mapKeyed (fun _ => f) k table

end

end DependencyAtlas
