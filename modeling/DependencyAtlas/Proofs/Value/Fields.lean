import DependencyAtlas.Proofs.Lookup
import DependencyAtlas.Value.Basic
import Mathlib.Data.List.Perm.Basic

namespace DependencyAtlas

namespace Fields

variable {fields pairs : Fields} {key : String} {v : Value}

def names (fields : Fields) : List String :=
  fields.map Prod.fst

theorem mem_of_get? (h : fields.get? key = some v) : (key, v) ∈ fields :=
  mem_of_lookup h

theorem get?_of_mem (hnodup : fields.names.Nodup) (h : (key, v) ∈ fields) :
    fields.get? key = some v :=
  lookup_of_mem hnodup h

theorem get?_eq_some_iff (hnodup : fields.names.Nodup) :
    fields.get? key = some v ↔ (key, v) ∈ fields :=
  lookup_eq_some_iff_mem hnodup

theorem get?_perm (hnodup : fields.names.Nodup) (h : fields.Perm pairs) (key : String) :
    fields.get? key = pairs.get? key :=
  lookup_perm hnodup h key

@[simp] theorem names_cons (field : String × Value) (fields : Fields) :
    names (field :: fields) = field.1 :: names fields := rfl

@[simp] theorem names_append (fields pairs : Fields) :
    names (fields ++ pairs) = fields.names ++ pairs.names := List.map_append

theorem names_put (key : String) (v : Value) (fields : Fields) :
    (fields.put key v).names = if key ∈ fields.names then fields.names else fields.names ++ [key] := by
  induction fields with
  | nil => rfl
  | cons field rest ih =>
    by_cases h : field.1 = key
    · simp [put, h]
    · have hne : ¬ key = field.1 := fun heq => h heq.symm
      simp only [put, if_neg h, names_cons, List.mem_cons, hne, false_or, ih]
      by_cases hmem : key ∈ names rest
      · rw [if_pos hmem, if_pos hmem]
      · rw [if_neg hmem, if_neg hmem, List.cons_append]

theorem names_put_nodup (h : fields.names.Nodup) : (fields.put key v).names.Nodup := by
  rw [names_put]
  split
  · exact h
  · next hnew =>
    refine List.nodup_append.mpr ⟨h, List.nodup_singleton _, ?_⟩
    intro k hk other hother
    rw [List.mem_singleton.mp hother]
    rintro rfl
    exact hnew hk

theorem mem_put {field : String × Value} (h : field ∈ fields.put key v) :
    field = (key, v) ∨ field ∈ fields := by
  induction fields with
  | nil => simpa [put] using h
  | cons first rest ih =>
    obtain ⟨k, w⟩ := first
    rw [put] at h
    split at h
    · next hk =>
      subst hk
      simp only [List.mem_cons] at h ⊢
      tauto
    · simp only [List.mem_cons] at h ⊢
      rcases h with h | h
      · exact .inr (.inl h)
      · exact (ih h).imp_right .inr

theorem put_of_new (h : key ∉ fields.names) : fields.put key v = fields ++ [(key, v)] := by
  induction fields with
  | nil => rfl
  | cons field rest ih =>
    simp only [names_cons, List.mem_cons, not_or] at h
    rw [put, if_neg (Ne.symm h.1), ih h.2, List.cons_append]

theorem foldl_put_of_nodup (h : (fields.names ++ pairs.names).Nodup) :
    pairs.foldl (fun fields p => put p.1 p.2 fields) fields = fields ++ pairs := by
  induction pairs generalizing fields with
  | nil => simp
  | cons p rest ih =>
    have hnew : p.1 ∉ fields.names := by
      intro hmem
      exact (List.nodup_append.mp h).2.2 _ hmem p.1 (by simp) rfl
    rw [List.foldl_cons, put_of_new hnew, ih]
    · simp
    · rw [names_append, List.append_assoc]
      exact h

theorem ofPairs_of_nodup (h : pairs.names.Nodup) : ofPairs pairs = pairs := by
  rw [ofPairs, foldl_put_of_nodup]
  · rfl
  · exact h

end Fields

namespace Value

inductive Within : Value → Value → Prop
  | self (v : Value) : Within v v
  | item {u v : Value} {items : List Value} (hv : v ∈ items) (h : Within u v) :
    Within u (.list items)
  | field {u v : Value} {key : String} {fields : Fields} (hv : (key, v) ∈ fields)
    (h : Within u v) : Within u (.object fields)

/-- No object in the value has two fields of one name. -/
def Proper (v : Value) : Prop :=
  ∀ fields : Fields, Within (.object fields) v → fields.names.Nodup

theorem proper_list_iff {items : List Value} : Proper (.list items) ↔ ∀ v ∈ items, v.Proper := by
  constructor
  · intro h v hv fields hfields
    exact h fields (.item hv hfields)
  · intro h fields hfields
    cases hfields with
    | item hv hfields => exact h _ hv fields hfields

theorem proper_object_iff {fields : Fields} :
    Proper (.object fields) ↔ fields.names.Nodup ∧ ∀ field ∈ fields, field.2.Proper := by
  constructor
  · intro h
    exact ⟨h fields (.self _), fun field hfield inner hinner => h inner (.field hfield hinner)⟩
  · rintro ⟨hnodup, h⟩ inner hinner
    cases hinner with
    | self => exact hnodup
    | field hv hinner => exact h _ hv inner hinner

theorem Proper.names_nodup {fields : Fields} (h : Proper (.object fields)) : fields.names.Nodup :=
  (proper_object_iff.mp h).1

theorem Proper.of_get? {fields : Fields} (h : Proper (.object fields)) {key : String} {v : Value}
    (hv : fields.get? key = some v) : v.Proper :=
  (proper_object_iff.mp h).2 (key, v) (Fields.mem_of_get? hv)

theorem Proper.put {fields : Fields} (h : Proper (.object fields)) {key : String} {v : Value}
    (hv : v.Proper) : Proper (.object (fields.put key v)) := by
  refine proper_object_iff.mpr ⟨Fields.names_put_nodup h.names_nodup, fun field hfield => ?_⟩
  rcases Fields.mem_put hfield with rfl | hmem
  · exact hv
  · exact (proper_object_iff.mp h).2 field hmem

theorem proper_plain {v : Value} (hlist : v.kind ≠ .list) (hobject : v.kind ≠ .object) :
    v.Proper := by
  intro fields hfields
  cases hfields with
  | self => exact absurd rfl hobject
  | item => exact absurd rfl hlist
  | field => exact absurd rfl hobject

mutual

inductive Reordered : Value → Value → Prop
  | refl (v : Value) : Reordered v v
  | list {xs ys : List Value} (h : ReorderedItems xs ys) : Reordered (.list xs) (.list ys)
  | object {xs ys : Fields} (h : ReorderedFields xs ys) : Reordered (.object xs) (.object ys)

inductive ReorderedItems : List Value → List Value → Prop
  | nil : ReorderedItems [] []
  | cons {x y : Value} {xs ys : List Value} (h : Reordered x y) (hrest : ReorderedItems xs ys) :
    ReorderedItems (x :: xs) (y :: ys)

inductive ReorderedFields : Fields → Fields → Prop
  | nil : ReorderedFields [] []
  | cons {x y : Value} {xs ys : Fields} (key : String) (h : Reordered x y)
    (hrest : ReorderedFields xs ys) : ReorderedFields ((key, x) :: xs) ((key, y) :: ys)
  | swap (p q : String × Value) (xs : Fields) : ReorderedFields (p :: q :: xs) (q :: p :: xs)
  | trans {xs ys zs : Fields} (h : ReorderedFields xs ys) (hrest : ReorderedFields ys zs) :
    ReorderedFields xs zs

end

theorem ReorderedFields.of_perm {xs ys : Fields} (h : xs.Perm ys) : ReorderedFields xs ys := by
  induction h with
  | nil => exact .nil
  | cons p _ ih => exact .cons p.1 (.refl p.2) ih
  | swap p q xs => exact .swap q p xs
  | trans _ _ hxy hyz => exact .trans hxy hyz

theorem Reordered.single {x y : Value} (key : String) (h : Reordered x y) :
    Reordered (.object [(key, x)]) (.object [(key, y)]) :=
  .object (.cons key h .nil)

end Value

end DependencyAtlas
