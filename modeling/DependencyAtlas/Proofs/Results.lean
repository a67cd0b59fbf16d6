import Mathlib.Data.List.Forall2

namespace DependencyAtlas

variable {ε α β : Type} {x : Except ε α} {next : α → Except ε β}

theorem ok_bind (a : α) : (Except.ok a >>= next) = next a := rfl

instance decidableHasResult (x : Except ε α) : Decidable (∃ a, x = .ok a) :=
  match x with
  | .ok a => isTrue ⟨a, rfl⟩
  | .error _ => isFalse nofun

theorem bind_eq_ok_iff {b : β} : (x >>= next) = .ok b ↔ ∃ a, x = .ok a ∧ next a = .ok b := by
  constructor
  · intro h
    rcases x with e | a
    · cases h
    · exact ⟨a, rfl, h⟩
  · rintro ⟨a, rfl, h⟩
    exact h

theorem unless_throw_eq_ok_iff {c : Prop} [Decidable c] {e : ε} {rest : α → Except ε β}
    {y : Except ε β} {b : β} : (if c then throw e >>= rest else y) = .ok b ↔ ¬ c ∧ y = .ok b := by
  by_cases h : c
  · rw [if_pos h]
    constructor
    · intro hthrow
      cases hthrow
    · rintro ⟨hc, -⟩
      exact absurd h hc
  · rw [if_neg h]
    exact ⟨fun hy => ⟨h, hy⟩, fun hy => hy.2⟩

theorem bind_eq_error_iff {e : ε} :
    (x >>= next) = .error e ↔ x = .error e ∨ ∃ a, x = .ok a ∧ next a = .error e := by
  constructor
  · intro h
    rcases x with e' | a
    · cases h
      exact .inl rfl
    · exact .inr ⟨a, rfl, h⟩
  · rintro (rfl | ⟨a, rfl, h⟩)
    · rfl
    · exact h

theorem mapM_eq_ok_iff {f : α → Except ε β} {xs : List α} {ys : List β} :
    xs.mapM f = .ok ys ↔ List.Forall₂ (fun a b => f a = .ok b) xs ys := by
  induction xs generalizing ys with
  | nil =>
    rw [List.forall₂_nil_left_iff]
    constructor
    · rintro ⟨⟩
      rfl
    · rintro rfl
      rfl
  | cons x xs ih =>
    simp only [List.mapM_cons, bind_eq_ok_iff, ih]
    constructor
    · rintro ⟨b, hb, bs, hbs, ⟨⟩⟩
      exact .cons hb hbs
    · rintro (_ | ⟨hb, hbs⟩)
      exact ⟨_, hb, _, hbs, rfl⟩

theorem mapM_eq_ok {f : α → Except ε β} {xs : List α} (h : ∀ a ∈ xs, ∃ b, f a = .ok b) :
    ∃ ys, xs.mapM f = .ok ys := by
  induction xs with
  | nil => exact ⟨[], rfl⟩
  | cons x xs ih =>
    obtain ⟨b, hb⟩ := h x List.mem_cons_self
    obtain ⟨bs, hbs⟩ := ih fun a ha => h a (List.mem_cons_of_mem x ha)
    refine ⟨b :: bs, ?_⟩
    rw [List.mapM_cons, hb, ok_bind, hbs, ok_bind]
    rfl

theorem mapError_eq_ok_iff {ε' : Type} {f : ε → ε'} {a : α} {y : Except ε α} :
    y.mapError f = .ok a ↔ y = .ok a := by
  cases y with
  | error e => exact ⟨nofun, nofun⟩
  | ok b => simp only [Except.mapError, Except.ok.injEq]

theorem map_eq_error_iff {f : α → β} {e : ε} {y : Except ε α} :
    y.map f = .error e ↔ y = .error e := by
  cases y with
  | error d => simp only [Except.map, Except.error.injEq]
  | ok a => exact ⟨nofun, nofun⟩

def FailsAs (P : ε → Prop) (y : Except ε α) : Prop :=
  ∀ e, y = .error e → P e

variable {P : ε → Prop}

theorem failsAs_ok (a : α) : FailsAs P (.ok a) := nofun

theorem failsAs_error {e : ε} (h : P e) : FailsAs P (.error e : Except ε α) := by
  rintro _ ⟨⟩
  exact h

theorem FailsAs.bind (hx : FailsAs P x) (hnext : ∀ a, FailsAs P (next a)) :
    FailsAs P (x >>= next) := by
  intro e h
  rcases bind_eq_error_iff.mp h with hfirst | ⟨a, -, hsecond⟩
  · exact hx e hfirst
  · exact hnext a e hsecond

theorem FailsAs.mapM {f : α → Except ε β} (h : ∀ a, FailsAs P (f a)) (xs : List α) :
    FailsAs P (xs.mapM f) := by
  induction xs with
  | nil => exact failsAs_ok []
  | cons x xs ih =>
    rw [List.mapM_cons]
    apply (h x).bind
    intro b
    apply ih.bind
    intro bs
    exact failsAs_ok _

theorem failsAs_mapError {ε' : Type} {f : ε' → ε} (h : ∀ e, P (f e)) (y : Except ε' α) :
    FailsAs P (y.mapError f) := by
  cases y with
  | error e => exact failsAs_error (h e)
  | ok a => exact failsAs_ok a

end DependencyAtlas
