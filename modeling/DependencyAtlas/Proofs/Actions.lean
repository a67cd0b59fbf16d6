import DependencyAtlas.Failure

/-!
How actions run, one equation for each way to build one, what they leave as it is, and what they do not
look at.
-/

namespace DependencyAtlas.Act

variable {σ τ α β γ : Type}

theorem bind_apply (act : Act σ α) (next : α → Act σ β) (s : σ) :
    (act >>= next) s =
      match act s with
      | (.ok a, t) => next a t
      | (.error failure, t) => (.error failure, t) := by
  change ExceptT.bindCont next (act s).1 (act s).2 = _
  rcases act s with ⟨_ | _, t⟩ <;> rfl

theorem bind_apply_ok {act : Act σ α} {next : α → Act σ β} {s t : σ} {a : α}
    (h : act s = (.ok a, t)) : (act >>= next) s = next a t := by
  rw [bind_apply, h]

theorem bind_apply_error {act : Act σ α} {next : α → Act σ β} {s t : σ} {failure : Failure}
    (h : act s = (.error failure, t)) : (act >>= next) s = (.error failure, t) := by
  rw [bind_apply, h]

theorem bind_congr {act act' : Act σ α} {s t : σ} (h : act s = act' t) (next : α → Act σ β) :
    (act >>= next) s = (act' >>= next) t := by
  rw [bind_apply, bind_apply, h]

theorem bind_eq_ok {act : Act σ α} {next : α → Act σ β} {s u : σ} {b : β}
    (h : (act >>= next) s = (.ok b, u)) : ∃ a t, act s = (.ok a, t) ∧ next a t = (.ok b, u) := by
  rw [bind_apply] at h
  rcases hact : act s with ⟨failure | a, t⟩
  · rw [hact] at h
    cases h
  · rw [hact] at h
    exact ⟨a, t, rfl, h⟩

theorem of_bind_ok {act : Act σ α} {next : α → Act σ β} {s : σ} {b : β}
    (h : ((act >>= next) s).1 = .ok b) : ∃ a t, act s = (.ok a, t) ∧ (next a t).1 = .ok b := by
  rw [bind_apply] at h
  rcases hact : act s with ⟨failure | a, t⟩
  · rw [hact] at h
    cases h
  · rw [hact] at h
    exact ⟨a, t, rfl, h⟩

theorem map_eq_ok {act : Act σ α} {f : α → β} {s t : σ} {b : β}
    (h : (act >>= fun a => pure (f a)) s = (.ok b, t)) : ∃ a, act s = (.ok a, t) ∧ b = f a := by
  rw [bind_apply] at h
  rcases hact : act s with ⟨failure | a, u⟩
  · rw [hact] at h
    cases h
  · rw [hact] at h
    cases h
    exact ⟨a, rfl, rfl⟩

theorem map_eq_error_iff {act : Act σ α} {f : α → β} {s t : σ} {failure : Failure} :
    (act >>= fun a => pure (f a)) s = (.error failure, t) ↔ act s = (.error failure, t) := by
  rw [bind_apply]
  rcases act s with ⟨_ | a, u⟩
  · constructor <;> rintro ⟨⟩ <;> rfl
  · constructor <;> rintro ⟨⟩

theorem get_apply (s : σ) : (get : Act σ σ) s = (.ok s, s) := rfl

theorem modify_apply (f : σ → σ) (s : σ) : (modify f : Act σ PUnit) s = (.ok (), f s) := rfl

theorem ofExcept_apply (result : Except Failure α) (s : σ) :
    (ofExcept result : Act σ α) s = (result, s) := rfl

theorem ending_apply (act : Act σ α) (s : σ) : act.ending s = (.ok (act s).1, (act s).2) := rfl

theorem within_apply (part : σ → τ) (put : τ → σ → σ) (act : Act τ α) (s : σ) :
    act.within part put s = ((act (part s)).1, put (act (part s)).2 s) := rfl

theorem andFinally_apply (act : Act σ α) (after : Act σ Unit) (s : σ) :
    act.andFinally after s =
      match after (act s).2 with
      | (.ok _, t) => ((act s).1, t)
      | (.error failure, t) => (.error failure, t) := by
  rw [andFinally, bind_apply_ok (ending_apply act s), bind_apply]
  rcases after (act s).2 with ⟨_ | _, t⟩ <;> rfl

theorem andFinally_state (act : Act σ α) (after : Act σ Unit) (s : σ) :
    (act.andFinally after s).2 = (after (act s).2).2 := by
  rw [andFinally_apply]
  rcases after (act s).2 with ⟨_ | _, t⟩ <;> rfl

theorem onError_apply (act : Act σ α) (after : Act σ Unit) (s : σ) :
    act.onError after s =
      match act s with
      | (.ok a, t) => (.ok a, t)
      | (.error failure, t) =>
        if failure.halts then (.error failure, t)
        else
          match after t with
          | (.ok _, u) => (.error failure, u)
          | (.error failure', u) => (.error failure', u) := by
  rw [onError, bind_apply_ok (ending_apply act s)]
  rcases act s with ⟨failure | a, t⟩
  · dsimp only
    cases failure.halts with
    | true => rfl
    | false =>
      simp only [Bool.false_eq_true, reduceIte, bind_apply]
      rcases after t with ⟨_ | _, u⟩ <;> rfl
  · rfl

theorem onError_apply_ok {act : Act σ α} {after : Act σ Unit} {s t : σ} {a : α} (h : act s = (.ok a, t)) :
    act.onError after s = (.ok a, t) := by
  rw [onError_apply, h]

theorem onError_apply_halt {act : Act σ α} {after : Act σ Unit} {s t : σ} {failure : Failure}
    (h : act s = (.error failure, t)) (hhalts : failure.halts = true) :
    act.onError after s = (.error failure, t) := by
  rw [onError_apply, h]
  exact if_pos hhalts

theorem onError_apply_error {act : Act σ α} {after : Act σ Unit} {s t u : σ} {failure : Failure}
    (h : act s = (.error failure, t)) (hhalts : failure.halts = false) (hafter : after t = (.ok (), u)) :
    act.onError after s = (.error failure, u) := by
  rw [onError_apply, h]
  dsimp only
  rw [hafter]
  exact if_neg (ne_true_of_eq_false hhalts)

theorem onError_apply_failed {act : Act σ α} {after : Act σ Unit} {s t u : σ} {failure other : Failure}
    (h : act s = (.error failure, t)) (hhalts : failure.halts = false) (hafter : after t = (.error other, u)) :
    act.onError after s = (.error other, u) := by
  rw [onError_apply, h]
  dsimp only
  rw [hafter]
  exact if_neg (ne_true_of_eq_false hhalts)

theorem onError_eq_ok {act : Act σ α} {after : Act σ Unit} {s t : σ} {a : α}
    (h : act.onError after s = (.ok a, t)) : act s = (.ok a, t) := by
  rw [onError_apply] at h
  rcases hact : act s with ⟨failure | b, u⟩ <;> rw [hact] at h
  · dsimp only at h
    split at h
    · cases h
    · split at h <;> cases h
  · exact h

/-- The action leaves `f` of the state as it is, however it ends. -/
def Keeps (f : σ → β) (act : Act σ α) : Prop :=
  ∀ s, f (act s).2 = f s

namespace Keeps

variable {f : σ → γ}

theorem pure (a : α) : Keeps f (Pure.pure a : Act σ α) := fun _ => rfl

theorem throw (failure : Failure) : Keeps f (MonadExcept.throw failure : Act σ α) := fun _ => rfl

theorem get : Keeps f (MonadState.get : Act σ σ) := fun _ => rfl

theorem ofExcept (result : Except Failure α) : Keeps f (Act.ofExcept result : Act σ α) :=
  fun _ => rfl

theorem modify {g : σ → σ} (h : ∀ s, f (g s) = f s) : Keeps f (modify g : Act σ PUnit) := h

theorem bind_right {act : Act σ α} {next : α → Act σ β} (hnext : ∀ a, Keeps f (next a)) (s : σ) :
    f ((act >>= next) s).2 = f (act s).2 := by
  rw [bind_apply]
  rcases act s with ⟨failure | a, t⟩
  · rfl
  · exact hnext a t

theorem bind {act : Act σ α} {next : α → Act σ β} (hact : Keeps f act)
    (hnext : ∀ a, Keeps f (next a)) : Keeps f (act >>= next) :=
  fun s => (bind_right hnext s).trans (hact s)

theorem ite {c : Prop} [Decidable c] {act other : Act σ α} (hact : Keeps f act)
    (hother : Keeps f other) : Keeps f (if c then act else other) := by
  split
  · exact hact
  · exact hother

theorem ending {act : Act σ α} (h : Keeps f act) : Keeps f act.ending := h

theorem andFinally {act : Act σ α} {after : Act σ Unit} (hact : Keeps f act)
    (hafter : Keeps f after) : Keeps f (act.andFinally after) := by
  intro s
  rw [andFinally_state]
  exact (hafter _).trans (hact s)

theorem within {g : τ → γ} {part : σ → τ} {put : τ → σ → σ} {act : Act τ α}
    (hput : ∀ s t, g t = g (part s) → f (put t s) = f s) (hact : Keeps g act) :
    Keeps f (act.within part put) :=
  fun s => hput s _ (hact (part s))

theorem within_other {part : σ → τ} {put : τ → σ → σ} {act : Act τ α}
    (hput : ∀ s t, f (put t s) = f s) : Keeps f (act.within part put) :=
  fun s => hput s _

end Keeps

def Maintains (P : σ → Prop) (act : Act σ α) : Prop :=
  ∀ s, P s → P (act s).2

theorem keeps_iff {f : σ → γ} {act : Act σ α} : Keeps f act ↔ ∀ c, Maintains (fun s => f s = c) act := by
  constructor
  · intro h c s hs
    exact (h s).trans hs
  · intro h s
    exact h (f s) s rfl

namespace Maintains

variable {P : σ → Prop}

theorem of_keeps {f : σ → γ} {Q : γ → Prop} {act : Act σ α} (h : Keeps f act) :
    Maintains (fun s => Q (f s)) act := by
  intro s hs
  rw [h s]
  exact hs

theorem pure (a : α) : Maintains P (Pure.pure a : Act σ α) := fun _ => id

theorem throw (failure : Failure) : Maintains P (MonadExcept.throw failure : Act σ α) := fun _ => id

theorem get : Maintains P (MonadState.get : Act σ σ) := fun _ => id

theorem ofExcept (result : Except Failure α) : Maintains P (Act.ofExcept result : Act σ α) := fun _ => id

theorem modify {g : σ → σ} (h : ∀ s, P s → P (g s)) : Maintains P (modify g : Act σ PUnit) := h

theorem bind {act : Act σ α} {next : α → Act σ β} (hact : Maintains P act)
    (hnext : ∀ a, Maintains P (next a)) : Maintains P (act >>= next) := by
  intro s hs
  have hs' := hact s hs
  rw [bind_apply]
  rcases hended : act s with ⟨failure | a, t⟩
  · rw [hended] at hs'
    exact hs'
  · rw [hended] at hs'
    exact hnext a t hs'

theorem ofExcept_bind {result : Except Failure α} {next : α → Act σ β}
    (hnext : ∀ a, result = .ok a → Maintains P (next a)) : Maintains P (Act.ofExcept result >>= next) := by
  cases result with
  | error failure => exact .throw failure
  | ok a => exact hnext a rfl

theorem ite {c : Prop} [Decidable c] {act other : Act σ α} (hact : Maintains P act)
    (hother : Maintains P other) : Maintains P (if c then act else other) := by
  split
  · exact hact
  · exact hother

theorem ending {act : Act σ α} (h : Maintains P act) : Maintains P act.ending := h

theorem andFinally {act : Act σ α} {after : Act σ Unit} (hact : Maintains P act)
    (hafter : Maintains P after) : Maintains P (act.andFinally after) := by
  intro s hs
  rw [andFinally_state]
  exact hafter _ (hact s hs)

theorem onError {act : Act σ α} {after : Act σ Unit} (hact : Maintains P act)
    (hafter : Maintains P after) : Maintains P (act.onError after) :=
  hact.ending.bind fun
    | .ok a => .pure a
    | .error failure => ite (.throw failure) (hafter.bind fun _ => .throw failure)

end Maintains

def Alike (f : σ → σ) (x y : Except Failure α × σ) : Prop :=
  x.1 = y.1 ∧ f x.2 = f y.2

/-- The action does not look at what `f` leaves out of the state. -/
def Respects (f : σ → σ) (act : Act σ α) : Prop :=
  ∀ s t, f s = f t → Alike f (act s) (act t)

section

variable {f : σ → σ}

theorem Alike.symm {x y : Except Failure α × σ} (h : Alike f x y) : Alike f y x :=
  ⟨h.1.symm, h.2.symm⟩

theorem Alike.trans {x y z : Except Failure α × σ} (h : Alike f x y) (h' : Alike f y z) :
    Alike f x z :=
  ⟨h.1.trans h'.1, h.2.trans h'.2⟩

theorem Alike.ending {act act' : Act σ α} {s t : σ} (h : Alike f (act s) (act' t)) :
    Alike f (act.ending s) (act'.ending t) :=
  ⟨congrArg Except.ok h.1, h.2⟩

theorem Alike.bind {act act' : Act σ α} {next : α → Act σ β} {s t : σ}
    (h : Alike f (act s) (act' t)) (hnext : ∀ a, Respects f (next a)) :
    Alike f ((act >>= next) s) ((act' >>= next) t) := by
  rw [bind_apply, bind_apply]
  generalize act s = x at h
  generalize act' t = y at h
  obtain ⟨result, s'⟩ := x
  obtain ⟨result', t'⟩ := y
  obtain ⟨rfl, hstate⟩ : result = result' ∧ f s' = f t' := h
  cases result with
  | error failure => exact ⟨rfl, hstate⟩
  | ok a => exact hnext a s' t' hstate

namespace Respects

theorem whole (act : Act σ α) : Respects id act := by
  rintro s t rfl
  exact ⟨rfl, rfl⟩

theorem pure (a : α) : Respects f (Pure.pure a : Act σ α) := fun _ _ h => ⟨rfl, h⟩

theorem throw (failure : Failure) : Respects f (MonadExcept.throw failure : Act σ α) :=
  fun _ _ h => ⟨rfl, h⟩

theorem ofExcept (result : Except Failure α) : Respects f (Act.ofExcept result : Act σ α) :=
  fun _ _ h => ⟨rfl, h⟩

theorem modify_unseen {g : σ → σ} (h : ∀ s, f (g s) = f s) :
    Respects f (modify g : Act σ PUnit) :=
  fun s t hst => ⟨rfl, (h s).trans (hst.trans (h t).symm)⟩

theorem modify {g : σ → σ} (h : ∀ s, f (g s) = g (f s)) : Respects f (modify g : Act σ PUnit) := by
  intro s t hst
  refine ⟨rfl, ?_⟩
  rw [modify_apply, modify_apply, h, h, hst]

theorem bind {act : Act σ α} {next : α → Act σ β} (hact : Respects f act)
    (hnext : ∀ a, Respects f (next a)) : Respects f (act >>= next) :=
  fun s t h => (hact s t h).bind hnext

theorem get_bind {next : σ → Act σ β} (h : ∀ s, next s = next (f s))
    (hnext : ∀ s, Respects f (next s)) : Respects f (get >>= next) := by
  intro s t hst
  rw [bind_apply_ok (get_apply s), bind_apply_ok (get_apply t), h t, ← hst, ← h s]
  exact hnext s s t hst

theorem ite {c : Prop} [Decidable c] {act other : Act σ α} (hact : Respects f act)
    (hother : Respects f other) : Respects f (if c then act else other) := by
  split
  · exact hact
  · exact hother

theorem ending {act : Act σ α} (h : Respects f act) : Respects f act.ending :=
  fun s t hst => (h s t hst).ending

theorem onError {act : Act σ α} {after : Act σ Unit} (hact : Respects f act) (hafter : Respects f after) :
    Respects f (act.onError after) :=
  hact.ending.bind fun
    | .ok a => .pure a
    | .error failure => ite (.throw failure) (hafter.bind fun _ => .throw failure)

theorem within {g : τ → τ} {part : σ → τ} {put : τ → σ → σ} {act : Act τ α}
    (hpart : ∀ s, part (f s) = g (part s)) (hput : ∀ t s, f (put t s) = put (g t) (f s))
    (h : Respects g act) : Respects f (act.within part put) := by
  intro s t hst
  have hparts : g (part s) = g (part t) := by rw [← hpart, hst, hpart]
  obtain ⟨hresult, hstate⟩ := h (part s) (part t) hparts
  refine ⟨hresult, ?_⟩
  rw [within_apply, within_apply, hput, hput, hstate, hst]

end Respects

def Commutes (f : σ → σ) (act : Act σ α) (s : σ) : Prop :=
  act (f s) = ((act s).1, f (act s).2)

theorem Commutes.bind {act : Act σ α} {next : α → Act σ β} {s : σ} (hact : Commutes f act s)
    (hnext : ∀ a t, act s = (.ok a, t) → Commutes f (next a) t) : Commutes f (act >>= next) s := by
  rw [Commutes, bind_apply, bind_apply, hact]
  rcases hended : act s with ⟨failure | a, t⟩
  · rfl
  · exact hnext a t hended

theorem Commutes.within {part : σ → τ} {put : τ → σ → σ} {act : Act τ α} {s : σ} (hpart : part (f s) = part s)
    (hput : ∀ t, put t (f s) = f (put t s)) : Commutes f (act.within part put) s := by
  rw [Commutes, within_apply, within_apply, hpart, hput]

theorem Respects.of_commutes {act : Act σ α} (h : ∀ s, Commutes f act s) : Respects f act := by
  intro s t hst
  have hs : act (f s) = ((act s).1, f (act s).2) := h s
  have ht : act (f t) = ((act t).1, f (act t).2) := h t
  rw [hst, ht] at hs
  obtain ⟨hresult, hstate⟩ := Prod.mk.inj hs
  exact ⟨hresult.symm, hstate.symm⟩

theorem Alike.andFinally {act act' : Act σ α} {after : Act σ Unit} {s t : σ}
    (h : Alike f (act s) (act' t)) (hafter : Respects f after) :
    Alike f (act.andFinally after s) (act'.andFinally after t) :=
  h.ending.bind fun result => hafter.bind fun _ => .ofExcept result

end

end DependencyAtlas.Act
