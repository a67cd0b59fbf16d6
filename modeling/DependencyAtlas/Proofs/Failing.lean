import DependencyAtlas.Proofs.Actions
import DependencyAtlas.Proofs.Results

namespace DependencyAtlas.Act

variable {σ τ α β : Type} {P : σ → Prop} {Q : Failure → Prop}

/-- From where `P` holds the action stays where it holds, and whatever it fails with is such a failure. -/
structure Fails (P : σ → Prop) (Q : Failure → Prop) (act : Act σ α) : Prop where
  maintains : Maintains P act
  failsAs : ∀ s, P s → FailsAs Q (act s).1

namespace Fails

theorem pure (a : α) : Fails P Q (Pure.pure a : Act σ α) :=
  ⟨.pure a, fun _ _ => failsAs_ok a⟩

theorem throw {failure : Failure} (h : Q failure) : Fails P Q (MonadExcept.throw failure : Act σ α) :=
  ⟨.throw failure, fun _ _ => failsAs_error h⟩

theorem get : Fails P Q (MonadState.get : Act σ σ) :=
  ⟨.get, fun s _ => failsAs_ok s⟩

theorem ofExcept {result : Except Failure α} (h : FailsAs Q result) : Fails P Q (Act.ofExcept result : Act σ α) :=
  ⟨.ofExcept result, fun _ _ => h⟩

theorem modify {g : σ → σ} (h : ∀ s, P s → P (g s)) : Fails P Q (modify g : Act σ PUnit) :=
  ⟨.modify h, fun _ _ => failsAs_ok _⟩

theorem bind_from {act : Act σ α} {next : α → Act σ β} (hact : Fails P Q act)
    (hnext : ∀ s a t, P s → act s = (.ok a, t) → P t → P (next a t).2 ∧ FailsAs Q (next a t).1) :
    Fails P Q (act >>= next) := by
  have hended (s : σ) (hs : P s) : P ((act >>= next) s).2 ∧ FailsAs Q ((act >>= next) s).1 := by
    have hkept := hact.maintains s hs
    have hfails := hact.failsAs s hs
    rw [bind_apply]
    rcases heq : act s with ⟨failure | a, t⟩ <;> rw [heq] at hkept hfails
    · exact ⟨hkept, failsAs_error (hfails failure rfl)⟩
    · exact hnext s a t hs heq hkept
  exact ⟨fun s hs => (hended s hs).1, fun s hs => (hended s hs).2⟩

theorem bind {act : Act σ α} {next : α → Act σ β} (hact : Fails P Q act) (hnext : ∀ a, Fails P Q (next a)) :
    Fails P Q (act >>= next) :=
  hact.bind_from fun _ a t _ _ ht => ⟨(hnext a).maintains t ht, (hnext a).failsAs t ht⟩

theorem get_bind {next : σ → Act σ β} (hnext : ∀ s, P s → Fails P Q (next s)) : Fails P Q (MonadState.get >>= next) :=
  get.bind_from fun s a t hs heq ht => by
    cases heq
    exact ⟨(hnext s hs).maintains s ht, (hnext s hs).failsAs s ht⟩

theorem ofExcept_bind {result : Except Failure α} {next : α → Act σ β} (h : FailsAs Q result)
    (hnext : ∀ a, result = .ok a → Fails P Q (next a)) : Fails P Q (Act.ofExcept result >>= next) := by
  cases result with
  | error failure => exact .throw (h failure rfl)
  | ok a => exact hnext a rfl

theorem ending_bind {act : Act σ α} {next : Except Failure α → Act σ β} (hact : Fails P Q act)
    (hok : ∀ a, Fails P Q (next (.ok a))) (herror : ∀ failure, Q failure → Fails P Q (next (.error failure))) :
    Fails P Q (act.ending >>= next) := by
  have hended : Fails P Q act.ending := ⟨hact.maintains.ending, fun s _ => failsAs_ok (act s).1⟩
  refine hended.bind_from fun s result t hs heq ht => ?_
  obtain ⟨hresult, -⟩ := Prod.mk.inj heq
  rcases result with failure | a
  · have hfailure := herror failure (hact.failsAs s hs failure (Except.ok.inj hresult))
    exact ⟨hfailure.maintains t ht, hfailure.failsAs t ht⟩
  · exact ⟨(hok a).maintains t ht, (hok a).failsAs t ht⟩

theorem ite {c : Prop} [Decidable c] {act other : Act σ α} (hact : Fails P Q act) (hother : Fails P Q other) :
    Fails P Q (if c then act else other) := by
  split
  · exact hact
  · exact hother

theorem onError {act : Act σ α} {after : Act σ Unit} (hact : Fails P Q act) (hafter : Fails P Q after) :
    Fails P Q (act.onError after) :=
  hact.ending_bind .pure fun _ hfailure => ite (.throw hfailure) (hafter.bind fun _ => .throw hfailure)

theorem within {R : τ → Prop} {part : σ → τ} {put : τ → σ → σ} {act : Act τ α} (hpart : ∀ s, P s → R (part s))
    (hput : ∀ s t, P s → R t → P (put t s)) (hact : Fails R Q act) : Fails P Q (act.within part put) :=
  ⟨fun s hs => hput s _ hs (hact.maintains _ (hpart s hs)), fun s hs => hact.failsAs _ (hpart s hs)⟩

end Fails

end DependencyAtlas.Act
