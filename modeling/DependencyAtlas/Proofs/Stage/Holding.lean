import DependencyAtlas.Proofs.Stage.Rendering
import DependencyAtlas.Stage.Ensemble
import Mathlib.Logic.Relation

/-!
What a renderer holds, and the moves that change it. Whatever a renderer is asked to do, and however that
ends, what it holds changes by such moves alone. The surface is taken to be cleared without failure.
-/

namespace DependencyAtlas.Stage

open Act (Keeps)

structure Holding where
  live : Option Nat
  last : Option Nat
  surface : Surface
  registry : Registry

namespace Holding

def made (h : Holding) : Holding :=
  { h with
    last := some h.registry.created
    registry := { h.registry with created := h.registry.created + 1 } }

def shown (h : Holding) : Holding :=
  { h.made with
    live := some h.registry.created
    surface :=
      { h.surface with
        bound := some (.visualization h.registry.created)
        history := h.surface.history ++ [some (.visualization h.registry.created)] } }

def wasted (h : Holding) : Holding :=
  { h.made with registry := h.made.registry.destroy h.registry.created }

def letGo (id : Nat) (h : Holding) : Holding :=
  { h with
    live := none
    surface := h.surface.without (some (.visualization id))
    registry := h.registry.destroy id }

def taken (key : Nat) (h : Holding) : Holding :=
  { h with
    surface :=
      { h.surface with
        bound := some (.token key)
        history := h.surface.history ++ [some (.token key)] } }

def left (key : Nat) (h : Holding) : Holding :=
  { h with surface := h.surface.without (some (.token key)) }

inductive Move : Holding → Holding → Prop
  | made {h : Holding} (hlive : h.live = none) : Move h h.made
  | wasted {h : Holding} (hlive : h.live = none) : Move h h.wasted
  | shown {h : Holding} (hlive : h.live = none) (hfree : h.surface.bound = none) : Move h h.shown
  | letGo {h : Holding} {id : Nat} (hlive : h.live = some id) : Move h (h.letGo id)
  | taken {h : Holding} {key : Nat} (hfree : h.surface.bound = none) : Move h (h.taken key)
  | left {h : Holding} {key : Nat} : Move h (h.left key)

abbrev Moves : Holding → Holding → Prop :=
  Relation.ReflTransGen Move

theorem Move.created_le {h k : Holding} (m : Move h k) :
    h.registry.created ≤ k.registry.created := by
  cases m with
  | made | wasted | shown => exact Nat.le_succ _
  | letGo | taken | left => exact Nat.le_refl _

theorem Moves.created_le {h k : Holding} (m : Moves h k) :
    h.registry.created ≤ k.registry.created := by
  induction m with
  | refl => exact Nat.le_refl _
  | tail _ m ih => exact Nat.le_trans ih m.created_le

theorem Move.last_eq {h k : Holding} (m : Move h k) :
    (k.registry.created = h.registry.created ∧ k.last = h.last) ∨
    (k.registry.created = h.registry.created + 1 ∧ k.last = some h.registry.created) := by
  cases m with
  | made | wasted | shown => exact .inr ⟨rfl, rfl⟩
  | letGo | taken | left => exact .inl ⟨rfl, rfl⟩

theorem Moves.last_eq {h k : Holding} (m : Moves h k) :
    k.last =
      if k.registry.created = h.registry.created then h.last else some (k.registry.created - 1) := by
  induction m with
  | refl => rw [if_pos rfl]
  | @tail j k m step ih =>
    -- The numbers only grow, so a new one cannot be mistaken for the first.
    have hle := Moves.created_le m
    rcases step.last_eq with ⟨hcreated, hlast⟩ | ⟨hcreated, hlast⟩
    · rw [hlast, hcreated, ih]
    · rw [hlast, hcreated, if_neg (by omega), Nat.add_sub_cancel]

end Holding

open Holding (Move Moves)

namespace Studio

variable {σ η α β : Type} {canvas : Canvas σ η}

def holding (last : Option Nat) (s : Studio σ η) : Holding :=
  ⟨s.renderer.live.map Live.id, last, s.surface, s.registry⟩

/-- The action changes what the renderer holds by moves, however it ends. -/
def Moving (act : Act (Studio σ η) α) : Prop :=
  ∀ s last, ∃ last', Moves (s.holding last) ((act s).2.holding last')

theorem Moving.after {act : Act (Studio σ η) α} (hact : Moving act) {h : Holding} {s : Studio σ η}
    (last : Option Nat) (hmoves : Moves h (s.holding last)) :
    ∃ last', Moves h ((act s).2.holding last') := by
  obtain ⟨last', hrest⟩ := hact s last
  exact ⟨last', hmoves.trans hrest⟩

theorem Moving.of_keeps {act : Act (Studio σ η) α} (h : Keeps (holding none) act) : Moving act := by
  intro s last
  refine ⟨last, ?_⟩
  have hheld : (act s).2.holding last = s.holding last := by
    have hnone := h s
    simp only [holding, Holding.mk.injEq, true_and] at hnone ⊢
    exact hnone
  rw [hheld]

theorem Moving.bind {act : Act (Studio σ η) α} {next : α → Act (Studio σ η) β}
    (hact : Moving act) (hnext : ∀ a, Moving (next a)) : Moving (act >>= next) := by
  intro s last
  obtain ⟨last', hmoves⟩ := hact s last
  rw [Act.bind_apply]
  rcases hended : act s with ⟨failure | a, t⟩
  · rw [hended] at hmoves
    exact ⟨last', hmoves⟩
  · rw [hended] at hmoves
    exact (hnext a).after last' hmoves

theorem Moving.onError {act : Act (Studio σ η) α} {after : Act (Studio σ η) Unit} (hact : Moving act)
    (hafter : Moving after) : Moving (act.onError after) := by
  have hended : Moving act.ending := hact
  apply hended.bind
  rintro (failure | a)
  · dsimp only
    split
    · exact of_keeps (Keeps.throw failure)
    · exact hafter.bind fun _ => of_keeps (Keeps.throw failure)
  · exact of_keeps (Keeps.pure a)

theorem relayout_keeps_holding : Keeps (holding none) (relayout canvas) := by
  intro s
  rcases hlive : s.renderer.live with _ | live
  · rw [relayout_of_hidden hlive]
  · rcases @relayout_state _ _ canvas _ _ _ hlive (holding none) fun _ _ => rfl with hsame | ⟨v, -, hchanged⟩
    · exact hsame
    · rw [hchanged, holding, holding, changed, hlive]
      rfl

theorem tap_keeps_holding (id : String) : Keeps (holding none) (tap canvas id) := by
  intro s
  rcases hlive : s.renderer.live with _ | live
  · rw [tap_of_hidden hlive]
  · rw [tap_state (f := holding none) hlive fun _ _ => rfl, holding, holding, changed, hlive]
    rfl

theorem bind_moving (key : Nat) : Moving (bind (σ := σ) (η := η) (some (.token key))) := by
  intro s last
  rcases hbound : s.surface.bound with _ | holder
  · rw [bind_free s _ hbound]
    exact ⟨last, .single (.taken hbound)⟩
  · rw [bind_busy s holder _ hbound]
    exact ⟨last, .refl⟩

variable (hclear : ∀ outside, (canvas.clear outside).1 = .ok ())

include hclear

theorem unbind_apply (holder : Option Holder) (s : Studio σ η) :
    ∃ outside, unbind canvas holder s =
      (.ok (), { s with surface := s.surface.without holder, outside }) :=
  ⟨_, unbind_of_clear (hclear s.outside) holder⟩

theorem release_apply (s : Studio σ η) (last : Option Nat) :
    ∃ t, release canvas s = (.ok (), t) ∧ t.renderer.live = none ∧
      Moves (s.holding last) (t.holding last) := by
  rcases hlive : s.renderer.live with _ | live
  · exact ⟨s, release_of_hidden hlive, hlive, .refl⟩
  · have hmove : Move (s.holding last) ((s.holding last).letGo live.id) := by
      apply Move.letGo
      simp only [holding, hlive, Option.map_some]
    exact ⟨_, release_of_live hlive (hclear s.outside), rfl, .single hmove⟩

theorem release_moving : Moving (release canvas) := by
  intro s last
  obtain ⟨_, hrelease, _, hmoves⟩ := release_apply hclear s last
  rw [hrelease]
  exact ⟨last, hmoves⟩

theorem unbind_moving (key : Nat) : Moving (unbind canvas (some (.token key))) := by
  intro s last
  obtain ⟨outside, hunbind⟩ := unbind_apply hclear (some (.token key)) s
  rw [hunbind]
  exact ⟨last, .single .left⟩

theorem firstDraw_moving (v : Drawing.Visualization Float) : Moving (firstDraw canvas v) := by
  have hdraw : Keeps (holding none) (drawTransition canvas v) :=
    drawTransition_keeps (fun _ => Keeps.within_other fun _ _ => rfl) v
  apply Moving.bind ((Moving.of_keeps hdraw).onError (release_moving hclear))
  intro _
  exact Moving.of_keeps (Keeps.pure true)

theorem render_moving (g : Graph) : Moving (render canvas g) := by
  intro s last
  obtain ⟨t, hrelease, hlive, hreleased⟩ := release_apply hclear s last
  have hlive' : (t.holding last).live = none := by
    simp only [holding, hlive, Option.map_none]
  rw [render_apply hrelease]
  by_cases hempty : g.isEmpty = true
  · rw [if_pos hempty]
    exact ⟨last, hreleased⟩
  rw [if_neg hempty]
  -- Nothing is shown after the release, so each way on from here is one move.
  rcases firstView t.renderer.policy g with failure | v
  · exact ⟨some t.registry.created, hreleased.tail (.made hlive')⟩
  dsimp only
  rcases hbound : t.surface.bound with _ | holder
  · have hshown : Move (t.holding last) (t.holding last).shown := .shown hlive' hbound
    exact (firstDraw_moving hclear v).after (some t.registry.created) (hreleased.tail hshown)
  · exact ⟨some t.registry.created, hreleased.tail (.wasted hlive')⟩

end Studio

def Deed.isFair {η : Type} : Deed η → Bool
  | .bind (some (.token _)) | .unbind (some (.token _)) => true
  | .bind _ | .unbind _ | .unbindBound => false
  | _ => true

open Studio in
theorem Deed.perform_moving {σ η : Type} {canvas : Canvas σ η}
    (hclear : ∀ outside, (canvas.clear outside).1 = .ok ()) {deed : Deed η}
    (hfair : deed.isFair = true) : Moving (deed.perform canvas) := by
  cases deed with
  | render g =>
    exact Moving.bind (render_moving hclear g) fun _ => Moving.of_keeps (Keeps.pure _)
  | relayout =>
    exact Moving.of_keeps (Keeps.bind relayout_keeps_holding fun _ => Keeps.pure _)
  | tap id =>
    exact Moving.of_keeps (Keeps.bind (tap_keeps_holding id) fun _ => Keeps.pure _)
  | release =>
    exact Moving.bind (release_moving hclear) fun _ => Moving.of_keeps (Keeps.pure _)
  | onSelect handler =>
    apply Moving.of_keeps
    refine Keeps.bind (Keeps.modify fun _ => rfl) fun _ => ?_
    exact Keeps.pure _
  | snapshot =>
    apply Moving.of_keeps
    apply Keeps.bind Keeps.get
    intro s
    apply Keeps.bind (Keeps.ofExcept _)
    intro figure
    exact Keeps.pure _
  | document =>
    apply Moving.of_keeps
    apply Keeps.bind Keeps.get
    intro s
    apply Keeps.bind (Keeps.ofExcept _)
    intro value
    exact Keeps.pure _
  | bind holder =>
    match holder, hfair with
    | some (.token key), _ =>
      exact Moving.bind (bind_moving key) fun _ => Moving.of_keeps (Keeps.pure _)
  | unbind holder =>
    match holder, hfair with
    | some (.token key), _ =>
      exact Moving.bind (unbind_moving hclear key) fun _ => Moving.of_keeps (Keeps.pure _)
  | unbindBound => cases hfair

end DependencyAtlas.Stage
