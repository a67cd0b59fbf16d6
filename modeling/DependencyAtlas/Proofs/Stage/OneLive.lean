import DependencyAtlas.Proofs.Stage.Holding
import Mathlib.Logic.Function.Basic

/-!
One live visualization for each surface. Any number of renderers draw on any surfaces, several on one surface
if they like, and other parties keep tokens there. A renderer has an instance just as long as the
visualization that it made last is the one on its surface.
-/

namespace DependencyAtlas.Stage

open Function (update)
open Holding (Move Moves)

namespace Surface

structure Settled (destroyed : List Nat) (s : Surface) : Prop where
  past : ∀ id, some (.visualization id) ∈ s.history →
    s.bound = some (.visualization id) ∨ id ∈ destroyed
  balance : s.binds = s.clears + if s.bound.isSome then 1 else 0

variable {destroyed : List Nat} {s : Surface}

theorem settled_empty : Settled destroyed empty where
  past id h := by cases h
  balance := rfl

theorem Settled.mono {more : List Nat} (h : s.Settled destroyed) (hmore : destroyed ⊆ more) :
    s.Settled more where
  past id hbound := (h.past id hbound).imp_right fun hid => hmore hid
  balance := h.balance

theorem Settled.bind (h : s.Settled destroyed) (hfree : s.bound = none) (holder : Holder) :
    Settled destroyed { s with bound := some holder, history := s.history ++ [some holder] } where
  past id hbound := by
    rcases List.mem_append.mp hbound with hbefore | hnow
    · have hpast := h.past id hbefore
      rw [hfree] at hpast
      exact .inr (hpast.resolve_left nofun)
    · exact .inl (List.mem_singleton.mp hnow).symm
  balance := by
    have hbalance := h.balance
    simp only [binds, hfree, Option.isSome_none, Bool.false_eq_true, if_false, Nat.add_zero]
      at hbalance
    simp only [binds, List.length_append, List.length_singleton, hbalance, Option.isSome_some,
      if_true]

theorem Settled.without (h : s.Settled destroyed) (holder : Holder)
    (hdestroyed : ∀ id, holder = .visualization id → id ∈ destroyed) :
    Settled destroyed (s.without (some holder)) := by
  rw [Surface.without]
  by_cases hbound : s.bound = some holder
  · rw [if_pos hbound]
    constructor
    · intro id hid
      have hpast := h.past id hid
      rw [hbound] at hpast
      rcases hpast with hsame | hgone
      · exact .inr (hdestroyed id (Option.some.inj hsame))
      · exact .inr hgone
    · have hbalance := h.balance
      rw [hbound] at hbalance
      exact hbalance
  · rw [if_neg hbound]
    exact h

end Surface

namespace Holding

structure Sound (h : Holding) : Prop where
  shown : ∀ {id}, h.live = some id →
    h.last = some id ∧ h.surface.bound = some (.visualization id) ∧ id ∉ h.registry.destroyed
  made : ∀ {id}, h.last = some id → id < h.registry.created
  gone : ∀ {id}, id ∈ h.registry.destroyed → id < h.registry.created
  settled : h.surface.Settled h.registry.destroyed

structure Considerate (h k : Holding) : Prop where
  created_le : h.registry.created ≤ k.registry.created
  destroyed_subset : h.registry.destroyed ⊆ k.registry.destroyed
  destroys : ∀ {id}, id ∈ k.registry.destroyed →
    id ∈ h.registry.destroyed ∨ h.live = some id ∨ h.registry.created ≤ id
  makes : ∀ {id}, k.last = some id → h.last = some id ∨ h.registry.created ≤ id
  leaves : ∀ {id}, h.surface.bound = some (.visualization id) → h.live ≠ some id →
    k.surface.bound = some (.visualization id)
  binds : ∀ {id}, k.surface.bound = some (.visualization id) →
    k.live = some id ∨ h.surface.bound = some (.visualization id) ∧ h.live ≠ some id

variable {h k : Holding}

theorem Sound.destroyed_ne (hs : h.Sound) {id : Nat} (hid : id ∈ h.registry.destroyed) :
    id ≠ h.registry.created :=
  Nat.ne_of_lt (hs.gone hid)

theorem Move.sound (m : Move h k) (hs : h.Sound) : k.Sound := by
  cases m with
  | made hlive =>
    refine ⟨fun hid => ?_, fun hid => ?_, fun hid => Nat.lt_succ_of_lt (hs.gone hid), hs.settled⟩
    · cases hlive.symm.trans hid
    · cases hid
      exact Nat.lt_succ_self _
  | wasted hlive =>
    refine ⟨fun hid => ?_, fun hid => ?_, fun hid => ?_, hs.settled.mono (List.subset_cons_self _ _)⟩
    · cases hlive.symm.trans hid
    · cases hid
      exact Nat.lt_succ_self _
    · rcases List.mem_cons.mp hid with rfl | hbefore
      · exact Nat.lt_succ_self _
      · exact Nat.lt_succ_of_lt (hs.gone hbefore)
  | shown hlive hfree =>
    refine ⟨fun hid => ?_, fun hid => ?_, fun hid => Nat.lt_succ_of_lt (hs.gone hid),
      hs.settled.bind hfree _⟩
    · cases hid
      exact ⟨rfl, rfl, fun hgone => hs.destroyed_ne hgone rfl⟩
    · cases hid
      exact Nat.lt_succ_self _
  | @letGo id hlive =>
    obtain ⟨hlast, -, -⟩ := hs.shown hlive
    -- What leaves the surface here is destroyed in the same move.
    refine ⟨nofun, hs.made, fun hid => ?_, ?_⟩
    · rcases List.mem_cons.mp hid with rfl | hbefore
      · exact hs.made hlast
      · exact hs.gone hbefore
    · apply (hs.settled.mono (List.subset_cons_self id _)).without
      intro other hother
      cases hother
      exact List.mem_cons_self
  | taken hfree =>
    refine ⟨fun hid => ?_, hs.made, hs.gone, hs.settled.bind hfree _⟩
    cases hfree.symm.trans (hs.shown hid).2.1
  | @left key =>
    refine ⟨fun {id} hid => ?_, hs.made, hs.gone, hs.settled.without _ nofun⟩
    obtain ⟨hlast, hbound, hintact⟩ := hs.shown hid
    refine ⟨hlast, (Surface.without_bound_of_ne ?_).trans hbound, hintact⟩
    rw [hbound]
    nofun

theorem Move.destroyed_subset (m : Move h k) : h.registry.destroyed ⊆ k.registry.destroyed := by
  cases m with
  | wasted | letGo => exact List.subset_cons_self _ _
  | made | shown | taken | left => exact List.Subset.refl _

theorem Move.destroys (m : Move h k) {id : Nat} (hid : id ∈ k.registry.destroyed) :
    id ∈ h.registry.destroyed ∨ h.live = some id ∨ h.registry.created ≤ id := by
  cases m with
  | wasted =>
    rcases List.mem_cons.mp hid with rfl | hbefore
    · exact .inr (.inr (Nat.le_refl _))
    · exact .inl hbefore
  | letGo hlive =>
    rcases List.mem_cons.mp hid with rfl | hbefore
    · exact .inr (.inl hlive)
    · exact .inl hbefore
  | made | shown | taken | left => exact .inl hid

theorem Move.makes (m : Move h k) {id : Nat} (hid : k.last = some id) :
    h.last = some id ∨ h.registry.created ≤ id := by
  rcases m.last_eq with ⟨-, hlast⟩ | ⟨-, hlast⟩
  · exact .inl (hlast.symm.trans hid)
  · cases hlast.symm.trans hid
    exact .inr (Nat.le_refl _)

theorem Move.leaves (m : Move h k) {id : Nat}
    (hbound : h.surface.bound = some (.visualization id)) (hother : h.live ≠ some id) :
    k.surface.bound = some (.visualization id) := by
  cases m with
  | made | wasted => exact hbound
  | shown _ hfree | taken hfree => cases hfree.symm.trans hbound
  | @letGo live hlive =>
    refine (Surface.without_bound_of_ne ?_).trans hbound
    rw [hbound]
    rintro ⟨⟩
    exact hother hlive
  | left =>
    refine (Surface.without_bound_of_ne ?_).trans hbound
    rw [hbound]
    nofun

theorem Move.binds (m : Move h k) (hs : h.Sound) {id : Nat}
    (hbound : k.surface.bound = some (.visualization id)) :
    k.live = some id ∨ h.surface.bound = some (.visualization id) ∧ h.live ≠ some id := by
  cases m with
  | made hlive | wasted hlive =>
    refine .inr ⟨hbound, ?_⟩
    rw [hlive]
    nofun
  | shown =>
    cases hbound
    exact .inl rfl
  | taken => cases hbound
  | letGo hlive => cases (Surface.without_bound_self (hs.shown hlive).2.1).symm.trans hbound
  | left =>
    have hbefore := Surface.bound_of_without hbound
    by_cases hlive : h.live = some id
    · exact .inl hlive
    · exact .inr ⟨hbefore, hlive⟩

theorem Move.considerate (m : Move h k) (hs : h.Sound) : Considerate h k where
  created_le := m.created_le
  destroyed_subset := m.destroyed_subset
  destroys := m.destroys
  makes := m.makes
  leaves := m.leaves
  binds := m.binds hs

end Holding

structure Scene where
  live : Nat → Option Nat
  last : Nat → Option Nat
  surface : Nat → Surface
  registry : Registry

namespace Scene

variable {seat : Nat → Nat} {c : Scene}

def holding (seat : Nat → Nat) (c : Scene) (i : Nat) : Holding :=
  ⟨c.live i, c.last i, c.surface (seat i), c.registry⟩

def put (seat : Nat → Nat) (c : Scene) (i : Nat) (h : Holding) : Scene where
  live := update c.live i h.live
  last := update c.last i h.last
  surface := update c.surface (seat i) h.surface
  registry := h.registry

structure Sound (seat : Nat → Nat) (c : Scene) : Prop where
  holds : ∀ i, (c.holding seat i).Sound
  owned : ∀ {k id}, (c.surface k).bound = some (.visualization id) →
    ∃ i, seat i = k ∧ c.live i = some id
  apart : ∀ {i j id}, c.last i = some id → c.last j = some id → i = j
  settled : ∀ k, (c.surface k).Settled c.registry.destroyed

theorem holding_put_self (i : Nat) (h : Holding) : (c.put seat i h).holding seat i = h := by
  simp only [holding, put, Function.update_self]

theorem put_holding (i : Nat) : c.put seat i (c.holding seat i) = c := by
  simp only [holding, put, Function.update_eq_self]

theorem put_put (i : Nat) (h k : Holding) : (c.put seat i h).put seat i k = c.put seat i k := by
  simp only [put, Function.update_idem]

theorem put_live_self (i : Nat) (h : Holding) : (c.put seat i h).live i = h.live :=
  Function.update_self ..

theorem put_live_of_ne {i j : Nat} (hne : j ≠ i) (h : Holding) :
    (c.put seat i h).live j = c.live j :=
  Function.update_of_ne hne _ _

theorem put_last_self (i : Nat) (h : Holding) : (c.put seat i h).last i = h.last :=
  Function.update_self ..

theorem put_last_of_ne {i j : Nat} (hne : j ≠ i) (h : Holding) :
    (c.put seat i h).last j = c.last j :=
  Function.update_of_ne hne _ _

theorem put_surface_self (i : Nat) (h : Holding) :
    (c.put seat i h).surface (seat i) = h.surface :=
  Function.update_self ..

theorem put_surface_of_ne {i k : Nat} (hne : k ≠ seat i) (h : Holding) :
    (c.put seat i h).surface k = c.surface k :=
  Function.update_of_ne hne _ _

theorem Sound.live_ne (hs : Sound seat c) {i j id : Nat} (hne : j ≠ i) (hj : c.live j = some id) :
    c.live i ≠ some id := by
  intro hi
  exact hne (hs.apart ((hs.holds j).shown hj).1 ((hs.holds i).shown hi).1)

theorem last_put {i j id : Nat} {h : Holding} (hrest : (c.holding seat i).Considerate h)
    (hj : (c.put seat i h).last j = some id) :
    c.last j = some id ∨ j = i ∧ c.registry.created ≤ id := by
  by_cases hne : j = i
  · subst hne
    rw [put_last_self] at hj
    exact (hrest.makes hj).imp_right fun hnew => ⟨rfl, hnew⟩
  · rw [put_last_of_ne hne] at hj
    exact .inl hj

section

variable {i : Nat} {h : Holding} (hs : Sound seat c) (hsound : h.Sound)
  (hrest : (c.holding seat i).Considerate h)

include hs hsound hrest

theorem put_settled (k : Nat) : ((c.put seat i h).surface k).Settled h.registry.destroyed := by
  by_cases hseat : k = seat i
  · rw [hseat, put_surface_self]
    exact hsound.settled
  · rw [put_surface_of_ne hseat]
    exact (hs.settled k).mono hrest.destroyed_subset

theorem holding_put_of_ne {j : Nat} (hne : j ≠ i) : ((c.put seat i h).holding seat j).Sound := by
  constructor
  · intro id hid
    change (c.put seat i h).live j = _ at hid
    change (c.put seat i h).last j = _ ∧ ((c.put seat i h).surface (seat j)).bound = _ ∧ _
    rw [put_live_of_ne hne] at hid
    rw [put_last_of_ne hne]
    obtain ⟨hlast, hbound, hintact⟩ := (hs.holds j).shown hid
    have hother := hs.live_ne hne hid
    refine ⟨hlast, ?_, ?_⟩
    · change (c.surface (seat j)).bound = _ at hbound
      by_cases hseat : seat j = seat i
      · rw [hseat] at hbound ⊢
        rw [put_surface_self]
        exact hrest.leaves hbound hother
      · rw [put_surface_of_ne hseat]
        exact hbound
    · intro hgone
      rcases hrest.destroys hgone with hbefore | hi | hnew
      · exact hintact hbefore
      · exact hother hi
      · exact Nat.not_lt.mpr hnew ((hs.holds j).made hlast)
  · intro id hid
    change (c.put seat i h).last j = _ at hid
    rw [put_last_of_ne hne] at hid
    exact Nat.lt_of_lt_of_le ((hs.holds j).made hid) hrest.created_le
  · exact hsound.gone
  · exact put_settled hs hsound hrest _

end

theorem Sound.put (hs : Sound seat c) {i : Nat} {h : Holding} (m : Move (c.holding seat i) h) :
    Sound seat (c.put seat i h) := by
  have hsound := m.sound (hs.holds i)
  have hrest := m.considerate (hs.holds i)
  constructor
  · intro j
    by_cases hne : j = i
    · rw [hne, holding_put_self]
      exact hsound
    · exact holding_put_of_ne hs hsound hrest hne
  · intro k id hbound
    -- On the renderer's own surface the owner may have changed; elsewhere it is the old one.
    by_cases hseat : k = seat i
    · subst hseat
      rw [put_surface_self] at hbound
      rcases hrest.binds hbound with hlive | ⟨hbefore, hother⟩
      · exact ⟨i, rfl, (put_live_self i h).trans hlive⟩
      · obtain ⟨j, hj, hlive⟩ := hs.owned hbefore
        refine ⟨j, hj, (put_live_of_ne ?_ h).trans hlive⟩
        rintro rfl
        exact hother hlive
    · rw [put_surface_of_ne hseat] at hbound
      obtain ⟨j, hj, hlive⟩ := hs.owned hbound
      refine ⟨j, hj, (put_live_of_ne ?_ h).trans hlive⟩
      rintro rfl
      exact hseat hj.symm
  · intro j k id hj hk
    have hmade {j : Nat} (hj : c.last j = some id) : ¬ c.registry.created ≤ id :=
      Nat.not_le.mpr ((hs.holds j).made hj)
    rcases last_put hrest hj with hj | ⟨rfl, hnew⟩
    · rcases last_put hrest hk with hk | ⟨-, hnew⟩
      · exact hs.apart hj hk
      · exact absurd hnew (hmade hj)
    · rcases last_put hrest hk with hk | ⟨rfl, -⟩
      · exact absurd hnew (hmade hk)
      · rfl
  · exact put_settled hs hsound hrest

theorem Sound.moves (hs : Sound seat c) {i : Nat} {h : Holding}
    (m : Moves (c.holding seat i) h) : Sound seat (c.put seat i h) := by
  induction m with
  | refl =>
    rw [put_holding]
    exact hs
  | @tail h k _ m ih =>
    -- The next move starts from what the moves before left in the scene.
    have hmove : Move ((c.put seat i h).holding seat i) k := by
      rw [holding_put_self]
      exact m
    rw [← put_put i h k]
    exact ih.put hmove

end Scene

variable {σ η : Type}

structure Watched (σ η : Type) where
  ensemble : Ensemble σ η
  last : Nat → Option Nat

inductive Event (σ η : Type) where
  | ask (i : Nat) (deed : Deed η)
  | outside (o : σ)

def Event.isFair : Event σ η → Bool
  | .ask _ deed => deed.isFair
  | .outside _ => true

namespace Watched

def step (canvas : Canvas σ η) (w : Watched σ η) : Event σ η → Watched σ η
  | .ask i deed =>
    let e := (Ensemble.perform canvas i deed w.ensemble).2
    let last :=
      if e.registry.created = w.ensemble.registry.created then w.last i
      else some (e.registry.created - 1)
    ⟨e, update w.last i last⟩
  | .outside o => { w with ensemble := { w.ensemble with outside := o } }

/-- What an ensemble comes to while other parties keep to tokens of their own. -/
inductive Reaches (canvas : Canvas σ η) (start : Ensemble σ η) : Watched σ η → Prop
  | start : Reaches canvas start ⟨start, fun _ => none⟩
  | step {w : Watched σ η} (h : Reaches canvas start w) (event : Event σ η)
    (hfair : event.isFair = true) : Reaches canvas start (w.step canvas event)

def scene (w : Watched σ η) : Scene where
  live i := (w.ensemble.renderers[i]?.bind Renderer.live).map Live.id
  last := w.last
  surface k := w.ensemble.surfaces.getD k .empty
  registry := w.ensemble.registry

def Seated (w : Watched σ η) : Prop :=
  ∀ i < w.ensemble.renderers.length, w.ensemble.surfaceOf i < w.ensemble.surfaces.length

theorem scene_update (w : Watched σ η) (hseated : w.Seated) {i : Nat} {renderer : Renderer η}
    (hi : w.ensemble.renderers[i]? = some renderer) (s : Studio σ η) (last : Option Nat) :
    Watched.scene ⟨w.ensemble.update i s, update w.last i last⟩ =
      w.scene.put w.ensemble.surfaceOf i (s.holding last) := by
  obtain ⟨hlt, -⟩ := List.getElem?_eq_some_iff.mp hi
  simp only [scene, Scene.put, Ensemble.update, Studio.holding, Scene.mk.injEq, true_and, and_true]
  constructor
  · funext j
    by_cases hne : j = i
    · subst hne
      rw [Function.update_self, List.getElem?_set_self hlt, Option.bind_some]
    · rw [Function.update_of_ne hne, List.getElem?_set_ne (Ne.symm hne)]
  · funext k
    by_cases hseat : k = w.ensemble.surfaceOf i
    · subst hseat
      rw [Function.update_self, List.getD_eq_getElem?_getD,
        List.getElem?_set_self (hseated i hlt), Option.getD_some]
    · rw [Function.update_of_ne hseat, List.getD_eq_getElem?_getD,
        List.getElem?_set_ne (Ne.symm hseat), List.getD_eq_getElem?_getD]

theorem holding_studio (w : Watched σ η) {i : Nat} {renderer : Renderer η}
    (hi : w.ensemble.renderers[i]? = some renderer) :
    (w.ensemble.studio i renderer).holding (w.last i) =
      w.scene.holding w.ensemble.surfaceOf i := by
  simp only [Studio.holding, Ensemble.studio, Ensemble.surfaceAt, Scene.holding, scene, hi,
    Option.bind_some]

variable {canvas : Canvas σ η}

theorem perform_some (w : Watched σ η) {i : Nat} {renderer : Renderer η} (deed : Deed η)
    (hi : w.ensemble.renderers[i]? = some renderer) :
    (Ensemble.perform canvas i deed w.ensemble).2 =
      w.ensemble.update i (deed.perform canvas (w.ensemble.studio i renderer)).2 := by
  simp only [Ensemble.perform, hi]
  rfl

theorem step_ask_none (w : Watched σ η) {i : Nat} (deed : Deed η)
    (hi : w.ensemble.renderers[i]? = none) : w.step canvas (.ask i deed) = w := by
  simp only [step, Ensemble.perform, hi, if_pos, Function.update_eq_self]

theorem step_surfaceOf (w : Watched σ η) (event : Event σ η) :
    (w.step canvas event).ensemble.surfaceOf = w.ensemble.surfaceOf := by
  cases event with
  | ask i deed =>
    rcases hi : w.ensemble.renderers[i]? with _ | renderer
    · rw [step_ask_none w deed hi]
    · simp only [step, perform_some w deed hi, Ensemble.update]
  | outside o => rfl

theorem step_seated {w : Watched σ η} (hseated : w.Seated) (event : Event σ η) :
    (w.step canvas event).Seated := by
  cases event with
  | ask i deed =>
    rcases hi : w.ensemble.renderers[i]? with _ | renderer
    · rw [step_ask_none w deed hi]
      exact hseated
    · simp only [Seated, step, perform_some w deed hi, Ensemble.update, List.length_set]
      exact hseated
  | outside o => exact hseated

variable (hclear : ∀ outside, (canvas.clear outside).1 = .ok ())

include hclear

theorem scene_ask (w : Watched σ η) (hseated : w.Seated) {i : Nat} {renderer : Renderer η}
    (hi : w.ensemble.renderers[i]? = some renderer) {deed : Deed η} (hfair : deed.isFair = true) :
    ∃ h, Moves (w.scene.holding w.ensemble.surfaceOf i) h ∧
      (w.step canvas (.ask i deed)).scene = w.scene.put w.ensemble.surfaceOf i h := by
  obtain ⟨last, hmoves⟩ :=
    Deed.perform_moving hclear hfair (w.ensemble.studio i renderer) (w.last i)
  have hlast := hmoves.last_eq
  refine ⟨_, (holding_studio w hi) ▸ hmoves, ?_⟩
  rw [← scene_update w hseated hi]
  simp only [step, perform_some w deed hi]
  rw [show last = _ from hlast]
  rfl

theorem step_sound {w : Watched σ η} (hseated : w.Seated)
    (hs : w.scene.Sound w.ensemble.surfaceOf) {event : Event σ η}
    (hfair : event.isFair = true) :
    (w.step canvas event).scene.Sound (w.step canvas event).ensemble.surfaceOf := by
  rw [step_surfaceOf]
  cases event with
  | ask i deed =>
    rcases hi : w.ensemble.renderers[i]? with _ | renderer
    · rw [step_ask_none w deed hi]
      exact hs
    · obtain ⟨h, hmoves, hscene⟩ := scene_ask hclear w hseated hi hfair
      rw [hscene]
      exact hs.moves hmoves
  | outside o => exact hs

end Watched

structure Ensemble.Fresh (e : Ensemble σ η) : Prop where
  seated : ∀ i < e.renderers.length, e.surfaceOf i < e.surfaces.length
  hidden : ∀ renderer ∈ e.renderers, renderer.live = none
  clean : ∀ surface ∈ e.surfaces, surface = .empty
  blank : e.registry = ⟨0, []⟩

theorem Ensemble.Fresh.sound {e : Ensemble σ η} (h : e.Fresh) :
    (Watched.scene ⟨e, fun _ => none⟩).Sound e.surfaceOf := by
  have hlive (i : Nat) : (e.renderers[i]?.bind Renderer.live).map Live.id = none := by
    rcases hi : e.renderers[i]? with _ | renderer
    · rfl
    · rw [Option.bind_some, h.hidden renderer (List.mem_of_getElem? hi), Option.map_none]
  have hempty (k : Nat) : e.surfaces.getD k .empty = .empty := by
    rw [List.getD_eq_getElem?_getD]
    rcases hk : e.surfaces[k]? with _ | surface
    · rfl
    · exact h.clean surface (List.mem_of_getElem? hk)
  constructor
  · intro i
    refine ⟨fun hid => ?_, nofun, fun hid => ?_, ?_⟩
    · cases (hlive i).symm.trans hid
    · change _ ∈ e.registry.destroyed at hid
      rw [h.blank] at hid
      cases hid
    · change Surface.Settled _ (e.surfaces.getD _ .empty)
      rw [hempty]
      exact Surface.settled_empty
  · intro k id hbound
    change (e.surfaces.getD k .empty).bound = _ at hbound
    rw [hempty] at hbound
    cases hbound
  · nofun
  · intro k
    change Surface.Settled _ (e.surfaces.getD k .empty)
    rw [hempty]
    exact Surface.settled_empty

/-- One visualization is live on each surface at most, and it is the one that its renderer made last. -/
structure OneLive (w : Watched σ η) : Prop where
  instance_iff : ∀ i renderer, w.ensemble.renderers[i]? = some renderer →
    (renderer.hasInstance = true ↔
      ∃ id, w.last i = some id ∧ (w.ensemble.surfaceAt i).bound = some (.visualization id))
  live_eq : ∀ i renderer live, w.ensemble.renderers[i]? = some renderer →
    renderer.live = some live → w.last i = some live.id
  intact : ∀ surface ∈ w.ensemble.surfaces, ∀ id,
    surface.bound = some (.visualization id) → id ∉ w.ensemble.registry.destroyed
  alone : ∀ i j renderer other, w.ensemble.renderers[i]? = some renderer →
    w.ensemble.renderers[j]? = some other → renderer.hasInstance = true →
    other.hasInstance = true → w.ensemble.surfaceOf i = w.ensemble.surfaceOf j → i = j
  past : ∀ surface ∈ w.ensemble.surfaces, ∀ id, some (.visualization id) ∈ surface.history →
    surface.bound ≠ some (.visualization id) → id ∈ w.ensemble.registry.destroyed
  balance : ∀ surface ∈ w.ensemble.surfaces,
    (surface.binds : Int) - surface.clears = if surface.bound.isSome then 1 else 0

theorem Watched.scene_live {w : Watched σ η} {i : Nat} {renderer : Renderer η}
    (hi : w.ensemble.renderers[i]? = some renderer) :
    w.scene.live i = renderer.live.map Live.id := by
  simp only [scene, hi, Option.bind_some]

theorem Watched.scene_live_some {w : Watched σ η} {i : Nat} {renderer : Renderer η} {live : Live}
    (hi : w.ensemble.renderers[i]? = some renderer) (hlive : renderer.live = some live) :
    w.scene.live i = some live.id := by
  rw [scene_live hi, hlive, Option.map_some]

theorem Watched.hasInstance_iff {w : Watched σ η} {i : Nat} {renderer : Renderer η}
    (hi : w.ensemble.renderers[i]? = some renderer) :
    renderer.hasInstance = true ↔ ∃ id, w.scene.live i = some id := by
  rw [scene_live hi, Renderer.hasInstance, Option.isSome_iff_exists]
  simp only [Option.map_eq_some_iff]
  constructor
  · rintro ⟨live, hlive⟩
    exact ⟨live.id, live, hlive, rfl⟩
  · rintro ⟨_, live, hlive, -⟩
    exact ⟨live, hlive⟩

theorem Watched.scene_surface {w : Watched σ η} {surface : Surface}
    (h : surface ∈ w.ensemble.surfaces) : ∃ k, w.scene.surface k = surface := by
  obtain ⟨k, hk⟩ := List.getElem?_of_mem h
  refine ⟨k, ?_⟩
  simp only [scene, List.getD_eq_getElem?_getD, hk, Option.getD_some]

theorem Scene.Sound.oneLive {w : Watched σ η} (hs : w.scene.Sound w.ensemble.surfaceOf) :
    OneLive w := by
  have hshown (i id : Nat) (hi : w.scene.live i = some id) :=
    (hs.holds i).shown hi
  constructor
  · intro i renderer hi
    rw [Watched.hasInstance_iff hi]
    constructor
    · rintro ⟨id, hlive⟩
      obtain ⟨hlast, hbound, -⟩ := hshown i id hlive
      exact ⟨id, hlast, hbound⟩
    · rintro ⟨id, hlast, hbound⟩
      obtain ⟨j, -, hlive⟩ := hs.owned hbound
      obtain rfl := hs.apart hlast (hshown j id hlive).1
      exact ⟨id, hlive⟩
  · intro i renderer live hi hlive
    exact (hshown i live.id (Watched.scene_live_some hi hlive)).1
  · intro surface hsurface id hbound
    obtain ⟨k, rfl⟩ := Watched.scene_surface hsurface
    obtain ⟨i, -, hlive⟩ := hs.owned hbound
    exact (hshown i id hlive).2.2
  · intro i j renderer other hi hj hinstance hother hseat
    obtain ⟨id, hlive⟩ := (Watched.hasInstance_iff hi).mp hinstance
    obtain ⟨id', hlive'⟩ := (Watched.hasInstance_iff hj).mp hother
    obtain ⟨hlast, hbound, -⟩ := hshown i id hlive
    obtain ⟨hlast', hbound', -⟩ := hshown j id' hlive'
    have hsame : id = id' := by
      change (w.scene.surface _).bound = _ at hbound hbound'
      rw [hseat, hbound'] at hbound
      cases hbound
      rfl
    subst hsame
    exact hs.apart hlast hlast'
  · intro surface hsurface id hid hunbound
    obtain ⟨k, rfl⟩ := Watched.scene_surface hsurface
    exact ((hs.settled k).past id hid).resolve_left hunbound
  · intro surface hsurface
    obtain ⟨k, rfl⟩ := Watched.scene_surface hsurface
    have hbalance := (hs.settled k).balance
    split at hbalance
    · rename_i hbound
      rw [if_pos hbound]
      omega
    · rename_i hbound
      rw [if_neg hbound]
      omega

theorem Watched.Reaches.sound {canvas : Canvas σ η}
    (hclear : ∀ outside, (canvas.clear outside).1 = .ok ()) {start : Ensemble σ η}
    (hfresh : start.Fresh) {w : Watched σ η} (h : Reaches canvas start w) :
    w.Seated ∧ w.scene.Sound w.ensemble.surfaceOf := by
  induction h with
  | start => exact ⟨hfresh.seated, hfresh.sound⟩
  | step _ event hfair ih =>
    obtain ⟨hseated, hs⟩ := ih
    exact ⟨step_seated hseated event, step_sound hclear hseated hs hfair⟩

theorem one_live {canvas : Canvas σ η} (hclear : ∀ outside, (canvas.clear outside).1 = .ok ())
    {start : Ensemble σ η} (hfresh : start.Fresh) {w : Watched σ η}
    (h : Watched.Reaches canvas start w) : OneLive w :=
  (h.sound hclear hfresh).2.oneLive

theorem Ensemble.start_fresh (policy : Layout.Policy) (renderers : Nat) {surfaces : Nat}
    (hsurfaces : 0 < surfaces) : (start (η := η) policy renderers surfaces).Fresh where
  seated i _ := by
    simp only [start, List.length_replicate]
    omega
  hidden renderer h := by rw [List.eq_of_mem_replicate h]
  clean surface h := List.eq_of_mem_replicate h
  blank := rfl

def twoNodes : Graph :=
  ⟨[⟨"a", "A"⟩, ⟨"b", "B"⟩], [⟨"e", "a", "b", "", none⟩]⟩

def twoRenderers : Watched (Recording Nat) Nat :=
  ⟨.start {} 2 1, fun _ => none⟩

def takingTurns : Watched (Recording Nat) Nat :=
  ((twoRenderers.step (recorder Nat) (.ask 0 (.render twoNodes))).step (recorder Nat)
    (.ask 0 .release)).step (recorder Nat) (.ask 1 (.render twoNodes))

theorem one_live_takingTurns :
    Watched.Reaches (recorder Nat) (.start {} 2 1) takingTurns ∧ OneLive takingTurns := by
  have hclear (outside : Recording Nat) : ((recorder Nat).clear outside).1 = .ok () := rfl
  have hreaches : Watched.Reaches (recorder Nat) (.start {} 2 1) takingTurns :=
    ((Watched.Reaches.start.step (.ask 0 (.render twoNodes)) rfl).step (.ask 0 .release) rfl).step
      (.ask 1 (.render twoNodes)) rfl
  exact ⟨hreaches, one_live hclear (Ensemble.start_fresh {} 2 Nat.one_pos) hreaches⟩

end DependencyAtlas.Stage
