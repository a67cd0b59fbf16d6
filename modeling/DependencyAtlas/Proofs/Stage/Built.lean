import DependencyAtlas.Proofs.Stage.OneLive
import DependencyAtlas.Proofs.Stage.Shown
import DependencyAtlas.Proofs.Stage.Success

namespace DependencyAtlas.Stage

open Act (Keeps)
open Layout Drawing

/-- What the renderer shows began as a first view that could be made and drawn, and it has a place for every
node if the edges join nodes of the graph. -/
structure Built (policy : Policy) (v : Visualization Float) : Prop where
  nonempty : v.graph.isEmpty = false
  complete : v.graph.Joined → v.Complete
  first : ∃ first figure, Studio.firstView policy v.graph = .ok first ∧
    first.figure floatGauge (Studio.moveOptions policy) = .ok figure

def Renderer.Built {η : Type} (r : Renderer η) : Prop :=
  ∀ live, r.live = some live → Stage.Built r.policy live.visualization

def Renderer.Shown {η : Type} (I : Policy → Visualization Float → Prop) (r : Renderer η) : Prop :=
  ∀ live, r.live = some live → I r.policy live.visualization

structure Lasting (asked : Graph → Prop) (I : Policy → Visualization Float → Prop) : Prop where
  first : ∀ {policy g v figure}, asked g → g.isEmpty = false → Studio.firstView policy g = .ok v →
    v.figure floatGauge (Studio.moveOptions policy) = .ok figure → I policy v
  next : ∀ {policy v v'}, I policy v → Studio.nextView policy v = .ok v' → I policy v'
  select : ∀ {policy v} (id : String), I policy v → I policy (v.select id).1

namespace Studio

variable {σ η α β : Type} {canvas : Canvas σ η}

theorem nextView_graph {policy : Policy} {v v' : Visualization Float}
    (h : nextView policy v = .ok v') : v'.graph = v.graph := by
  simp only [nextView, bind_eq_ok_iff] at h
  obtain ⟨final, -, frames, -, ⟨⟩⟩ := h
  rfl

theorem firstView_graph {policy : Policy} {g : Graph} {v : Visualization Float}
    (h : firstView policy g = .ok v) : v.graph = g := by
  simp only [firstView, bind_eq_ok_iff] at h
  obtain ⟨start, -, final, -, frames, -, ⟨⟩⟩ := h
  rfl

theorem outsideAct_keeps_renderer (act : Act σ α) :
    Keeps Studio.renderer (outsideAct (η := η) act) :=
  Keeps.within_other fun _ _ => rfl

theorem unbind_keeps_renderer (holder : Option Holder) :
    Keeps Studio.renderer (unbind canvas holder) := by
  apply Keeps.bind Keeps.get
  intro s
  apply Keeps.ite _ (Keeps.pure _)
  refine Keeps.bind (Keeps.modify fun _ => rfl) fun _ => ?_
  apply Keeps.bind (outsideAct_keeps_renderer _)
  intro _
  exact Keeps.modify fun _ => rfl

theorem bind_keeps_renderer (holder : Option Holder) :
    Keeps (Studio.renderer (σ := σ) (η := η)) (bind holder) := by
  apply Keeps.bind Keeps.get
  intro s
  split
  · exact Keeps.modify fun _ => rfl
  · exact Keeps.throw _

theorem release_renderer (s : Studio σ η) :
    (release canvas s).2.renderer = { s.renderer with live := none } := by
  rcases hlive : s.renderer.live with _ | live
  · rw [release_of_hidden hlive, ← hlive]
  · have hrest : Keeps Studio.renderer (do
        unbind canvas (some (.visualization live.id))
        destroy live.id) := by
      apply Keeps.bind (unbind_keeps_renderer _)
      intro _
      exact Keeps.modify fun _ => rfl
    rw [release, Act.bind_apply_ok (Act.get_apply s), hlive]
    dsimp only
    rw [setLive, Act.bind_apply_ok (Act.modify_apply _ s)]
    exact hrest _

theorem shown_of_hidden {r : Renderer η} (h : r.live = none) (I : Policy → Visualization Float → Prop) :
    r.Shown I := by
  intro live hlive
  rw [h] at hlive
  cases hlive

theorem built_of_hidden {r : Renderer η} (h : r.live = none) : r.Built :=
  shown_of_hidden h Stage.Built

theorem render_ends (g : Graph) (s : Studio σ η) :
    ((render canvas g s).1 ≠ .ok true ∧ (render canvas g s).2.renderer = { s.renderer with live := none }) ∨
    ∃ id v figure outside, (render canvas g s).1 = (canvas.draw figure outside).1.map (fun _ => true) ∧
      (∀ failure, (canvas.draw figure outside).1 = .error failure → failure.halts = true) ∧
      (render canvas g s).2.outside = (canvas.draw figure outside).2 ∧
      (render canvas g s).2.renderer = { s.renderer with live := some ⟨id, v⟩ } ∧
      g.isEmpty = false ∧ firstView s.renderer.policy g = .ok v ∧
      v.figure floatGauge (moveOptions s.renderer.policy) = .ok figure := by
  have hreleased := @release_renderer _ _ canvas s
  rcases hrelease : release canvas s with ⟨failure | _, t⟩
  · rw [render, Act.bind_apply_error hrelease]
    rw [hrelease] at hreleased
    exact .inl ⟨by rintro ⟨⟩, hreleased⟩
  rw [hrelease] at hreleased
  have hpolicy : t.renderer.policy = s.renderer.policy := by
    rw [show t.renderer = _ from hreleased]
  rw [render_apply hrelease, hpolicy]
  by_cases hempty : g.isEmpty = true
  · rw [if_pos hempty]
    exact .inl ⟨by rintro ⟨⟩, hreleased⟩
  rw [if_neg hempty]
  rcases hview : firstView s.renderer.policy g with failure | v
  · exact .inl ⟨by rintro ⟨⟩, hreleased⟩
  rcases hbound : t.surface.bound with _ | holder
  · dsimp only
    have hshowing (outside : σ) : { t.showing v with outside }.renderer =
        { s.renderer with live := some ⟨t.registry.created, v⟩ } := by
      simp only [showing]
      rw [hreleased]
    have hends := @firstDraw_ends _ _ canvas v (t.showing v)
    generalize firstDraw canvas v (t.showing v) = ended at hends ⊢
    cases hends with
    | stays hfigure hhalts =>
      exact .inr ⟨_, v, _, _, rfl, hhalts, rfl, hshowing _, eq_false_of_ne_true hempty, rfl, hpolicy ▸ hfigure⟩
    | goes failure outside =>
      -- What could not be drawn is let go again, also where letting go fails.
      refine .inl ⟨by rintro ⟨⟩, ?_⟩
      rw [release_renderer, hshowing outside]
  · exact .inl ⟨by rintro ⟨⟩, hreleased⟩

theorem render_elements {g : Graph} {s t : Studio σ η} (h : render canvas g s = (.ok true, t)) :
    t.renderer.elements = some g := by
  rcases @render_ends _ _ canvas g s with
    ⟨hnot, -⟩ | ⟨id, v, figure, outside, -, -, -, hrenderer, -, hview, -⟩
  · exact absurd (congrArg Prod.fst h) hnot
  · rw [h] at hrenderer
    obtain rfl := firstView_graph hview
    exact congrArg Renderer.elements hrenderer

theorem relayout_keeps_elements :
    Keeps (fun s : Studio σ η => s.renderer.elements) (relayout canvas) := by
  intro s
  rcases hlive : s.renderer.live with _ | live
  · rw [relayout_of_hidden hlive]
  dsimp only
  rcases @relayout_state _ _ canvas _ _ _ hlive Studio.renderer fun _ _ => rfl with hsame | ⟨v, hview, hrenderer⟩
  · rw [hsame]
  · rw [hrenderer, Renderer.elements, Renderer.elements, hlive]
    exact congrArg some (nextView_graph hview)

theorem tap_keeps_elements (id : String) : Keeps (fun s : Studio σ η => s.renderer.elements) (tap canvas id) := by
  intro s
  rcases hlive : s.renderer.live with _ | live
  · rw [tap_of_hidden hlive]
  dsimp only
  rw [tap_state (f := Studio.renderer) hlive fun _ _ => rfl, Renderer.elements, Renderer.elements, hlive, Visualization.select]
  split <;> rfl

end Studio

namespace Lasting

open Studio

variable {σ η : Type} {canvas : Canvas σ η} {asked : Graph → Prop} {I : Policy → Visualization Float → Prop}
  (hI : Lasting asked I) {s : Studio σ η}

include hI

theorem render {g : Graph} (hg : asked g) (s : Studio σ η) : (render canvas g s).2.renderer.Shown I := by
  rcases render_ends g s with ⟨-, hhidden⟩ |
    ⟨id, v, figure, outside, -, -, -, hrenderer, hempty, hview, hfigure⟩
  · exact shown_of_hidden (congrArg Renderer.live hhidden) I
  · rw [hrenderer]
    rintro _ ⟨⟩
    exact hI.first hg hempty hview hfigure

theorem relayout (h : s.renderer.Shown I) : (relayout canvas s).2.renderer.Shown I := by
  rcases hlive : s.renderer.live with _ | live
  · rw [relayout_of_hidden hlive]
    exact h
  rcases @relayout_state _ _ canvas _ _ _ hlive Studio.renderer fun _ _ => rfl with hsame | ⟨v, hview, hrenderer⟩
  · rw [hsame]
    exact h
  · rw [hrenderer]
    rintro _ ⟨⟩
    exact hI.next (h live hlive) hview

theorem tap (h : s.renderer.Shown I) (id : String) : (tap canvas id s).2.renderer.Shown I := by
  rcases hlive : s.renderer.live with _ | live
  · rw [tap_of_hidden hlive]
    exact h
  · rw [tap_state (f := Studio.renderer) hlive fun _ _ => rfl]
    rintro _ ⟨⟩
    exact hI.select id (h live hlive)

theorem perform (deed : Deed η) (hdeed : ∀ g, deed = .render g → asked g) (h : s.renderer.Shown I) :
    (deed.perform canvas s).2.renderer.Shown I := by
  have hkept {act : Act (Studio σ η) Result} (hact : Keeps Studio.renderer act) :
      (act s).2.renderer.Shown I := (hact s).symm ▸ h
  have hthen {α : Type} {act : Act (Studio σ η) α} {result : α → Result}
      (hact : (act s).2.renderer.Shown I) :
      ((act >>= fun a => pure (result a)) s).2.renderer.Shown I := by
    rw [Keeps.bind_right (f := Studio.renderer) fun _ => Keeps.pure _]
    exact hact
  cases deed with
  | render g => exact hthen (hI.render (hdeed g rfl) s)
  | relayout => exact hthen (hI.relayout h)
  | tap id => exact hthen (hI.tap h id)
  | release => exact hthen (shown_of_hidden (congrArg Renderer.live (release_renderer s)) I)
  | onSelect handler => exact h
  | snapshot =>
    exact hkept (Keeps.bind Keeps.get fun _ => Keeps.bind (Keeps.ofExcept _) fun _ => Keeps.pure _)
  | document =>
    exact hkept (Keeps.bind Keeps.get fun _ => Keeps.bind (Keeps.ofExcept _) fun _ => Keeps.pure _)
  | bind holder => exact hkept (Keeps.bind (bind_keeps_renderer holder) fun _ => Keeps.pure _)
  | unbind holder => exact hkept (Keeps.bind (unbind_keeps_renderer holder) fun _ => Keeps.pure _)
  | unbindBound =>
    exact hkept (Keeps.bind Keeps.get fun _ =>
      Keeps.bind (unbind_keeps_renderer _) fun _ => Keeps.pure _)

end Lasting

theorem built_lasting : Lasting (fun _ => True) Built where
  first _ hempty hview hfigure := by
    obtain rfl := Studio.firstView_graph hview
    exact ⟨hempty, fun hjoined => (Studio.firstView_complete hjoined hview).2.2, _, _, hview, hfigure⟩
  next h hview := by
    have hgraph := Studio.nextView_graph hview
    refine ⟨hgraph ▸ h.nonempty, fun hjoined => ?_, hgraph ▸ h.first⟩
    exact Studio.nextView_complete (hgraph ▸ hjoined) hview
  select {policy v} id h := by
    rw [Visualization.select]
    split
    · exact ⟨h.nonempty, fun hjoined => ⟨(h.complete hjoined).positions, (h.complete hjoined).frames⟩, h.first⟩
    · exact h

section

variable {σ η : Type} {canvas : Canvas σ η} {s : Studio σ η}

theorem Studio.render_built (g : Graph) (s : Studio σ η) : (render canvas g s).2.renderer.Built :=
  built_lasting.render trivial s

theorem Studio.relayout_built (h : s.renderer.Built) : (relayout canvas s).2.renderer.Built :=
  built_lasting.relayout h

theorem Studio.tap_built (h : s.renderer.Built) (id : String) : (tap canvas id s).2.renderer.Built :=
  built_lasting.tap h id

theorem Deed.perform_built (deed : Deed η) (h : s.renderer.Built) :
    (deed.perform canvas s).2.renderer.Built :=
  built_lasting.perform deed (fun _ _ => trivial) h

end

namespace Ensemble

variable {σ η : Type}

def after (canvas : Canvas σ η) (e : Ensemble σ η) : Event σ η → Ensemble σ η
  | .ask i deed => (perform canvas i deed e).2
  | .outside o => { e with outside := o }

def afterAll (canvas : Canvas σ η) (events : List (Event σ η)) (e : Ensemble σ η) : Ensemble σ η :=
  events.foldl (after canvas) e

variable {canvas : Canvas σ η} {e : Ensemble σ η}

theorem after_shown {asked : Graph → Prop} {I : Policy → Visualization Float → Prop} (hI : Lasting asked I)
    (h : ∀ r ∈ e.renderers, r.Shown I) {event : Event σ η} (hevent : ∀ i g, event = .ask i (.render g) → asked g) :
    ∀ r ∈ (e.after canvas event).renderers, r.Shown I := by
  cases event with
  | ask i deed =>
    rcases hi : e.renderers[i]? with _ | renderer
    · simp only [after, perform, hi]
      exact h
    · intro r hr
      simp only [after, perform, hi] at hr
      rcases List.mem_or_eq_of_mem_set hr with hother | rfl
      · exact h r hother
      · refine hI.perform deed (fun g hg => hevent i g (congrArg _ hg)) ?_
        exact h renderer (List.mem_of_getElem? hi)
  | outside o => exact h

theorem afterAll_shown {asked : Graph → Prop} {I : Policy → Visualization Float → Prop} (hI : Lasting asked I)
    (h : ∀ r ∈ e.renderers, r.Shown I) {events : List (Event σ η)}
    (hevents : ∀ i g, .ask i (.render g) ∈ events → asked g) :
    ∀ r ∈ (e.afterAll canvas events).renderers, r.Shown I := by
  induction events generalizing e with
  | nil => exact h
  | cons event rest ih =>
    refine ih (after_shown hI h ?_) fun i g hg => hevents i g (List.mem_cons_of_mem event hg)
    rintro i g rfl
    exact hevents i g List.mem_cons_self

theorem afterAll_built (h : ∀ r ∈ e.renderers, r.Built) (events : List (Event σ η)) :
    ∀ r ∈ (e.afterAll canvas events).renderers, r.Built :=
  afterAll_shown built_lasting h fun _ _ _ => trivial

end Ensemble

end DependencyAtlas.Stage
