import DependencyAtlas.Proofs.Stage.Rendering
import DependencyAtlas.Proofs.Stage.Views
import DependencyAtlas.Stage.Ensemble

namespace DependencyAtlas.Stage

open Layout Drawing

theorem measured_computes (count : Nat) : measured.Computes count where
  radius := ⟨_, rfl⟩
  gap := ⟨_, rfl⟩
  spacing := ⟨_, rfl⟩
  steps := ⟨_, rfl⟩
  length := ⟨_, rfl⟩
  frames := ⟨_, rfl⟩
  shares := ⟨_, rfl⟩

namespace Studio

variable {σ η : Type} {canvas : Canvas σ η} {s t : Studio σ η} {g : Graph}

theorem draw_of_ok {figure : Figure Float} (h : (canvas.draw figure s.outside).1 = .ok ()) :
    draw canvas figure s = (.ok (), { s with outside := (canvas.draw figure s.outside).2 }) := by
  rw [draw_apply, h]
  rfl

section

variable (hrelease : release canvas s = (.ok (), t)) (hfree : t.surface.bound = none)
  (hempty : g.isEmpty = false) (hdraw : ∀ figure, (canvas.draw figure t.outside).1 = .ok ())

include hrelease hfree hempty hdraw

theorem render_of_view {v : Visualization Float} {figure : Figure Float}
    (hview : firstView t.renderer.policy g = .ok v)
    (hfigure : v.figure floatGauge (moveOptions t.renderer.policy) = .ok figure) :
    render canvas g s =
      (.ok true, { t.showing v with outside := (canvas.draw figure t.outside).2 }) := by
  have hdrawn : drawTransition canvas v (t.showing v) =
      (.ok (), { t.showing v with outside := (canvas.draw figure t.outside).2 }) := by
    have hpolicy : (t.showing v).renderer.policy = t.renderer.policy := rfl
    rw [drawTransition_apply, hpolicy, hfigure]
    exact draw_of_ok (hdraw figure)
  rw [render_apply hrelease, if_neg (ne_true_of_eq_false hempty), hview]
  dsimp only
  rw [hfree]
  exact firstDraw_of_drawn hdrawn

theorem render_eq_ok (hjoined : g.Joined)
    (hcomputes : t.renderer.policy.Computes g.nodes.length) :
    ∃ v figure u, firstView t.renderer.policy g = .ok v ∧ render canvas g s = (.ok true, u) ∧
      u.renderer.live = some ⟨t.registry.created, v⟩ ∧
      u.outside = (canvas.draw figure t.outside).2 := by
  obtain ⟨v, hview⟩ := firstView_eq_ok hjoined hcomputes
  obtain ⟨hgraph, -, hcomplete⟩ := firstView_complete hjoined hview
  obtain ⟨figure, hfigure⟩ : ∃ figure,
      v.figure floatGauge (moveOptions t.renderer.policy) = .ok figure :=
    Visualization.figure_eq_ok (hgraph ▸ hjoined) hcomplete rfl hcomputes.shares
  exact ⟨v, figure, _, hview, render_of_view hrelease hfree hempty hdraw hview hfigure, rfl, rfl⟩

end

theorem tap_edge {live : Live} (hlive : s.renderer.live = some live)
    (hjoined : live.visualization.graph.Joined) (hcomplete : live.visualization.Complete)
    {id : String} (hedge : live.visualization.graph.element? id = some .edge)
    (hdraw : ∀ figure, (canvas.draw figure s.outside).1 = .ok ()) :
    ∃ t, tap canvas id s = (.ok (some .edge), t) := by
  obtain ⟨figure, hfigure⟩ : ∃ figure,
      { live.visualization with selected := some id }.figure floatGauge {} = .ok figure :=
    Visualization.figure_of_selected hjoined hcomplete id
  rcases hdrawn : canvas.draw figure s.outside with ⟨_ | _, outside⟩
  · cases (hdraw figure).symm.trans (congrArg Prod.fst hdrawn)
  · rw [tap_eq_redraw hlive hedge, redraw_apply, hfigure]
    dsimp only
    rw [hdrawn]
    exact ⟨_, rfl⟩

end Studio

theorem recorder_draw {η : Type} {recording : Recording η} (h : recording.failing = none)
    (figure : Figure Float) :
    (recorder η).draw figure recording =
      (.ok (), { recording with drawn := recording.drawn ++ [figure] }) := by
  cases recording
  cases h
  rfl

end DependencyAtlas.Stage
