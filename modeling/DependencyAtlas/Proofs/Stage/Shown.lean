import DependencyAtlas.Proofs.Drawing.Pictures
import DependencyAtlas.Proofs.Layout.Frames
import DependencyAtlas.Proofs.Stage.Rendering
import DependencyAtlas.Stage.Ensemble

namespace DependencyAtlas

open Layout Drawing

namespace Stage

variable {σ η : Type} {canvas : Canvas σ η} {displayed : σ → Option (Figure Float)}

structure Canvas.Displays (displayed : σ → Option (Figure Float)) (canvas : Canvas σ η) : Prop where
  draw : ∀ figure outside, (canvas.draw figure outside).1 = .ok () →
    displayed (canvas.draw figure outside).2 = some figure
  notify : ∀ handler id, Act.Keeps displayed (canvas.notify handler id)

def Renderer.ShownBy (r : Renderer η) (figure : Figure Float) : Prop :=
  ∃ g, r.elements = some g ∧ figure.Shows g r.selected r.positions

theorem Renderer.shownBy_of_live {r : Renderer η} {live : Live} {figure : Figure Float}
    (h : r.live = some live)
    (hshows : figure.Shows live.visualization.graph live.visualization.selected
      live.visualization.positions) : r.ShownBy figure := by
  refine ⟨live.visualization.graph, ?_, ?_⟩
  · rw [elements, h, Option.map_some]
  · rw [selected, positions, h]
    exact hshows

namespace Studio

def Faithful (displayed : σ → Option (Figure Float)) (s : Studio σ η) : Prop :=
  ∃ figure, displayed s.outside = some figure ∧ s.renderer.ShownBy figure

theorem firstView_getLast? {policy : Policy} {g : Graph} {v : Visualization Float}
    (h : firstView policy g = .ok v) : v.frames.getLast? = some v.positions := by
  simp only [firstView, bind_eq_ok_iff] at h
  obtain ⟨start, -, final, -, frames, hframes, ⟨⟩⟩ := h
  exact Policy.transition_getLast? hframes

theorem nextView_getLast? {policy : Policy} {v v' : Visualization Float}
    (h : nextView policy v = .ok v') : v'.frames.getLast? = some v'.positions := by
  simp only [nextView, bind_eq_ok_iff] at h
  obtain ⟨final, -, frames, hframes, ⟨⟩⟩ := h
  exact Policy.transition_getLast? hframes

variable (hdisplays : canvas.Displays displayed)

include hdisplays

theorem drawTransition_faithful {s t : Studio σ η} {live : Live} {u : Unit}
    (hlive : s.renderer.live = some live)
    (hlast : live.visualization.frames.getLast? = some live.visualization.positions)
    (h : drawTransition canvas live.visualization s = (.ok u, t)) : t.Faithful displayed := by
  obtain ⟨figure, hfigure, hdraw, rfl⟩ := drawTransition_eq_ok h
  exact ⟨figure, hdisplays.draw figure _ hdraw,
    Renderer.shownBy_of_live hlive (Visualization.figure_shows (fun _ => hlast) hfigure)⟩

theorem render_faithful {s t : Studio σ η} {g : Graph} (h : render canvas g s = (.ok true, t)) :
    t.Faithful displayed := by
  rcases hrelease : release canvas s with ⟨failure | _, u⟩
  · rw [render, Act.bind_apply_error hrelease] at h
    cases h
  rw [render_apply hrelease] at h
  by_cases hempty : g.isEmpty = true
  · rw [if_pos hempty] at h
    cases h
  rw [if_neg hempty] at h
  rcases hview : firstView u.renderer.policy g with failure | v
  · rw [hview] at h
    cases h
  rw [hview] at h
  rcases hbound : u.surface.bound with _ | holder
  · rw [hbound] at h
    dsimp only at h
    have hlive : (u.showing v).renderer.live = some ⟨u.registry.created, v⟩ := rfl
    exact drawTransition_faithful hdisplays hlive (firstView_getLast? hview) (firstDraw_eq_ok h).2
  · rw [hbound] at h
    cases h

theorem relayout_faithful {s t : Studio σ η} {u : Unit} (hinstance : s.renderer.hasInstance = true)
    (h : relayout canvas s = (.ok u, t)) : t.Faithful displayed := by
  obtain ⟨live, hlive⟩ := Option.isSome_iff_exists.mp hinstance
  rw [relayout_apply hlive] at h
  rcases hview : nextView s.renderer.policy live.visualization with failure | v
  · rw [hview] at h
    cases h
  · rw [hview] at h
    have hchanged : (s.changed live v).renderer.live = some { live with visualization := v } := rfl
    exact drawTransition_faithful hdisplays hchanged (nextView_getLast? hview) h

omit hdisplays in
theorem notifyAll_renderer (id : String) (handlers : List η) (s : Studio σ η) :
    (notifyAll canvas id handlers s).2.renderer = s.renderer :=
  notifyAll_keeps (g := Studio.renderer) (fun _ => Act.Keeps.within_other fun _ _ => rfl) handlers s

theorem tap_faithful {s t : Studio σ η} {id : String} {kind : Graph.Element}
    (h : tap canvas id s = (.ok (some kind), t)) : t.Faithful displayed := by
  rcases hlive : s.renderer.live with _ | live
  · rw [tap_of_hidden hlive] at h
    cases h
  obtain ⟨v, figure, hselect, hfigure, hdraw, rfl⟩ := tap_eq_ok hlive h
  have hkeeps := notifyAll_keeps fun handler => outsideAct_keeps (hdisplays.notify handler id)
  refine ⟨figure, ?_, ?_⟩
  · exact (hkeeps _ _).trans (hdisplays.draw figure _ hdraw)
  · rw [notifyAll_renderer]
    refine Renderer.shownBy_of_live rfl (Visualization.figure_shows (fun hanimated => ?_) hfigure)
    cases hanimated

end Studio

def Deed.Draws (r : Renderer η) : Deed η → Result → Prop
  | .render _, .rendered shown => shown = true
  | .relayout, .done => r.hasInstance = true
  | .tap _, .tapped kind => kind.isSome = true
  | _, _ => False

theorem Deed.perform_faithful (hdisplays : canvas.Displays displayed) {deed : Deed η}
    {result : Result} {s t : Studio σ η} (h : deed.perform canvas s = (.ok result, t))
    (hdraws : deed.Draws s.renderer result) : t.Faithful displayed := by
  cases deed with
  | render g =>
    obtain ⟨shown, hrender, rfl⟩ := Act.map_eq_ok h
    obtain rfl : shown = true := hdraws
    exact Studio.render_faithful hdisplays hrender
  | relayout =>
    obtain ⟨_, hrelayout, rfl⟩ := Act.map_eq_ok h
    exact Studio.relayout_faithful hdisplays hdraws hrelayout
  | tap id =>
    obtain ⟨kind, htap, rfl⟩ := Act.map_eq_ok h
    obtain ⟨kind, rfl⟩ := Option.isSome_iff_exists.mp hdraws
    exact Studio.tap_faithful hdisplays htap
  | _ => cases hdraws

/-- In whatever state the renderers are, and whatever failed before. -/
theorem drawn_is_held (hdisplays : canvas.Displays displayed) {e e' : Ensemble σ η} {i : Nat}
    {renderer : Renderer η} (hi : e.renderers[i]? = some renderer) {deed : Deed η} {result : Result}
    (h : Ensemble.perform canvas i deed e = (.ok result, e')) (hdraws : deed.Draws renderer result) :
    ∃ renderer' figure, e'.renderers[i]? = some renderer' ∧ displayed e'.outside = some figure ∧
      renderer'.ShownBy figure := by
  obtain ⟨hlt, -⟩ := List.getElem?_eq_some_iff.mp hi
  simp only [Ensemble.perform, hi] at h
  rcases hperform : deed.perform canvas (e.studio i renderer) with ⟨outcome, s⟩
  rw [hperform] at h
  cases h
  obtain ⟨figure, hdisplayed, hshown⟩ := Deed.perform_faithful hdisplays hperform hdraws
  exact ⟨s.renderer, figure, List.getElem?_set_self hlt, hdisplayed, hshown⟩

theorem recorder_displays (η : Type) :
    (recorder η).Displays fun recording => recording.drawn.getLast? where
  draw figure outside h := by
    rcases hfailing : outside.failing with _ | failure
    · simp only [recorder, Act.bind_apply_ok (Act.get_apply outside), hfailing]
      exact List.getLast?_concat
    · simp only [recorder, Act.bind_apply_ok (Act.get_apply outside), hfailing] at h
      cases h
  notify _ _ _ := rfl

def shownLoops : Ensemble (Recording Nat) Nat :=
  (Ensemble.perform (recorder Nat) 0 (.render loops) (.start measured 1 1)).2

def tappedLoops : Except Failure Result × Ensemble (Recording Nat) Nat :=
  Ensemble.perform (recorder Nat) 0 (.tap "e") shownLoops

theorem drawn_is_held_tapped :
    tappedLoops.1 = .ok (.tapped (some .edge)) ∧
      ∃ renderer figure, tappedLoops.2.renderers[0]? = some renderer ∧
        tappedLoops.2.outside.drawn.getLast? = some figure ∧ renderer.ShownBy figure := by
  have hfirst : shownLoops.renderers[0]?.isSome = true := rfl
  have htapped : Ensemble.perform (recorder Nat) 0 (.tap "e") shownLoops =
      (.ok (.tapped (some .edge)), tappedLoops.2) := Prod.ext rfl rfl
  exact ⟨rfl, drawn_is_held (recorder_displays Nat) (Option.some_get hfirst).symm htapped rfl⟩

end Stage

end DependencyAtlas
