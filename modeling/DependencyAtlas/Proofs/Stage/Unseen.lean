import DependencyAtlas.Proofs.Actions
import DependencyAtlas.Stage.Renderer

namespace DependencyAtlas.Stage

open Act (Respects)

variable {σ η : Type} {f : σ → σ} {canvas : Canvas σ η}

structure Canvas.Respects (f : σ → σ) (canvas : Canvas σ η) : Prop where
  draw : ∀ figure, Act.Respects f (canvas.draw figure)
  clear : Act.Respects f canvas.clear

namespace Studio

def onOutside (f : σ → σ) (s : Studio σ η) : Studio σ η :=
  { s with outside := f s.outside }

theorem outsideAct_respects {α : Type} {act : Act σ α} (h : Respects f act) :
    Respects (onOutside f) (outsideAct act : Act (Studio σ η) α) :=
  Respects.within (fun _ => rfl) (fun _ _ => rfl) h

theorem setLive_respects (live : Option Live) :
    Respects (onOutside f) (setLive live : Act (Studio σ η) Unit) :=
  Respects.modify fun _ => rfl

theorem destroy_respects (id : Nat) :
    Respects (onOutside f) (destroy id : Act (Studio σ η) Unit) :=
  Respects.modify fun _ => rfl

theorem create_respects : Respects (onOutside f) (create : Act (Studio σ η) Nat) := by
  refine Respects.get_bind (fun _ => rfl) fun s => ?_
  exact Respects.bind (Respects.modify fun _ => rfl) fun _ => Respects.pure _

theorem bind_respects (holder : Option Holder) :
    Respects (onOutside f) (bind holder : Act (Studio σ η) Unit) := by
  refine Respects.get_bind (fun _ => rfl) fun s => ?_
  split
  · exact Respects.modify fun _ => rfl
  · exact Respects.throw _

theorem unbind_respects (h : canvas.Respects f) (holder : Option Holder) :
    Respects (onOutside f) (unbind canvas holder) := by
  refine Respects.get_bind (fun _ => rfl) fun s => ?_
  apply Respects.ite _ (Respects.pure _)
  refine Respects.bind (Respects.modify fun _ => rfl) fun _ => ?_
  refine Respects.bind (outsideAct_respects h.clear) fun _ => ?_
  exact Respects.modify fun _ => rfl

theorem release_respects (h : canvas.Respects f) : Respects (onOutside f) (release canvas) := by
  refine Respects.get_bind (fun _ => rfl) fun s => ?_
  split
  · exact Respects.pure _
  · refine Respects.bind (setLive_respects none) fun _ => ?_
    exact Respects.bind (unbind_respects h _) fun _ => destroy_respects _

theorem draw_respects (h : canvas.Respects f) (figure : Drawing.Figure Float) :
    Respects (onOutside f) (draw canvas figure) := by
  refine Respects.bind (Respects.ending (outsideAct_respects (h.draw figure))) fun result => ?_
  split
  · exact Respects.pure _
  · exact Respects.throw _

theorem drawTransition_respects (h : canvas.Respects f) (v : Drawing.Visualization Float) :
    Respects (onOutside f) (drawTransition canvas v) := by
  refine Respects.get_bind (fun _ => rfl) fun s => ?_
  exact Respects.bind (Respects.ofExcept _) fun figure => draw_respects h figure

theorem render_respects (h : canvas.Respects f) (g : Graph) :
    Respects (onOutside f) (render canvas g) := by
  refine Respects.bind (release_respects h) fun _ => ?_
  apply Respects.ite (Respects.pure _)
  refine Respects.bind create_respects fun id => ?_
  refine Respects.get_bind (fun _ => rfl) fun s => ?_
  refine Respects.bind (Respects.ofExcept _) fun v => ?_
  refine Respects.bind ((bind_respects _).onError (destroy_respects id)) fun _ => ?_
  refine Respects.bind (setLive_respects _) fun _ => ?_
  exact Respects.bind ((drawTransition_respects h v).onError (release_respects h)) fun _ => Respects.pure _

theorem relayout_respects (h : canvas.Respects f) : Respects (onOutside f) (relayout canvas) := by
  refine Respects.get_bind (fun _ => rfl) fun s => ?_
  dsimp only
  split
  · exact Respects.pure _
  · refine Respects.bind (Respects.ofExcept _) fun v => ?_
    refine Respects.bind (setLive_respects _) fun _ => ?_
    exact drawTransition_respects h v

theorem notifyAll_respects {id : String} (h : ∀ handler, Respects f (canvas.notify handler id))
    (handlers : List η) : Respects (onOutside f) (notifyAll canvas id handlers) := by
  induction handlers with
  | nil => exact Respects.pure _
  | cons handler rest ih => exact Respects.bind (outsideAct_respects (h handler)) fun _ => ih

theorem tap_respects (h : canvas.Respects f) {id : String}
    (hnotify : ∀ handler, Respects f (canvas.notify handler id)) : Respects (onOutside f) (tap canvas id) := by
  refine Respects.get_bind (fun _ => rfl) fun s => ?_
  split
  · exact Respects.pure _
  · split
    · exact Respects.pure _
    · refine Respects.bind (setLive_respects _) fun _ => ?_
      refine Respects.bind (Respects.ofExcept _) fun figure => ?_
      refine Respects.bind (draw_respects h figure) fun _ => ?_
      refine Respects.ite ?_ (Respects.pure _)
      refine Respects.get_bind (fun _ => rfl) fun t => ?_
      exact Respects.bind (notifyAll_respects hnotify _) fun _ => Respects.pure _

end Studio

end DependencyAtlas.Stage
