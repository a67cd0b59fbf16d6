import DependencyAtlas.Proofs.Actions
import DependencyAtlas.Stage.Renderer

namespace DependencyAtlas.Stage

open Act (Keeps Maintains keeps_iff)

variable {σ η γ : Type} {f : σ → γ} {Q : σ → Prop} {canvas : Canvas σ η}

structure Canvas.Keeps (f : σ → γ) (canvas : Canvas σ η) : Prop where
  draw : ∀ figure, Act.Keeps f (canvas.draw figure)
  clear : Act.Keeps f canvas.clear
  notify : ∀ handler id, Act.Keeps f (canvas.notify handler id)

namespace Studio

section

variable {P : Studio σ η → Prop}

theorem release_maintains_of (hlive : ∀ live, Maintains P (setLive live))
    (hunbind : ∀ holder, Maintains P (unbind canvas holder)) (hdestroy : ∀ id, Maintains P (destroy id)) :
    Maintains P (release canvas) := by
  refine Maintains.bind .get fun s => ?_
  split
  · exact .pure _
  · refine Maintains.bind (hlive none) fun _ => ?_
    exact .bind (hunbind _) fun _ => hdestroy _

section

variable (hdraw : ∀ figure, Maintains P (outsideAct (canvas.draw figure)))

include hdraw

theorem draw_maintains (figure : Drawing.Figure Float) : Maintains P (draw canvas figure) := by
  refine Maintains.bind (hdraw figure).ending fun result => ?_
  split
  · exact .pure _
  · exact .throw _

theorem drawTransition_maintains (v : Drawing.Visualization Float) : Maintains P (drawTransition canvas v) := by
  refine Maintains.bind .get fun s => ?_
  exact .bind (.ofExcept _) fun figure => draw_maintains hdraw figure

end

theorem notifyAll_maintains {id : String} (h : ∀ handler, Maintains P (outsideAct (canvas.notify handler id)))
    (handlers : List η) : Maintains P (notifyAll canvas id handlers) := by
  induction handlers with
  | nil => exact .pure _
  | cons handler rest ih => exact .bind (h handler) fun _ => ih

theorem render_maintains_of (hrelease : Maintains P (release canvas)) (hcreate : Maintains P create)
    (hbind : ∀ holder, Maintains P (bind holder)) (hdestroy : ∀ id, Maintains P (destroy id))
    (hlive : ∀ live, Maintains P (setLive live)) (hdraw : ∀ figure, Maintains P (outsideAct (canvas.draw figure)))
    (graph : Graph) : Maintains P (render canvas graph) := by
  refine Maintains.bind hrelease fun _ => ?_
  refine Maintains.ite (.pure _) ?_
  refine Maintains.bind hcreate fun id => ?_
  refine Maintains.bind .get fun s => ?_
  refine Maintains.bind (.ofExcept _) fun v => ?_
  refine Maintains.bind ((hbind _).onError (hdestroy id)) fun _ => ?_
  refine Maintains.bind (hlive _) fun _ => ?_
  exact .bind ((drawTransition_maintains hdraw v).onError hrelease) fun _ => .pure _

variable (hlive : ∀ live, Maintains P (setLive live))
  (hdraw : ∀ figure, Maintains P (outsideAct (canvas.draw figure)))

include hlive hdraw

theorem relayout_maintains_of : Maintains P (relayout canvas) := by
  refine Maintains.bind .get fun s => ?_
  dsimp only
  split
  · exact .pure _
  · refine Maintains.bind (.ofExcept _) fun v => ?_
    exact .bind (hlive _) fun _ => drawTransition_maintains hdraw v

theorem tap_maintains_of {id : String}
    (hnotify : ∀ handler, Maintains P (outsideAct (canvas.notify handler id))) : Maintains P (tap canvas id) := by
  refine Maintains.bind .get fun s => ?_
  split
  · exact .pure _
  · split
    · exact .pure _
    · refine Maintains.bind (hlive _) fun _ => ?_
      refine Maintains.bind (.ofExcept _) fun figure => ?_
      refine Maintains.bind (draw_maintains hdraw figure) fun _ => ?_
      refine Maintains.ite ?_ (.pure _)
      refine Maintains.bind .get fun t => ?_
      exact .bind (notifyAll_maintains hnotify _) fun _ => .pure _

end

theorem outsideAct_maintains {α : Type} {act : Act σ α} (h : Maintains Q act) :
    Maintains (fun s : Studio σ η => Q s.outside) (outsideAct act) :=
  fun s => h s.outside

theorem setLive_maintains (live : Option Live) : Maintains (fun s : Studio σ η => Q s.outside) (setLive live) :=
  .modify fun _ => id

theorem destroy_maintains (number : Nat) : Maintains (fun s : Studio σ η => Q s.outside) (destroy number) :=
  .modify fun _ => id

theorem create_maintains : Maintains (fun s : Studio σ η => Q s.outside) create := by
  refine Maintains.bind .get fun s => ?_
  exact .bind (.modify fun _ => id) fun _ => .pure _

theorem bind_maintains (holder : Option Holder) : Maintains (fun s : Studio σ η => Q s.outside) (bind holder) := by
  refine Maintains.bind .get fun s => ?_
  split
  · exact .modify fun _ => id
  · exact .throw _

theorem unbind_maintains (hclear : Maintains Q canvas.clear) (holder : Option Holder) :
    Maintains (fun s : Studio σ η => Q s.outside) (unbind canvas holder) := by
  refine Maintains.bind .get fun s => ?_
  refine Maintains.ite ?_ (.pure _)
  refine Maintains.bind (.modify fun _ => id) fun _ => ?_
  exact .bind (outsideAct_maintains hclear) fun _ => .modify fun _ => id

theorem release_maintains (hclear : Maintains Q canvas.clear) :
    Maintains (fun s : Studio σ η => Q s.outside) (release canvas) :=
  release_maintains_of setLive_maintains (unbind_maintains hclear) destroy_maintains

theorem render_maintains (hdraw : ∀ figure, Maintains Q (canvas.draw figure)) (hclear : Maintains Q canvas.clear)
    (g : Graph) : Maintains (fun s : Studio σ η => Q s.outside) (render canvas g) :=
  render_maintains_of (release_maintains hclear) create_maintains bind_maintains destroy_maintains setLive_maintains
    (fun figure => outsideAct_maintains (hdraw figure)) g

section

variable (hdraw : ∀ figure, Maintains Q (canvas.draw figure))

include hdraw

theorem relayout_maintains : Maintains (fun s : Studio σ η => Q s.outside) (relayout canvas) :=
  relayout_maintains_of setLive_maintains fun figure => outsideAct_maintains (hdraw figure)

theorem tap_maintains (hnotify : ∀ handler id, Maintains Q (canvas.notify handler id)) (id : String) :
    Maintains (fun s : Studio σ η => Q s.outside) (tap canvas id) :=
  tap_maintains_of setLive_maintains (fun figure => outsideAct_maintains (hdraw figure))
    fun handler => outsideAct_maintains (hnotify handler id)

end

theorem outsideAct_keeps {α : Type} {act : Act σ α} (h : Keeps f act) :
    Keeps (fun s : Studio σ η => f s.outside) (outsideAct act) :=
  Keeps.within (fun _ _ => id) h

theorem setLive_keeps (live : Option Live) :
    Keeps (fun s : Studio σ η => f s.outside) (setLive live) :=
  Keeps.modify fun _ => rfl

theorem destroy_keeps (id : Nat) : Keeps (fun s : Studio σ η => f s.outside) (destroy id) :=
  Keeps.modify fun _ => rfl

theorem unbind_keeps (hclear : Keeps f canvas.clear) (holder : Option Holder) :
    Keeps (fun s : Studio σ η => f s.outside) (unbind canvas holder) :=
  keeps_iff.mpr fun c => unbind_maintains (keeps_iff.mp hclear c) holder

theorem bind_keeps (holder : Option Holder) :
    Keeps (fun s : Studio σ η => f s.outside) (bind holder) :=
  keeps_iff.mpr fun c => bind_maintains (Q := fun o => f o = c) holder

theorem release_keeps (hclear : Keeps f canvas.clear) :
    Keeps (fun s : Studio σ η => f s.outside) (release canvas) :=
  keeps_iff.mpr fun c => release_maintains (keeps_iff.mp hclear c)

section

variable {g : Studio σ η → γ}

theorem notifyAll_keeps {id : String} (h : ∀ handler, Keeps g (outsideAct (canvas.notify handler id)))
    (handlers : List η) : Keeps g (notifyAll canvas id handlers) :=
  keeps_iff.mpr fun c => notifyAll_maintains (fun handler => keeps_iff.mp (h handler) c) handlers

theorem render_keeps_of (hrelease : Keeps g (release canvas)) (hcreate : Keeps g create)
    (hbind : ∀ holder, Keeps g (bind holder)) (hdestroy : ∀ id, Keeps g (destroy id))
    (hlive : ∀ live, Keeps g (setLive live)) (hdraw : ∀ figure, Keeps g (outsideAct (canvas.draw figure)))
    (graph : Graph) : Keeps g (render canvas graph) :=
  keeps_iff.mpr fun c => render_maintains_of (keeps_iff.mp hrelease c) (keeps_iff.mp hcreate c)
    (fun holder => keeps_iff.mp (hbind holder) c) (fun id => keeps_iff.mp (hdestroy id) c)
    (fun live => keeps_iff.mp (hlive live) c) (fun figure => keeps_iff.mp (hdraw figure) c) graph

theorem draw_keeps (h : ∀ figure, Keeps g (outsideAct (canvas.draw figure)))
    (figure : Drawing.Figure Float) : Keeps g (draw canvas figure) :=
  keeps_iff.mpr fun c => draw_maintains (fun figure => keeps_iff.mp (h figure) c) figure

theorem drawTransition_keeps (h : ∀ figure, Keeps g (outsideAct (canvas.draw figure)))
    (v : Drawing.Visualization Float) : Keeps g (drawTransition canvas v) :=
  keeps_iff.mpr fun c => drawTransition_maintains (fun figure => keeps_iff.mp (h figure) c) v

variable (hlive : ∀ live, Keeps g (setLive live))
  (hdraw : ∀ figure, Keeps g (outsideAct (canvas.draw figure)))

include hlive hdraw

theorem relayout_keeps_of : Keeps g (relayout canvas) :=
  keeps_iff.mpr fun c => relayout_maintains_of (fun live => keeps_iff.mp (hlive live) c)
    fun figure => keeps_iff.mp (hdraw figure) c

theorem tap_keeps_of {id : String} (hnotify : ∀ handler, Keeps g (outsideAct (canvas.notify handler id))) :
    Keeps g (tap canvas id) :=
  keeps_iff.mpr fun c => tap_maintains_of (fun live => keeps_iff.mp (hlive live) c)
    (fun figure => keeps_iff.mp (hdraw figure) c) fun handler => keeps_iff.mp (hnotify handler) c

end

theorem create_keeps : Keeps (fun s : Studio σ η => f s.outside) create :=
  keeps_iff.mpr fun c => create_maintains (Q := fun o => f o = c)

theorem render_keeps (hdraw : ∀ figure, Keeps f (canvas.draw figure)) (hclear : Keeps f canvas.clear)
    (g : Graph) : Keeps (fun s : Studio σ η => f s.outside) (render canvas g) :=
  render_keeps_of (release_keeps hclear) create_keeps bind_keeps destroy_keeps setLive_keeps
    (fun figure => outsideAct_keeps (hdraw figure)) g

theorem relayout_keeps (hdraw : ∀ figure, Keeps f (canvas.draw figure)) :
    Keeps (fun s : Studio σ η => f s.outside) (relayout canvas) :=
  relayout_keeps_of setLive_keeps fun figure => outsideAct_keeps (hdraw figure)

theorem tap_keeps (h : canvas.Keeps f) (id : String) :
    Keeps (fun s : Studio σ η => f s.outside) (tap canvas id) :=
  tap_keeps_of setLive_keeps (fun figure => outsideAct_keeps (h.draw figure))
    fun handler => outsideAct_keeps (h.notify handler id)

end Studio

end DependencyAtlas.Stage
