import DependencyAtlas.Proofs.Failing
import DependencyAtlas.Proofs.Stage.Rendering

namespace DependencyAtlas.Stage

open Act (Fails)
open Drawing

variable {σ η : Type} {canvas : Canvas σ η} {P : Studio σ η → Prop} {Q : Failure → Prop}

structure Canvas.FailsWith (canvas : Canvas σ η) (P : Studio σ η → Prop) (Q : Failure → Prop) : Prop where
  live : ∀ {s} live, P s → P { s with renderer := { s.renderer with live } }
  surface : ∀ {s} surface, P s → P { s with surface }
  registry : ∀ {s} registry, P s → P { s with registry }
  clear : Fails P Q (Studio.outsideAct canvas.clear)
  draw : ∀ figure, Fails P Q (Studio.draw canvas figure)
  busy : Q (.complaint (.busy Surface.busyText))

namespace Canvas.FailsWith

variable (h : canvas.FailsWith P Q)

include h

theorem setLive (live : Option Live) : Fails P Q (Studio.setLive live) :=
  .modify fun _ => h.live live

theorem unbind (holder : Option Holder) : Fails P Q (Studio.unbind canvas holder) := by
  refine Fails.get_bind fun s _ => .ite ?_ (.pure _)
  refine Fails.bind (.modify fun _ => h.surface _) fun _ => ?_
  exact h.clear.bind fun _ => .modify fun _ => h.surface _

theorem release : Fails P Q (Studio.release canvas) := by
  refine Fails.get_bind fun s _ => ?_
  split
  · exact .pure _
  · refine Fails.bind (h.setLive none) fun _ => ?_
    exact (h.unbind _).bind fun _ => .modify fun _ => h.registry _

theorem bind (holder : Option Holder) : Fails P Q (Studio.bind holder) := by
  refine Fails.get_bind fun s _ => ?_
  rcases hbound : s.surface.bound with _ | other <;> rw [Surface.bind, hbound]
  · exact .modify fun _ => h.surface _
  · exact .throw h.busy

theorem drawTransition {v : Visualization Float}
    (hfigure : ∀ s, P s → FailsAs Q (v.figure floatGauge (Studio.moveOptions s.renderer.policy))) :
    Fails P Q (Studio.drawTransition canvas v) :=
  .get_bind fun s hs => .bind (.ofExcept (hfigure s hs)) h.draw

theorem render {g : Graph} (hview : ∀ s, P s → FailsAs Q (Studio.firstView s.renderer.policy g))
    (hdrawn : ∀ s v, P s → Studio.firstView s.renderer.policy g = .ok v → Fails P Q (Studio.drawTransition canvas v)) :
    Fails P Q (Studio.render canvas g) := by
  refine h.release.bind fun _ => .ite (.pure _) ?_
  refine Fails.bind (.get_bind fun s _ => .bind (.modify fun _ => h.registry _) fun _ => .pure _) fun id => ?_
  refine Fails.get_bind fun s hs => ?_
  refine Fails.ofExcept_bind (hview s hs) fun v hfirst => ?_
  refine Fails.bind ((h.bind _).onError (.modify fun _ => h.registry _)) fun _ => ?_
  refine Fails.bind (h.setLive _) fun _ => ?_
  exact .bind ((hdrawn s v hs hfirst).onError h.release) fun _ => .pure _

end Canvas.FailsWith

end DependencyAtlas.Stage
