import DependencyAtlas.Proofs.Stage.Unseen
import DependencyAtlas.Session.Dispatch

namespace DependencyAtlas.Session

open Scan Stage
open Act (Respects)

structure Overlooks (f : World → World) : Prop where
  write : ∀ markup ending, Respects f (write markup ending)
  canvas : canvas.Respects f
  connect : Respects f Viewer.connect
  record : ∀ sent, Respects f (modify fun w => { w with requests := w.requests ++ [sent] })
  nextReply : Respects f nextReply

namespace Viewer

def onWorld (f : World → World) (v : Viewer) : Viewer :=
  v.setWorld (f v.world)

variable {f : World → World}

theorem inWorld_respects {α : Type} {act : Act World α} (h : Respects f act) :
    Respects (onWorld f) (inWorld act) :=
  Respects.within (fun _ => rfl) (fun _ _ => rfl) h

theorem inStudio_respects {α : Type} {act : Act (Studio World Unit) α}
    (h : Respects (Studio.onOutside f) act) : Respects (onWorld f) (inStudio act) :=
  Respects.within (fun _ => rfl) (fun _ _ => rfl) h

end Viewer

namespace Overlooks

open Viewer

variable {f : World → World} (h : Overlooks f)

include h

theorem showEvents (events : List Console.Event) : Respects (onWorld f) (showEvents events) := by
  induction events with
  | nil => exact Respects.pure _
  | cons event rest ih =>
    refine Respects.bind ?_ fun _ => ih
    cases event with
    | print m => exact inWorld_respects (h.write _ _)
    | start => exact Respects.pure _
    | stop => exact Respects.pure _

theorem change (c : Change Bool) : Respects (onWorld f) (change c) := by
  refine Respects.get_bind (fun _ => rfl) fun v => ?_
  refine Respects.bind (Respects.modify fun _ => rfl) fun _ => ?_
  apply Respects.ite
  · exact h.showEvents _
  · exact Respects.bind (Respects.modify fun _ => rfl) fun _ => h.showEvents _

theorem becomeIdle : Respects (onWorld f) becomeIdle :=
  Respects.bind (Respects.modify fun _ => rfl) fun _ => h.change _

theorem release : Respects (onWorld f) release :=
  inStudio_respects (Studio.release_respects h.canvas)

theorem recover (failure : Failure) : Respects (onWorld f) (recover failure) := by
  rw [Viewer.recover.eq_def]
  split
  · apply Respects.ite
    · refine Respects.bind h.release fun _ => ?_
      exact Respects.bind (h.change _) fun _ => Respects.pure _
    · exact Respects.bind (h.change _) fun _ => Respects.pure _
  · exact Respects.throw _

theorem settle {act : Act Viewer Graph} (hact : Respects (onWorld f) act) :
    Respects (onWorld f) (settle act) := by
  refine Respects.bind hact.ending fun result => ?_
  split
  · exact Respects.pure _
  · exact h.recover _

theorem present (g : Graph) : Respects (onWorld f) (present g) := by
  apply Respects.ite (Respects.throw _)
  refine Respects.bind (inStudio_respects (Studio.render_respects h.canvas g)) fun _ => ?_
  exact Respects.pure _

theorem request (client : Client) (request : Request) : Respects (onWorld f) (do
    inWorld Viewer.connect
    let (sent, address) ← Act.ofExcept (client.send request)
    inWorld (modify fun w => { w with requests := w.requests ++ [sent] })
    return ⟨request, address⟩ : Act Viewer Waiting) := by
  refine Respects.bind (inWorld_respects h.connect) fun _ => ?_
  refine Respects.bind (Respects.ofExcept _) fun sent => ?_
  exact Respects.bind (inWorld_respects (h.record _)) fun _ => Respects.pure _

variable (htell : ∀ markup, Respects f (tell markup))

include htell

theorem conclude {act : Act Viewer Graph} (hact : Respects (onWorld f) act) :
    Respects (onWorld f) (conclude act) := by
  refine Respects.bind ?_ fun shown => ?_
  · exact fun s t hst => (h.settle hact s t hst).andFinally h.becomeIdle
  · split
    · exact Respects.bind (inWorld_respects (htell _)) fun _ => Respects.pure _
    · exact Respects.pure _

theorem send (request : Request) : Respects (onWorld f) (send request) := by
  refine Respects.get_bind (fun _ => rfl) fun v => ?_
  exact Respects.bind (inWorld_respects (htell _)) fun _ => h.request v.client request

theorem accept (path : Value) : Respects (onWorld f) (accept path) := by
  rw [Viewer.accept]
  split
  · refine Respects.get_bind (fun _ => rfl) fun v => ?_
    apply Respects.ite
    · exact Respects.bind (inWorld_respects (htell _)) fun _ => Respects.pure _
    · refine Respects.bind (Respects.modify fun _ => rfl) fun _ => ?_
      refine Respects.bind (h.change _) fun _ => ?_
      exact Respects.bind (h.change _) fun _ => Respects.pure _
  · exact Respects.pure _
  · exact Respects.throw _

theorem launch (request : Request) : Respects (onWorld f) (launch request) := by
  refine Respects.bind (h.send htell request).ending fun sent => ?_
  split
  · exact Respects.pure _
  · next failure =>
    have hconclude : Respects (onWorld f) (Viewer.conclude (throw failure)) :=
      h.conclude htell (Respects.throw failure)
    exact Respects.bind hconclude fun _ => Respects.pure _

theorem beginSubmit (path : Value) : Respects (onWorld f) (beginSubmit path) := by
  refine Respects.bind (h.accept htell path) fun accepted => ?_
  split
  · exact h.launch htell _
  · exact Respects.pure _

theorem receive (waiting : Waiting) (reply : Reply) : Respects (onWorld f) (receive waiting reply) :=
  h.conclude htell (Respects.bind (Respects.ofExcept _) fun g => h.present g)

theorem resume (waiting : Waiting) (reply : Reply) : Respects (onWorld f) (resume waiting reply) :=
  Respects.bind (h.receive htell waiting reply) fun _ => Respects.pure _

theorem start {command : Command} (hexports : command.exports = false) (argument : String) :
    Respects (onWorld f) (start command argument) := by
  cases command with
  | submit =>
    refine Respects.bind (h.beginSubmit htell _) fun waiting => ?_
    split
    · exact Respects.pure _
    · exact Respects.pure _
  | relayout =>
    exact Respects.bind (inStudio_respects (Studio.relayout_respects h.canvas)) fun _ => Respects.pure _
  | select =>
    have hnotify (handler : Unit) : Respects f (Session.canvas.notify handler argument) := by
      dsimp only [Session.canvas]
      exact h.write _ _
    exact Respects.bind (inStudio_respects (Studio.tap_respects h.canvas hnotify)) fun _ => Respects.pure _
  | quit => exact Respects.bind h.release fun _ => Respects.pure _
  | exportImage => cases hexports
  | exportPage => cases hexports
  | exportElements => cases hexports

theorem dispatch {command : Command} (hexports : command.exports = false) (argument : String) :
    Respects (onWorld f) (dispatch command argument) := by
  refine Respects.bind (h.start htell hexports argument) fun progress => ?_
  split
  · exact Respects.pure _
  · exact Respects.bind (inWorld_respects h.nextReply) fun reply => h.resume htell _ reply

end Overlooks

end DependencyAtlas.Session
