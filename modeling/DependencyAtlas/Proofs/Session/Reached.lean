import DependencyAtlas.Proofs.Scan.Replies
import DependencyAtlas.Proofs.Session.Commands
import DependencyAtlas.Session.Opening

/-!
What a viewer can come to. It is opened, commands are begun and ended, in any order, and anything changes outside.
What neither the console nor the exchange with the server matters to is kept by all commands if the renderer and
the exports keep it.
-/

namespace DependencyAtlas.Session

open Files Scan Stage
open Act (Keeps Maintains keeps_iff)

theorem openViewer_fresh {policy : Layout.Policy} {opens : Bool} {w w' : World} {viewer : Viewer}
    (h : openViewer policy opens w = (.ok viewer, w')) :
    viewer.Idle ∧ viewer.studio.renderer.live = none ∧ viewer.studio.surface.bound = none := by
  obtain ⟨path, _, -, h⟩ := Act.bind_eq_ok h
  obtain ⟨_, _, -, h⟩ := Act.bind_eq_ok h
  obtain ⟨_, _, -, h⟩ := Act.bind_eq_ok h
  obtain ⟨client, _, -, h⟩ := Act.bind_eq_ok h
  obtain ⟨_, _, -, h⟩ := Act.bind_eq_ok h
  obtain ⟨_, -, rfl⟩ := Act.map_eq_ok h
  exact ⟨⟨rfl, rfl⟩, rfl, rfl⟩

namespace Viewer

/-- Neither the console nor the exchange with the server matters to `P`, and what a submission asks of the renderer
keeps it. -/
structure Lasts (P : Viewer → Prop) : Prop where
  scenery : ∀ v w : Viewer, w.scenery = v.scenery → P v → P w
  release : Maintains P release
  render : ∀ g, g.Accepted → Maintains P (render g)

structure Stays (P : Viewer → Prop) : Prop extends Lasts P where
  relayout : Maintains P (inStudio (Studio.relayout canvas))
  tap : ∀ id, Maintains P (inStudio (Studio.tap canvas id))
  exportImage : Maintains P exportImage
  exportPage : Maintains P exportPage
  exportElements : Maintains P exportElements

namespace Lasts

variable {P : Viewer → Prop} (h : Lasts P)

include h

theorem of_keeps {α : Type} {act : Act Viewer α} (hact : Keeps Viewer.scenery act) : Maintains P act :=
  fun v => h.scenery v _ (hact v)

theorem recover (failure : Failure) : Maintains P (recover failure) := by
  rw [Viewer.recover.eq_def]
  split
  · have htold (c : Complaint) : Maintains P (do
        change (.show c.message)
        return none : Act Viewer (Option Graph)) :=
      .bind (h.of_keeps (scenery_unstated.change _)) fun _ => .pure _
    exact .ite (.bind h.release fun _ => htold _) (htold _)
  · exact .throw _

theorem conclude {act : Act Viewer Graph} (hact : Maintains P act) : Maintains P (conclude act) := by
  refine Maintains.bind ?_ fun shown => ?_
  · refine Maintains.andFinally ?_ (h.of_keeps scenery_unstated.becomeIdle)
    refine Maintains.bind hact.ending fun result => ?_
    split
    · exact .pure _
    · exact h.recover _
  · split
    · exact .bind (h.of_keeps (scenery_unstated.tell _)) fun _ => .pure _
    · exact .pure _

theorem beginSubmit (path : Value) : Maintains P (beginSubmit path) := by
  refine Maintains.bind (h.of_keeps (scenery_unstated.accept path)) fun accepted => ?_
  split
  · refine Maintains.bind (h.of_keeps (send_keeps_scenery _)).ending fun sent => ?_
    split
    · exact .pure _
    · exact .bind (h.conclude (.throw _)) fun _ => .pure _
  · exact .pure _

theorem receive (waiting : Waiting) (reply : Reply) : Maintains P (receive waiting reply) := by
  refine h.conclude (.ofExcept_bind fun g hg => ?_)
  exact .ite (.throw _) (.bind (h.render g (Reply.graphFrom_accepted hg)) fun _ => .pure _)

theorem submit (path : Value) : Maintains P (submit path) := by
  refine Maintains.bind (h.beginSubmit path) fun waiting => ?_
  split
  · exact .pure _
  · apply Maintains.bind (h.of_keeps (inWorld_keeps_scenery (nextReply_keeps fun _ _ => rfl)))
    intro reply
    exact h.receive _ reply

end Lasts

namespace Stays

variable {P : Viewer → Prop} (h : Stays P)

include h

theorem start (command : Command) (argument : String) : Maintains P (start command argument) := by
  cases command with
  | submit =>
    refine Maintains.bind (h.beginSubmit _) fun waiting => ?_
    split
    · exact .pure _
    · exact .pure _
  | relayout => exact .bind h.relayout fun _ => .pure _
  | exportImage => exact .bind h.exportImage fun _ => .pure _
  | exportPage => exact .bind h.exportPage fun _ => .pure _
  | exportElements => exact .bind h.exportElements fun _ => .pure _
  | select => exact .bind (h.tap _) fun _ => .pure _
  | quit => exact .bind h.release fun _ => .pure _

theorem resume (waiting : Waiting) (reply : Reply) : Maintains P (resume waiting reply) :=
  .bind (h.receive waiting reply) fun _ => .pure _

theorem dispatch (command : Command) (argument : String) : Maintains P (dispatch command argument) := by
  refine Maintains.bind (h.start command argument) fun progress => ?_
  split
  · exact .pure _
  · apply Maintains.bind (h.of_keeps (inWorld_keeps_scenery (nextReply_keeps fun _ _ => rfl)))
    intro reply
    exact h.resume _ reply

end Stays

theorem stays_of_keeps {γ : Type} {f : World → γ} (hlasting : ∀ w, f w.lasting = f w) (hcanvas : canvas.Keeps f)
    (hdisk : ∀ w disk, f { w with disk } = f w) (hmishaps : ∀ w mishaps, f { w with mishaps } = f w) (c : γ) :
    Stays fun v => f v.world = c where
  scenery v w h hv := by
    have houtside : w.world.lasting = v.world.lasting := congrArg Studio.outside h
    rw [← hlasting, houtside, hlasting]
    exact hv
  release v := keeps_iff.mp (Studio.release_keeps hcanvas.clear) c v.studio
  render g _ v := keeps_iff.mp (Studio.render_keeps hcanvas.draw hcanvas.clear g) c v.studio
  relayout v := keeps_iff.mp (Studio.relayout_keeps hcanvas.draw) c v.studio
  tap id v := keeps_iff.mp (Studio.tap_keeps hcanvas id) c v.studio
  exportImage := by
    rw [exportImage_eq]
    exact exportOf_maintains fun _ => keeps_iff.mp
      (writeOut_keeps hdisk (writeImage_keeps (writeFile_keeps hdisk hmishaps))) c
  exportPage := by
    rw [exportPage_eq]
    exact exportOf_maintains fun _ => keeps_iff.mp
      (writeOut_keeps hdisk fun path => writeSheet_keeps hdisk hmishaps _ path _) c
  exportElements := by
    rw [exportElements_eq]
    exact exportOf_maintains fun _ => keeps_iff.mp
      (writeOut_keeps hdisk fun path => writeFile_keeps hdisk hmishaps path _) c

/-- What a viewer can come to from its opening. -/
inductive Reached : Viewer → Prop
  | opened {policy : Layout.Policy} {opens : Bool} {w w' : World} {v : Viewer}
      (h : openViewer policy opens w = (.ok v, w')) : Reached v
  | begun {v : Viewer} (h : Reached v) (command : Command) (argument : String) :
      Reached (start command argument v).2
  | ended {v : Viewer} (h : Reached v) (waiting : Waiting) (reply : Reply) :
      Reached (resume waiting reply v).2
  | outside {v : Viewer} (h : Reached v) (w : World) : Reached (v.setWorld w)

theorem Reached.dispatched {v : Viewer} (h : Reached v) (command : Command) (argument : String) :
    Reached (dispatch command argument v).2 := by
  have hbegun := h.begun command argument
  rcases hstart : start command argument v with ⟨failure | outcome | waiting, u⟩ <;> rw [hstart] at hbegun
  · rw [dispatch, Act.bind_apply_error hstart]
    exact hbegun
  · rw [dispatch, Act.bind_apply_ok hstart]
    exact hbegun
  · obtain ⟨reply, t, ht⟩ := nextReply_apply u
    have hreply : (inWorld nextReply u).1 = .ok reply := by rw [ht]
    have hnext : inWorld nextReply u = (.ok reply, u.setWorld (nextReply u.world).2) := Prod.ext hreply rfl
    rw [dispatch, Act.bind_apply_ok hstart]
    dsimp only
    rw [Act.bind_apply_ok hnext]
    exact (hbegun.outside _).ended waiting reply

end Viewer

end DependencyAtlas.Session
