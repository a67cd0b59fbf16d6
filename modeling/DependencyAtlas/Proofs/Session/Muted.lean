import DependencyAtlas.Proofs.Session.Overlooking

namespace DependencyAtlas.Session

open Files Scan Stage
open Act (Respects)

def World.muted (w : World) : World :=
  { w with printed := [], settings := { w.settings with verbose := none } }

theorem write_respects (markup ending : String) : Respects World.muted (write markup ending) := by
  rw [write]
  split
  · exact Respects.modify_unseen fun _ => rfl
  · exact Respects.throw _

theorem edit_respects (alter : Disk → Except Fault Disk) : Respects World.muted (edit alter) := by
  refine Respects.get_bind (fun _ => rfl) fun w => ?_
  split
  · exact Respects.modify fun _ => rfl
  · exact Respects.throw _

theorem nextMishap_respects : Respects World.muted nextMishap := by
  refine Respects.get_bind (fun _ => rfl) fun w => ?_
  split
  · exact Respects.pure _
  · refine Respects.bind (Respects.modify fun _ => rfl) fun _ => ?_
    split
    · exact Respects.throw _
    · exact Respects.pure _

theorem writeFile_respects (path : Path) (text : String) :
    Respects World.muted (writeFile path text) :=
  Respects.bind nextMishap_respects fun _ => edit_respects _

theorem writeSheet_respects (sheet : Sheet) (path : Path) (figure : Drawing.Figure Float) :
    Respects World.muted (writeSheet sheet path figure) :=
  Respects.get_bind (fun _ => rfl) fun _ => writeFile_respects _ _

theorem openPage_respects : Respects World.muted openPage := by
  refine Respects.get_bind (fun _ => rfl) fun w => ?_
  exact Respects.ite (Respects.modify fun _ => rfl) (Respects.pure _)

theorem nextReply_respects : Respects World.muted nextReply := by
  refine Respects.get_bind (fun _ => rfl) fun w => ?_
  split
  · exact Respects.pure _
  · exact Respects.pure _
  · exact Respects.bind (Respects.modify fun _ => rfl) fun _ => Respects.pure _

theorem connect_respects : Respects World.muted Viewer.connect := by
  refine Respects.get_bind (fun _ => rfl) fun w => ?_
  refine Respects.bind (Respects.ofExcept _) fun timeout => ?_
  refine Respects.bind ?_ fun _ => Respects.pure _
  exact Respects.within (g := id) (fun _ => rfl) (fun _ _ => rfl) (Respects.whole _)

theorem muted_overlooked : Overlooks World.muted where
  write := write_respects
  canvas := {
    draw := fun figure => by
      dsimp only [canvas]
      refine Respects.bind (Respects.modify fun _ => rfl) fun _ => ?_
      refine Respects.get_bind (fun _ => rfl) fun w => ?_
      refine Respects.bind (edit_respects _) fun _ => ?_
      exact Respects.bind (writeSheet_respects _ _ _) fun _ => openPage_respects
    clear := by
      dsimp only [canvas]
      exact Respects.get_bind (fun _ => rfl) fun _ => edit_respects _ }
  connect := connect_respects
  record _ := Respects.modify fun _ => rfl
  nextReply := nextReply_respects

def Viewer.muted (v : Viewer) : Viewer :=
  v.setWorld v.world.muted

end DependencyAtlas.Session
