import DependencyAtlas.Proofs.Stage.Outside
import DependencyAtlas.Session.Viewer

namespace DependencyAtlas.Session

open Files Scan Stage
open Act (Keeps)

section

variable {γ : Type} {f : World → γ}

theorem write_keeps (hf : ∀ w printed, f { w with printed } = f w) (markup ending : String) :
    Keeps f (write markup ending) := by
  rw [write]
  split
  · exact Keeps.modify fun w => hf w _
  · exact Keeps.throw _

theorem isVerbose_keeps (f : World → γ) : Keeps f isVerbose :=
  Keeps.bind Keeps.get fun _ => Keeps.ofExcept _

theorem tell_keeps (hf : ∀ w printed, f { w with printed } = f w) (markup : String) :
    Keeps f (tell markup) := by
  apply Keeps.bind (isVerbose_keeps _)
  intro verbose
  exact Keeps.ite (write_keeps hf _ _) (Keeps.pure _)

theorem edit_keeps (hf : ∀ w disk, f { w with disk } = f w) (alter : Disk → Except Fault Disk) :
    Keeps f (edit alter) := by
  apply Keeps.bind Keeps.get
  intro w
  split
  · exact Keeps.modify fun w => hf w _
  · exact Keeps.throw _

theorem nextMishap_keeps (hf : ∀ w mishaps, f { w with mishaps } = f w) : Keeps f nextMishap := by
  apply Keeps.bind Keeps.get
  intro w
  split
  · exact Keeps.pure _
  · refine Keeps.bind (Keeps.modify fun w => hf w _) fun _ => ?_
    split
    · exact Keeps.throw _
    · exact Keeps.pure _

theorem writeFile_keeps (hdisk : ∀ w disk, f { w with disk } = f w)
    (hmishaps : ∀ w mishaps, f { w with mishaps } = f w) (path : Path) (text : String) :
    Keeps f (writeFile path text) :=
  Keeps.bind (nextMishap_keeps hmishaps) fun _ => edit_keeps hdisk _

theorem writeSheet_keeps (hdisk : ∀ w disk, f { w with disk } = f w)
    (hmishaps : ∀ w mishaps, f { w with mishaps } = f w) (sheet : Sheet) (path : Path)
    (figure : Drawing.Figure Float) : Keeps f (writeSheet sheet path figure) :=
  Keeps.bind Keeps.get fun _ => writeFile_keeps hdisk hmishaps _ _

theorem openPage_keeps
    (hf : ∀ w opened, f { w with opened, page := { w.page with opened := true } } = f w) :
    Keeps f openPage := by
  intro w
  rw [openPage, Act.bind_apply_ok (Act.get_apply w)]
  split
  · exact hf w _
  · rfl

theorem nextReply_keeps (hf : ∀ w replies, f { w with replies } = f w) : Keeps f nextReply := by
  apply Keeps.bind Keeps.get
  intro w
  split
  · exact Keeps.pure _
  · exact Keeps.pure _
  · refine Keeps.bind (Keeps.modify fun w => hf w _) fun _ => ?_
    exact Keeps.pure _

theorem clear_keeps (hf : ∀ w disk, f { w with disk } = f w) : Keeps f canvas.clear := by
  apply Keeps.bind Keeps.get
  intro w
  exact edit_keeps hf _

section

variable (hattempts : ∀ w attempts, f { w with attempts } = f w)
  (hdisk : ∀ w disk, f { w with disk } = f w) (hmishaps : ∀ w mishaps, f { w with mishaps } = f w)
  (hpage : ∀ w opened, f { w with opened, page := { w.page with opened := true } } = f w)

include hattempts hdisk hmishaps hpage

theorem draw_keeps (figure : Drawing.Figure Float) : Keeps f (canvas.draw figure) := by
  dsimp only [canvas]
  refine Keeps.bind (Keeps.modify fun w => hattempts w _) fun _ => ?_
  apply Keeps.bind Keeps.get
  intro w
  apply Keeps.bind (edit_keeps hdisk _)
  intro _
  apply Keeps.bind (writeSheet_keeps hdisk hmishaps _ _ _)
  intro _
  exact openPage_keeps hpage

theorem canvas_keeps (hprinted : ∀ w printed, f { w with printed } = f w) : canvas.Keeps f where
  draw := draw_keeps hattempts hdisk hmishaps hpage
  clear := clear_keeps hdisk
  notify _ id := by
    dsimp only [canvas]
    exact write_keeps hprinted _ _

end

end

theorem canvas_keeps_settings : canvas.Keeps World.settings :=
  canvas_keeps (fun _ _ => rfl) (fun _ _ => rfl) (fun _ _ => rfl) (fun _ _ => rfl) fun _ _ => rfl

namespace Viewer

theorem connect_keeps {γ : Type} {f : World → γ} (hf : ∀ w pool, f { w with pool } = f w) :
    Keeps f connect := by
  apply Keeps.bind Keeps.get
  intro w
  apply Keeps.bind (Keeps.ofExcept _)
  intro timeout
  refine Keeps.bind (Keeps.within_other fun w _ => hf w _) fun _ => ?_
  exact Keeps.pure _

variable {γ : Type} {f : Viewer → γ}

theorem inWorld_keeps {α : Type} (hf : ∀ v studio, f { v with studio } = f v) (act : Act World α) :
    Keeps f (inWorld act) :=
  Keeps.within_other fun v _ => hf v _

section

variable (hprint : ∀ markup, Keeps f (inWorld (print markup)))

include hprint

theorem showEvents_keeps (events : List Console.Event) : Keeps f (showEvents events) := by
  induction events with
  | nil => exact Keeps.pure _
  | cons event rest ih =>
    refine Keeps.bind ?_ fun _ => ih
    cases event with
    | print m => exact hprint _
    | start => exact Keeps.pure _
    | stop => exact Keeps.pure _

theorem change_keeps (hboard : ∀ v board, f { v with board } = f v)
    (hchanges : ∀ v changes, f { v with changes } = f v) (c : Change Bool) : Keeps f (change c) := by
  apply Keeps.bind Keeps.get
  intro v
  refine Keeps.bind (Keeps.modify fun w => hboard w _) fun _ => ?_
  apply Keeps.ite
  · exact showEvents_keeps hprint _
  · exact Keeps.bind (Keeps.modify fun w => hchanges w _) fun _ => showEvents_keeps hprint _

end

structure Unstated (f : Viewer → γ) : Prop where
  print : ∀ markup, Keeps f (inWorld (print markup))
  tell : ∀ markup, Keeps f (inWorld (tell markup))
  board : ∀ v board, f { v with board } = f v
  changes : ∀ v changes, f { v with changes } = f v
  inFlight : ∀ v inFlight, f { v with inFlight } = f v

namespace Unstated

variable (h : Unstated f)

include h

theorem change (c : Change Bool) : Keeps f (change c) :=
  change_keeps h.print h.board h.changes c

theorem becomeIdle : Keeps f becomeIdle :=
  Keeps.bind (Keeps.modify fun v => h.inFlight v _) fun _ => h.change _

theorem recover (hrelease : Keeps f release) (failure : Failure) : Keeps f (recover failure) := by
  rw [Viewer.recover.eq_def]
  split
  · apply Keeps.ite
    · apply Keeps.bind hrelease
      intro _
      exact Keeps.bind (h.change _) fun _ => Keeps.pure _
    · exact Keeps.bind (h.change _) fun _ => Keeps.pure _
  · exact Keeps.throw _

theorem conclude (hrelease : Keeps f release) {act : Act Viewer Graph} (hact : Keeps f act) :
    Keeps f (conclude act) := by
  apply Keeps.bind
  · apply Keeps.andFinally _ h.becomeIdle
    apply Keeps.bind (Keeps.ending hact)
    intro result
    split
    · exact Keeps.pure _
    · exact h.recover hrelease _
  · intro shown
    split
    · exact Keeps.bind (h.tell _) fun _ => Keeps.pure _
    · exact Keeps.pure _

theorem accept (path : Value) : Keeps f (accept path) := by
  rw [Viewer.accept]
  split
  · apply Keeps.bind Keeps.get
    intro v
    apply Keeps.ite
    · exact Keeps.bind (h.tell _) fun _ => Keeps.pure _
    · refine Keeps.bind (Keeps.modify fun v => h.inFlight v _) fun _ => ?_
      apply Keeps.bind (h.change _)
      intro _
      exact Keeps.bind (h.change _) fun _ => Keeps.pure _
  · exact Keeps.pure _
  · exact Keeps.throw _

end Unstated

end Viewer

end DependencyAtlas.Session
