import DependencyAtlas.Proofs.Session.Running

namespace DependencyAtlas.Session

open Stage
open Act (Keeps)

def Viewer.message (v : Viewer) : Option Message :=
  v.board.notice.message

namespace Viewer

theorem inWorld_keeps_message {α : Type} (act : Act World α) : Keeps message (inWorld act) :=
  inWorld_keeps (fun _ _ => rfl) act

theorem change_message (c : Change Bool) (v : Viewer) :
    (change c v).2.message = ((c.noticeAfter? v.board.notice).getD v.board.notice).message := by
  rw [message, change_board, Board.change_notice]

theorem change_load_message (loading : Bool) : Keeps message (change (.load loading)) := by
  intro v
  rw [change_message, Change.noticeAfter?]
  split <;> rfl

theorem becomeIdle_keeps_message : Keeps message becomeIdle := by
  refine Keeps.bind (Keeps.modify fun _ => rfl) fun _ => ?_
  exact change_load_message false

theorem settle_apply (act : Act Viewer Graph) (v : Viewer) :
    settle act v =
      match act v with
      | (.ok g, w) => (.ok (some g), w)
      | (.error failure, w) => recover failure w := by
  rw [settle, Act.bind_apply_ok (Act.ending_apply act v)]
  rcases act v with ⟨failure | g, w⟩ <;> rfl

theorem settle_of_failure {act : Act Viewer Graph} {v w : Viewer} {failure : Failure}
    (h : act v = (.error failure, w)) : settle act v = recover failure w := by
  rw [settle_apply, h]

theorem conclude_congr {act other : Act Viewer Graph} {v w : Viewer} (h : act v = other w) :
    conclude act v = conclude other w := by
  have hsettle : settle act v = settle other w := by
    rw [settle_apply, settle_apply, h]
  have hended : (settle act).andFinally becomeIdle v = (settle other).andFinally becomeIdle w := by
    rw [Act.andFinally_apply, Act.andFinally_apply, hsettle]
  rw [conclude, Act.bind_apply, hended, conclude, Act.bind_apply]

theorem ended_apply {act : Act Viewer Graph} {v w : Viewer} {result : Except Failure (Option Graph)}
    (h : settle act v = (result, w)) :
    (settle act).andFinally becomeIdle v = (result, (becomeIdle w).2) := by
  rw [Act.andFinally_apply, h]
  dsimp only
  rw [becomeIdle_apply w]

theorem conclude_of_none {act : Act Viewer Graph} {v w : Viewer} (h : settle act v = (.ok none, w)) :
    conclude act v = (.ok none, (becomeIdle w).2) := by
  rw [conclude, Act.bind_apply_ok (ended_apply h)]
  rfl

theorem conclude_of_failed {act : Act Viewer Graph} {v w : Viewer} {failure : Failure}
    (h : settle act v = (.error failure, w)) : conclude act v = (.error failure, (becomeIdle w).2) := by
  rw [conclude, Act.bind_apply_error (ended_apply h)]

theorem recover_of_complaint {c : Complaint} (hc : c ≠ .emptyResult) (v : Viewer) :
    recover (.complaint c) v = (.ok none, (change (.show c.message) v).2) := by
  rw [recover, if_neg hc]
  dsimp only
  rw [Act.bind_apply_ok (change_apply _ v)]
  rfl

theorem recover_of_empty {v w : Viewer} (h : release v = (.ok (), w)) :
    recover (.complaint .emptyResult) v =
      (.ok none, (change (.show Complaint.emptyResult.message) w).2) := by
  rw [recover, if_pos rfl, Act.bind_apply_ok h]
  dsimp only
  rw [Act.bind_apply_ok (change_apply _ w)]
  rfl

theorem quiet_iff_lasting (v : Viewer) :
    v.Quiet ↔ v.world.lasting.settings.isVerbose v.world.lasting.around = .ok false := by
  rw [World.lasting_settings, World.lasting_around, Quiet]

theorem quiet_of_scenery {v w : Viewer} (h : v.scenery = w.scenery) (hquiet : w.Quiet) : v.Quiet := by
  have hworld : v.world.lasting = w.world.lasting := congrArg Studio.outside h
  rw [quiet_iff_lasting, hworld]
  exact (quiet_iff_lasting w).mp hquiet

def told (m : Message) (v : Viewer) : Viewer :=
  (becomeIdle (change (.show m) v).2).2

theorem told_scenery (m : Message) (v : Viewer) : (v.told m).scenery = v.scenery := by
  rw [told, scenery_unstated.becomeIdle, scenery_unstated.change]

theorem told_message (m : Message) (v : Viewer) : (v.told m).message = some m := by
  rw [told, becomeIdle_keeps_message, change_message]
  rfl

theorem conclude_told {act : Act Viewer Graph} {v w : Viewer} {c : Complaint}
    (h : act v = (.error (.complaint c), w)) (hc : c ≠ .emptyResult) :
    conclude act v = (.ok none, w.told c.message) := by
  apply conclude_of_none
  rw [settle_of_failure h]
  exact recover_of_complaint hc w

theorem conclude_emptied {act : Act Viewer Graph} {v w u : Viewer}
    (h : act v = (.error (.complaint .emptyResult), w)) (hrelease : release w = (.ok (), u)) :
    conclude act v = (.ok none, u.told Complaint.emptyResult.message) := by
  apply conclude_of_none
  rw [settle_of_failure h]
  exact recover_of_empty hrelease

theorem conclude_shown {act : Act Viewer Graph} {v w : Viewer} {g : Graph} (h : act v = (.ok g, w))
    (hquiet : (conclude act v).2.Quiet) : conclude act v = (.ok (some g), (becomeIdle w).2) := by
  have hsettle : settle act v = (.ok (some g), w) := by
    rw [settle_apply, h]
  have htell (markup : String) : Keeps scenery (do
      inWorld (tell markup)
      return some g : Act Viewer (Option Graph)) :=
    Keeps.bind (scenery_unstated.tell _) fun _ => Keeps.pure _
  rw [conclude, Act.bind_apply_ok (ended_apply hsettle)] at hquiet ⊢
  have hidle : (becomeIdle w).2.Quiet := quiet_of_scenery (htell _ _).symm hquiet
  dsimp only
  rw [Act.bind_apply_ok (tell_quiet hidle _)]
  rfl

end Viewer

end DependencyAtlas.Session
