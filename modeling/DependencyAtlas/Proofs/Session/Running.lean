import DependencyAtlas.Proofs.Session.Printing
import DependencyAtlas.Proofs.Status

namespace DependencyAtlas

namespace Session.Viewer

open Scan Stage
open Act (Keeps)

def Idle (v : Viewer) : Prop :=
  v.inFlight = false ∧ v.board.notice.loading = false

def Busy (v : Viewer) : Prop :=
  v.inFlight = true ∧ v.board.notice.loading = true

def Quiet (v : Viewer) : Prop :=
  v.world.settings.isVerbose v.world.around = .ok false

theorem change_board (c : Change Bool) (v : Viewer) :
    (change c v).2.board = (v.board.change Console.Spinner.react c).1 := by
  have hshow (events : List Console.Event) : Keeps Viewer.board (showEvents events) :=
    showEvents_keeps (fun _ => inWorld_keeps (fun _ _ => rfl) _) events
  rw [change, Act.bind_apply_ok (Act.get_apply v)]
  dsimp only
  rw [Act.bind_apply_ok (Act.modify_apply _ v)]
  split
  · exact hshow _ _
  · rw [Act.bind_apply_ok (Act.modify_apply _ _)]
    exact hshow _ _

theorem change_inFlight (c : Change Bool) : Keeps Viewer.inFlight (change c) :=
  change_keeps (fun _ => inWorld_keeps (fun _ _ => rfl) _) (fun _ _ => rfl) (fun _ _ => rfl) c

theorem becomeIdle_idle (v : Viewer) : Idle (becomeIdle v).2 := by
  rw [becomeIdle, Act.bind_apply_ok (Act.modify_apply _ v)]
  refine ⟨?_, ?_⟩
  · exact change_inFlight _ _
  · rw [change_board]
    exact Board.loading_change_load _ _ _

theorem conclude_idle (act : Act Viewer Graph) (v : Viewer) : Idle (conclude act v).2 := by
  rw [conclude, Keeps.bind_right (f := Idle), Act.andFinally_state]
  · exact becomeIdle_idle _
  · intro shown
    split
    · exact Keeps.bind (inWorld_keeps (fun _ _ => rfl) _) fun _ => Keeps.pure _
    · exact Keeps.pure _

theorem tell_quiet {v : Viewer} (h : v.Quiet) (markup : String) :
    inWorld (tell markup) v = (.ok (), v) := by
  have hverbose : isVerbose v.world = (.ok false, v.world) := by
    rw [isVerbose, Act.bind_apply_ok (Act.get_apply _), h]
    rfl
  rw [inWorld, Act.within_apply, tell, Act.bind_apply_ok hverbose]
  rfl

variable {path : Value} {request : Request} {v : Viewer}

theorem accept_blank (h : Request.ofValue path = .error (.complaint .emptyPath)) (v : Viewer) :
    accept path v = (.ok none, v) := by
  rw [accept, h]
  rfl

theorem accept_running (hpath : Request.ofValue path = .ok request) (hbusy : v.inFlight = true)
    (hquiet : v.Quiet) : accept path v = (.ok none, v) := by
  rw [accept, hpath]
  dsimp only
  rw [Act.bind_apply_ok (Act.get_apply v), if_pos hbusy, Act.bind_apply_ok (tell_quiet hquiet _)]
  rfl

def started (v : Viewer) : Viewer :=
  (change .clear (change (.load true) { v with inFlight := true }).2).2

theorem Unstated.started {γ : Type} {f : Viewer → γ} (h : Unstated f) (v : Viewer) :
    f v.started = f v := by
  rw [Viewer.started, h.change, h.change]
  exact h.inFlight v true

theorem accept_started (hpath : Request.ofValue path = .ok request) (hidle : v.inFlight = false) :
    accept path v = (.ok (some request), v.started) := by
  rw [accept, hpath]
  dsimp only
  rw [Act.bind_apply_ok (Act.get_apply v), if_neg (ne_true_of_eq_false hidle),
    Act.bind_apply_ok (Act.modify_apply _ v), Act.bind_apply_ok (change_apply _ _),
    Act.bind_apply_ok (change_apply _ _)]
  rfl

theorem started_busy (v : Viewer) : Busy v.started := by
  constructor
  · rw [started, change_inFlight, change_inFlight]
  · rw [started, change_board, Board.loading_change_other (c := .clear) nofun, change_board]
    exact Board.loading_change_load _ _ _

theorem accept_idle (hpath : Request.ofValue path = .ok request) (hidle : v.inFlight = false) :
    ∃ w, accept path v = (.ok (some request), w) ∧ Busy w :=
  ⟨v.started, accept_started hpath hidle, started_busy v⟩

theorem send_quiet (hquiet : v.Quiet) (request : Request) :
    send request v =
      match connect v.world, v.client.send request with
      | (.ok _, w), .ok (sent, address) =>
        (.ok ⟨request, address⟩, v.setWorld { w with requests := w.requests ++ [sent] })
      | (.ok _, w), .error failure => (.error failure, v.setWorld w)
      | (.error failure, w), _ => (.error failure, v.setWorld w) := by
  rw [send, Act.bind_apply_ok (Act.get_apply v)]
  dsimp only
  rw [Act.bind_apply_ok (tell_quiet hquiet _), Act.bind_apply, inWorld, Act.within_apply]
  rcases connect v.world with ⟨failure | _, w⟩
  · rfl
  · dsimp only
    rw [Act.bind_apply, Act.ofExcept_apply]
    rcases v.client.send request with failure | ⟨sent, address⟩
    · rfl
    · rfl

theorem launch_of_sent {w : Viewer} {waiting : Waiting} (h : send request v = (.ok waiting, w)) :
    launch request v = (.ok (some waiting), w) := by
  rw [launch, Act.bind_apply_ok (Act.ending_apply _ v), h]
  rfl

theorem launch_of_unsent {w : Viewer} {failure : Failure} (h : send request v = (.error failure, w)) :
    launch request v =
      (do
        let _ ← conclude (throw failure)
        return none : Act Viewer (Option Waiting)) w := by
  rw [launch, Act.bind_apply_ok (Act.ending_apply _ v), h]

end Session.Viewer

end DependencyAtlas
