import DependencyAtlas.Proofs.Session.Frames

namespace DependencyAtlas.Session

open Scan Stage
open Act (Keeps)

theorem canvas_keeps_requests : canvas.Keeps World.requests :=
  canvas_keeps (fun _ _ => rfl) (fun _ _ => rfl) (fun _ _ => rfl) (fun _ _ => rfl) fun _ _ => rfl

namespace Viewer

def requests (v : Viewer) : List Sent :=
  v.world.requests

def account (v : Viewer) : Client × List Sent :=
  (v.client, v.requests)

theorem inWorld_keeps_account {α : Type} {act : Act World α} (h : Keeps World.requests act) :
    Keeps account (inWorld act) :=
  fun v => Prod.ext rfl (h v.world)

theorem inStudio_keeps_account {α : Type} {act : Act (Studio World Unit) α}
    (h : Keeps (fun s => s.outside.requests) act) : Keeps account (inStudio act) :=
  fun v => Prod.ext rfl (h v.studio)

theorem account_unstated : Unstated account where
  print _ := inWorld_keeps_account (write_keeps (fun _ _ => rfl) _ _)
  tell _ := inWorld_keeps_account (tell_keeps (fun _ _ => rfl) _)
  board _ _ := rfl
  changes _ _ := rfl
  inFlight _ _ := rfl

theorem release_keeps_account : Keeps account release :=
  inStudio_keeps_account (Studio.release_keeps canvas_keeps_requests.clear)

theorem receive_keeps_account (waiting : Waiting) (reply : Reply) :
    Keeps account (receive waiting reply) := by
  apply account_unstated.conclude release_keeps_account
  apply Keeps.bind (Keeps.ofExcept _)
  intro g
  apply Keeps.ite (Keeps.throw _)
  apply Keeps.bind (inStudio_keeps_account
    (Studio.render_keeps canvas_keeps_requests.draw canvas_keeps_requests.clear g))
  intro _
  exact Keeps.pure _

end Viewer

end DependencyAtlas.Session
