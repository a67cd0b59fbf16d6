import DependencyAtlas.Proofs.Scan.Replies
import DependencyAtlas.Proofs.Session.Concluding

namespace DependencyAtlas.Session

open Scan Stage
open Act (Keeps)

namespace Viewer

def scan (request : Request) : Act Viewer Graph := do
  let waiting ← send request
  let reply ← inWorld nextReply
  Act.ofExcept (reply.graphFrom waiting.address)

section

variable {γ : Type} {f : Viewer → γ}
  (hf : ∀ {α : Type} {act : Act World α}, Keeps World.lasting act → Keeps f (inWorld act))

include hf

theorem send_keeps (request : Request) : Keeps f (send request) := by
  apply Keeps.bind Keeps.get
  intro v
  refine Keeps.bind (hf (tell_keeps (fun _ _ => rfl) _)) fun _ => ?_
  refine Keeps.bind (hf (connect_keeps fun _ _ => rfl)) fun _ => ?_
  apply Keeps.bind (Keeps.ofExcept _)
  intro sent
  refine Keeps.bind (hf (Keeps.modify fun _ => rfl)) fun _ => ?_
  exact Keeps.pure _

theorem scan_keeps (request : Request) : Keeps f (scan request) := by
  apply Keeps.bind (send_keeps hf request)
  intro waiting
  apply Keeps.bind (hf (nextReply_keeps fun _ _ => rfl))
  intro reply
  exact Keeps.ofExcept _

end

theorem send_keeps_scenery (request : Request) : Keeps scenery (send request) :=
  send_keeps inWorld_keeps_scenery request

theorem scan_keeps_scenery (request : Request) : Keeps scenery (scan request) :=
  scan_keeps inWorld_keeps_scenery request

theorem scan_keeps_message (request : Request) : Keeps message (scan request) :=
  scan_keeps (fun _ => inWorld_keeps_message _) request

theorem scan_accepted {request : Request} {v : Viewer} {g : Graph} (h : (scan request v).1 = .ok g) :
    g.Accepted := by
  obtain ⟨waiting, w, -, hreply⟩ := Act.of_bind_ok h
  obtain ⟨reply, u, -, hread⟩ := Act.of_bind_ok hreply
  exact Reply.graphFrom_accepted hread

theorem nextReply_apply (v : Viewer) : ∃ reply w, inWorld nextReply v = (.ok reply, w) := by
  rw [inWorld, Act.within_apply, nextReply, Act.bind_apply_ok (Act.get_apply v.world)]
  rcases v.world.replies with _ | ⟨reply, _ | ⟨other, rest⟩⟩
  · exact ⟨_, _, rfl⟩
  · exact ⟨reply, _, rfl⟩
  · exact ⟨reply, _, rfl⟩

theorem recover_none {failure : Failure} {v : Viewer} {shown : Option Graph}
    (h : (recover failure v).1 = .ok shown) : shown = none := by
  cases failure with
  | complaint c =>
    rw [recover] at h
    split at h
    · obtain ⟨_, _, -, h⟩ := Act.of_bind_ok h
      obtain ⟨_, _, -, h⟩ := Act.of_bind_ok h
      cases h
      rfl
    · obtain ⟨_, _, -, h⟩ := Act.of_bind_ok h
      cases h
      rfl
  | _ => cases h

theorem conclude_of_error {act : Act Viewer Graph} {v w : Viewer} {failure : Failure}
    (h : act v = (.error failure, w)) {shown : Option Graph} (hshown : (conclude act v).1 = .ok shown) :
    shown = none := by
  have hsettle : settle act v = recover failure w := by
    rw [settle_apply, h]
  rcases hrecover : recover failure w with ⟨failure' | shown', u⟩
  · rw [conclude_of_failed (hsettle.trans hrecover)] at hshown
    cases hshown
  · obtain rfl := recover_none (congrArg Prod.fst hrecover)
    rw [conclude_of_none (hsettle.trans hrecover)] at hshown
    cases hshown
    rfl

theorem started_scenery (v : Viewer) : v.started.scenery = v.scenery :=
  scenery_unstated.started v

theorem started_message (v : Viewer) : v.started.message = none := by
  rw [started, change_message, Change.noticeAfter?]
  split
  · next h => exact Option.isNone_iff_eq_none.mp h
  · rfl

theorem beginSubmit_started {path : Value} {request : Request} {v : Viewer}
    (hpath : Request.ofValue path = .ok request) (hidle : v.inFlight = false) :
    beginSubmit path v = launch request v.started := by
  rw [beginSubmit, Act.bind_apply_ok (accept_started hpath hidle)]

theorem submit_accepted {path : Value} {request : Request} {v : Viewer}
    (hpath : Request.ofValue path = .ok request) (hidle : v.inFlight = false) :
    submit path v = conclude (scan request >>= present) v.started := by
  rcases hsend : send request v.started with ⟨failure | waiting, w⟩
  · have hfailed : (scan request >>= present) v.started = (.error failure, w) :=
      Act.bind_apply_error (Act.bind_apply_error hsend)
    have hthrow : conclude (throw failure) w = conclude (scan request >>= present) v.started :=
      conclude_congr hfailed.symm
    have hbegin := (beginSubmit_started hpath hidle).trans (launch_of_unsent hsend)
    rcases hconclude : conclude (scan request >>= present) v.started with ⟨failure' | shown, u⟩
    · rw [Act.bind_apply_error (hthrow.trans hconclude)] at hbegin
      rw [submit, Act.bind_apply_error hbegin]
    · obtain rfl := conclude_of_error hfailed (congrArg Prod.fst hconclude)
      rw [Act.bind_apply_ok (hthrow.trans hconclude)] at hbegin
      rw [submit, Act.bind_apply_ok hbegin]
      rfl
  · obtain ⟨reply, u, hnext⟩ := nextReply_apply w
    have hbegin := (beginSubmit_started hpath hidle).trans (launch_of_sent hsend)
    have hscan : scan request v.started = (reply.graphFrom waiting.address, u) := by
      rw [scan, Act.bind_apply_ok hsend, Act.bind_apply_ok hnext, Act.ofExcept_apply]
    rw [submit, Act.bind_apply_ok hbegin]
    dsimp only
    rw [Act.bind_apply_ok hnext]
    apply conclude_congr
    rw [Act.bind_apply, Act.bind_apply, hscan]
    rfl

theorem accept_eq_some {path : Value} {request : Request} {v w : Viewer}
    (h : accept path v = (.ok (some request), w)) :
    Request.ofValue path = .ok request ∧ v.inFlight = false := by
  rcases hpath : Request.ofValue path with failure | request' <;> rw [accept, hpath] at h
  · cases failure <;> cases h
  · by_cases hrunning : v.inFlight = true
    · dsimp only at h
      rw [Act.bind_apply_ok (Act.get_apply v), if_pos hrunning] at h
      obtain ⟨_, _, -, h⟩ := Act.bind_eq_ok h
      cases h
    · have hidle := eq_false_of_ne_true hrunning
      have haccept := accept_started hpath hidle
      rw [accept, hpath] at haccept
      obtain ⟨hrequest, -⟩ := Prod.mk.inj (h.symm.trans haccept)
      cases hrequest
      exact ⟨rfl, hidle⟩

theorem recover_keeps_scenery {failure : Failure} (h : failure ≠ .complaint .emptyResult) :
    Keeps scenery (recover failure) := by
  rw [Viewer.recover.eq_def]
  split
  · next c =>
    rw [if_neg fun hc => h (congrArg Failure.complaint hc)]
    exact Keeps.bind (scenery_unstated.change _) fun _ => Keeps.pure _
  · exact Keeps.throw _

theorem conclude_failure_scenery {act : Act Viewer Graph} {v w : Viewer} {failure : Failure}
    (h : act v = (.error failure, w)) (hfailure : failure ≠ .complaint .emptyResult) :
    (conclude act v).2.scenery = w.scenery := by
  have hended : (settle act).andFinally becomeIdle v = (recover failure).andFinally becomeIdle w := by
    rw [Act.andFinally_apply, Act.andFinally_apply, settle_of_failure h]
  rw [conclude, Act.bind_congr hended]
  refine Keeps.bind ?_ (fun shown => ?_) w
  · exact (recover_keeps_scenery hfailure).andFinally scenery_unstated.becomeIdle
  · split
    · exact Keeps.bind (scenery_unstated.tell _) fun _ => Keeps.pure _
    · exact Keeps.pure _

def Fruitless (path : Value) (v : Viewer) : Prop :=
  ∀ request, Request.ofValue path = .ok request → v.inFlight = false →
    ∃ failure, (scan request v.started).1 = .error failure ∧ failure ≠ .complaint .emptyResult

theorem submit_fruitless {path : Value} {v : Viewer} (h : Fruitless path v) :
    (submit path v).2.scenery = v.scenery := by
  have hkept := scenery_unstated.accept path v
  rcases haccept : accept path v with ⟨failure | _ | request, w⟩
  · rw [haccept] at hkept
    have hbegin : beginSubmit path v = (.error failure, w) := Act.bind_apply_error haccept
    rw [submit, Act.bind_apply_error hbegin]
    exact hkept
  · rw [haccept] at hkept
    have hbegin : beginSubmit path v = (.ok none, w) := Act.bind_apply_ok haccept
    rw [submit, Act.bind_apply_ok hbegin]
    exact hkept
  · obtain ⟨hpath, hidle⟩ := accept_eq_some haccept
    obtain ⟨failure, hscan, hfailure⟩ := h request hpath hidle
    have hfailed : (scan request >>= present) v.started = (.error failure, (scan request v.started).2) :=
      Act.bind_apply_error (Prod.ext hscan rfl)
    rw [submit_accepted hpath hidle, conclude_failure_scenery hfailed hfailure, scan_keeps_scenery, started_scenery]

end Viewer

end DependencyAtlas.Session
