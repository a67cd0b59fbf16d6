import DependencyAtlas.Proofs.Session.Requests
import DependencyAtlas.Proofs.Session.Running
import Mathlib.Data.List.Forall2

namespace DependencyAtlas.Session

open Scan Stage

inductive Phase where
  | accepted
  | waiting (w : Waiting)
  | unsent
  | answered

structure Submission where
  request : Request
  phase : Phase

namespace Submission

def isPending (s : Submission) : Bool :=
  match s.phase with
  | .accepted | .waiting _ => true
  | .unsent | .answered => false

def wasSent (s : Submission) : Bool :=
  match s.phase with
  | .waiting _ | .answered => true
  | .accepted | .unsent => false

end Submission

structure Desk where
  viewer : Viewer
  submissions : List Submission

/-- What can happen at a desk: a submission arrives, the request of the `i`-th accepted one is sent, its
exchange ends, the renderer is asked for something, or anything changes outside. -/
inductive Happening where
  | submit (path : Value)
  | launch (i : Nat)
  | answer (i : Nat) (reply : Reply)
  | relayout
  | tap (id : String)
  | release
  | outside (w : World)

namespace Desk

def pending (d : Desk) : List Submission :=
  d.submissions.filter Submission.isPending

def step (d : Desk) : Happening → Desk
  | .submit path =>
    match Viewer.accept path d.viewer with
    | (.ok (some request), v) => ⟨v, d.submissions ++ [⟨request, .accepted⟩]⟩
    | (_, v) => ⟨v, d.submissions⟩
  | .launch i =>
    match d.submissions[i]? with
    | some ⟨request, .accepted⟩ =>
      match Viewer.launch request d.viewer with
      | (.ok (some waiting), v) => ⟨v, d.submissions.set i ⟨request, .waiting waiting⟩⟩
      | (_, v) => ⟨v, d.submissions.set i ⟨request, .unsent⟩⟩
    | _ => d
  | .answer i reply =>
    match d.submissions[i]? with
    | some ⟨request, .waiting waiting⟩ =>
      ⟨(Viewer.receive waiting reply d.viewer).2, d.submissions.set i ⟨request, .answered⟩⟩
    | _ => d
  | .relayout => { d with viewer := (Viewer.inStudio (Studio.relayout canvas) d.viewer).2 }
  | .tap id => { d with viewer := (Viewer.inStudio (Studio.tap canvas id) d.viewer).2 }
  | .release => { d with viewer := (Viewer.inStudio (Studio.release canvas) d.viewer).2 }
  | .outside w => { d with viewer := d.viewer.setWorld { w with requests := d.viewer.requests } }

end Desk

inductive Reaches (start : Viewer) : Desk → Prop
  | start : Reaches start ⟨start, []⟩
  | step {d : Desk} (h : Reaches start d) (quiet : d.viewer.Quiet) (event : Happening) :
    Reaches start (d.step event)

def SentAs (client : Client) (request : Request) (sent : Sent) : Prop :=
  ∃ address, Address.parse client.scanUrl = .ok address ∧
    sent = ⟨"POST", address.text, .object [("path", .str request.path)]⟩

theorem send_sentAs {client : Client} {request : Request} {sent : Sent} {address : Address}
    (h : client.send request = .ok (sent, address)) : SentAs client request sent := by
  rw [Client.send] at h
  rcases hparse : Address.parse client.scanUrl with failure | parsed
  · rw [hparse] at h
    cases h
  · rw [hparse] at h
    cases h
    exact ⟨address, hparse, rfl⟩

namespace Desk

open Viewer (Idle Busy)

def asked (d : Desk) : List Request :=
  (d.submissions.filter Submission.wasSent).map Submission.request

def Marked (d : Desk) : Prop :=
  (Idle d.viewer ∧ ∀ s ∈ d.submissions, s.isPending = false) ∨
  (Busy d.viewer ∧ ∃ settled s, d.submissions = settled ++ [s] ∧ s.isPending = true ∧
    ∀ t ∈ settled, t.isPending = false)

def Accounted (start : Viewer) (d : Desk) : Prop :=
  d.viewer.client = start.client ∧ ∃ sent, d.viewer.requests = start.requests ++ sent ∧
    List.Forall₂ (SentAs start.client) d.asked sent

theorem accept_cases {v : Viewer} (hquiet : v.Quiet) (path : Value) :
    (∃ result, Viewer.accept path v = (result, v) ∧ ∀ request, result ≠ .ok (some request)) ∨
    (∃ request w, Viewer.accept path v = (.ok (some request), w) ∧ v.inFlight = false ∧ Busy w ∧
      w.account = v.account) := by
  rcases hpath : Request.ofValue path with failure | request
  · left
    rw [Viewer.accept, hpath]
    cases failure with
    | complaint c => exact ⟨.ok none, rfl, fun _ h => by cases h⟩
    | _ => exact ⟨.error _, rfl, fun _ h => by cases h⟩
  · cases hflight : v.inFlight with
    | true =>
      left
      exact ⟨.ok none, Viewer.accept_running hpath hflight hquiet, fun _ h => by cases h⟩
    | false =>
      right
      obtain ⟨w, haccept, hbusy⟩ := Viewer.accept_idle hpath hflight
      have haccount := Viewer.account_unstated.accept path v
      rw [haccept] at haccount
      exact ⟨request, w, haccept, rfl, hbusy, haccount⟩

theorem launch_of_failed {v w : Viewer} {request : Request} {failure : Failure}
    (h : Viewer.send request v = (.error failure, w)) :
    ∃ result u, Viewer.launch request v = (result, u) ∧ (∀ waiting, result ≠ .ok (some waiting)) ∧
      Idle u ∧ u.account = w.account := by
  have hidle := Viewer.conclude_idle (throw failure) w
  have haccount := Viewer.account_unstated.conclude Viewer.release_keeps_account (Act.Keeps.throw failure) w
  rw [Viewer.launch_of_unsent h, Act.bind_apply]
  rcases hconclude : Viewer.conclude (throw failure) w with ⟨failure' | shown, u⟩ <;>
    rw [hconclude] at hidle haccount
  · exact ⟨.error failure', u, rfl, fun _ hr => (by cases hr), hidle, haccount⟩
  · exact ⟨.ok none, u, rfl, fun _ hr => (by cases hr), hidle, haccount⟩

theorem launch_cases {v : Viewer} (hquiet : v.Quiet) (request : Request) :
    (∃ sent address w, v.client.send request = .ok (sent, address) ∧
      Viewer.launch request v = (.ok (some ⟨request, address⟩), w) ∧
      w.requests = v.requests ++ [sent] ∧ w.client = v.client ∧ w.inFlight = v.inFlight ∧
      w.board = v.board) ∨
    (((∃ failure w, Viewer.connect v.world = (.error failure, w)) ∨
        ∃ failure, v.client.send request = .error failure) ∧
      ∃ result w, Viewer.launch request v = (result, w) ∧
        (∀ waiting, result ≠ .ok (some waiting)) ∧ Idle w ∧ w.account = v.account) := by
  have hsend := Viewer.send_quiet hquiet request
  have hrequests := @Viewer.connect_keeps _ World.requests (fun _ _ => rfl) v.world
  have haccount {w : World} (h : w.requests = v.world.requests) : (v.setWorld w).account = v.account :=
    Prod.ext rfl h
  rcases hconnect : Viewer.connect v.world with ⟨failure | _, w⟩
  · rw [hconnect] at hsend hrequests
    obtain ⟨result, u, hlaunch, hresult, hidle, hu⟩ := launch_of_failed hsend
    exact .inr ⟨.inl ⟨failure, w, rfl⟩, result, u, hlaunch, hresult, hidle, hu.trans (haccount hrequests)⟩
  · rcases hclient : v.client.send request with failure | ⟨sent, address⟩
    · rw [hconnect, hclient] at hsend
      rw [hconnect] at hrequests
      obtain ⟨result, u, hlaunch, hresult, hidle, hu⟩ := launch_of_failed hsend
      exact .inr ⟨.inr ⟨failure, rfl⟩, result, u, hlaunch, hresult, hidle, hu.trans (haccount hrequests)⟩
    · rw [hconnect, hclient] at hsend
      rw [hconnect] at hrequests
      refine .inl ⟨sent, address, _, rfl, Viewer.launch_of_sent hsend, ?_, rfl, rfl, rfl⟩
      exact congrArg (· ++ [sent]) hrequests

theorem marked_pending {d : Desk} (h : d.Marked) {i : Nat} {s : Submission}
    (hi : d.submissions[i]? = some s) (hs : s.isPending = true) :
    Busy d.viewer ∧ ∃ settled, d.submissions = settled ++ [s] ∧ i = settled.length ∧
      ∀ t ∈ settled, t.isPending = false := by
  rcases h with ⟨-, hnone⟩ | ⟨hbusy, settled, last, hlist, hlast, hsettled⟩
  · rw [hnone s (List.mem_of_getElem? hi)] at hs
    cases hs
  · rw [hlist] at hi
    rcases Nat.lt_trichotomy i settled.length with hlt | rfl | hgt
    · rw [List.getElem?_append_left hlt] at hi
      rw [hsettled s (List.mem_of_getElem? hi)] at hs
      cases hs
    · rw [List.getElem?_concat_length] at hi
      obtain rfl := Option.some.inj hi
      exact ⟨hbusy, settled, hlist, rfl, hsettled⟩
    · rw [List.getElem?_eq_none (by simp; omega)] at hi
      cases hi

theorem set_last (settled : List Submission) (s t : Submission) :
    (settled ++ [s]).set settled.length t = settled ++ [t] := by
  rw [List.set_append_right _ _ (Nat.le_refl _), Nat.sub_self]
  rfl

theorem accounted_of_account {start : Viewer} {d e : Desk} (h : d.Accounted start)
    (haccount : e.viewer.account = d.viewer.account)
    (hasked : e.asked = d.asked) : e.Accounted start := by
  obtain ⟨hclient, sent, hrequests, hall⟩ := h
  refine ⟨(congrArg Prod.fst haccount).trans hclient, sent, ?_, ?_⟩
  · exact (congrArg Prod.snd haccount).trans hrequests
  · rw [hasked]
    exact hall

theorem asked_concat (v w : Viewer) (settled : List Submission) (s : Submission) :
    (Desk.mk v (settled ++ [s])).asked =
      (Desk.mk w settled).asked ++ if s.wasSent then [s.request] else [] := by
  simp only [asked, List.filter_append, List.map_append, List.filter_cons, List.filter_nil]
  split <;> rfl

theorem step_submit_passed {d : Desk} {path : Value} {result : Except Failure (Option Request)}
    (h : Viewer.accept path d.viewer = (result, d.viewer))
    (hresult : ∀ request, result ≠ .ok (some request)) : d.step (.submit path) = d := by
  simp only [step, h]

theorem submit_keeps {start : Viewer} {d : Desk} (hquiet : d.viewer.Quiet) (path : Value)
    (hm : d.Marked) (ha : d.Accounted start) :
    (d.step (.submit path)).Marked ∧ (d.step (.submit path)).Accounted start := by
  rcases accept_cases hquiet path with ⟨result, haccept, hresult⟩ | ⟨request, w, haccept, hidle, hbusy, hw⟩
  · rw [step_submit_passed haccept hresult]
    exact ⟨hm, ha⟩
  · have hstep : d.step (.submit path) = ⟨w, d.submissions ++ [⟨request, .accepted⟩]⟩ := by
      rw [step, haccept]
    rw [hstep]
    refine ⟨.inr ⟨hbusy, d.submissions, _, rfl, rfl, ?_⟩, accounted_of_account ha hw ?_⟩
    · rcases hm with ⟨-, hnone⟩ | ⟨hb, -⟩
      · exact hnone
      · exact absurd (hidle.symm.trans hb.1) Bool.false_ne_true
    · rw [asked_concat w d.viewer]
      exact List.append_nil _

variable {d : Desk} {i : Nat} {request : Request}

theorem step_launch {v : Viewer} {waiting : Waiting}
    (hi : d.submissions[i]? = some ⟨request, .accepted⟩)
    (h : Viewer.launch request d.viewer = (.ok (some waiting), v)) :
    d.step (.launch i) = ⟨v, d.submissions.set i ⟨request, .waiting waiting⟩⟩ := by
  simp only [step, hi, h]

theorem step_launch_failed {v : Viewer} {result : Except Failure (Option Waiting)}
    (hi : d.submissions[i]? = some ⟨request, .accepted⟩)
    (h : Viewer.launch request d.viewer = (result, v))
    (hresult : ∀ waiting, result ≠ .ok (some waiting)) :
    d.step (.launch i) = ⟨v, d.submissions.set i ⟨request, .unsent⟩⟩ := by
  simp only [step, hi, h]

theorem step_launch_other (hi : ∀ request, d.submissions[i]? ≠ some ⟨request, .accepted⟩) :
    d.step (.launch i) = d := by
  rw [step]
  split
  · next request h => exact absurd h (hi request)
  · rfl

theorem step_answer {waiting : Waiting} (hi : d.submissions[i]? = some ⟨request, .waiting waiting⟩)
    (reply : Reply) :
    d.step (.answer i reply) =
      ⟨(Viewer.receive waiting reply d.viewer).2, d.submissions.set i ⟨request, .answered⟩⟩ := by
  simp only [step, hi]

theorem step_answer_other (hi : ∀ request waiting, d.submissions[i]? ≠ some ⟨request, .waiting waiting⟩)
    (reply : Reply) : d.step (.answer i reply) = d := by
  rw [step]
  split
  · next request waiting h => exact absurd h (hi request waiting)
  · rfl

theorem launch_keeps {start : Viewer} (hquiet : d.viewer.Quiet) (i : Nat)
    (hm : d.Marked) (ha : d.Accounted start) :
    (d.step (.launch i)).Marked ∧ (d.step (.launch i)).Accounted start := by
  by_cases hi : ∃ request, d.submissions[i]? = some ⟨request, .accepted⟩
  · obtain ⟨request, hi⟩ := hi
    obtain ⟨hbusy, settled, hlist, rfl, hsettled⟩ := marked_pending hm hi rfl
    have hset (phase : Phase) :
        d.submissions.set settled.length ⟨request, phase⟩ = settled ++ [⟨request, phase⟩] := by
      rw [hlist, set_last]
    have hasked : d.asked = (Desk.mk d.viewer settled).asked := by
      rw [← List.append_nil (Desk.mk d.viewer settled).asked]
      exact (congrArg (fun l => (Desk.mk d.viewer l).asked) hlist).trans (asked_concat _ _ _ _)
    rcases launch_cases hquiet request with
      ⟨sent, address, w, hsend, hlaunch, hrequests, hw, hflight, hboard⟩ |
      ⟨-, result, w, hlaunch, hresult, hidle, haccount⟩
    · obtain ⟨hclient, before, hbefore, hall⟩ := ha
      rw [step_launch hi hlaunch, hset]
      constructor
      · refine .inr ⟨⟨hflight.trans hbusy.1, ?_⟩, settled, _, rfl, rfl, hsettled⟩
        rw [hboard]
        exact hbusy.2
      · refine ⟨hw.trans hclient, before ++ [sent], ?_, ?_⟩
        · rw [hrequests, hbefore, List.append_assoc]
        · rw [asked_concat w d.viewer, ← hasked]
          exact List.rel_append hall (.cons (send_sentAs (hclient ▸ hsend)) .nil)
    · rw [step_launch_failed hi hlaunch hresult, hset]
      constructor
      · refine .inl ⟨hidle, ?_⟩
        intro s hs
        rcases List.mem_append.mp hs with hs | hs
        · exact hsettled s hs
        · rw [List.mem_singleton.mp hs]
          rfl
      · refine accounted_of_account ha haccount ?_
        rw [asked_concat w d.viewer, hasked]
        exact List.append_nil _
  · rw [step_launch_other fun request h => hi ⟨request, h⟩]
    exact ⟨hm, ha⟩

theorem answer_keeps {start : Viewer} (i : Nat) (reply : Reply) (hm : d.Marked)
    (ha : d.Accounted start) :
    (d.step (.answer i reply)).Marked ∧ (d.step (.answer i reply)).Accounted start := by
  by_cases hi : ∃ request waiting, d.submissions[i]? = some ⟨request, .waiting waiting⟩
  · obtain ⟨request, waiting, hi⟩ := hi
    obtain ⟨hbusy, settled, hlist, rfl, hsettled⟩ := marked_pending hm hi rfl
    have hasked : d.asked = (Desk.mk d.viewer settled).asked ++ [request] :=
      (congrArg (fun l => (Desk.mk d.viewer l).asked) hlist).trans (asked_concat _ _ _ _)
    rw [step_answer hi, hlist, set_last]
    constructor
    · refine .inl ⟨Viewer.conclude_idle _ _, ?_⟩
      intro s hs
      rcases List.mem_append.mp hs with hs | hs
      · exact hsettled s hs
      · rw [List.mem_singleton.mp hs]
        rfl
    · refine accounted_of_account ha (Viewer.receive_keeps_account waiting reply d.viewer) ?_
      rw [asked_concat _ d.viewer, hasked]
      rfl
  · rw [step_answer_other fun request waiting h => hi ⟨request, waiting, h⟩]
    exact ⟨hm, ha⟩

theorem other_keeps {start : Viewer} {v : Viewer} (hm : d.Marked) (ha : d.Accounted start)
    (hflight : v.inFlight = d.viewer.inFlight) (hboard : v.board = d.viewer.board)
    (haccount : v.account = d.viewer.account) :
    Marked { d with viewer := v } ∧ Accounted start { d with viewer := v } := by
  constructor
  · rcases hm with ⟨⟨hf, hl⟩, hnone⟩ | ⟨⟨hf, hl⟩, hlast⟩
    · exact .inl ⟨⟨hflight.trans hf, hboard ▸ hl⟩, hnone⟩
    · exact .inr ⟨⟨hflight.trans hf, hboard ▸ hl⟩, hlast⟩
  · exact accounted_of_account ha haccount rfl

theorem step_keeps {start : Viewer} (hquiet : d.viewer.Quiet) (event : Happening) (hm : d.Marked)
    (ha : d.Accounted start) : (d.step event).Marked ∧ (d.step event).Accounted start := by
  have hcanvas := canvas_keeps_requests
  cases event with
  | submit path => exact submit_keeps hquiet path hm ha
  | launch i => exact launch_keeps hquiet i hm ha
  | answer i reply => exact answer_keeps i reply hm ha
  | relayout =>
    exact other_keeps hm ha rfl rfl
      (Viewer.inStudio_keeps_account (Studio.relayout_keeps hcanvas.draw) d.viewer)
  | tap id =>
    exact other_keeps hm ha rfl rfl
      (Viewer.inStudio_keeps_account (Studio.tap_keeps hcanvas id) d.viewer)
  | release =>
    exact other_keeps hm ha rfl rfl
      (Viewer.inStudio_keeps_account (Studio.release_keeps hcanvas.clear) d.viewer)
  | outside w => exact other_keeps hm ha rfl rfl rfl

end Desk

theorem reaches_keeps {start : Viewer} {d : Desk} (hidle : start.Idle) (h : Reaches start d) :
    d.Marked ∧ d.Accounted start := by
  induction h with
  | start => exact ⟨.inl ⟨hidle, by simp⟩, rfl, [], (List.append_nil _).symm, .nil⟩
  | step h hquiet event ih => exact Desk.step_keeps hquiet event ih.1 ih.2

def Blank (path : Value) : Prop :=
  path = .null ∨ ∃ text, path = .str text ∧ Text.trimmed text = ""

theorem ofValue_blank {path : Value} (h : Blank path) :
    Request.ofValue path = .error (.complaint .emptyPath) := by
  rcases h with rfl | ⟨text, rfl, htext⟩
  · rfl
  · simp only [Request.ofValue, Request.ofText?, htext, if_pos]

theorem ofValue_text {text : String} (h : Text.trimmed text ≠ "") :
    Request.ofValue (.str text) = .ok ⟨Text.trimmed text⟩ := by
  simp only [Request.ofValue, Request.ofText?, if_neg h]

structure SingleFlight (start : Viewer) (d : Desk) : Prop where
  marks_agree : d.viewer.inFlight = d.viewer.board.notice.loading
  inFlight_iff : d.viewer.inFlight = true ↔ d.pending ≠ []
  trigger : d.viewer.board.notice.triggerEnabled = !d.viewer.inFlight
  one_pending : d.pending.length ≤ 1
  ignored : ∀ path, d.viewer.Quiet → Blank path ∨ d.pending ≠ [] → d.step (.submit path) = d
  taken : ∀ text, d.pending = [] → Text.trimmed text ≠ "" →
    ∃ v, d.step (.submit (.str text)) =
      ⟨v, d.submissions ++ [⟨⟨Text.trimmed text⟩, .accepted⟩]⟩
  launched : ∀ i request, d.viewer.Quiet → d.submissions[i]? = some ⟨request, .accepted⟩ →
    (∃ sent waiting v, SentAs start.client request sent ∧
      d.step (.launch i) = ⟨v, d.submissions.set i ⟨request, .waiting waiting⟩⟩ ∧
      v.requests = d.viewer.requests ++ [sent]) ∨
    (((∃ failure w, Viewer.connect d.viewer.world = (.error failure, w)) ∨
        ∃ failure, Address.parse start.client.scanUrl = .error failure) ∧
      ∃ v, d.step (.launch i) = ⟨v, d.submissions.set i ⟨request, .unsent⟩⟩ ∧
        v.requests = d.viewer.requests)
  requests : ∃ sent, d.viewer.requests = start.requests ++ sent ∧
    List.Forall₂ (SentAs start.client) d.asked sent

theorem pending_of_marked {d : Desk} (h : d.Marked) :
    (d.viewer.Idle ∧ d.pending = []) ∨ (d.viewer.Busy ∧ ∃ s, d.pending = [s]) := by
  rcases h with ⟨hidle, hnone⟩ | ⟨hbusy, settled, s, hlist, hs, hsettled⟩
  · left
    refine ⟨hidle, List.filter_eq_nil_iff.mpr ?_⟩
    intro t ht
    rw [hnone t ht]
    exact Bool.false_ne_true
  · right
    refine ⟨hbusy, s, ?_⟩
    have hnone : settled.filter Submission.isPending = [] := by
      apply List.filter_eq_nil_iff.mpr
      intro t ht
      rw [hsettled t ht]
      exact Bool.false_ne_true
    rw [Desk.pending, hlist, List.filter_append, hnone, List.filter_cons_of_pos hs]
    rfl

theorem submit_ignored {d : Desk} (hm : d.Marked) (hquiet : d.viewer.Quiet) {path : Value}
    (h : Blank path ∨ d.pending ≠ []) : d.step (.submit path) = d := by
  rcases h with hblank | hpending
  · have haccept := Viewer.accept_blank (ofValue_blank hblank) d.viewer
    exact Desk.step_submit_passed haccept fun _ hr => by cases hr
  · rcases Desk.accept_cases hquiet path with ⟨result, haccept, hresult⟩ | ⟨_, _, _, hidle, -⟩
    · exact Desk.step_submit_passed haccept hresult
    · rcases pending_of_marked hm with ⟨-, hnone⟩ | ⟨hbusy, -⟩
      · exact absurd hnone hpending
      · exact absurd (hidle.symm.trans hbusy.1) Bool.false_ne_true

theorem submit_taken {d : Desk} (hm : d.Marked) {text : String} (hpending : d.pending = [])
    (htext : Text.trimmed text ≠ "") :
    ∃ v, d.step (.submit (.str text)) =
      ⟨v, d.submissions ++ [⟨⟨Text.trimmed text⟩, .accepted⟩]⟩ := by
  rcases pending_of_marked hm with ⟨hidle, -⟩ | ⟨-, s, hs⟩
  · obtain ⟨v, haccept, -⟩ := Viewer.accept_idle (ofValue_text htext) hidle.1
    exact ⟨v, by simp only [Desk.step, haccept]⟩
  · rw [hpending] at hs
    cases hs

theorem send_error_iff {client : Client} {request : Request} :
    (∃ failure, client.send request = .error failure) ↔
      ∃ failure, Address.parse client.scanUrl = .error failure := by
  rw [Client.send]
  rcases Address.parse client.scanUrl with failure | address
  · exact ⟨fun _ => ⟨failure, rfl⟩, fun _ => ⟨failure, rfl⟩⟩
  · constructor
    · rintro ⟨_, h⟩
      cases h
    · rintro ⟨_, h⟩
      cases h

theorem launched_once {start : Viewer} {d : Desk} (hclient : d.viewer.client = start.client)
    (hquiet : d.viewer.Quiet) {i : Nat} {request : Request}
    (hi : d.submissions[i]? = some ⟨request, .accepted⟩) :
    (∃ sent waiting v, SentAs start.client request sent ∧
      d.step (.launch i) = ⟨v, d.submissions.set i ⟨request, .waiting waiting⟩⟩ ∧
      v.requests = d.viewer.requests ++ [sent]) ∨
    (((∃ failure w, Viewer.connect d.viewer.world = (.error failure, w)) ∨
        ∃ failure, Address.parse start.client.scanUrl = .error failure) ∧
      ∃ v, d.step (.launch i) = ⟨v, d.submissions.set i ⟨request, .unsent⟩⟩ ∧
        v.requests = d.viewer.requests) := by
  rcases Desk.launch_cases hquiet request with
    ⟨sent, address, w, hsend, hlaunch, hrequests, -⟩ | ⟨hwhy, result, w, hlaunch, hresult, -, hw⟩
  · refine .inl ⟨sent, _, w, send_sentAs (hclient ▸ hsend), Desk.step_launch hi hlaunch, hrequests⟩
  · refine .inr ⟨?_, w, Desk.step_launch_failed hi hlaunch hresult, congrArg Prod.snd hw⟩
    rw [send_error_iff, hclient] at hwhy
    exact hwhy

/-- At any time at most one submission is pending and both marks tell whether one is; a submission that
comes meanwhile, or asks for nothing, changes nothing; and each accepted one sends one request with its
trimmed path, unless there is no connection or the address is refused. -/
theorem single_flight {start : Viewer} {d : Desk} (hidle : start.Idle) (h : Reaches start d) :
    SingleFlight start d := by
  obtain ⟨hm, hclient, hrequests⟩ := reaches_keeps hidle h
  have hagree : d.viewer.inFlight = d.viewer.board.notice.loading := by
    rcases pending_of_marked hm with ⟨⟨hf, hl⟩, -⟩ | ⟨⟨hf, hl⟩, -⟩ <;> rw [hf, hl]
  refine {
    marks_agree := hagree
    inFlight_iff := ?_
    trigger := by rw [Notice.triggerEnabled, hagree]
    one_pending := ?_
    ignored := fun path hquiet => submit_ignored hm hquiet
    taken := fun text => submit_taken hm
    launched := fun i request hquiet => launched_once hclient hquiet
    requests := hrequests }
  · rcases pending_of_marked hm with ⟨⟨hf, -⟩, hnone⟩ | ⟨⟨hf, -⟩, s, hs⟩
    · simp [hf, hnone]
    · simp [hf, hs]
  · rcases pending_of_marked hm with ⟨-, hnone⟩ | ⟨-, s, hs⟩
    · simp [hnone]
    · simp [hs]

def bareWorld : World where
  settings := { Settings.initial with verbose := some (.bool false) }
  environment := []
  disk := ⟨[], []⟩
  page := ⟨.ofText "page.html", false, false⟩
  pool := .empty
  refusal := none
  replies := []
  html := fun _ _ => ""
  image := .writes ""
  mishaps := []
  printed := []
  requests := []
  opened := []
  attempts := []

def newViewer : Viewer where
  studio := ⟨⟨{}, none, [()]⟩, .empty, ⟨0, []⟩, bareWorld⟩
  board := ⟨⟨false, none⟩, [⟨false⟩]⟩
  changes := []
  client := ⟨"http://localhost:8080", .int 30⟩
  inFlight := false

def firstSubmitted : Desk :=
  Desk.step ⟨newViewer, []⟩ (.submit (.str " a "))

theorem single_flight_overlapping :
    newViewer.Idle ∧ Reaches newViewer (firstSubmitted.step (.submit (.str "b"))) ∧
      SingleFlight newViewer (firstSubmitted.step (.submit (.str "b"))) := by
  have hidle : newViewer.Idle := ⟨rfl, rfl⟩
  have hquiet : newViewer.Quiet := rfl
  have hfirst : Reaches newViewer firstSubmitted := .step .start hquiet _
  have hquiet' : firstSubmitted.viewer.Quiet := rfl
  have hsecond : Reaches newViewer (firstSubmitted.step (.submit (.str "b"))) :=
    .step hfirst hquiet' _
  exact ⟨hidle, hsecond, single_flight hidle hsecond⟩

end DependencyAtlas.Session
