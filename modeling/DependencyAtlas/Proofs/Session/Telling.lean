import DependencyAtlas.Proofs.Session.Hearing
import DependencyAtlas.Proofs.Session.SingleFlight

/-!
What a user is told. One spinner listens to the status from the start. It turns exactly while a submission is
pending, and a submission that ends with a message has it printed once, after the spinner has stopped; no
other submission prints anything.
-/

namespace DependencyAtlas.Session

open Scan
open Console (Event Spinner)
open Viewer (Hears Tells Concludes)

structure Viewer.Attended (v : Viewer) : Prop where
  spinner : v.board.listeners = [⟨v.board.notice.loading⟩]
  wordless : v.board.notice.loading = true → v.message = none

structure Shows (v : Viewer) (events : List Event) (lines : List String) (w : Viewer) : Prop where
  heard : ∃ s notices, Hears s v notices w ∧ (s.watch notices).2 = events
  printed : w.world.printed = v.world.printed ++ lines

theorem Viewer.Tells.shows {s : Spinner} {v w : Viewer} {notices : List (Notice Bool)}
    (h : Tells s v notices w) {events : List Event} (hevents : (s.watch notices).2 = events) :
    Shows v events (events.flatMap Event.lines) w :=
  ⟨⟨s, notices, h.toHears, hevents⟩, hevents ▸ h.printed⟩

structure EndsShowing {α : Type} (v : Viewer) (ended : Except Failure (Option α) × Viewer) : Prop where
  message_iff : ended.1 = .ok none ↔ ended.2.message ≠ none
  told : ∀ m, ended.2.message = some m → ∃ text, Console.Markup.render m.markup = .ok text ∧
    Shows v [.stop, .print m] [text ++ "\n"] ended.2
  untold : ended.2.message = none → Shows v [.stop] [] ended.2

theorem Viewer.Concludes.endsShowing {α : Type} {v : Viewer}
    {ended : Except Failure (Option α) × Viewer} (h : Concludes v ended) (hquiet : ended.2.Quiet) :
    EndsShowing v ended := by
  cases h with
  | @told w m h =>
    have hmessage : w.message = some m := @Hears.message _ _ _ [_] _ h.toHears
    refine ⟨iff_of_true rfl (hmessage ▸ nofun), fun m' hm' => ?_, fun hnone => ?_⟩
    · obtain rfl := Option.some.inj (hmessage.symm.trans hm')
      obtain ⟨text, htext⟩ := m.render_markup
      refine ⟨text, htext, ?_⟩
      rw [← Message.lines_eq htext, ← List.append_nil m.lines]
      exact h.shows rfl
    · cases hmessage.symm.trans hnone
  | @untold result w hresult h htells =>
    have hmessage : w.message = none := @Hears.message _ _ _ [] _ h
    refine ⟨iff_of_false hresult (not_not_intro hmessage), fun m hm => ?_, fun _ => ?_⟩
    · cases hmessage.symm.trans hm
    · exact (htells hquiet).shows rfl

namespace Desk

open Viewer (Idle Busy)

section

variable {d : Desk} (hm : d.Marked)

include hm

theorem pending_isEmpty : d.pending.isEmpty = !d.viewer.board.notice.loading := by
  rcases pending_of_marked hm with ⟨hidle, hnone⟩ | ⟨hbusy, s, hs⟩
  · rw [hidle.2, hnone]
    rfl
  · rw [hbusy.2, hs]
    rfl

variable (ha : d.viewer.Attended)

include ha

theorem attended_pending {i : Nat} {s : Submission} (hi : d.submissions[i]? = some s)
    (hs : s.isPending = true) :
    d.viewer.board.listeners = [⟨true⟩] ∧ d.viewer.board.notice = ⟨true, none⟩ := by
  obtain ⟨hbusy, -⟩ := marked_pending hm hi hs
  have hmessage := ha.wordless hbusy.2
  constructor
  · rw [ha.spinner, hbusy.2]
  · rw [← hbusy.2, ← hmessage]
    rfl

theorem submit_tells (hquiet : d.viewer.Quiet) (path : Value) :
    d.step (.submit path) = d ∨
      ∃ request v notices, d.step (.submit path) = ⟨v, d.submissions ++ [⟨request, .accepted⟩]⟩ ∧
        Tells ⟨false⟩ d.viewer notices v ∧ (Spinner.watch ⟨false⟩ notices).2 = [.start] ∧
        v.message = none := by
  rcases hpath : Request.ofValue path with failure | request
  · rcases accept_cases hquiet path with ⟨result, haccept, hresult⟩ | ⟨request, w, haccept, -⟩
    · exact .inl (step_submit_passed haccept hresult)
    · rw [Viewer.accept, hpath] at haccept
      cases failure <;> cases haccept
  · rcases pending_of_marked hm with ⟨⟨hflight, hloading⟩, -⟩ | ⟨⟨hflight, -⟩, -⟩
    · right
      have hs : d.viewer.board.listeners = [⟨false⟩] := hloading ▸ ha.spinner
      obtain ⟨notices, htells, hevents⟩ := Viewer.started_tells hs hloading
      refine ⟨request, d.viewer.started, notices, ?_, htells, hevents, Viewer.started_message _⟩
      rw [step, Viewer.accept_started hpath hflight]
    · exact .inl (step_submit_passed (Viewer.accept_running hpath hflight hquiet) (by rintro _ ⟨⟩))

theorem launch_tells (hquiet : d.viewer.Quiet) {i : Nat} {request : Request}
    (hi : d.submissions[i]? = some ⟨request, .accepted⟩) :
    (∃ waiting v, d.step (.launch i) = ⟨v, d.submissions.set i ⟨request, .waiting waiting⟩⟩ ∧
      v.display = d.viewer.display) ∨
    (Concludes d.viewer (Viewer.launch request d.viewer) ∧ d.step (.launch i) =
      ⟨(Viewer.launch request d.viewer).2, d.submissions.set i ⟨request, .unsent⟩⟩) := by
  obtain ⟨hs, hnotice⟩ := attended_pending hm ha hi rfl
  rcases Viewer.launch_tells hquiet hs hnotice request with
    ⟨waiting, v, hlaunch, hdisplay⟩ | ⟨hconcludes, hunsent⟩
  · exact .inl ⟨waiting, v, step_launch hi hlaunch, hdisplay⟩
  · exact .inr ⟨hconcludes, step_launch_failed hi rfl hunsent⟩

theorem answer_tells {i : Nat} {request : Request} {waiting : Waiting}
    (hi : d.submissions[i]? = some ⟨request, .waiting waiting⟩) (reply : Reply) :
    Concludes d.viewer (Viewer.receive waiting reply d.viewer) := by
  obtain ⟨hs, hnotice⟩ := attended_pending hm ha hi rfl
  exact Viewer.receive_tells hs hnotice waiting reply

theorem step_hears (hquiet : d.viewer.Quiet) (event : Happening) :
    ∃ notices, Hears ⟨d.viewer.board.notice.loading⟩ d.viewer notices (d.step event).viewer ∧
      ((d.step event).viewer.board.notice.loading = true → (d.step event).viewer.message = none) := by
  -- A step either tells nothing or ends a submission, for which the spinner was turning.
  have hstill {e : Desk} (houtlook : e.viewer.outlook = d.viewer.outlook) :
      ∃ notices, Hears ⟨d.viewer.board.notice.loading⟩ d.viewer notices e.viewer ∧
        (e.viewer.board.notice.loading = true → e.viewer.message = none) := by
    have hboard : e.viewer.board = d.viewer.board := congrArg Prod.fst houtlook
    refine ⟨[], .none ha.spinner houtlook, ?_⟩
    rw [Viewer.message, hboard]
    exact ha.wordless
  have hends {α : Type} {ended : Except Failure (Option α) × Viewer} (h : Concludes d.viewer ended)
      (hs : d.viewer.board.listeners = [⟨true⟩]) :
      ∃ notices, Hears ⟨d.viewer.board.notice.loading⟩ d.viewer notices ended.2 ∧
        (ended.2.board.notice.loading = true → ended.2.message = none) := by
    rw [← List.singleton_inj.mp (hs.symm.trans ha.spinner)]
    cases h with
    | told m h => exact ⟨_, h.toHears, fun hloading => by rw [h.notice] at hloading; cases hloading⟩
    | untold _ h => exact ⟨_, h, fun hloading => by rw [h.notice] at hloading; cases hloading⟩
  cases event with
  | submit path =>
    rcases submit_tells hm ha hquiet path with hstep | ⟨_, v, notices, hstep, htells, -, hmessage⟩
    · rw [hstep]
      exact hstill rfl
    · rw [hstep, ← List.singleton_inj.mp (htells.before.symm.trans ha.spinner)]
      exact ⟨notices, htells.toHears, fun _ => hmessage⟩
  | launch i =>
    by_cases hi : ∃ request, d.submissions[i]? = some ⟨request, .accepted⟩
    · obtain ⟨request, hi⟩ := hi
      rcases launch_tells hm ha hquiet hi with ⟨_, v, hstep, hdisplay⟩ | ⟨hconcludes, hstep⟩
      · rw [hstep]
        exact hstill (congrArg Prod.fst hdisplay)
      · rw [hstep]
        exact hends hconcludes (attended_pending hm ha hi rfl).1
    · rw [step_launch_other fun request h => hi ⟨request, h⟩]
      exact hstill rfl
  | answer i reply =>
    by_cases hi : ∃ request waiting, d.submissions[i]? = some ⟨request, .waiting waiting⟩
    · obtain ⟨request, waiting, hi⟩ := hi
      rw [step_answer hi]
      exact hends (answer_tells hm ha hi reply) (attended_pending hm ha hi rfl).1
    · rw [step_answer_other fun request waiting h => hi ⟨request, waiting, h⟩]
      exact hstill rfl
  | relayout => exact hstill rfl
  | tap id => exact hstill rfl
  | release => exact hstill rfl
  | outside w => exact hstill rfl

end

end Desk

theorem reaches_hears {start : Viewer} {d : Desk} (hidle : start.Idle)
    (hs : start.board.listeners = [⟨false⟩]) (h : Reaches start d) :
    (∃ notices, Hears ⟨false⟩ start notices d.viewer) ∧ d.viewer.Attended := by
  induction h with
  | start =>
    refine ⟨⟨[], .none hs rfl⟩, ?_, fun hloading => ?_⟩
    · rw [hidle.2]
      exact hs
    · cases hidle.2.symm.trans hloading
  | @step d h hquiet event ih =>
    obtain ⟨⟨earlier, hearlier⟩, ha⟩ := ih
    obtain ⟨notices, hears, hwordless⟩ := Desk.step_hears (reaches_keeps hidle h).1 ha hquiet event
    have hspinner : (⟨d.viewer.board.notice.loading⟩ : Spinner) = (Spinner.watch ⟨false⟩ earlier).1 :=
      List.singleton_inj.mp (ha.spinner.symm.trans hearlier.after)
    have hturning := Spinner.watch_turning (s := ⟨d.viewer.board.notice.loading⟩) rfl notices
    refine ⟨⟨earlier ++ notices, hearlier.trans (hspinner ▸ hears)⟩, ?_, hwordless⟩
    rw [hears.after, hears.notice, ← hturning]

def Happening.submits : Happening → Bool
  | .submit _ | .launch _ | .answer .. => true
  | .relayout | .tap _ | .release | .outside _ => false

def Desk.said (d : Desk) (event : Happening) : Option Message :=
  if !d.pending.isEmpty && (d.step event).pending.isEmpty then (d.step event).viewer.message else none

inductive Converses (d : Desk) : List Message → Desk → Prop
  | start : Converses d [] d
  | step {messages : List Message} {e : Desk} (h : Converses d messages e) (event : Happening)
    (hsubmits : event.submits = true) (quiet : e.viewer.Quiet) (after : (e.step event).viewer.Quiet) :
    Converses d (messages ++ (e.said event).toList) (e.step event)

theorem Converses.reaches {start : Viewer} {d e : Desk} {messages : List Message}
    (h : Converses d messages e) (hd : Reaches start d) : Reaches start e := by
  induction h with
  | start => exact hd
  | step h event hsubmits quiet after ih => exact .step ih quiet event

namespace Desk

variable {d : Desk}

variable (hm : d.Marked) {event : Happening} (hmarked : (d.step event).Marked)

include hm hmarked

theorem said_eq : d.said event =
    if d.viewer.board.notice.loading && !(d.step event).viewer.board.notice.loading
    then (d.step event).viewer.message else none := by
  rw [said, pending_isEmpty hm, pending_isEmpty hmarked, Bool.not_not]

variable (hafter : (d.step event).viewer.Quiet)

include hafter

theorem prints_of_ends {α : Type} {ended : Except Failure (Option α) × Viewer}
    (h : Concludes d.viewer ended) (hstep : (d.step event).viewer = ended.2)
    (hloading : d.viewer.board.notice.loading = true) :
    (d.step event).viewer.world.printed =
      d.viewer.world.printed ++ (d.said event).toList.flatMap Message.lines := by
  have hends := h.endsShowing (hstep ▸ hafter)
  have hidle : ended.2.board.notice.loading = false := by
    cases h with
    | told m h => rw [h.notice]; rfl
    | untold _ h => rw [h.notice]; rfl
  rw [said_eq hm hmarked, hstep, hloading, hidle, if_pos (show (true && !false) = true from rfl)]
  cases hmessage : ended.2.message with
  | none => exact (hends.untold hmessage).printed
  | some m =>
    obtain ⟨text, htext, hshows⟩ := hends.told m hmessage
    rw [hshows.printed, Option.toList_some, List.flatMap_singleton, Message.lines_eq htext]

theorem step_prints (ha : d.viewer.Attended) (hquiet : d.viewer.Quiet) (hsubmits : event.submits = true) :
    (d.step event).viewer.world.printed =
      d.viewer.world.printed ++ (d.said event).toList.flatMap Message.lines := by
  have hstill (hprinted : (d.step event).viewer.world.printed = d.viewer.world.printed)
      (hloading : d.viewer.board.notice.loading = true →
        (d.step event).viewer.board.notice.loading = true) :
      (d.step event).viewer.world.printed =
        d.viewer.world.printed ++ (d.said event).toList.flatMap Message.lines := by
    rw [hprinted, said_eq hm hmarked, if_neg]
    · exact (List.append_nil _).symm
    · intro h
      rw [Bool.and_eq_true, Bool.not_eq_true'] at h
      exact Bool.false_ne_true (h.2.symm.trans (hloading h.1))
  cases event with
  | submit path =>
    rcases submit_tells hm ha hquiet path with hstep | ⟨_, v, notices, hstep, htells, hevents, -⟩
    · apply hstill
      · rw [hstep]
      · rw [hstep]
        exact id
    · have hidle := List.singleton_inj.mp (htells.before.symm.trans ha.spinner)
      apply hstill
      · rw [hstep, htells.printed, hevents]
        exact List.append_nil _
      · intro hloading
        rw [hloading] at hidle
        cases hidle
  | launch i =>
    by_cases hi : ∃ request, d.submissions[i]? = some ⟨request, .accepted⟩
    · obtain ⟨request, hi⟩ := hi
      rcases launch_tells hm ha hquiet hi with ⟨_, v, hstep, hdisplay⟩ | ⟨hconcludes, hstep⟩
      · have hboard : v.board = d.viewer.board := congrArg (·.1.1) hdisplay
        apply hstill
        · rw [hstep]
          exact congrArg Prod.snd hdisplay
        · rw [hstep, hboard]
          exact id
      · exact prints_of_ends hm hmarked hafter hconcludes (by rw [hstep]) (marked_pending hm hi rfl).1.2
    · have hstep := step_launch_other fun request h => hi ⟨request, h⟩
      apply hstill
      · rw [hstep]
      · rw [hstep]
        exact id
  | answer i reply =>
    by_cases hi : ∃ request waiting, d.submissions[i]? = some ⟨request, .waiting waiting⟩
    · obtain ⟨request, waiting, hi⟩ := hi
      exact prints_of_ends hm hmarked hafter (answer_tells hm ha hi reply)
        (by rw [step_answer hi]) (marked_pending hm hi rfl).1.2
    · have hstep := step_answer_other (fun request waiting h => hi ⟨request, waiting, h⟩) reply
      apply hstill
      · rw [hstep]
      · rw [hstep]
        exact id
  | relayout => cases hsubmits
  | tap id => cases hsubmits
  | release => cases hsubmits
  | outside w => cases hsubmits

end Desk

theorem Converses.printed {start : Viewer} {d e : Desk} {messages : List Message} (hidle : start.Idle)
    (hs : start.board.listeners = [⟨false⟩]) (hd : Reaches start d) (h : Converses d messages e) :
    e.viewer.world.printed = d.viewer.world.printed ++ messages.flatMap Message.lines := by
  induction h with
  | start => exact (List.append_nil _).symm
  | @step messages e h event hsubmits quiet after ih =>
    have hreached := h.reaches hd
    have hprints := Desk.step_prints (reaches_keeps hidle hreached).1
      (reaches_keeps hidle (hreached.step quiet event)).1 after (reaches_hears hidle hs hreached).2
      quiet hsubmits
    rw [hprints, ih, List.flatMap_append, List.append_assoc]

structure ToldOnce (start : Viewer) (d : Desk) : Prop where
  listening : ∃ notices, Hears ⟨false⟩ start notices d.viewer ∧
    (∀ before, before <+: notices →
      (Spinner.watch ⟨false⟩ before).1.turning = (before.getLastD start.board.notice).loading) ∧
    List.IsChain (· ≠ ·) (.stop :: (Spinner.watch ⟨false⟩ notices).2.filter Event.isTurn)
  turning : d.viewer.board.listeners = [⟨!d.pending.isEmpty⟩]
  submitted : ∀ path, d.viewer.Quiet → d.step (.submit path) = d ∨
    ∃ request v, d.step (.submit path) = ⟨v, d.submissions ++ [⟨request, .accepted⟩]⟩ ∧
      Shows d.viewer [.start] [] v
  launched : ∀ i request, d.viewer.Quiet → (d.step (.launch i)).viewer.Quiet →
    d.submissions[i]? = some ⟨request, .accepted⟩ →
    (∃ waiting v, d.step (.launch i) = ⟨v, d.submissions.set i ⟨request, .waiting waiting⟩⟩ ∧
      Shows d.viewer [] [] v) ∨
    (d.step (.launch i) =
        ⟨(Viewer.launch request d.viewer).2, d.submissions.set i ⟨request, .unsent⟩⟩ ∧
      EndsShowing d.viewer (Viewer.launch request d.viewer))
  answered : ∀ i request waiting reply, (d.step (.answer i reply)).viewer.Quiet →
    d.submissions[i]? = some ⟨request, .waiting waiting⟩ →
    d.step (.answer i reply) =
        ⟨(Viewer.receive waiting reply d.viewer).2, d.submissions.set i ⟨request, .answered⟩⟩ ∧
      EndsShowing d.viewer (Viewer.receive waiting reply d.viewer)
  in_all : ∀ messages e, Converses d messages e →
    e.viewer.world.printed = d.viewer.world.printed ++ messages.flatMap Message.lines

/-- The spinner turns exactly while a submission is pending, by starts and stops that take turns. A submission
that ends with a message has the message printed once, after the spinner has stopped; all else that is a part
of a submission prints nothing. -/
theorem told_once {start : Viewer} {d : Desk} (hidle : start.Idle)
    (hs : start.board.listeners = [⟨false⟩]) (h : Reaches start d) : ToldOnce start d := by
  have hm := (reaches_keeps hidle h).1
  obtain ⟨⟨notices, hears⟩, ha⟩ := reaches_hears hidle hs h
  refine {
    listening := ⟨notices, hears, ?_, Spinner.watch_alternates ⟨false⟩ notices⟩
    turning := ?_
    submitted := fun path hquiet => ?_
    launched := fun i request hquiet hafter hi => ?_
    answered := fun i request waiting reply hafter hi => ⟨Desk.step_answer hi reply, ?_⟩
    in_all := fun messages e => Converses.printed hidle hs h }
  · exact fun before _ => Spinner.watch_turning hidle.2.symm before
  · rw [ha.spinner, Desk.pending_isEmpty hm, Bool.not_not]
  · rcases Desk.submit_tells hm ha hquiet path with hstep | ⟨request, v, _, hstep, htells, hevents, -⟩
    · exact .inl hstep
    · exact .inr ⟨request, v, hstep, htells.shows hevents⟩
  · rcases Desk.launch_tells hm ha hquiet hi with ⟨waiting, v, hstep, hdisplay⟩ | ⟨hconcludes, hstep⟩
    · obtain ⟨houtlook, hprinted⟩ := Prod.ext_iff.mp hdisplay
      have hears : Hears ⟨d.viewer.board.notice.loading⟩ d.viewer [] v := .none ha.spinner houtlook
      exact .inl ⟨waiting, v, hstep, ⟨_, _, hears, rfl⟩, hprinted.trans (List.append_nil _).symm⟩
    · rw [hstep] at hafter
      exact .inr ⟨hstep, hconcludes.endsShowing hafter⟩
  · rw [Desk.step_answer hi] at hafter
    exact (Desk.answer_tells hm ha hi reply).endsShowing hafter

theorem told_once_overlapping :
    newViewer.Idle ∧ newViewer.board.listeners = [⟨false⟩] ∧
      Reaches newViewer (firstSubmitted.step (.submit (.str "b"))) ∧
      ToldOnce newViewer (firstSubmitted.step (.submit (.str "b"))) := by
  have hidle : newViewer.Idle := ⟨rfl, rfl⟩
  have hquiet : newViewer.Quiet := rfl
  have hfirst : Reaches newViewer firstSubmitted := .step .start hquiet _
  have hquiet' : firstSubmitted.viewer.Quiet := rfl
  have hsecond : Reaches newViewer (firstSubmitted.step (.submit (.str "b"))) :=
    .step hfirst hquiet' _
  exact ⟨hidle, rfl, hsecond, told_once hidle rfl hsecond⟩

end DependencyAtlas.Session
