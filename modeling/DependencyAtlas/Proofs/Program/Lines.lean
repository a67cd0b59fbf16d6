import DependencyAtlas.Program.Run
import DependencyAtlas.Proofs.Session.Commands
import DependencyAtlas.Proofs.Session.Reading

namespace DependencyAtlas.Program

open Scan Session
open Act (Keeps)

def isQuit (line : String) : Bool :=
  match Command.ofLine line with
  | .ok (.quit, _) => true
  | _ => false

def heard (input : List String) : List String :=
  input.takeWhile fun line => !isQuit line

def isPath (text : String) : Bool :=
  text != "" && text.toList.head? != some ':'

def requested (lines : List String) : List Request :=
  ((lines.map Text.trimmed).filter isPath).map Request.mk

theorem requested_append (lines lines' : List String) :
    requested (lines ++ lines') = requested lines ++ requested lines' := by
  simp only [requested, List.map_append, List.filter_append]

theorem ne_submit_of_shortcut {entry : String × Command} (h : entry ∈ Command.shortcuts) :
    entry.2 ≠ .submit := by
  have hall : ∀ entry ∈ Command.shortcuts, entry.2 ≠ .submit := by decide
  exact hall entry h

theorem asks_of_ne_submit {command : Command} (h : command ≠ .submit) (argument : String) :
    command.asks argument = [] := by
  cases command with
  | submit => exact absurd rfl h
  | _ => rfl

theorem requested_line (line : String) :
    (∃ failure, Command.ofLine line = .error failure ∧ requested [line] = []) ∨
    ∃ command argument, Command.ofLine line = .ok (command, argument) ∧
      requested [line] = command.asks argument := by
  have hrequested : requested [line] =
      if isPath (Text.trimmed line) then [⟨Text.trimmed line⟩] else [] := by
    simp only [requested, List.map_cons, List.map_nil, List.filter_cons, List.filter_nil]
    split <;> rfl
  have hnone (hcolon : (Text.trimmed line).toList.head? = some ':') : isPath (Text.trimmed line) = false := by
    rw [isPath, hcolon, bne_self_eq_false, Bool.and_false]
  rw [hrequested]
  have hreads := Command.reads_ofLine line
  generalize Command.ofLine line = result at hreads
  -- A colon in front never makes a submission, and without one a line always does.
  cases hreads with
  | path hcolon =>
    refine .inr ⟨_, _, rfl, ?_⟩
    have hpath : ((Text.trimmed line).toList.head? != some ':') = true := bne_iff_ne.mpr hcolon
    rw [Command.asks, Request.ofText?, Text.trimmed_trimmed, isPath, hpath, Bool.and_true]
    by_cases hblank : Text.trimmed line = ""
    · rw [hblank]
      rfl
    · rw [if_pos (bne_iff_ne.mpr hblank), if_neg hblank]
      rfl
  | shortcut hcolon command argument hknown =>
    refine .inr ⟨_, _, rfl, ?_⟩
    rw [hnone hcolon, if_neg Bool.false_ne_true, asks_of_ne_submit (ne_submit_of_shortcut hknown)]
  | unknown hcolon hunknown =>
    refine .inl ⟨_, rfl, ?_⟩
    rw [hnone hcolon, if_neg Bool.false_ne_true]

def attempt (act : Act Viewer Unit) : Act Viewer Unit := do
  match ← act.ending with
  | .ok () => return
  | .error (.complaint c) => printComplaint c
  | .error failure => throw failure

def respond (line : String) : Act Viewer Unit := do
  match Command.ofLine line with
  | .error failure =>
    Viewer.inWorld (print ("[yellow]" ++ Console.Markup.escape failure.text ++ "[/yellow]"))
  | .ok (command, argument) =>
    if command = .select && argument = "" then
      Viewer.inWorld (print "[yellow]Usage: :select <id>[/yellow]")
    else attempt do
      let outcome ← Viewer.dispatch command argument
      report command argument outcome

def answer (line : String) : Act Viewer Unit := do
  prompt
  respond line

def proceed (next : Act Viewer Unit) : LineStep → Act Viewer Unit
  | .over => return
  | .next => next
  | .waiting w => do
    let _ ← endLine w (← Viewer.inWorld nextReply)
    next

theorem lines_cons (line : String) (rest : List String) :
    lines (line :: rest) = (do
      prompt
      proceed (lines rest) (← beginLine line)) := by
  rw [lines]
  funext _
  congr

theorem printComplaint_apply (c : Complaint) (v : Viewer) :
    printComplaint c v = (.ok (), (printComplaint c v).2) := by
  refine Prod.ext ?_ rfl
  rw [printComplaint, Viewer.inWorld, Act.within_apply]
  exact print_message c.message v.world

theorem handled_apply (act : Act Viewer LineStep) (v : Viewer) :
    handled act v =
      match act v with
      | (.ok step, w) => (.ok step, w)
      | (.error (.complaint c), w) => (.ok .next, (printComplaint c w).2)
      | (.error failure, w) => (.error failure, w) := by
  rw [handled, Act.bind_apply_ok (Act.ending_apply act v)]
  rcases act v with ⟨failure | step, w⟩
  · cases failure with
    | complaint c => exact Act.bind_apply_ok (printComplaint_apply c w)
    | _ => rfl
  · rfl

theorem attempt_apply (act : Act Viewer Unit) (v : Viewer) :
    attempt act v =
      match act v with
      | (.ok _, w) => (.ok (), w)
      | (.error (.complaint c), w) => (.ok (), (printComplaint c w).2)
      | (.error failure, w) => (.error failure, w) := by
  rw [attempt, Act.bind_apply_ok (Act.ending_apply act v)]
  rcases act v with ⟨failure | _, w⟩
  · cases failure with
    | complaint c => exact printComplaint_apply c w
    | _ => rfl
  · rfl

theorem submit_of_waiting {command : Command} {argument : String} {v u : Viewer} {w : Waiting}
    (h : Viewer.start command argument v = (.ok (.waiting w), u)) : command = .submit := by
  cases command with
  | submit => rfl
  | _ =>
    obtain ⟨_, -, hover⟩ := Act.map_eq_ok h
    cases hover

theorem report_submit (argument : String) (outcome : Outcome) :
    report .submit argument outcome = return () := by
  cases outcome <;> rfl

theorem handled_congr {act act' : Act Viewer LineStep} {v u : Viewer} (h : act v = act' u) :
    handled act v = handled act' u := by
  rw [handled_apply, handled_apply, h]

theorem attempt_congr {act act' : Act Viewer Unit} {v u : Viewer} (h : act v = act' u) :
    attempt act v = attempt act' u := by
  rw [attempt_apply, attempt_apply, h]

theorem handled_next (act : Act Viewer Unit) (v : Viewer) :
    handled (do
      act
      return .next) v = ((attempt act v).1.map fun _ => .next, (attempt act v).2) := by
  rw [handled_apply, attempt_apply, Act.bind_apply]
  rcases act v with ⟨failure | _, u⟩
  · cases failure <;> rfl
  · rfl

theorem handled_then (act : Act Viewer Unit) (next : LineStep → Act Viewer Unit) (v : Viewer) :
    (do
      next (← handled do
        act
        return .next)) v = (do
      attempt act
      next .next) v := by
  have hhandled := handled_next act v
  rcases hattempt : attempt act v with ⟨failure | _, u⟩
  · rw [hattempt] at hhandled
    rw [Act.bind_apply_error hhandled, Act.bind_apply_error hattempt]
  · rw [hattempt] at hhandled
    rw [Act.bind_apply_ok hhandled, Act.bind_apply_ok hattempt]

theorem proceed_handled (command : Command) (argument : String) (next : Act Viewer Unit) (v : Viewer) :
    (do
      proceed next (← handled do
        match ← Viewer.start command argument with
        | .over outcome =>
          report command argument outcome
          return .next
        | .waiting w => return .waiting w)) v =
    (do
      attempt do
        let outcome ← Viewer.dispatch command argument
        report command argument outcome
      next) v := by
  -- It fails at once, is over at once, or waits for a reply; only a submission waits.
  rcases hstart : Viewer.start command argument v with ⟨failure | outcome | w, u⟩
  · have hdispatch : Viewer.dispatch command argument v = (.error failure, u) :=
      Act.bind_apply_error hstart
    rw [Act.bind_apply, handled_apply, Act.bind_apply_error hstart, Act.bind_apply, attempt_apply,
      Act.bind_apply_error hdispatch]
    cases failure <;> rfl
  · have hdispatch : Viewer.dispatch command argument v = (.ok outcome, u) := Act.bind_apply_ok hstart
    have hreported := handled_then (report command argument outcome) (proceed next) u
    refine (Act.bind_congr (handled_congr (Act.bind_apply_ok hstart)) _).trans (hreported.trans ?_)
    exact (Act.bind_congr (attempt_congr (Act.bind_apply_ok hdispatch)) _).symm
  · obtain rfl := submit_of_waiting hstart
    obtain ⟨reply, t, hnext⟩ := Viewer.nextReply_apply u
    have hdispatch : Viewer.dispatch .submit argument v = Viewer.resume w reply t :=
      (Act.bind_apply_ok hstart).trans (Act.bind_apply_ok hnext)
    have hbegun : handled (do
        match ← Viewer.start .submit argument with
        | .over outcome =>
          report .submit argument outcome
          return .next
        | .waiting w => return .waiting w) v = (.ok (.waiting w), u) := by
      rw [handled_apply, Act.bind_apply_ok hstart]
      rfl
    have hended := handled_then (do let _ ← Viewer.resume w reply) (fun _ => next) t
    rw [Act.bind_apply_ok hbegun, proceed, Act.bind_apply_ok hnext, endLine]
    simp only [bind_assoc, pure_bind] at hended
    refine hended.trans (Act.bind_congr (attempt_congr ?_) _).symm
    simp only [report_submit]
    exact Act.bind_congr hdispatch _

theorem proceed_beginLine {line : String} (h : isQuit line = false) (next : Act Viewer Unit) :
    (do proceed next (← beginLine line)) = (do
      respond line
      next) := by
  rw [isQuit] at h
  rcases hline : Command.ofLine line with failure | ⟨command, argument⟩
  · simp only [beginLine, respond, hline, bind_assoc, pure_bind, proceed]
  · have hquit : command ≠ .quit := by
      rintro rfl
      rw [hline] at h
      cases h
    simp only [beginLine, respond, hline, if_neg hquit]
    split
    · simp only [bind_assoc, pure_bind, proceed]
    · exact funext (proceed_handled command argument next)

theorem lines_of_heard {line : String} (h : isQuit line = false) (rest : List String) :
    lines (line :: rest) = (do
      answer line
      lines rest) := by
  rw [lines_cons, proceed_beginLine h, answer, bind_assoc]

theorem lines_of_quit {line : String} (h : isQuit line = true) (rest : List String) :
    lines (line :: rest) = prompt := by
  rw [isQuit] at h
  rcases hline : Command.ofLine line with failure | ⟨command, argument⟩
  · rw [hline] at h
    cases h
  · have hquit : command = .quit := by
      rw [hline] at h
      cases command <;> first | rfl | cases h
    simp only [lines_cons, beginLine, hline, if_pos hquit, pure_bind, proceed]
    exact bind_pure_unit

theorem lines_eq (input : List String) :
    lines input = (do
      forM (heard input) answer
      prompt) := by
  induction input with
  | nil => rfl
  | cons line rest ih =>
    cases h : isQuit line with
    | true =>
      have hnone : heard (line :: rest) = [] := by
        rw [heard, List.takeWhile_cons_of_neg (by simp [h])]
      rw [lines_of_quit h, hnone]
      rfl
    | false =>
      have hcons : heard (line :: rest) = line :: heard rest := by
        rw [heard, List.takeWhile_cons_of_pos (by simp [h])]
        rfl
      rw [lines_of_heard h, ih, hcons, List.forM_cons, bind_assoc]

theorem quiet_of_keeps {α : Type} {act : Act Viewer α} (h : Keeps Viewer.scenery act) :
    Keeps Viewer.Quiet act := fun v =>
  propext ⟨Viewer.quiet_of_scenery (h v).symm, Viewer.quiet_of_scenery (h v)⟩

theorem write_keeps_quiet (markup ending : String) :
    Keeps Viewer.Quiet (Viewer.inWorld (write markup ending)) :=
  quiet_of_keeps (Viewer.inWorld_keeps_scenery (write_keeps (fun _ _ => rfl) markup ending))

theorem report_keeps_quiet (command : Command) (argument : String) (outcome : Outcome) :
    Keeps Viewer.Quiet (report command argument outcome) := by
  rw [report]
  split
  · exact write_keeps_quiet _ _
  · exact Keeps.pure _

theorem attempt_quiet (act : Act Viewer Unit) (v : Viewer) :
    (attempt act v).2.Quiet = (act v).2.Quiet := by
  have hrest (result : Except Failure Unit) : Keeps Viewer.Quiet (match result with
      | .ok () => return
      | .error (.complaint c) => printComplaint c
      | .error failure => throw failure) := by
    split
    · exact Keeps.pure _
    · exact write_keeps_quiet _ _
    · exact Keeps.throw _
  exact Keeps.bind_right hrest v

theorem report?_renders {command : Command} {argument : String} {outcome : Outcome} {markup : String}
    (h : report? command argument outcome = some markup)
    (hpath : command.exports = true → ∀ path, outcome = .path path →
      ∃ text, Console.Markup.render ("[green]Exported to: " ++ path.text ++ "[/green]") = .ok text) :
    ∃ text, Console.Markup.render markup = .ok text := by
  rw [report?.eq_def] at h
  split at h
  · next path hexports =>
    obtain rfl := Option.some.inj h
    exact hpath hexports path rfl
  · obtain rfl := Option.some.inj h
    exact ⟨_, rfl⟩
  · split at h
    · obtain rfl := Option.some.inj h
      exact Console.Markup.render_noElement argument
    · cases h
  · cases h

end DependencyAtlas.Program

namespace DependencyAtlas.Session

open Program Scan
open Act (Keeps)

structure Viewer.Admits (v : Viewer) (line : String) : Prop where
  favours : ∀ command argument, Command.ofLine line = .ok (command, argument) →
    v.Favours command argument
  prints : ∀ command argument path u, Command.ofLine line = .ok (command, argument) →
    command.exports = true → Viewer.dispatch command argument v = (.ok (.path path), u) →
    ∃ text, Console.Markup.render ("[green]Exported to: " ++ path.text ++ "[/green]") = .ok text

namespace Settled

variable {start v : Viewer} {asked : List Request} (h : Settled start asked v)

section

include h

theorem write {markup : String} (hrender : ∃ text, Console.Markup.render markup = .ok text)
    (ending : String) :
    ∃ u, Viewer.inWorld (write markup ending) v = (.ok (), u) ∧ Settled start asked u := by
  obtain ⟨text, htext⟩ := hrender
  have hwritten : Viewer.inWorld (Session.write markup ending) v =
      (.ok (), v.setWorld { v.world with printed := v.world.printed ++ [text ++ ending] }) := by
    rw [Viewer.inWorld, Act.within_apply, write_of_text htext]
  exact ⟨_, hwritten, h.of_standing rfl (h.staged.printed _)⟩

theorem prompt : ∃ u, prompt v = (.ok (), u) ∧ Settled start asked u :=
  h.write ⟨_, rfl⟩ ""

theorem report {command : Command} {argument : String} {outcome : Outcome}
    (hpath : command.exports = true → ∀ path, outcome = .path path →
      ∃ text, Console.Markup.render ("[green]Exported to: " ++ path.text ++ "[/green]") = .ok text) :
    ∃ u, report command argument outcome v = (.ok (), u) ∧ Settled start asked u := by
  rw [Program.report]
  cases hreport : report? command argument outcome with
  | none => exact ⟨v, rfl, h⟩
  | some markup => exact h.write (report?_renders hreport hpath) "\n"

end

theorem attempt {act : Act Viewer Unit} (h : Recovers (Settled start asked) (act v)) :
    ∃ u, attempt act v = (.ok (), u) ∧ Settled start asked u := by
  rw [attempt_apply]
  rcases hact : act v with ⟨failure | _, w⟩
  · rw [hact] at h
    obtain ⟨c, rfl⟩ := h.complains failure rfl
    obtain ⟨u, hprint, hsettled⟩ := h.leaves.write c.message.render_markup "\n"
    have hprint : printComplaint c w = (.ok (), u) := hprint
    dsimp only
    rw [hprint]
    exact ⟨u, rfl, hsettled⟩
  · rw [hact] at h
    exact ⟨w, rfl, h.leaves⟩

include h

theorem respond (hquiet : v.Quiet) {line : String} (hquit : isQuit line = false)
    (hadmits : v.Admits line) (hafter : (respond line v).2.Quiet) :
    ∃ u, respond line v = (.ok (), u) ∧ Settled start (asked ++ requested [line]) u := by
  rw [Program.respond] at hafter ⊢
  rcases requested_line line with ⟨failure, hline, hnone⟩ | ⟨command, argument, hline, hasks⟩
  · rw [hline, hnone, List.append_nil]
    exact h.write (Console.Markup.render_warning _) "\n"
  rw [hline] at hafter ⊢
  rw [hasks]
  have hcommand : command ≠ .quit := by
    rintro rfl
    rw [isQuit, hline] at hquit
    cases hquit
  dsimp only at hafter ⊢
  split at hafter
  · next husage =>
    obtain ⟨hselect, -⟩ := Bool.and_eq_true_iff.mp husage
    have hsubmit : command ≠ .submit := by
      rw [of_decide_eq_true hselect]
      nofun
    rw [if_pos husage, asks_of_ne_submit hsubmit, List.append_nil]
    exact h.write ⟨_, rfl⟩ "\n"
  · next husage =>
    rw [if_neg husage]
    rw [attempt_quiet, Keeps.bind_right (report_keeps_quiet command argument)] at hafter
    apply attempt
    have hdone := h.dispatch hquiet hcommand (hadmits.favours _ _ hline) hafter
    refine hdone.bind fun outcome w hdispatch hsettled => ?_
    have hpath (hexports : command.exports = true) (path : Files.Path) (houtcome : outcome = .path path) :
        ∃ text, Console.Markup.render ("[green]Exported to: " ++ path.text ++ "[/green]") = .ok text :=
      hadmits.prints _ _ path w hline hexports (houtcome ▸ hdispatch)
    obtain ⟨u, hreport, hu⟩ := @report _ _ _ hsettled command argument outcome hpath
    rw [hreport]
    exact .ok _ hu

theorem answer (hquiet : v.Quiet) {line : String} (hquit : isQuit line = false)
    (hadmits : (Program.prompt v).2.Admits line) (hafter : (answer line v).2.Quiet) :
    ∃ u, answer line v = (.ok (), u) ∧ Settled start (asked ++ requested [line]) u := by
  obtain ⟨w, hprompt, hsettled⟩ := h.prompt
  have hstill : w.Quiet := by
    have hkept := write_keeps_quiet "[bold]>[/bold] (): " "" v
    rw [show Viewer.inWorld (Session.write "[bold]>[/bold] (): " "") v = _ from hprompt] at hkept
    exact hkept.mpr hquiet
  rw [hprompt] at hadmits
  rw [Program.answer, Act.bind_apply_ok hprompt] at hafter ⊢
  exact hsettled.respond hstill hquit hadmits hafter

end Settled

end DependencyAtlas.Session
