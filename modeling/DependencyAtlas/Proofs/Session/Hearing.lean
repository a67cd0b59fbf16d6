import DependencyAtlas.Proofs.Console.Spinning
import DependencyAtlas.Proofs.Session.Submitting

namespace DependencyAtlas.Session

open Scan Stage
open Console (Event Spinner)
open Act (Keeps)

theorem draw_keeps_printed (figure : Drawing.Figure Float) :
    Keeps World.printed (canvas.draw figure) :=
  draw_keeps (fun _ _ => rfl) (fun _ _ => rfl) (fun _ _ => rfl) (fun _ _ => rfl) figure

theorem clear_keeps_printed : Keeps World.printed canvas.clear :=
  clear_keeps fun _ _ => rfl

namespace Viewer

def outlook (v : Viewer) : Board Bool Spinner × List (Notice Bool) :=
  (v.board, v.changes)

def display (v : Viewer) : (Board Bool Spinner × List (Notice Bool)) × List String :=
  (v.outlook, v.world.printed)

theorem inStudio_keeps_display {α : Type} {act : Act (Studio World Unit) α}
    (h : Keeps (fun s => s.outside.printed) act) : Keeps display (inStudio act) :=
  fun v => Prod.ext rfl (h v.studio)

theorem release_keeps_display : Keeps display release :=
  inStudio_keeps_display (Studio.release_keeps clear_keeps_printed)

theorem render_keeps_display (g : Graph) : Keeps display (render g) :=
  inStudio_keeps_display (Studio.render_keeps draw_keeps_printed clear_keeps_printed g)

theorem present_keeps_display (g : Graph) : Keeps display (present g) := by
  apply Keeps.ite (Keeps.throw _)
  exact Keeps.bind (render_keeps_display g) fun _ => Keeps.pure _

structure Hears (s : Spinner) (v : Viewer) (notices : List (Notice Bool)) (w : Viewer) : Prop where
  before : v.board.listeners = [s]
  after : w.board.listeners = [(s.watch notices).1]
  notice : w.board.notice = notices.getLastD v.board.notice
  changes : w.changes = v.changes ++ notices

structure Tells (s : Spinner) (v : Viewer) (notices : List (Notice Bool)) (w : Viewer) : Prop
    extends Hears s v notices w where
  printed : w.world.printed = v.world.printed ++ (s.watch notices).2.flatMap Event.lines

section

variable {s : Spinner} {u v w : Viewer} {earlier later notices : List (Notice Bool)}

theorem Hears.none (hs : v.board.listeners = [s]) (h : w.outlook = v.outlook) : Hears s v [] w := by
  obtain ⟨hboard, hchanges⟩ := Prod.ext_iff.mp h
  exact ⟨hs, (congrArg Board.listeners hboard).trans hs, congrArg Board.notice hboard,
    hchanges.trans (List.append_nil _).symm⟩

theorem Hears.trans (h : Hears s v earlier u) (h' : Hears (s.watch earlier).1 u later w) :
    Hears s v (earlier ++ later) w where
  before := h.before
  after := by
    rw [Spinner.watch_append]
    exact h'.after
  notice := by
    rw [h'.notice, h.notice]
    rcases List.eq_nil_or_concat later with rfl | ⟨rest, n, rfl⟩
    · rw [List.append_nil]
      rfl
    · rw [List.concat_eq_append, ← List.append_assoc, List.getLastD_concat, List.getLastD_concat]
  changes := by rw [h'.changes, h.changes, List.append_assoc]

theorem Hears.of_outlook (h : Hears s v notices w) (hu : u.outlook = w.outlook) :
    Hears s v notices u := by
  obtain ⟨hboard, hchanges⟩ := Prod.ext_iff.mp hu
  exact ⟨h.before, (congrArg Board.listeners hboard).trans h.after,
    (congrArg Board.notice hboard).trans h.notice, hchanges.trans h.changes⟩

theorem Hears.from_outlook (h : Hears s v notices w) (hu : u.outlook = v.outlook) :
    Hears s u notices w := by
  obtain ⟨hboard, hchanges⟩ := Prod.ext_iff.mp hu
  refine ⟨(congrArg Board.listeners hboard).trans h.before, h.after, ?_, ?_⟩
  · rw [show u.board = v.board from hboard]
    exact h.notice
  · rw [show u.changes = v.changes from hchanges]
    exact h.changes

theorem Hears.message {n : Notice Bool} (h : Hears s v (notices ++ [n]) w) : w.message = n.message := by
  rw [Viewer.message, h.notice, List.getLastD_concat]

theorem Tells.trans (h : Tells s v earlier u) (h' : Tells (s.watch earlier).1 u later w) :
    Tells s v (earlier ++ later) w where
  toHears := h.toHears.trans h'.toHears
  printed := by
    rw [h'.printed, h.printed, Spinner.watch_append, List.flatMap_append, List.append_assoc]

theorem Tells.from_display (h : Tells s v notices w) (hu : u.display = v.display) :
    Tells s u notices w := by
  obtain ⟨houtlook, hprinted⟩ := Prod.ext_iff.mp hu
  refine ⟨h.toHears.from_outlook houtlook, ?_⟩
  rw [show u.world.printed = v.world.printed from hprinted]
  exact h.printed

end

theorem showEvent_printed (event : Event) (v : Viewer) :
    (showEvent event v).2.world.printed = v.world.printed ++ event.lines := by
  cases event with
  | print m =>
    obtain ⟨text, htext⟩ := m.render_markup
    rw [showEvent, inWorld, Act.within_apply, print, write_of_text htext, Event.lines, Message.lines_eq htext]
    rfl
  | start => exact (List.append_nil _).symm
  | stop => exact (List.append_nil _).symm

theorem showEvents_printed (events : List Event) (v : Viewer) :
    (showEvents events v).2.world.printed = v.world.printed ++ events.flatMap Event.lines := by
  induction events generalizing v with
  | nil => exact (List.append_nil _).symm
  | cons event rest ih =>
    rw [showEvents, Act.bind_apply_ok (showEvent_apply event v), ih, showEvent_printed, List.flatMap_cons,
      List.append_assoc]

theorem showEvents_keeps_outlook (events : List Event) : Keeps outlook (showEvents events) :=
  showEvents_keeps (fun _ => inWorld_keeps (fun _ _ => rfl) _) events

theorem change_tells {s : Spinner} {v : Viewer} (hs : v.board.listeners = [s]) (c : Change Bool) :
    Tells s v (c.noticeAfter? v.board.notice).toList (change c v).2 := by
  rw [change, Act.bind_apply_ok (Act.get_apply v)]
  dsimp only
  rw [Act.bind_apply_ok (Act.modify_apply _ v)]
  cases h : c.noticeAfter? v.board.notice with
  | none =>
    rw [Board.change_of_none h]
    exact ⟨.none hs rfl, (List.append_nil _).symm⟩
  | some n =>
    have hnotify : Board.notify Spinner.react { v.board with notice := n } =
        (⟨n, [(s.see n).1]⟩, [s]) := by
      rw [Board.notify, hs]
      rfl
    rw [Board.change_of_some h, hnotify, if_neg (by exact Bool.false_ne_true),
      Act.bind_apply_ok (Act.modify_apply _ _)]
    obtain ⟨hboard, hchanges⟩ := Prod.ext_iff.mp (showEvents_keeps_outlook
      ([s].flatMap fun spinner => (spinner.see n).2)
      { v with board := ⟨n, [(s.see n).1]⟩, changes := v.changes ++ [n] })
    refine ⟨⟨hs, ?_, ?_, hchanges⟩, ?_⟩
    · exact congrArg Board.listeners hboard
    · exact congrArg Board.notice hboard
    · exact showEvents_printed _ _

theorem tells_of_notice {s : Spinner} {v : Viewer} {c : Change Bool} {n : Notice Bool}
    (hs : v.board.listeners = [s]) (h : c.noticeAfter? v.board.notice = some n) :
    Tells s v [n] (change c v).2 := by
  have htells := change_tells hs c
  rw [h] at htells
  exact htells

section

variable {v : Viewer}

theorem started_tells (hs : v.board.listeners = [⟨false⟩]) (hloading : v.board.notice.loading = false) :
    ∃ notices, Tells ⟨false⟩ v notices v.started ∧ (Spinner.watch ⟨false⟩ notices).2 = [.start] := by
  have hload : (Change.load true).noticeAfter? v.board.notice =
      some { v.board.notice with loading := true } := by
    rw [Change.noticeAfter?, hloading]
    rfl
  have hfirst : Tells ⟨false⟩ v [{ v.board.notice with loading := true }]
      (change (.load true) { v with inFlight := true }).2 :=
    Tells.from_display (tells_of_notice (v := { v with inFlight := true }) hs hload) rfl
  have hsecond := hfirst.trans (change_tells hfirst.after .clear)
  refine ⟨_, hsecond, ?_⟩
  rw [hfirst.notice, Change.noticeAfter?]
  cases hmessage : v.board.notice.message <;> simp [Spinner.watch, Spinner.see, Spinner.turn, hmessage]

variable (hs : v.board.listeners = [⟨true⟩]) (hnotice : v.board.notice = ⟨true, none⟩)

include hs hnotice

theorem becomeIdle_tells : Tells ⟨true⟩ v [⟨false, none⟩] (becomeIdle v).2 := by
  have hload : (Change.load false).noticeAfter? v.board.notice = some ⟨false, none⟩ := by
    rw [hnotice]
    rfl
  rw [becomeIdle, Act.bind_apply_ok (Act.modify_apply _ v)]
  exact (tells_of_notice (v := { v with inFlight := false }) hs hload).from_display rfl

theorem told_tells (m : Message) :
    Tells ⟨true⟩ v [⟨true, some m⟩, ⟨false, some m⟩] (v.told m) := by
  have hshow : (Change.show m).noticeAfter? v.board.notice = some ⟨true, some m⟩ := by
    rw [hnotice]
    rfl
  have hfirst := tells_of_notice hs hshow
  have hload : (Change.load false).noticeAfter? (change (.show m) v).2.board.notice =
      some ⟨false, some m⟩ := by
    rw [hfirst.notice]
    rfl
  rw [told, becomeIdle, Act.bind_apply_ok (Act.modify_apply _ _)]
  exact hfirst.trans ((tells_of_notice (v := { (change (.show m) v).2 with inFlight := false })
    hfirst.after hload).from_display rfl)

end

theorem recover_display (failure : Failure) (v : Viewer) :
    (∃ m u, recover failure v = (.ok none, (change (.show m) u).2) ∧ u.display = v.display) ∨
      ∃ failure' u, recover failure v = (.error failure', u) ∧ u.display = v.display := by
  cases failure with
  | complaint c =>
    by_cases hc : c = .emptyResult
    · obtain rfl := hc
      have hkept := release_keeps_display v
      rcases hrelease : release v with ⟨failure' | _, u⟩
      · rw [hrelease] at hkept
        refine .inr ⟨failure', u, ?_, hkept⟩
        rw [recover, if_pos rfl, Act.bind_apply_error hrelease]
      · rw [hrelease] at hkept
        exact .inl ⟨_, u, recover_of_empty hrelease, hkept⟩
    · exact .inl ⟨_, v, recover_of_complaint hc v, rfl⟩
  | _ => exact .inr ⟨_, v, rfl, rfl⟩

theorem conclude_graph {act : Act Viewer Graph} {v w : Viewer} {g : Graph} (h : act v = (.ok g, w)) :
    (conclude act v).1 ≠ .ok none ∧ (conclude act v).2.outlook = (becomeIdle w).2.outlook := by
  have hsettle : settle act v = (.ok (some g), w) := by
    rw [settle_apply, h]
  rw [conclude, Act.bind_apply_ok (ended_apply hsettle)]
  constructor
  · intro hnone
    obtain ⟨_, _, -, hsome⟩ := Act.of_bind_ok hnone
    cases hsome
  · exact Keeps.bind (inWorld_keeps (fun _ _ => rfl) _) (fun _ => Keeps.pure _) _

inductive Concludes {α : Type} (v : Viewer) : Except Failure (Option α) × Viewer → Prop
  | told {w : Viewer} (m : Message) (h : Tells ⟨true⟩ v [⟨true, some m⟩, ⟨false, some m⟩] w) :
    Concludes v (.ok none, w)
  | untold {result : Except Failure (Option α)} {w : Viewer} (hresult : result ≠ .ok none)
    (h : Hears ⟨true⟩ v [⟨false, none⟩] w) (hquiet : w.Quiet → Tells ⟨true⟩ v [⟨false, none⟩] w) :
    Concludes v (result, w)

theorem Concludes.from_display {α : Type} {u v : Viewer} {ended : Except Failure (Option α) × Viewer}
    (h : Concludes v ended) (hu : u.display = v.display) : Concludes u ended := by
  cases h with
  | told m h => exact .told m (h.from_display hu)
  | untold hresult h hquiet =>
    exact .untold hresult (h.from_outlook (congrArg Prod.fst hu)) fun hw => (hquiet hw).from_display hu

theorem conclude_tells {act : Act Viewer Graph} (hact : Keeps display act) {v : Viewer}
    (hs : v.board.listeners = [⟨true⟩]) (hnotice : v.board.notice = ⟨true, none⟩) :
    Concludes v (conclude act v) := by
  have hidle {u : Viewer} (hu : u.display = v.display) :
      Tells ⟨true⟩ v [⟨false, none⟩] (becomeIdle u).2 := by
    have hboard : u.board = v.board := congrArg (·.1.1) hu
    exact (becomeIdle_tells (hboard ▸ hs) (hboard ▸ hnotice)).from_display hu.symm
  have hkept := hact v
  rcases hended : act v with ⟨failure | g, w⟩
  · rw [hended] at hkept
    have hsettle := settle_of_failure hended
    rcases recover_display failure w with ⟨m, u, hrecover, hu⟩ | ⟨failure', u, hrecover, hu⟩
    · have hboard : u.board = v.board := congrArg (·.1.1) (hu.trans hkept)
      rw [conclude_of_none (hsettle.trans hrecover)]
      exact .told m ((told_tells (hboard ▸ hs) (hboard ▸ hnotice) m).from_display (hu.trans hkept).symm)
    · rw [conclude_of_failed (hsettle.trans hrecover)]
      have htells := hidle (hu.trans hkept)
      exact .untold nofun htells.toHears fun _ => htells
  · -- In verbose mode a line about the graph is printed besides.
    rw [hended] at hkept
    obtain ⟨hresult, houtlook⟩ := conclude_graph hended
    refine .untold hresult ((hidle hkept).toHears.of_outlook houtlook) fun hquiet => ?_
    have hshown := congrArg Prod.snd (conclude_shown hended hquiet)
    exact hshown ▸ hidle hkept

theorem receive_tells {v : Viewer} (hs : v.board.listeners = [⟨true⟩])
    (hnotice : v.board.notice = ⟨true, none⟩) (waiting : Waiting) (reply : Reply) :
    Concludes v (receive waiting reply v) :=
  conclude_tells (Keeps.bind (Keeps.ofExcept _) present_keeps_display) hs hnotice

theorem send_display {v : Viewer} (hquiet : v.Quiet) (request : Request) :
    (send request v).2.display = v.display := by
  have hprinted := @connect_keeps _ World.printed (fun _ _ => rfl) v.world
  rw [send_quiet hquiet]
  rcases hconnect : connect v.world with ⟨failure | _, w⟩
  · rw [hconnect] at hprinted
    exact Prod.ext rfl hprinted
  · rw [hconnect] at hprinted
    rcases v.client.send request with failure | ⟨sent, address⟩
    · exact Prod.ext rfl hprinted
    · exact Prod.ext rfl hprinted

theorem launch_tells {v : Viewer} (hquiet : v.Quiet) (hs : v.board.listeners = [⟨true⟩])
    (hnotice : v.board.notice = ⟨true, none⟩) (request : Request) :
    (∃ waiting w, launch request v = (.ok (some waiting), w) ∧ w.display = v.display) ∨
      Concludes v (launch request v) ∧ ∀ waiting, (launch request v).1 ≠ .ok (some waiting) := by
  have hdisplay := send_display hquiet request
  rcases hsend : send request v with ⟨failure | waiting, w⟩
  · rw [hsend] at hdisplay
    have hboard : w.board = v.board := congrArg (·.1.1) hdisplay
    have hconcludes := conclude_tells (Keeps.throw failure) (hboard ▸ hs) (hboard ▸ hnotice)
    have hnothing (shown : Option Graph) (h : (conclude (throw failure) w).1 = .ok shown) :
        shown = none := conclude_of_error rfl h
    right
    rw [launch_of_unsent hsend, Act.bind_apply]
    rcases hended : conclude (throw failure) w with ⟨failure' | shown, u⟩
    · rw [hended] at hconcludes
      cases hconcludes with
      | untold _ h htells =>
        exact ⟨Concludes.from_display (.untold nofun h htells) hdisplay.symm, nofun⟩
    · obtain rfl := hnothing shown (congrArg Prod.fst hended)
      rw [hended] at hconcludes
      cases hconcludes with
      | told m h => exact ⟨Concludes.from_display (.told m h) hdisplay.symm, nofun⟩
      | untold hresult => exact absurd rfl hresult
  · rw [hsend] at hdisplay
    exact .inl ⟨waiting, w, launch_of_sent hsend, hdisplay⟩

end Viewer

end DependencyAtlas.Session
