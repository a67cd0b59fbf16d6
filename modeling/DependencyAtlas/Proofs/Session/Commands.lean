import DependencyAtlas.Proofs.Session.Exporting
import DependencyAtlas.Proofs.Session.Sharing

namespace DependencyAtlas.Session

open Files Scan Stage
open Act (Keeps)

def World.books (w : World) : List Sent × Pool × Path :=
  (w.requests, w.pool, w.page.path)

theorem canvas_keeps_books : canvas.Keeps World.books :=
  canvas_keeps (fun _ _ => rfl) (fun _ _ => rfl) (fun _ _ => rfl) (fun _ _ => rfl) fun _ _ => rfl

theorem writeFile_keeps_books (path : Path) (text : String) : Keeps World.books (writeFile path text) :=
  writeFile_keeps (fun _ _ => rfl) (fun _ _ => rfl) path text

theorem writeImage_keeps_books (path : Path) : Keeps World.books (writeImage path) :=
  writeImage_keeps writeFile_keeps_books path

theorem writeOut_keeps_books (name : String) (stops : Failure → Bool) {write : Path → Act World Unit}
    (hwrite : ∀ path, Keeps World.books (write path)) :
    Keeps World.books (writeOut name stops write) :=
  writeOut_keeps (fun _ _ => rfl) hwrite

namespace Viewer

def books (v : Viewer) : Client × List Sent × Pool × Path :=
  (v.client, v.world.books)

def standing (v : Viewer) : (Bool × Board Bool Console.Spinner) × Client × List Sent × Pool × Path :=
  ((v.inFlight, v.board), v.books)

section

variable {α : Type}

theorem inWorld_keeps_books {act : Act World α} (h : Keeps World.books act) : Keeps books (inWorld act) :=
  fun v => Prod.ext rfl (h v.world)

theorem inStudio_keeps_books {act : Act (Studio World Unit) α}
    (h : Keeps (fun s => s.outside.books) act) : Keeps books (inStudio act) :=
  fun v => Prod.ext rfl (h v.studio)

theorem inWorld_keeps_standing {act : Act World α} (h : Keeps World.books act) :
    Keeps standing (inWorld act) :=
  fun v => Prod.ext rfl (inWorld_keeps_books h v)

theorem inStudio_keeps_standing {act : Act (Studio World Unit) α}
    (h : Keeps (fun s => s.outside.books) act) : Keeps standing (inStudio act) :=
  fun v => Prod.ext rfl (inStudio_keeps_books h v)

theorem exportOf_keeps_standing {content : Renderer Unit → Except Failure (Option α)}
    {out : α → Act World (Option Path)} (hout : ∀ a, Keeps World.books (out a)) :
    Keeps standing (exportOf content out) := by
  apply Keeps.bind Keeps.get
  intro v
  apply Keeps.bind (Keeps.ofExcept _)
  intro a?
  split
  · exact Keeps.pure _
  · exact inWorld_keeps_standing (hout _)

end

theorem books_unstated : Unstated books where
  print _ := inWorld_keeps_books (write_keeps (fun _ _ => rfl) _ _)
  tell _ := inWorld_keeps_books (tell_keeps (fun _ _ => rfl) _)
  board _ _ := rfl
  changes _ _ := rfl
  inFlight _ _ := rfl

theorem release_keeps_books : Keeps books release :=
  inStudio_keeps_books (Studio.release_keeps canvas_keeps_books.clear)

theorem present_keeps_books (g : Graph) : Keeps books (present g) := by
  apply Keeps.ite (Keeps.throw _)
  refine Keeps.bind (inStudio_keeps_books
    (Studio.render_keeps canvas_keeps_books.draw canvas_keeps_books.clear g)) fun _ => ?_
  exact Keeps.pure _

theorem hasInstance_of_snapshot {r : Renderer Unit} {figure : Drawing.Figure Float}
    (h : r.snapshot = .ok (some figure)) : r.hasInstance = true := by
  rw [Renderer.snapshot] at h
  split at h
  · cases h
  · next hlive => rw [Renderer.hasInstance, hlive, Option.isSome_some]

theorem hasInstance_of_document {r : Renderer Unit} {document : Value}
    (h : r.document = .ok (some document)) : r.hasInstance = true := by
  rw [Renderer.document] at h
  split at h
  · cases h
  · next hlive => rw [Renderer.hasInstance, hlive, Option.isSome_some]

theorem document_of_staged {clean : Prop} {s : Studio World Unit} (h : Staged clean s) :
    ∃ document, s.renderer.document = .ok document := by
  cases hlive : s.renderer.live with
  | none => exact ⟨none, by rw [Renderer.document, hlive]⟩
  | some live =>
    obtain ⟨entries, -, hdocument⟩ := Renderer.document_eq_ok hlive (h.drawable live hlive).complete
    exact ⟨_, hdocument⟩

theorem dispatch_of_start {α : Type} {command : Command} {argument : String} {act : Act Viewer α}
    {outcome : α → Outcome}
    (h : start command argument = (do return .over (outcome (← act)))) :
    dispatch command argument = (do return outcome (← act)) := by
  rw [dispatch, h]
  simp only [bind_assoc, pure_bind]

theorem dispatch_relayout (argument : String) : dispatch .relayout argument = (do
    inStudio (Studio.relayout canvas)
    return .none) :=
  @dispatch_of_start _ _ _ _ (fun _ => .none) rfl

theorem dispatch_select (id : String) : dispatch .select id = (do
    return .ofElement (← inStudio (Studio.tap canvas id))) :=
  dispatch_of_start rfl

theorem dispatch_exportImage (argument : String) : dispatch .exportImage argument = (do
    return .ofPath (← exportImage)) :=
  dispatch_of_start rfl

theorem dispatch_exportPage (argument : String) : dispatch .exportPage argument = (do
    return .ofPath (← exportPage)) :=
  dispatch_of_start rfl

theorem dispatch_exportElements (argument : String) : dispatch .exportElements argument = (do
    return .ofPath (← exportElements)) :=
  dispatch_of_start rfl

structure Submits (v : Viewer) (text : String) : Prop where
  sent : ∃ waiting, (send ⟨Text.trimmed text⟩ v.started).1 = .ok waiting
  reported : ∀ failure, (scan ⟨Text.trimmed text⟩ v.started).1 = .error failure →
    ∃ c, failure = .complaint c ∧ c.isRequest = true
  now : ∀ g, (scan ⟨Text.trimmed text⟩ v.started).1 = .ok g →
    (scan ⟨Text.trimmed text⟩ v.started).2.world.Orderly
  cleared : ∀ g, (scan ⟨Text.trimmed text⟩ v.started).1 = .ok g →
    (canvas.clear (scan ⟨Text.trimmed text⟩ v.started).2.world).2.Orderly
  computes : ∀ g, (scan ⟨Text.trimmed text⟩ v.started).1 = .ok g → g.isEmpty = false →
    v.studio.renderer.policy.Computes g.nodes.length

def Favours (v : Viewer) : Command → String → Prop
  | .submit, path => Text.trimmed path ≠ "" → v.Submits path
  | .relayout, _ | .select, _ => v.world.StopsDrawing
  | .exportImage, _ => (∃ shown, v.studio.renderer.snapshot = .ok shown) ∧
      ∀ figure, v.studio.renderer.snapshot = .ok (some figure) →
        v.world.Exports imageName Failure.stopsExport writeImage
  | .exportPage, _ => (∃ shown, v.studio.renderer.snapshot = .ok shown) ∧
      ∀ figure, v.studio.renderer.snapshot = .ok (some figure) →
        v.world.Exports pageName Failure.stopsDrawing fun path => writeSheet .exported path figure
  | .exportElements, _ => ∀ document, v.studio.renderer.document = .ok (some document) →
      v.world.Exports elementsName Failure.isSystem fun path => writeFile path (Json.indented document)
  | .quit, _ => True

theorem inStudio_recovers {α : Type} {act : Act (Studio World Unit) α} {P : Studio World Unit → Prop}
    {v : Viewer} (h : Recovers P (act v.studio)) :
    Recovers (fun u : Viewer => P u.studio) (inStudio act v) :=
  ⟨h.complains, h.leaves⟩

theorem dispatch_recovers {clean : Prop} {v : Viewer} (h : Staged clean v.studio) {command : Command} {argument : String}
    (hsubmit : command ≠ .submit) (hquit : command ≠ .quit) (hfavours : v.Favours command argument) :
    Recovers (fun u => Staged clean u.studio) (dispatch command argument v) := by
  cases command with
  | submit => exact absurd rfl hsubmit
  | quit => exact absurd rfl hquit
  | relayout =>
    rw [dispatch_relayout]
    exact (inStudio_recovers (h.relayout hfavours)).map fun _ => Outcome.none
  | select =>
    rw [dispatch_select]
    exact (inStudio_recovers (h.tap hfavours argument)).map Outcome.ofElement
  | exportImage =>
    obtain ⟨⟨shown, hshown⟩, hexports⟩ := hfavours
    rw [dispatch_exportImage, exportImage_eq]
    refine (exportOf_recovers h hshown fun figure hfigure => ?_).map Outcome.ofPath
    obtain rfl := hfigure
    exact ⟨hasInstance_of_snapshot hshown, (hexports figure hshown).recovers writeImage_growing⟩
  | exportPage =>
    obtain ⟨⟨shown, hshown⟩, hexports⟩ := hfavours
    rw [dispatch_exportPage, exportPage_eq]
    refine (exportOf_recovers h hshown fun figure hfigure => ?_).map Outcome.ofPath
    obtain rfl := hfigure
    exact ⟨hasInstance_of_snapshot hshown,
      (hexports figure hshown).recovers fun path => writeSheet_growing _ path _⟩
  | exportElements =>
    obtain ⟨shown, hshown⟩ := document_of_staged h
    rw [dispatch_exportElements, exportElements_eq]
    refine (exportOf_recovers h hshown fun document hdocument => ?_).map Outcome.ofPath
    obtain rfl := hdocument
    exact ⟨hasInstance_of_document hshown,
      (hfavours document hshown).recovers fun path => writeFile_growing path _⟩

theorem dispatch_keeps_standing {command : Command} (hsubmit : command ≠ .submit)
    (hquit : command ≠ .quit) (argument : String) : Keeps standing (dispatch command argument) := by
  cases command with
  | submit => exact absurd rfl hsubmit
  | quit => exact absurd rfl hquit
  | relayout =>
    rw [dispatch_relayout]
    refine Keeps.bind (inStudio_keeps_standing ?_) fun _ => Keeps.pure _
    exact Studio.relayout_keeps canvas_keeps_books.draw
  | select =>
    rw [dispatch_select]
    refine Keeps.bind (inStudio_keeps_standing ?_) fun _ => Keeps.pure _
    exact Studio.tap_keeps canvas_keeps_books argument
  | exportImage =>
    rw [dispatch_exportImage, exportImage_eq]
    refine Keeps.bind (exportOf_keeps_standing fun _ => ?_) fun _ => Keeps.pure _
    exact writeOut_keeps_books _ _ writeImage_keeps_books
  | exportPage =>
    rw [dispatch_exportPage, exportPage_eq]
    refine Keeps.bind (exportOf_keeps_standing fun _ => ?_) fun _ => Keeps.pure _
    exact writeOut_keeps_books _ _ fun path => .bind .get fun _ => writeFile_keeps_books path _
  | exportElements =>
    rw [dispatch_exportElements, exportElements_eq]
    refine Keeps.bind (exportOf_keeps_standing fun _ => ?_) fun _ => Keeps.pure _
    exact writeOut_keeps_books _ _ fun path => writeFile_keeps_books path _

theorem staged_scenery {clean : Prop} {v : Viewer} : Staged clean v.scenery ↔ Staged clean v.studio :=
  ⟨fun h => ⟨h.page, h.unpaged, h.bound, h.drawable⟩, fun h => ⟨h.page, h.unpaged, h.bound, h.drawable⟩⟩

theorem staged_of_scenery {clean : Prop} {u v : Viewer} (h : Staged clean v.studio)
    (hscenery : u.scenery = v.scenery) : Staged clean u.studio :=
  staged_scenery.mp (hscenery ▸ staged_scenery.mpr h)

structure Sends (v : Viewer) (request : Request) (w : Viewer) : Prop where
  client : w.client = v.client
  path : w.world.page.path = v.world.page.path
  tidy : v.world.pool.Tidy → w.world.pool.Tidy
  sent : ∃ sent, w.requests = v.requests ++ [sent] ∧ SentAs v.client request sent

theorem Sends.of_books {u u' v w : Viewer} {request : Request} (h : Sends v request w)
    (hbefore : v.books = u.books) (hafter : u'.books = w.books) : Sends u request u' := by
  simp only [books, World.books, Prod.mk.injEq] at hbefore hafter
  obtain ⟨hclient, hrequests, hpool, hpath⟩ := hbefore
  obtain ⟨hclient', hrequests', hpool', hpath'⟩ := hafter
  obtain ⟨sent, hsent, has⟩ := h.sent
  refine ⟨?_, ?_, ?_, sent, ?_, hclient ▸ has⟩
  · rw [hclient', h.client, hclient]
  · rw [hpath', h.path, hpath]
  · rw [hpool', ← hpool]
    exact h.tidy
  · rw [requests, hrequests', ← requests, hsent, requests, hrequests, ← requests]

theorem connect_tidy {w : World} (h : w.pool.Tidy) : (connect w).2.pool.Tidy := by
  rw [connect_eq_lease]
  exact tidy_after h (.lease w.refusal)

theorem sends_of_send {v w : Viewer} {request : Request} {waiting : Waiting} (hquiet : v.Quiet)
    (h : send request v = (.ok waiting, w)) : Sends v request w := by
  have hkept := @connect_keeps _ (fun w => (w.requests, w.page.path)) (fun _ _ => rfl) v.world
  have htidy := @connect_tidy v.world
  rw [send_quiet hquiet] at h
  rcases hconnect : connect v.world with ⟨failure | _, w'⟩
  · rw [hconnect] at h
    cases h
  rw [hconnect] at h hkept htidy
  rcases hclient : v.client.send request with failure | ⟨sent, address⟩
  · rw [hclient] at h
    cases h
  rw [hclient] at h
  obtain rfl := congrArg Prod.snd h
  obtain ⟨hrequests, hpath⟩ := Prod.ext_iff.mp hkept
  exact ⟨rfl, hpath, htidy, sent, congrArg (· ++ [sent]) hrequests, send_sentAs hclient⟩

theorem scan_sends {v : Viewer} {request : Request} (hquiet : v.Quiet)
    (hsent : ∃ waiting, (send request v).1 = .ok waiting) : Sends v request (scan request v).2 := by
  obtain ⟨waiting, hwaiting⟩ := hsent
  have hsend : send request v = (.ok waiting, (send request v).2) := Prod.ext hwaiting rfl
  have hrest (waiting : Waiting) : Keeps books (do
      let reply ← inWorld nextReply
      Act.ofExcept (reply.graphFrom waiting.address) : Act Viewer Graph) :=
    Keeps.bind (inWorld_keeps_books (nextReply_keeps fun _ _ => rfl)) fun _ => Keeps.ofExcept _
  have hbooks : (scan request v).2.books = (send request v).2.books := Keeps.bind_right hrest v
  exact (sends_of_send hquiet hsend).of_books rfl hbooks

theorem conclude_keeps_after (act : Act Viewer Graph) (v : Viewer) :
    (conclude act v).2.books = (act v).2.books := by
  have hended : act v = Act.ofExcept (act v).1 (act v).2 := rfl
  rw [conclude_congr hended]
  exact books_unstated.conclude release_keeps_books (Keeps.ofExcept _) _

theorem conclude_present {clean : Prop} {v : Viewer} {g : Graph} (h : Staged clean v.studio) (hnow : v.world.Orderly)
    (hcleared : (canvas.clear v.world).2.Orderly) (hjoined : g.Joined)
    (hcomputes : g.isEmpty = false → v.studio.renderer.policy.Computes g.nodes.length)
    (hquiet : (conclude (present g) v).2.Quiet) :
    ∃ shown u, conclude (present g) v = (.ok shown, u) ∧ Staged clean u.studio := by
  cases hempty : g.isEmpty with
  | true =>
    obtain ⟨t, hrelease, hstaged, -⟩ := h.release fun _ => hnow.clears.now
    have hreleased : release v = (.ok (), v.onStage t) := by
      rw [release_apply, hrelease]
    exact ⟨_, _, conclude_emptied (present_of_empty hempty v) hreleased,
      staged_of_scenery (v := v.onStage t) hstaged (told_scenery _ _)⟩
  | false =>
    have hpresent := present_apply hempty v
    obtain ⟨t, hstaged, hrender | ⟨c, hc, hrender⟩⟩ :=
      h.render hnow hcleared hempty hjoined (hcomputes hempty)
    · rw [hrender] at hpresent
      exact ⟨_, _, conclude_shown hpresent hquiet,
        staged_of_scenery (v := v.onStage t) hstaged (scenery_unstated.becomeIdle _)⟩
    · rw [hrender] at hpresent
      exact ⟨_, _, conclude_told hpresent hc,
        staged_of_scenery (v := v.onStage t) hstaged (told_scenery _ _)⟩

theorem submit_blank {text : String} (h : Text.trimmed text = "") (v : Viewer) :
    submit (.str text) v = (.ok none, v) := by
  have hblank : Request.ofValue (.str text) = .error (.complaint .emptyPath) := by
    rw [Request.ofValue, Request.ofText?, if_pos h]
  have hbegin : beginSubmit (.str text) v = (.ok none, v) :=
    Act.bind_apply_ok (accept_blank hblank v)
  rw [submit, Act.bind_apply_ok hbegin]
  rfl

theorem dispatch_submit (path : String) : dispatch .submit path = (do
    return .ofGraph (← submit (.str path))) := by
  funext v
  rw [dispatch, start, submit]
  simp only [bind_assoc]
  rw [Act.bind_apply, Act.bind_apply]
  rcases beginSubmit (.str path) v with ⟨failure | _ | waiting, w⟩
  · rfl
  · rfl
  · simp only [pure_bind, bind_assoc, resume]

section

variable {v : Viewer} (hidle : v.Idle) (hquiet : v.Quiet) {text : String}
  (htext : Text.trimmed text ≠ "") (hcan : v.Submits text)

include hidle htext hcan

theorem submit_staged {clean : Prop} (h : Staged clean v.studio) (hafter : (submit (.str text) v).2.Quiet) :
    ∃ shown u, submit (.str text) v = (.ok shown, u) ∧ Staged clean u.studio := by
  rcases hscan : scan ⟨Text.trimmed text⟩ v.started with ⟨scanned, w⟩
  have hstage : w.scenery = v.scenery := by
    rw [← started_scenery v, ← scan_keeps_scenery ⟨Text.trimmed text⟩ v.started, hscan]
  obtain ⟨-, hreported, hnow, hcleared, hcomputes⟩ := hcan
  rw [hscan] at hreported hnow hcleared hcomputes
  rcases hscanned : scanned with failure | g
  · obtain ⟨c, rfl, hrequest⟩ := hreported failure hscanned
    have hc : c ≠ .emptyResult := by
      rintro rfl
      cases hrequest
    exact ⟨_, _, submit_refused hidle htext hscan hscanned hc,
      staged_of_scenery h ((told_scenery _ _).trans hstage)⟩
  · have hjoined : g.Joined := (scan_accepted (hscanned ▸ congrArg Prod.fst hscan)).joined
    have hpolicy := congrArg Renderer.policy (parts_of_scenery hstage).renderer
    rw [submit_graph hidle htext hscan hscanned] at hafter ⊢
    exact conclude_present (staged_of_scenery h hstage) (hnow g hscanned) (hcleared g hscanned) hjoined
      (fun hempty => hpolicy ▸ hcomputes g hscanned hempty) hafter

include hquiet in
theorem submit_sends : Sends v ⟨Text.trimmed text⟩ (submit (.str text) v).2 := by
  have hsends := scan_sends (quiet_of_scenery (started_scenery v) hquiet) hcan.sent
  apply hsends.of_books (books_unstated.started v)
  rw [submit_accepted (ofValue_text htext) hidle.1, conclude_keeps_after]
  exact Keeps.bind_right present_keeps_books _

end

end Viewer

def Command.asks (argument : String) : Command → List Request
  | submit => (Request.ofText? argument).toList
  | _ => []

/-- A viewer between two commands of a session. The requests that were asked for since the start were sent, one
each and in order. -/
structure Settled (start : Viewer) (asked : List Request) (v : Viewer) : Prop where
  idle : v.Idle
  staged : Staged (start.world.hasPage = false) v.studio
  tidy : v.world.pool.Tidy
  client : v.client = start.client
  path : v.world.page.path = start.world.page.path
  sent : ∃ sent, v.requests = start.requests ++ sent ∧ List.Forall₂ (SentAs start.client) asked sent

namespace Settled

open Viewer

variable {start v u : Viewer} {asked : List Request} (h : Settled start asked v)

include h

theorem of_standing (hstanding : u.standing = v.standing)
    (hstaged : Staged (start.world.hasPage = false) u.studio) : Settled start asked u := by
  simp only [standing, books, World.books, Prod.mk.injEq] at hstanding
  obtain ⟨⟨hflight, hboard⟩, hclient, hrequests, hpool, hpath⟩ := hstanding
  obtain ⟨sent, hsent, has⟩ := h.sent
  refine ⟨⟨hflight.trans h.idle.1, ?_⟩, hstaged, hpool ▸ h.tidy, hclient.trans h.client,
    hpath.trans h.path, sent, hrequests.trans hsent, has⟩
  rw [hboard]
  exact h.idle.2

theorem of_sends {request : Request} (hsends : Sends v request u) (hidle : u.Idle)
    (hstaged : Staged (start.world.hasPage = false) u.studio) : Settled start (asked ++ [request]) u := by
  obtain ⟨before, hbefore, hall⟩ := h.sent
  obtain ⟨sent, hsent, has⟩ := hsends.sent
  refine ⟨hidle, hstaged, hsends.tidy h.tidy, hsends.client.trans h.client,
    hsends.path.trans h.path, before ++ [sent], ?_, ?_⟩
  · rw [hsent, hbefore, List.append_assoc]
  · exact List.rel_append hall (.cons (h.client ▸ has) .nil)

theorem submit (hquiet : v.Quiet) {text : String} (hcan : Text.trimmed text ≠ "" → v.Submits text)
    (hafter : (submit (.str text) v).2.Quiet) :
    Recovers (Settled start (asked ++ (Request.ofText? text).toList)) (submit (.str text) v) := by
  by_cases htext : Text.trimmed text = ""
  · rw [submit_blank htext, Request.ofText?, if_pos htext, Option.toList_none, List.append_nil]
    exact .ok _ h
  · obtain ⟨shown, u, hsubmit, hstaged⟩ := submit_staged h.idle htext (hcan htext) h.staged hafter
    have hsends := submit_sends h.idle hquiet htext (hcan htext)
    have hidle : (Viewer.submit (.str text) v).2.Idle := by
      rw [submit_accepted (ofValue_text htext) h.idle.1]
      exact conclude_idle _ _
    rw [hsubmit] at hsends hidle ⊢
    rw [Request.ofText?, if_neg htext]
    exact .ok _ (h.of_sends hsends hidle hstaged)

theorem dispatch (hquiet : v.Quiet) {command : Command} {argument : String} (hquit : command ≠ .quit)
    (hfavours : v.Favours command argument) (hafter : (dispatch command argument v).2.Quiet) :
    Recovers (Settled start (asked ++ command.asks argument)) (dispatch command argument v) := by
  by_cases hsubmit : command = .submit
  · obtain rfl := hsubmit
    rw [dispatch_submit] at hafter ⊢
    rw [Keeps.bind_right (f := Quiet) fun _ => Keeps.pure _] at hafter
    exact (h.submit hquiet hfavours hafter).map Outcome.ofGraph
  · have hkept := dispatch_keeps_standing hsubmit hquit argument v
    have hdone := dispatch_recovers h.staged hsubmit hquit hfavours
    have hnone : command.asks argument = [] := by
      cases command <;> first | rfl | exact absurd rfl hsubmit
    rw [hnone, List.append_nil]
    exact ⟨hdone.complains, h.of_standing hkept hdone.leaves⟩

end Settled

end DependencyAtlas.Session
