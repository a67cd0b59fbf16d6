import DependencyAtlas.Proofs.Session.SingleFlight
import DependencyAtlas.Proofs.Session.Submitting
import DependencyAtlas.Proofs.Stage.Shown
import DependencyAtlas.Proofs.Stage.Success
import DependencyAtlas.Proofs.Stage.Undoing

namespace DependencyAtlas.Session

open Scan Stage Drawing
open Act (Keeps)

theorem draw_attempts (figure : Figure Float) (w : World) :
    (canvas.draw figure w).2.attempts = w.attempts ++ [figure] := by
  have hrest : Keeps World.attempts (do
      let path := (← get).page.path
      edit fun disk => disk.makeFolders path.parent
      writeSheet .live path figure
      openPage) := by
    apply Keeps.bind Keeps.get
    intro w
    apply Keeps.bind (edit_keeps (fun _ _ => rfl) _)
    intro _
    apply Keeps.bind (writeSheet_keeps (fun _ _ => rfl) (fun _ _ => rfl) _ _ _)
    intro _
    exact openPage_keeps fun _ _ => rfl
  exact hrest { w with attempts := w.attempts ++ [figure] }

theorem canvas_displays : Canvas.Displays (fun w : World => w.attempts.getLast?) canvas where
  draw figure w _ := (congrArg List.getLast? (draw_attempts figure w)).trans List.getLast?_concat
  notify _ id := by
    dsimp only [canvas]
    exact write_keeps (fun _ _ => rfl) _ _

/-- The page can be cleared, also after an attempt to draw, and draws fail for trouble with files, with
the system or with a value only. -/
structure World.Orderly (w : World) : Prop where
  clears : canvas.Clears w
  stops : ∀ figure failure, (canvas.draw figure w).1 = .error failure → failure.stopsDrawing = true

namespace Viewer

def onStage (s : Studio World Unit) (v : Viewer) : Viewer :=
  { v with studio := s }

theorem release_apply (v : Viewer) :
    release v = ((Studio.release canvas v.studio).1, v.onStage (Studio.release canvas v.studio).2) :=
  rfl

theorem present_of_empty {g : Graph} (h : g.isEmpty = true) (v : Viewer) :
    present g v = (.error (.complaint .emptyResult), v) := by
  rw [present, if_pos h]
  rfl

theorem present_apply {g : Graph} (h : g.isEmpty = false) (v : Viewer) :
    present g v =
      ((Studio.render canvas g v.studio).1.map fun _ => g,
        v.onStage (Studio.render canvas g v.studio).2) := by
  rw [present, if_neg (ne_true_of_eq_false h)]
  dsimp only
  rw [Act.bind_apply, render, inStudio, Act.within_apply]
  rcases Studio.render canvas g v.studio with ⟨failure | shown, s⟩ <;> rfl

end Viewer

inductive Ending where
  | shown
  | emptied
  | refused
  | undrawn
  deriving DecidableEq

inductive Unshown (g : Graph) (t : Studio World Unit) : Complaint → Prop
  | bind (h : t.surface.bound ≠ none) : Unshown g t (.busy Surface.busyText)
  | draw {view : Visualization Float} {figure : Figure Float} {cause : Failure}
    (hfree : t.surface.bound = none) (hview : Studio.firstView t.renderer.policy g = .ok view)
    (hfigure : view.figure floatGauge (Studio.moveOptions t.renderer.policy) = .ok figure)
    (hdraw : (canvas.draw figure t.outside).1 = .error cause) :
    Unshown g t (.render ("Could not draw the graph: " ++ cause.text))

section

variable (v w : Viewer) (result : Except Failure (Option Graph)) (u : Viewer)

structure EndsShown (g : Graph) : Prop where
  nonempty : g.isEmpty = false
  returned : result = .ok (some g)
  elements : u.studio.renderer.elements = some g
  selected : u.studio.renderer.selected = none
  bound : ∃ live, u.studio.renderer.live = some live ∧
    u.studio.surface.bound = some (.visualization live.id)
  drawn : ∃ figure, u.world.attempts = v.world.attempts ++ [figure] ∧
    u.studio.renderer.ShownBy figure
  message : u.message = none

structure EndsEmptied (g : Graph) : Prop where
  empty : g.isEmpty = true
  returned : result = .ok none
  hidden : u.studio.renderer.hasInstance = false
  previous : ∀ live, v.studio.renderer.live = some live →
    live.id ∈ u.studio.registry.destroyed ∧
      u.studio.surface.bound ≠ some (.visualization live.id)
  undrawn : u.world.attempts = v.world.attempts
  message : u.message = some ⟨"No dependencies found.", .warning⟩

structure EndsRefused (c : Complaint) : Prop where
  returned : result = .ok none
  stage : u.scenery = v.scenery
  message : u.message = some ⟨"Error: " ++ c.text, .error⟩

structure EndsUndrawn (g : Graph) : Prop where
  nonempty : g.isEmpty = false
  returned : result = .ok none
  hidden : u.studio.renderer.hasInstance = false
  message : ∃ c, Unshown g (Studio.release canvas w.studio).2 c ∧
    u.message = some ⟨"Error: " ++ c.text, .error⟩

def Ending.Holds (scanned : Except Failure Graph) : Ending → Prop
  | shown => ∃ g, scanned = .ok g ∧ EndsShown v result u g
  | emptied => ∃ g, scanned = .ok g ∧ EndsEmptied v result u g
  | refused => ∃ c, scanned = .error (.complaint c) ∧ EndsRefused v result u c
  | undrawn => ∃ g, scanned = .ok g ∧ EndsUndrawn w result u g

end

def Ending.ofResult (scanned : Except Failure Graph) (result : Except Failure (Option Graph)) : Ending :=
  match scanned, result with
  | .error _, _ => refused
  | .ok g, .ok (some _) => if g.isEmpty then emptied else shown
  | .ok g, _ => if g.isEmpty then emptied else undrawn

theorem Ending.Holds.eq_ofResult {v w u : Viewer} {scanned : Except Failure Graph}
    {result : Except Failure (Option Graph)} {ending : Ending} (h : ending.Holds v w result u scanned) :
    ending = .ofResult scanned result := by
  cases ending with
  | shown =>
    obtain ⟨g, rfl, h⟩ := h
    rw [h.returned, ofResult, if_neg (ne_true_of_eq_false h.nonempty)]
  | emptied =>
    obtain ⟨g, rfl, h⟩ := h
    rw [h.returned, ofResult, if_pos h.empty]
    nofun
  | refused =>
    obtain ⟨c, rfl, -⟩ := h
    rfl
  | undrawn =>
    obtain ⟨g, rfl, h⟩ := h
    rw [h.returned, ofResult, if_neg (ne_true_of_eq_false h.nonempty)]
    nofun

theorem message_eq_error {c : Complaint} (hc : c ≠ .emptyResult) :
    c.message = ⟨"Error: " ++ c.text, .error⟩ := by
  rw [Complaint.message, if_neg hc]
  cases c with
  | emptyResult => exact absurd rfl hc
  | _ => rfl

theorem release_attempts {v : Viewer} {t : Studio World Unit}
    (h : t.outside = v.world ∨ t.outside = (canvas.clear v.world).2) :
    t.outside.attempts = v.world.attempts := by
  rcases h with h | h
  · rw [h]
  · rw [h]
    exact clear_keeps (fun _ _ => rfl) v.world

theorem Unshown.ne_emptyResult {g : Graph} {t : Studio World Unit} {c : Complaint}
    (h : Unshown g t c) : c ≠ .emptyResult := by
  cases h <;> nofun

theorem unshown_of_renderFails {g : Graph} (hjoined : g.Joined) {t : Studio World Unit}
    (hcomputes : t.renderer.policy.Computes g.nodes.length) (horderly : t.outside.Orderly)
    {failure : Failure} (h : Studio.RenderFails canvas g t failure) :
    ∃ c, failure = .complaint c ∧ Unshown g t c := by
  obtain ⟨view, hview⟩ := Studio.firstView_eq_ok hjoined hcomputes
  cases h with
  | layout h => cases hview.symm.trans h
  | busy _ hbound => exact ⟨_, rfl, .bind (hbound ▸ nofun)⟩
  | @figure view _ h _ hfigure =>
    -- The view places every node of the graph, so that no picture of it fails.
    obtain ⟨hgraph, -, hcomplete⟩ := Studio.firstView_complete hjoined h
    obtain ⟨figure, hdrawn⟩ : ∃ figure,
        view.figure floatGauge (Studio.moveOptions t.renderer.policy) = .ok figure :=
      Visualization.figure_eq_ok (hgraph ▸ hjoined) hcomplete rfl hcomputes.shares
    cases hdrawn.symm.trans hfigure
  | draw h hfree hfigure hdraw =>
    refine ⟨_, ?_, .draw hfree h hfigure hdraw⟩
    rw [Studio.drawFailure, if_pos (horderly.stops _ _ hdraw)]

section

variable {v w : Viewer} {g : Graph}

theorem endsRefused (hstage : w.scenery = v.scenery) {c : Complaint} (hc : c ≠ .emptyResult) :
    EndsRefused v (.ok none) (w.told c.message) c where
  returned := rfl
  stage := (w.told_scenery _).trans hstage
  message := (w.told_message _).trans (congrArg some (message_eq_error hc))

variable (hnow : w.world.Orderly)

include hnow

theorem endsEmptied (hstage : w.scenery = v.scenery) (hempty : g.isEmpty = true) :
    ∃ u, Viewer.release w = (.ok (), u) ∧
      EndsEmptied v (.ok none) (u.told Complaint.emptyResult.message) g := by
  obtain ⟨t, hrelease, hrenderer, houtside, -, hshown⟩ := Studio.release_cases hnow.clears.now
  have hparts := Viewer.parts_of_scenery hstage
  have htold := Viewer.parts_of_scenery ((w.onStage t).told_scenery Complaint.emptyResult.message)
  refine ⟨w.onStage t, ?_, hempty, rfl, ?_, ?_, ?_, ?_⟩
  · rw [Viewer.release_apply, hrelease]
  · rw [htold.renderer]
    exact congrArg Renderer.hasInstance hrenderer
  · intro live hlive
    rw [← hparts.renderer] at hlive
    obtain ⟨hsurface, hregistry⟩ := hshown live hlive
    rw [htold.surface, htold.registry]
    change live.id ∈ t.registry.destroyed ∧ t.surface.bound ≠ _
    rw [hsurface, hregistry]
    exact ⟨List.mem_cons_self, Surface.without_bound_ne _ _⟩
  · rw [htold.attempts]
    exact (release_attempts houtside).trans hparts.attempts
  · exact Viewer.told_message _ _

variable (hcleared : (canvas.clear w.world).2.Orderly) (hempty : g.isEmpty = false)
  (hjoined : g.Joined) (hcomputes : w.studio.renderer.policy.Computes g.nodes.length)

include hcleared hempty hjoined hcomputes

theorem render_ends :
    (∃ s, Studio.render canvas g w.studio = (.ok true, s) ∧ s.renderer.elements = some g ∧
      s.renderer.selected = none ∧
      (∃ live, s.renderer.live = some live ∧ s.surface.bound = some (.visualization live.id)) ∧
      ∃ figure, s.outside.attempts = w.world.attempts ++ [figure] ∧ s.renderer.ShownBy figure) ∨
    ∃ c s, Studio.render canvas g w.studio = (.error (.complaint c), s) ∧
      Unshown g (Studio.release canvas w.studio).2 c ∧ s.renderer.live = none := by
  obtain ⟨t, hrelease, hrenderer, houtside, -⟩ := Studio.release_cases hnow.clears.now
  have horderly : t.outside.Orderly := by
    rcases houtside with houtside | houtside
    · exact houtside ▸ hnow
    · exact houtside ▸ hcleared
  have hlive : t.renderer.live = none := by rw [hrenderer]
  have hpolicy : t.renderer.policy = w.studio.renderer.policy := by rw [hrenderer]
  have hunshown {failure : Failure} (hfails : Studio.RenderFails canvas g t failure) :
      ∃ c, failure = .complaint c ∧ Unshown g t c :=
    unshown_of_renderFails hjoined (hpolicy ▸ hcomputes) horderly hfails
  have hrenders := Studio.render_renders hrelease horderly.clears hlive hempty
  rcases hrender : Studio.render canvas g w.studio with ⟨result, s⟩
  rw [hrender] at hrenders
  rw [hrelease]
  cases hrenders with
  | @drawn view figure hview _ =>
    left
    obtain ⟨rfl, hselected, -⟩ := Studio.firstView_complete hjoined hview
    obtain ⟨drawn, hdrawn, hshown⟩ := Studio.render_faithful canvas_displays hrender
    refine ⟨_, rfl, rfl, hselected, ⟨_, rfl, rfl⟩, drawn, ?_, hshown⟩
    -- The figure that was attempted is the one that is displayed, and so the one that shows the renderer.
    have hattempts := (draw_attempts figure t.outside).trans
      (congrArg (· ++ [figure]) (release_attempts houtside))
    change (canvas.draw figure t.outside).2.attempts = _
    change (canvas.draw figure t.outside).2.attempts.getLast? = some drawn at hdrawn
    rw [hattempts] at hdrawn ⊢
    rw [List.getLast?_concat] at hdrawn
    rw [Option.some.inj hdrawn]
  | undone hfails _ hundone =>
    right
    obtain ⟨c, rfl, hwhy⟩ := hunshown hfails
    refine ⟨c, s, rfl, hwhy, ?_⟩
    rw [hundone.renderer]
    exact hlive
  | halted _ _ _ hfails hhalts =>
    obtain ⟨c, rfl, -⟩ := hunshown hfails
    cases hhalts

end

section

open Viewer

variable {v w : Viewer} (hidle : v.Idle) {text : String} (htext : Text.trimmed text ≠ "")
  {scanned : Except Failure Graph} (hscan : scan ⟨Text.trimmed text⟩ v.started = (scanned, w))

include hidle htext hscan

theorem submit_refused {c : Complaint} (hrefused : scanned = .error (.complaint c))
    (hc : c ≠ .emptyResult) : submit (.str text) v = (.ok none, w.told c.message) := by
  have hfailed : (scan ⟨Text.trimmed text⟩ >>= present) v.started = (.error (.complaint c), w) :=
    Act.bind_apply_error (hrefused ▸ hscan)
  exact (submit_accepted (ofValue_text htext) hidle.1).trans (conclude_told hfailed hc)

theorem submit_graph {g : Graph} (hbrought : scanned = .ok g) :
    submit (.str text) v = conclude (present g) w := by
  have hpresent : (scan ⟨Text.trimmed text⟩ >>= present) v.started = present g w :=
    Act.bind_apply_ok (hbrought ▸ hscan)
  exact (submit_accepted (ofValue_text htext) hidle.1).trans (conclude_congr hpresent)

variable (hreported : ∀ failure, scanned = .error failure →
    ∃ c, failure = .complaint c ∧ c.isRequest = true)

include hreported

theorem submit_unsuccessful {waiting : Waiting} {sent : Viewer} {a : Answer} {body : String}
    (hsend : send ⟨Text.trimmed text⟩ v.started = (.ok waiting, sent))
    (hreply : (nextReply sent.world).1 = .ok (.answer a)) (hfailed : a.isSuccess = false)
    (hbody : a.text = .ok body) :
    (submit (.str text) v).2.message = some ⟨"Error: " ++ body, .error⟩ := by
  have hnext : inWorld nextReply sent = (.ok (.answer a), sent.setWorld (nextReply sent.world).2) := by
    rw [inWorld, Act.within_apply, hreply]
  have hscanned : scanned = (Reply.answer a).graphFrom waiting.address := by
    rw [scan, Act.bind_apply_ok hsend, Act.bind_apply_ok hnext, Act.ofExcept_apply] at hscan
    exact (congrArg Prod.fst hscan).symm
  by_cases haddress : waiting.address.isComplete = true
  · rw [Reply.graphFrom_unsuccessful haddress hfailed hbody] at hscanned
    rw [submit_refused hidle htext hscan hscanned fun h => by cases h]
    exact told_message _ _
  · rw [Reply.graphFrom, if_neg haddress] at hscanned
    obtain ⟨c, hc, -⟩ := hreported _ hscanned
    cases hc

variable
  (hcomputes : ∀ g, scanned = .ok g → g.isEmpty = false →
    v.studio.renderer.policy.Computes g.nodes.length)
  (hnow : w.world.Orderly) (hcleared : (canvas.clear w.world).2.Orderly)
  (hquiet : (submit (.str text) v).2.Quiet)

include hcomputes hnow hcleared hquiet

theorem exists_ending :
    ∃ ending : Ending,
      ending.Holds v w (submit (.str text) v).1 (submit (.str text) v).2 scanned := by
  -- Up to here only the console and the exchange with the server have changed.
  have hstage : w.scenery = v.scenery := by
    rw [← started_scenery v, ← scan_keeps_scenery ⟨Text.trimmed text⟩ v.started, hscan]
  have hwordless : w.message = none := by
    rw [← started_message v, ← scan_keeps_message ⟨Text.trimmed text⟩ v.started, hscan]
  have hparts := parts_of_scenery hstage
  rcases hscanned : scanned with failure | g
  · obtain ⟨c, rfl, hrequest⟩ := hreported _ hscanned
    have hc : c ≠ .emptyResult := by
      rintro rfl
      cases hrequest
    rw [submit_refused hidle htext hscan hscanned hc]
    exact ⟨.refused, c, rfl, endsRefused hstage hc⟩
  have hsubmit := submit_graph hidle htext hscan hscanned
  rw [hsubmit] at hquiet ⊢
  cases hempty : g.isEmpty with
  | true =>
    obtain ⟨u, hrelease, hends⟩ := endsEmptied hnow hstage hempty
    rw [conclude_emptied (present_of_empty hempty w) hrelease]
    exact ⟨.emptied, g, rfl, hends⟩
  | false =>
    have hjoined : g.Joined := (scan_accepted (hscanned ▸ congrArg Prod.fst hscan)).joined
    have hpresent := present_apply hempty w
    rcases render_ends hnow hcleared hempty hjoined (hparts.renderer ▸ hcomputes g hscanned hempty) with
      ⟨s, hrender, helements, hselected, hbound, figure, hattempts, hshown⟩ |
      ⟨c, s, hrender, hunshown, hhidden⟩
    · rw [hrender] at hpresent
      have hstayed := parts_of_scenery (scenery_unstated.becomeIdle (w.onStage s))
      rw [conclude_shown hpresent hquiet]
      refine ⟨.shown, g, rfl, hempty, rfl, ?_, ?_, ?_, ⟨figure, ?_, ?_⟩, ?_⟩
      · exact (congrArg Renderer.elements hstayed.renderer).trans helements
      · exact (congrArg Renderer.selected hstayed.renderer).trans hselected
      · rw [hstayed.renderer, hstayed.surface]
        exact hbound
      · rw [hstayed.attempts, ← hparts.attempts]
        exact hattempts
      · rw [hstayed.renderer]
        exact hshown
      · exact (becomeIdle_keeps_message _).trans hwordless
    · rw [hrender] at hpresent
      rw [conclude_told hpresent hunshown.ne_emptyResult]
      refine ⟨.undrawn, g, rfl, hempty, rfl, ?_, c, hunshown, ?_⟩
      · rw [(parts_of_scenery (told_scenery _ _)).renderer]
        exact congrArg Option.isSome hhidden
      · exact (told_message _ _).trans (congrArg some (message_eq_error hunshown.ne_emptyResult))

/-- A submission ends in one way only and leaves the viewer idle, from whatever state and whatever its scan
brings; an answer that is no success is told by its body. -/
theorem submission_ends :
    (submit (.str text) v).2.Idle ∧
      (∃! ending : Ending,
        ending.Holds v w (submit (.str text) v).1 (submit (.str text) v).2 scanned) ∧
      ∀ waiting sent a body, send ⟨Text.trimmed text⟩ v.started = (.ok waiting, sent) →
        (nextReply sent.world).1 = .ok (.answer a) → a.isSuccess = false → a.text = .ok body →
        (submit (.str text) v).2.message = some ⟨"Error: " ++ body, .error⟩ := by
  refine ⟨?_, ?_, ?_⟩
  · rw [submit_accepted (ofValue_text htext) hidle.1]
    exact conclude_idle _ _
  · obtain ⟨ending, hends⟩ :=
      exists_ending hidle htext hscan hreported hcomputes hnow hcleared hquiet
    refine ⟨ending, hends, fun other hother => ?_⟩
    rw [hother.eq_ofResult, hends.eq_ofResult]
  · intro waiting sent a body hsend hreply hfailed hbody
    exact submit_unsuccessful hidle htext hscan hreported hsend hreply hfailed hbody

end

section

open Viewer Files

def oneNode : Answer where
  status := 200
  contentType := none
  body := (Json.compact (.object [("elements", .object [
    ("nodes", .list [.object [("data", .object [("id", .str "a")])]]),
    ("edges", .list [])])])).toList.map fun c => UInt8.ofNat c.toNat

def homePage : Page :=
  ⟨⟨"", ["page.html"]⟩, false, false⟩

def asking (disk : Disk) : Viewer :=
  { newViewer with
    studio := ⟨⟨measured, none, [()]⟩, .empty, ⟨0, []⟩,
      { bareWorld with
        settings := { bareWorld.settings with timeout := some (.int 30) }
        disk := disk
        page := homePage
        replies := [.answer oneNode] }⟩ }

def cleanDisk : Disk :=
  ⟨[], []⟩

def folderDisk : Disk :=
  ⟨[(["page.html"], .folder)], []⟩

section

variable {w : World} (hdisk : w.disk = cleanDisk) (hpage : w.page = homePage)

include hdisk hpage

theorem clear_of_clean : canvas.clear w = (.ok (), w) := by
  cases w
  cases hdisk
  cases hpage
  rfl

theorem orderly_of_clean (hmishaps : w.mishaps = []) : w.Orderly := by
  cases w
  cases hdisk
  cases hpage
  cases hmishaps
  refine ⟨⟨rfl, fun _ => rfl⟩, fun figure failure h => ?_⟩
  have hdraw : Except.ok () = Except.error failure := h
  cases hdraw

end

theorem submission_ends_one_node :
    (asking cleanDisk).Idle ∧ (scan ⟨Text.trimmed "a"⟩ (asking cleanDisk).started).1.isOk = true ∧
      ∃! ending : Ending, ending.Holds (asking cleanDisk)
        (scan ⟨Text.trimmed "a"⟩ (asking cleanDisk).started).2
        (submit (.str "a") (asking cleanDisk)).1 (submit (.str "a") (asking cleanDisk)).2
        (scan ⟨Text.trimmed "a"⟩ (asking cleanDisk).started).1 := by
  have hidle : (asking cleanDisk).Idle := ⟨rfl, rfl⟩
  have hbrought : (scan ⟨Text.trimmed "a"⟩ (asking cleanDisk).started).1.isOk = true := by
    decide +kernel
  have hquiet : (submit (.str "a") (asking cleanDisk)).2.Quiet := by
    rw [Quiet]
    decide +kernel
  rcases hscan : scan ⟨Text.trimmed "a"⟩ (asking cleanDisk).started with ⟨failure | g, w⟩
  · rw [hscan] at hbrought
    cases hbrought
  · have hstage : w.scenery = (asking cleanDisk).scenery := by
      rw [← started_scenery (asking cleanDisk),
        ← scan_keeps_scenery ⟨Text.trimmed "a"⟩ (asking cleanDisk).started, hscan]
    have hlasting : w.world.lasting = (asking cleanDisk).world.lasting :=
      congrArg (fun s : Studio World Unit => s.outside) hstage
    have hdisk : w.world.disk = cleanDisk := congrArg World.disk hlasting
    have hpage : w.world.page = homePage := congrArg World.page hlasting
    have hmishaps : w.world.mishaps = [] := congrArg World.mishaps hlasting
    have hnow := orderly_of_clean hdisk hpage hmishaps
    have hcleared : (canvas.clear w.world).2.Orderly := by
      rw [clear_of_clean hdisk hpage]
      exact hnow
    exact ⟨hidle, rfl, (submission_ends hidle (by decide) hscan nofun
      (fun g _ _ => measured_computes g.nodes.length) hnow hcleared hquiet).2.1⟩

/-- A page that is a folder can neither be drawn nor cleared, and the submission fails. -/
theorem submission_fails_folder :
    (asking folderDisk).Idle ∧ (asking folderDisk).Quiet ∧
      (scan ⟨Text.trimmed "a"⟩ (asking folderDisk).started).1.isOk = true ∧
      (∀ figure, (canvas.draw figure (asking folderDisk).world).1 =
        .error (.file ⟨.isFolder, some "page.html"⟩)) ∧
      ∀ shown, (submit (.str "a") (asking folderDisk)).1 ≠ .ok shown := by
  have hfails : (submit (.str "a") (asking folderDisk)).1.isOk = false := by decide +kernel
  refine ⟨⟨rfl, rfl⟩, rfl, by decide +kernel, fun _ => rfl, ?_⟩
  intro shown hshown
  rw [hshown] at hfails
  cases hfails

end

end DependencyAtlas.Session
