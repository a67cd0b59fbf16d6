import DependencyAtlas.Proofs.Program.Lines
import DependencyAtlas.Proofs.Session.Reached

/-!
Whole sessions. All lines up to the first that asks to leave are answered, whatever the server answers and
whatever goes wrong with drawing and exporting; each path among them is asked for once; the page is there between
two lines exactly if something is shown; and at the end nothing is left, neither shown nor open. It is taken that
the page can be cleared: a page that cannot ends the session.
-/

namespace DependencyAtlas.Session

open Files Scan Stage
open Act (Keeps)

structure Gone (v : Viewer) : Prop where
  hidden : v.studio.renderer.hasInstance = false
  free : v.studio.surface.bound = none
  closed : v.world.pool.held = none ∧ v.world.pool.AllClosed

theorem Settled.leave {start v : Viewer} {asked : List Request} (h : Settled start asked v)
    (hclear : v.studio.renderer.hasInstance = true → (canvas.clear v.world).1 = .ok ()) :
    ∃ u, Program.leave v = (.ok (), u) ∧ Gone u ∧ (start.world.hasPage = false → u.world.hasPage = false) ∧
      u.requests = v.requests ∧ u.world.page.path = v.world.page.path := by
  obtain ⟨t, hrelease, hstaged, hrenderer, -⟩ := h.staged.release hclear
  have hclose : Viewer.close v = (.ok (), v.onStage t) := by
    rw [Viewer.close, Viewer.release_apply, hrelease]
  have hbooks := Viewer.release_keeps_books v
  rw [show Viewer.release v = _ from hclose] at hbooks
  simp only [Viewer.books, World.books, Prod.mk.injEq] at hbooks
  obtain ⟨-, hrequests, hpool, hpath⟩ := hbooks
  have hlive : t.renderer.live = none := by rw [hrenderer]
  have hhidden : t.renderer.hasInstance = false := by
    rw [Renderer.hasInstance, hlive, Option.isSome_none]
  have htidy : t.outside.pool.Tidy := by
    rw [show t.outside.pool = v.world.pool from hpool]
    exact h.tidy
  refine ⟨_, Act.bind_apply_ok hclose, ⟨hhidden, ?_, rfl, htidy.shut⟩, fun hclean => ?_, hrequests, hpath⟩
  · rw [← Option.map_none, ← hlive]
    exact hstaged.bound
  · exact hstaged.unpaged hclean hhidden

theorem settled_start {v : Viewer} (hidle : v.Idle) (hlive : v.studio.renderer.live = none)
    (hfree : v.studio.surface.bound = none) (htidy : v.world.pool.Tidy) : Settled v [] v where
  idle := hidle
  staged := staged_of_hidden hlive hfree id
  tidy := htidy
  client := rfl
  path := rfl
  sent := ⟨[], (List.append_nil _).symm, .nil⟩

end DependencyAtlas.Session

namespace DependencyAtlas.Program

open Scan Session Stage

def after (v : Viewer) (lines : List String) : Viewer :=
  (forM lines answer v).2

def prompted (v : Viewer) (lines : List String) : Viewer :=
  (prompt (after v lines)).2

/-- Verbose mode is off, what can go wrong with each line is of the kinds that are complained about, and at the
end the page can be cleared. -/
structure Undisturbed (v : Viewer) (lines : List String) : Prop where
  quiet : ∀ before, before <+: lines → (after v before).Quiet
  admits : ∀ before line, before ++ [line] <+: lines → (prompted v before).Admits line
  clears : (prompted v lines).studio.renderer.hasInstance = true →
    (canvas.clear (prompted v lines).world).1 = .ok ()

structure Answered (v : Viewer) (lines : List String) : Prop where
  ended : forM lines answer v = (.ok (), after v lines)
  paged : (after v lines).studio.renderer.hasInstance = true → (after v lines).world.hasPage = true
  page : v.world.hasPage = false → (after v lines).world.hasPage = (after v lines).studio.renderer.hasInstance
  path : (after v lines).world.page.path = v.world.page.path
  sent : ∃ sent, (after v lines).requests = v.requests ++ sent ∧
    List.Forall₂ (SentAs v.client) (requested lines) sent

structure Conversation (v : Viewer) (input : List String) (t : Viewer) : Prop where
  in_turn : lines input v = (do
    forM (heard input) answer
    prompt) v
  between : ∀ before, before <+: heard input → Answered v before
  ended : (lines input).andFinally leave v = (.ok (), t)
  path : t.world.page.path = v.world.page.path
  sent : ∃ sent, t.requests = v.requests ++ sent ∧
    List.Forall₂ (SentAs v.client) (requested (heard input)) sent
  gone : Gone t
  unpaged : v.world.hasPage = false → t.world.hasPage = false

theorem after_concat {v u : Viewer} {before : List String} (hbefore : forM before answer v = (.ok (), u))
    (line : String) : forM (before ++ [line]) answer v = answer line u := by
  rw [List.forM_append, Act.bind_apply_ok hbefore, List.forM_cons]
  exact congrFun (bind_pure_unit) u

theorem answered_settled {v : Viewer} (hstart : Settled v [] v) {lines : List String}
    (hquiet : ∀ before, before <+: lines → (after v before).Quiet)
    (hadmits : ∀ before line, before ++ [line] <+: lines → (prompted v before).Admits line)
    (hheard : ∀ line ∈ lines, isQuit line = false) :
    forM lines answer v = (.ok (), after v lines) ∧ Settled v (requested lines) (after v lines) := by
  -- From the end: what is taken of a line is taken of the viewer after the lines before it.
  induction lines using List.reverseRecOn with
  | nil => exact ⟨rfl, hstart⟩
  | append_singleton before line ih =>
    have hbegins : before <+: before ++ [line] := List.prefix_append before [line]
    obtain ⟨hended, hsettled⟩ := ih (fun _ h => hquiet _ (h.trans hbegins))
      (fun _ _ h => hadmits _ _ (h.trans hbegins))
      (fun l hl => hheard l (List.mem_append_left _ hl))
    have hconcat := after_concat hended line
    have hafter : (answer line (after v before)).2.Quiet := by
      rw [← hconcat]
      exact hquiet _ (List.prefix_refl _)
    obtain ⟨u, hanswer, hu⟩ := hsettled.answer (hquiet before hbegins)
      (hheard line (List.mem_append_right _ List.mem_cons_self))
      (hadmits before line (List.prefix_refl _)) hafter
    have hu' : after v (before ++ [line]) = u := by
      rw [after, hconcat, hanswer]
    rw [hu', hconcat, requested_append]
    exact ⟨hanswer, hu⟩

theorem isQuit_of_heard {input : List String} {line : String} (h : line ∈ heard input) :
    isQuit line = false := by
  simpa using List.mem_takeWhile_imp h

theorem converses {v : Viewer} (hstart : Settled v [] v) {input : List String}
    (h : Undisturbed v (heard input)) : ∃ t, Conversation v input t := by
  have hanswered {before : List String} (hbefore : before <+: heard input) :=
    answered_settled hstart (fun _ hb => h.quiet _ (hb.trans hbefore))
      (fun _ _ hb => h.admits _ _ (hb.trans hbefore))
      fun _ hline => isQuit_of_heard (hbefore.subset hline)
  obtain ⟨hended, hsettled⟩ := hanswered (List.prefix_refl _)
  obtain ⟨u, hprompt, hready⟩ := hsettled.prompt
  have hprompted : prompted v (heard input) = u := by
    rw [prompted, hprompt]
  obtain ⟨t, hleave, hgone, hunpaged, hrequests, hpath⟩ := hready.leave (hprompted ▸ h.clears)
  have hlines : lines input v = (.ok (), u) := by
    rw [lines_eq, Act.bind_apply_ok hended]
    exact hprompt
  refine ⟨t, congrFun (lines_eq input) v, fun before hbefore => ?_, ?_, hpath.trans hready.path,
    hrequests ▸ hready.sent, hgone, hunpaged⟩
  · obtain ⟨hdone, hsettled⟩ := hanswered hbefore
    exact ⟨hdone, hsettled.staged.page, hsettled.staged.hasPage, hsettled.path, hsettled.sent⟩
  · rw [Act.andFinally_apply, hlines]
    dsimp only
    rw [hleave]

def helpText : String :=
  (Console.Markup.render help).toOption.getD ""

theorem render_help : Console.Markup.render help = .ok helpText := by
  have hshown : ∃ text, Console.Markup.render help = .ok text := by
    unfold Console.Markup.render help
    -- The parts are much faster to evaluate than the whole text.
    simp only [String.toList_append]
    decide +kernel
  obtain ⟨text, htext⟩ := hshown
  rw [helpText, htext]
  rfl

def welcomed (viewer : Viewer) (w : World) : Viewer :=
  viewer.setWorld (print help w).2

theorem print_help (w : World) :
    print help w = (.ok (), { w with printed := w.printed ++ [helpText ++ "\n"] }) :=
  write_of_text render_help "\n" w

theorem welcomed_eq (viewer : Viewer) (w : World) : welcomed viewer w =
    viewer.setWorld { w with printed := w.printed ++ [helpText ++ "\n"] } := by
  rw [welcomed, print_help]

section

variable {flags : Flags} {opens : Bool} {w w' : World} {viewer : Viewer}
  (hprepare : prepare flags opens w = (.ok viewer, w'))

include hprepare

theorem view_of_prepared (input : List String) : view flags opens input w =
    (((lines input).andFinally leave (welcomed viewer w')).1,
      ((lines input).andFinally leave (welcomed viewer w')).2.world) := by
  rw [view, Act.bind_apply_ok hprepare, Act.bind_apply_ok (print_help w'), welcomed_eq]
  rfl

/-- All lines of a session are answered, each path among them is asked for once, the page is there while something is
shown, and nothing is left at the end, nor is a page, unless there was one before. -/
theorem session_converses (htidy : w'.pool.Tidy) {input : List String}
    (h : Undisturbed (welcomed viewer w') (heard input)) :
    ∃ t, Conversation (welcomed viewer w') input t ∧ view flags opens input w = (.ok (), t.world) := by
  obtain ⟨_, _, -, hopened⟩ := Act.bind_eq_ok hprepare
  obtain ⟨hidle, hlive, hfree⟩ := openViewer_fresh hopened
  have hstart : Settled (welcomed viewer w') [] (welcomed viewer w') := by
    rw [welcomed_eq]
    exact settled_start hidle hlive hfree htidy
  obtain ⟨t, hconversation⟩ := converses hstart h
  refine ⟨t, hconversation, ?_⟩
  rw [view_of_prepared hprepare, hconversation.ended]

end

section

open Files Layout

def Plain (d : Disk) : Prop :=
  d.here = [] ∧ ∀ entry ∈ d.items, entry.2 ≠ .folder

instance (d : Disk) : Decidable (Plain d) :=
  inferInstanceAs (Decidable (_ ∧ _))

def Simple (w : World) : Prop :=
  Plain w.disk ∧ w.page.path = ⟨"", [livePageName]⟩ ∧ w.page.opens = false ∧
    ∀ mishap ∈ w.mishaps, mishap.all Failure.stopsDrawing = true

instance (w : World) : Decidable (Simple w) :=
  inferInstanceAs (Decidable (_ ∧ _ ∧ _ ∧ _))

section

variable {d : Disk} (h : Plain d)

include h

theorem Plain.makeFolders : d.makeFolders ⟨"", []⟩ = .ok d := by
  obtain ⟨items, here⟩ := d
  obtain rfl : here = [] := h.1
  rfl

theorem Plain.locate : d.locate ⟨"", [livePageName]⟩ = .ok [livePageName] := by
  obtain ⟨items, here⟩ := d
  obtain rfl : here = [] := h.1
  rfl

theorem Plain.at? : d.at? [livePageName] ≠ some .folder := by
  rw [Disk.at?_eq_lookup (List.cons_ne_nil _ _)]
  exact fun hfolder => h.2 _ (mem_of_lookup hfolder) rfl

theorem Plain.unlink : ∃ e, d.unlink ⟨"", [livePageName]⟩ = .ok e ∧ Plain e := by
  have hat := h.at?
  rw [Disk.unlink, h.locate]
  dsimp only
  rcases hfound : d.at? [livePageName] with _ | _ | text
  · exact ⟨d, rfl, h⟩
  · exact absurd hfound hat
  · exact ⟨_, rfl, h.1, fun entry hentry => h.2 entry (List.mem_of_mem_filter hentry)⟩

theorem Plain.write (text : String) : ∃ e, d.write ⟨"", [livePageName]⟩ text = .ok e ∧ Plain e := by
  have hplace : d.place ⟨"", [livePageName]⟩ = .ok [livePageName] := by
    rw [Disk.place, h.locate]
    rfl
  have hwritten : d.write ⟨"", [livePageName]⟩ text = .ok (d.put [livePageName] (.file text)) := by
    rw [Disk.write, hplace, ok_bind]
    split
    · next hfolder => exact absurd hfolder h.at?
    · rfl
  refine ⟨_, hwritten, ?_⟩
  rw [Disk.put]
  split
  · refine ⟨h.1, fun entry hentry => ?_⟩
    obtain ⟨old, hold, rfl⟩ := List.mem_map.mp hentry
    split
    · rintro ⟨⟩
    · exact h.2 old hold
  · refine ⟨h.1, fun entry hentry => ?_⟩
    rcases List.mem_append.mp hentry with hold | hnew
    · exact h.2 entry hold
    · rw [List.mem_singleton.mp hnew]
      rintro ⟨⟩

end

def StopsDraws (ended : Except Failure Unit × World) : Prop :=
  Simple ended.2 ∧ ∀ failure, ended.1 = .error failure → failure.stopsDrawing = true

namespace Simple

variable {w : World} (h : Simple w)

include h

theorem clear : (canvas.clear w).1 = .ok () ∧ Simple (canvas.clear w).2 := by
  obtain ⟨hplain, hpath, hmishaps⟩ := h
  obtain ⟨e, hunlink, he⟩ := hplain.unlink
  rw [clear_apply, hpath, hunlink]
  exact ⟨rfl, he, hpath, hmishaps⟩

theorem nextMishap : StopsDraws (nextMishap w) := by
  obtain ⟨hplain, hpath, hopens, hmishaps⟩ := h
  rw [Session.nextMishap, Act.bind_apply_ok (Act.get_apply w)]
  rcases hnext : w.mishaps with _ | ⟨_ | failure, rest⟩
  · exact ⟨⟨hplain, hpath, hopens, hmishaps⟩, nofun⟩
  · rw [hnext, List.forall_mem_cons] at hmishaps
    exact ⟨⟨hplain, hpath, hopens, hmishaps.2⟩, nofun⟩
  · rw [hnext, List.forall_mem_cons] at hmishaps
    refine ⟨⟨hplain, hpath, hopens, hmishaps.2⟩, fun other hother => ?_⟩
    obtain rfl : failure = other := Except.error.inj hother
    exact hmishaps.1

theorem writePage (figure : Drawing.Figure Float) : StopsDraws ((do
    writeSheet .live ⟨"", [livePageName]⟩ figure
    openPage : Act World Unit) w) := by
  have hsheet : writeSheet .live ⟨"", [livePageName]⟩ figure w =
      writeFile ⟨"", [livePageName]⟩ (w.html .live figure) w := rfl
  have hnext := h.nextMishap
  rcases hmishap : Session.nextMishap w with ⟨failure | _, u⟩
  · rw [hmishap] at hnext
    have hwritten : writeSheet .live ⟨"", [livePageName]⟩ figure w = (.error failure, u) :=
      hsheet.trans (Act.bind_apply_error hmishap)
    rw [Act.bind_apply_error hwritten]
    exact ⟨hnext.1, hnext.2⟩
  · rw [hmishap] at hnext
    obtain ⟨⟨hplain, hpath, hopens, hmishaps⟩, -⟩ := hnext
    obtain ⟨e, hwrite, he⟩ := hplain.write (w.html .live figure)
    have hwritten : writeSheet .live ⟨"", [livePageName]⟩ figure w = (.ok (), { u with disk := e }) := by
      rw [hsheet, writeFile, Act.bind_apply_ok hmishap, edit, Act.bind_apply_ok (Act.get_apply u), hwrite]
      rfl
    have hunopened : openPage { u with disk := e } = (.ok (), { u with disk := e }) := by
      rw [openPage, Act.bind_apply_ok (Act.get_apply _)]
      dsimp only
      rw [hopens]
      rfl
    rw [Act.bind_apply_ok hwritten, hunopened]
    exact ⟨⟨he, hpath, hopens, hmishaps⟩, by rintro _ ⟨⟩⟩

theorem draw (figure : Drawing.Figure Float) : StopsDraws (canvas.draw figure w) := by
  have hfolders : edit (fun disk => disk.makeFolders w.page.path.parent)
      { w with attempts := w.attempts ++ [figure] } =
      (.ok (), { w with attempts := w.attempts ++ [figure] }) := by
    have hparent : w.page.path.parent = ⟨"", []⟩ := by
      rw [h.2.1]
      rfl
    rw [edit, Act.bind_apply_ok (Act.get_apply _), hparent, h.1.makeFolders]
    rfl
  have hdraw : canvas.draw figure w = (do
      edit fun disk => disk.makeFolders w.page.path.parent
      writeSheet .live w.page.path figure
      openPage : Act World Unit) { w with attempts := w.attempts ++ [figure] } := rfl
  rw [hdraw, Act.bind_apply_ok hfolders, h.2.1]
  exact @writePage { w with attempts := w.attempts ++ [figure] } h _

theorem orderly : w.Orderly where
  clears := ⟨h.clear.1, fun figure => (h.draw figure).1.clear.1⟩
  stops figure := (h.draw figure).2

end Simple

def firstWorld : World :=
  { bareWorld with
    settings := { bareWorld.settings with
      server := some "http://localhost:8080"
      timeout := some (.int 30)
      outputDir := some ⟨"", []⟩ }
    replies := [.answer oneNode]
    mishaps := [some (.outside .value "no room")] }

def firstViewer : Viewer :=
  newViewer.setWorld { firstWorld with page := ⟨⟨"", [livePageName]⟩, false, false⟩ }

def fewLines : List String :=
  [" a ", "b", ":relayout", ":zoom", ":q", "c"]

theorem firstViewer_prepared : prepare {} false firstWorld = (.ok firstViewer, firstViewer.world) :=
  rfl

theorem admits_of_command {v : Viewer} {line argument : String} {command : Command}
    (hline : Command.ofLine line = .ok (command, argument)) (hexports : command.exports = false)
    (h : v.Favours command argument) : v.Admits line where
  favours := by
    rintro _ _ hfound
    rw [hline] at hfound
    cases hfound
    exact h
  prints := by
    rintro _ _ _ _ hfound hother
    rw [hline] at hfound
    cases hfound
    cases hexports.symm.trans hother

theorem admits_of_error {v : Viewer} {line : String} {failure : Failure}
    (hline : Command.ofLine line = .error failure) : v.Admits line where
  favours _ _ hfound := by cases hline.symm.trans hfound
  prints _ _ _ _ hfound := by cases hline.symm.trans hfound

structure BringsOne (v : Viewer) (text : String) : Prop where
  sends : ∃ waiting, (Viewer.send ⟨Text.trimmed text⟩ v.started).1 = .ok waiting
  brings : (Viewer.scan ⟨Text.trimmed text⟩ v.started).1.toOption.map (·.nodes.length) = some 1
  simple : Simple (Viewer.scan ⟨Text.trimmed text⟩ v.started).2.world
  computes : v.studio.renderer.policy.Computes 1

instance (v : Viewer) (text : String) : Decidable (BringsOne v text) :=
  decidable_of_iff (_ ∧ _ ∧ _ ∧ _) ⟨fun ⟨a, b, c, d⟩ => ⟨a, b, c, d⟩, fun ⟨a, b, c, d⟩ => ⟨a, b, c, d⟩⟩

theorem BringsOne.submits {v : Viewer} {text : String} (h : BringsOne v text) : v.Submits text := by
  have hbrings := h.brings
  have hsimple := h.simple
  rcases hscan : (Viewer.scan ⟨Text.trimmed text⟩ v.started).1 with failure | g
  · rw [hscan] at hbrings
    cases hbrings
  rw [hscan] at hbrings
  have hone : g.nodes.length = 1 := Option.some.inj hbrings
  refine ⟨h.sends, ?_, fun _ _ => hsimple.orderly, fun _ _ => hsimple.clear.2.orderly, ?_⟩
  · rw [hscan]
    nofun
  · rw [hscan]
    rintro _ ⟨⟩ -
    exact hone ▸ h.computes

def greeted : Viewer :=
  firstViewer.setWorld { firstViewer.world with printed := [helpText ++ "\n"] }

section

variable {α : Type} {P : List α → α → Prop}

theorem forall_concat_prefix_nil : ∀ before x, before ++ [x] <+: [] → P before x := by
  intro before x h
  cases List.append_ne_nil_of_right_ne_nil before (List.cons_ne_nil x []) (List.prefix_nil.mp h)

theorem forall_concat_prefix_cons {y : α} {rest : List α} (hfirst : P [] y)
    (hrest : ∀ before x, before ++ [x] <+: rest → P (y :: before) x) :
    ∀ before x, before ++ [x] <+: y :: rest → P before x := by
  intro before x h
  cases before with
  | nil =>
    obtain ⟨rfl, -⟩ := List.cons_prefix_cons.mp h
    exact hfirst
  | cons z before =>
    obtain ⟨rfl, htail⟩ := List.cons_prefix_cons.mp h
    exact hrest before x htail

end

theorem fewLines_undisturbed : Undisturbed greeted (heard fewLines) := by
  have hheard : heard fewLines = [" a ", "b", ":relayout", ":zoom"] := by decide +kernel
  rw [hheard]
  have hcalm : ∀ before ∈ [" a ", "b", ":relayout", ":zoom"].inits,
      (after greeted before).world.settings.isVerbose (after greeted before).world.around = .ok false ∧
        Simple (prompted greeted before).world := by
    decide +kernel
  have hsimple {before : List String} (h : before <+: [" a ", "b", ":relayout", ":zoom"]) :
      Simple (prompted greeted before).world :=
    (hcalm before ((List.mem_inits _ _).mpr h)).2
  refine ⟨fun before h => (hcalm before ((List.mem_inits _ _).mpr h)).1, ?_, fun _ =>
    (hsimple (List.prefix_refl _)).clear.1⟩
  refine forall_concat_prefix_cons ?_ <| forall_concat_prefix_cons ?_ <|
    forall_concat_prefix_cons ?_ <| forall_concat_prefix_cons ?_ forall_concat_prefix_nil
  · have hline : Command.ofLine " a " = .ok (.submit, "a") := rfl
    have hbrings : BringsOne (prompted greeted []) "a" := by decide +kernel
    exact admits_of_command hline rfl fun _ => hbrings.submits
  · have hline : Command.ofLine "b" = .ok (.submit, "b") := rfl
    have hbrings : BringsOne (prompted greeted [" a "]) "b" := by decide +kernel
    exact admits_of_command hline rfl fun _ => hbrings.submits
  · have hline : Command.ofLine ":relayout" = .ok (.relayout, "") := rfl
    have hbefore : [" a ", "b"] <+: [" a ", "b", ":relayout", ":zoom"] := ⟨[":relayout", ":zoom"], rfl⟩
    exact admits_of_command hline rfl (hsimple hbefore).orderly.stops
  · exact admits_of_error (show Command.ofLine ":zoom" = .error _ from rfl)

theorem session_converses_one_node :
    prepare {} false firstWorld = (.ok firstViewer, firstViewer.world) ∧ firstViewer.world.pool.Tidy ∧
      Undisturbed (welcomed firstViewer firstViewer.world) (heard fewLines) ∧
      ∃ t, Conversation (welcomed firstViewer firstViewer.world) fewLines t ∧
        view {} false fewLines firstWorld = (.ok (), t.world) := by
  have htidy : firstViewer.world.pool.Tidy := nofun
  have hundisturbed : Undisturbed (welcomed firstViewer firstViewer.world) (heard fewLines) := by
    rw [welcomed_eq]
    exact fewLines_undisturbed
  exact ⟨firstViewer_prepared, htidy, hundisturbed,
    session_converses firstViewer_prepared htidy hundisturbed⟩

def blockedWorld : World :=
  { firstWorld with
    settings := { firstWorld.settings with outputDir := some ⟨"", ["out"]⟩ }
    disk := ⟨[(["out"], .file "")], []⟩
    mishaps := [] }

def blockedViewer : Viewer :=
  newViewer.setWorld { blockedWorld with page := ⟨⟨"", ["out", livePageName]⟩, false, false⟩ }

/-- Where the page can neither be drawn nor cleared, a session ends at its first path. -/
theorem session_stops_at_file :
    prepare {} false blockedWorld = (.ok blockedViewer, blockedViewer.world) ∧
      blockedViewer.world.hasPage = false ∧ blockedViewer.world.pool.Tidy ∧
      (welcomed blockedViewer blockedViewer.world).Quiet ∧
      (Viewer.scan ⟨"a"⟩ (welcomed blockedViewer blockedViewer.world).started).1.isOk = true ∧
      (∀ figure, ∃ failure, (canvas.draw figure blockedViewer.world).1 = .error failure ∧
        failure.stopsDrawing = true) ∧
      requested (heard ["a", "b"]) = [⟨"a"⟩, ⟨"b"⟩] ∧
      (view {} false ["a", "b"] blockedWorld).1 ≠ .ok () ∧
      (view {} false ["a", "b"] blockedWorld).2.requests.length = 1 := by
  have hprepared : prepare {} false blockedWorld = (.ok blockedViewer, blockedViewer.world) := rfl
  rw [view_of_prepared hprepared, welcomed_eq]
  refine ⟨hprepared, rfl, nofun, rfl, by decide +kernel, fun _ => ⟨_, rfl, rfl⟩, by decide +kernel,
    fun hended => ?_, by decide +kernel⟩
  have hok := congrArg Except.isOk hended
  revert hok
  decide +kernel

end

end DependencyAtlas.Program
