import DependencyAtlas.Proofs.Decimal.Negation
import DependencyAtlas.Proofs.Layout.Packing
import DependencyAtlas.Proofs.Session.Apart

/-!
Runs of a session: commands are carried out in turn, and something may go wrong with the files and pictures of each.
The main statement compares a run with the same run without its exports: all else is the same.
-/

namespace DependencyAtlas.Session

open Files Scan Stage Drawing Layout
open Act (Maintains Respects keeps_iff)

/-- A command, what goes wrong with the files it writes, in turn, why there is no picture if none is painted, and how
figures are written as pages this time. -/
structure Turn where
  command : Command
  argument : String
  mishaps : List (Option Failure)
  unpainted : Option Failure
  html : Sheet → Figure Float → String

namespace Turn

def exports (t : Turn) : Bool :=
  t.command.exports

def writer (paint : Figure Float → String) (t : Turn) (r : Renderer Unit) : ImageWriter :=
  match t.unpainted, r.snapshot with
  | some failure, _ => .fails failure
  | none, .ok (some figure) => .writes (paint figure)
  | none, _ => .writes ""

def meet (paint : Figure Float → String) (t : Turn) (v : Viewer) : Viewer :=
  v.setWorld { v.world with mishaps := t.mishaps, image := t.writer paint v.studio.renderer, html := t.html }

def take (paint : Figure Float → String) (t : Turn) : Act Viewer Outcome := fun v =>
  Viewer.dispatch t.command t.argument (t.meet paint v)

structure Converted (t : Turn) : Prop where
  painted : t.command = .exportImage → ∀ failure, t.unpainted = some failure → failure.stopsExport = true
  written : ∀ failure, t.mishaps.head? = some (some failure) → t.command.stops failure = true

end Turn

def happened (paint : Figure Float → String) : List Turn → Viewer → List (Turn × Except Failure Outcome)
  | [], _ => []
  | t :: rest, v => (t, (t.take paint v).1) :: happened paint rest (t.take paint v).2

def after (paint : Figure Float → String) (turns : List Turn) (v : Viewer) : Viewer :=
  turns.foldl (fun v t => (t.take paint v).2) v

def others (turns : List Turn) : List Turn :=
  turns.filter fun t => !t.exports

namespace Viewer

def faced (v : Viewer) : Viewer :=
  v.onWorld World.faced

end Viewer

section

variable {paint : Figure Float → String} {turns : List Turn} {t : Turn} {v : Viewer} {dir page : Path} {here : Location}

theorem after_append (before rest : List Turn) (v : Viewer) :
    after paint (before ++ rest) v = after paint rest (after paint before v) :=
  List.foldl_append

theorem take_respects (h : t.exports = false) : Respects Viewer.faced (t.take paint) := by
  intro v w hvw
  have hrenderer : v.studio.renderer = w.studio.renderer := (congrArg (fun u : Viewer => u.studio.renderer) hvw :)
  have hmet : (t.meet paint v).onWorld World.sighted = (t.meet paint w).onWorld World.sighted := by
    have hset := congrArg (fun u : Viewer =>
      u.setWorld { u.world with mishaps := t.mishaps, image := t.writer paint v.studio.renderer, html := t.html }) hvw
    rw [Turn.meet, Turn.meet, ← hrenderer]
    exact hset
  obtain ⟨hresult, hstate⟩ := World.sighted_overlooked.dispatch World.tell_sighted h t.argument _ _ hmet
  refine ⟨hresult, ?_⟩
  exact congrArg (fun u : Viewer =>
    u.setWorld { u.world with mishaps := [], image := .writes "", html := fun _ _ => "" }) hstate

theorem take_sound (t : Turn) : Maintains (Viewer.Sound page here) (t.take paint) := by
  intro v h
  exact Viewer.sound_stays.dispatch _ _ _ ⟨⟨h.firm.rooted, h.firm.page, h.firm.here⟩, h.folder, h.joined, h.built⟩

inductive Content where
  | figure (figure : Figure Float)
  | document (document : Value)

def Command.content (command : Command) (r : Renderer Unit) : Except Failure (Option Content) :=
  match command with
  | .exportElements => r.document.map fun shown => shown.map .document
  | _ => r.snapshot.map fun shown => shown.map .figure

def Turn.text (paint : Figure Float → String) (t : Turn) : Content → String
  | .document document => Json.indented document
  | .figure figure => if t.command = .exportPage then t.html .exported figure else paint figure

theorem renderer_meet (paint : Figure Float → String) (t : Turn) (v : Viewer) :
    (t.meet paint v).studio.renderer = v.studio.renderer :=
  rfl

theorem brought_of_offered {brought : Except Failure String}
    (h : (t.meet paint v).offered t.command = .ok (some brought)) (hexports : t.exports = true) :
    (∃ c, brought = .ok (t.text paint c) ∧ t.command.content v.studio.renderer = .ok (some c)) ∨
      ∃ failure, brought = .error failure ∧ t.command = .exportImage ∧ t.unpainted = some failure := by
  rw [Turn.exports] at hexports
  rcases hcommand : t.command with _ | _ | _ | _ | _ | _ | _ <;> rw [hcommand] at h hexports
  case exportImage =>
    have himage : (t.meet paint v).world.image = t.writer paint v.studio.renderer := rfl
    have hcontent : Command.exportImage.content v.studio.renderer =
        v.studio.renderer.snapshot.map fun shown => shown.map .figure := rfl
    simp only [Viewer.offered, renderer_meet, himage] at h
    rw [hcontent]
    rcases hsnapshot : v.studio.renderer.snapshot with _ | _ | figure <;> rw [hsnapshot] at h
    · cases h
    · cases h
    · obtain rfl : (t.writer paint v.studio.renderer).brought = brought := Option.some.inj (Except.ok.inj h)
      rcases hunpainted : t.unpainted with _ | failure <;> rw [Turn.writer, hunpainted, hsnapshot]
      · exact .inl ⟨.figure figure, by rw [Turn.text, hcommand]; rfl, rfl⟩
      · exact .inr ⟨failure, rfl, rfl, rfl⟩
  case exportPage =>
    have hhtml : (t.meet paint v).world.html = t.html := rfl
    have hcontent : Command.exportPage.content v.studio.renderer =
        v.studio.renderer.snapshot.map fun shown => shown.map .figure := rfl
    simp only [Viewer.offered, renderer_meet, hhtml] at h
    rw [hcontent]
    rcases hsnapshot : v.studio.renderer.snapshot with _ | _ | figure <;> rw [hsnapshot] at h
    · cases h
    · cases h
    · obtain rfl : .ok (t.html .exported figure) = brought := Option.some.inj (Except.ok.inj h)
      exact .inl ⟨.figure figure, by rw [Turn.text, if_pos hcommand], rfl⟩
  case exportElements =>
    simp only [Viewer.offered, renderer_meet] at h
    rw [Command.content]
    rcases hdocument : v.studio.renderer.document with _ | _ | document <;> rw [hdocument] at h
    · cases h
    · cases h
    · exact .inl ⟨.document document, (Option.some.inj (Except.ok.inj h)).symm, rfl⟩
  all_goals cases hexports

inductive Exported (paint : Figure Float → String) (dir : Path) (t : Turn) (v : Viewer) : Prop
  | written {c : Content} (hcontent : t.command.content v.studio.renderer = .ok (some c))
    (hresult : (t.take paint v).1 = .ok (.path (dir.child t.command.fileName)))
    (hfile : (t.take paint v).2.world.disk.find? (dir.child t.command.fileName) = some (.file (t.text paint c)))
  | complaint {text : String} (hresult : (t.take paint v).1 = .error (.complaint (.exporting text)))
  | unsized {side : Float} {m : Misuse} (hcommand : t.command ≠ .exportElements) (hside : side ∈ v.studio.renderer.sides)
    (hround : floatGauge.roundUp side = .error m) (hresult : (t.take paint v).1 = .error (.misuse m))
    (hdisk : (t.take paint v).2.world.disk = v.world.disk)

structure ExportEnds (paint : Figure Float → String) (dir : Path) (t : Turn) (v : Viewer) : Prop where
  nothing_iff : (t.take paint v).1 = .ok .none ↔ v.studio.renderer.hasInstance = false
  untouched : v.studio.renderer.hasInstance = false → (t.take paint v).2.world.disk = v.world.disk
  shown : v.studio.renderer.hasInstance = true → Exported paint dir t v

theorem Exported.something (h : Exported paint dir t v) : (t.take paint v).1 ≠ .ok .none := by
  rcases h with ⟨-, hresult, -⟩ | ⟨hresult⟩ | ⟨-, -, -, hresult, -⟩ <;> rw [hresult] <;> nofun

theorem stops_file (command : Command) (fault : Fault) : command.stops (.file fault) = true := by
  cases command <;> rfl

section

variable (hexports : t.exports = true) (hsound : v.Sound page here)
  (hdir : v.world.settings.getOutputDir v.world.around = .ok dir)

include hexports hdir

theorem take_hidden (hlive : v.studio.renderer.live = none) : t.take paint v = (.ok .none, t.meet paint v) := by
  have hoffered := Viewer.offered_of_hidden (v := t.meet paint v) hlive t.command
  rcases Viewer.export_ends (v := t.meet paint v) hexports t.argument hdir with
    ⟨_, hcontent, -⟩ | ⟨-, htake⟩ | ⟨_, _, _, hcontent, -⟩
  · cases hoffered.symm.trans hcontent
  · exact htake
  · cases hoffered.symm.trans hcontent

include hsound

theorem take_shown (hconverted : t.Converted) {live : Live} (hlive : v.studio.renderer.live = some live) :
    Exported paint dir t v := by
  have hjoined := hsound.joined live.visualization.graph (by rw [Renderer.elements, hlive]; rfl)
  have hcomplete := (hsound.built live hlive).complete hjoined
  have hoffered := Viewer.offered_of_live (v := t.meet paint v) hlive hjoined hcomplete hexports
  rcases Viewer.export_ends (v := t.meet paint v) hexports t.argument hdir with
    ⟨failure, hcontent, htake⟩ | ⟨hcontent, -⟩ | ⟨brought, result, w, hcontent, hsaved, htake⟩
  · rcases hoffered with ⟨_, hsome⟩ | ⟨hcommand, side, m, hside, hround, hmisuse⟩
    · cases hsome.symm.trans hcontent
    · cases hmisuse.symm.trans hcontent
      change t.take paint v = _ at htake
      exact .unsized hcommand hside hround (by rw [htake]) (by rw [htake]; rfl)
  · rcases hoffered with ⟨_, hsome⟩ | ⟨-, _, _, -, -, hmisuse⟩
    · cases hsome.symm.trans hcontent
    · cases hmisuse.symm.trans hcontent
  · change t.take paint v = _ at htake
    cases hsaved with
    | folderless _ => exact .complaint (by rw [htake]; rfl)
    | @failed _ _ failure _ hwhy =>
      have hstops : t.command.stops failure = true := by
        rcases hwhy with rfl | hmishap | ⟨fault, rfl⟩
        · rcases brought_of_offered hcontent hexports with ⟨_, ⟨⟩, -⟩ | ⟨_, ⟨⟩, hcommand, hunpainted⟩
          rw [hcommand]
          exact hconverted.painted hcommand _ hunpainted
        · exact hconverted.written _ hmishap
        · exact stops_file _ _
      rw [if_pos hstops] at htake
      exact .complaint (by rw [htake]; rfl)
    | @written _ _ _ text _ hbrought hwritten =>
      rcases brought_of_offered hcontent hexports with ⟨c, htext, hwhat⟩ | ⟨_, hfailed, -⟩
      · obtain rfl := Except.ok.inj (hbrought.symm.trans htext)
        exact .written hwhat (by rw [htake]; rfl) (by rw [htake]; exact Disk.find?_of_write hwritten)
      · cases hbrought.symm.trans hfailed

theorem exportEnds (hconverted : t.Converted) : ExportEnds paint dir t v := by
  rcases hlive : v.studio.renderer.live with _ | live
  · have htake : t.take paint v = _ := take_hidden hexports hdir hlive
    have hhidden : v.studio.renderer.hasInstance = false := by
      rw [Renderer.hasInstance, hlive]
      rfl
    refine ⟨⟨fun _ => hhidden, fun _ => by rw [htake]⟩, fun _ => by rw [htake]; rfl, fun hshown => ?_⟩
    cases hhidden.symm.trans hshown
  · have hexported : Exported paint dir t v := take_shown hexports hsound hdir hconverted hlive
    have hshown : v.studio.renderer.hasInstance = true := by
      rw [Renderer.hasInstance, hlive]
      rfl
    refine ⟨⟨fun hnone => absurd hnone hexported.something, fun hhidden => ?_⟩, fun hhidden => ?_, fun _ => hexported⟩
    · cases hhidden.symm.trans hshown
    · cases hhidden.symm.trans hshown

theorem take_unseen (hapart : Apart dir page here) : (t.take paint v).2.faced = v.faced := by
  rcases hlive : v.studio.renderer.live with _ | live
  · rw [take_hidden hexports hdir hlive]
    rfl
  rcases Viewer.export_ends (v := t.meet paint v) hexports t.argument hdir with
    ⟨failure, -, htake⟩ | ⟨-, htake⟩ | ⟨brought, result, w, -, hsaved, htake⟩ <;> change t.take paint v = _ at htake
  · rw [htake]
    rfl
  · rw [htake]
    rfl
  · have hfolder : v.world.hasFolder = true := hsound.folder (by rw [Renderer.hasInstance, hlive]; rfl)
    have hfirm : (t.meet paint v).world.Firm page here := ⟨hsound.firm.rooted, hsound.firm.page, hsound.firm.here⟩
    have hunseen := World.saved_unseen hfirm hfolder hapart (fileName_mem _) hsaved
    rw [htake]
    exact congrArg v.setWorld hunseen

end

theorem export_keeps_renderer {command : Command} (hexports : command.exports = true) (argument : String) :
    Act.Keeps (fun v : Viewer => v.studio.renderer) (Viewer.dispatch command argument) := by
  cases command with
  | exportImage =>
    rw [Viewer.dispatch_exportImage, Viewer.exportImage_eq]
    exact .bind (exportOf_keeps_renderer _ _) fun _ => .pure _
  | exportPage =>
    rw [Viewer.dispatch_exportPage, Viewer.exportPage_eq]
    exact .bind (exportOf_keeps_renderer _ _) fun _ => .pure _
  | exportElements =>
    rw [Viewer.dispatch_exportElements, Viewer.exportElements_eq]
    exact .bind (exportOf_keeps_renderer _ _) fun _ => .pure _
  | _ => cases hexports

def Spared (paint : Figure Float → String) : List Turn → Viewer → Prop
  | [], _ => True
  | t :: rest, v => (t.exports = true ∨ t.command = .submit ∧ (t.meet paint v).Fruitless (.str t.argument)) ∧
      Spared paint rest (t.take paint v).2

theorem spared_renderer (h : Spared paint turns v) : (after paint turns v).studio.renderer = v.studio.renderer := by
  induction turns generalizing v with
  | nil => rfl
  | cons t rest ih =>
    obtain ⟨hturn, hrest⟩ := h
    refine (ih hrest).trans ?_
    rcases hturn with hexports | ⟨hcommand, hfruitless⟩
    · exact export_keeps_renderer hexports t.argument (t.meet paint v)
    · have hkept := (Viewer.parts_of_scenery (Viewer.submit_fruitless hfruitless)).renderer
      rw [Turn.take, hcommand, Viewer.dispatch_submit, Act.bind_apply]
      rcases hsubmit : Viewer.submit (.str t.argument) (t.meet paint v) with ⟨failure | shown, w⟩ <;>
        rw [hsubmit] at hkept <;> exact hkept

theorem Exported.of_path {path : Path} (h : Exported paint dir t v) (hpath : (t.take paint v).1 = .ok (.path path)) :
    ∃ c, t.command.content v.studio.renderer = .ok (some c) ∧
      (t.take paint v).2.world.disk.find? path = some (.file (t.text paint c)) := by
  rcases h with ⟨hcontent, hresult, hfile⟩ | ⟨hresult⟩ | ⟨-, -, -, hresult, -⟩
  · cases hresult.symm.trans hpath
    exact ⟨_, hcontent, hfile⟩
  · cases hresult.symm.trans hpath
  · cases hresult.symm.trans hpath

theorem ExportEnds.of_path {path : Path} (h : ExportEnds paint dir t v)
    (hpath : (t.take paint v).1 = .ok (.path path)) :
    ∃ c, t.command.content v.studio.renderer = .ok (some c) ∧
      (t.take paint v).2.world.disk.find? path = some (.file (t.text paint c)) := by
  have hshown : v.studio.renderer.hasInstance = true := by
    refine eq_true_of_ne_false fun hhidden => ?_
    cases (h.nothing_iff.mpr hhidden).symm.trans hpath
  exact (h.shown hshown).of_path hpath

/-- The output folder is the same all the time. -/
def FolderFixed (paint : Figure Float → String) (dir : Path) (turns : List Turn) (v : Viewer) : Prop :=
  ∀ before, before <+: turns →
    (after paint before v).world.settings.getOutputDir (after paint before v).world.around = .ok dir

theorem FolderFixed.rest (h : FolderFixed paint dir (t :: turns) v) : FolderFixed paint dir turns (t.take paint v).2 :=
  fun before hbefore => h (t :: before) (List.cons_prefix_cons.mpr ⟨rfl, hbefore⟩)

theorem folderFixed_of_set (h : v.world.settings.outputDir = some dir) : FolderFixed paint dir turns v := by
  have hkept (turns : List Turn) : (after paint turns v).world.settings = v.world.settings := by
    induction turns using List.reverseRecOn with
    | nil => rfl
    | append_singleton before t ih =>
      rw [after_append]
      have hstays := Viewer.stays_of_keeps (fun _ => rfl) canvas_keeps_settings (fun _ _ => rfl) (fun _ _ => rfl)
        v.world.settings
      exact hstays.dispatch t.command t.argument (t.meet paint (after paint before v)) ih
  intro before _
  rw [hkept, Settings.getOutputDir, h]

theorem after_sound (h : v.Sound page here) (turns : List Turn) : (after paint turns v).Sound page here := by
  induction turns generalizing v with
  | nil => exact h
  | cons t rest ih => exact ih (take_sound t v h)

theorem others_alike {w : Viewer} (hsound : v.Sound page here) (hapart : Apart dir page here)
    (hfixed : FolderFixed paint dir turns v) (hfaced : v.faced = w.faced) :
    ((happened paint turns v).filter fun entry => !entry.1.exports) = happened paint (others turns) w ∧
      (after paint turns v).faced = (after paint (others turns) w).faced := by
  induction turns generalizing v w with
  | nil => exact ⟨rfl, hfaced⟩
  | cons t rest ih =>
    have hnext : (t.take paint v).2.Sound page here := take_sound t v hsound
    rw [happened, others]
    rcases hexports : t.exports with _ | _
    · have hrespects : Act.Respects Viewer.faced (t.take paint) := take_respects hexports
      obtain ⟨hresult, hstate⟩ := hrespects v w hfaced
      obtain ⟨hresults, hfaces⟩ := ih hnext hfixed.rest hstate
      rw [List.filter_cons_of_pos (by rw [hexports]; rfl), List.filter_cons_of_pos (by rw [hexports]; rfl), happened,
        hresult]
      exact ⟨congrArg _ hresults, hfaces⟩
    · have hunseen : (t.take paint v).2.faced = v.faced :=
        take_unseen hexports hsound (hfixed [] List.nil_prefix) hapart
      rw [List.filter_cons_of_neg (by rw [hexports]; exact Bool.false_ne_true),
        List.filter_cons_of_neg (by rw [hexports]; exact Bool.false_ne_true)]
      exact ih hnext hfixed.rest (hunseen.trans hfaced)

def Viewer.unfiled (v : Viewer) : Viewer :=
  v.setWorld { v.world with disk := .empty [], mishaps := [], image := .writes "", html := fun _ _ => "" }

/-- The exports of a run do not interfere with the rest: without them all else comes to the same, and so do the
state of the viewer and the page. Each ends as exports do, and what is exported again, while the renderer is asked
for nothing else, has the same content. -/
structure ExportsAside (paint : Figure Float → String) (dir : Path) (turns : List Turn) (start : Viewer) : Prop where
  results : ((happened paint turns start).filter fun entry => !entry.1.exports) = happened paint (others turns) start
  state : (after paint turns start).unfiled = (after paint (others turns) start).unfiled
  page : (after paint turns start).world.disk.find? start.world.page.path =
    (after paint (others turns) start).world.disk.find? start.world.page.path
  ends : ∀ before t rest, turns = before ++ t :: rest → t.exports = true →
    ExportEnds paint dir t (after paint before start)
  again : ∀ before first between second rest, turns = before ++ first :: (between ++ second :: rest) →
    first.exports = true → second.command = first.command →
    Spared paint between (after paint (before ++ [first]) start) → ∀ path path',
    (first.take paint (after paint before start)).1 = .ok (.path path) →
    (second.take paint (after paint (before ++ first :: between) start)).1 = .ok (.path path') →
    ∃ c, (after paint (before ++ [first]) start).world.disk.find? path = some (.file (first.text paint c)) ∧
      (after paint (before ++ first :: (between ++ [second])) start).world.disk.find? path' =
        some (.file (second.text paint c))

theorem exports_aside {start : Viewer} (hrooted : start.world.disk.Rooted) (hhidden : start.studio.renderer.live = none)
    (hapart : Apart dir start.world.page.path start.world.disk.here) (hfixed : FolderFixed paint dir turns start)
    (hconverted : ∀ t ∈ turns, t.exports = true → t.Converted) : ExportsAside paint dir turns start := by
  have hsound : start.Sound start.world.page.path start.world.disk.here :=
    Viewer.sound_of_hidden ⟨hrooted, rfl, rfl⟩ hhidden
  have hends (before : List Turn) (t : Turn) (rest : List Turn) (hturns : turns = before ++ t :: rest)
      (hexports : t.exports = true) : ExportEnds paint dir t (after paint before start) := by
    have hbefore : before <+: turns := hturns ▸ List.prefix_append _ _
    have hmem : t ∈ turns := hturns ▸ List.mem_append_right _ List.mem_cons_self
    exact exportEnds hexports (after_sound hsound before) (hfixed before hbefore) (hconverted t hmem hexports)
  obtain ⟨hresults, hfaced⟩ := others_alike hsound hapart hfixed rfl
  refine ⟨hresults, (congrArg Viewer.unfiled hfaced :), ?_, hends, ?_⟩
  · have hseen (turns : List Turn) : (after paint turns start).faced.world.disk.find? start.world.page.path =
        (after paint turns start).world.disk.find? start.world.page.path := by
      have hafter : (after paint turns start).Sound _ _ := after_sound hsound turns
      rw [← hafter.firm.page]
      exact World.find?_sighted _
    rw [← hseen, hfaced, hseen]
  · intro before first between second rest hturns hexports hcommand hspared path path' hpath hpath'
    have hfirst := hends before first (between ++ second :: rest) hturns hexports
    have hsecond := hends (before ++ first :: between) second rest (by rw [hturns, List.append_assoc]; rfl)
      (by rw [Turn.exports, hcommand]; exact hexports)
    obtain ⟨c, hcontent, hfile⟩ := hfirst.of_path hpath
    obtain ⟨c', hcontent', hfile'⟩ := hsecond.of_path hpath'
    have hkept : (after paint (before ++ first :: between) start).studio.renderer =
        (after paint before start).studio.renderer := by
      rw [after_append] at hspared ⊢
      exact (spared_renderer hspared).trans (export_keeps_renderer hexports _ _)
    rw [hcommand, hkept, hcontent] at hcontent'
    cases hcontent'
    refine ⟨c, ?_, ?_⟩
    · rw [after_append]
      exact hfile
    · rw [← List.cons_append, ← List.append_assoc, after_append]
      exact hfile'

end

theorem apart_page : Apart ⟨"", []⟩ ⟨"", [livePageName]⟩ [] :=
  ⟨⟨⟨"", []⟩, livePageName, rfl, by decide, by decide⟩, .inl rfl⟩

def savingTurns : List Turn := [
  ⟨.submit, "/a", [], none, fun _ _ => ""⟩,
  ⟨.exportImage, "", [], some (.outside .runtime "no browser"), fun _ _ => ""⟩,
  ⟨.exportElements, "", [], none, fun _ _ => ""⟩,
  ⟨.select, "a ", [some (.outside .system "disk full")], none, fun _ _ => ""⟩,
  ⟨.exportPage, "", [some (.outside .forbidden "read-only")], none, fun _ _ => ""⟩,
  ⟨.quit, "", [], none, fun _ _ => ""⟩]

theorem exports_aside_saving :
    spacedOpened.world.disk.Rooted ∧ spacedOpened.studio.renderer.live = none ∧
      Apart ⟨"", []⟩ spacedOpened.world.page.path spacedOpened.world.disk.here ∧
      FolderFixed (fun _ => "") ⟨"", []⟩ savingTurns spacedOpened ∧
      (∀ t ∈ savingTurns, t.exports = true → t.Converted) ∧
      (after (fun _ => "") (savingTurns.take 1) spacedOpened).studio.renderer.hasInstance = true ∧
      ExportsAside (fun _ => "") ⟨"", []⟩ savingTurns spacedOpened := by
  have hfixed : FolderFixed (fun _ => "") ⟨"", []⟩ savingTurns spacedOpened := folderFixed_of_set rfl
  have hconverted : ∀ t ∈ savingTurns, t.exports = true → t.Converted := by
    intro t ht hexports
    simp only [savingTurns, List.mem_cons, List.not_mem_nil, or_false] at ht
    rcases ht with rfl | rfl | rfl | rfl | rfl | rfl
    · cases hexports
    · exact ⟨fun _ _ h => by cases h; rfl, nofun⟩
    · exact ⟨nofun, nofun⟩
    · cases hexports
    · exact ⟨nofun, fun _ h => by cases h; rfl⟩
    · cases hexports
  exact ⟨Disk.rooted_empty, rfl, apart_page, hfixed, hconverted, by decide +kernel,
    exports_aside Disk.rooted_empty rfl apart_page hfixed hconverted⟩

namespace Viewer

structure Unmoved (policy : Policy) (v : Viewer) : Prop where
  same : v.studio.renderer.policy = policy
  first : ∀ live, v.studio.renderer.live = some live →
    Studio.firstView policy live.visualization.graph = .ok live.visualization

theorem unmoved_lasts (policy : Policy) : Lasts (Unmoved policy) where
  scenery v w h hv := by
    have hrenderer := (parts_of_scenery h).renderer
    exact ⟨hrenderer ▸ hv.same, hrenderer ▸ hv.first⟩
  release v hv := by
    have hrenderer : (release v).2.studio.renderer = _ := Studio.release_renderer v.studio
    refine ⟨(congrArg Renderer.policy hrenderer).trans hv.same, ?_⟩
    rw [hrenderer]
    rintro _ ⟨⟩
  render g _ v hv := by
    rcases @Studio.render_ends _ _ canvas g v.studio with
      ⟨-, hhidden⟩ | ⟨id, view, -, -, -, -, -, hshown, -, hview, -⟩
    · have hrenderer : (render g v).2.studio.renderer = _ := hhidden
      refine ⟨(congrArg Renderer.policy hrenderer).trans hv.same, ?_⟩
      rw [hrenderer]
      rintro _ ⟨⟩
    · have hrenderer : (render g v).2.studio.renderer = _ := hshown
      refine ⟨(congrArg Renderer.policy hrenderer).trans hv.same, ?_⟩
      rw [hrenderer]
      rintro _ ⟨⟩
      obtain rfl := Studio.firstView_graph hview
      exact hv.same ▸ hview

end Viewer

section

variable {paint : Figure Float → String} {t : Turn} {v : Viewer} {policy : Policy}

theorem take_submit_unmoved (hcommand : t.command = .submit) (h : v.Unmoved policy) :
    (t.take paint v).2.Unmoved policy := by
  have hmet : (t.meet paint v).Unmoved policy := ⟨h.same, h.first⟩
  rw [Turn.take, hcommand, Viewer.dispatch_submit]
  exact Maintains.bind ((Viewer.unmoved_lasts policy).submit _) (fun _ => .pure _) _ hmet

theorem take_image_unsized (hcommand : t.command = .exportImage) {live : Live}
    (hlive : v.studio.renderer.live = some live) (hjoined : live.visualization.graph.Joined)
    (hcomplete : live.visualization.Complete) {m : Misuse}
    (hwidth : floatGauge.roundUp (Visualization.extent [live.visualization.positions]).1.length = .error m) :
    (t.take paint v).1 = .error (.misuse m) := by
  have hsnapshot : (t.meet paint v).studio.renderer.snapshot = .error (.misuse m) :=
    Renderer.snapshot_of_width hlive hjoined hcomplete hwidth
  rw [Turn.take, hcommand, Viewer.dispatch_exportImage, Viewer.exportImage_eq, Act.bind_apply, Viewer.exportOf_apply,
    hsnapshot]

end

def isolated : Graph :=
  ⟨[⟨"a", "a"⟩, ⟨"b", "b"⟩, ⟨"c", "c"⟩], []⟩

def row (spacing a b c : Float) : List Float :=
  [a - a + 0, b - b + (0 + (a - a + spacing)), c - c + (0 + (a - a + spacing) + (b - b + spacing))]

theorem row_infinite (spacing a b c : Float) :
    row spacing (1.0 / 0.0 * a) (1.0 / 0.0 * b) (1.0 / 0.0 * c) =
      [0.0 / 0.0 + 0, 0.0 / 0.0 + (0 + (0.0 / 0.0 + spacing)),
        0.0 / 0.0 + (0 + (0.0 / 0.0 + spacing) + (0.0 / 0.0 + spacing))] := by
  rw [row, Decimal.infinite_mul_sub_self, Decimal.infinite_mul_sub_self, Decimal.infinite_mul_sub_self]

theorem arrange_isolated {policy : Policy} {spacing : Float} (hspacing : policy.spacing = .ok spacing)
    {given final : Placement Float} (h : policy.arrange (.ofGraph isolated) given = .ok final) {p q r : Point Float}
    (hp : given.get? "a" = some p) (hq : given.get? "b" = some q) (hr : given.get? "c" = some r) :
    final.points.map Point.x = row spacing p.x q.x r.x := by
  have hnet : Network.ofGraph isolated = ⟨["a", "b", "c"], []⟩ := by decide
  have hcomponents : Network.components ⟨["a", "b", "c"], []⟩ = [["a"], ["b"], ["c"]] := by decide
  have hmeasured : policy.measures.spacing = .ok spacing := mapError_eq_ok_iff.mpr hspacing
  rw [Policy.arrange, hnet, arrange, if_neg (by decide), bind_eq_ok_iff] at h
  obtain ⟨seeds, hseeds, h⟩ := h
  obtain ⟨radius, -, ⟨⟩⟩ := bind_eq_ok_iff.mp hseeds
  simp only [List.zipIdx_cons, List.zipIdx_nil, List.map_cons, List.map_nil, hp, hq, hr, Option.getD_some] at h
  rw [hcomponents, pack_alone rfl hmeasured, pack_alone rfl hmeasured, pack_alone rfl hmeasured, pack] at h
  cases h
  rfl

theorem firstView_isolated {policy : Policy} {spacing radius : Float} (hspacing : policy.spacing = .ok spacing)
    (hradius : policy.radius 3 = .ok radius) {v : Visualization Float}
    (h : Studio.firstView policy isolated = .ok v) :
    v.positions.points.map Point.x =
      row spacing (radius * floatCompass.cos 0 3) (radius * floatCompass.cos 1 3) (radius * floatCompass.cos 2 3) := by
  have hnet : Network.ofGraph isolated = ⟨["a", "b", "c"], []⟩ := by decide
  simp only [Studio.firstView, bind_eq_ok_iff] at h
  obtain ⟨start, hstart, final, hfinal, frames, -, ⟨⟩⟩ := h
  rw [Policy.seed, hnet] at hstart
  obtain ⟨radius', hradius', hstart⟩ := bind_eq_ok_iff.mp hstart
  obtain rfl : radius = radius' := Except.ok.inj (hradius.symm.trans (mapError_eq_ok_iff.mp hradius'))
  have hseats : start =
      [("a", seat floatCompass radius 0 3), ("b", seat floatCompass radius 1 3), ("c", seat floatCompass radius 2 3)] :=
    (Except.ok.inj hstart).symm
  rw [hseats] at hfinal
  exact arrange_isolated (p := seat floatCompass radius 0 3) (q := seat floatCompass radius 1 3)
    (r := seat floatCompass radius 2 3) hspacing hfinal rfl rfl rfl

def isolatedOpened (policy : Policy) : Viewer :=
  { spacedOpened with
    studio := ⟨⟨policy, none, [()]⟩, .empty, ⟨0, []⟩,
      { spacedOpened.world with
        replies := [.answer {
          status := 200
          contentType := none
          body := (Json.compact (.object [("elements", .object [("nodes", .list (isolated.nodeIds.map fun id =>
            .object [("data", .object [("id", .str id)])]))])])).toList.map fun c => UInt8.ofNat c.toNat }] }⟩ }

def submitTurn : Turn :=
  ⟨.submit, "/a", [], none, fun _ _ => ""⟩

def imageTurn : Turn :=
  ⟨.exportImage, "", [], none, fun _ _ => ""⟩

def isolatedShown (policy : Policy) : Viewer :=
  after (fun _ => "") [submitTurn] (isolatedOpened policy)

theorem isolatedShown_live {policy : Policy}
    (hshown : ((isolatedShown policy).studio.renderer.elements.map fun g => (g.nodes, g.edges.isEmpty)) =
      some (isolated.nodes, true)) :
    ∃ live, (isolatedShown policy).studio.renderer.live = some live ∧ live.visualization.graph = isolated ∧
      Studio.firstView policy isolated = .ok live.visualization := by
  have hunmoved : (isolatedShown policy).Unmoved policy := by
    apply take_submit_unmoved rfl
    exact ⟨rfl, nofun⟩
  obtain ⟨⟨nodes, edges⟩, helements, hparts⟩ := Option.map_eq_some_iff.mp hshown
  obtain ⟨live, hlive, hgraph⟩ := Option.map_eq_some_iff.mp helements
  obtain ⟨hnodes, hedges⟩ := Prod.mk.inj hparts
  obtain rfl : nodes = isolated.nodes := hnodes
  obtain rfl : edges = [] := List.isEmpty_iff.mp hedges
  have hview := hunmoved.first live hlive
  rw [hgraph] at hview
  exact ⟨live, hlive, hgraph, hview⟩

theorem isolated_unsized {policy : Policy} {spacing radius : Float} (hspacing : policy.spacing = .ok spacing)
    (hradius : policy.radius 3 = .ok radius)
    (hshown : ((isolatedShown policy).studio.renderer.elements.map fun g => (g.nodes, g.edges.isEmpty)) =
      some (isolated.nodes, true)) {m : Misuse}
    (hwidth : floatGauge.roundUp (Visualization.extentOf (row spacing (radius * floatCompass.cos 0 3)
      (radius * floatCompass.cos 1 3) (radius * floatCompass.cos 2 3))).length = .error m) :
    (imageTurn.take (fun _ => "") (isolatedShown policy)).1 = .error (.misuse m) := by
  obtain ⟨live, hlive, hgraph, hview⟩ := isolatedShown_live hshown
  have hjoined : isolated.Joined := ⟨by decide, nofun⟩
  have hcomplete := (Studio.firstView_complete hjoined hview).2.2
  refine take_image_unsized rfl hlive (hgraph ▸ hjoined) hcomplete ?_
  rw [Visualization.extent, List.flatMap_singleton, firstView_isolated hspacing hradius hview]
  exact hwidth

def farPolicy : Policy :=
  { componentSpacing := .float 1e308 }

def widePolicy : Policy :=
  { idealEdgeLength := .float 1e308 }

/-- Three nodes whose picture has no size, since their circle is too wide or they are too far apart: the export of an
image fails without a complaint. -/
theorem far_image_unsized :
    (∀ policy ∈ [widePolicy, farPolicy],
      (isolatedOpened policy).world.disk.Rooted ∧ (isolatedOpened policy).studio.renderer.live = none ∧
      Apart ⟨"", []⟩ (isolatedOpened policy).world.page.path (isolatedOpened policy).world.disk.here ∧
      FolderFixed (fun _ => "") ⟨"", []⟩ [submitTurn, imageTurn] (isolatedOpened policy) ∧
      (isolatedShown policy).studio.renderer.hasInstance = true) ∧
    (∀ t ∈ [submitTurn, imageTurn], t.exports = true → t.Converted) ∧
    (imageTurn.take (fun _ => "") (isolatedShown widePolicy)).1 = .error (.misuse .notANumber) ∧
    (floatCompass.cos 0 3 = 1.0 → floatCompass.cos 1 3 = -0.4999999999999998 →
      floatCompass.cos 2 3 = -0.5000000000000004 →
      (imageTurn.take (fun _ => "") (isolatedShown farPolicy)).1 = .error (.misuse .infinite)) := by
  have hshown : ∀ policy ∈ [widePolicy, farPolicy], ((isolatedShown policy).studio.renderer.elements.map fun g =>
      (g.nodes, g.edges.isEmpty)) = some (isolated.nodes, true) := by
    decide +kernel
  have hwide := hshown widePolicy List.mem_cons_self
  have hfar := hshown farPolicy (List.mem_cons_of_mem _ List.mem_cons_self)
  refine ⟨fun policy hpolicy => ⟨Disk.rooted_empty, rfl, apart_page, folderFixed_of_set rfl, ?_⟩, ?_, ?_, ?_⟩
  · obtain ⟨live, hlive, -⟩ := isolatedShown_live (hshown policy hpolicy)
    rw [Renderer.hasInstance, hlive]
    rfl
  · intro t ht hexports
    rcases List.mem_pair.mp ht with rfl | rfl
    · cases hexports
    · refine ⟨fun _ _ hfailed => ?_, fun _ hfailed => ?_⟩ <;> cases hfailed
  · have hspacing : widePolicy.spacing = .ok 100.0 := by decide +kernel
    have hradius : widePolicy.radius 3 = .ok (1.0 / 0.0) := by decide +kernel
    refine isolated_unsized hspacing hradius hwide ?_
    rw [row_infinite]
    decide +kernel
  · intro hfirst hsecond hthird
    have hspacing : farPolicy.spacing = .ok 1e308 := by decide +kernel
    have hradius : farPolicy.radius 3 = .ok 100.0 := by decide +kernel
    refine isolated_unsized hspacing hradius hfar ?_
    rw [hfirst, hsecond, hthird]
    decide +kernel

end DependencyAtlas.Session
