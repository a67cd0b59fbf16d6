import DependencyAtlas.Proofs.Session.Commands
import DependencyAtlas.Proofs.Session.Sound

namespace DependencyAtlas

open Files Scan Stage Drawing Layout

namespace Stage.Renderer

variable {η : Type} {r : Renderer η}

def sides (r : Renderer η) : List Float :=
  let spans := Visualization.extent [r.positions]
  [spans.1.length, spans.2.length]

theorem snapshot_of_hidden (h : r.live = none) : r.snapshot = .ok none := by
  rw [snapshot, h]

theorem document_of_hidden (h : r.live = none) : r.document = .ok none := by
  rw [document, h]

section

variable {live : Live} (hlive : r.live = some live) (hjoined : live.visualization.graph.Joined)
  (hcomplete : live.visualization.Complete)

include hlive hjoined hcomplete

theorem snapshot_eq : ∃ picture, r.snapshot = (do
    let size ← Visualization.sizeFor floatGauge (Visualization.extent [live.visualization.positions]) true
    return some ⟨picture, (Visualization.extent [live.visualization.positions]).1,
      (Visualization.extent [live.visualization.positions]).2, size, none⟩) := by
  obtain ⟨picture, hpicture⟩ : ∃ picture,
      live.visualization.picture floatGauge live.visualization.positions = .ok picture :=
    Visualization.picture_eq_ok hjoined hcomplete.positions
  refine ⟨picture, ?_⟩
  rw [snapshot, hlive]
  dsimp only
  rw [Visualization.figure_eq]
  simp only [Visualization.moving, Bool.false_and, Bool.false_eq_true, if_false, List.isEmpty_nil, if_true,
    List.headD_nil, hpicture, ok_bind, Visualization.animation]
  rcases Visualization.sizeFor floatGauge (Visualization.extent [live.visualization.positions]) true with _ | size <;>
    rfl

theorem snapshot_of_width {m : Misuse}
    (hwidth : floatGauge.roundUp (Visualization.extent [live.visualization.positions]).1.length = .error m) :
    r.snapshot = .error (.misuse m) := by
  obtain ⟨picture, hsnapshot⟩ := snapshot_eq hlive hjoined hcomplete
  rw [hsnapshot, Visualization.sizeFor, Visualization.sizeOf, hwidth]
  rfl

theorem snapshot_of_live :
    (∃ figure, r.snapshot = .ok (some figure)) ∨
      ∃ side m, side ∈ r.sides ∧ floatGauge.roundUp side = .error m ∧ r.snapshot = .error (.misuse m) := by
  obtain ⟨picture, hsnapshot⟩ := snapshot_eq hlive hjoined hcomplete
  have hsides : r.sides = [(Visualization.extent [live.visualization.positions]).1.length,
      (Visualization.extent [live.visualization.positions]).2.length] := by
    rw [sides, positions, hlive]
    rfl
  rw [hsides, hsnapshot, Visualization.sizeFor, Visualization.sizeOf, Visualization.sizeOf]
  rcases hwidth : floatGauge.roundUp (Visualization.extent [live.visualization.positions]).1.length with m | width
  · exact .inr ⟨_, m, List.mem_cons_self, hwidth, rfl⟩
  rcases hheight : floatGauge.roundUp (Visualization.extent [live.visualization.positions]).2.length with m | height
  · exact .inr ⟨_, m, List.mem_cons_of_mem _ List.mem_cons_self, hheight, rfl⟩
  · exact .inl ⟨_, rfl⟩

end

end Stage.Renderer

namespace Session

def ImageWriter.brought : ImageWriter → Except Failure String
  | writes text => .ok text
  | fails failure => .error failure

def writeBrought (brought : Except Failure String) (path : Path) : Act World Unit := do
  writeFile path (← Act.ofExcept brought)

/-- How it ends to save a file in a folder. -/
inductive Saved (w : World) (dir : Path) (name : String) (stops : Failure → Bool) (brought : Except Failure String) :
    Except Failure (Option Path) × World → Prop
  | folderless {fault : Fault} (h : w.disk.makeFolders dir = .error fault) :
    Saved w dir name stops brought
      (.error (.complaint (.exporting ("Could not create " ++ dir.text ++ ": " ++ fault.message))), w)
  | failed {disk : Disk} {mishaps : List (Option Failure)} {failure : Failure} (hmade : w.disk.makeFolders dir = .ok disk)
    (hwhy : brought = .error failure ∨ w.mishaps.head? = some (some failure) ∨ ∃ fault, failure = .file fault) :
    Saved w dir name stops brought
      (.error (if stops failure then
        .complaint (.exporting ("Could not export " ++ name ++ ": " ++ failure.text)) else failure),
        { w with disk, mishaps })
  | written {made disk : Disk} {mishaps : List (Option Failure)} {text : String} (hmade : w.disk.makeFolders dir = .ok made)
    (hbrought : brought = .ok text) (hwritten : made.write (dir.child name) text = .ok disk) :
    Saved w dir name stops brought (.ok (some (dir.child name)), { w with disk, mishaps })

section

variable {w : World} {p dir : Path} {name : String} {stops : Failure → Bool} {text : String}

theorem nextMishap_cases (w : World) :
    (∃ failure mishaps, w.mishaps.head? = some (some failure) ∧
      nextMishap w = (.error failure, { w with mishaps })) ∨
    ∃ mishaps, nextMishap w = (.ok (), { w with mishaps }) := by
  rw [nextMishap, Act.bind_apply_ok (Act.get_apply w)]
  rcases w.mishaps with _ | ⟨_ | failure, rest⟩
  · exact .inr ⟨w.mishaps, rfl⟩
  · exact .inr ⟨rest, rfl⟩
  · exact .inl ⟨failure, rest, rfl, rfl⟩

theorem writeFile_cases (p : Path) (text : String) (w : World) :
    (∃ failure mishaps, (w.mishaps.head? = some (some failure) ∨ ∃ fault, failure = .file fault) ∧
      writeFile p text w = (.error failure, { w with mishaps })) ∨
    ∃ disk mishaps, w.disk.write p text = .ok disk ∧ writeFile p text w = (.ok (), { w with disk, mishaps }) := by
  rcases nextMishap_cases w with ⟨failure, mishaps, hfirst, hnext⟩ | ⟨mishaps, hnext⟩
  · exact .inl ⟨failure, mishaps, .inl hfirst, Act.bind_apply_error hnext⟩
  · rw [writeFile, Act.bind_apply_ok hnext, edit_apply]
    dsimp only
    rcases w.disk.write p text with fault | disk
    · exact .inl ⟨_, mishaps, .inr ⟨fault, rfl⟩, rfl⟩
    · exact .inr ⟨disk, mishaps, rfl, rfl⟩

theorem writeImage_eq (p : Path) (w : World) : writeImage p w = writeBrought w.image.brought p w := by
  rw [writeImage, writeBrought, Act.bind_apply_ok (Act.get_apply w), Act.bind_apply, Act.ofExcept_apply]
  rcases w.image with text | failure <;> rfl

theorem name_child (p : Path) (name : String) : (p.child name).name = name := by
  rw [Path.name, Path.child, List.getLast?_concat, Option.getD_some]

theorem writeOut_saved (hdir : w.settings.getOutputDir w.around = .ok dir) {brought : Except Failure String}
    {write : Path → Act World Unit} (hwrite : ∀ disk, write (dir.child name) { w with disk } =
      writeBrought brought (dir.child name) { w with disk }) :
    Saved w dir name stops brought (writeOut name stops write w) := by
  have hread : getOutputDir w = (.ok dir, w) := by
    rw [getOutputDir, Act.bind_apply_ok (Act.get_apply w), hdir]
    rfl
  rcases hmade : w.disk.makeFolders dir with fault | made
  · have htarget : target name w =
        (.error (.complaint (.exporting ("Could not create " ++ dir.text ++ ": " ++ fault.message))), w) := by
      rw [target, Act.bind_apply_ok hread, Act.bind_apply_ok (Act.ending_apply _ w), edit_apply, hmade]
      rfl
    rw [writeOut, Act.bind_apply_error htarget]
    exact .folderless hmade
  have htarget : target name w = (.ok (dir.child name), { w with disk := made }) := by
    rw [target, Act.bind_apply_ok hread, Act.bind_apply_ok (Act.ending_apply _ w), edit_apply, hmade]
    rfl
  rw [writeOut, Act.bind_apply_ok htarget, Act.bind_apply, exporting, Act.bind_apply_ok (Act.ending_apply _ _),
    name_child, hwrite]
  cases brought with
  | error failure => exact .failed hmade (.inl rfl)
  | ok text =>
    have hbrought : writeBrought (.ok text) (dir.child name) { w with disk := made } =
        writeFile (dir.child name) text { w with disk := made } := rfl
    rw [hbrought]
    rcases writeFile_cases (dir.child name) text { w with disk := made } with
      ⟨failure, mishaps, hwhy, hfailed⟩ | ⟨disk, mishaps, hwritten, hdone⟩
    · rw [hfailed]
      exact .failed hmade (.inr hwhy)
    · rw [hdone]
      exact .written hmade rfl hwritten

end

namespace Command

def fileName : Command → String
  | exportPage => pageName
  | exportElements => elementsName
  | _ => imageName

def stops : Command → Failure → Bool
  | exportPage => Failure.stopsDrawing
  | exportElements => Failure.isSystem
  | _ => Failure.stopsExport

end Command

namespace Viewer

variable {v : Viewer} {command : Command} {dir : Path}

def offered (command : Command) (v : Viewer) : Except Failure (Option (Except Failure String)) :=
  match command with
  | .exportPage => v.studio.renderer.snapshot.map fun shown => shown.map fun figure => .ok (v.world.html .exported figure)
  | .exportElements =>
    v.studio.renderer.document.map fun shown => shown.map fun document => .ok (Json.indented document)
  | _ => v.studio.renderer.snapshot.map fun shown => shown.map fun _ => v.world.image.brought

theorem export_ends (hexports : command.exports = true) (argument : String)
    (hdir : v.world.settings.getOutputDir v.world.around = .ok dir) :
    (∃ failure, v.offered command = .error failure ∧ dispatch command argument v = (.error failure, v)) ∨
    (v.offered command = .ok none ∧ dispatch command argument v = (.ok .none, v)) ∨
    ∃ brought result w, v.offered command = .ok (some brought) ∧
      Saved v.world dir command.fileName command.stops brought (result, w) ∧
      dispatch command argument v = (result.map Outcome.ofPath, v.setWorld w) := by
  have hmap {act : Act Viewer (Option Path)} :
      (do return .ofPath (← act) : Act Viewer Outcome) v = ((act v).1.map Outcome.ofPath, (act v).2) := by
    rw [Act.bind_apply]
    rcases act v with ⟨failure | path, t⟩ <;> rfl
  have hends {α : Type} {content : Renderer Unit → Except Failure (Option α)} {out : α → Act World (Option Path)}
      {brought : α → Except Failure String}
      (hdispatch : dispatch command argument = do return .ofPath (← exportOf content out))
      (hoffered : v.offered command = (content v.studio.renderer).map fun shown => shown.map brought)
      (hsaved : ∀ a, Saved v.world dir command.fileName command.stops (brought a) (out a v.world)) :
      (∃ failure, v.offered command = .error failure ∧ dispatch command argument v = (.error failure, v)) ∨
      (v.offered command = .ok none ∧ dispatch command argument v = (.ok .none, v)) ∨
      ∃ brought result w, v.offered command = .ok (some brought) ∧
        Saved v.world dir command.fileName command.stops brought (result, w) ∧
        dispatch command argument v = (result.map Outcome.ofPath, v.setWorld w) := by
    rw [hdispatch, hoffered, hmap, exportOf_apply]
    rcases content v.studio.renderer with failure | _ | a
    · exact .inl ⟨failure, rfl, rfl⟩
    · exact .inr (.inl ⟨rfl, rfl⟩)
    · exact .inr (.inr ⟨brought a, _, _, rfl, hsaved a, rfl⟩)
  cases command with
  | exportImage =>
    refine hends ((dispatch_exportImage argument).trans (by rw [exportImage_eq])) rfl fun _ => ?_
    exact writeOut_saved hdir fun disk => writeImage_eq _ _
  | exportPage =>
    refine hends ((dispatch_exportPage argument).trans (by rw [exportPage_eq])) rfl fun _ => ?_
    exact writeOut_saved hdir fun _ => rfl
  | exportElements =>
    refine hends ((dispatch_exportElements argument).trans (by rw [exportElements_eq])) rfl fun _ => ?_
    exact writeOut_saved hdir fun _ => rfl
  | _ => cases hexports

theorem offered_of_hidden (hlive : v.studio.renderer.live = none) (command : Command) :
    v.offered command = .ok none := by
  cases command <;>
    simp only [offered, Renderer.snapshot_of_hidden hlive, Renderer.document_of_hidden hlive] <;> rfl

theorem offered_of_live {live : Live} (hlive : v.studio.renderer.live = some live)
    (hjoined : live.visualization.graph.Joined) (hcomplete : live.visualization.Complete)
    (hexports : command.exports = true) :
    (∃ brought, v.offered command = .ok (some brought)) ∨
      command ≠ .exportElements ∧ ∃ side m, side ∈ v.studio.renderer.sides ∧
        floatGauge.roundUp side = .error m ∧ v.offered command = .error (.misuse m) := by
  have hsnapshot := Renderer.snapshot_of_live hlive hjoined hcomplete
  cases command with
  | exportElements =>
    obtain ⟨entries, -, hdocument⟩ := Renderer.document_eq_ok hlive hcomplete
    exact .inl ⟨_, by rw [offered, hdocument]; rfl⟩
  | exportImage | exportPage =>
    rcases hsnapshot with ⟨figure, hfigure⟩ | ⟨side, m, hside, hround, hfigure⟩
    · exact .inl ⟨_, by simp only [offered, hfigure]; rfl⟩
    · exact .inr ⟨nofun, side, m, hside, hround, by simp only [offered, hfigure]; rfl⟩
  | _ => cases hexports

end Viewer

end Session

end DependencyAtlas
