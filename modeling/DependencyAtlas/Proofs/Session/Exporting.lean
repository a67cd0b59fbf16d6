import DependencyAtlas.Proofs.Session.Paging
import DependencyAtlas.Proofs.Stage.Reopening
import DependencyAtlas.Session.Dispatch

namespace DependencyAtlas.Session

open Files Stage
open Act (Keeps Maintains keeps_iff)

def writeOut (name : String) (stops : Failure → Bool) (write : Path → Act World Unit) :
    Act World (Option Path) := do
  let path ← target name
  exporting path.name stops (write path)
  return some path

structure World.Exports (w : World) (name : String) (stops : Failure → Bool)
    (write : Path → Act World Unit) : Prop where
  folder : ∃ dir, w.settings.getOutputDir w.around = .ok dir
  stops : ∀ path w' failure, target name w = (.ok path, w') →
    (write path w').1 = .error failure → stops failure = true

theorem writeImage_growing (path : Path) : Growing (writeImage path) := by
  apply Growing.bind (.of_keeps Act.Keeps.get)
  intro w
  split
  · exact .of_keeps (Act.Keeps.throw _)
  · exact writeFile_growing path _

theorem writeOut_maintains {Q : World → Prop} {name : String} {stops : Failure → Bool}
    {write : Path → Act World Unit} (hfolders : ∀ dir, Maintains Q (edit fun disk => disk.makeFolders dir))
    (hwrite : ∀ path, Maintains Q (write path)) : Maintains Q (writeOut name stops write) := by
  refine Maintains.bind ?_ fun path => ?_
  · refine Maintains.bind (.bind .get fun _ => .ofExcept _) fun dir => ?_
    refine Maintains.bind (hfolders dir).ending fun made => ?_
    split
    · exact .pure _
    · exact .throw _
  · refine Maintains.bind ?_ fun _ => .pure _
    refine Maintains.bind (hwrite path).ending fun written => ?_
    split
    · exact .pure _
    · exact .throw _

theorem writeImage_maintains {Q : World → Prop} (h : ∀ path text, Maintains Q (writeFile path text)) (path : Path) :
    Maintains Q (writeImage path) := by
  refine Maintains.bind .get fun w => ?_
  split
  · exact .throw _
  · exact h path _

theorem writeImage_keeps {γ : Type} {f : World → γ} (h : ∀ path text, Keeps f (writeFile path text)) (path : Path) :
    Keeps f (writeImage path) :=
  keeps_iff.mpr fun c => writeImage_maintains (fun path text => keeps_iff.mp (h path text) c) path

theorem writeOut_keeps {γ : Type} {f : World → γ} {name : String} {stops : Failure → Bool}
    {write : Path → Act World Unit} (hdisk : ∀ w disk, f { w with disk } = f w) (hwrite : ∀ path, Keeps f (write path)) :
    Keeps f (writeOut name stops write) :=
  keeps_iff.mpr fun c => writeOut_maintains (fun _ => keeps_iff.mp (edit_keeps hdisk _) c)
    fun path => keeps_iff.mp (hwrite path) c

namespace World.Exports

variable {w : World} {name : String} {stops : Failure → Bool} {write : Path → Act World Unit}
  (h : w.Exports name stops write)

include h

theorem target_recovers : Recovers w.Grows (target name w) := by
  obtain ⟨dir, hdir⟩ := h.folder
  have hread : getOutputDir w = (.ok dir, w) := by
    rw [getOutputDir, Act.bind_apply_ok (Act.get_apply w), hdir]
    rfl
  have hgrows := edit_growing (fun _ _ => @Disk.makeFolders_grows _ _ dir) w
  rw [target, Act.bind_apply_ok hread, Act.bind_apply_ok (Act.ending_apply _ w)]
  cases (edit (fun disk => disk.makeFolders dir) w).1 with
  | ok _ => exact .ok _ hgrows
  | error failure => exact .complaint _ hgrows

theorem recovers (hwrite : ∀ path, Growing (write path)) :
    Recovers w.Grows (writeOut name stops write w) := by
  refine h.target_recovers.bind fun path w' htarget hgrows => ?_
  have hwritten := hgrows.trans (hwrite path w')
  have hexported : Recovers w.Grows (exporting path.name stops (write path) w') := by
    rw [exporting, Act.bind_apply_ok (Act.ending_apply _ w')]
    cases hended : (write path w').1 with
    | ok _ => exact .ok _ hwritten
    | error failure =>
      dsimp only
      rw [if_pos (h.stops path w' failure htarget hended)]
      exact .complaint _ hwritten
  exact hexported.bind fun _ _ _ => .ok _

end World.Exports

theorem Staged.grows {clean : Prop} {s : Studio World Unit} (h : Staged clean s)
    (hshown : s.renderer.hasInstance = true) {w : World} (hgrows : s.outside.Grows w) :
    Staged clean { s with outside := w } where
  page := fun _ => hgrows.hasPage (h.page hshown)
  unpaged _ hhidden := by cases hshown.symm.trans hhidden
  bound := h.bound
  drawable := h.drawable

namespace Viewer

def exportOf {α : Type} (content : Renderer Unit → Except Failure (Option α))
    (out : α → Act World (Option Path)) : Act Viewer (Option Path) := do
  match ← Act.ofExcept (content (← get).studio.renderer) with
  | none => return none
  | some a => inWorld (out a)

section

variable {α : Type} {content : Renderer Unit → Except Failure (Option α)}
  {out : α → Act World (Option Path)} {v : Viewer}

theorem exportOf_apply {content : Renderer Unit → Except Failure (Option α)} (v : Viewer) :
    exportOf content out v =
      match content v.studio.renderer with
      | .error failure => (.error failure, v)
      | .ok none => (.ok none, v)
      | .ok (some a) => inWorld (out a) v := by
  rw [exportOf, Act.bind_apply_ok (Act.get_apply v), Act.bind_apply, Act.ofExcept_apply]
  rcases content v.studio.renderer with failure | _ | a <;> rfl

theorem exportOf_eq {next : Option α → Act Viewer (Option Path)} (hnone : next none = pure none)
    (hsome : ∀ a, next (some a) = inWorld (out a)) :
    (do next (← Act.ofExcept (content (← get).studio.renderer))) = exportOf content out := by
  funext v
  rw [exportOf_apply, Act.bind_apply_ok (Act.get_apply v), Act.bind_apply, Act.ofExcept_apply]
  rcases content v.studio.renderer with failure | _ | a
  · rfl
  · exact congrFun hnone v
  · exact congrFun (hsome a) v

theorem exportOf_maintains {Q : World → Prop} (hout : ∀ a, Maintains Q (out a)) :
    Maintains (fun v => Q v.world) (exportOf content out) := by
  refine Maintains.bind .get fun v => ?_
  refine Maintains.bind (.ofExcept _) fun a? => ?_
  split
  · exact .pure _
  · next a => exact fun v => hout a v.world

theorem exportOf_recovers {clean : Prop} (h : Staged clean v.studio) {a? : Option α}
    (hcontent : content v.studio.renderer = .ok a?)
    (hout : ∀ a, a? = some a → v.studio.renderer.hasInstance = true ∧
      Recovers v.world.Grows (out a v.world)) :
    Recovers (fun u => Staged clean u.studio) (exportOf content out v) := by
  rw [exportOf_apply, hcontent]
  cases a? with
  | none => exact .ok _ h
  | some a =>
    obtain ⟨hshown, hwritten⟩ := hout a rfl
    exact ⟨hwritten.complains, h.grows hshown hwritten.leaves⟩

end

theorem exportImage_eq : exportImage = exportOf Renderer.snapshot fun _ =>
    writeOut imageName Failure.stopsExport writeImage :=
  exportOf_eq rfl fun _ => rfl

theorem exportPage_eq : exportPage = exportOf Renderer.snapshot fun figure =>
    writeOut pageName Failure.stopsDrawing fun path => writeSheet .exported path figure :=
  exportOf_eq rfl fun _ => rfl

theorem exportElements_eq : exportElements = exportOf Renderer.document fun document =>
    writeOut elementsName Failure.isSystem fun path => writeFile path (Json.indented document) :=
  exportOf_eq rfl fun _ => rfl

end Viewer

end DependencyAtlas.Session
