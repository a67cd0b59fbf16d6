import DependencyAtlas.Proofs.Files.Only
import DependencyAtlas.Proofs.Session.Overlooking
import DependencyAtlas.Proofs.Session.Paging

/-!
What a session sees of its files: those at the locations that the page and the files with settings are looked for.
What is elsewhere makes no difference to anything but the exports.
-/

namespace DependencyAtlas

open Files

namespace Surroundings

variable {here there : Surroundings}

def settingsFiles : List Path :=
  [.ofText localFile, .ofText projectFile]

theorem fileContents_congr (hhere : there.disk.here = here.disk.here) {p : Path}
    (h : ∀ l ∈ p.looks here.disk.here, there.disk.at? l = here.disk.at? l) :
    there.fileContents p = here.fileContents p := by
  rw [fileContents, fileContents, Disk.exists?_congr hhere h, Disk.read_congr hhere h]

theorem table_congr (h : ∀ p ∈ settingsFiles, there.fileContents p = here.fileContents p) :
    there.table = here.table := by
  have hlocal := h _ List.mem_cons_self
  have hproject := h _ (List.mem_cons_of_mem _ List.mem_cons_self)
  simp only [table, tableInFiles, hlocal, hproject]

end Surroundings

namespace Session

open Act (Respects Commutes)

namespace World

def sights (w : World) : List Location :=
  (w.page.path :: Surroundings.settingsFiles).flatMap fun p => p.looks w.disk.here

def isSight (w : World) (l : Location) : Bool :=
  w.sights.contains l

def sighted (w : World) : World :=
  { w with disk := w.disk.only w.isSight }

variable {α : Type} {w : World} {p : Path}

theorem isSight_of_looks (hp : p ∈ w.page.path :: Surroundings.settingsFiles) {l : Location}
    (hl : l ∈ p.looks w.disk.here) : w.isSight l = true :=
  List.contains_iff_mem.mpr (List.mem_flatMap.mpr ⟨p, hp, hl⟩)

theorem isSight_congr {w' : World} (hpage : w'.page.path = w.page.path) (hhere : w'.disk.here = w.disk.here) :
    w'.isSight = w.isSight := by
  funext l
  rw [isSight, isSight, sights, sights, hpage, hhere]

theorem table_sighted (w : World) : w.sighted.around.table = w.around.table := by
  have hcontents (p : Path) (hp : p ∈ Surroundings.settingsFiles) :
      w.sighted.around.fileContents p = w.around.fileContents p := by
    refine Surroundings.fileContents_congr ?_ fun l hl => ?_
    · rfl
    · exact Disk.at?_only (isSight_of_looks (List.mem_cons_of_mem _ hp) hl) _
  exact Surroundings.table_congr hcontents

theorem isVerbose_sighted (w : World) :
    w.sighted.settings.isVerbose w.sighted.around = w.settings.isVerbose w.around := by
  have hsettings : w.sighted.settings = w.settings := rfl
  rw [Settings.isVerbose, Settings.isVerbose, Settings.getVerbose, Settings.getVerbose, table_sighted, hsettings]

theorem getTimeout_sighted (w : World) :
    w.sighted.settings.getTimeout w.sighted.around = w.settings.getTimeout w.around := by
  have hsettings : w.sighted.settings = w.settings := rfl
  have htext (name : String) : w.sighted.around.variableText? name = w.around.variableText? name := rfl
  have hsetting (name : String) : w.sighted.around.setting? name = w.around.setting? name := by
    rw [Surroundings.setting?, Surroundings.setting?, table_sighted]
  simp only [Settings.getTimeout, hsettings, htext, hsetting]

theorem find?_sighted (w : World) : w.sighted.disk.find? w.page.path = w.disk.find? w.page.path :=
  Disk.find?_congr rfl fun _ hl => Disk.at?_only (isSight_of_looks List.mem_cons_self hl) _

theorem edit_commutes {alter : Disk → Except Fault Disk} (hkeep : ∀ {e}, alter w.disk = .ok e → e.here = w.disk.here)
    (h : alter (w.disk.only w.isSight) = (alter w.disk).map (Disk.only w.isSight)) :
    Commutes sighted (edit alter) w := by
  have hdisk : w.sighted.disk = w.disk.only w.isSight := rfl
  rw [Commutes, edit, Act.bind_apply_ok (Act.get_apply w), Act.bind_apply_ok (Act.get_apply w.sighted), hdisk, h]
  cases halter : alter w.disk with
  | error fault => rfl
  | ok e =>
    have hsight : isSight { w with disk := e } = w.isSight := isSight_congr rfl (hkeep halter)
    dsimp only [Except.map]
    rw [Act.modify_apply, Act.modify_apply, sighted, sighted, hsight]

theorem commutes_modify {g : World → World} (h : sighted (g w) = g w.sighted) : Commutes sighted (modify g) w := by
  rw [Commutes, Act.modify_apply, Act.modify_apply, h]

theorem commutes_get {next : World → Act World α} (h : next w.sighted = next w)
    (hnext : Commutes sighted (next w) w) : Commutes sighted (get >>= next) w := by
  rw [Commutes, Act.bind_apply_ok (Act.get_apply w), Act.bind_apply_ok (Act.get_apply w.sighted), h]
  exact hnext

theorem nextMishap_commutes (w : World) : Commutes sighted nextMishap w := by
  refine commutes_get rfl ?_
  split
  · rfl
  · refine Commutes.bind rfl fun _ _ _ => ?_
    split
    · rfl
    · rfl

theorem writeFile_commutes (hp : ∀ l ∈ p.looks w.disk.here, w.isSight l = true) (text : String) :
    Commutes sighted (writeFile p text) w := by
  refine (nextMishap_commutes w).bind fun _ w' hmishap => ?_
  have hkept := nextMishap_keeps (f := fun w => (w.disk, w.page)) (fun _ _ => rfl) w
  rw [hmishap] at hkept
  obtain ⟨hdisk, hpage⟩ := Prod.mk.inj hkept
  refine edit_commutes (fun hwritten => (Disk.write_grows hwritten).here) ?_
  rw [isSight_congr (congrArg Page.path hpage) (congrArg Disk.here hdisk), hdisk]
  exact Disk.write_only hp text

theorem writeSheet_commutes (hp : ∀ l ∈ p.looks w.disk.here, w.isSight l = true) (sheet : Sheet)
    (figure : Drawing.Figure Float) : Commutes sighted (writeSheet sheet p figure) w :=
  commutes_get rfl (writeFile_commutes hp _)

theorem openPage_commutes (w : World) : Commutes sighted openPage w := by
  have habsolute : w.sighted.disk.absolute w.page.path = w.disk.absolute w.page.path :=
    Disk.absolute_congr rfl fun l hl => Disk.at?_only (isSight_of_looks List.mem_cons_self hl) _
  refine commutes_get rfl ?_
  dsimp only
  split
  · refine commutes_modify ?_
    rw [habsolute]
    rfl
  · rfl

theorem draw_commutes (figure : Drawing.Figure Float) (w : World) : Commutes sighted (canvas.draw figure) w := by
  have hpage : ∀ l ∈ w.page.path.looks w.disk.here, w.isSight l = true :=
    fun l hl => isSight_of_looks List.mem_cons_self hl
  dsimp only [canvas]
  refine Commutes.bind (commutes_modify ?_) fun _ w₁ hw₁ => ?_
  · rfl
  obtain rfl := (Prod.mk.inj hw₁).2
  refine commutes_get rfl ?_
  have hfolders : Commutes sighted (edit fun disk => disk.makeFolders w.page.path.parent)
      { w with attempts := w.attempts ++ [figure] } :=
    edit_commutes (fun hmade => (Disk.makeFolders_grows hmade).here)
      (Disk.makeFolders_only fun l hl => hpage l (Path.looks_parent hl))
  refine hfolders.bind fun _ w₂ hw₂ => ?_
  obtain ⟨disk, hmade, rfl⟩ := edit_eq_ok hw₂
  have hhere : disk.here = w.disk.here := (Disk.makeFolders_grows hmade).here
  have hsight : isSight { w with attempts := w.attempts ++ [figure], disk } = w.isSight := isSight_congr rfl hhere
  have hlooks : ∀ l ∈ w.page.path.looks disk.here,
      isSight { w with attempts := w.attempts ++ [figure], disk } l = true := by
    rw [hsight, hhere]
    exact hpage
  exact (writeSheet_commutes hlooks _ _).bind fun _ w₃ _ => openPage_commutes w₃

theorem clear_commutes (w : World) : Commutes sighted canvas.clear w := by
  dsimp only [canvas]
  refine commutes_get rfl (edit_commutes (fun hunlinked => Disk.unlink_here hunlinked) ?_)
  exact Disk.unlink_only fun l hl => isSight_of_looks List.mem_cons_self hl

theorem sighted_overlooked : Overlooks sighted where
  write markup ending := by
    rw [write]
    split
    · exact Respects.modify fun _ => rfl
    · exact Respects.throw _
  canvas := {
    draw := fun figure => Respects.of_commutes (draw_commutes figure)
    clear := Respects.of_commutes clear_commutes }
  connect := by
    refine Respects.of_commutes fun w => ?_
    refine commutes_get ?_ ?_
    · rw [getTimeout_sighted]
      rfl
    · refine Commutes.bind rfl fun timeout t htimeout => ?_
      obtain rfl := (Prod.mk.inj htimeout).2
      refine Commutes.bind (Commutes.within ?_ fun _ => ?_) fun _ _ _ => ?_
      · rfl
      · rfl
      · rfl
  record _ := Respects.modify fun _ => rfl
  nextReply := by
    refine Respects.get_bind (fun _ => rfl) fun w => ?_
    split
    · exact Respects.pure _
    · exact Respects.pure _
    · exact Respects.bind (Respects.modify fun _ => rfl) fun _ => Respects.pure _

theorem tell_sighted (markup : String) : Respects sighted (tell markup) := by
  have hverbose : Respects sighted isVerbose := by
    refine Respects.of_commutes fun w => commutes_get ?_ rfl
    rw [isVerbose_sighted]
  exact hverbose.bind fun _ => Respects.ite (sighted_overlooked.write _ _) (Respects.pure _)

end World

end Session

end DependencyAtlas
