import DependencyAtlas.Proofs.Files.Ways
import DependencyAtlas.Proofs.Session.Exporting
import DependencyAtlas.Proofs.Session.Selecting

namespace DependencyAtlas

open Files Scan Stage Drawing
open Act (Keeps Maintains keeps_iff)

namespace Session

structure World.Firm (page : Path) (here : Location) (w : World) : Prop where
  rooted : w.disk.Rooted
  page : w.page.path = page
  here : w.disk.here = here

section

variable {page : Path} {here : Location}

theorem edit_firm {alter : Disk → Except Fault Disk} (hrooted : ∀ d e, alter d = .ok e → d.Rooted → e.Rooted)
    (hhere : ∀ d e, alter d = .ok e → e.here = d.here) : Maintains (World.Firm page here) (edit alter) := by
  intro w h
  rw [edit, Act.bind_apply_ok (Act.get_apply w)]
  cases hedit : alter w.disk with
  | error fault => exact h
  | ok disk => exact ⟨hrooted _ _ hedit h.rooted, h.page, (hhere _ _ hedit).trans h.here⟩

theorem firm_of_keeps {α : Type} {act : Act World α} (h : Keeps (fun w => (w.disk, w.page.path)) act) :
    Maintains (World.Firm page here) act := by
  intro w hw
  obtain ⟨hdisk, hpath⟩ := Prod.ext_iff.mp (h w)
  dsimp only at hdisk hpath
  exact ⟨hdisk ▸ hw.rooted, hpath.trans hw.page, hdisk ▸ hw.here⟩

theorem makeFolders_firm (p : Path) : Maintains (World.Firm page here) (edit fun disk => disk.makeFolders p) :=
  edit_firm (fun _ _ hmade hd => hd.makeFolders hmade) fun _ _ hmade => (Disk.makeFolders_grows hmade).here

theorem writeFile_firm (p : Path) (text : String) : Maintains (World.Firm page here) (writeFile p text) :=
  .bind (firm_of_keeps (nextMishap_keeps fun _ _ => rfl)) fun _ =>
    edit_firm (fun _ _ hwritten hd => hd.write hwritten) fun _ _ hwritten => (Disk.write_grows hwritten).here

theorem writeSheet_firm (sheet : Sheet) (p : Path) (figure : Figure Float) :
    Maintains (World.Firm page here) (writeSheet sheet p figure) :=
  .bind .get fun _ => writeFile_firm _ _

theorem draw_firm (figure : Figure Float) : Maintains (World.Firm page here) (canvas.draw figure) := by
  dsimp only [canvas]
  refine Maintains.bind (firm_of_keeps (Keeps.modify fun _ => rfl)) fun _ => ?_
  refine Maintains.bind .get fun _ => ?_
  refine Maintains.bind (makeFolders_firm _) fun _ => ?_
  exact .bind (writeSheet_firm _ _ _) fun _ => firm_of_keeps (openPage_keeps fun _ _ => rfl)

theorem clear_firm : Maintains (World.Firm page here) canvas.clear := by
  dsimp only [canvas]
  refine Maintains.bind .get fun _ => ?_
  exact edit_firm (fun _ _ hunlinked hd => hd.unlink hunlinked) fun _ _ => Disk.unlink_here

theorem notify_keeps {γ : Type} {f : World → γ} (hf : ∀ w printed, f { w with printed } = f w) (handler : Unit)
    (id : String) : Keeps f (canvas.notify handler id) := by
  dsimp only [canvas]
  exact write_keeps hf _ _

theorem notify_firm (handler : Unit) (id : String) : Maintains (World.Firm page here) (canvas.notify handler id) :=
  firm_of_keeps (notify_keeps (fun _ _ => rfl) handler id)

end

theorem Growing.maintains_folder {α : Type} {act : Act World α} (h : Growing act) :
    Maintains (fun w => w.hasFolder = true) act :=
  fun w hfolder => (h w).hasFolder hfolder

theorem makeFolders_folder (p : Path) : Maintains (fun w => w.hasFolder = true) (edit fun disk => disk.makeFolders p) :=
  Growing.maintains_folder (edit_growing fun _ _ => Disk.makeFolders_grows)

theorem writeFile_folder (path : Path) (text : String) :
    Maintains (fun w => w.hasFolder = true) (writeFile path text) :=
  (writeFile_growing path text).maintains_folder

namespace Viewer

structure Sound (page : Path) (here : Location) (v : Viewer) : Prop where
  firm : v.world.Firm page here
  folder : v.studio.renderer.hasInstance = true → v.world.hasFolder = true
  joined : ∀ g, v.studio.renderer.elements = some g → g.Joined
  built : v.studio.renderer.Built

variable {page : Path} {here : Location} {v : Viewer}

theorem sound_of_hidden (hfirm : v.world.Firm page here) (hlive : v.studio.renderer.live = none) :
    v.Sound page here where
  firm := hfirm
  folder := by
    rw [Renderer.hasInstance, hlive]
    intro hshown
    cases hshown
  joined := by
    rw [Renderer.elements, hlive]
    intro g hg
    cases hg
  built := Studio.built_of_hidden hlive

theorem Sound.same {α : Type} {act : Act Viewer α} (hfirm : Maintains (fun v => v.world.Firm page here) act)
    (hfolder : Maintains (fun v => v.world.hasFolder = true) act)
    (helements : Keeps (fun v => v.studio.renderer.elements) act)
    (hbuilt : Maintains (fun v => v.studio.renderer.Built) act) : Maintains (Sound page here) act := by
  intro v h
  have hinstance {v : Viewer} : v.studio.renderer.hasInstance = v.studio.renderer.elements.isSome :=
    Option.isSome_map.symm
  have hsame : (act v).2.studio.renderer.elements = v.studio.renderer.elements := helements v
  refine ⟨hfirm v h.firm, fun hshown => hfolder v (h.folder ?_), ?_, hbuilt v h.built⟩
  · rw [hinstance, ← hsame, ← hinstance]
    exact hshown
  · rw [hsame]
    exact h.joined

theorem exportOf_sound {α : Type} {content : Renderer Unit → Except Failure (Option α)}
    {out : α → Act World (Option Path)} (hfirm : ∀ a, Maintains (World.Firm page here) (out a))
    (hfolder : ∀ a, Maintains (fun w => w.hasFolder = true) (out a)) :
    Maintains (Sound page here) (exportOf content out) :=
  .same (exportOf_maintains hfirm) (exportOf_maintains hfolder)
    (fun v => congrArg Renderer.elements (exportOf_keeps_renderer content out v))
    (.of_keeps (exportOf_keeps_renderer content out))

theorem sound_stays : Stays (Sound page here) where
  scenery v w h hv := by
    have hrenderer := (parts_of_scenery h).renderer
    have hlasting : w.world.lasting = v.world.lasting := congrArg Studio.outside h
    have hdisk : w.world.disk = v.world.disk := (congrArg World.disk hlasting :)
    have hpath : w.world.page = v.world.page := (congrArg World.page hlasting :)
    have hfolder : w.world.hasFolder = v.world.hasFolder := by rw [World.hasFolder, World.hasFolder, hdisk, hpath]
    exact ⟨⟨hdisk ▸ hv.firm.rooted, hpath ▸ hv.firm.page, hdisk ▸ hv.firm.here⟩,
      hrenderer ▸ hfolder ▸ hv.folder, hrenderer ▸ hv.joined, hrenderer ▸ hv.built⟩
  release v hv := by
    refine sound_of_hidden ?_ (congrArg Renderer.live (Studio.release_renderer v.studio))
    exact Studio.release_maintains clear_firm v.studio hv.firm
  render g haccepted v hv := by
    have hfirm : (render g v).2.world.Firm page here :=
      Studio.render_maintains draw_firm clear_firm g v.studio hv.firm
    rcases Studio.render_ends g v.studio with
      ⟨-, hhidden⟩ | ⟨id, view, figure, outside, -, hhalts, houtside, hrenderer, -, hview, -⟩
    · exact sound_of_hidden hfirm (congrArg Renderer.live hhidden)
    · have hfolder : (render g v).2.world.hasFolder = true :=
        (congrArg World.hasFolder houtside).trans (hasFolder_of_draw hhalts)
      refine ⟨hfirm, fun _ => hfolder, ?_, Studio.render_built g v.studio⟩
      have helements : (render g v).2.studio.renderer.elements = some g := by
        obtain rfl := Studio.firstView_graph hview
        exact congrArg Renderer.elements hrenderer
      rw [helements]
      rintro _ ⟨⟩
      exact haccepted.joined
  relayout := .same (fun v => Studio.relayout_maintains draw_firm v.studio)
    (fun v => Studio.relayout_maintains (fun figure => (draw_growing figure).maintains_folder) v.studio)
    (fun v => Studio.relayout_keeps_elements v.studio) fun v => Studio.relayout_built
  tap id := .same (fun v => Studio.tap_maintains draw_firm notify_firm id v.studio)
    (fun v => Studio.tap_maintains (fun figure => (draw_growing figure).maintains_folder)
      (fun handler id => keeps_iff.mp (notify_keeps (fun _ _ => rfl) handler id) true) id v.studio)
    (fun v => Studio.tap_keeps_elements id v.studio) fun v h => Studio.tap_built h id
  exportImage := by
    rw [exportImage_eq]
    exact exportOf_sound (fun _ => writeOut_maintains makeFolders_firm (writeImage_maintains writeFile_firm))
      fun _ => writeOut_maintains makeFolders_folder (writeImage_maintains writeFile_folder)
  exportPage := by
    rw [exportPage_eq]
    exact exportOf_sound (fun _ => writeOut_maintains makeFolders_firm fun path => writeSheet_firm _ path _)
      fun _ => writeOut_maintains makeFolders_folder fun path => (writeSheet_growing _ path _).maintains_folder
  exportElements := by
    rw [exportElements_eq]
    exact exportOf_sound (fun _ => writeOut_maintains makeFolders_firm fun path => writeFile_firm path _)
      fun _ => writeOut_maintains makeFolders_folder fun path => writeFile_folder path _

end Viewer

end Session

end DependencyAtlas
