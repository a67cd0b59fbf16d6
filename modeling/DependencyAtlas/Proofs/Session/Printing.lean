import DependencyAtlas.Proofs.Console.Markup
import DependencyAtlas.Proofs.Session.Frames

namespace DependencyAtlas.Session

open Scan Stage
open Act (Keeps)

def World.lasting (w : World) : World :=
  { w with pool := .empty, replies := [], printed := [], requests := [] }

@[simp] theorem World.lasting_settings (w : World) : w.lasting.settings = w.settings := rfl

@[simp] theorem World.lasting_around (w : World) : w.lasting.around = w.around := rfl

theorem write_of_text {markup text : String} (h : Console.Markup.render markup = .ok text)
    (ending : String) (w : World) :
    write markup ending w = (.ok (), { w with printed := w.printed ++ [text ++ ending] }) := by
  rw [write, h]
  rfl

theorem print_message (m : Message) (w : World) : (print m.markup w).1 = .ok () := by
  obtain ⟨text, htext⟩ := m.render_markup
  rw [print, write_of_text htext]

namespace Viewer

theorem print_failure {markup : String} {v u : Viewer} {failure : Failure}
    (h : inWorld (print markup) v = (.error failure, u)) : ∃ fault, failure = .markup fault := by
  rw [inWorld, Act.within_apply, print, write] at h
  rcases hrender : Console.Markup.render markup with fault | text <;> rw [hrender] at h
  · cases h
    exact ⟨fault, rfl⟩
  · cases h

theorem print_done {markup : String} {v u : Viewer} (h : inWorld (print markup) v = (.ok (), u)) :
    ∃ printed, u.world = { v.world with printed } := by
  rw [inWorld, Act.within_apply, print, write] at h
  rcases hrender : Console.Markup.render markup with fault | text <;> rw [hrender] at h
  · cases h
  · obtain ⟨-, rfl⟩ := Prod.mk.inj h
    exact ⟨_, rfl⟩

def scenery (v : Viewer) : Studio World Unit :=
  { v.studio with outside := v.world.lasting }

structure SameParts (u v : Viewer) : Prop where
  renderer : u.studio.renderer = v.studio.renderer
  surface : u.studio.surface = v.studio.surface
  registry : u.studio.registry = v.studio.registry
  attempts : u.world.attempts = v.world.attempts

theorem parts_of_scenery {u v : Viewer} (h : u.scenery = v.scenery) : SameParts u v := by
  have hrenderer : u.scenery.renderer = v.scenery.renderer := by rw [h]
  have hsurface : u.scenery.surface = v.scenery.surface := by rw [h]
  have hregistry : u.scenery.registry = v.scenery.registry := by rw [h]
  have hattempts : u.scenery.outside.attempts = v.scenery.outside.attempts := by rw [h]
  exact ⟨hrenderer, hsurface, hregistry, hattempts⟩

theorem inWorld_keeps_scenery {α : Type} {act : Act World α} (h : Keeps World.lasting act) :
    Keeps scenery (inWorld act) := by
  intro v
  have hkept := h v.world
  simp only [scenery, inWorld, Act.within_apply, setWorld, world] at hkept ⊢
  rw [hkept]

theorem showEvent_apply (event : Console.Event) (v : Viewer) :
    showEvent event v = (.ok (), (showEvent event v).2) := by
  refine Prod.ext ?_ rfl
  cases event with
  | print m =>
    rw [showEvent, inWorld, Act.within_apply]
    exact print_message m v.world
  | start => rfl
  | stop => rfl

theorem showEvents_ok (events : List Console.Event) (v : Viewer) :
    (showEvents events v).1 = .ok () := by
  induction events generalizing v with
  | nil => rfl
  | cons event rest ih =>
    rw [showEvents, Act.bind_apply_ok (showEvent_apply event v)]
    exact ih _

theorem change_ok (c : Change Bool) (v : Viewer) : (change c v).1 = .ok () := by
  rw [change, Act.bind_apply_ok (Act.get_apply v)]
  dsimp only
  rw [Act.bind_apply_ok (Act.modify_apply _ v)]
  split
  · exact showEvents_ok _ _
  · rw [Act.bind_apply_ok (Act.modify_apply _ _)]
    exact showEvents_ok _ _

theorem change_apply (c : Change Bool) (v : Viewer) : change c v = (.ok (), (change c v).2) :=
  Prod.ext (change_ok c v) rfl

theorem scenery_unstated : Unstated scenery where
  print _ := inWorld_keeps_scenery (write_keeps (fun _ _ => rfl) _ _)
  tell _ := inWorld_keeps_scenery (tell_keeps (fun _ _ => rfl) _)
  board _ _ := rfl
  changes _ _ := rfl
  inFlight _ _ := rfl

theorem becomeIdle_apply (v : Viewer) : becomeIdle v = (.ok (), (becomeIdle v).2) := by
  refine Prod.ext ?_ rfl
  rw [becomeIdle, Act.bind_apply_ok (Act.modify_apply _ v)]
  exact change_ok _ _

end Viewer

end DependencyAtlas.Session
