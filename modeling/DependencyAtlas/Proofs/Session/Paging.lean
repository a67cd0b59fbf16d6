import DependencyAtlas.Proofs.Files.Disk
import DependencyAtlas.Proofs.Session.Outcome
import DependencyAtlas.Proofs.Stage.Built

namespace DependencyAtlas.Session

open Files Scan Stage Drawing Layout
open Act (Keeps Maintains)

namespace World

def hasPage (w : World) : Bool :=
  w.disk.exists? w.page.path

def pageIsFile (w : World) : Bool :=
  w.disk.isFile w.page.path

def hasFolder (w : World) : Bool :=
  w.disk.isFolder w.page.path.parent

structure Grows (w w' : World) : Prop where
  disk : w.disk.Grows w'.disk
  path : w'.page.path = w.page.path

theorem Grows.refl (w : World) : w.Grows w :=
  ⟨.refl _, rfl⟩

theorem Grows.trans {w w' w'' : World} (h : w.Grows w') (h' : w'.Grows w'') : w.Grows w'' :=
  ⟨h.disk.trans h'.disk, h'.path.trans h.path⟩

theorem Grows.hasPage {w w' : World} (h : w.Grows w') (hpage : w.hasPage = true) : w'.hasPage = true := by
  rw [World.hasPage, h.path]
  exact h.disk.exists? hpage

theorem Grows.hasFolder {w w' : World} (h : w.Grows w') (hfolder : w.hasFolder = true) : w'.hasFolder = true := by
  rw [World.hasFolder, h.path]
  exact h.disk.isFolder hfolder

theorem Grows.pageIsFile {w w' : World} (h : w.Grows w') (hpage : w.pageIsFile = true) : w'.pageIsFile = true := by
  rw [World.pageIsFile, h.path]
  exact h.disk.isFile hpage

end World

def Growing {α : Type} (act : Act World α) : Prop :=
  ∀ w : World, w.Grows (act w).2

section

variable {α β : Type}

theorem Growing.of_keeps {act : Act World α} (h : Keeps (fun w => (w.disk, w.page.path)) act) :
    Growing act := by
  intro w
  obtain ⟨hdisk, hpath⟩ := Prod.ext_iff.mp (h w)
  exact ⟨(show (act w).2.disk = w.disk from hdisk) ▸ .refl _, hpath⟩

theorem Growing.bind {act : Act World α} {next : α → Act World β} (hact : Growing act)
    (hnext : ∀ a, Growing (next a)) : Growing (act >>= next) := by
  intro w
  have hgrows := hact w
  rw [Act.bind_apply]
  rcases hended : act w with ⟨failure | a, w'⟩
  · rw [hended] at hgrows
    exact hgrows
  · rw [hended] at hgrows
    exact hgrows.trans (hnext a w')

theorem Growing.maintains {act : Act World α} (h : Growing act) (w : World) : Maintains w.Grows act :=
  fun w' hgrows => hgrows.trans (h w')

theorem edit_apply (alter : Disk → Except Fault Disk) (w : World) :
    edit alter w =
      match alter w.disk with
      | .ok disk => (.ok (), { w with disk })
      | .error fault => (.error (.file fault), w) := by
  rw [edit, Act.bind_apply_ok (Act.get_apply w)]
  rcases alter w.disk with fault | disk <;> rfl

theorem edit_growing {alter : Disk → Except Fault Disk} (h : ∀ d e, alter d = .ok e → d.Grows e) :
    Growing (edit alter) := by
  intro w
  rw [edit_apply]
  cases hedit : alter w.disk with
  | error fault => exact .refl w
  | ok disk => exact ⟨h _ _ hedit, rfl⟩

theorem writeFile_growing (path : Path) (text : String) : Growing (writeFile path text) :=
  Growing.bind (.of_keeps (nextMishap_keeps fun _ _ => rfl)) fun _ =>
    edit_growing fun _ _ => Disk.write_grows

theorem writeSheet_growing (sheet : Sheet) (path : Path) (figure : Figure Float) :
    Growing (writeSheet sheet path figure) :=
  Growing.bind (.of_keeps Keeps.get) fun _ => writeFile_growing _ _

theorem openPage_growing : Growing openPage :=
  .of_keeps (openPage_keeps fun _ _ => rfl)

theorem draw_growing (figure : Figure Float) : Growing (canvas.draw figure) := by
  dsimp only [canvas]
  refine Growing.bind (.of_keeps (Keeps.modify fun _ => rfl)) fun _ => ?_
  refine Growing.bind (.of_keeps Keeps.get) fun _ => ?_
  refine Growing.bind (edit_growing fun _ _ => Disk.makeFolders_grows) fun _ => ?_
  exact Growing.bind (writeSheet_growing _ _ _) fun _ => openPage_growing

end

theorem edit_eq_ok {alter : Disk → Except Fault Disk} {w w' : World} {u : Unit}
    (h : edit alter w = (.ok u, w')) :
    ∃ disk, alter w.disk = .ok disk ∧ w' = { w with disk } := by
  rw [edit_apply] at h
  cases hedit : alter w.disk with
  | error fault =>
    rw [hedit] at h
    cases h
  | ok disk =>
    rw [hedit] at h
    exact ⟨disk, rfl, (congrArg Prod.snd h).symm⟩

theorem isFile_of_writeFile {path : Path} {text : String} {w w' : World} {u : Unit}
    (h : writeFile path text w = (.ok u, w')) : w'.disk.isFile path = true := by
  obtain ⟨_, w₁, -, hedit⟩ := Act.bind_eq_ok h
  obtain ⟨disk, hwrite, rfl⟩ := edit_eq_ok hedit
  exact Disk.isFile_of_write hwrite

theorem isFile_of_writeSheet {sheet : Sheet} {path : Path} {figure : Figure Float} {w w' : World} {u : Unit}
    (h : writeSheet sheet path figure w = (.ok u, w')) : w'.disk.isFile path = true := by
  obtain ⟨_, _, hget, hwrite⟩ := Act.bind_eq_ok h
  cases hget
  exact isFile_of_writeFile hwrite

theorem pageIsFile_of_draw {figure : Figure Float} {w w' : World} {u : Unit}
    (h : canvas.draw figure w = (.ok u, w')) : w'.pageIsFile = true := by
  obtain ⟨_, w₁, -, h⟩ := Act.bind_eq_ok h
  obtain ⟨_, _, hget, h⟩ := Act.bind_eq_ok h
  cases hget
  obtain ⟨_, w₂, hfolders, h⟩ := Act.bind_eq_ok h
  obtain ⟨disk, -, rfl⟩ := edit_eq_ok hfolders
  obtain ⟨_, w₃, hwrite, hopen⟩ := Act.bind_eq_ok h
  have hthere : w₃.pageIsFile = true := by
    rw [World.pageIsFile, ← isFile_of_writeSheet hwrite]
    have hpath := (writeSheet_growing .live w₁.page.path figure { w₁ with disk }).path
    rw [hwrite] at hpath
    rw [hpath]
  have hgrows := openPage_growing w₃
  rw [hopen] at hgrows
  exact hgrows.pageIsFile hthere

theorem hasPage_of_draw {figure : Figure Float} {w w' : World} {u : Unit}
    (h : canvas.draw figure w = (.ok u, w')) : w'.hasPage = true :=
  Disk.exists_of_isFile (pageIsFile_of_draw h)

theorem hasFolder_of_draw {figure : Figure Float} {w : World}
    (h : ∀ failure, (canvas.draw figure w).1 = .error failure → failure.halts = true) :
    (canvas.draw figure w).2.hasFolder = true := by
  have hdraw : canvas.draw figure w = (do
      edit fun disk => disk.makeFolders w.page.path.parent
      writeSheet .live w.page.path figure
      openPage : Act World Unit) { w with attempts := w.attempts ++ [figure] } := rfl
  rw [hdraw] at h ⊢
  rcases hmade : w.disk.makeFolders w.page.path.parent with fault | disk
  · have hfailed := edit_apply (fun disk => disk.makeFolders w.page.path.parent)
      { w with attempts := w.attempts ++ [figure] }
    rw [hmade] at hfailed
    rw [Act.bind_apply_error hfailed] at h
    cases h _ rfl
  · have hedited := edit_apply (fun disk => disk.makeFolders w.page.path.parent)
      { w with attempts := w.attempts ++ [figure] }
    rw [hmade] at hedited
    rw [Act.bind_apply_ok hedited]
    refine (Growing.bind (writeSheet_growing _ _ _) (fun _ => openPage_growing) _).hasFolder ?_
    exact Disk.isFolder_of_makeFolders hmade

theorem clear_apply (w : World) :
    canvas.clear w =
      match w.disk.unlink w.page.path with
      | .ok disk => (.ok (), { w with disk })
      | .error fault => (.error (.file fault), w) := by
  dsimp only [canvas]
  rw [Act.bind_apply_ok (Act.get_apply w), edit_apply]

theorem hasPage_of_clear {w : World} (h : (canvas.clear w).1 = .ok ()) :
    (canvas.clear w).2.hasPage = false ∧ (canvas.clear w).2.page = w.page := by
  rw [clear_apply] at h ⊢
  cases hunlink : w.disk.unlink w.page.path with
  | error fault =>
    rw [hunlink] at h
    cases h
  | ok disk => exact ⟨Disk.exists_of_unlink hunlink, rfl⟩

theorem pageIsFile_of_clear (w : World) : (canvas.clear w).2.pageIsFile = false := by
  rw [clear_apply]
  rcases hunlink : w.disk.unlink w.page.path with fault | disk
  · exact Disk.isFile_of_unlink_error hunlink
  · exact eq_false_of_ne_true fun hfile =>
      absurd (Disk.exists_of_isFile hfile) (ne_true_of_eq_false (Disk.exists_of_unlink hunlink))

variable {clean : Prop}

structure Drawable (policy : Policy) (v : Visualization Float) : Prop where
  joined : v.graph.Joined
  complete : v.Complete
  computes : policy.Computes v.graph.nodes.length

/-- What is shown is bound to the surface, and the page is there. If there was none at first, it is there only then. -/
structure Staged (clean : Prop) (s : Studio World Unit) : Prop where
  page : s.renderer.hasInstance = true → s.outside.hasPage = true
  unpaged : clean → s.renderer.hasInstance = false → s.outside.hasPage = false
  bound : s.surface.bound = s.renderer.live.map fun live => .visualization live.id
  drawable : ∀ live, s.renderer.live = some live → Drawable s.renderer.policy live.visualization

namespace Drawable

variable {policy : Policy} {v : Visualization Float} (h : Drawable policy v)

include h

theorem moving : ∃ figure, v.figure floatGauge (Studio.moveOptions policy) = .ok figure :=
  Visualization.figure_eq_ok h.joined h.complete rfl h.computes.shares

theorem still : ∃ figure, v.figure floatGauge {} = .ok figure :=
  Visualization.figure_eq_ok h.joined h.complete rfl ⟨_, rfl⟩

theorem select (id : String) : Drawable policy (v.select id).1 := by
  rw [Visualization.select]
  split
  · exact ⟨h.joined, ⟨h.complete.positions, h.complete.frames⟩, h.computes⟩
  · exact h

end Drawable

theorem drawable_of_firstView {policy : Policy} {g : Graph} {v : Visualization Float}
    (hjoined : g.Joined) (hcomputes : policy.Computes g.nodes.length)
    (h : Studio.firstView policy g = .ok v) : Drawable policy v := by
  obtain ⟨rfl, -, hcomplete⟩ := Studio.firstView_complete hjoined h
  exact ⟨hjoined, hcomplete, hcomputes⟩

theorem Drawable.nextView {policy : Policy} {v v' : Visualization Float} (h : Drawable policy v)
    (hview : Studio.nextView policy v = .ok v') : Drawable policy v' := by
  have hgraph := Studio.nextView_graph hview
  exact ⟨hgraph ▸ h.joined, Studio.nextView_complete h.joined hview, hgraph ▸ h.computes⟩

theorem staged_of_hidden {s : Studio World Unit} (hlive : s.renderer.live = none)
    (hbound : s.surface.bound = none) (hpage : clean → s.outside.hasPage = false) : Staged clean s where
  page := by
    rw [Renderer.hasInstance, hlive]
    exact fun hshown => absurd hshown Bool.false_ne_true
  unpaged hclean _ := hpage hclean
  bound := by
    rw [hbound, hlive]
    rfl
  drawable := by
    rw [hlive]
    rintro _ ⟨⟩

namespace Staged

variable {s : Studio World Unit} (h : Staged clean s)

include h

theorem hasPage (hclean : clean) : s.outside.hasPage = s.renderer.hasInstance := by
  cases hshown : s.renderer.hasInstance with
  | true => exact h.page hshown
  | false => exact h.unpaged hclean hshown

theorem release (hclear : s.renderer.hasInstance = true → (canvas.clear s.outside).1 = .ok ()) :
    ∃ t, Studio.release canvas s = (.ok (), t) ∧ Staged clean t ∧
      t.renderer = { s.renderer with live := none } ∧
      (t.outside = s.outside ∨ t.outside = (canvas.clear s.outside).2) := by
  cases hlive : s.renderer.live with
  | none =>
    refine ⟨s, Studio.release_of_hidden hlive, h, ?_, .inl rfl⟩
    rw [← hlive]
  | some live =>
    have hbound : s.surface.bound = some (.visualization live.id) := by
      rw [h.bound, hlive]
      rfl
    have hcleared := hclear (by rw [Renderer.hasInstance, hlive, Option.isSome_some])
    refine ⟨_, Studio.release_of_live hlive hcleared, ?_, rfl, .inr ?_⟩
    · refine staged_of_hidden rfl (Surface.without_bound_self hbound) fun _ => ?_
      rw [Studio.letGo, if_pos hbound]
      exact (hasPage_of_clear hcleared).1
    · rw [Studio.letGo, if_pos hbound]

theorem render (hnow : s.outside.Orderly) (hcleared : (canvas.clear s.outside).2.Orderly) {g : Graph}
    (hempty : g.isEmpty = false) (hjoined : g.Joined)
    (hcomputes : s.renderer.policy.Computes g.nodes.length) :
    ∃ t, Staged clean t ∧ (Studio.render canvas g s = (.ok true, t) ∨
      ∃ c, c ≠ .emptyResult ∧ Studio.render canvas g s = (.error (.complaint c), t)) := by
  obtain ⟨t, hrelease, hstaged, hrenderer, houtside⟩ := h.release fun _ => hnow.clears.now
  have horderly : t.outside.Orderly := by
    rcases houtside with houtside | houtside
    · exact houtside ▸ hnow
    · exact houtside ▸ hcleared
  have hlive : t.renderer.live = none := congrArg Renderer.live hrenderer
  have hpolicy : t.renderer.policy = s.renderer.policy := by rw [hrenderer]
  have hfree : t.surface.bound = none := by
    rw [hstaged.bound, hlive]
    rfl
  obtain ⟨v, hview⟩ := Studio.firstView_eq_ok hjoined (hpolicy ▸ hcomputes)
  have hdrawable := drawable_of_firstView hjoined (hpolicy ▸ hcomputes) hview
  obtain ⟨figure, hfigure⟩ := hdrawable.moving
  have hrender : Studio.render canvas g s = Studio.firstDraw canvas v (t.showing v) := by
    rw [Studio.render_apply hrelease, if_neg (ne_true_of_eq_false hempty), hview]
    dsimp only
    rw [hfree]
  have htransition : Studio.drawTransition canvas v (t.showing v) =
      ((canvas.draw figure t.outside).1.mapError Studio.drawFailure,
        { t.showing v with outside := (canvas.draw figure t.outside).2 }) := by
    have hshowing : (t.showing v).renderer.policy = t.renderer.policy := rfl
    rw [Studio.drawTransition_apply, hshowing, hfigure]
    exact Studio.draw_apply figure _
  rcases hdraw : canvas.draw figure t.outside with ⟨failure | _, w⟩ <;> rw [hdraw] at htransition
  · -- The page that could not be drawn is let go again.
    have hstops := horderly.stops figure failure (congrArg Prod.fst hdraw)
    have hclear := horderly.clears.drawn figure
    rw [hdraw] at hclear
    have hgone := Studio.release_of_live (s := { t.showing v with outside := w }) rfl hclear
    have hbound : ({ t.showing v with outside := w } : Studio World Unit).surface.bound =
      some (.visualization t.registry.created) := rfl
    rw [if_pos hbound] at hgone
    rw [Except.mapError, Studio.drawFailure, if_pos hstops] at htransition
    rw [hrender, Studio.firstDraw_of_error htransition rfl hgone]
    refine ⟨_, staged_of_hidden rfl (Surface.without_bound_self hbound) fun _ => ?_,
      .inr ⟨.render ("Could not draw the graph: " ++ failure.text), by rintro ⟨⟩, rfl⟩⟩
    exact (hasPage_of_clear hclear).1
  · rw [hrender, Studio.firstDraw_of_drawn htransition]
    refine ⟨_, ⟨fun _ => hasPage_of_draw hdraw, ?_, rfl, ?_⟩, .inl rfl⟩
    · rintro - ⟨⟩
    · rintro _ ⟨⟩
      exact hdrawable

theorem redraw {live : Live} (hlive : s.renderer.live = some live) {v : Visualization Float}
    (hdrawable : Drawable s.renderer.policy v) (figure : Figure Float) :
    Staged clean { s.changed live v with outside := (canvas.draw figure s.outside).2 } where
  page _ := (draw_growing figure s.outside).hasPage (h.page (by rw [Renderer.hasInstance, hlive]; rfl))
  unpaged _ hhidden := by cases hhidden
  bound := by
    rw [Studio.changed]
    exact h.bound.trans (by rw [hlive]; rfl)
  drawable := by
    rintro _ ⟨⟩
    exact hdrawable

end Staged

def World.StopsDrawing (w : World) : Prop :=
  ∀ figure failure, (canvas.draw figure w).1 = .error failure → failure.stopsDrawing = true

structure Recovers {σ α : Type} (P : σ → Prop) (ended : Except Failure α × σ) : Prop where
  complains : ∀ failure, ended.1 = .error failure → ∃ c, failure = .complaint c
  leaves : P ended.2

namespace Recovers

variable {σ α β : Type} {P : σ → Prop} {s : σ}

theorem ok (a : α) (h : P s) : Recovers P (Except.ok a, s) :=
  ⟨nofun, h⟩

theorem complaint (c : Complaint) (h : P s) :
    Recovers P ((Except.error (.complaint c), s) : Except Failure α × σ) :=
  ⟨fun _ hc => ⟨c, (Except.error.inj hc).symm⟩, h⟩

theorem bind {act : Act σ α} {next : α → Act σ β} (h : Recovers P (act s))
    (hnext : ∀ a t, act s = (.ok a, t) → P t → Recovers P (next a t)) :
    Recovers P ((act >>= next) s) := by
  rw [Act.bind_apply]
  rcases hended : act s with ⟨failure | a, t⟩
  · rw [hended] at h
    obtain ⟨c, rfl⟩ := h.complains failure rfl
    exact .complaint c h.leaves
  · rw [hended] at h
    exact hnext a t hended h.leaves

theorem map {act : Act σ α} (h : Recovers P (act s)) (f : α → β) :
    Recovers P ((do return f (← act)) s) :=
  h.bind fun a _ _ ht => ok (f a) ht

end Recovers

namespace Staged

variable {s : Studio World Unit} (h : Staged clean s) (hstops : s.outside.StopsDrawing)

include h hstops

theorem draw {live : Live} (hlive : s.renderer.live = some live) {v : Visualization Float}
    (hdrawable : Drawable s.renderer.policy v) (figure : Figure Float) :
    Recovers (Staged clean) (Studio.draw canvas figure (s.changed live v)) := by
  have hredraw := h.redraw hlive hdrawable figure
  have houtside : (s.changed live v).outside = s.outside := rfl
  rw [Studio.draw_apply, houtside]
  cases hdraw : (canvas.draw figure s.outside).1 with
  | ok _ => exact .ok _ hredraw
  | error failure =>
    simp only [Except.mapError, Studio.drawFailure]
    rw [if_pos (hstops figure failure hdraw)]
    exact .complaint _ hredraw

theorem relayout : Recovers (Staged clean) (Studio.relayout canvas s) := by
  cases hlive : s.renderer.live with
  | none =>
    rw [Studio.relayout_of_hidden hlive]
    exact .ok _ h
  | some live =>
    have hshown := h.drawable live hlive
    obtain ⟨v, hview⟩ := Studio.nextView_eq_ok hshown.joined hshown.computes
    have hdrawable := hshown.nextView hview
    obtain ⟨figure, hfigure⟩ := hdrawable.moving
    have hpolicy : (s.changed live v).renderer.policy = s.renderer.policy := rfl
    rw [Studio.relayout_apply hlive, hview]
    dsimp only
    rw [Studio.drawTransition_apply, hpolicy, hfigure]
    exact h.draw hstops hlive hdrawable figure

end Staged

theorem notifyAll_apply (id : String) (handlers : List Unit) (s : Studio World Unit) :
    ∃ printed, Studio.notifyAll canvas id handlers s =
      (.ok (), { s with outside := { s.outside with printed } }) := by
  induction handlers generalizing s with
  | nil => exact ⟨_, rfl⟩
  | cons handler rest ih =>
    obtain ⟨text, htext⟩ := Console.Markup.render_clicked id
    have hnotify : Studio.outsideAct (canvas.notify handler id) s =
        (.ok (), { s with outside := { s.outside with printed := s.outside.printed ++ [text ++ "\n"] } }) := by
      rw [Studio.outsideAct, Act.within_apply]
      dsimp only [canvas]
      rw [print, write_of_text htext]
    obtain ⟨printed, hrest⟩ := ih
      { s with outside := { s.outside with printed := s.outside.printed ++ [text ++ "\n"] } }
    exact ⟨printed, (Act.bind_apply_ok hnotify).trans hrest⟩

theorem Staged.printed {s : Studio World Unit} (h : Staged clean s) (printed : List String) :
    Staged clean { s with outside := { s.outside with printed } } :=
  ⟨h.page, h.unpaged, h.bound, h.drawable⟩

theorem Staged.tap {s : Studio World Unit} (h : Staged clean s) (hstops : s.outside.StopsDrawing)
    (id : String) : Recovers (Staged clean) (Studio.tap canvas id s) := by
  rw [Studio.tap, Act.bind_apply_ok (Act.get_apply s)]
  cases hlive : s.renderer.live with
  | none => exact .ok _ h
  | some live =>
    have hdrawable := (h.drawable live hlive).select id
    rcases hselect : live.visualization.select id with ⟨v, _ | kind⟩
    · dsimp only
      rw [hselect]
      exact .ok _ h
    · dsimp only
      rw [hselect] at hdrawable ⊢
      obtain ⟨figure, hfigure⟩ := hdrawable.still
      dsimp only at hfigure ⊢
      rw [Studio.setLive, Act.bind_apply_ok (Act.modify_apply _ s), hfigure,
        Act.bind_apply_ok (Act.ofExcept_apply _ _)]
      refine Recovers.bind (h.draw hstops hlive hdrawable figure) fun _ t _ ht => ?_
      split
      · rw [Act.bind_apply_ok (Act.get_apply t)]
        obtain ⟨printed, htold⟩ := notifyAll_apply id t.renderer.handlers t
        rw [Act.bind_apply_ok htold]
        exact .ok _ (ht.printed printed)
      · exact .ok _ ht

end DependencyAtlas.Session
