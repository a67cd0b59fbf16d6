import DependencyAtlas.Program.Run
import DependencyAtlas.Proofs.Session.Serious
import DependencyAtlas.Proofs.Session.Verbose

namespace DependencyAtlas

open Files Scan Session Stage Drawing
open Act (Keeps)

namespace Stage.Studio

theorem release_outside {s : Studio World Unit} {live : Live} (hlive : s.renderer.live = some live)
    (hbound : s.surface.bound = some (.visualization live.id)) :
    (release canvas s).2.outside = (canvas.clear s.outside).2 := by
  have hunbind (s : Studio World Unit) (hbound : s.surface.bound = some (.visualization live.id)) :
      (unbind canvas (some (.visualization live.id)) s).2.outside = (canvas.clear s.outside).2 := by
    rw [unbind, Act.bind_apply_ok (Act.get_apply s), if_pos hbound, Act.bind_apply_ok (Act.modify_apply _ s)]
    have hmarked : Keeps outside (modify fun s : Studio World Unit => { s with surface := s.surface.cleared }) :=
      Keeps.modify fun _ => rfl
    exact Keeps.bind_right (fun _ => hmarked) _
  rw [release, Act.bind_apply_ok (Act.get_apply s), hlive]
  dsimp only
  rw [setLive, Act.bind_apply_ok (Act.modify_apply _ s), Keeps.bind_right (f := outside) fun _ => destroy_keeps (f := id) _]
  exact hunbind _ hbound

variable {s : Studio World Unit} (hhidden : s.renderer.live = none) (hfree : s.surface.bound = none)

include hhidden hfree

theorem render_first {g : Graph} (hempty : g.isEmpty = false) :
    (∃ t, render canvas g s = (.ok true, t) ∧ t.outside.pageIsFile = true) ∨
      ∃ failure t, render canvas g s = (.error failure, t) ∧
        (failure.halts = false → s.outside.pageIsFile = false → t.outside.pageIsFile = false) := by
  rw [render_apply (release_of_hidden hhidden), if_neg (ne_true_of_eq_false hempty)]
  rcases firstView s.renderer.policy g with failure | v
  · exact .inr ⟨failure, _, rfl, fun _ => id⟩
  dsimp only
  rw [hfree]
  dsimp only
  have hends := @firstDraw_ends _ _ canvas v (s.showing v)
  generalize firstDraw canvas v (s.showing v) = ended at hends ⊢
  cases hends with
  | @stays figure hfigure hhalts =>
    rcases hdrawn : canvas.draw figure (s.showing v).outside with ⟨failure | _, w⟩
    · rw [hdrawn] at hhalts
      refine .inr ⟨failure, _, rfl, fun hgoes => ?_⟩
      cases (hhalts failure rfl).symm.trans hgoes
    · exact .inl ⟨_, rfl, pageIsFile_of_draw hdrawn⟩
  | goes failure outside =>
    refine .inr ⟨failure, _, rfl, fun _ _ => ?_⟩
    -- The view is still bound, and so the page is cleared.
    have hlive : { s.showing v with outside }.renderer.live = some ⟨s.registry.created, v⟩ := rfl
    rw [release_outside hlive rfl]
    exact pageIsFile_of_clear outside

end Stage.Studio

namespace Session

structure Fresh (v : Viewer) : Prop where
  idle : v.Idle
  hidden : v.studio.renderer.live = none
  free : v.studio.surface.bound = none
  wordless : v.message = none
  serious : v.world.Serious

namespace Viewer

def Brings (path : String) (v : Viewer) (g : Graph) (u : Viewer) : Prop :=
  ∃ request, Request.ofValue (.str path) = .ok request ∧ scan request v.started = (.ok g, u)

def BringsNothing (path : String) (v : Viewer) : Prop :=
  ∃ g u, Brings path v g u ∧ g.isEmpty = true

def Draws (path : String) (v t : Viewer) : Prop :=
  ∃ g u, Brings path v g u ∧ g.isEmpty = false ∧ render g u = (.ok true, t)

end Viewer

end Session

namespace Program

open Viewer

/-- How the submission of a path ends: nothing is drawn, and there is an error; an empty graph is warned of; a graph is
drawn and handed on; or it is drawn, but then the settings cannot be read. -/
inductive FirstEnds (path : String) (v : Viewer) : Except Failure (Option Graph) × Viewer → Prop
  | undrawn {result : Except Failure (Option Graph)} {u : Viewer} (hfull : ¬ BringsNothing path v)
    (hundrawn : ∀ t, ¬ Draws path v t) (hpage : v.world.pageIsFile = false → u.world.pageIsFile = false)
    (hresult : (∃ failure, result = .error failure ∧ failure.Serious) ∨
      result = .ok none ∧ endsWell u.message = false) : FirstEnds path v (result, u)
  | nothing {u : Viewer} (hempty : BringsNothing path v) (hundrawn : ∀ t, ¬ Draws path v t)
    (hpage : v.world.pageIsFile = false → u.world.pageIsFile = false) (hwell : endsWell u.message = true) :
    FirstEnds path v (.ok none, u)
  | drawn {g : Graph} {t u : Viewer} {verbose : Bool} (hfull : ¬ BringsNothing path v) (hdrawn : Draws path v t)
    (hpage : u.world.pageIsFile = true) (hread : t.verbose = .ok verbose) : FirstEnds path v (.ok (some g), u)
  | unread {failure : Failure} {t u : Viewer} (hfull : ¬ BringsNothing path v) (hdrawn : Draws path v t)
    (hpage : u.world.pageIsFile = true) (hread : t.verbose = .error failure) (hserious : failure.Serious) :
    FirstEnds path v (.error failure, u)

section

variable {path : String} {v : Viewer}

theorem pageIsFile_of_scenery {v w : Viewer} (h : w.scenery = v.scenery) :
    w.world.pageIsFile = v.world.pageIsFile := by
  have hlasting : w.world.lasting = v.world.lasting := congrArg Studio.outside h
  exact (congrArg World.pageIsFile hlasting :)

theorem endsWell_message {c : Complaint} (hc : c ≠ .emptyResult) : endsWell (some c.message) = false := by
  rw [message_eq_error hc]
  rfl

theorem conclude_serious {act : Act Viewer Graph} {v u : Viewer} {failure : Failure}
    (h : act v = (.error failure, u)) (hserious : failure.Serious) :
    ((∃ failure', (conclude act v).1 = .error failure' ∧ failure'.Serious) ∨
      (conclude act v).1 = .ok none ∧ endsWell (conclude act v).2.message = false) ∧
      (conclude act v).2.world.pageIsFile = u.world.pageIsFile := by
  have hnot : failure ≠ .complaint .emptyResult := by
    rintro rfl
    exact hserious rfl
  refine ⟨?_, pageIsFile_of_scenery (conclude_failure_scenery h hnot)⟩
  cases failure with
  | complaint c =>
    rw [conclude_told h hserious, told_message]
    exact .inr ⟨rfl, endsWell_message hserious⟩
  | _ =>
    rw [conclude_of_failed (settle_of_failure h)]
    exact .inl ⟨_, rfl, hserious⟩

theorem brings_iff (htext : Text.trimmed path ≠ "") {scanned : Except Failure Graph} {w : Viewer}
    (hscan : Viewer.scan ⟨Text.trimmed path⟩ v.started = (scanned, w)) {g : Graph} {u : Viewer} :
    Viewer.Brings path v g u ↔ scanned = .ok g ∧ w = u := by
  rw [Viewer.Brings, ofValue_text htext]
  constructor
  · rintro ⟨_, ⟨⟩, h⟩
    exact Prod.mk.inj (hscan.symm.trans h)
  · rintro ⟨rfl, rfl⟩
    exact ⟨_, rfl, hscan⟩

theorem not_brings_of_blank (htext : Text.trimmed path = "") (g : Graph) (u : Viewer) : ¬ Viewer.Brings path v g u := by
  rintro ⟨_, hpath, -⟩
  rw [ofValue_blank (.inr ⟨path, rfl, htext⟩)] at hpath
  cases hpath

theorem conclude_drawn {g : Graph} {w t : Viewer} (h : present g w = (.ok g, t)) :
    (∃ verbose u, t.verbose = .ok verbose ∧ conclude (present g) w = (.ok (some g), u) ∧
      u.world.pageIsFile = t.world.pageIsFile) ∨
    ∃ failure u, t.verbose = .error failure ∧ conclude (present g) w = (.error failure, u) ∧
      u.world.pageIsFile = t.world.pageIsFile := by
  have hsettle : Viewer.settle (present g) w = (.ok (some g), t) := by
    rw [settle_apply, h]
  have hidle := scenery_unstated.becomeIdle t
  have hverbose : (becomeIdle t).2.verbose = t.verbose := by
    have hlasting : (becomeIdle t).2.world.lasting = t.world.lasting := congrArg Studio.outside hidle
    exact (congrArg (fun w => w.settings.isVerbose w.around) hlasting :)
  rw [conclude, Act.bind_apply_ok (ended_apply hsettle)]
  dsimp only
  rcases hread : t.verbose with failure | verbose
  · right
    rw [Act.bind_apply_error (tell_unread (hverbose.trans hread) _)]
    exact ⟨failure, _, rfl, rfl, pageIsFile_of_scenery hidle⟩
  · left
    obtain ⟨hresult, -⟩ := tell_alike (hverbose.trans hread) (render_counts g.nodes.length g.edges.length)
    have htold := scenery_unstated.tell ("[dim]Rendered " ++ toString g.nodes.length ++ " nodes, " ++
      toString g.edges.length ++ " edges[/dim]") (becomeIdle t).2
    rcases htell : inWorld (tell _) (becomeIdle t).2 with ⟨result, u⟩
    rw [htell] at hresult htold
    obtain rfl : result = .ok () := hresult
    rw [Act.bind_apply_ok htell]
    exact ⟨verbose, u, rfl, rfl, (pageIsFile_of_scenery htold).trans (pageIsFile_of_scenery hidle)⟩

section

variable (htext : Text.trimmed path ≠ "") {w : Viewer} (hpaged : w.world.pageIsFile = v.world.pageIsFile)

include htext hpaged

theorem first_refused (hidle : v.Idle) {failure : Failure}
    (hscan : Viewer.scan ⟨Text.trimmed path⟩ v.started = (.error failure, w)) (hserious : failure.Serious) :
    FirstEnds path v (submit (.str path) v) := by
  have hfailed : (Viewer.scan ⟨Text.trimmed path⟩ >>= present) v.started = (.error failure, w) :=
    Act.bind_apply_error hscan
  rw [submit_accepted (ofValue_text htext) hidle.1]
  obtain ⟨hresult, hpage⟩ := conclude_serious hfailed hserious
  refine .undrawn ?_ ?_ (hpage.trans hpaged).trans hresult
  · rintro ⟨g, u, hbrings, -⟩
    cases ((brings_iff htext hscan).mp hbrings).1
  · rintro t ⟨g, u, hbrings, -⟩
    cases ((brings_iff htext hscan).mp hbrings).1

variable {g : Graph} (hscan : Viewer.scan ⟨Text.trimmed path⟩ v.started = (.ok g, w))
  (hhidden : w.studio.renderer.live = none)

include hscan hhidden

theorem first_emptied (hempty : g.isEmpty = true) : FirstEnds path v (conclude (present g) w) := by
  have hbrings : Viewer.Brings path v g w := (brings_iff htext hscan).mpr ⟨rfl, rfl⟩
  have hrelease : Viewer.release w = (.ok (), w) := by
    rw [release_apply, Studio.release_of_hidden hhidden]
    rfl
  rw [conclude_emptied (present_of_empty hempty w) hrelease]
  refine .nothing ⟨g, w, hbrings, hempty⟩ ?_ ((pageIsFile_of_scenery (told_scenery _ _)).trans hpaged).trans ?_
  · rintro t ⟨g', u, hbrings', hfull, -⟩
    obtain ⟨⟨⟩, -⟩ := (brings_iff htext hscan).mp hbrings'
    cases hempty.symm.trans hfull
  · rw [told_message]
    rfl

theorem first_full (hfree : w.studio.surface.bound = none) (hw : w.world.Serious) (hempty : g.isEmpty = false) :
    FirstEnds path v (conclude (present g) w) := by
  have hbrings : Viewer.Brings path v g w := (brings_iff htext hscan).mpr ⟨rfl, rfl⟩
  have hfull : ¬ BringsNothing path v := by
    rintro ⟨g', u, hbrings', hempty'⟩
    obtain ⟨⟨⟩, -⟩ := (brings_iff htext hscan).mp hbrings'
    cases hempty.symm.trans hempty'
  have hpresent := present_apply hempty w
  rcases Studio.render_first hhidden hfree hempty with
    ⟨s, hrender, hpage⟩ | ⟨failure, s, hrender, hpage⟩ <;> rw [hrender] at hpresent
  · have hdraws : Draws path v (w.onStage s) :=
      ⟨g, w, hbrings, hempty, by rw [Viewer.render, inStudio, Act.within_apply, hrender]; rfl⟩
    rcases conclude_drawn hpresent with
      ⟨verbose, u, hread, hconclude, hsame⟩ | ⟨failure, u, hread, hconclude, hsame⟩ <;> rw [hconclude]
    · exact .drawn hfull hdraws (hsame.trans hpage) hread
    · exact .unread hfull hdraws (hsame.trans hpage) hread (Settings.isVerbose_failsAs _ _ failure hread)
  · have hserious : failure.Serious := by
      have hfails := Studio.render_sober g |>.failsAs w.studio hw
      rw [hrender] at hfails
      exact hfails failure rfl
    obtain ⟨hresult, hsame⟩ := conclude_serious hpresent hserious
    have hgone (hunpaged : v.world.pageIsFile = false) :=
      hsame.trans (hpage hserious.halts_eq_false (hpaged.trans hunpaged))
    refine .undrawn hfull ?_ hgone hresult
    rintro t ⟨g', u, hbrings', -, hdrawn⟩
    obtain ⟨⟨⟩, rfl⟩ := (brings_iff htext hscan).mp hbrings'
    rw [Viewer.render, inStudio, Act.within_apply, hrender] at hdrawn
    cases hdrawn

end

theorem first_ends (h : Fresh v) (path : String) : FirstEnds path v (submit (.str path) v) := by
  by_cases htext : Text.trimmed path = ""
  · rw [submit_blank htext]
    refine .undrawn ?_ ?_ id (.inr ⟨rfl, ?_⟩)
    · rintro ⟨g, u, hbrings, -⟩
      exact not_brings_of_blank htext g u hbrings
    · rintro t ⟨g, u, hbrings, -⟩
      exact not_brings_of_blank htext g u hbrings
    · rw [h.wordless]
      rfl
  rcases hscan : Viewer.scan ⟨Text.trimmed path⟩ v.started with ⟨scanned, w⟩
  have hstage : w.scenery = v.scenery := by
    rw [← started_scenery v, ← scan_keeps_scenery ⟨Text.trimmed path⟩ v.started, hscan]
  have hpaged : w.world.pageIsFile = v.world.pageIsFile := pageIsFile_of_scenery hstage
  have hstarted : v.started.world.Serious := h.serious.of_same (sources_unstated.started v)
  have hfails := (scan_sober ⟨Text.trimmed path⟩).failsAs _ hstarted
  have hw := (scan_sober ⟨Text.trimmed path⟩).maintains _ hstarted
  rw [hscan] at hfails hw
  rcases scanned with failure | g
  · exact first_refused htext hpaged h.idle hscan (hfails failure rfl)
  rw [submit_graph h.idle htext hscan rfl]
  have hparts := parts_of_scenery hstage
  have hhidden : w.studio.renderer.live = none := (congrArg Renderer.live hparts.renderer).trans h.hidden
  have hfree : w.studio.surface.bound = none := (congrArg Surface.bound hparts.surface).trans h.free
  rcases hempty : g.isEmpty with _ | _
  · exact first_full htext hpaged hscan hhidden hfree hw hempty
  · exact first_emptied htext hpaged hscan hhidden hempty

end

end Program

end DependencyAtlas
