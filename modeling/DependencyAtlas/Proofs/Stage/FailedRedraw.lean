import DependencyAtlas.Proofs.Stage.Built
import DependencyAtlas.Proofs.Stage.Highlight

namespace DependencyAtlas.Stage

open Layout Drawing

variable {σ η : Type} {canvas : Canvas σ η}

def Renderer.frames (r : Renderer η) : List (Placement Float) :=
  (r.live.map (·.visualization.frames)).getD []

def Deed.Redraws : Deed η → Prop
  | relayout | tap _ => True
  | _ => False

/-- What a tap or a move leaves if its figure cannot be drawn. -/
structure Undrawn (s : Studio σ η) (deed : Deed η) (figure : Figure Float) (t : Studio σ η) : Prop where
  rest : t = { s with renderer := { s.renderer with live := t.renderer.live }, outside := t.outside }
  same : ∃ live live', s.renderer.live = some live ∧ t.renderer.live = some live' ∧
    live'.id = live.id ∧ live'.visualization.graph = live.visualization.graph
  tapped : ∀ id, deed = .tap id → t.renderer.selected = some id ∧
    t.renderer.positions = s.renderer.positions ∧ t.renderer.frames = s.renderer.frames
  moved : deed = .relayout → t.renderer.selected = s.renderer.selected ∧
    (∃ g, s.renderer.elements = some g ∧
      s.renderer.policy.arrange (.ofGraph g) s.renderer.positions = .ok t.renderer.positions) ∧
    s.renderer.policy.transition s.renderer.positions t.renderer.positions = .ok t.renderer.frames
  shown : t.renderer.ShownBy figure
  drawn : ∀ (canvas : Canvas σ η) (outside : σ), (canvas.draw figure outside).1 = .ok () →
    (deed.perform canvas { s with outside }).2.renderer = t.renderer

/-- How a tap or a move ends, whatever the canvas: without a draw, or with the draw of a figure. -/
inductive RedrawEnds (s : Studio σ η) (deed : Deed η) : Prop
  | still {result : Except Failure Result} {t : Studio σ η}
    (h : ∀ (canvas : Canvas σ η) (outside : σ),
      deed.perform canvas { s with outside } = (result, { t with outside }))
  | drawing (figure : Figure Float)
    (fails : ∀ (canvas : Canvas σ η) (outside outside' : σ) (cause : Failure),
      canvas.draw figure outside = (.error cause, outside') →
      ∃ t, deed.perform canvas { s with outside } = (.error (Studio.drawFailure cause), t) ∧
        t.outside = outside' ∧ Undrawn s deed figure t)

theorem Studio.nextView_moves {policy : Policy} {v v' : Visualization Float}
    (h : nextView policy v = .ok v') :
    policy.arrange (.ofGraph v.graph) v.positions = .ok v'.positions ∧
      policy.transition v.positions v'.positions = .ok v'.frames ∧ v'.selected = v.selected := by
  simp only [nextView, bind_eq_ok_iff] at h
  obtain ⟨positions, hpositions, frames, hframes, ⟨⟩⟩ := h
  exact ⟨hpositions, hframes, rfl⟩

structure Redrawing (s : Studio σ η) (live : Live) (deed : Deed η) (v : Visualization Float)
    (options : FigureOptions) (next : Canvas σ η → Act (Studio σ η) Result) : Prop where
  perform : ∀ (canvas : Canvas σ η) (outside : σ), deed.perform canvas { s with outside } =
    Studio.redraw canvas live v options (next canvas) { s with outside }
  graph : v.graph = live.visualization.graph
  last : options.animated = true → v.frames.getLast? = some v.positions
  tapped : ∀ id, deed = .tap id → v = { live.visualization with selected := some id }
  moved : deed = .relayout → Studio.nextView s.renderer.policy live.visualization = .ok v
  keeps : ∀ canvas, Act.Keeps Studio.renderer (next canvas)

section

variable {s : Studio σ η} {live : Live} (hlive : s.renderer.live = some live)

include hlive

theorem redrawing_tap {id : String} {kind : Graph.Element}
    (hkind : live.visualization.graph.element? id = some kind) :
    Redrawing s live (.tap id) { live.visualization with selected := some id } {}
      fun canvas => Studio.tell canvas id kind >>= fun kind => pure (.tapped kind) where
  perform canvas outside := by
    have htap := @Studio.tap_eq_redraw _ _ canvas { s with outside } _ hlive id kind hkind
    rw [Deed.perform, Act.bind_congr htap, Studio.redraw_bind]
  graph := rfl
  last := nofun
  tapped := by
    rintro _ ⟨⟩
    rfl
  moved := nofun
  keeps canvas := (Studio.tell_keeps (fun _ _ => rfl) id kind).bind fun _ => Act.Keeps.pure _

theorem redrawing_relayout {v : Visualization Float}
    (hview : Studio.nextView s.renderer.policy live.visualization = .ok v) :
    Redrawing s live .relayout v (Studio.moveOptions s.renderer.policy) fun _ => pure .done where
  perform canvas outside := by
    have hmove := @Studio.relayout_eq_redraw _ _ canvas { s with outside } _ _ hlive hview
    rw [Deed.perform, Act.bind_congr hmove, Studio.redraw_bind, pure_bind]
  graph := Studio.nextView_graph hview
  last _ := Studio.nextView_getLast? hview
  tapped := nofun
  moved _ := hview
  keeps _ := Act.Keeps.pure _

variable {deed : Deed η} {v : Visualization Float} {options : FigureOptions}
  {next : Canvas σ η → Act (Studio σ η) Result} (h : Redrawing s live deed v options next)

include h

theorem Redrawing.undrawn {figure : Figure Float} (hfigure : v.figure floatGauge options = .ok figure)
    (outside : σ) : Undrawn s deed figure { s.changed live v with outside } := by
  have hpositions : s.renderer.positions = live.visualization.positions := by
    rw [Renderer.positions, hlive]
    rfl
  have hselected : s.renderer.selected = live.visualization.selected := by
    rw [Renderer.selected, hlive]
    rfl
  constructor
  · rfl
  · exact ⟨live, _, hlive, rfl, rfl, h.graph⟩
  · intro id hdeed
    obtain rfl := h.tapped id hdeed
    refine ⟨rfl, hpositions.symm, ?_⟩
    rw [Renderer.frames, Renderer.frames, hlive]
    rfl
  · intro hdeed
    obtain ⟨harranged, hframes, hkept⟩ := Studio.nextView_moves (h.moved hdeed)
    have helements : s.renderer.elements = some live.visualization.graph := by
      rw [Renderer.elements, hlive, Option.map_some]
    rw [hpositions, hselected]
    exact ⟨hkept, ⟨_, helements, harranged⟩, hframes⟩
  · exact Renderer.shownBy_of_live rfl (Visualization.figure_shows h.last hfigure)
  · intro canvas outside' hdraw
    rw [h.perform, Studio.redraw_apply, hfigure]
    dsimp only
    rw [show canvas.draw figure outside' = (.ok (), _) from Prod.ext hdraw rfl]
    exact h.keeps canvas _

theorem Redrawing.ends : RedrawEnds s deed := by
  rcases hfigure : v.figure floatGauge options with failure | figure
  · have hstill (canvas : Canvas σ η) (outside : σ) : deed.perform canvas { s with outside } =
        (.error failure, { s.changed live v with outside }) := by
      rw [h.perform, Studio.redraw_apply, hfigure]
      rfl
    exact .still hstill
  · refine .drawing figure fun canvas outside outside' cause hdraw => ?_
    refine ⟨_, ?_, rfl, h.undrawn hlive hfigure outside'⟩
    rw [h.perform, Studio.redraw_apply, hfigure]
    dsimp only
    rw [hdraw]
    rfl

end

theorem failed_redraw {s : Studio σ η} (hinstance : s.renderer.hasInstance = true) {deed : Deed η}
    (hdeed : deed.Redraws) : RedrawEnds s deed := by
  obtain ⟨live, hlive⟩ := Option.isSome_iff_exists.mp hinstance
  cases deed with
  | tap id =>
    rcases hkind : live.visualization.graph.element? id with _ | kind
    · have hstill (canvas : Canvas σ η) (outside : σ) : Deed.perform canvas (.tap id) { s with outside } =
          (.ok (.tapped none), { s with outside }) := by
        have htap := @Studio.tap_of_unknown _ _ canvas { s with outside } _ hlive id hkind
        rw [Deed.perform, Act.bind_apply_ok htap]
        rfl
      exact .still hstill
    · exact (redrawing_tap hlive hkind).ends hlive
  | relayout =>
    rcases hview : Studio.nextView s.renderer.policy live.visualization with failure | v
    · have hstill (canvas : Canvas σ η) (outside : σ) : Deed.perform canvas .relayout { s with outside } =
          (.error failure, { s with outside }) := by
        have hmove := @Studio.relayout_apply _ _ canvas { s with outside } _ hlive
        dsimp only at hmove
        rw [hview] at hmove
        exact Act.bind_apply_error hmove
      exact .still hstill
    · exact (redrawing_relayout hlive hview).ends hlive
  | _ => cases hdeed

def shownStudio : Studio (Recording Nat) Nat :=
  (Studio.render (recorder Nat) loops freshStudio).2

def fullStudio : Studio (Recording Nat) Nat :=
  { shownStudio with
    outside := { shownStudio.outside with failing := some (.outside .system "disk full") } }

def tappedFull : Except Failure Result × Studio (Recording Nat) Nat :=
  Deed.perform (recorder Nat) (.tap "a") fullStudio

theorem failed_redraw_tapped :
    fullStudio.renderer.hasInstance = true ∧ (Deed.tap "a" : Deed Nat).Redraws ∧
      tappedFull.1 = .error (.complaint (.render "Could not draw the graph: disk full")) ∧
      ∃ figure, Undrawn fullStudio (.tap "a") figure tappedFull.2 := by
  have hinstance : fullStudio.renderer.hasInstance = true := rfl
  have hdeed : (Deed.tap "a" : Deed Nat).Redraws := trivial
  refine ⟨hinstance, hdeed, rfl, ?_⟩
  cases failed_redraw hinstance hdeed with
  | still h =>
    -- The tap fails on the full disk, but not where figures can be drawn.
    have hfull := congrArg Prod.fst (h (recorder Nat) fullStudio.outside)
    have hfree := congrArg Prod.fst (h (recorder Nat) shownStudio.outside)
    cases hfull.trans hfree.symm
  | drawing figure fails =>
    obtain ⟨t, hperform, -, hundrawn⟩ := fails (recorder Nat) fullStudio.outside _ _ rfl
    exact ⟨figure, congrArg Prod.snd hperform ▸ hundrawn⟩

theorem selected_without_draw :
    (Studio.render (recorder Nat) loops freshStudio).1 = .ok true ∧
      tappedFull.1 = .error (.complaint (.render "Could not draw the graph: disk full")) ∧
      fullStudio.renderer.selected = none ∧ tappedFull.2.renderer.selected = some "a" ∧
      ∃ figure, tappedFull.2.outside.drawn.getLast? = some figure ∧
        ¬ tappedFull.2.renderer.ShownBy figure := by
  have hcolors : tappedFull.2.outside.drawn.getLast?.map
      (fun figure => figure.final.markers.colors) = some ["#3b82f6", "#3b82f6"] := rfl
  obtain ⟨figure, hfigure, hfinal⟩ := Option.map_eq_some_iff.mp hcolors
  refine ⟨rfl, rfl, rfl, rfl, figure, hfigure, ?_⟩
  rintro ⟨g, hg, hshows⟩
  have hgraph : tappedFull.2.renderer.elements = some loops := rfl
  obtain rfl := Option.some.inj (hgraph.symm.trans hg)
  have hmarkers := hshows.final.colors
  rw [hfinal] at hmarkers
  have hfirst : "#3b82f6" = highlight ↔ tappedFull.2.renderer.selected = some "a" :=
    (List.forall₂_cons.mp hmarkers).1
  exact absurd (hfirst.mpr rfl) (by decide)

end DependencyAtlas.Stage
