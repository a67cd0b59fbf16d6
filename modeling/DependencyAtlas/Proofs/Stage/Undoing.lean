import DependencyAtlas.Proofs.Stage.Rendering

namespace DependencyAtlas.Stage

open Layout Drawing

variable {σ η : Type} {canvas : Canvas σ η}

structure Canvas.Clears (canvas : Canvas σ η) (outside : σ) : Prop where
  now : (canvas.clear outside).1 = .ok ()
  drawn : ∀ figure, (canvas.clear (canvas.draw figure outside).2).1 = .ok ()

namespace Studio

inductive RenderFails (canvas : Canvas σ η) (g : Graph) (t : Studio σ η) : Failure → Prop
  | layout {failure : Failure} (h : firstView t.renderer.policy g = .error failure) :
    RenderFails canvas g t failure
  | busy {v : Visualization Float} {holder : Holder} (h : firstView t.renderer.policy g = .ok v)
    (hbound : t.surface.bound = some holder) :
    RenderFails canvas g t (.complaint (.busy Surface.busyText))
  | figure {v : Visualization Float} {failure : Failure}
    (h : firstView t.renderer.policy g = .ok v) (hfree : t.surface.bound = none)
    (hfigure : v.figure floatGauge (moveOptions t.renderer.policy) = .error failure) :
    RenderFails canvas g t failure
  | draw {v : Visualization Float} {figure : Figure Float} {failure : Failure}
    (h : firstView t.renderer.policy g = .ok v) (hfree : t.surface.bound = none)
    (hfigure : v.figure floatGauge (moveOptions t.renderer.policy) = .ok figure)
    (hdraw : (canvas.draw figure t.outside).1 = .error failure) :
    RenderFails canvas g t (drawFailure failure)

theorem RenderFails.unique {g : Graph} {t : Studio σ η} {failure other : Failure}
    (h : RenderFails canvas g t failure) (h' : RenderFails canvas g t other) : failure = other := by
  cases h <;> cases h' <;> simp_all

theorem not_renderFails {g : Graph} {t : Studio σ η} {v : Visualization Float}
    {figure : Figure Float} (hview : firstView t.renderer.policy g = .ok v)
    (hfree : t.surface.bound = none)
    (hfigure : v.figure floatGauge (moveOptions t.renderer.policy) = .ok figure)
    (hdraw : (canvas.draw figure t.outside).1 = .ok ()) (failure : Failure) :
    ¬ RenderFails canvas g t failure := by
  intro h
  cases h <;> simp_all

theorem eq_of_drawFailure_busy {cause : Failure} {text : String}
    (h : drawFailure cause = .complaint (.busy text)) : cause = .complaint (.busy text) := by
  rw [drawFailure] at h
  split at h
  · cases h
  · exact h

theorem RenderFails.busy_iff {g : Graph} {t : Studio σ η} {text : String} :
    RenderFails canvas g t (.complaint (.busy text)) ↔
      (text = Surface.busyText ∧ (∃ v, firstView t.renderer.policy g = .ok v) ∧
        t.surface.bound ≠ none) ∨
      ∃ v figure, firstView t.renderer.policy g = .ok v ∧ t.surface.bound = none ∧
        v.figure floatGauge (moveOptions t.renderer.policy) = .ok figure ∧
        (canvas.draw figure t.outside).1 = .error (.complaint (.busy text)) := by
  constructor
  · intro hfails
    generalize hbusy : Failure.complaint (.busy text) = failure at hfails
    cases hfails with
    | layout hview => exact absurd hbusy.symm ((firstView_failsAs _ g _ hview).ne_complaint _)
    | busy hview hbound =>
      cases hbusy
      exact .inl ⟨rfl, ⟨_, hview⟩, hbound ▸ nofun⟩
    | figure hview hfree hfigure =>
      exact absurd hbusy.symm ((Visualization.figure_failsAs _ _ hfigure).ne_complaint _)
    | draw hview hfree hfigure hdraw =>
      obtain rfl := eq_of_drawFailure_busy hbusy.symm
      exact .inr ⟨_, _, hview, hfree, hfigure, hdraw⟩
  · rintro (⟨rfl, ⟨v, hview⟩, hbound⟩ | ⟨v, figure, hview, hfree, hfigure, hdraw⟩)
    · obtain ⟨holder, hholder⟩ := Option.ne_none_iff_exists'.mp hbound
      exact .busy hview hholder
    · exact .draw hview hfree hfigure hdraw

/-- What is left when a render fails: all that there was after the release, and at most one more
visualization, which is destroyed if it was ever bound. -/
structure Undone (t u : Studio σ η) : Prop where
  renderer : u.renderer = t.renderer
  bound : u.surface.bound = t.surface.bound
  created : u.registry.created = t.registry.created + 1
  destroyed : t.registry.destroyed ⊆ u.registry.destroyed

theorem undone_numbered (t : Studio σ η) : Undone t t.numbered :=
  ⟨rfl, rfl, rfl, List.Subset.refl _⟩

theorem undone_letGo (v : Visualization Float) {t : Studio σ η} (hlive : t.renderer.live = none)
    (hfree : t.surface.bound = none) (outside : σ) :
    Undone t ((t.showing v).letGo t.registry.created outside) where
  renderer := by
    simp only [letGo, showing, numbered]
    rw [← hlive]
  bound := by
    rw [hfree]
    exact Surface.without_bound_self rfl
  created := rfl
  destroyed := List.subset_cons_self _ _

theorem render_busy {s t : Studio σ η} (hrelease : release canvas s = (.ok (), t)) {g : Graph}
    (hempty : g.isEmpty = false) {v : Visualization Float}
    (hview : firstView t.renderer.policy g = .ok v) {holder : Holder}
    (hbound : t.surface.bound = some holder) :
    render canvas g s =
      (.error (.complaint (.busy Surface.busyText)),
        { t.numbered with registry := t.numbered.registry.destroy t.registry.created }) := by
  rw [render_apply hrelease, if_neg (ne_true_of_eq_false hempty), hview]
  dsimp only
  rw [hbound]

inductive Renders (canvas : Canvas σ η) (g : Graph) (t : Studio σ η) : Except Failure Bool × Studio σ η → Prop
  | drawn {v : Visualization Float} {figure : Figure Float} (hview : firstView t.renderer.policy g = .ok v)
    (hnot : ∀ failure, ¬ RenderFails canvas g t failure) :
    Renders canvas g t (.ok true, { t.showing v with outside := (canvas.draw figure t.outside).2 })
  | undone {failure : Failure} {u : Studio σ η} (hfails : RenderFails canvas g t failure)
    (hhalts : failure.halts = false) (hundone : Undone t u) : Renders canvas g t (.error failure, u)
  | halted {v : Visualization Float} {figure : Figure Float} {failure : Failure}
    (hview : firstView t.renderer.policy g = .ok v)
    (hfigure : v.figure floatGauge (moveOptions t.renderer.policy) = .ok figure)
    (hdraw : (canvas.draw figure t.outside).1 = .error failure) (hfails : RenderFails canvas g t failure)
    (hhalts : failure.halts = true) :
    Renders canvas g t (.error failure, { t.showing v with outside := (canvas.draw figure t.outside).2 })

theorem Renders.of_error {g : Graph} {t : Studio σ η} {ended : Except Failure Bool × Studio σ η} {failure : Failure}
    (h : Renders canvas g t ended) (herror : ended.1 = .error failure) :
    failure.halts = false ∧ Undone t ended.2 ∨
      failure.halts = true ∧ ∃ v figure, firstView t.renderer.policy g = .ok v ∧
        v.figure floatGauge (moveOptions t.renderer.policy) = .ok figure ∧
        (canvas.draw figure t.outside).1 = .error failure ∧
        ended.2 = { t.showing v with outside := (canvas.draw figure t.outside).2 } := by
  cases h with
  | drawn => cases herror
  | undone _ hhalts hundone =>
    cases herror
    exact .inl ⟨hhalts, hundone⟩
  | halted hview hfigure hdraw _ hhalts =>
    cases herror
    exact .inr ⟨hhalts, _, _, hview, hfigure, hdraw, rfl⟩

theorem firstDraw_renders {g : Graph} {v : Visualization Float} {t : Studio σ η} (hclears : canvas.Clears t.outside)
    (hlive : t.renderer.live = none) (hfree : t.surface.bound = none)
    (hview : firstView t.renderer.policy g = .ok v) : Renders canvas g t (firstDraw canvas v (t.showing v)) := by
  have hgone {failure : Failure} {outside : σ} (hclear : (canvas.clear outside).1 = .ok ())
      (h : drawTransition canvas v (t.showing v) = (.error failure, { t.showing v with outside }))
      (hfails : RenderFails canvas g t failure) (hhalts : failure.halts = false) :
      Renders canvas g t (firstDraw canvas v (t.showing v)) := by
    have hshown : { t.showing v with outside }.renderer.live = some ⟨t.registry.created, v⟩ := rfl
    rw [firstDraw_of_error h hhalts (release_of_live hshown hclear)]
    exact .undone hfails hhalts (undone_letGo v hlive hfree _)
  have hpolicy : (t.showing v).renderer.policy = t.renderer.policy := rfl
  have htransition := @drawTransition_apply _ _ canvas v (t.showing v)
  rw [hpolicy] at htransition
  rcases hfigure : v.figure floatGauge (moveOptions t.renderer.policy) with failure | figure
  · rw [hfigure] at htransition
    exact hgone hclears.now htransition (.figure hview hfree hfigure)
      (Visualization.figure_failsAs _ _ hfigure).halts_eq_false
  rw [hfigure] at htransition
  dsimp only at htransition
  rw [draw_apply] at htransition
  change _ = ((canvas.draw figure t.outside).1.mapError drawFailure, _) at htransition
  rcases hdraw : (canvas.draw figure t.outside).1 with cause | _
  · rw [hdraw] at htransition
    have hfails : RenderFails canvas g t (drawFailure cause) := .draw hview hfree hfigure hdraw
    by_cases hhalts : (drawFailure cause).halts = true
    · have hsame : drawFailure cause = cause := drawFailure_of_halts hhalts
      rw [firstDraw_of_halt htransition hhalts]
      rw [hsame] at hhalts hfails ⊢
      exact .halted hview hfigure hdraw hfails hhalts
    · exact hgone (hclears.drawn figure) htransition hfails (eq_false_of_ne_true hhalts)
  · rw [hdraw] at htransition
    rw [firstDraw_of_drawn htransition]
    exact .drawn hview (not_renderFails hview hfree hfigure hdraw)

section

variable {s t : Studio σ η} (hrelease : release canvas s = (.ok (), t))
  (hclears : canvas.Clears t.outside) (hlive : t.renderer.live = none) {g : Graph}
  (hempty : g.isEmpty = false)

include hrelease hclears hlive hempty

theorem render_renders : Renders canvas g t (render canvas g s) := by
  rcases hview : firstView t.renderer.policy g with failure | v
  · rw [render_apply hrelease, if_neg (ne_true_of_eq_false hempty), hview]
    exact .undone (.layout hview) (firstView_failsAs _ g _ hview).halts_eq_false (undone_numbered t)
  rcases hbound : t.surface.bound with _ | holder
  · rw [render_apply hrelease, if_neg (ne_true_of_eq_false hempty), hview]
    dsimp only
    rw [hbound]
    exact firstDraw_renders hclears hlive hbound hview
  · rw [render_busy hrelease hempty hview hbound]
    exact .undone (.busy hview hbound) rfl ⟨rfl, rfl, rfl, List.subset_cons_self _ _⟩

theorem render_eq_error_iff (failure : Failure) :
    (render canvas g s).1 = .error failure ↔ RenderFails canvas g t failure := by
  have hsame {cause : Failure} (hcause : RenderFails canvas g t cause) :
      (Except.error cause : Except Failure Bool) = .error failure ↔ RenderFails canvas g t failure := by
    constructor
    · rintro ⟨⟩
      exact hcause
    · intro hfailure
      rw [hcause.unique hfailure]
  have hrenders := render_renders hrelease hclears hlive hempty
  generalize render canvas g s = ended at hrenders
  cases hrenders with
  | drawn _ hnot => exact ⟨nofun, fun hfailure => absurd hfailure (hnot failure)⟩
  | undone hfails _ _ => exact hsame hfails
  | halted _ _ _ hfails _ => exact hsame hfails

end

theorem release_cases {s : Studio σ η} (hclear : (canvas.clear s.outside).1 = .ok ()) :
    ∃ t, release canvas s = (.ok (), t) ∧ t.renderer = { s.renderer with live := none } ∧
      (t.outside = s.outside ∨ t.outside = (canvas.clear s.outside).2) ∧
      (s.renderer.live = none → t = s) ∧
      ∀ live, s.renderer.live = some live →
        t.surface = s.surface.without (some (.visualization live.id)) ∧
        t.registry = s.registry.destroy live.id := by
  rcases hlive : s.renderer.live with _ | live
  · refine ⟨s, release_of_hidden hlive, ?_, .inl rfl, fun _ => rfl, nofun⟩
    rw [← hlive]
  · refine ⟨_, release_of_live hlive hclear, rfl, ?_, nofun, ?_⟩
    · rw [letGo]
      split
      · exact .inr rfl
      · exact .inl rfl
    · rintro _ ⟨⟩
      exact ⟨rfl, rfl⟩

end Studio

end DependencyAtlas.Stage
