import DependencyAtlas.Proofs.Stage.OneLive
import DependencyAtlas.Proofs.Stage.Undoing

namespace DependencyAtlas.Stage

open Layout Drawing

variable {σ η : Type} {canvas : Canvas σ η}

namespace Ensemble

theorem perform_render {e : Ensemble σ η} {i : Nat} {renderer : Renderer η}
    (hi : e.renderers[i]? = some renderer) (g : Graph) :
    Ensemble.perform canvas i (.render g) e =
      ((Studio.render canvas g (e.studio i renderer)).1.map .rendered,
        e.update i (Studio.render canvas g (e.studio i renderer)).2) := by
  simp only [Ensemble.perform, hi, Deed.perform]
  rw [Act.bind_apply]
  rcases Studio.render canvas g (e.studio i renderer) with ⟨_ | _, _⟩ <;> rfl

theorem surfaceAt_update {e : Ensemble σ η} {i : Nat} (hseat : e.surfaceOf i < e.surfaces.length)
    (s : Studio σ η) : (e.update i s).surfaceAt i = s.surface := by
  simp only [surfaceAt, update, List.getD_eq_getElem?_getD, List.getElem?_set_self hseat,
    Option.getD_some]

structure Spares (e : Ensemble σ η) (i : Nat) (renderer : Renderer η) (e' : Ensemble σ η) : Prop where
  previous : ∀ live, renderer.live = some live → live.id ∈ e'.registry.destroyed ∧
    ∀ surface ∈ e'.surfaces, surface.bound ≠ some (.visualization live.id)
  slots : ∀ k, k ≠ e.surfaceOf i → e'.surfaces[k]? = e.surfaces[k]?
  others : ∀ j, j ≠ i → e'.renderers[j]? = e.renderers[j]?
  kept : ∀ j other live, j ≠ i → e.renderers[j]? = some other → other.live = some live →
    (e'.surfaceAt j).bound = some (.visualization live.id) ∧ live.id ∉ e'.registry.destroyed

structure Undoes (e : Ensemble σ η) (i : Nat) (renderer : Renderer η) (e' : Ensemble σ η) : Prop where
  hidden : e'.renderers[i]? = some { renderer with live := none }
  new : ∀ id, e.registry.created ≤ id → ∀ surface ∈ e'.surfaces,
    surface.bound ≠ some (.visualization id) ∧
    (some (.visualization id) ∈ surface.history → id ∈ e'.registry.destroyed)
  slot : (e'.surfaceAt i).bound = if renderer.hasInstance then none else (e.surfaceAt i).bound

structure Abandons (e : Ensemble σ η) (i : Nat) (renderer : Renderer η) (v : Visualization Float)
    (e' : Ensemble σ η) : Prop where
  held : e'.renderers[i]? = some { renderer with live := some ⟨e.registry.created, v⟩ }
  bound : (e'.surfaceAt i).bound = some (.visualization e.registry.created)
  intact : e.registry.created ∉ e'.registry.destroyed

end Ensemble

/-- How a render ends, told from what the renderer has after it let go of what it showed. -/
structure RenderEnds (canvas : Canvas σ η) (g : Graph) (e : Ensemble σ η) (i : Nat)
    (renderer : Renderer η) (result : Except Failure Result) (e' : Ensemble σ η) (t : Studio σ η) :
    Prop where
  fails_iff : ∀ failure, result = .error failure ↔ Studio.RenderFails canvas g t failure
  spares : ∀ failure, result = .error failure → e.Spares i renderer e'
  undoes : ∀ failure, result = .error failure → failure.halts = false → e.Undoes i renderer e'
  abandons : ∀ failure, result = .error failure → failure.halts = true →
    ∃ v figure, Studio.firstView renderer.policy g = .ok v ∧
      v.figure floatGauge (Studio.moveOptions renderer.policy) = .ok figure ∧
      (canvas.draw figure t.outside).1 = .error failure ∧ e.Abandons i renderer v e'
  busy_iff : ∀ text, result = .error (.complaint (.busy text)) ↔
    (text = Surface.busyText ∧ (∃ v, Studio.firstView renderer.policy g = .ok v) ∧
      t.surface.bound ≠ none) ∨
    ∃ v figure, Studio.firstView renderer.policy g = .ok v ∧ t.surface.bound = none ∧
      v.figure floatGauge (Studio.moveOptions renderer.policy) = .ok figure ∧
      (canvas.draw figure t.outside).1 = .error (.complaint (.busy text))
  holder_stays : ∀ v holder, Studio.firstView renderer.policy g = .ok v →
    t.surface.bound = some holder →
    e'.outside = e.outside ∧ (e'.surfaceAt i).bound = some holder ∧
      ∀ id, holder = .visualization id → id ∉ e'.registry.destroyed
  draw : ∀ v figure cause, Studio.firstView renderer.policy g = .ok v → t.surface.bound = none →
    v.figure floatGauge (Studio.moveOptions renderer.policy) = .ok figure →
    (canvas.draw figure t.outside).1 = .error cause →
    result = .error (if cause.isSystem || cause.isWrongValue then
      .complaint (.render ("Could not draw the graph: " ++ cause.text)) else cause)

section

variable (hclear : ∀ outside, (canvas.clear outside).1 = .ok ()) {start : Ensemble σ η} (hfresh : start.Fresh)

include hclear hfresh

section

variable {w w' : Watched σ η} (h' : Watched.Reaches canvas start w') {i : Nat} {renderer : Renderer η}
  {t u : Studio σ η} (hrelease : Studio.release canvas (w.ensemble.studio i renderer) = (.ok (), t))
  (hupdate : w'.ensemble = w.ensemble.update i u)

include h' hrelease hupdate

theorem spares_of_update (hdestroyed : t.registry.destroyed ⊆ u.registry.destroyed) :
    w.ensemble.Spares i renderer w'.ensemble := by
  obtain ⟨-, hs'⟩ := h'.sound hclear hfresh
  obtain ⟨_, hrelease', -, -, -, hshown⟩ := Studio.release_cases (hclear (w.ensemble.studio i renderer).outside)
  cases hrelease'.symm.trans hrelease
  have hothers (j : Nat) (hne : j ≠ i) : w'.ensemble.renderers[j]? = w.ensemble.renderers[j]? := by
    rw [hupdate]
    exact List.getElem?_set_ne (Ne.symm hne)
  constructor
  · intro live hlive
    have hgone : live.id ∈ w'.ensemble.registry.destroyed := by
      rw [hupdate]
      apply hdestroyed
      rw [(hshown live hlive).2]
      exact List.mem_cons_self
    exact ⟨hgone, fun surface hsurface hbound =>
      hs'.oneLive.intact surface hsurface live.id hbound hgone⟩
  · intro k hne
    rw [hupdate]
    exact List.getElem?_set_ne (Ne.symm hne)
  · exact hothers
  · intro j other live hne hj hlive
    have hscene := Watched.scene_live_some ((hothers j hne).trans hj) hlive
    exact ((hs'.holds j).shown hscene).2

variable (h : Watched.Reaches canvas start w) (hi : w.ensemble.renderers[i]? = some renderer)

include h hi

theorem undoes_of_undone (hundone : t.Undone u) : w.ensemble.Undoes i renderer w'.ensemble := by
  obtain ⟨hseated, hs⟩ := h.sound hclear hfresh
  obtain ⟨-, hs'⟩ := h'.sound hclear hfresh
  obtain ⟨hlt, -⟩ := List.getElem?_eq_some_iff.mp hi
  obtain ⟨_, hrelease', hrenderer, -, hhidden, hshown⟩ :=
    Studio.release_cases (hclear (w.ensemble.studio i renderer).outside)
  cases hrelease'.symm.trans hrelease
  have hself : w'.ensemble.renderers[i]? = some { renderer with live := none } := by
    have hrest : u.renderer = { renderer with live := none } := hundone.renderer.trans hrenderer
    rw [hupdate, ← hrest]
    exact List.getElem?_set_self hlt
  have hlives (j : Nat) (hne : j ≠ i) : w'.scene.live j = w.scene.live j := by
    have hother : w'.ensemble.renderers[j]? = w.ensemble.renderers[j]? := by
      rw [hupdate]
      exact List.getElem?_set_ne (Ne.symm hne)
    simp only [Watched.scene, hother]
  constructor
  · exact hself
  · intro id hnew surface hsurface
    have hunbound : surface.bound ≠ some (.visualization id) := by
      intro hbound
      obtain ⟨k, rfl⟩ := Watched.scene_surface hsurface
      obtain ⟨j, -, hj⟩ := hs'.owned hbound
      by_cases hne : j = i
      · rw [hne, Watched.scene_live hself] at hj
        cases hj
      · rw [hlives j hne] at hj
        exact Nat.not_lt.mpr hnew ((hs.holds j).made ((hs.holds j).shown hj).1)
    exact ⟨hunbound, fun hbefore => hs'.oneLive.past surface hsurface id hbefore hunbound⟩
  · rw [hupdate, Ensemble.surfaceAt_update (hseated i hlt), hundone.bound]
    rcases hlive : renderer.live with _ | live
    · rw [hhidden hlive, Renderer.hasInstance, hlive]
      rfl
    · have hscene := Watched.scene_live_some hi hlive
      rw [(hshown live hlive).1, Renderer.hasInstance, hlive]
      exact Surface.without_bound_self ((hs.holds i).shown hscene).2.1

theorem abandons_of_showing {v : Visualization Float} {outside : σ} (hu : u = { t.showing v with outside }) :
    w.ensemble.Abandons i renderer v w'.ensemble := by
  obtain ⟨hseated, -⟩ := h.sound hclear hfresh
  obtain ⟨-, hs'⟩ := h'.sound hclear hfresh
  obtain ⟨hlt, -⟩ := List.getElem?_eq_some_iff.mp hi
  obtain ⟨_, hrelease', hrenderer, -, hhidden, hshown⟩ :=
    Studio.release_cases (hclear (w.ensemble.studio i renderer).outside)
  cases hrelease'.symm.trans hrelease
  have hcreated : t.registry.created = w.ensemble.registry.created := by
    rcases hlive : renderer.live with _ | live
    · rw [hhidden hlive]
      rfl
    · rw [(hshown live hlive).2]
      rfl
  have hself : w'.ensemble.renderers[i]? =
      some { renderer with live := some ⟨w.ensemble.registry.created, v⟩ } := by
    have hrest : u.renderer = { renderer with live := some ⟨w.ensemble.registry.created, v⟩ } := by
      rw [← hcreated, hu, Studio.showing, hrenderer]
      rfl
    rw [hupdate, ← hrest]
    exact List.getElem?_set_self hlt
  have hscene := Watched.scene_live_some hself rfl
  obtain ⟨-, -, hintact⟩ := (hs'.holds i).shown hscene
  refine ⟨hself, ?_, hintact⟩
  rw [hupdate, Ensemble.surfaceAt_update (hseated i hlt), ← hcreated, hu]
  rfl

end

variable {w : Watched σ η} (h : Watched.Reaches canvas start w)

include h

theorem holder_stays {i : Nat} {renderer : Renderer η}
    (hi : w.ensemble.renderers[i]? = some renderer) {g : Graph} (hempty : g.isEmpty = false)
    {t : Studio σ η} (hrelease : Studio.release canvas (w.ensemble.studio i renderer) = (.ok (), t))
    {v : Visualization Float} (hview : Studio.firstView t.renderer.policy g = .ok v)
    {holder : Holder} (hbound : t.surface.bound = some holder) {e' : Ensemble σ η}
    (hrender : (Ensemble.perform canvas i (.render g) w.ensemble).2 = e') :
    e'.outside = w.ensemble.outside ∧ (e'.surfaceAt i).bound = some holder ∧
      ∀ id, holder = .visualization id → id ∉ e'.registry.destroyed := by
  obtain ⟨hseated, hs⟩ := h.sound hclear hfresh
  obtain ⟨hlt, -⟩ := List.getElem?_eq_some_iff.mp hi
  obtain ⟨_, hrelease', -, -, hhidden, hshown⟩ :=
    Studio.release_cases (hclear (w.ensemble.studio i renderer).outside)
  cases hrelease'.symm.trans hrelease
  rw [Ensemble.perform_render hi, Studio.render_busy hrelease hempty hview hbound] at hrender
  subst hrender
  -- Its own visualization would have left the surface free, so it showed nothing before.
  have hnothing : renderer.live = none := by
    rcases hshows : renderer.live with _ | live
    · rfl
    · have hscene := Watched.scene_live_some hi hshows
      have hfree := Surface.without_bound_self ((hs.holds i).shown hscene).2.1
      cases hbound.symm.trans ((congrArg Surface.bound (hshown live hshows).1).trans hfree)
  obtain rfl := hhidden hnothing
  refine ⟨rfl, ?_, ?_⟩
  · rw [Ensemble.surfaceAt_update (hseated i hlt)]
    exact hbound
  · rintro id rfl
    obtain ⟨j, -, hj⟩ := hs.owned hbound
    obtain ⟨hlast, -, hintact⟩ := (hs.holds j).shown hj
    have hold : id ≠ w.ensemble.registry.created := Nat.ne_of_lt ((hs.holds j).made hlast)
    exact List.not_mem_cons_of_ne_of_not_mem hold hintact

theorem failed_render {i : Nat} {renderer : Renderer η}
    (hi : w.ensemble.renderers[i]? = some renderer) {g : Graph} (hempty : g.isEmpty = false) :
    RenderEnds canvas g w.ensemble i renderer
      (Ensemble.perform canvas i (.render g) w.ensemble).1
      (Ensemble.perform canvas i (.render g) w.ensemble).2
      (Studio.release canvas (w.ensemble.studio i renderer)).2 := by
  obtain ⟨t, hrelease, hrenderer, -⟩ :=
    Studio.release_cases (hclear (w.ensemble.studio i renderer).outside)
  have hlive : t.renderer.live = none := by rw [hrenderer]
  have hclears : canvas.Clears t.outside := ⟨hclear _, fun _ => hclear _⟩
  have hpolicy : t.renderer.policy = renderer.policy := by
    rw [hrenderer]
    rfl
  have hfails (failure : Failure) :
      (Ensemble.perform canvas i (.render g) w.ensemble).1 = .error failure ↔
        t.RenderFails canvas g failure := by
    rw [Ensemble.perform_render hi, map_eq_error_iff]
    exact Studio.render_eq_error_iff hrelease hclears hlive hempty failure
  have hnext : Watched.Reaches canvas start (w.step canvas (.ask i (.render g))) := h.step _ rfl
  have hupdate := congrArg Prod.snd (@Ensemble.perform_render _ _ canvas _ _ _ hi g)
  have hends (failure : Failure) (hfailure : (Ensemble.perform canvas i (.render g) w.ensemble).1 = .error failure) :=
    (Studio.render_renders hrelease hclears hlive hempty).of_error
      ((map_eq_error_iff ..).mp ((congrArg Prod.fst (Ensemble.perform_render hi g)).symm.trans hfailure))
  rw [hrelease]
  constructor
  · exact hfails
  · intro failure hfailure
    rcases hends failure hfailure with ⟨-, hundone⟩ | ⟨-, v, figure, -, -, -, hu⟩
    · exact spares_of_update hclear hfresh hnext hrelease hupdate hundone.destroyed
    · refine spares_of_update hclear hfresh hnext hrelease hupdate ?_
      rw [hu]
      exact List.Subset.refl _
  · intro failure hfailure hgoes
    rcases hends failure hfailure with ⟨-, hundone⟩ | ⟨hhalts, -⟩
    · exact undoes_of_undone hclear hfresh hnext hrelease hupdate h hi hundone
    · cases hgoes.symm.trans hhalts
  · intro failure hfailure hhalts
    rcases hends failure hfailure with ⟨hgoes, -⟩ | ⟨-, v, figure, hview, hfigure, hdraw, hu⟩
    · cases hgoes.symm.trans hhalts
    · rw [hpolicy] at hview hfigure
      exact ⟨v, figure, hview, hfigure, hdraw, abandons_of_showing hclear hfresh hnext hrelease hupdate h hi hu⟩
  · intro text
    rw [hfails, Studio.RenderFails.busy_iff, hpolicy]
  · intro v holder hview hbound
    rw [← hpolicy] at hview
    exact holder_stays hclear hfresh h hi hempty hrelease hview hbound rfl
  · intro v figure cause hview hfree hfigure hdraw
    rw [← hpolicy] at hview hfigure
    exact (hfails _).mpr (.draw hview hfree hfigure hdraw)

end

def occupied : Watched (Recording Nat) Nat :=
  Watched.step (recorder Nat) ⟨.start measured 2 1, fun _ => none⟩ (.ask 0 (.render loops))

theorem failed_render_occupied :
    (Ensemble.perform (recorder Nat) 1 (.render loops) occupied.ensemble).1 =
      .error (.complaint (.busy Surface.busyText)) ∧
    RenderEnds (recorder Nat) loops occupied.ensemble 1 ⟨measured, none, []⟩
      (Ensemble.perform (recorder Nat) 1 (.render loops) occupied.ensemble).1
      (Ensemble.perform (recorder Nat) 1 (.render loops) occupied.ensemble).2
      (Studio.release (recorder Nat) (occupied.ensemble.studio 1 ⟨measured, none, []⟩)).2 := by
  have hclear (outside : Recording Nat) : ((recorder Nat).clear outside).1 = .ok () := rfl
  have hreaches : Watched.Reaches (recorder Nat) (.start measured 2 1) occupied :=
    Watched.Reaches.start.step (.ask 0 (.render loops)) rfl
  exact ⟨rfl, failed_render hclear (Ensemble.start_fresh measured 2 Nat.one_pos) hreaches rfl rfl⟩

def interrupting : Watched (Recording Nat) Nat :=
  Watched.step (recorder Nat) ⟨.start measured 1 1, fun _ => none⟩
    (.outside { failing := some (.halt .interrupted ""), drawn := [], taps := [] })

/-- A first draw that is interrupted leaves the new visualization where it is. -/
theorem interrupted_render_stays :
    (∀ outside, ((recorder Nat).clear outside).1 = .ok ()) ∧
    Watched.Reaches (recorder Nat) (.start measured 1 1) interrupting ∧ loops.isEmpty = false ∧
    (Ensemble.perform (recorder Nat) 0 (.render loops) interrupting.ensemble).1 = .error (.halt .interrupted "") ∧
    ((Ensemble.perform (recorder Nat) 0 (.render loops) interrupting.ensemble).2.renderers.map
      Renderer.hasInstance) = [true] ∧
    ((Ensemble.perform (recorder Nat) 0 (.render loops) interrupting.ensemble).2.surfaceAt 0).bound =
      some (.visualization 0) ∧
    (Ensemble.perform (recorder Nat) 0 (.render loops) interrupting.ensemble).2.registry.destroyed = [] :=
  ⟨fun _ => rfl, Watched.Reaches.start.step (.outside _) rfl, rfl, rfl, rfl, rfl, rfl⟩

end DependencyAtlas.Stage
