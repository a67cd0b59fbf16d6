import DependencyAtlas.Proofs.Layout.Faults
import DependencyAtlas.Proofs.Stage.Outside

namespace DependencyAtlas.Stage

def Surface.without (holder : Option Holder) (s : Surface) : Surface :=
  if s.bound = holder then s.free.cleared else s

namespace Surface

theorem without_bound_self {holder : Option Holder} {s : Surface} (h : s.bound = holder) :
    (s.without holder).bound = none := by
  rw [without, if_pos h]
  rfl

theorem without_bound_of_ne {holder : Option Holder} {s : Surface} (h : s.bound ≠ holder) :
    (s.without holder).bound = s.bound := by
  rw [without, if_neg h]

theorem bound_of_without {holder : Option Holder} {s : Surface} {bound : Holder}
    (h : (s.without holder).bound = some bound) : s.bound = some bound := by
  by_cases hbound : s.bound = holder
  · cases (without_bound_self hbound).symm.trans h
  · exact (without_bound_of_ne hbound).symm.trans h

theorem without_bound_ne (holder : Holder) (s : Surface) :
    (s.without (some holder)).bound ≠ some holder := by
  intro h
  cases (without_bound_self (bound_of_without h)).symm.trans h

end Surface

namespace Studio

open Layout Drawing
open Act (Keeps)

variable {σ η : Type} {canvas : Canvas σ η}

theorem create_apply (s : Studio σ η) :
    create s =
      (.ok s.registry.created,
        { s with registry := { s.registry with created := s.registry.created + 1 } }) := rfl

theorem bind_free (s : Studio σ η) (holder : Option Holder) (hfree : s.surface.bound = none) :
    bind holder s =
      (.ok (), { s with
        surface := { s.surface with bound := holder, history := s.surface.history ++ [holder] } }) := by
  rw [bind, Act.bind_apply_ok (Act.get_apply s), Surface.bind, hfree]
  rfl

theorem bind_busy (s : Studio σ η) (bound : Holder) (holder : Option Holder)
    (hbound : s.surface.bound = some bound) :
    bind holder s = (.error (.complaint (.busy Surface.busyText)), s) := by
  rw [bind, Act.bind_apply_ok (Act.get_apply s), Surface.bind, hbound]
  rfl

theorem unbind_of_clear {s : Studio σ η} (hclear : (canvas.clear s.outside).1 = .ok ())
    (holder : Option Holder) :
    unbind canvas holder s =
      (.ok (), { s with
        surface := s.surface.without holder
        outside := if s.surface.bound = holder then (canvas.clear s.outside).2 else s.outside }) := by
  rw [unbind, Act.bind_apply_ok (Act.get_apply s), Surface.without]
  by_cases hbound : s.surface.bound = holder
  · have hcleared : outsideAct (η := η) canvas.clear { s with surface := s.surface.free } =
        (.ok (), { s with surface := s.surface.free, outside := (canvas.clear s.outside).2 }) := by
      rw [outsideAct, Act.within_apply, hclear]
    rw [if_pos hbound, if_pos hbound, if_pos hbound, Act.bind_apply_ok (Act.modify_apply _ s),
      Act.bind_apply_ok hcleared, Act.modify_apply]
  · rw [if_neg hbound, if_neg hbound, if_neg hbound]
    rfl

def moveOptions (policy : Policy) : FigureOptions :=
  { animated := true, duration := policy.animationDuration }

theorem draw_apply (figure : Figure Float) (s : Studio σ η) :
    draw canvas figure s =
      ((canvas.draw figure s.outside).1.mapError drawFailure,
        { s with outside := (canvas.draw figure s.outside).2 }) := by
  rw [draw, Act.bind_apply_ok (Act.ending_apply _ s), outsideAct, Act.within_apply]
  rcases (canvas.draw figure s.outside).1 with failure | _ <;> rfl

theorem drawTransition_apply (v : Visualization Float) (s : Studio σ η) :
    drawTransition canvas v s =
      match v.figure floatGauge (moveOptions s.renderer.policy) with
      | .ok figure => draw canvas figure s
      | .error failure => (.error failure, s) := by
  rw [drawTransition, Act.bind_apply_ok (Act.get_apply s), Act.bind_apply, Act.ofExcept_apply, moveOptions]
  rcases v.figure floatGauge _ with failure | figure <;> rfl

theorem draw_eq_ok {figure : Figure Float} {s t : Studio σ η} {u : Unit}
    (h : draw canvas figure s = (.ok u, t)) :
    (canvas.draw figure s.outside).1 = .ok () ∧
      t = { s with outside := (canvas.draw figure s.outside).2 } := by
  rw [draw_apply, Prod.mk.injEq, mapError_eq_ok_iff] at h
  exact ⟨h.1, h.2.symm⟩

theorem drawTransition_eq_ok {v : Visualization Float} {s t : Studio σ η} {u : Unit}
    (h : drawTransition canvas v s = (.ok u, t)) :
    ∃ figure, v.figure floatGauge (moveOptions s.renderer.policy) = .ok figure ∧
      (canvas.draw figure s.outside).1 = .ok () ∧
      t = { s with outside := (canvas.draw figure s.outside).2 } := by
  rw [drawTransition_apply] at h
  split at h
  · rename_i figure hfigure
    exact ⟨figure, hfigure, draw_eq_ok h⟩
  · cases h

theorem drawFailure_of_halts {cause : Failure} (h : (drawFailure cause).halts = true) : drawFailure cause = cause := by
  rw [drawFailure] at h ⊢
  split at h
  · cases h
  · next hstops => exact if_neg hstops

theorem drawTransition_of_halt {v : Visualization Float} {s t : Studio σ η} {failure : Failure}
    (h : drawTransition canvas v s = (.error failure, t)) (hhalts : failure.halts = true) :
    ∃ figure, v.figure floatGauge (moveOptions s.renderer.policy) = .ok figure ∧
      (canvas.draw figure s.outside).1 = .error failure ∧
      t = { s with outside := (canvas.draw figure s.outside).2 } := by
  rw [drawTransition_apply] at h
  rcases hfigure : v.figure floatGauge (moveOptions s.renderer.policy) with fault | figure <;> rw [hfigure] at h
  · cases h
    cases hhalts.symm.trans (Visualization.figure_failsAs _ _ hfigure).halts_eq_false
  · dsimp only at h
    rw [draw_apply, Prod.mk.injEq] at h
    obtain ⟨hresult, rfl⟩ := h
    rcases hdraw : (canvas.draw figure s.outside).1 with cause | _ <;> rw [hdraw] at hresult <;> cases hresult
    rw [drawFailure_of_halts hhalts]
    exact ⟨figure, rfl, hdraw, rfl⟩

def letGo (id : Nat) (s : Studio σ η) (outside : σ) : Studio σ η where
  renderer := { s.renderer with live := none }
  surface := s.surface.without (some (.visualization id))
  registry := s.registry.destroy id
  outside := outside

theorem release_of_hidden {s : Studio σ η} (h : s.renderer.live = none) :
    release canvas s = (.ok (), s) := by
  rw [release, Act.bind_apply_ok (Act.get_apply s), h]
  rfl

theorem release_of_live {s : Studio σ η} {live : Live} (h : s.renderer.live = some live)
    (hclear : (canvas.clear s.outside).1 = .ok ()) :
    release canvas s =
      (.ok (), s.letGo live.id
        (if s.surface.bound = some (.visualization live.id) then (canvas.clear s.outside).2
          else s.outside)) := by
  have hunbind := @unbind_of_clear _ _ canvas { s with renderer := { s.renderer with live := none } }
    hclear (some (.visualization live.id))
  rw [release, Act.bind_apply_ok (Act.get_apply s), h]
  dsimp only
  rw [setLive, Act.bind_apply_ok (Act.modify_apply _ s), Act.bind_apply_ok hunbind]
  rfl

def numbered (s : Studio σ η) : Studio σ η :=
  { s with registry := { s.registry with created := s.registry.created + 1 } }

def showing (v : Visualization Float) (s : Studio σ η) : Studio σ η :=
  { s.numbered with
    renderer := { s.renderer with live := some ⟨s.registry.created, v⟩ }
    surface :=
      { s.surface with
        bound := some (.visualization s.registry.created)
        history := s.surface.history ++ [some (.visualization s.registry.created)] } }

def firstDraw (canvas : Canvas σ η) (v : Visualization Float) : Act (Studio σ η) Bool := do
  (drawTransition canvas v).onError (release canvas)
  return true

theorem firstDraw_of_drawn {v : Visualization Float} {s t : Studio σ η}
    (h : drawTransition canvas v s = (.ok (), t)) : firstDraw canvas v s = (.ok true, t) :=
  Act.bind_apply_ok (Act.onError_apply_ok h)

theorem firstDraw_eq_ok {v : Visualization Float} {s t : Studio σ η} {shown : Bool}
    (h : firstDraw canvas v s = (.ok shown, t)) : shown = true ∧ drawTransition canvas v s = (.ok (), t) := by
  obtain ⟨_, hdrawn, rfl⟩ := Act.map_eq_ok h
  exact ⟨rfl, Act.onError_eq_ok hdrawn⟩

theorem firstDraw_of_halt {v : Visualization Float} {s t : Studio σ η} {failure : Failure}
    (h : drawTransition canvas v s = (.error failure, t)) (hhalts : failure.halts = true) :
    firstDraw canvas v s = (.error failure, t) :=
  Act.bind_apply_error (Act.onError_apply_halt h hhalts)

theorem firstDraw_of_error {v : Visualization Float} {s t u : Studio σ η} {failure : Failure}
    (h : drawTransition canvas v s = (.error failure, t)) (hhalts : failure.halts = false)
    (hrelease : release canvas t = (.ok (), u)) : firstDraw canvas v s = (.error failure, u) :=
  Act.bind_apply_error (Act.onError_apply_error h hhalts hrelease)

theorem firstDraw_of_unreleased {v : Visualization Float} {s t u : Studio σ η} {failure other : Failure}
    (h : drawTransition canvas v s = (.error failure, t)) (hhalts : failure.halts = false)
    (hrelease : release canvas t = (.error other, u)) : firstDraw canvas v s = (.error other, u) :=
  Act.bind_apply_error (Act.onError_apply_failed h hhalts hrelease)

/-- How a first draw ends: what is shown stays, unless the draw fails with an error. -/
inductive FirstDrawEnds (canvas : Canvas σ η) (v : Visualization Float) (s : Studio σ η) :
    Except Failure Bool × Studio σ η → Prop
  | stays {figure : Figure Float} (hfigure : v.figure floatGauge (moveOptions s.renderer.policy) = .ok figure)
    (hhalts : ∀ failure, (canvas.draw figure s.outside).1 = .error failure → failure.halts = true) :
    FirstDrawEnds canvas v s
      ((canvas.draw figure s.outside).1.map fun _ => true, { s with outside := (canvas.draw figure s.outside).2 })
  | goes (failure : Failure) (outside : σ) :
    FirstDrawEnds canvas v s (.error failure, (release canvas { s with outside }).2)

theorem firstDraw_ends (v : Visualization Float) (s : Studio σ η) :
    FirstDrawEnds canvas v s (firstDraw canvas v s) := by
  rcases hdraw : drawTransition canvas v s with ⟨failure | _, t⟩
  · rcases hhalts : failure.halts with _ | _
    · have hkept : Keeps (fun s : Studio σ η => (s.renderer, s.surface, s.registry)) (drawTransition canvas v) :=
        drawTransition_keeps (fun _ => Keeps.within_other fun _ _ => rfl) v
      obtain ⟨outside, rfl⟩ : ∃ outside, t = { s with outside } := by
        have hsame := hkept s
        rw [hdraw] at hsame
        cases t
        cases hsame
        exact ⟨_, rfl⟩
      rcases hrelease : release canvas { s with outside } with ⟨other | _, u⟩
      · have hends : FirstDrawEnds canvas v s _ := .goes other outside
        rw [hrelease] at hends
        rw [firstDraw_of_unreleased hdraw hhalts hrelease]
        exact hends
      · have hends : FirstDrawEnds canvas v s _ := .goes failure outside
        rw [hrelease] at hends
        rw [firstDraw_of_error hdraw hhalts hrelease]
        exact hends
    · obtain ⟨figure, hfigure, hdrawn, rfl⟩ := drawTransition_of_halt hdraw hhalts
      have hends : FirstDrawEnds canvas v s _ := .stays hfigure (by rw [hdrawn]; rintro _ ⟨⟩; exact hhalts)
      rw [firstDraw_of_halt hdraw hhalts]
      rw [hdrawn] at hends
      exact hends
  · obtain ⟨figure, hfigure, hdrawn, rfl⟩ := drawTransition_eq_ok hdraw
    have hends : FirstDrawEnds canvas v s _ := .stays hfigure (by rw [hdrawn]; rintro _ ⟨⟩)
    rw [firstDraw_of_drawn hdraw]
    rw [hdrawn] at hends
    exact hends

theorem render_apply {s t : Studio σ η} (h : release canvas s = (.ok (), t)) (g : Graph) :
    render canvas g s =
      if g.isEmpty then (.ok false, t)
      else
        match firstView t.renderer.policy g with
        | .error failure => (.error failure, t.numbered)
        | .ok v =>
          match t.surface.bound with
          | some _ =>
            (.error (.complaint (.busy Surface.busyText)),
              { t.numbered with registry := t.numbered.registry.destroy t.registry.created })
          | none => firstDraw canvas v (t.showing v) := by
  rw [render, Act.bind_apply_ok h]
  by_cases hempty : g.isEmpty = true
  · rw [if_pos hempty, if_pos hempty]
    rfl
  rw [if_neg hempty, if_neg hempty, Act.bind_apply_ok (create_apply t),
    Act.bind_apply_ok (Act.get_apply _), Act.bind_apply, Act.ofExcept_apply]
  rcases firstView t.renderer.policy g with failure | v
  · rfl
  dsimp only
  rcases hbound : t.surface.bound with _ | holder
  · rw [Act.bind_apply_ok (Act.onError_apply_ok (bind_free _ _ (by exact hbound))), setLive,
      Act.bind_apply_ok (Act.modify_apply _ _)]
    rfl
  · rw [Act.bind_apply, Act.onError_apply, bind_busy _ holder _ (by exact hbound)]
    rfl

def changed (live : Live) (v : Visualization Float) (s : Studio σ η) : Studio σ η :=
  { s with renderer := { s.renderer with live := some { live with visualization := v } } }

theorem relayout_of_hidden {s : Studio σ η} (h : s.renderer.live = none) : relayout canvas s = (.ok (), s) := by
  rw [relayout, Act.bind_apply_ok (Act.get_apply s), h]
  rfl

theorem relayout_apply {s : Studio σ η} {live : Live} (h : s.renderer.live = some live) :
    relayout canvas s =
      match nextView s.renderer.policy live.visualization with
      | .error failure => (.error failure, s)
      | .ok v => drawTransition canvas v (s.changed live v) := by
  rw [relayout, Act.bind_apply_ok (Act.get_apply s), h]
  dsimp only
  rw [Act.bind_apply, Act.ofExcept_apply]
  rcases nextView s.renderer.policy live.visualization with failure | v
  · rfl
  · dsimp only
    rw [setLive, Act.bind_apply_ok (Act.modify_apply _ s)]
    rfl

def redraw {α : Type} (canvas : Canvas σ η) (live : Live) (v : Visualization Float)
    (options : FigureOptions) (next : Act (Studio σ η) α) : Act (Studio σ η) α := do
  setLive (some { live with visualization := v })
  draw canvas (← Act.ofExcept (v.figure floatGauge options))
  next

def tell (canvas : Canvas σ η) (id : String) (kind : Graph.Element) :
    Act (Studio σ η) (Option Graph.Element) := do
  if kind = .node then notifyAll canvas id (← get).renderer.handlers
  return some kind

theorem tell_apply (id : String) (kind : Graph.Element) (s : Studio σ η) :
    tell canvas id kind s =
      (notifyAll canvas id (if kind = .node then s.renderer.handlers else []) >>=
        fun _ => pure (some kind)) s := by
  rw [tell]
  split <;> rfl

section

variable {α β γ : Type} {s t : Studio σ η} {live : Live} {v : Visualization Float}
  {options : FigureOptions} {next : Act (Studio σ η) α}

theorem redraw_apply (s : Studio σ η) :
    redraw canvas live v options next s =
      match v.figure floatGauge options with
      | .error failure => (.error failure, s.changed live v)
      | .ok figure =>
        match canvas.draw figure s.outside with
        | (.error cause, outside) => (.error (drawFailure cause), { s.changed live v with outside })
        | (.ok _, outside) => next { s.changed live v with outside } := by
  rw [redraw, setLive, Act.bind_apply_ok (Act.modify_apply _ s), Act.bind_apply, Act.ofExcept_apply]
  rcases v.figure floatGauge options with failure | figure
  · rfl
  · dsimp only
    rw [Act.bind_apply, draw_apply]
    dsimp only
    rcases canvas.draw figure s.outside with ⟨_ | _, outside⟩ <;> rfl

theorem redraw_eq_ok {a : α} (h : redraw canvas live v options next s = (.ok a, t)) :
    ∃ figure outside, v.figure floatGauge options = .ok figure ∧
      canvas.draw figure s.outside = (.ok (), outside) ∧
      next { s.changed live v with outside } = (.ok a, t) := by
  rw [redraw_apply] at h
  split at h
  · cases h
  · next figure hfigure =>
    split at h
    · cases h
    · next outside hdraw => exact ⟨figure, outside, hfigure, hdraw, h⟩

theorem redraw_bind (f : α → Act (Studio σ η) β) :
    (redraw canvas live v options next >>= f) = redraw canvas live v options (next >>= f) := by
  simp only [redraw, bind_assoc]

theorem relayout_eq_redraw (hlive : s.renderer.live = some live)
    (hview : nextView s.renderer.policy live.visualization = .ok v) :
    relayout canvas s = redraw canvas live v (moveOptions s.renderer.policy) (pure ()) s := by
  rw [relayout_apply hlive, hview, redraw, setLive, Act.bind_apply_ok (Act.modify_apply _ s)]
  simp only [bind_pure_unit]
  rw [drawTransition, Act.bind_apply_ok (Act.get_apply _)]
  rfl

theorem redraw_state {f : Studio σ η → γ} (hf : ∀ s outside, f { s with outside } = f s) (hnext : Keeps f next)
    (s : Studio σ η) : f (redraw canvas live v options next s).2 = f (s.changed live v) := by
  rw [redraw_apply]
  rcases v.figure floatGauge options with failure | figure
  · rfl
  · dsimp only
    rcases canvas.draw figure s.outside with ⟨failure | _, outside⟩
    · exact hf _ outside
    · exact (hnext _).trans (hf _ outside)

theorem tell_keeps {f : Studio σ η → γ} (hf : ∀ s outside, f { s with outside } = f s) (id : String)
    (kind : Graph.Element) : Keeps f (tell canvas id kind) := by
  intro s
  rw [tell_apply]
  exact Keeps.bind (notifyAll_keeps (fun _ => Keeps.within_other hf) _) (fun _ => Keeps.pure _) s

theorem tap_of_hidden (hlive : s.renderer.live = none) (id : String) :
    tap canvas id s = (.ok none, s) := by
  rw [tap, Act.bind_apply_ok (Act.get_apply s), hlive]
  rfl

variable (hlive : s.renderer.live = some live) {id : String}

include hlive

theorem tap_of_unknown (hkind : live.visualization.graph.element? id = none) :
    tap canvas id s = (.ok none, s) := by
  rw [tap, Act.bind_apply_ok (Act.get_apply s), hlive]
  dsimp only
  rw [Visualization.select, hkind]
  rfl

theorem tap_eq_redraw {kind : Graph.Element}
    (hkind : live.visualization.graph.element? id = some kind) :
    tap canvas id s =
      redraw canvas live { live.visualization with selected := some id } {} (tell canvas id kind) s := by
  rw [tap, Act.bind_apply_ok (Act.get_apply s), hlive]
  dsimp only
  rw [Visualization.select, hkind]
  rfl

theorem relayout_state {f : Studio σ η → γ} (hf : ∀ s outside, f { s with outside } = f s) :
    f (relayout canvas s).2 = f s ∨
      ∃ v, nextView s.renderer.policy live.visualization = .ok v ∧
        f (relayout canvas s).2 = f (s.changed live v) := by
  rcases hview : nextView s.renderer.policy live.visualization with failure | v
  · rw [relayout_apply hlive, hview]
    exact .inl rfl
  · rw [relayout_eq_redraw hlive hview]
    exact .inr ⟨v, rfl, redraw_state hf (Keeps.pure _) s⟩

theorem tap_state {f : Studio σ η → γ} (hf : ∀ s outside, f { s with outside } = f s) :
    f (tap canvas id s).2 = f (s.changed live (live.visualization.select id).1) := by
  rcases hkind : live.visualization.graph.element? id with _ | kind
  · rw [tap_of_unknown hlive hkind, Visualization.select, hkind, changed]
    dsimp only
    rw [← hlive]
  · rw [tap_eq_redraw hlive hkind, redraw_state hf (tell_keeps hf id kind), Visualization.select, hkind]

theorem tap_kind {kind : Option Graph.Element} (h : (tap canvas id s).1 = .ok kind) :
    kind = live.visualization.graph.element? id := by
  rcases hfound : live.visualization.graph.element? id with _ | found
  · rw [tap_of_unknown hlive hfound] at h
    cases h
    rfl
  · rw [tap_eq_redraw hlive hfound] at h
    obtain ⟨figure, outside, -, -, htold⟩ := redraw_eq_ok (Prod.ext h rfl)
    rw [tell_apply] at htold
    obtain ⟨-, -, rfl⟩ := Act.map_eq_ok htold
    rfl

theorem tap_eq_ok {kind : Graph.Element} (htap : tap canvas id s = (.ok (some kind), t)) :
    ∃ v figure, live.visualization.select id = (v, some kind) ∧
      v.figure floatGauge {} = .ok figure ∧ (canvas.draw figure s.outside).1 = .ok () ∧
      t = (notifyAll canvas id (if kind = .node then s.renderer.handlers else [])
        { s.changed live v with outside := (canvas.draw figure s.outside).2 }).2 := by
  have hkind := (tap_kind hlive (congrArg Prod.fst htap)).symm
  rw [tap_eq_redraw hlive hkind] at htap
  obtain ⟨figure, outside, hfigure, hdraw, htold⟩ := redraw_eq_ok htap
  rw [tell_apply] at htold
  obtain ⟨_, hnotified, -⟩ := Act.map_eq_ok htold
  refine ⟨_, figure, ?_, hfigure, congrArg Prod.fst hdraw, ?_⟩
  · rw [Visualization.select, hkind]
  · rw [hdraw]
    exact (congrArg Prod.snd hnotified).symm

end

end Studio

open Layout

def measured : Policy where
  componentSpacing := .float 100.0
  idealEdgeLength := .float 100.0

def loops : Graph :=
  ⟨[⟨"a", "A"⟩, ⟨"b", "B"⟩], [⟨"e", "a", "a", "again", none⟩]⟩

end DependencyAtlas.Stage
