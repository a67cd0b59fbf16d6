import DependencyAtlas.Proofs.Layout.Components
import DependencyAtlas.Proofs.Stage.Failing
import DependencyAtlas.Proofs.Stage.Reopening
import DependencyAtlas.Proofs.Stage.Taps

namespace DependencyAtlas

open Layout Drawing

namespace Drawing.Visualization

/-- The placements are those of the nodes and of nothing else, there is a frame and the last one leads to the
positions, and what is selected is a node or an edge. -/
structure Whole (v : Visualization Float) : Prop where
  positions : v.positions.nodes.Perm v.graph.nodeIds
  frames : ∀ frame ∈ v.frames, frame.nodes.Perm v.graph.nodeIds
  last : v.frames.getLast? = some v.positions
  selected : ∀ id, v.selected = some id → id ∈ v.graph.nodeIds ++ v.graph.edgeIds

theorem Whole.complete {v : Visualization Float} (h : v.Whole) : v.Complete where
  positions _ hid := h.positions.mem_iff.mpr hid
  frames frame hframe _ hid := (h.frames frame hframe).mem_iff.mpr hid

theorem Whole.select {v : Visualization Float} (h : v.Whole) (id : String) : (v.select id).1.Whole := by
  rw [Visualization.select]
  split
  · next kind hkind =>
    refine ⟨h.positions, h.frames, h.last, ?_⟩
    rintro _ ⟨⟩
    by_contra hnot
    rw [List.mem_append, not_or] at hnot
    cases hkind.symm.trans (Graph.element?_eq_none_iff.mpr hnot)
  · exact h

end Drawing.Visualization

namespace Stage

namespace Studio

variable {policy : Policy} {g : Graph} {v v' : Visualization Float} {given final : Placement Float}

theorem arrange_perm (hjoined : g.Joined) (h : policy.arrange (.ofGraph g) given = .ok final) :
    final.nodes.Perm g.nodeIds := by
  have hproper : (Network.ofGraph g).Proper := Network.ofEdges_proper _ _
  rw [arrange_nodes policy.engine_full h]
  refine (List.perm_ext_iff_of_nodup (Network.components_grouped hproper).disjoint hjoined.distinct).mpr ?_
  intro id
  rw [Network.mem_components_flatten, Network.ofGraph_nodes hjoined.distinct hjoined.ends]

theorem transition_perm {old : Placement Float} {frames : List (Placement Float)}
    (hfinal : final.nodes.Perm g.nodeIds) (h : policy.transition old final = .ok frames) :
    ∀ frame ∈ frames, frame.nodes.Perm g.nodeIds := by
  intro frame hframe
  rw [Policy.transition_nodes h frame hframe]
  exact hfinal

theorem firstView_whole (hjoined : g.Joined) (h : firstView policy g = .ok v) : v.Whole := by
  have hlast := firstView_getLast? h
  simp only [firstView, bind_eq_ok_iff] at h
  obtain ⟨start, -, final, hfinal, frames, hframes, ⟨⟩⟩ := h
  have hperm := arrange_perm hjoined hfinal
  refine ⟨hperm, transition_perm hperm hframes, hlast, ?_⟩
  rintro _ ⟨⟩

theorem nextView_whole (hjoined : v.graph.Joined) (hv : v.Whole) (h : nextView policy v = .ok v') : v'.Whole := by
  have hlast := nextView_getLast? h
  simp only [nextView, bind_eq_ok_iff] at h
  obtain ⟨final, hfinal, frames, hframes, ⟨⟩⟩ := h
  have hperm := arrange_perm hjoined hfinal
  exact ⟨hperm, transition_perm hperm hframes, hlast, hv.selected⟩

end Studio

theorem whole_lasting :
    Lasting Graph.Accepted fun _ v => v.graph.Joined ∧ v.Whole where
  first haccepted _ hview _ := by
    obtain rfl := Studio.firstView_graph hview
    exact ⟨haccepted.joined, Studio.firstView_whole haccepted.joined hview⟩
  next h hview := by
    rw [Studio.nextView_graph hview]
    exact ⟨h.1, Studio.nextView_whole h.1 h.2 hview⟩
  select {policy v} id h := by
    refine ⟨?_, h.2.select id⟩
    rw [Visualization.select]
    split <;> exact h.1

section

variable {σ η α : Type} {canvas : Canvas σ η} {deed : Deed η} {policy : Policy}

/-- Why a deed can fail though the layout is computed: something fails outside, the surface is taken, or the size of a
snapshot cannot be rounded. -/
inductive Deed.Excused (canvas : Canvas σ η) : Deed η → Failure → Prop
  | draw {deed : Deed η} {figure : Figure Float} {outside : σ} {cause : Failure}
    (h : (canvas.draw figure outside).1 = .error cause) : Excused canvas deed (Studio.drawFailure cause)
  | clear {deed : Deed η} {outside : σ} {cause : Failure} (h : (canvas.clear outside).1 = .error cause) :
    Excused canvas deed cause
  | notify {deed : Deed η} {handler : η} {id : String} {outside : σ} {cause : Failure}
    (h : (canvas.notify handler id outside).1 = .error cause) : Excused canvas deed cause
  | busy {deed : Deed η} : Excused canvas deed (.complaint (.busy Surface.busyText))
  | size {m : Misuse} (h : m = .notANumber ∨ m = .infinite) : Excused canvas .snapshot (.misuse m)

namespace Studio

open Act (Fails)

abbrev Excusable (canvas : Canvas σ η) (deed : Deed η) (policy : Policy) (act : Act (Studio σ η) α) : Prop :=
  Fails (fun s => s.renderer.policy = policy) (deed.Excused canvas) act

theorem outsideAct_excusable {act : Act σ α} (h : ∀ outside, FailsAs (deed.Excused canvas) (act outside).1) :
    Excusable canvas deed policy (outsideAct act) :=
  ⟨fun _ hs => hs, fun s _ => h s.outside⟩

theorem canvas_excusable :
    canvas.FailsWith (fun s => s.renderer.policy = policy) (deed.Excused canvas) where
  live _ := id
  surface _ := id
  registry _ := id
  clear := outsideAct_excusable fun _ _ h => .clear h
  draw figure := by
    constructor
    · intro s hs
      rw [draw_apply]
      exact hs
    · intro s _
      rw [draw_apply]
      rcases hdraw : (canvas.draw figure s.outside).1 with cause | _
      · exact failsAs_error (.draw hdraw)
      · exact failsAs_ok _
  busy := .busy

theorem notifyAll_excusable (id : String) (handlers : List η) :
    Excusable canvas deed policy (notifyAll canvas id handlers) := by
  induction handlers with
  | nil => exact .pure _
  | cons handler rest ih => exact (outsideAct_excusable fun _ _ h => .notify h).bind fun _ => ih

section

variable {g : Graph} (hjoined : g.Joined) (hcomputes : policy.Computes g.nodes.length)

include hjoined hcomputes

theorem drawTransition_excusable {v : Visualization Float} (hgraph : v.graph = g) (hcomplete : v.Complete) :
    Excusable canvas deed policy (drawTransition canvas v) := by
  apply canvas_excusable.drawTransition
  rintro s rfl
  obtain ⟨figure, hfigure⟩ : ∃ figure, v.figure floatGauge (moveOptions s.renderer.policy) = .ok figure :=
    Visualization.figure_eq_ok (hgraph ▸ hjoined) hcomplete rfl hcomputes.shares
  rw [hfigure]
  exact failsAs_ok figure

theorem render_excusable : Excusable canvas deed policy (render canvas g) := by
  apply canvas_excusable.render
  · rintro s rfl
    obtain ⟨v, hview⟩ := firstView_eq_ok hjoined hcomputes
    rw [hview]
    exact failsAs_ok v
  · intro s v _ hview
    obtain ⟨hgraph, -, hcomplete⟩ := firstView_complete hjoined hview
    exact drawTransition_excusable hjoined hcomputes hgraph hcomplete

end

end Studio

structure Renderer.Ready (r : Renderer η) : Prop where
  joined : ∀ live, r.live = some live → live.visualization.graph.Joined
  complete : ∀ live, r.live = some live → live.visualization.Complete
  computes : ∀ live, r.live = some live → r.policy.Computes live.visualization.graph.nodes.length

namespace Studio

variable {s : Studio σ η} (hready : s.renderer.Ready)

include hready

theorem relayout_excused : FailsAs (deed.Excused canvas) (relayout canvas s).1 := by
  rcases hlive : s.renderer.live with _ | live
  · rw [relayout_of_hidden hlive]
    exact failsAs_ok ()
  have hjoined := hready.joined live hlive
  have hcomputes := hready.computes live hlive
  obtain ⟨v, hview⟩ := nextView_eq_ok hjoined hcomputes
  rw [relayout_apply hlive, hview]
  have hdrawn : Excusable canvas deed s.renderer.policy (drawTransition canvas v) :=
    drawTransition_excusable hjoined hcomputes (nextView_graph hview) (nextView_complete hjoined hview)
  exact hdrawn.failsAs _ rfl

theorem tap_excused (id : String) : FailsAs (deed.Excused canvas) (tap canvas id s).1 := by
  rcases hlive : s.renderer.live with _ | live
  · rw [tap_of_hidden hlive]
    exact failsAs_ok none
  rcases hkind : live.visualization.graph.element? id with _ | kind
  · rw [tap_of_unknown hlive hkind]
    exact failsAs_ok none
  obtain ⟨figure, hfigure⟩ : ∃ figure,
      { live.visualization with selected := some id }.figure floatGauge {} = .ok figure :=
    Visualization.figure_of_selected (hready.joined live hlive) (hready.complete live hlive) id
  rw [tap_eq_redraw hlive hkind, redraw_apply, hfigure]
  dsimp only
  rcases hdraw : canvas.draw figure s.outside with ⟨cause | _, outside⟩
  · exact failsAs_error (.draw (congrArg Prod.fst hdraw))
  · dsimp only
    rw [tell_apply]
    have htold (handlers : List η) :
        Excusable canvas deed s.renderer.policy (notifyAll canvas id handlers >>= fun _ => pure (some kind)) :=
      (notifyAll_excusable id handlers).bind fun _ => .pure (some kind)
    exact (htold _).failsAs _ rfl

end Studio

theorem Renderer.document_of_complete {r : Renderer η}
    (h : ∀ live, r.live = some live → live.visualization.Complete) : ∃ document, r.document = .ok document := by
  rcases hlive : r.live with _ | live
  · refine ⟨none, ?_⟩
    rw [document, hlive]
  · obtain ⟨entries, -, hdocument⟩ := document_eq_ok hlive (h live hlive)
    exact ⟨_, hdocument⟩

theorem Renderer.snapshot_excused {r : Renderer η} (hready : r.Ready) :
    FailsAs (Deed.Excused canvas (.snapshot : Deed η)) r.snapshot := by
  rw [snapshot]
  rcases hlive : r.live with _ | live
  · exact failsAs_ok none
  intro failure h
  have hfailed := map_eq_error_iff.mp h
  cases Visualization.figure_unmeasured (hready.joined live hlive) (hready.complete live hlive) _ _ hfailed with
  | size hfull hround =>
    apply Deed.Excused.size
    rw [floatGauge] at hround
    dsimp only at hround
    split at hround
    · cases hround
    · cases hround
      split
      · exact .inl rfl
      · exact .inr rfl
  | duration hshare => cases hshare

theorem Deed.perform_excused {s : Studio σ η} (hready : s.renderer.Ready)
    (hdeed : ∀ g, deed = .render g → g.Joined ∧ s.renderer.policy.Computes g.nodes.length) :
    FailsAs (deed.Excused canvas) (deed.perform canvas s).1 := by
  have hthen {α : Type} {act : Act (Studio σ η) α} {result : α → Result}
      (h : FailsAs (deed.Excused canvas) (act s).1) :
      FailsAs (deed.Excused canvas) ((act >>= fun a => pure (result a)) s).1 := by
    intro failure hfailure
    have hfailed : (act >>= fun a => pure (result a)) s = (.error failure, _) := Prod.ext hfailure rfl
    exact h failure (congrArg Prod.fst (Act.map_eq_error_iff.mp hfailed))
  have hact {α : Type} {act : Act (Studio σ η) α} {result : α → Result}
      (h : Studio.Excusable canvas deed s.renderer.policy act) :
      FailsAs (deed.Excused canvas) ((act >>= fun a => pure (result a)) s).1 :=
    hthen (h.failsAs s rfl)
  cases deed with
  | render g =>
    obtain ⟨hjoined, hcomputes⟩ := hdeed g rfl
    exact hact (Studio.render_excusable hjoined hcomputes)
  | relayout => exact hthen (Studio.relayout_excused hready)
  | tap id => exact hthen (Studio.tap_excused hready id)
  | release => exact hact Studio.canvas_excusable.release
  | onSelect handler => exact failsAs_ok _
  | snapshot =>
    change FailsAs _ ((Act.ofExcept s.renderer.snapshot >>= fun figure => pure (Result.figure figure)) s).1
    exact hthen (Renderer.snapshot_excused hready)
  | document =>
    change FailsAs _ ((Act.ofExcept s.renderer.document >>= fun document => pure (Result.document document)) s).1
    obtain ⟨document, hdocument⟩ := Renderer.document_of_complete hready.complete
    exact hthen (hdocument ▸ failsAs_ok document)
  | bind holder => exact hact (Studio.canvas_excusable.bind holder)
  | unbind holder => exact hact (Studio.canvas_excusable.unbind holder)
  | unbindBound =>
    change FailsAs _ ((Studio.unbind canvas s.surface.bound >>= fun _ => pure Result.done) s).1
    exact hact (Studio.canvas_excusable.unbind s.surface.bound)

theorem live_whole {start : Ensemble σ η} (hhidden : ∀ r ∈ start.renderers, r.live = none)
    {events : List (Event σ η)} (hevents : ∀ i g, .ask i (.render g) ∈ events → g.Accepted) {i : Nat}
    {r : Renderer η} (hi : (start.afterAll canvas events).renderers[i]? = some r) :
    (∀ live, r.live = some live → live.visualization.Whole ∧
      (∀ p ∈ live.visualization.positions :: live.visualization.frames,
        ∃ pic, live.visualization.picture floatGauge p = .ok pic) ∧
      ∀ options, FailsAs (Visualization.Unmeasured floatGauge options)
        (live.visualization.figure floatGauge options)) ∧
    (∃ document, r.document = .ok document) ∧
    ∀ deed : Deed η, (∀ g, deed = .render g → g.Accepted) →
      (∀ g, deed = .render g ∨ r.elements = some g → r.policy.Computes g.nodes.length) →
      FailsAs (deed.Excused canvas) (Ensemble.perform canvas i deed (start.afterAll canvas events)).1 := by
  have hshown : r.Shown fun _ v => v.graph.Joined ∧ v.Whole :=
    Ensemble.afterAll_shown whole_lasting (fun r hr => Studio.shown_of_hidden (hhidden r hr) _) hevents r
      (List.mem_of_getElem? hi)
  have hcomplete (live : Live) (hlive : r.live = some live) := (hshown live hlive).2.complete
  refine ⟨fun live hlive => ?_, Renderer.document_of_complete hcomplete, fun deed hdeed hcomputes => ?_⟩
  · obtain ⟨hjoined, hwhole⟩ := hshown live hlive
    refine ⟨hwhole, fun p hp => Visualization.picture_eq_ok hjoined ?_, ?_⟩
    · rcases List.mem_cons.mp hp with rfl | hframe
      · exact hwhole.complete.positions
      · exact hwhole.complete.frames p hframe
    · exact Visualization.figure_unmeasured hjoined hwhole.complete
  · have hready : r.Ready := by
      refine ⟨fun live hlive => (hshown live hlive).1, hcomplete, fun live hlive => hcomputes _ (.inr ?_)⟩
      rw [Renderer.elements, hlive, Option.map_some]
    simp only [Ensemble.perform, hi]
    exact deed.perform_excused hready fun g hg => ⟨(hdeed g hg).joined, hcomputes g (.inl hg)⟩

end

theorem live_whole_selfCall :
    selfCall.Accepted ∧ ∃ r live, selfCalls.renderers[0]? = some r ∧ r.live = some live ∧
      live.visualization.selected = some "e" ∧ live.visualization.Whole ∧ (∃ document, r.document = .ok document) ∧
      FailsAs ((Deed.relayout : Deed Nat).Excused (recorder Nat))
        (Ensemble.perform (recorder Nat) 0 .relayout selfCalls).1 := by
  have haccepted : selfCall.Accepted := ⟨_, selfCall_proper, rfl⟩
  have hfirst : selfCalls.renderers[0]?.isSome = true := rfl
  have hi : selfCalls.renderers[0]? = some (selfCalls.renderers[0]?.get hfirst) :=
    (Option.some_get hfirst).symm
  have hshown : (selfCalls.renderers[0]?.get hfirst).live.isSome = true := rfl
  have hhidden : ∀ r ∈ (Ensemble.start (η := Nat) measured 1 1).renderers, r.live = none := by
    intro r hr
    rw [List.eq_of_mem_replicate hr]
  obtain ⟨hlive, hdocument, hdeeds⟩ := live_whole hhidden (by
    intro i g hg
    simp only [List.mem_cons, Event.ask.injEq, Deed.render.injEq, reduceCtorEq, and_false, List.not_mem_nil,
      or_false] at hg
    exact hg.2 ▸ haccepted) hi
  refine ⟨haccepted, _, _, hi, (Option.some_get hshown).symm, rfl, (hlive _ (Option.some_get hshown).symm).1,
    hdocument, ?_⟩
  refine hdeeds .relayout (by rintro g ⟨⟩) fun g _ => ?_
  exact measured_computes g.nodes.length

end Stage

end DependencyAtlas
