import DependencyAtlas.Proofs.Graph.RoundTrip
import DependencyAtlas.Proofs.Layout.Coverage
import DependencyAtlas.Proofs.Layout.Frames

namespace DependencyAtlas

open Layout Drawing

namespace Layout

/-- The options can be computed with, for that many nodes. -/
structure Policy.Computes (p : Policy) (count : Nat) : Prop where
  radius : ∃ r, p.radius count = .ok r
  gap : ∃ d, p.gap = .ok d
  spacing : ∃ d, p.spacing = .ok d
  steps : ∃ n, p.steps = .ok n
  length : ∃ x, (p.idealEdgeLength.toDouble fun k => .operands "*" .int k) = .ok x
  frames : ∃ n, p.frameCount = .ok n
  shares : ∃ d, share p.animationDuration 1 = .ok d

theorem share_eq_error {duration : Value} {n : Nat} {m : Misuse} (hn : n ≠ 0)
    (h : share duration n = .error m) : share duration 1 = .error m ∧ ∃ k, m = .operands "//" k .int := by
  cases duration with
  | float x => cases (if_neg hn).symm.trans h
  | int k => cases (if_neg hn).symm.trans h
  | bool b => cases (if_neg hn).symm.trans h
  | _ => exact ⟨h, _, (Except.error.inj h).symm⟩

namespace Policy

variable {p : Policy} {count : Nat}

theorem computes_iff : p.Computes count ↔
    (∃ r, p.radius count = .ok r) ∧ (∃ d, p.gap = .ok d) ∧ (∃ d, p.spacing = .ok d) ∧
      (∃ n, p.steps = .ok n) ∧ (∃ x, (p.idealEdgeLength.toDouble fun k => .operands "*" .int k) = .ok x) ∧
      (∃ n, p.frameCount = .ok n) ∧ ∃ d, share p.animationDuration 1 = .ok d :=
  ⟨fun ⟨radius, gap, spacing, steps, length, frames, shares⟩ =>
    ⟨radius, gap, spacing, steps, length, frames, shares⟩,
  fun ⟨radius, gap, spacing, steps, length, frames, shares⟩ =>
    ⟨radius, gap, spacing, steps, length, frames, shares⟩⟩

instance (p : Policy) (count : Nat) : Decidable (p.Computes count) :=
  decidable_of_iff _ computes_iff.symm

theorem Computes.measures (h : p.Computes count) : p.measures.Computes count where
  radius := h.radius.imp fun _ => mapError_eq_ok_iff.mpr
  gap := h.gap.imp fun _ => mapError_eq_ok_iff.mpr
  spacing := h.spacing.imp fun _ => mapError_eq_ok_iff.mpr

theorem engine_full (p : Policy) : p.engine.Full := by
  intro nodes adjacency start points hlength h
  simp only [engine, bind_eq_ok_iff] at h
  obtain ⟨steps, -, length, -, ⟨⟩⟩ := h
  rw [Springs.place, List.length_map, List.length_range, hlength]

theorem Computes.engine_eq_ok (h : p.Computes count) (nodes : List String)
    (adjacency : List (List Bool)) (start : List (Point Float)) :
    ∃ points, p.engine nodes adjacency start = .ok points := by
  obtain ⟨steps, hsteps⟩ := h.steps
  obtain ⟨length, hlength⟩ := h.length
  exact ⟨_, bind_eq_ok_iff.mpr ⟨steps, mapError_eq_ok_iff.mpr hsteps,
    bind_eq_ok_iff.mpr ⟨length, mapError_eq_ok_iff.mpr hlength, rfl⟩⟩⟩

theorem Computes.transition_eq_ok (h : p.Computes count) (old new : Placement Float) :
    ∃ frames, p.transition old new = .ok frames := by
  rw [transition]
  split
  · exact ⟨_, rfl⟩
  · obtain ⟨n, hn⟩ := h.frames
    exact ⟨_, bind_eq_ok_iff.mpr ⟨n, mapError_eq_ok_iff.mpr hn, rfl⟩⟩

end Policy

end Layout

structure Graph.Joined (g : Graph) : Prop where
  distinct : g.nodeIds.Nodup
  ends : ∀ e ∈ g.edges, e.source ∈ g.nodeIds ∧ e.target ∈ g.nodeIds

theorem Graph.WellFormed.joined {g : Graph} (h : g.WellFormed) : g.Joined where
  distinct := h.nodesDistinct
  ends e he := ⟨(h.edges e he).sourceKnown, (h.edges e he).targetKnown⟩

theorem Graph.Accepted.joined {g : Graph} (h : g.Accepted) : g.Joined :=
  h.wellFormed.joined

theorem Graph.ofDocument_joined {document : Value} {g : Graph} (h : ofDocument document = .ok g) :
    g.Joined := by
  obtain ⟨nodes, edges, ⟨elements, -, hnodes, hedges⟩, rfl⟩ := valid_of_ofDocument h
  have hids : nodeIds ⟨nodes.map nodeOf, edges.map edgeOf⟩ = nodes.map (textOf "id") := nodeIds_of_datas nodes
  constructor
  · rw [hids]
    exact hnodes.distinct
  · rw [hids]
    intro e he
    obtain ⟨data, hdata, rfl⟩ := List.mem_map.mp he
    exact ⟨(hedges.fit data hdata).sourceKnown, (hedges.fit data hdata).targetKnown⟩

namespace Drawing.Visualization

variable {v : Visualization Float} {gauge : Gauge Float}

structure Complete (v : Visualization Float) : Prop where
  positions : ∀ id ∈ v.graph.nodeIds, id ∈ v.positions.nodes
  frames : ∀ q ∈ v.frames, ∀ id ∈ v.graph.nodeIds, id ∈ q.nodes

theorem picture_eq_ok (hjoined : v.graph.Joined) {p : Placement Float}
    (hplaced : ∀ id ∈ v.graph.nodeIds, id ∈ p.nodes) : ∃ pic, v.picture gauge p = .ok pic := by
  have hpoint (id : String) (h : id ∈ v.graph.nodeIds) : ∃ point, pointOf p id = .ok point :=
    (Placement.get?_of_mem (hplaced id h)).imp fun _ => pointOf_eq_ok_iff.mpr
  obtain ⟨points, hpoints⟩ := mapM_eq_ok hpoint
  have hedge (e : Edge) (he : e ∈ v.graph.edges) : ∃ part, v.edgeNotes gauge p e = .ok part := by
    obtain ⟨a, ha⟩ := hpoint e.source (hjoined.ends e he).1
    obtain ⟨b, hb⟩ := hpoint e.target (hjoined.ends e he).2
    exact ⟨_, bind_eq_ok_iff.mpr ⟨a, ha, bind_eq_ok_iff.mpr ⟨b, hb, rfl⟩⟩⟩
  obtain ⟨parts, hparts⟩ := mapM_eq_ok hedge
  exact ⟨_, bind_eq_ok_iff.mpr ⟨_, bind_eq_ok_iff.mpr ⟨points, hpoints, rfl⟩,
    bind_eq_ok_iff.mpr ⟨_, bind_eq_ok_iff.mpr ⟨parts, hparts, rfl⟩, rfl⟩⟩⟩

inductive Unmeasured (gauge : Gauge Float) (options : FigureOptions) : Failure → Prop
  | size {x : Float} {m : Misuse} (hfull : options.fullExtent = true) (h : gauge.roundUp x = .error m) :
    Unmeasured gauge options (.misuse m)
  | duration {k : Kind} (h : share options.duration 1 = .error (.operands "//" k .int)) :
    Unmeasured gauge options (.misuse (.operands "//" k .int))

variable {options : FigureOptions}

theorem sizeFor_unmeasured (spans : Span Float × Span Float) :
    FailsAs (Unmeasured gauge options) (sizeFor gauge spans options.fullExtent) := by
  have hsize (hfull : options.fullExtent = true) (s : Span Float) :
      FailsAs (Unmeasured gauge options) (sizeOf gauge s) := by
    refine FailsAs.bind ?_ fun length => failsAs_ok _
    rcases hround : gauge.roundUp s.length with m | n
    · exact failsAs_error (.size hfull hround)
    · exact failsAs_ok n
  rcases hfull : options.fullExtent
  · exact failsAs_ok none
  · refine (hsize hfull _).bind fun width => ?_
    exact (hsize hfull _).bind fun height => failsAs_ok _

theorem animation_unmeasured (hjoined : v.graph.Joined) {shown : List (Placement Float)}
    (hplaced : ∀ q ∈ shown, ∀ id ∈ v.graph.nodeIds, id ∈ q.nodes) :
    FailsAs (Unmeasured gauge options) (v.animation gauge options.duration shown) := by
  cases shown with
  | nil => exact failsAs_ok none
  | cons first rest =>
    have hpictures : FailsAs (Unmeasured gauge options) ((first :: rest).mapM (v.picture gauge)) := by
      obtain ⟨pictures, hpictures⟩ := mapM_eq_ok fun q hq => picture_eq_ok hjoined (hplaced q hq)
      rw [hpictures]
      exact failsAs_ok pictures
    refine hpictures.bind fun pictures => ?_
    refine FailsAs.bind ?_ fun duration => failsAs_ok _
    rcases hshare : share options.duration (first :: rest).length with m | d
    · obtain ⟨hone, k, rfl⟩ := share_eq_error (Nat.succ_ne_zero rest.length) hshare
      exact failsAs_error (.duration hone)
    · exact failsAs_ok d

theorem figure_unmeasured (hjoined : v.graph.Joined) (hcomplete : v.Complete) (options : FigureOptions) :
    FailsAs (Unmeasured gauge options) (v.figure gauge options) := by
  have hstart : ∀ id ∈ v.graph.nodeIds,
      id ∈ ((v.moving options.animated).headD v.positions).nodes := by
    rcases hshown : v.moving options.animated with _ | ⟨first, rest⟩
    · exact hcomplete.positions
    · apply hcomplete.frames
      rw [(frames_of_moving hshown).2]
      exact List.mem_cons_self
  have hshown : ∀ q ∈ v.moving options.animated, ∀ id ∈ v.graph.nodeIds, id ∈ q.nodes := by
    intro q hq
    rw [moving] at hq
    split at hq
    · exact hcomplete.frames q hq
    · cases hq
  obtain ⟨picture, hpicture⟩ : ∃ picture,
      v.picture gauge ((v.moving options.animated).headD v.positions) = .ok picture :=
    picture_eq_ok hjoined hstart
  rw [figure_eq]
  dsimp only
  rw [hpicture, ok_bind]
  refine (sizeFor_unmeasured _).bind fun size => ?_
  exact (animation_unmeasured hjoined hshown).bind fun moved => failsAs_ok _

theorem figure_eq_ok (hjoined : v.graph.Joined) (hcomplete : v.Complete)
    (hfull : options.fullExtent = false) (hshares : ∃ d, share options.duration 1 = .ok d) :
    ∃ figure, v.figure gauge options = .ok figure := by
  rcases hfigure : v.figure gauge options with failure | figure
  · cases figure_unmeasured hjoined hcomplete options failure hfigure with
    | size hfull' => cases hfull.symm.trans hfull'
    | duration h =>
      obtain ⟨d, hd⟩ := hshares
      cases hd.symm.trans h
  · exact ⟨figure, rfl⟩

theorem figure_of_selected (hjoined : v.graph.Joined) (hcomplete : v.Complete) (id : String) :
    ∃ figure, { v with selected := some id }.figure gauge {} = .ok figure :=
  figure_eq_ok (v := { v with selected := some id }) hjoined ⟨hcomplete.positions, hcomplete.frames⟩ rfl ⟨_, rfl⟩

end Drawing.Visualization

namespace Stage.Studio

theorem arrange_places {policy : Policy} {g : Graph} (hjoined : g.Joined)
    {given final : Placement Float} (h : policy.arrange (Network.ofGraph g) given = .ok final) :
    ∀ id ∈ g.nodeIds, id ∈ final.nodes := by
  intro id hid
  rw [arrange_nodes policy.engine_full h, Network.mem_components_flatten,
    Network.ofGraph_nodes hjoined.distinct hjoined.ends]
  exact hid

theorem firstView_complete {policy : Policy} {g : Graph} (hjoined : g.Joined)
    {v : Visualization Float} (h : firstView policy g = .ok v) :
    v.graph = g ∧ v.selected = none ∧ v.Complete := by
  simp only [firstView, bind_eq_ok_iff] at h
  obtain ⟨start, -, final, hfinal, frames, hframes, ⟨⟩⟩ := h
  have hplaced := arrange_places hjoined hfinal
  refine ⟨rfl, rfl, hplaced, fun q hq id hid => ?_⟩
  rw [Policy.transition_nodes hframes q hq]
  exact hplaced id hid

theorem nextView_complete {policy : Policy} {v v' : Visualization Float} (hjoined : v.graph.Joined)
    (h : nextView policy v = .ok v') : v'.Complete := by
  simp only [nextView, bind_eq_ok_iff] at h
  obtain ⟨final, hfinal, frames, hframes, ⟨⟩⟩ := h
  have hplaced := arrange_places hjoined hfinal
  refine ⟨hplaced, fun q hq id hid => ?_⟩
  rw [Policy.transition_nodes hframes q hq]
  exact hplaced id hid

section

variable {policy : Policy} {g : Graph} (hjoined : g.Joined)

include hjoined

theorem ofGraph_length : (Network.ofGraph g).nodes.length = g.nodes.length := by
  rw [Network.ofGraph_nodes hjoined.distinct hjoined.ends, Graph.nodeIds, List.length_map]

theorem arranged (hcomputes : policy.Computes g.nodes.length) (given : Placement Float) :
    ∃ final, policy.arrange (Network.ofGraph g) given = .ok final :=
  arrange_eq_ok hcomputes.measures hcomputes.engine_eq_ok (ofGraph_length hjoined) given

theorem firstView_eq_ok (hcomputes : policy.Computes g.nodes.length) :
    ∃ v, firstView policy g = .ok v := by
  have hcount := ofGraph_length hjoined
  obtain ⟨radius, hradius⟩ := hcomputes.measures.radius
  obtain ⟨start, hstart⟩ : ∃ start, policy.seed (Network.ofGraph g) [] = .ok start :=
    ⟨_, bind_eq_ok_iff.mpr ⟨radius, hcount ▸ hradius, rfl⟩⟩
  obtain ⟨final, hfinal⟩ := arranged hjoined hcomputes start
  obtain ⟨frames, hframes⟩ := hcomputes.transition_eq_ok start final
  refine ⟨_, bind_eq_ok_iff.mpr ⟨start, hstart, bind_eq_ok_iff.mpr ⟨final, hfinal,
    bind_eq_ok_iff.mpr ⟨frames, hframes, rfl⟩⟩⟩⟩

end

theorem nextView_eq_ok {policy : Policy} {v : Visualization Float} (hjoined : v.graph.Joined)
    (hcomputes : policy.Computes v.graph.nodes.length) : ∃ v', nextView policy v = .ok v' := by
  obtain ⟨final, hfinal⟩ := arranged hjoined hcomputes v.positions
  obtain ⟨frames, hframes⟩ := hcomputes.transition_eq_ok v.positions final
  exact ⟨_, bind_eq_ok_iff.mpr ⟨final, hfinal, bind_eq_ok_iff.mpr ⟨frames, hframes, rfl⟩⟩⟩

end Stage.Studio

end DependencyAtlas
