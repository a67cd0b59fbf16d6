import DependencyAtlas.Proofs.Layout.Components
import DependencyAtlas.Proofs.Layout.Seeding
import DependencyAtlas.Proofs.Stage.Built
import DependencyAtlas.Proofs.Stage.Highlight

namespace DependencyAtlas

open Layout Drawing

namespace Layout.Policy

/-- Seeds are there exactly if the ideal edge length is a number. Nodes stay where they are given, seats depend
on nothing that is given, and neither seeding again nor arranging tells seeds from what they come from. -/
structure SeedsStably (policy : Policy) (net : Network) : Prop where
  returns : ∀ given, (∃ seeds, policy.seed net given = .ok seeds) ↔ policy.HasLength net.nodes.length
  keys : ∀ {given seeds}, policy.seed net given = .ok seeds → seeds.nodes = net.nodes
  kept : ∀ {given seeds node}, policy.seed net given = .ok seeds → node ∈ net.nodes →
    node ∈ given.nodes → seeds.get? node = given.get? node
  seats : ∀ {policy' : Policy} {net' : Network} {given given' seeds seeds' : Placement Float} {i : Nat}
    {node node' : String}, policy'.idealEdgeLength = policy.idealEdgeLength → net'.nodes.Nodup →
    net'.nodes.length = net.nodes.length → policy.seed net given = .ok seeds →
    policy'.seed net' given' = .ok seeds' → net.nodes[i]? = some node → net'.nodes[i]? = some node' →
    node ∉ given.nodes → node' ∉ given'.nodes →
    ∃ point, seeds.get? node = some point ∧ seeds'.get? node' = some point
  again : ∀ {given seeds}, policy.seed net given = .ok seeds → policy.seed net seeds = .ok seeds
  unknown : ∀ given, policy.seed net (given.filter fun entry => net.nodes.contains entry.1) =
    policy.seed net given
  order : ∀ {given given' : Placement Float}, given.nodes.Nodup → given.Perm given' →
    policy.seed net given = policy.seed net given'
  arranged : ∀ {given seeds}, policy.seed net given = .ok seeds →
    policy.arrange net given = policy.arrange net seeds
  unarranged : ∀ {given failure}, policy.seed net given = .error failure → net.nodes ≠ [] →
    policy.arrange net given = .error failure

theorem radius_congr {policy policy' : Policy}
    (h : policy'.idealEdgeLength = policy.idealEdgeLength) (count : Nat) :
    policy'.radius count = policy.radius count := by
  rw [radius, radius, lengths.eq_def, lengths.eq_def, h]

theorem seedsStably (policy : Policy) {net : Network} (hnodup : net.nodes.Nodup) :
    policy.SeedsStably net where
  returns _ := seed_eq_ok_iff
  keys := seed_nodes
  kept h hnode := seed_get? hnodup h hnode
  seats {policy' net' given given' seeds seeds' i node node'} hlength hnodup' hcount h h' hi hi' hnew
      hnew' := by
    obtain ⟨radius, hradius, hpoint⟩ := seed_seat hnodup h hi hnew
    obtain ⟨radius', hradius', hpoint'⟩ := seed_seat hnodup' h' hi' hnew'
    have hsame := (mapError_eq_ok_iff.mp hradius').symm
    rw [hcount, radius_congr hlength, mapError_eq_ok_iff.mp hradius] at hsame
    cases hsame
    exact ⟨_, hpoint, hcount ▸ hpoint'⟩
  again := seed_again hnodup
  unknown given := by
    apply seed_congr
    intro node hnode
    rw [Placement.get?, lookup_filter, if_pos (List.contains_iff_mem.mpr hnode)]
    rfl
  order hdistinct hperm := seed_congr fun node _ => lookup_perm hdistinct hperm node
  arranged h := arrange_congr (h.trans (seed_again hnodup h).symm)
  unarranged h hne := arrange_of_unseeded hne h

end Layout.Policy

namespace Stage

/-- A renderer places a graph where the policy arranges it from nowhere, and renders nothing that cannot be
arranged. -/
structure RendersAsArranged (policy : Policy) (g : Graph) : Prop where
  placed : ∀ {σ η : Type} {canvas : Canvas σ η} {s t : Studio σ η}, s.renderer.policy = policy →
    Studio.render canvas g s = (.ok true, t) →
    policy.arrange (Network.ofGraph g) [] = .ok t.renderer.positions
  refused : ∀ {σ η : Type} {canvas : Canvas σ η} {s t : Studio σ η} {failure : Failure},
    s.renderer.policy = policy → Studio.release canvas s = (.ok (), t) → g.isEmpty = false →
    policy.arrange (Network.ofGraph g) [] = .error failure →
    (Studio.render canvas g s).1 = .error failure

namespace Studio

variable {policy : Policy} {g : Graph}

theorem seedsStably_ofGraph (policy : Policy) (g : Graph) : policy.SeedsStably (.ofGraph g) :=
  policy.seedsStably (Network.ofEdges_proper _ _).nodup

theorem ofGraph_nodes_ne_nil (h : g.isEmpty = false) : (Network.ofGraph g).nodes ≠ [] := by
  obtain ⟨n, hn⟩ := List.exists_mem_of_ne_nil g.nodes fun hnil => by simp [Graph.isEmpty, hnil] at h
  have hmem : n.id ∈ (Network.ofGraph g).nodes :=
    mem_distinct.mpr (List.mem_append_left _ (List.mem_map_of_mem hn))
  exact List.ne_nil_of_mem hmem

theorem firstView_arranged {v : Visualization Float} (h : firstView policy g = .ok v) :
    policy.arrange (Network.ofGraph g) [] = .ok v.positions := by
  simp only [firstView, bind_eq_ok_iff] at h
  obtain ⟨start, hstart, final, hfinal, frames, -, ⟨⟩⟩ := h
  exact ((seedsStably_ofGraph policy g).arranged hstart).trans hfinal

theorem firstView_unarranged {failure : Failure} (hempty : g.isEmpty = false)
    (h : policy.arrange (Network.ofGraph g) [] = .error failure) :
    firstView policy g = .error failure := by
  have hstable := seedsStably_ofGraph policy g
  rw [firstView]
  rcases hstart : policy.seed (Network.ofGraph g) [] with e | start
  · rw [hstable.unarranged hstart (ofGraph_nodes_ne_nil hempty)] at h
    cases h
    rfl
  · rw [ok_bind, ← hstable.arranged hstart, h]
    rfl

theorem rendersAsArranged (policy : Policy) (g : Graph) : RendersAsArranged policy g where
  placed {σ η canvas s t} hpolicy h := by
    rcases @render_ends _ _ canvas g s with
      ⟨hnot, -⟩ | ⟨id, v, figure, outside, -, -, -, hrenderer, -, hview, -⟩
    · exact absurd (congrArg Prod.fst h) hnot
    · rw [h] at hrenderer
      have hpositions : t.renderer.positions = v.positions := congrArg Renderer.positions hrenderer
      rw [hpositions]
      exact firstView_arranged (hpolicy ▸ hview)
  refused {σ η canvas s t failure} hpolicy hrelease hempty h := by
    have hreleased : t.renderer = { s.renderer with live := none } := by
      rw [← release_renderer, hrelease]
    have hsame : t.renderer.policy = policy := by
      rw [hreleased]
      exact hpolicy
    rw [render_apply hrelease, if_neg (ne_true_of_eq_false hempty), hsame,
      firstView_unarranged hempty h]

end Studio

theorem seeding_stable (policy : Policy) :
    (∀ nodes edges, policy.SeedsStably (.ofEdges nodes edges)) ∧ ∀ g, RendersAsArranged policy g :=
  ⟨fun _ _ => policy.seedsStably (Network.ofEdges_proper _ _).nodup,
    Studio.rendersAsArranged policy⟩

def pairNetwork : Network :=
  .ofEdges ["a", "b"] [("a", "b")]

def strayed : Placement Float :=
  [("z", ⟨7.0, 7.0⟩), ("b", ⟨1.0, 2.0⟩)]

theorem seeding_stable_strayed :
    (∃ seeds, measured.seed pairNetwork strayed = .ok seeds ∧ seeds.nodes = ["a", "b"] ∧
      seeds.get? "b" = some ⟨1.0, 2.0⟩ ∧ measured.seed pairNetwork seeds = .ok seeds ∧
      measured.seed pairNetwork [("b", ⟨1.0, 2.0⟩)] = .ok seeds ∧
      measured.arrange pairNetwork strayed = measured.arrange pairNetwork seeds) ∧
    ∃ t, Studio.render (recorder Nat) loops freshStudio = (.ok true, t) ∧
      measured.arrange (.ofGraph loops) [] = .ok t.renderer.positions := by
  obtain ⟨hseeds, hrenders⟩ := seeding_stable measured
  have hpair : measured.SeedsStably pairNetwork := hseeds ["a", "b"] [("a", "b")]
  obtain ⟨seeds, h⟩ := (hpair.returns strayed).mpr (.inl ⟨100.0, rfl⟩)
  have hknown : strayed.filter (fun entry => pairNetwork.nodes.contains entry.1) =
      [("b", ⟨1.0, 2.0⟩)] := rfl
  have hjoined : loops.Joined := ⟨by decide, by decide⟩
  obtain ⟨v, figure, t, -, hrender, -, -⟩ :=
    Studio.render_eq_ok (Studio.release_of_hidden (s := freshStudio) rfl) rfl rfl
      (fun figure => congrArg Prod.fst (recorder_draw rfl figure)) hjoined (measured_computes _)
  refine ⟨⟨seeds, h, hpair.keys h, hpair.kept h (by decide) (by decide), hpair.again h, ?_,
    hpair.arranged h⟩, t, hrender, (hrenders loops).placed rfl hrender⟩
  rw [← hknown, hpair.unknown, h]

end Stage

end DependencyAtlas
