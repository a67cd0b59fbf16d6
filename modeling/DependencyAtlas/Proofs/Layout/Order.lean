import DependencyAtlas.Proofs.Layout.Packing

namespace DependencyAtlas.Layout

section

variable {α : Type} [BEq α] [LawfulBEq α] {xs ys zs : List α}

theorem filter_contains_of_sublist (h : xs.Sublist zs) (hnodup : zs.Nodup) :
    zs.filter xs.contains = xs := by
  induction h with
  | slnil => rfl
  | @cons xs zs a h ih =>
    obtain ⟨hnew, hnodup⟩ := List.nodup_cons.mp hnodup
    rw [List.filter_cons_of_neg (mt List.contains_iff_mem.mp fun hmem => hnew (h.subset hmem))]
    exact ih hnodup
  | @cons_cons xs zs a h ih =>
    obtain ⟨hnew, hnodup⟩ := List.nodup_cons.mp hnodup
    have hrest : zs.filter (a :: xs).contains = zs.filter xs.contains := by
      apply List.filter_congr
      intro b hb
      have hne : b ≠ a := by
        rintro rfl
        exact hnew hb
      rw [List.contains_cons, beq_false_of_ne hne, Bool.false_or]
    rw [List.filter_cons_of_pos (List.contains_iff_mem.mpr List.mem_cons_self), hrest, ih hnodup]

theorem eq_of_sublist_of_mem_iff (hnodup : zs.Nodup) (hx : xs.Sublist zs) (hy : ys.Sublist zs)
    (h : ∀ a, a ∈ xs ↔ a ∈ ys) : xs = ys := by
  rw [← filter_contains_of_sublist hx hnodup, ← filter_contains_of_sublist hy hnodup]
  apply List.filter_congr
  intro a _
  rw [Bool.eq_iff_iff, List.contains_iff_mem, List.contains_iff_mem, h]

end

namespace Network

variable {net net' : Network} {parts parts' : List (List String)}

namespace Grouped

variable (h : net.Grouped parts)

include h

theorem exists_part {node : String} (hnode : node ∈ net.nodes) : ∃ part ∈ parts, node ∈ part :=
  List.mem_flatten.mp ((h.covered node).mpr hnode)

theorem mem_nodes {part : List String} (hpart : part ∈ parts) {node : String} (hnode : node ∈ part) :
    node ∈ net.nodes :=
  (h.ordered part hpart).subset hnode

theorem part_eq (hnodup : net.nodes.Nodup) (h' : net.Grouped parts') {part part' : List String}
    (hpart : part ∈ parts) (hpart' : part' ∈ parts') {node : String} (hnode : node ∈ part)
    (hnode' : node ∈ part') : part = part' := by
  apply eq_of_sublist_of_mem_iff hnodup (h.ordered part hpart) (h'.ordered part' hpart')
  intro other
  constructor
  · intro hother
    have hmem := h.mem_nodes hpart hother
    rw [h'.connected part' hpart' node hnode' other hmem]
    exact (h.connected part hpart node hnode other hmem).mp hother
  · intro hother
    have hmem := h'.mem_nodes hpart' hother
    rw [h.connected part hpart node hnode other hmem]
    exact (h'.connected part' hpart' node hnode' other hmem).mp hother

theorem subset (hnodup : net.nodes.Nodup) (h' : net.Grouped parts') : parts ⊆ parts' := by
  intro part hpart
  obtain ⟨node, hnode⟩ := List.exists_mem_of_ne_nil part (h.nonempty part hpart)
  obtain ⟨part', hpart', hnode'⟩ := h'.exists_part (h.mem_nodes hpart hnode)
  rw [h.part_eq hnodup h' hpart hpart' hnode hnode']
  exact hpart'

open Classical in
theorem eq_map_firsts (hnodup : net.nodes.Nodup) :
    parts = (parts.filterMap List.head?).map fun first =>
      net.nodes.filter fun node => net.Connected first node := by
  rw [List.map_filterMap]
  have hpart : ∀ part ∈ parts, part.head?.map (fun first =>
      net.nodes.filter fun node => net.Connected first node) = some part := by
    intro part hpart
    obtain ⟨first, rest, rfl⟩ := List.exists_cons_of_ne_nil (h.nonempty part hpart)
    rw [List.head?_cons, Option.map_some, Option.some_inj]
    apply eq_of_sublist_of_mem_iff hnodup List.filter_sublist (h.ordered _ hpart)
    intro node
    rw [List.mem_filter, decide_eq_true_iff]
    constructor
    · rintro ⟨hnode, hconnected⟩
      exact (h.connected _ hpart first List.mem_cons_self node hnode).mpr hconnected
    · intro hnode
      have hmem := h.mem_nodes hpart hnode
      exact ⟨hmem, (h.connected _ hpart first List.mem_cons_self node hmem).mp hnode⟩
  rw [List.filterMap_congr hpart, List.filterMap_some]

theorem unique (hnodup : net.nodes.Nodup) (h' : net.Grouped parts') : parts = parts' := by
  have hfirsts : parts.filterMap List.head? = parts'.filterMap List.head? := by
    apply eq_of_sublist_of_mem_iff hnodup h.firsts h'.firsts
    intro node
    rw [List.mem_filterMap, List.mem_filterMap]
    constructor
    · rintro ⟨part, hpart, hhead⟩
      exact ⟨part, h.subset hnodup h' hpart, hhead⟩
    · rintro ⟨part, hpart, hhead⟩
      exact ⟨part, h'.subset hnodup h hpart, hhead⟩
  rw [h.eq_map_firsts hnodup, hfirsts, ← h'.eq_map_firsts hnodup]

end Grouped

def InTurn (net : Network) (keys : List String) : Prop :=
  ∃ parts, net.Grouped parts ∧ keys = parts.flatten

theorem InTurn.unique {keys keys' : List String} (hnodup : net.nodes.Nodup) (h : net.InTurn keys)
    (h' : net.InTurn keys') : keys = keys' := by
  obtain ⟨parts, hparts, rfl⟩ := h
  obtain ⟨parts', hparts', rfl⟩ := h'
  rw [hparts.unique hnodup hparts']

end Network

section

variable {ε α : Type} [Add α] [Sub α] [Mul α] [Div α] [LT α] [DecidableLT α] [BEq α] [NatCast α]
  {compass : Compass α} {measures : Measures ε α} {engine : Engine ε α} {net : Network}
  {given p : Placement α}

/-- The keys are all nodes, each of them once, in the only order that there is. -/
structure PlacedInTurn (net : Network) (keys : List String) : Prop where
  nodup : keys.Nodup
  mem_iff : ∀ node, node ∈ keys ↔ node ∈ net.nodes
  inTurn : net.InTurn keys
  only : ∀ other, net.InTurn other → other = keys

theorem placed_in_turn (hproper : net.Proper) (hfull : engine.Full)
    (h : arrange compass measures engine net given = .ok p) :
    PlacedInTurn net p.nodes ∧
      ∀ {compass' : Compass α} {measures' : Measures ε α} {engine' : Engine ε α}
        {given' p' : Placement α}, engine'.Full →
        arrange compass' measures' engine' net given' = .ok p' → p'.nodes = p.nodes := by
  have hgrouped := Network.components_grouped hproper
  have hinTurn : net.InTurn p.nodes := ⟨net.components, hgrouped, arrange_nodes hfull h⟩
  refine ⟨⟨?_, ?_, hinTurn, ?_⟩, ?_⟩
  · rw [arrange_nodes hfull h]
    exact hgrouped.disjoint
  · rw [arrange_nodes hfull h]
    exact hgrouped.covered
  · exact fun other hother => hother.unique hproper.nodup hinTurn
  · intro compass' measures' engine' given' p' hfull' h'
    rw [arrange_nodes hfull h, arrange_nodes hfull' h']

def crossed : Network :=
  .ofEdges ["a", "b", "c", "d"] [("c", "a"), ("d", "b"), ("b", "d"), ("d", "d")]

def crossedPlaces : Placement ℚ :=
  [("a", ⟨3, 1 / 2⟩), ("c", ⟨0, -1 / 2⟩), ("b", ⟨103, -1⟩), ("d", ⟨104, 1⟩)]

theorem placed_in_turn_crossed :
    crossed.Proper ∧
      (Engine.ofFunction fun _ _ start => start : Engine String ℚ).Full ∧
      arrange stillCompass (.ofNumbers (fun _ => 1) 1 100 id : Measures String ℚ)
        (.ofFunction fun _ _ start => start) crossed [("d", ⟨1, 2⟩), ("a", ⟨3, 1⟩)] =
        .ok crossedPlaces ∧
      PlacedInTurn crossed ["a", "c", "b", "d"] := by
  have hproper : crossed.Proper := Network.ofEdges_proper _ _
  have hfull : (Engine.ofFunction fun _ _ start => start : Engine String ℚ).Full := by
    rintro nodes adjacency start points hlength ⟨⟩
    exact hlength
  have harranged : arrange stillCompass (.ofNumbers (fun _ => 1) 1 100 id : Measures String ℚ)
      (.ofFunction fun _ _ start => start) crossed [("d", ⟨1, 2⟩), ("a", ⟨3, 1⟩)] =
      .ok crossedPlaces := by
    decide +kernel
  exact ⟨hproper, hfull, harranged, (placed_in_turn hproper hfull harranged).1⟩

end

end DependencyAtlas.Layout
