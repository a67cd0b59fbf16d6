import DependencyAtlas.Proofs.Layout.Coverage

namespace DependencyAtlas.Layout

section

variable {ε α : Type} [Mul α] {compass : Compass α} {measures : Measures ε α} {net : Network}
  {radius : α} {nodes : List String} {given given' seeds : Placement α}

def seated (compass : Compass α) (radius : α) (nodes : List String) (given : Placement α) :
    Placement α :=
  nodes.zipIdx.map fun entry =>
    (entry.1, (given.get? entry.1).getD (seat compass radius entry.2 nodes.length))

theorem seed_eq (given : Placement α) :
    seed compass measures net given =
      (measures.radius net.nodes.length).map (seated compass · net.nodes given) := by
  rw [seed]
  rcases measures.radius net.nodes.length <;> rfl

theorem seed_eq_ok_iff :
    seed compass measures net given = .ok seeds ↔
      ∃ radius, measures.radius net.nodes.length = .ok radius ∧
        seeds = seated compass radius net.nodes given := by
  rw [seed_eq]
  rcases measures.radius net.nodes.length with e | radius
  · simp [Except.map]
  · simp [Except.map, eq_comm]

theorem seated_nodes : (seated compass radius nodes given).nodes = nodes := by
  rw [Placement.nodes, seated, List.map_map]
  exact List.zipIdx_map_fst 0 nodes

theorem seated_get? (hnodup : nodes.Nodup) {i : Nat} {node : String} (hi : nodes[i]? = some node) :
    (seated compass radius nodes given).get? node =
      some ((given.get? node).getD (seat compass radius i nodes.length)) := by
  apply lookup_of_mem
  · rwa [← Placement.nodes, seated_nodes]
  · exact List.mem_map.mpr ⟨(node, i), List.mem_zipIdx_iff_getElem?.mpr hi, rfl⟩

theorem seated_congr (h : ∀ node ∈ nodes, given.get? node = given'.get? node) :
    seated compass radius nodes given = seated compass radius nodes given' := by
  apply List.map_congr_left
  rintro ⟨node, i⟩ hentry
  rw [h node (List.fst_mem_of_mem_zipIdx hentry)]

theorem seated_again (hnodup : nodes.Nodup) :
    seated compass radius nodes (seated compass radius nodes given) =
      seated compass radius nodes given := by
  apply List.map_congr_left
  rintro ⟨node, i⟩ hentry
  rw [seated_get? hnodup (List.mem_zipIdx_iff_getElem?.mp hentry), Option.getD_some]

theorem seed_congr (h : ∀ node ∈ net.nodes, given.get? node = given'.get? node) :
    seed compass measures net given = seed compass measures net given' := by
  rw [seed_eq, seed_eq]
  rcases measures.radius net.nodes.length with e | radius
  · rfl
  · simp only [Except.map, seated_congr h]

theorem seed_again (hnodup : net.nodes.Nodup) (h : seed compass measures net given = .ok seeds) :
    seed compass measures net seeds = .ok seeds := by
  obtain ⟨radius, hradius, rfl⟩ := seed_eq_ok_iff.mp h
  exact seed_eq_ok_iff.mpr ⟨radius, hradius, (seated_again hnodup).symm⟩

theorem seed_get? (hnodup : net.nodes.Nodup) (h : seed compass measures net given = .ok seeds)
    {node : String} (hnode : node ∈ net.nodes) (hgiven : node ∈ given.nodes) :
    seeds.get? node = given.get? node := by
  obtain ⟨radius, -, rfl⟩ := seed_eq_ok_iff.mp h
  obtain ⟨i, hi⟩ := List.mem_iff_getElem?.mp hnode
  obtain ⟨point, hpoint⟩ := Placement.get?_of_mem hgiven
  rw [seated_get? hnodup hi, hpoint, Option.getD_some]

theorem seed_seat (hnodup : net.nodes.Nodup) (h : seed compass measures net given = .ok seeds)
    {i : Nat} {node : String} (hi : net.nodes[i]? = some node) (hgiven : node ∉ given.nodes) :
    ∃ radius, measures.radius net.nodes.length = .ok radius ∧
      seeds.get? node = some (seat compass radius i net.nodes.length) := by
  obtain ⟨radius, hradius, rfl⟩ := seed_eq_ok_iff.mp h
  have hnone : given.get? node = none := lookup_eq_none_of_not_mem hgiven
  refine ⟨radius, hradius, ?_⟩
  rw [seated_get? hnodup hi, hnone, Option.getD_none]

end

section

variable {ε α : Type} [Add α] [Sub α] [Mul α] [Div α] [LT α] [DecidableLT α] [BEq α] [NatCast α]
  {compass : Compass α} {measures : Measures ε α} {engine : Engine ε α} {net : Network}
  {given given' seeds : Placement α}

theorem arrange_congr
    (h : seed compass measures net given = seed compass measures net given') :
    arrange compass measures engine net given = arrange compass measures engine net given' := by
  rw [arrange, arrange, h]

theorem arrange_of_unseeded {e : ε} (hne : net.nodes ≠ [])
    (h : seed compass measures net given = .error e) :
    arrange compass measures engine net given = .error e := by
  rw [arrange, if_neg (mt List.isEmpty_iff.mp hne), h]
  rfl

end

namespace Policy

variable {p : Policy} {count : Nat}

def HasLength (p : Policy) (count : Nat) : Prop :=
  (∃ x, p.idealEdgeLength = .float x) ∨
    ∃ n x, p.idealEdgeLength.int? = some n ∧ Decimal.ofInt? (count * n) = some x

theorem toDouble_int_eq_ok_iff {n : Int} {otherwise : Kind → Misuse} {x : Float} :
    (Value.int n).toDouble otherwise = .ok x ↔ Decimal.ofInt? n = some x := by
  rcases h : Decimal.ofInt? n with _ | y <;> simp [Value.toDouble, Value.int?, h]

theorem lengths_eq_ok_iff : (∃ x, p.lengths count = .ok x) ↔ p.HasLength count := by
  rw [lengths.eq_def, HasLength]
  split
  · next x h => simp [h]
  · next hfloat =>
    have hnever : ¬ ∃ x, p.idealEdgeLength = .float x := fun ⟨x, hx⟩ => hfloat x hx
    rw [or_iff_right hnever]
    cases p.idealEdgeLength.int? with
    | some n => simp [toDouble_int_eq_ok_iff]
    | none => cases p.idealEdgeLength.kind <;> simp

theorem radius_eq_ok_iff : (∃ r, p.radius count = .ok r) ↔ p.HasLength count := by
  rw [← lengths_eq_ok_iff, radius]
  rcases p.lengths count with e | x
  · constructor <;> rintro ⟨_, ⟨⟩⟩
  · refine ⟨fun _ => ⟨x, rfl⟩, fun _ => ?_⟩
    rcases p.idealEdgeLength.toDouble fun k => .operands "*" .int k <;> exact ⟨_, rfl⟩

theorem seed_eq_ok_iff {net : Network} {given : Placement Float} :
    (∃ seeds, p.seed net given = .ok seeds) ↔ p.HasLength net.nodes.length := by
  rw [← radius_eq_ok_iff]
  constructor
  · rintro ⟨seeds, hseeds⟩
    obtain ⟨radius, hradius, -⟩ := Layout.seed_eq_ok_iff.mp hseeds
    exact ⟨radius, mapError_eq_ok_iff.mp hradius⟩
  · rintro ⟨radius, hradius⟩
    exact ⟨_, Layout.seed_eq_ok_iff.mpr ⟨radius, mapError_eq_ok_iff.mpr hradius, rfl⟩⟩

end Policy

end DependencyAtlas.Layout
