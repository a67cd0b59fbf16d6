import DependencyAtlas.Proofs.Layout.Faults
import DependencyAtlas.Proofs.Lookup

namespace DependencyAtlas.Layout

theorem Placement.get?_of_mem {α : Type} {p : Placement α} {id : String} (h : id ∈ p.nodes) :
    ∃ point, p.get? id = some point :=
  exists_lookup_of_mem h

section

variable {α : Type} [BEq α] [LawfulBEq α]

theorem mem_addNew {xs : List α} {x y : α} : x ∈ addNew xs y ↔ x ∈ xs ∨ x = y := by
  rw [addNew]
  split
  · rename_i hy
    rw [List.contains_iff_mem] at hy
    constructor
    · exact .inl
    · rintro (h | rfl)
      · exact h
      · exact hy
  · rw [List.mem_append, List.mem_singleton]

theorem mem_foldl_addNew {xs ys : List α} {x : α} :
    x ∈ ys.foldl addNew xs ↔ x ∈ xs ∨ x ∈ ys := by
  induction ys generalizing xs with
  | nil => simp
  | cons y ys ih => rw [List.foldl_cons, ih, mem_addNew, List.mem_cons, or_assoc]

theorem mem_distinct {xs : List α} {x : α} : x ∈ distinct xs ↔ x ∈ xs := by
  simp [distinct, mem_foldl_addNew]

theorem foldl_addNew_of_known {xs ys : List α} (h : ∀ y ∈ ys, y ∈ xs) : ys.foldl addNew xs = xs := by
  induction ys with
  | nil => rfl
  | cons y ys ih =>
    have hy : addNew xs y = xs := by
      rw [addNew, if_pos (List.contains_iff_mem.mpr (h y List.mem_cons_self))]
    rw [List.foldl_cons, hy]
    exact ih fun z hz => h z (List.mem_cons_of_mem y hz)

theorem foldl_addNew_of_nodup {xs ys : List α} (h : (xs ++ ys).Nodup) :
    ys.foldl addNew xs = xs ++ ys := by
  induction ys generalizing xs with
  | nil => simp
  | cons y ys ih =>
    have hnew : y ∉ xs := fun hy => (List.nodup_append.mp h).2.2 y hy y List.mem_cons_self rfl
    have hy : addNew xs y = xs ++ [y] := by
      rw [addNew, if_neg (mt List.contains_iff_mem.mp hnew)]
    rw [List.foldl_cons, hy, ih, List.append_assoc, List.singleton_append]
    rwa [List.append_assoc, List.singleton_append]

end

namespace Network

theorem ofGraph_nodes {g : Graph} (hdistinct : g.nodeIds.Nodup)
    (hends : ∀ e ∈ g.edges, e.source ∈ g.nodeIds ∧ e.target ∈ g.nodeIds) :
    (ofGraph g).nodes = g.nodeIds := by
  have hknown : ∀ y ∈ (g.edges.map fun e => (e.source, e.target)).flatMap fun e => [e.1, e.2],
      y ∈ g.nodeIds := by
    simp only [List.flatMap_map, List.mem_flatMap]
    rintro y ⟨e, he, hy⟩
    rcases List.mem_pair.mp hy with rfl | rfl
    · exact (hends e he).1
    · exact (hends e he).2
  have hnodes : g.nodeIds.foldl addNew [] = g.nodeIds := foldl_addNew_of_nodup hdistinct
  rw [ofGraph, ofEdges]
  dsimp only
  rw [distinct, List.foldl_append, hnodes, foldl_addNew_of_known hknown]

theorem merge_nodes (marks : Marks) (e : String × String) :
    (marks.merge e).map Prod.fst = marks.map Prod.fst := by
  rw [Marks.merge]
  split
  · rw [List.map_map]
    rfl
  · rfl

theorem marks_nodes (net : Network) : net.marks.map Prod.fst = net.nodes := by
  have hfold (edges : List (String × String)) (marks : Marks) :
      (edges.foldl Marks.merge marks).map Prod.fst = marks.map Prod.fst := by
    induction edges generalizing marks with
    | nil => rfl
    | cons e edges ih => rw [List.foldl_cons, ih, merge_nodes]
  rw [marks, hfold, List.map_map]
  exact List.map_id _

theorem mem_components_flatten {net : Network} {id : String} :
    id ∈ net.components.flatten ↔ id ∈ net.nodes := by
  rw [← marks_nodes, components]
  simp only [List.mem_flatten, List.mem_map, mem_distinct]
  constructor
  · rintro ⟨_, ⟨mark, -, rfl⟩, hid⟩
    obtain ⟨m, hm, rfl⟩ := List.mem_map.mp hid
    exact ⟨m, (List.mem_filter.mp hm).1, rfl⟩
  · rintro ⟨m, hm, rfl⟩
    exact ⟨_, ⟨m.2, ⟨m, hm, rfl⟩, rfl⟩,
      List.mem_map.mpr ⟨m, List.mem_filter.mpr ⟨hm, beq_self_eq_true m.2⟩, rfl⟩⟩

end Network

section

variable {ε α : Type} {compass : Compass α} {measures : Measures ε α} {engine : Engine ε α}

def Engine.Full (engine : Engine ε α) : Prop :=
  ∀ nodes adjacency start points, start.length = nodes.length →
    engine nodes adjacency start = .ok points → points.length = nodes.length

theorem seed_nodes [Mul α] {net : Network} {given p : Placement α}
    (h : seed compass measures net given = .ok p) : p.nodes = net.nodes := by
  obtain ⟨radius, -, ⟨⟩⟩ := bind_eq_ok_iff.mp h
  rw [Placement.nodes, List.map_map]
  exact List.zipIdx_map_fst 0 _

theorem separateFrom_nodes [Add α] [Mul α] [BEq α] {seeds : Placement α} {count : Nat}
    {nodes : List String} {i : Nat} {taken : List (Point α)} {p : Placement α}
    (h : separateFrom compass measures seeds count i taken nodes = .ok p) : p.nodes = nodes := by
  induction nodes generalizing i taken p with
  | nil =>
    cases h
    rfl
  | cons node rest ih =>
    rw [separateFrom_cons] at h
    simp only [bind_eq_ok_iff] at h
    obtain ⟨_, -, _, -, others, hothers, ⟨⟩⟩ := h
    rw [Placement.nodes, List.map_cons, ← Placement.nodes, ih hothers]

theorem placeComponent_nodes [Add α] [Mul α] [BEq α] (hfull : engine.Full) {net : Network}
    {seeds : Placement α} {nodes : List String} {p : Placement α}
    (h : placeComponent compass measures engine net seeds nodes = .ok p) : p.nodes = nodes := by
  rw [placeComponent.eq_def] at h
  split at h
  · split at h
    · cases h
      rfl
    · cases h
  · simp only [bind_eq_ok_iff] at h
    obtain ⟨start, hstart, points, hpoints, ⟨⟩⟩ := h
    have hlength : start.points.length = nodes.length := by
      rw [← separateFrom_nodes hstart]
      simp only [Placement.points, Placement.nodes, List.length_map]
    exact List.map_fst_zip (Nat.le_of_eq (hfull _ _ _ _ hlength hpoints).symm)

theorem settle_nodes [Add α] [Sub α] [Div α] [LT α] [DecidableLT α] [NatCast α] (offset : α)
    (p : Placement α) : (settle offset p).nodes = p.nodes := by
  simp only [settle, Placement.nodes, List.map_map]
  rfl

variable [Add α] [Sub α] [Mul α] [Div α] [LT α] [DecidableLT α] [BEq α] [NatCast α]

theorem pack_nodes (hfull : engine.Full) {net : Network} {seeds : Placement α}
    {components : List (List String)} {offset : α} {p : Placement α}
    (h : pack compass measures engine net seeds offset components = .ok p) :
    p.nodes = components.flatten := by
  induction components generalizing offset p with
  | nil =>
    cases h
    rfl
  | cons nodes rest ih =>
    simp only [pack, bind_eq_ok_iff] at h
    obtain ⟨placed, hplaced, _, -, others, hothers, ⟨⟩⟩ := h
    have hfirst := placeComponent_nodes hfull hplaced
    have hrest := ih hothers
    rw [Placement.nodes, List.map_append, ← Placement.nodes, ← Placement.nodes, settle_nodes, hfirst,
      hrest, List.flatten_cons]

theorem arrange_nodes (hfull : engine.Full) {net : Network} {given p : Placement α}
    (h : arrange compass measures engine net given = .ok p) : p.nodes = net.components.flatten := by
  rw [arrange] at h
  split at h
  · rename_i hempty
    cases h
    have hnone : net.components.flatten = [] := by
      apply List.eq_nil_iff_forall_not_mem.mpr
      intro id hid
      rw [Network.mem_components_flatten, List.isEmpty_iff.mp hempty] at hid
      cases hid
    rw [hnone]
    rfl
  · obtain ⟨seeds, -, hpack⟩ := bind_eq_ok_iff.mp h
    exact pack_nodes hfull hpack

end

structure Measures.Computes {ε α : Type} (measures : Measures ε α) (count : Nat) : Prop where
  radius : ∃ r, measures.radius count = .ok r
  gap : ∃ d, measures.gap = .ok d
  spacing : ∃ d, measures.spacing = .ok d

section

variable {ε α : Type} {compass : Compass α} {measures : Measures ε α} {engine : Engine ε α}

theorem apart_eq [Add α] [Mul α] [BEq α] {gap : α} (hgap : measures.gap = .ok gap)
    (taken : List (Point α)) (p : Point α) (i n : Nat) :
    apart compass measures taken p i n =
      .ok (if taken.any p.same then p.toward compass gap i n else p) := by
  rw [apart]
  split
  · rw [hgap]
    rfl
  · rfl

theorem separateFrom_cons_of_apart [Add α] [Mul α] [BEq α] {seeds others : Placement α} {n i : Nat}
    {taken : List (Point α)} {p q : Point α} {node : String} {rest : List String}
    (hp : seeds.get? node = some p) (hq : apart compass measures taken p i n = .ok q)
    (hothers : separateFrom compass measures seeds n (i + 1) (q :: taken) rest = .ok others) :
    separateFrom compass measures seeds n i taken (node :: rest) = .ok ((node, q) :: others) := by
  rw [separateFrom_cons, placed, hp]
  dsimp only
  rw [ok_bind, hq, ok_bind, hothers, ok_bind]
  rfl

theorem separateFrom_eq_ok [Add α] [Mul α] [BEq α] {gap : α} (hgap : measures.gap = .ok gap)
    {seeds : Placement α} {nodes : List String} (hknown : ∀ node ∈ nodes, node ∈ seeds.nodes)
    (n i : Nat) (taken : List (Point α)) :
    ∃ p, separateFrom compass measures seeds n i taken nodes = .ok p := by
  induction nodes generalizing i taken with
  | nil => exact ⟨[], rfl⟩
  | cons node rest ih =>
    obtain ⟨p, hp⟩ := Placement.get?_of_mem (hknown node List.mem_cons_self)
    obtain ⟨others, hothers⟩ := ih (fun other h => hknown other (List.mem_cons_of_mem node h)) (i + 1)
      ((if taken.any p.same then p.toward compass gap i n else p) :: taken)
    exact ⟨_, separateFrom_cons_of_apart hp (apart_eq hgap taken p i n) hothers⟩

variable {count : Nat} (hm : measures.Computes count)
  (hengine : ∀ nodes adjacency start, ∃ points, engine nodes adjacency start = .ok points)

include hm hengine

theorem placeComponent_eq_ok [Add α] [Mul α] [BEq α] {net : Network} {seeds : Placement α}
    {nodes : List String} (hknown : ∀ node ∈ nodes, node ∈ seeds.nodes) :
    ∃ p, placeComponent compass measures engine net seeds nodes = .ok p := by
  rw [placeComponent.eq_def]
  split
  · obtain ⟨p, hp⟩ := Placement.get?_of_mem (hknown _ List.mem_cons_self)
    rw [hp]
    exact ⟨_, rfl⟩
  · obtain ⟨gap, hgap⟩ := hm.gap
    obtain ⟨start, hstart⟩ := separateFrom_eq_ok hgap hknown nodes.length 0 []
    obtain ⟨points, hpoints⟩ := hengine nodes (net.adjacency nodes) start.points
    exact ⟨nodes.zip points, bind_eq_ok_iff.mpr ⟨start, hstart,
      bind_eq_ok_iff.mpr ⟨points, hpoints, rfl⟩⟩⟩

variable [Add α] [Sub α] [Mul α] [Div α] [LT α] [DecidableLT α] [BEq α] [NatCast α]

theorem pack_eq_ok {net : Network} {seeds : Placement α} {components : List (List String)}
    (hknown : ∀ nodes ∈ components, ∀ node ∈ nodes, node ∈ seeds.nodes) (offset : α) :
    ∃ p, pack compass measures engine net seeds offset components = .ok p := by
  induction components generalizing offset with
  | nil => exact ⟨[], rfl⟩
  | cons nodes rest ih =>
    obtain ⟨placed, hplaced⟩ := placeComponent_eq_ok hm hengine (hknown nodes List.mem_cons_self)
    obtain ⟨spacing, hspacing⟩ := hm.spacing
    obtain ⟨others, hothers⟩ :=
      ih (fun other h => hknown other (List.mem_cons_of_mem nodes h))
        (offset + ((spans ((0 : Nat) : α) placed).1.length + spacing))
    refine ⟨settle offset placed ++ others, ?_⟩
    rw [pack, hplaced, ok_bind]
    dsimp only
    rw [hspacing, ok_bind, hothers, ok_bind]
    rfl

theorem arrange_eq_ok {net : Network} (hcount : net.nodes.length = count) (given : Placement α) :
    ∃ p, arrange compass measures engine net given = .ok p := by
  rw [arrange]
  split
  · exact ⟨[], rfl⟩
  · obtain ⟨radius, hradius⟩ := hm.radius
    obtain ⟨seeds, hseeds⟩ : ∃ seeds, seed compass measures net given = .ok seeds :=
      ⟨_, bind_eq_ok_iff.mpr ⟨radius, hcount ▸ hradius, rfl⟩⟩
    rw [hseeds, ok_bind]
    apply pack_eq_ok hm hengine
    intro nodes hnodes node hnode
    rw [seed_nodes hseeds, ← Network.mem_components_flatten]
    exact List.mem_flatten.mpr ⟨nodes, hnodes, hnode⟩

end

end DependencyAtlas.Layout
