import DependencyAtlas.Proofs.Layout.Coverage
import Mathlib.Data.List.Induction
import Mathlib.Logic.Relation

/-!
Components. Merging marks edge by edge gives two nodes the same mark exactly if there is a path between
them, so the components are the largest groups of connected nodes; their nodes, and their first nodes, stand
in the order of all nodes.
-/

namespace DependencyAtlas.Layout

section

variable {α : Type} [BEq α] [LawfulBEq α]

theorem addNew_nodup {xs : List α} (h : xs.Nodup) (x : α) : (addNew xs x).Nodup := by
  rw [addNew]
  split
  · exact h
  · rename_i hnew
    refine List.nodup_append.mpr ⟨h, List.nodup_singleton x, ?_⟩
    intro y hy z hz
    rw [List.mem_singleton.mp hz]
    rintro rfl
    exact hnew (List.contains_iff_mem.mpr hy)

theorem distinct_nodup (xs : List α) : (distinct xs).Nodup := by
  have hfold (ys acc : List α) (h : acc.Nodup) : (ys.foldl addNew acc).Nodup := by
    induction ys generalizing acc with
    | nil => exact h
    | cons y ys ih => exact ih _ (addNew_nodup h y)
  exact hfold xs [] List.nodup_nil

omit [LawfulBEq α] in
theorem distinct_concat (xs : List α) (x : α) : distinct (xs ++ [x]) = addNew (distinct xs) x := by
  rw [distinct, List.foldl_append]
  rfl

end

namespace Network

structure Proper (net : Network) : Prop where
  nodup : net.nodes.Nodup
  ends : ∀ e ∈ net.edges, e.1 ∈ net.nodes ∧ e.2 ∈ net.nodes

theorem ofEdges_proper (nodes : List String) (edges : List (String × String)) :
    (ofEdges nodes edges).Proper where
  nodup := distinct_nodup _
  ends e he := by
    have hends (node : String) (h : node ∈ [e.1, e.2]) : node ∈ (ofEdges nodes edges).nodes :=
      mem_distinct.mpr (List.mem_append_right _ (List.mem_flatMap.mpr ⟨e, he, h⟩))
    exact ⟨hends e.1 List.mem_cons_self, hends e.2 (List.mem_cons_of_mem _ List.mem_cons_self)⟩

def Connected (net : Network) : String → String → Prop :=
  Relation.EqvGen fun u v => (u, v) ∈ net.edges

section

variable {marks : Marks} {e : String × String} {u v : String}

theorem lookup_merge {a b : String} (hu : marks.lookup e.1 = some a) (hv : marks.lookup e.2 = some b)
    (node : String) :
    (marks.merge e).lookup node = (marks.lookup node).map fun m => if m == b then a else m := by
  rw [Marks.merge, hu, hv]
  exact lookup_map (fun m => if m == b then a else m) node marks

theorem merge_keeps_same (h : marks.lookup u = marks.lookup v) :
    (marks.merge e).lookup u = (marks.merge e).lookup v := by
  rcases hfirst : marks.lookup e.1 with _ | a
  · rw [Marks.merge, hfirst]
    exact h
  · rcases hsecond : marks.lookup e.2 with _ | b
    · rw [Marks.merge, hfirst, hsecond]
      exact h
    · rw [lookup_merge hfirst hsecond, lookup_merge hfirst hsecond, h]

theorem merge_joins (hu : e.1 ∈ marks.map Prod.fst) (hv : e.2 ∈ marks.map Prod.fst) :
    (marks.merge e).lookup e.1 = (marks.merge e).lookup e.2 := by
  obtain ⟨a, ha⟩ := exists_lookup_of_mem hu
  obtain ⟨b, hb⟩ := exists_lookup_of_mem hv
  rw [lookup_merge ha hb, lookup_merge ha hb, ha, hb]
  simp

def Anchored (net : Network) (marks : Marks) : Prop :=
  ∀ node mark, marks.lookup node = some mark → net.Connected node mark

theorem merge_anchored {net : Network} (h : net.Anchored marks) (he : e ∈ net.edges) :
    net.Anchored (marks.merge e) := by
  intro node mark hmark
  rcases hfirst : marks.lookup e.1 with _ | a
  · rw [Marks.merge, hfirst] at hmark
    exact h node mark hmark
  rcases hsecond : marks.lookup e.2 with _ | b
  · rw [Marks.merge, hfirst, hsecond] at hmark
    exact h node mark hmark
  rw [lookup_merge hfirst hsecond] at hmark
  obtain ⟨m, hm, hmark⟩ := Option.map_eq_some_iff.mp hmark
  split at hmark
  · next heq =>
    -- The node was marked like the second end, so it is connected with the first one through the edge.
    subst hmark
    rw [beq_iff_eq.mp heq] at hm
    have hedge : net.Connected e.1 e.2 := .rel _ _ he
    have hsecond' : net.Connected node e.2 := (h node b hm).trans _ _ _ ((h e.2 b hsecond).symm _ _)
    exact (hsecond'.trans _ _ _ (hedge.symm _ _)).trans _ _ _ (h e.1 a hfirst)
  · subst hmark
    exact h node m hm

end

variable {net : Network} {u v : String}

theorem marks_anchored (net : Network) : net.Anchored net.marks := by
  have hfold (edges : List (String × String)) (marks : Marks) (h : net.Anchored marks)
      (hedges : ∀ e ∈ edges, e ∈ net.edges) : net.Anchored (edges.foldl Marks.merge marks) := by
    induction edges generalizing marks with
    | nil => exact h
    | cons e edges ih =>
      apply ih _ (merge_anchored h (hedges e List.mem_cons_self))
      exact fun e' he' => hedges e' (List.mem_cons_of_mem e he')
  refine hfold net.edges _ ?_ fun e he => he
  intro node mark hmark
  obtain ⟨n, -, heq⟩ := List.mem_map.mp (mem_of_lookup hmark)
  cases heq
  exact .refl _

theorem merges_keep_same (edges : List (String × String)) {marks : Marks}
    (h : marks.lookup u = marks.lookup v) :
    (edges.foldl Marks.merge marks).lookup u = (edges.foldl Marks.merge marks).lookup v := by
  induction edges generalizing marks with
  | nil => exact h
  | cons e edges ih => exact ih (merge_keeps_same h)

theorem marks_join (hproper : net.Proper) {e : String × String} (he : e ∈ net.edges) :
    net.marks.lookup e.1 = net.marks.lookup e.2 := by
  have hends := hproper.ends e he
  have hfold (edges : List (String × String)) (marks : Marks) (hmarks : marks.map Prod.fst = net.nodes)
      (he : e ∈ edges) :
      (edges.foldl Marks.merge marks).lookup e.1 = (edges.foldl Marks.merge marks).lookup e.2 := by
    induction edges generalizing marks with
    | nil => cases he
    | cons first edges ih =>
      rcases List.mem_cons.mp he with heq | he
      · subst heq
        rw [List.foldl_cons]
        apply merges_keep_same
        apply merge_joins
        · rw [hmarks]
          exact hends.1
        · rw [hmarks]
          exact hends.2
      · exact ih _ ((merge_nodes marks first).trans hmarks) he
  refine hfold net.edges _ ?_ he
  rw [List.map_map]
  exact List.map_id _

theorem marks_eq_of_connected (hproper : net.Proper) (h : net.Connected u v) :
    net.marks.lookup u = net.marks.lookup v := by
  induction h with
  | rel u v he => exact marks_join hproper he
  | refl u => rfl
  | symm u v _ ih => exact ih.symm
  | trans u v w _ _ ihu ihv => exact ihu.trans ihv

theorem marks_eq_iff (hproper : net.Proper) (hu : u ∈ net.nodes) :
    net.marks.lookup u = net.marks.lookup v ↔ net.Connected u v := by
  constructor
  · intro h
    obtain ⟨mark, hmark⟩ := exists_lookup_of_mem (net.marks_nodes ▸ hu)
    have hv : net.Connected v mark := marks_anchored net v mark (h ▸ hmark)
    exact (marks_anchored net u mark hmark).trans _ _ _ (hv.symm _ _)
  · exact marks_eq_of_connected hproper

def group (marks : Marks) (mark : String) : List String :=
  (marks.filter fun m => m.2 == mark).map Prod.fst

theorem components_eq (net : Network) :
    net.components = (distinct (net.marks.map Prod.snd)).map (group net.marks) := rfl

theorem mem_group {marks : Marks} {mark node : String} :
    node ∈ group marks mark ↔ (node, mark) ∈ marks := by
  simp [group]

theorem group_ne_nil {marks : Marks} {mark : String} (h : mark ∈ distinct (marks.map Prod.snd)) :
    group marks mark ≠ [] := by
  rw [mem_distinct] at h
  obtain ⟨⟨node, _⟩, hm, rfl⟩ := List.mem_map.mp h
  exact List.ne_nil_of_mem (mem_group.mpr hm)

theorem group_eq_nil {marks : Marks} {mark : String} (h : mark ∉ distinct (marks.map Prod.snd)) :
    group marks mark = [] := by
  rw [mem_distinct] at h
  apply List.eq_nil_iff_forall_not_mem.mpr
  intro node hnode
  exact h (List.mem_map_of_mem (mem_group.mp hnode))

theorem group_concat (marks : Marks) (m : String × String) (mark : String) :
    group (marks ++ [m]) mark = group marks mark ++ if m.2 == mark then [m.1] else [] := by
  rw [group, List.filter_append, List.map_append, group]
  cases h : m.2 == mark <;> simp [h]

theorem group_sublist (marks : Marks) (mark : String) :
    (group marks mark).Sublist (marks.map Prod.fst) :=
  List.filter_sublist.map Prod.fst

theorem firsts_sublist (marks : Marks) :
    ((distinct (marks.map Prod.snd)).filterMap fun mark => (group marks mark).head?).Sublist
      (marks.map Prod.fst) := by
  -- By induction from the end: a new node is the first one of its group or comes after that one.
  induction marks using List.reverseRecOn with
  | nil => exact List.Sublist.refl _
  | append_singleton marks m ih =>
    have hkept : ((distinct (marks.map Prod.snd)).filterMap fun mark =>
        (group (marks ++ [m]) mark).head?) =
        (distinct (marks.map Prod.snd)).filterMap fun mark => (group marks mark).head? := by
      apply List.filterMap_congr
      intro mark hmark
      rw [group_concat, List.head?_append_of_ne_nil _ (group_ne_nil hmark)]
    rw [List.map_append, List.map_append, List.map_singleton, List.map_singleton, distinct_concat, addNew]
    split
    · rw [hkept]
      exact ih.trans (List.sublist_append_left _ _)
    · rename_i hnew
      have hfirst : [m.2].filterMap (fun mark => (group (marks ++ [m]) mark).head?) = [m.1] := by
        simp [group_concat, group_eq_nil (mt List.contains_iff_mem.mpr hnew)]
      rw [List.filterMap_append, hkept, hfirst]
      exact ih.append (List.Sublist.refl _)

/-- The parts are the largest groups of connected nodes; the nodes of each part stand in the order of all
nodes, and so do the first nodes of the parts. -/
structure Grouped (net : Network) (parts : List (List String)) : Prop where
  nonempty : ∀ part ∈ parts, part ≠ []
  covered : ∀ node, node ∈ parts.flatten ↔ node ∈ net.nodes
  disjoint : parts.flatten.Nodup
  connected : ∀ part ∈ parts, ∀ u ∈ part, ∀ v, v ∈ net.nodes → (v ∈ part ↔ net.Connected u v)
  ordered : ∀ part ∈ parts, part.Sublist net.nodes
  firsts : (parts.filterMap List.head?).Sublist net.nodes

theorem components_grouped (hproper : net.Proper) : net.Grouped net.components := by
  have hnodup : (net.marks.map Prod.fst).Nodup := by
    rw [marks_nodes]
    exact hproper.nodup
  have hmarked {node mark : String} : node ∈ group net.marks mark ↔ net.marks.lookup node = some mark := by
    rw [mem_group, lookup_eq_some_iff_mem hnodup]
  constructor
  · rw [components_eq]
    intro part hpart
    obtain ⟨mark, hmark, rfl⟩ := List.mem_map.mp hpart
    exact group_ne_nil hmark
  · exact fun node => mem_components_flatten
  · rw [components_eq, List.nodup_flatten]
    constructor
    · intro part hpart
      obtain ⟨mark, -, rfl⟩ := List.mem_map.mp hpart
      exact hnodup.sublist (group_sublist _ _)
    · rw [List.pairwise_map]
      apply (distinct_nodup _).imp
      intro mark other hne node hmark hother
      exact hne (Option.some.inj ((hmarked.mp hmark).symm.trans (hmarked.mp hother)))
  · rw [components_eq]
    intro part hpart u hu v hv
    obtain ⟨mark, -, rfl⟩ := List.mem_map.mp hpart
    have hunode : u ∈ net.nodes := by
      rw [← marks_nodes]
      exact List.mem_map_of_mem (mem_group.mp hu)
    rw [hmarked, ← marks_eq_iff hproper hunode, hmarked.mp hu, eq_comm]
  · rw [components_eq, ← marks_nodes]
    intro part hpart
    obtain ⟨mark, -, rfl⟩ := List.mem_map.mp hpart
    exact group_sublist _ _
  · rw [components_eq, ← marks_nodes, List.filterMap_map]
    exact firsts_sublist _

end Network

end DependencyAtlas.Layout
