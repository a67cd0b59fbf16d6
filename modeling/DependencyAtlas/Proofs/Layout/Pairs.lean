import DependencyAtlas.Proofs.Layout.Order

namespace DependencyAtlas.Layout

open Relation (EqvGen)

def Joins (edges : List (String × String)) (u v : String) : Prop :=
  (u, v) ∈ edges ∨ (v, u) ∈ edges

def SamePairs (edges edges' : List (String × String)) : Prop :=
  ∀ u v, u ≠ v → (Joins edges u v ↔ Joins edges' u v)

theorem samePairs_equivalence : Equivalence SamePairs where
  refl _ _ _ _ := Iff.rfl
  symm h u v hne := (h u v hne).symm
  trans h h' u v hne := (h u v hne).trans (h' u v hne)

inductive Redrawn (nodes : List String) :
    List (String × String) → List (String × String) → Prop
  | turned (u v : String) (edges : List (String × String)) :
    Redrawn nodes ((u, v) :: edges) ((v, u) :: edges)
  | doubled {e : String × String} {edges : List (String × String)} (he : e ∈ edges) :
    Redrawn nodes edges (e :: edges)
  | looped {node : String} (hnode : node ∈ nodes) (edges : List (String × String)) :
    Redrawn nodes edges ((node, node) :: edges)
  | moved {edges edges' : List (String × String)} (h : edges.Perm edges') :
    Redrawn nodes edges edges'

section

variable {nodes : List String} {edges edges' : List (String × String)}

theorem Redrawn.samePairs (h : Redrawn nodes edges edges') : SamePairs edges edges' := by
  intro u v hne
  cases h with
  | turned a b rest =>
    simp only [Joins, List.mem_cons, Prod.mk.injEq]
    tauto
  | doubled he =>
    simp only [Joins, List.mem_cons]
    constructor
    · exact Or.imp .inr .inr
    · rintro ((rfl | h) | (rfl | h))
      · exact .inl he
      · exact .inl h
      · exact .inr he
      · exact .inr h
  | @looped node _ _ =>
    have hother {x y : String} (hxy : x ≠ y) : (x, y) ≠ (node, node) := by
      rintro ⟨⟩
      exact hxy rfl
    simp only [Joins, List.mem_cons, hother hne, hother hne.symm, false_or]
  | moved h => rw [Joins, Joins, h.mem_iff, h.mem_iff]

theorem redrawn_append
    (h : ∀ e ∈ edges', (e.1 = e.2 ∧ e.1 ∈ nodes) ∨ Joins edges e.1 e.2) :
    EqvGen (Redrawn nodes) edges (edges' ++ edges) := by
  induction edges' with
  | nil => exact .refl _
  | cons e rest ih =>
    obtain ⟨he, hrest⟩ := List.forall_mem_cons.mp h
    obtain ⟨u, v⟩ := e
    refine (ih hrest).trans _ _ _ ?_
    rcases he with ⟨hloop, hnode⟩ | hthere | hback
    · obtain rfl : u = v := hloop
      exact .rel _ _ (.looped hnode _)
    · exact .rel _ _ (.doubled (List.mem_append_right rest hthere))
    · have hdoubled : Redrawn nodes (rest ++ edges) ((v, u) :: (rest ++ edges)) :=
        .doubled (List.mem_append_right rest hback)
      exact (EqvGen.rel _ _ hdoubled).trans _ _ _ (.rel _ _ (.turned v u _))

theorem samePairs_iff_redrawn (hends : ∀ e ∈ edges, e.1 ∈ nodes) (hends' : ∀ e ∈ edges', e.1 ∈ nodes) :
    SamePairs edges edges' ↔ EqvGen (Redrawn nodes) edges edges' := by
  constructor
  · intro h
    have hadded {xs ys : List (String × String)} (hxy : SamePairs xs ys) (hys : ∀ e ∈ ys, e.1 ∈ nodes) :
        EqvGen (Redrawn nodes) xs (ys ++ xs) := by
      apply redrawn_append
      intro e he
      by_cases hloop : e.1 = e.2
      · exact .inl ⟨hloop, hys e he⟩
      · exact .inr ((hxy e.1 e.2 hloop).mpr (.inl he))
    -- Both lists can be changed into the one with all edges of both.
    have hall : EqvGen (Redrawn nodes) (edges' ++ edges) (edges ++ edges') :=
      .rel _ _ (.moved List.perm_append_comm)
    have hback := hadded (samePairs_equivalence.symm h) hends
    exact ((hadded h hends').trans _ _ _ hall).trans _ _ _ (hback.symm _ _)
  · intro h
    apply samePairs_equivalence.eqvGen_iff.mp
    exact EqvGen.mono (fun _ _ => Redrawn.samePairs) _ _ h

end

namespace Network

variable {net net' : Network}

theorem joined_iff {u v : String} : net.joined u v = true ↔ u ≠ v ∧ Joins net.edges u v := by
  simp only [joined, Joins, Bool.and_eq_true, Bool.or_eq_true, bne_iff_ne, List.any_eq_true, beq_iff_eq,
    Prod.exists]
  grind

theorem adjacency_congr {nodes : List String}
    (h : ∀ u ∈ nodes, ∀ v ∈ nodes, net.joined u v = net'.joined u v) :
    net.adjacency nodes = net'.adjacency nodes :=
  List.map_congr_left fun u hu => List.map_congr_left fun v hv => h u hu v hv

theorem joined_of_samePairs (h : SamePairs net.edges net'.edges) (u v : String) :
    net.joined u v = net'.joined u v := by
  rw [Bool.eq_iff_iff, joined_iff, joined_iff]
  exact and_congr_right (h u v)

theorem connected_of_samePairs (h : SamePairs net.edges net'.edges) {u v : String}
    (hconnected : net.Connected u v) : net'.Connected u v := by
  induction hconnected with
  | rel u v he =>
    by_cases hloop : u = v
    · rw [hloop]
      exact .refl v
    · rcases (h u v hloop).mp (.inl he) with hthere | hback
      · exact .rel u v hthere
      · exact (EqvGen.rel v u hback).symm
  | refl u => exact .refl u
  | symm u v _ ih => exact ih.symm
  | trans u v w _ _ ihu ihv => exact ihu.trans _ _ _ ihv

theorem Grouped.congr (hnodes : net'.nodes = net.nodes)
    (hconnected : ∀ u v, net'.Connected u v ↔ net.Connected u v) {parts : List (List String)}
    (h : net.Grouped parts) : net'.Grouped parts where
  nonempty := h.nonempty
  covered := hnodes ▸ h.covered
  disjoint := h.disjoint
  connected part hpart u hu v hv :=
    (h.connected part hpart u hu v (hnodes ▸ hv)).trans (hconnected u v).symm
  ordered := hnodes ▸ h.ordered
  firsts := hnodes ▸ h.firsts

theorem components_of_samePairs (hproper : net.Proper) (hproper' : net'.Proper)
    (hnodes : net'.nodes = net.nodes) (h : SamePairs net.edges net'.edges) :
    net.components = net'.components := by
  have hgrouped : net'.Grouped net.components := by
    apply (components_grouped hproper).congr hnodes
    intro u v
    exact ⟨connected_of_samePairs (samePairs_equivalence.symm h), connected_of_samePairs h⟩
  exact hgrouped.unique hproper'.nodup (components_grouped hproper')

end Network

section

variable {ε α : Type} [Add α] [Mul α] [BEq α] {compass : Compass α} {measures : Measures ε α}
  {engine : Engine ε α} {net net' : Network} {seeds seeds' : Placement α}

theorem separateFrom_congr {nodes : List String} (h : ∀ node ∈ nodes, seeds.get? node = seeds'.get? node)
    (count i : Nat) (taken : List (Point α)) :
    separateFrom compass measures seeds count i taken nodes =
      separateFrom compass measures seeds' count i taken nodes := by
  induction nodes generalizing i taken with
  | nil => rfl
  | cons node rest ih =>
    obtain ⟨hnode, hrest⟩ := List.forall_mem_cons.mp h
    simp only [separateFrom_cons, placed, hnode, ih hrest]

theorem placeComponent_congr {nodes : List String}
    (hjoined : ∀ u ∈ nodes, ∀ v ∈ nodes, net.joined u v = net'.joined u v)
    (hseeds : ∀ node ∈ nodes, seeds.get? node = seeds'.get? node) :
    placeComponent compass measures engine net seeds nodes =
      placeComponent compass measures engine net' seeds' nodes := by
  rw [placeComponent.eq_def, placeComponent.eq_def]
  split
  · rw [hseeds _ List.mem_cons_self]
  · rw [separate, separate, separateFrom_congr hseeds, Network.adjacency_congr hjoined]

variable [Sub α] [Div α] [LT α] [DecidableLT α] [NatCast α]

theorem pack_congr {parts : List (List String)}
    (h : ∀ part ∈ parts, placeComponent compass measures engine net seeds part =
      placeComponent compass measures engine net' seeds' part) (offset : α) :
    pack compass measures engine net seeds offset parts =
      pack compass measures engine net' seeds' offset parts := by
  induction parts generalizing offset with
  | nil => rfl
  | cons part rest ih =>
    obtain ⟨hpart, hrest⟩ := List.forall_mem_cons.mp h
    simp only [pack, hpart, ih hrest]

theorem arrange_of_samePairs (hproper : net.Proper) (hproper' : net'.Proper)
    (hnodes : net'.nodes = net.nodes) (h : SamePairs net.edges net'.edges) (given : Placement α) :
    arrange compass measures engine net given = arrange compass measures engine net' given := by
  have hjoined := Network.joined_of_samePairs h
  have hseed : seed compass measures net given = seed compass measures net' given := by
    rw [seed, seed, hnodes]
  have hpack (seeds : Placement α) (offset : α) (parts : List (List String)) :
      pack compass measures engine net seeds offset parts =
        pack compass measures engine net' seeds offset parts :=
    pack_congr (fun _ _ => placeComponent_congr (fun u _ v _ => hjoined u v) fun _ _ => rfl) offset
  rw [arrange, arrange, hnodes, hseed, Network.components_of_samePairs hproper hproper' hnodes h]
  simp only [hpack]

/-- Networks of the same nodes in which the same pairs of nodes are joined are arranged alike, by the springs of
any policy and by whatever engine else. They are those that come from each other by turning, doubling and
moving edges and by edges that lead back to their source. -/
theorem only_pairs_matter (hproper : net.Proper) (hproper' : net'.Proper)
    (hnodes : net'.nodes = net.nodes) :
    (SamePairs net.edges net'.edges ↔ EqvGen (Redrawn net.nodes) net.edges net'.edges) ∧
      (SamePairs net.edges net'.edges →
        (∀ (policy : Policy) (given : Placement Float),
          policy.arrange net given = policy.arrange net' given) ∧
        ∀ (compass : Compass α) (measures : Measures ε α) (engine : Engine ε α)
          (given : Placement α),
          arrange compass measures engine net given = arrange compass measures engine net' given) := by
  have hends : ∀ e ∈ net.edges, e.1 ∈ net.nodes := fun e he => (hproper.ends e he).1
  have hends' : ∀ e ∈ net'.edges, e.1 ∈ net.nodes := fun e he => hnodes ▸ (hproper'.ends e he).1
  refine ⟨samePairs_iff_redrawn hends hends', fun h => ⟨fun policy given => ?_, ?_⟩⟩
  · exact arrange_of_samePairs hproper hproper' hnodes h given
  · intro compass measures engine given
    exact arrange_of_samePairs hproper hproper' hnodes h given

end

def path : Network :=
  ⟨["a", "b", "c"], [("a", "b"), ("b", "c")]⟩

def redrawnPath : Network :=
  ⟨["a", "b", "c"], [("c", "b"), ("b", "b"), ("b", "a"), ("b", "c")]⟩

theorem only_pairs_matter_path :
    path.Proper ∧ redrawnPath.Proper ∧ redrawnPath.nodes = path.nodes ∧
      SamePairs path.edges redrawnPath.edges ∧
      ∀ (policy : Policy) (given : Placement Float),
        policy.arrange path given = policy.arrange redrawnPath given := by
  have hproper : path.Proper := ⟨by decide, by decide⟩
  have hproper' : redrawnPath.Proper := ⟨by decide, by decide⟩
  have hpairs : SamePairs path.edges redrawnPath.edges := by
    intro u v hne
    simp only [path, redrawnPath, Joins, List.mem_cons, Prod.mk.injEq, List.not_mem_nil]
    grind
  obtain ⟨-, halike⟩ :=
    only_pairs_matter (ε := String) (α := Rat) hproper hproper' rfl
  exact ⟨hproper, hproper', rfl, hpairs, (halike hpairs).1⟩

end DependencyAtlas.Layout
