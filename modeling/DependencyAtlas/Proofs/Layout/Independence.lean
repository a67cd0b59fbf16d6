import DependencyAtlas.Proofs.Layout.Pairs
import DependencyAtlas.Proofs.Layout.Seeding

/-!
Components do not influence each other. Each stands in an arrangement as it stands when its part of the network
is arranged alone, but for its distance from the left, which is how wide the components before it are, with the
space behind each of them.
-/

namespace DependencyAtlas.Layout

namespace Network

def restrict (net : Network) (part : List String) : Network where
  nodes := net.nodes.filter part.contains
  edges := net.edges.filter fun e => part.contains e.1 && part.contains e.2

variable {net : Network} {parts : List (List String)} {part : List String}

theorem mem_restrict_edges {e : String × String} :
    e ∈ (net.restrict part).edges ↔ e ∈ net.edges ∧ e.1 ∈ part ∧ e.2 ∈ part := by
  rw [restrict, List.mem_filter, Bool.and_eq_true, List.contains_iff_mem, List.contains_iff_mem]

theorem restrict_joined {u v : String} (hu : u ∈ part) (hv : v ∈ part) :
    (net.restrict part).joined u v = net.joined u v := by
  rw [Bool.eq_iff_iff, joined_iff, joined_iff, Joins, Joins, mem_restrict_edges, mem_restrict_edges]
  simp only [hu, hv, and_true]

namespace Grouped

variable (hproper : net.Proper) (h : net.Grouped parts) (hpart : part ∈ parts)

include hproper h hpart

theorem restrict_nodes : (net.restrict part).nodes = part :=
  filter_contains_of_sublist (h.ordered part hpart) hproper.nodup

theorem restrict_proper : (net.restrict part).Proper where
  nodup := hproper.nodup.sublist List.filter_sublist
  ends e he := by
    rw [h.restrict_nodes hproper hpart]
    exact (mem_restrict_edges.mp he).2

theorem closed {u v : String} (hconnected : net.Connected u v) : u ∈ part ↔ v ∈ part := by
  induction hconnected with
  | rel u v he =>
    obtain ⟨hu, hv⟩ := hproper.ends _ he
    have hedge : net.Connected u v := .rel u v he
    constructor
    · exact fun hmem => (h.connected part hpart u hmem v hv).mpr hedge
    · exact fun hmem => (h.connected part hpart v hmem u hu).mpr (hedge.symm _ _)
  | refl u => exact Iff.rfl
  | symm u v _ ih => exact ih.symm
  | trans u v w _ _ ihu ihv => exact ihu.trans ihv

theorem restrict_connected {u v : String} (hconnected : net.Connected u v) (hu : u ∈ part) :
    (net.restrict part).Connected u v := by
  induction hconnected with
  | rel u v he =>
    have hv := (h.closed hproper hpart (.rel u v he)).mp hu
    exact .rel u v (mem_restrict_edges.mpr ⟨he, hu, hv⟩)
  | refl u => exact .refl u
  | symm u v hconnected ih => exact (ih ((h.closed hproper hpart hconnected).mpr hu)).symm
  | trans u v w hconnected _ ihu ihv =>
    exact (ihu hu).trans _ _ _ (ihv ((h.closed hproper hpart hconnected).mp hu))

theorem restrict_grouped : (net.restrict part).Grouped [part] := by
  have hnodes := h.restrict_nodes hproper hpart
  constructor
  · rw [List.forall_mem_singleton]
    exact h.nonempty part hpart
  · intro node
    rw [List.flatten_singleton, hnodes]
  · rw [List.flatten_singleton]
    exact hproper.nodup.sublist (h.ordered part hpart)
  · rw [List.forall_mem_singleton, hnodes]
    intro u hu v hv
    have hconnected := (h.connected part hpart u hu v (h.mem_nodes hpart hv)).mp hv
    exact iff_of_true hv (h.restrict_connected hproper hpart hconnected hu)
  · rw [List.forall_mem_singleton, hnodes]
  · obtain ⟨first, rest, rfl⟩ := List.exists_cons_of_ne_nil (h.nonempty part hpart)
    rw [hnodes]
    exact (List.nil_sublist rest).cons_cons first

end Grouped

end Network

section

variable {α : Type} [Field α]

def MovedBy (distance : α) (nodes : List String) (q p : Placement α) : Prop :=
  ∀ node ∈ nodes, ∃ point, q.get? node = some point ∧ p.get? node = some (point.shift distance 0)

theorem MovedBy.congr {distance : α} {nodes : List String} {p q p' q' : Placement α}
    (h : MovedBy distance nodes q p) (hq : ∀ node ∈ nodes, q'.get? node = q.get? node)
    (hp : ∀ node ∈ nodes, p'.get? node = p.get? node) : MovedBy distance nodes q' p' := by
  intro node hnode
  rw [hq node hnode, hp node hnode]
  exact h node hnode

variable [LinearOrder α]

theorem settle_movedBy (l : Placement α) (here there : α) :
    MovedBy (there - here) l.nodes (settle here l) (settle there l) := by
  intro node hnode
  obtain ⟨point, hpoint⟩ := Placement.get?_of_mem hnode
  refine ⟨_, by rw [settle_get?, hpoint, Option.map_some], ?_⟩
  rw [settle_get?, hpoint, Option.map_some, Point.shift, Point.shift, Point.shift]
  congr 2 <;> ring

def Placement.Spans (p : Placement α) (nodes : List String) (width : α) : Prop :=
  ∃ left, IsLeast (p.along Point.x nodes) left ∧ IsGreatest (p.along Point.x nodes) (left + width)

end

section

variable {ε α : Type} [Add α] [Sub α] [Mul α] [Div α] [LT α] [DecidableLT α] [BEq α] [NatCast α]
  {compass : Compass α} {measures : Measures ε α} {engine : Engine ε α} {net net' : Network}
  {seeds seeds' : Placement α}

theorem pack_append {xs ys : List (List String)} {offset : α} {p : Placement α}
    (h : pack compass measures engine net seeds offset (xs ++ ys) = .ok p) :
    ∃ q r, pack compass measures engine net seeds offset xs = .ok q ∧ p = q ++ r := by
  induction xs generalizing offset p with
  | nil => exact ⟨[], p, rfl, rfl⟩
  | cons part rest ih =>
    simp only [List.cons_append, pack, bind_eq_ok_iff] at h ⊢
    obtain ⟨l, hl, spacing, hspacing, others, hothers, ⟨⟩⟩ := h
    obtain ⟨q, r, hq, rfl⟩ := ih hothers
    exact ⟨_, r, ⟨l, hl, spacing, hspacing, q, hq, rfl⟩, (List.append_assoc _ q r).symm⟩

theorem pack_beginning (hfull : engine.Full) {xs ys ys' : List (List String)}
    (hsame : ∀ part ∈ xs, placeComponent compass measures engine net seeds part =
      placeComponent compass measures engine net' seeds' part) {offset : α} {p p' : Placement α}
    (h : pack compass measures engine net seeds offset (xs ++ ys) = .ok p)
    (h' : pack compass measures engine net' seeds' offset (xs ++ ys') = .ok p') :
    ∀ node ∈ xs.flatten, p'.get? node = p.get? node := by
  obtain ⟨q, r, hq, rfl⟩ := pack_append h
  obtain ⟨q', r', hq', rfl⟩ := pack_append h'
  rw [pack_congr hsame, hq'] at hq
  cases hq
  intro node hnode
  rw [← pack_nodes hfull hq'] at hnode
  rw [Placement.get?_append_left hnode, Placement.get?_append_left hnode]

end

section

variable {ε α : Type} [Field α] [LinearOrder α] [IsStrictOrderedRing α] {compass : Compass α}
  {measures : Measures ε α} {engine : Engine ε α} {net : Network} {seeds : Placement α}

theorem pack_part (hfull : engine.Full) {spacing : α} (hspacing : measures.spacing = .ok spacing)
    {before after : List (List String)} {part : List String}
    (hdisjoint : (before ++ part :: after).flatten.Nodup) (hne : ∀ other ∈ before, other ≠ [])
    {offset : α} {p q : Placement α}
    (h : pack compass measures engine net seeds offset (before ++ part :: after) = .ok p)
    (hsame : ∀ node ∈ (before ++ part :: after).flatten, q.get? node = p.get? node) :
    ∃ widths l, List.Forall₂ q.Spans before widths ∧
      placeComponent compass measures engine net seeds part = .ok l ∧
      ∀ node ∈ part,
        q.get? node = (settle (offset + (widths.map (· + spacing)).sum) l).get? node := by
  induction before generalizing offset p with
  | nil =>
    obtain ⟨l, others, hl, -, -, hfirst, -⟩ := pack_cons hfull hspacing hdisjoint h hsame
    refine ⟨[], l, .nil, hl, ?_⟩
    rw [List.map_nil, List.sum_nil, add_zero]
    exact hfirst
  | cons first rest ih =>
    obtain ⟨l, others, -, hnodes, hothers, hfirst, hlast⟩ := pack_cons hfull hspacing hdisjoint h hsame
    obtain ⟨hne, hrest⟩ := List.forall_mem_cons.mp hne
    rw [List.cons_append, List.flatten_cons, List.nodup_append] at hdisjoint
    obtain ⟨hnodup, hdisjoint, -⟩ := hdisjoint
    obtain ⟨widths, m, hwidths, hm, hplaced⟩ := ih hdisjoint hrest hothers hlast
    have hl : l ≠ [] := by
      rintro rfl
      exact hne hnodes.symm
    obtain ⟨hleft, hright, -⟩ := settle_settledAt (hnodes.symm ▸ hnodup) hl offset
    rw [hnodes, ← Placement.along_congr hfirst] at hleft hright
    refine ⟨(spans 0 l).1.length :: widths, m, .cons ⟨offset, hleft, hright⟩ hwidths, hm, ?_⟩
    rw [List.map_cons, List.sum_cons, ← add_assoc]
    exact hplaced

end

structure Divided {α : Type} (net : Network) (given : Placement α) (before : List (List String))
    (part : List String) (after : List (List String)) : Prop where
  proper : net.Proper
  given : ∀ node ∈ net.nodes, node ∈ given.nodes
  grouped : net.Grouped (before ++ part :: after)

structure SamePart {α : Type} (net net' : Network) (given given' : Placement α) (part : List String) :
    Prop where
  joined : ∀ u ∈ part, ∀ v ∈ part, net.joined u v = net'.joined u v
  starts : ∀ node ∈ part, given.get? node = given'.get? node

theorem Divided.restrict {α : Type} {net : Network} {given : Placement α}
    {before after : List (List String)} {part : List String}
    (h : Divided net given before part after) : Divided (net.restrict part) given [] part [] := by
  have hpart : part ∈ before ++ part :: after := List.mem_append_right before List.mem_cons_self
  constructor
  · exact h.grouped.restrict_proper h.proper hpart
  · rw [h.grouped.restrict_nodes h.proper hpart]
    exact fun node hnode => h.given node (h.grouped.mem_nodes hpart hnode)
  · exact h.grouped.restrict_grouped h.proper hpart

theorem samePart_restrict {α : Type} (net : Network) (given : Placement α) (part : List String) :
    SamePart (net.restrict part) net given given part where
  joined _ hu _ hv := Network.restrict_joined hu hv
  starts _ _ := rfl

theorem Engine.ofFunction_full {ε α : Type}
    {place : List String → List (List Bool) → List (Point α) → List (Point α)}
    (hplace : ∀ nodes adjacency start, start.length = nodes.length →
      (place nodes adjacency start).length = nodes.length) :
    (ofFunction place : Engine ε α).Full := by
  rintro nodes adjacency start points hlength ⟨⟩
  exact hplace nodes adjacency start hlength

section

variable {ε α : Type} [Field α] [LinearOrder α] {compass : Compass α} {radius : Nat → α}
  {gap spacing : α} {unplaced : String → ε} {engine : Engine ε α} {net net' : Network}
  {given given' p p' : Placement α} {before before' after after' : List (List String)}
  {part : List String}

theorem Divided.pack_eq (h : Divided net given before part after)
    (hp : arrange compass (.ofNumbers radius gap spacing unplaced) engine net given = .ok p) :
    pack compass (.ofNumbers radius gap spacing unplaced) engine net given 0
      (before ++ part :: after) = .ok p := by
  have hgrouped := Network.components_grouped h.proper
  obtain ⟨seeds, hseeds⟩ : ∃ seeds,
      seed compass (.ofNumbers radius gap spacing unplaced) net given = .ok seeds := ⟨_, rfl⟩
  rw [arrange_eq_pack hgrouped hseeds, hgrouped.unique h.proper.nodup h.grouped] at hp
  rw [← hp]
  -- No node needs a seat on the circle, so the parts start from the given points.
  apply pack_congr
  intro other hother
  apply placeComponent_congr fun _ _ _ _ => rfl
  intro node hnode
  have hmem := h.grouped.mem_nodes hother hnode
  exact (seed_get? h.proper.nodup hseeds hmem (h.given node hmem)).symm

variable [IsStrictOrderedRing α] (hfull : engine.Full) (h : Divided net given before part after)
  (hp : arrange compass (.ofNumbers radius gap spacing unplaced) engine net given = .ok p)

include hfull h hp

theorem Divided.settled : ∃ widths l, List.Forall₂ p.Spans before widths ∧
    placeComponent compass (.ofNumbers radius gap spacing unplaced) engine net given part = .ok l ∧
    ∀ node ∈ part, p.get? node = (settle (widths.map (· + spacing)).sum l).get? node := by
  have hne : ∀ other ∈ before, other ≠ [] :=
    fun other hother => h.grouped.nonempty other (List.mem_append_left _ hother)
  obtain ⟨widths, l, hwidths, hl, hplaced⟩ :=
    pack_part hfull rfl h.grouped.disjoint hne (h.pack_eq hp) fun _ _ => rfl
  rw [zero_add] at hplaced
  exact ⟨widths, l, hwidths, hl, hplaced⟩

theorem Divided.moved (h' : Divided net' given' before' part after')
    (hp' : arrange compass (.ofNumbers radius gap spacing unplaced) engine net' given' = .ok p')
    (hsame : SamePart net net' given given' part) :
    ∃ widths widths', List.Forall₂ p.Spans before widths ∧ List.Forall₂ p'.Spans before' widths' ∧
      MovedBy ((widths'.map (· + spacing)).sum - (widths.map (· + spacing)).sum) part p p' := by
  obtain ⟨widths, l, hwidths, hl, hplaced⟩ := h.settled hfull hp
  obtain ⟨widths', l', hwidths', hl', hplaced'⟩ := h'.settled hfull hp'
  rw [placeComponent_congr hsame.joined hsame.starts, hl'] at hl
  cases hl
  have hmoved := settle_movedBy l (widths.map (· + spacing)).sum (widths'.map (· + spacing)).sum
  rw [placeComponent_nodes hfull hl'] at hmoved
  exact ⟨widths, widths', hwidths, hwidths', hmoved.congr hplaced hplaced'⟩

omit [IsStrictOrderedRing α] in
theorem Divided.beginning (h' : Divided net' given' before part after')
    (hp' : arrange compass (.ofNumbers radius gap spacing unplaced) engine net' given' = .ok p')
    (hsame : ∀ other ∈ before ++ [part], SamePart net net' given given' other) :
    ∀ node ∈ part, p'.get? node = p.get? node := by
  have hpack := h.pack_eq hp
  have hpack' := h'.pack_eq hp'
  rw [List.append_cons] at hpack hpack'
  intro node hnode
  apply pack_beginning hfull ?_ hpack hpack' node
  · exact List.mem_flatten_of_mem (List.mem_append_right before List.mem_cons_self) hnode
  · exact fun other hother => placeComponent_congr (hsame other hother).joined (hsame other hother).starts

end

section

variable {ε α : Type} [Field α] [LinearOrder α] [IsStrictOrderedRing α]

/-- A part of a network stands in an arrangement as it stands when it is arranged alone, but moved to the right by
the widths of the parts before it with the space behind each. Other parts can only move it to the left or
right, and those behind it not at all. -/
structure Independent (run : Network → Placement α → Except ε (Placement α)) (spacing : α) (net : Network)
    (given : Placement α) (before : List (List String)) (part : List String) (p : Placement α) :
    Prop where
  alone : ∃ q widths, run (net.restrict part) given = .ok q ∧ List.Forall₂ p.Spans before widths ∧
    MovedBy (widths.map (· + spacing)).sum part q p
  others : ∀ {net' : Network} {given' p' : Placement α} {before' after' : List (List String)},
    Divided net' given' before' part after' → SamePart net net' given given' part →
    run net' given' = .ok p' → ∃ distance, MovedBy distance part p p'
  behind : ∀ {net' : Network} {given' p' : Placement α} {after' : List (List String)},
    Divided net' given' before part after' →
    (∀ other ∈ before ++ [part], SamePart net net' given given' other) →
    run net' given' = .ok p' → ∀ node ∈ part, p'.get? node = p.get? node

theorem components_independent (compass : Compass α) (radius : Nat → α) (gap spacing : α)
    (unplaced : String → ε)
    {place : List String → List (List Bool) → List (Point α) → List (Point α)}
    (hplace : ∀ nodes adjacency start, start.length = nodes.length →
      (place nodes adjacency start).length = nodes.length)
    {net : Network} {given : Placement α} {before after : List (List String)} {part : List String}
    (h : Divided net given before part after) :
    ∃ p, arrange compass (.ofNumbers radius gap spacing unplaced) (.ofFunction place) net given =
        .ok p ∧
      Independent (arrange compass (.ofNumbers radius gap spacing unplaced) (.ofFunction place))
        spacing net given before part p := by
  let measures : Measures ε α := .ofNumbers radius gap spacing unplaced
  let engine : Engine ε α := .ofFunction place
  have hfull : engine.Full := Engine.ofFunction_full hplace
  have hruns (net : Network) : ∃ p, arrange compass measures engine net given = .ok p :=
    arrange_eq_ok (Measures.ofNumbers_computes radius gap spacing unplaced _) (fun _ _ _ => ⟨_, rfl⟩)
      rfl given
  obtain ⟨p, hp⟩ := hruns net
  refine ⟨p, hp, ?_, ?_, ?_⟩
  · obtain ⟨q, hq⟩ := hruns (net.restrict part)
    obtain ⟨_, widths, ⟨⟩, hwidths, hmoved⟩ :=
      h.restrict.moved hfull hq h hp (samePart_restrict net given part)
    rw [List.map_nil, List.sum_nil, sub_zero] at hmoved
    exact ⟨q, widths, hq, hwidths, hmoved⟩
  · intro net' given' p' before' after' h' hsame hp'
    obtain ⟨_, _, -, -, hmoved⟩ := h.moved hfull hp h' hp' hsame
    exact ⟨_, hmoved⟩
  · intro net' given' p' after' h' hsame hp'
    exact h.beginning hfull hp h' hp' hsame

end

def crossedStarts : Placement ℚ :=
  [("a", ⟨3, 1⟩), ("b", ⟨5, 0⟩), ("c", ⟨0, 0⟩), ("d", ⟨6, 2⟩)]

theorem components_independent_crossed :
    (∀ (nodes : List String) (_ : List (List Bool)) (start : List (Point ℚ)),
      start.length = nodes.length → start.length = nodes.length) ∧
    Divided crossed crossedStarts [["a", "c"]] ["b", "d"] [] ∧
    arrange stillCompass (.ofNumbers (fun _ => 1) 1 100 id : Measures String ℚ)
      (.ofFunction fun _ _ start => start) crossed crossedStarts = .ok crossedPlaces ∧
    Independent (arrange stillCompass (.ofNumbers (fun _ => 1) 1 100 id : Measures String ℚ)
      (.ofFunction fun _ _ start => start)) 100 crossed crossedStarts [["a", "c"]] ["b", "d"]
      crossedPlaces := by
  have hplace : ∀ (nodes : List String) (_ : List (List Bool)) (start : List (Point ℚ)),
      start.length = nodes.length → start.length = nodes.length := fun _ _ _ h => h
  have hproper : crossed.Proper := Network.ofEdges_proper _ _
  have hcomponents : crossed.components = [["a", "c"], ["b", "d"]] := by
    decide
  have hgrouped := Network.components_grouped hproper
  rw [hcomponents] at hgrouped
  have hdivided : Divided crossed crossedStarts [["a", "c"]] ["b", "d"] [] :=
    ⟨hproper, by decide, hgrouped⟩
  obtain ⟨p, hp, hindependent⟩ := components_independent stillCompass (fun _ => 1) 1 100
    (id : String → String) hplace hdivided
  have hcomputed : arrange stillCompass (.ofNumbers (fun _ => 1) 1 100 id : Measures String ℚ)
      (.ofFunction fun _ _ start => start) crossed crossedStarts = .ok crossedPlaces := by
    decide +kernel
  cases hp.symm.trans hcomputed
  exact ⟨hplace, hdivided, hcomputed, hindependent⟩

end DependencyAtlas.Layout
