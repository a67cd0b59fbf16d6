import DependencyAtlas.Proofs.Layout.Components
import Mathlib.Algebra.Order.Field.Basic
import Mathlib.Data.List.Chain
import Mathlib.Order.Bounds.Image
import Mathlib.Tactic.Linarith
import Mathlib.Tactic.Ring

namespace DependencyAtlas.Layout

section

variable {α : Type} [LinearOrder α]

theorem least_isLeast (a : α) (rest : List α) : IsLeast {x | x ∈ a :: rest} (least a rest) := by
  induction rest generalizing a with
  | nil => exact ⟨List.mem_cons_self, fun x hx => (List.mem_singleton.mp hx).ge⟩
  | cons b rest ih =>
    obtain ⟨hmem, hle⟩ := ih (if b < a then b else a)
    have hfold : least a (b :: rest) = least (if b < a then b else a) rest := rfl
    have hfirst : (if b < a then b else a) ≤ a ∧ (if b < a then b else a) ≤ b := by
      split
      · next h => exact ⟨h.le, le_rfl⟩
      · next h => exact ⟨le_rfl, not_lt.mp h⟩
    rw [hfold]
    constructor
    · rcases List.mem_cons.mp hmem with heq | hmem
      · change least (if b < a then b else a) rest ∈ a :: b :: rest
        rw [heq]
        split <;> simp
      · exact List.mem_cons_of_mem a (List.mem_cons_of_mem b hmem)
    · intro x hx
      have hbound := hle List.mem_cons_self
      rcases List.mem_cons.mp hx with rfl | hx
      · exact hbound.trans hfirst.1
      · rcases List.mem_cons.mp hx with rfl | hx
        · exact hbound.trans hfirst.2
        · exact hle (List.mem_cons_of_mem _ hx)

theorem greatest_isGreatest (a : α) (rest : List α) :
    IsGreatest {x | x ∈ a :: rest} (greatest a rest) :=
  @least_isLeast αᵒᵈ _ a rest

end

namespace Placement

variable {α : Type}

def along (f : Point α → α) (p : Placement α) (nodes : List String) : Set α :=
  {c | ∃ node ∈ nodes, ∃ q, p.get? node = some q ∧ f q = c}

theorem along_congr {f : Point α → α} {p q : Placement α} {nodes : List String}
    (h : ∀ node ∈ nodes, p.get? node = q.get? node) : p.along f nodes = q.along f nodes := by
  ext c
  constructor
  · rintro ⟨node, hnode, point, hpoint, hc⟩
    exact ⟨node, hnode, point, (h node hnode).symm.trans hpoint, hc⟩
  · rintro ⟨node, hnode, point, hpoint, hc⟩
    exact ⟨node, hnode, point, (h node hnode).trans hpoint, hc⟩

theorem along_nodes {p : Placement α} (hnodup : p.nodes.Nodup) (f : Point α → α) :
    p.along f p.nodes = {c | c ∈ p.points.map f} := by
  ext c
  constructor
  · rintro ⟨node, -, q, hq, rfl⟩
    exact List.mem_map_of_mem (List.mem_map_of_mem (mem_of_lookup hq))
  · intro hc
    obtain ⟨_, hq, rfl⟩ := List.mem_map.mp hc
    obtain ⟨entry, hentry, rfl⟩ := List.mem_map.mp hq
    exact ⟨entry.1, List.mem_map_of_mem hentry, entry.2, lookup_of_mem hnodup hentry, rfl⟩

theorem along_map {f : Point α → α} {p q : Placement α} {move : Point α → Point α} {change : α → α}
    (h : ∀ node, q.get? node = (p.get? node).map move) (hmove : ∀ point, f (move point) = change (f point))
    (nodes : List String) : q.along f nodes = change '' p.along f nodes := by
  ext c
  constructor
  · rintro ⟨node, hnode, point, hpoint, rfl⟩
    rw [h] at hpoint
    obtain ⟨before, hbefore, rfl⟩ := Option.map_eq_some_iff.mp hpoint
    exact ⟨f before, ⟨node, hnode, before, hbefore, rfl⟩, (hmove before).symm⟩
  · rintro ⟨_, ⟨node, hnode, point, hpoint, rfl⟩, rfl⟩
    refine ⟨node, hnode, move point, ?_, hmove point⟩
    rw [h, hpoint]
    rfl

theorem get?_append_left {p q : Placement α} {node : String} (h : node ∈ p.nodes) :
    get? (p ++ q) node = p.get? node := by
  obtain ⟨point, hpoint⟩ := get?_of_mem h
  rw [get?, get?, List.lookup_append, ← get?, hpoint]
  rfl

theorem get?_append_right {p q : Placement α} {node : String} (h : node ∉ p.nodes) :
    get? (p ++ q) node = q.get? node := by
  rw [get?, List.lookup_append, lookup_eq_none_of_not_mem h]
  rfl

end Placement

section

variable {α : Type} [LinearOrder α]

theorem around_bounds (a : α) (rest : List α) :
    IsLeast {c | c ∈ a :: rest} (Span.around a rest).low ∧
      IsGreatest {c | c ∈ a :: rest} (Span.around a rest).high :=
  ⟨least_isLeast a rest, greatest_isGreatest a rest⟩

theorem spans_bounds {p : Placement α} (h : p ≠ []) (zero : α) :
    (IsLeast {c | c ∈ p.points.map Point.x} (spans zero p).1.low ∧
      IsGreatest {c | c ∈ p.points.map Point.x} (spans zero p).1.high) ∧
    IsLeast {c | c ∈ p.points.map Point.y} (spans zero p).2.low ∧
      IsGreatest {c | c ∈ p.points.map Point.y} (spans zero p).2.high := by
  rcases p with _ | ⟨entry, rest⟩
  · exact absurd rfl h
  · exact ⟨around_bounds _ _, around_bounds _ _⟩

end

section

variable {α : Type} [Sub α]

def SameShape (nodes : List String) (l p : Placement α) : Prop :=
  ∀ u ∈ nodes, ∀ v ∈ nodes, ∃ a b a' b', l.get? u = some a ∧ l.get? v = some b ∧
    p.get? u = some a' ∧ p.get? v = some b' ∧ b'.x - a'.x = b.x - a.x ∧ b'.y - a'.y = b.y - a.y

theorem SameShape.congr {nodes : List String} {l p q : Placement α} (h : SameShape nodes l p)
    (hsame : ∀ node ∈ nodes, q.get? node = p.get? node) : SameShape nodes l q := by
  intro u hu v hv
  obtain ⟨a, b, a', b', ha, hb, ha', hb', hdiff⟩ := h u hu v hv
  exact ⟨a, b, a', b', ha, hb, (hsame u hu).trans ha', (hsame v hv).trans hb', hdiff⟩

end

section

variable {α : Type} [Field α] [LinearOrder α]

def middle (l : Placement α) : α :=
  ((spans 0 l).2.low + (spans 0 l).2.high) / 2

theorem settle_eq (offset : α) (l : Placement α) :
    settle offset l =
      l.map fun entry => (entry.1, entry.2.shift (offset - (spans 0 l).1.low) (-middle l)) := by
  simp only [settle, middle, Nat.cast_zero, Nat.cast_ofNat, Point.shift]
  congr 1
  funext entry
  congr 2 <;> ring

theorem settle_get? (offset : α) (l : Placement α) (node : String) :
    (settle offset l).get? node =
      (l.get? node).map fun q => q.shift (offset - (spans 0 l).1.low) (-middle l) := by
  rw [settle_eq]
  exact lookup_map (fun q : Point α => q.shift (offset - (spans 0 l).1.low) (-middle l)) node l

theorem settle_sameShape (offset : α) (l : Placement α) : SameShape l.nodes l (settle offset l) := by
  intro u hu v hv
  obtain ⟨a, ha⟩ := Placement.get?_of_mem hu
  obtain ⟨b, hb⟩ := Placement.get?_of_mem hv
  let move (q : Point α) : Point α := q.shift (offset - (spans 0 l).1.low) (-middle l)
  refine ⟨a, b, move a, move b, ha, hb, ?_, ?_, add_sub_add_right_eq_sub _ _ _,
    add_sub_add_right_eq_sub _ _ _⟩
  · rw [settle_get?, ha]
    rfl
  · rw [settle_get?, hb]
    rfl

variable [IsStrictOrderedRing α]

structure SettledAt (offset width : α) (p : Placement α) (nodes : List String) : Prop where
  left : IsLeast (p.along Point.x nodes) offset
  right : IsGreatest (p.along Point.x nodes) (offset + width)
  even : ∃ top, IsLeast (p.along Point.y nodes) (-top) ∧ IsGreatest (p.along Point.y nodes) top

theorem settle_settledAt {l : Placement α} (hnodup : l.nodes.Nodup) (hne : l ≠ []) (offset : α) :
    SettledAt offset (spans 0 l).1.length (settle offset l) l.nodes := by
  obtain ⟨⟨hleft, hright⟩, hlow, hhigh⟩ := spans_bounds hne 0
  rw [← Placement.along_nodes hnodup] at hleft hright hlow hhigh
  have hacross : (settle offset l).along Point.x l.nodes =
      (· + (offset - (spans 0 l).1.low)) '' l.along Point.x l.nodes :=
    Placement.along_map (settle_get? offset l) (fun _ => rfl) l.nodes
  have hupwards : (settle offset l).along Point.y l.nodes =
      (· + -middle l) '' l.along Point.y l.nodes :=
    Placement.along_map (settle_get? offset l) (fun _ => rfl) l.nodes
  have hmono (d : α) : Monotone (· + d) := fun _ _ h => add_le_add_left h d
  constructor
  · rw [hacross]
    have h := (hmono (offset - (spans 0 l).1.low)).map_isLeast hleft
    rwa [add_sub_cancel] at h
  · rw [hacross, Span.length]
    have h := (hmono (offset - (spans 0 l).1.low)).map_isGreatest hright
    rwa [add_sub_left_comm] at h
  · refine ⟨((spans 0 l).2.high - (spans 0 l).2.low) / 2, ?_, ?_⟩
    · have h := (hmono (-middle l)).map_isLeast hlow
      have heq : (spans 0 l).2.low + -middle l = -(((spans 0 l).2.high - (spans 0 l).2.low) / 2) := by
        rw [middle]
        ring
      rwa [heq, ← hupwards] at h
    · have h := (hmono (-middle l)).map_isGreatest hhigh
      have heq : (spans 0 l).2.high + -middle l = ((spans 0 l).2.high - (spans 0 l).2.low) / 2 := by
        rw [middle]
        ring
      rwa [heq, ← hupwards] at h

end

section

variable {ε α : Type} [Field α] [LinearOrder α] {compass : Compass α} {measures : Measures ε α}
  {engine : Engine ε α} {net : Network} {seeds : Placement α}

inductive PutAlone (compass : Compass α) (measures : Measures ε α) (engine : Engine ε α)
    (net : Network) (seeds : Placement α) : List String → Placement α → Prop
  | single {node : String} {q : Point α} (h : seeds.get? node = some q) :
    PutAlone compass measures engine net seeds [node] [(node, q)]
  | several {nodes : List String} {start : Placement α} {points : List (Point α)}
    (hmany : nodes.length ≠ 1) (hstart : separate compass measures nodes seeds = .ok start)
    (hpoints : engine nodes (net.adjacency nodes) start.points = .ok points) :
    PutAlone compass measures engine net seeds nodes (nodes.zip points)

theorem placeComponent_alone {nodes : List String} {l : Placement α}
    (h : placeComponent compass measures engine net seeds nodes = .ok l) :
    PutAlone compass measures engine net seeds nodes l := by
  rw [placeComponent.eq_def] at h
  split at h
  · split at h
    · next hq =>
      cases h
      exact .single hq
    · cases h
  · next hmany =>
    simp only [bind_eq_ok_iff] at h
    obtain ⟨start, hstart, points, hpoints, ⟨⟩⟩ := h
    refine .several (fun hone => ?_) hstart hpoints
    obtain ⟨node, hnode⟩ := List.length_eq_one_iff.mp hone
    exact hmany node hnode

theorem pack_cons (hfull : engine.Full) {spacing : α} (hspacing : measures.spacing = .ok spacing)
    {part : List String} {rest : List (List String)} (hdisjoint : (part :: rest).flatten.Nodup)
    {offset : α} {p q : Placement α}
    (h : pack compass measures engine net seeds offset (part :: rest) = .ok p)
    (hsame : ∀ node ∈ (part :: rest).flatten, q.get? node = p.get? node) :
    ∃ l others, placeComponent compass measures engine net seeds part = .ok l ∧ l.nodes = part ∧
      pack compass measures engine net seeds (offset + ((spans 0 l).1.length + spacing)) rest =
        .ok others ∧
      (∀ node ∈ part, q.get? node = (settle offset l).get? node) ∧
      ∀ node ∈ rest.flatten, q.get? node = others.get? node := by
  simp only [pack, bind_eq_ok_iff, hspacing, Nat.cast_zero] at h
  obtain ⟨l, hl, _, ⟨⟩, others, hothers, ⟨⟩⟩ := h
  have hnodes := placeComponent_nodes hfull hl
  rw [List.flatten_cons, List.nodup_append] at hdisjoint
  obtain ⟨-, -, hapart⟩ := hdisjoint
  refine ⟨l, others, hl, hnodes, hothers, ?_, ?_⟩
  · intro node hnode
    rw [hsame node (List.mem_append_left _ hnode), Placement.get?_append_left]
    rwa [settle_nodes, hnodes]
  · intro node hnode
    rw [hsame node (List.mem_append_right _ hnode), Placement.get?_append_right]
    rw [settle_nodes, hnodes]
    exact fun hmem => hapart node hmem node hnode rfl

variable [IsStrictOrderedRing α]

/-- Components that stand side by side from `start` on, each evenly about the line across and in the shape
that it has alone. -/
structure Packed (alone : List String → Placement α → Prop) (spacing start : α)
    (parts : List (List String)) (p : Placement α) : Prop where
  starts : ∀ part ∈ parts.head?, IsLeast (p.along Point.x part) start
  spaced : parts.IsChain fun a b => ∃ right left,
    IsGreatest (p.along Point.x a) right ∧ IsLeast (p.along Point.x b) left ∧ left - right = spacing
  even : ∀ part ∈ parts, ∃ top,
    IsLeast (p.along Point.y part) (-top) ∧ IsGreatest (p.along Point.y part) top
  shaped : ∀ part ∈ parts, ∃ l, alone part l ∧ SameShape part l p

theorem pack_packed (hfull : engine.Full) {spacing : α} (hspacing : measures.spacing = .ok spacing)
    {parts : List (List String)} (hdisjoint : parts.flatten.Nodup) (hne : ∀ part ∈ parts, part ≠ [])
    {offset : α} {p q : Placement α}
    (h : pack compass measures engine net seeds offset parts = .ok p)
    (hsame : ∀ node ∈ parts.flatten, q.get? node = p.get? node) :
    Packed (PutAlone compass measures engine net seeds) spacing offset parts q := by
  induction parts generalizing offset p with
  | nil => exact ⟨nofun, .nil, nofun, nofun⟩
  | cons part rest ih =>
    obtain ⟨l, others, hl, hnodes, hothers, hfirst, hlast⟩ := pack_cons hfull hspacing hdisjoint h hsame
    rw [List.flatten_cons, List.nodup_append] at hdisjoint
    obtain ⟨hpart, hrest, -⟩ := hdisjoint
    have hl' : l ≠ [] := by
      rintro rfl
      exact hne part List.mem_cons_self hnodes.symm
    obtain ⟨hstarts, hspaced, heven, hshaped⟩ :=
      ih hrest (fun other h => hne other (List.mem_cons_of_mem part h)) hothers hlast
    obtain ⟨hleft, hright, htop⟩ := settle_settledAt (hnodes.symm ▸ hpart) hl' offset
    rw [hnodes, ← Placement.along_congr hfirst] at hleft hright htop
    constructor
    · rintro first ⟨⟩
      exact hleft
    · apply hspaced.cons
      intro second hsecond
      refine ⟨_, _, hright, hstarts second hsecond, ?_⟩
      ring
    · exact List.forall_mem_cons.mpr ⟨htop, heven⟩
    · refine List.forall_mem_cons.mpr ⟨⟨l, placeComponent_alone hl, ?_⟩, hshaped⟩
      have hshape := settle_sameShape offset l
      rw [hnodes] at hshape
      exact hshape.congr hfirst

theorem Packed.apart {alone : List String → Placement α → Prop} {spacing start : α}
    {parts : List (List String)} {p : Placement α} (h : Packed alone spacing start parts p)
    (hpos : 0 < spacing) :
    parts.Pairwise fun a b => ∀ x ∈ p.along Point.x a, ∀ y ∈ p.along Point.x b, x < y := by
  let Before (a b : List String) : Prop := ∃ right left,
    IsGreatest (p.along Point.x a) right ∧ IsLeast (p.along Point.x b) left ∧ right < left
  have : Trans Before Before Before := ⟨by
    rintro a b c ⟨right, left, hright, hleft, hlt⟩ ⟨right', left', hright', hleft', hlt'⟩
    exact ⟨right, left', hright, hleft', (hlt.trans_le (hleft.2 hright'.1)).trans hlt'⟩⟩
  have hchain : parts.IsChain Before := by
    apply h.spaced.imp
    rintro a b ⟨right, left, hright, hleft, hgap⟩
    exact ⟨right, left, hright, hleft, by linarith⟩
  apply hchain.pairwise.imp
  rintro a b ⟨right, left, hright, hleft, hlt⟩ x hx y hy
  exact (hright.2 hx).trans_lt (hlt.trans_le (hleft.2 hy))

end

namespace Network

theorem merge_loop {e : String × String} (h : e.1 = e.2) (marks : Marks) : marks.merge e = marks := by
  rw [Marks.merge, ← h]
  split
  · next a b ha hb =>
    obtain rfl : a = b := Option.some.inj (ha.symm.trans hb)
    have hsame (m : String × String) : (m.1, if m.2 == a then a else m.2) = m := by
      split
      · next hm => rw [← beq_iff_eq.mp hm]
      · rfl
    simp only [hsame, List.map_id']
  · rfl

theorem components_of_loops {net : Network} (hproper : net.Proper) (hloops : ∀ e ∈ net.edges, e.1 = e.2) :
    net.components = net.nodes.map fun node => [node] := by
  have hfold (edges : List (String × String)) (hedges : ∀ e ∈ edges, e.1 = e.2) (marks : Marks) :
      edges.foldl Marks.merge marks = marks := by
    induction edges generalizing marks with
    | nil => rfl
    | cons e edges ih =>
      rw [List.foldl_cons, merge_loop (hedges e List.mem_cons_self)]
      exact ih (fun e' he' => hedges e' (List.mem_cons_of_mem e he')) marks
  have hmarks : net.marks = net.nodes.map fun node => (node, node) := hfold net.edges hloops _
  have hnodes : distinct net.nodes = net.nodes := foldl_addNew_of_nodup hproper.nodup
  have hself : (net.nodes.map fun node => (node, node)).map Prod.snd = net.nodes := by
    rw [List.map_map]
    exact List.map_id _
  rw [components_eq, hmarks, hself, hnodes]
  apply List.map_congr_left
  intro node hnode
  have hone := List.filter_beq (l := net.nodes) node
  rw [List.count_eq_one_of_mem hproper.nodup hnode] at hone
  rw [group, List.filter_map, List.map_map]
  exact (congrArg (List.map _) hone).trans rfl

end Network

theorem pack_alone {ε α : Type} [Add α] [Sub α] [Mul α] [Div α] [LT α] [DecidableLT α] [BEq α] [NatCast α]
    {compass : Compass α} {measures : Measures ε α} {engine : Engine ε α} {net : Network} {seeds : Placement α}
    {node : String} {p : Point α} (hp : seeds.get? node = some p) {spacing : α}
    (hspacing : measures.spacing = .ok spacing) {offset : α} {rest : List (List String)} :
    pack compass measures engine net seeds offset ([node] :: rest) = do
      let others ← pack compass measures engine net seeds (offset + (p.x - p.x + spacing)) rest
      return settle offset [(node, p)] ++ others := by
  have hplaced : placeComponent compass measures engine net seeds [node] = .ok [(node, p)] := by
    rw [placeComponent, hp]
  rw [pack, hplaced, ok_bind]
  dsimp only
  rw [hspacing, ok_bind]
  rfl

section

variable {ε α : Type} [Field α] [LinearOrder α] [IsStrictOrderedRing α] {compass : Compass α}
  {measures : Measures ε α} {engine : Engine ε α} {net : Network} {seeds : Placement α}

theorem settle_single (offset : α) (node : String) (q : Point α) :
    settle offset [(node, q)] = [(node, ⟨offset, 0⟩)] := by
  have hline : middle [(node, q)] = q.y := by
    change (q.y + q.y) / 2 = q.y
    ring
  rw [settle_eq, hline]
  change [(node, Point.mk (q.x + (offset - q.x)) (q.y + -q.y))] = _
  rw [add_sub_cancel, add_neg_cancel]

theorem pack_singles {spacing : α} (hspacing : measures.spacing = .ok spacing) {nodes : List String}
    (hknown : ∀ node ∈ nodes, node ∈ seeds.nodes) (k : Nat) :
    pack compass measures engine net seeds (k * spacing) (nodes.map fun node => [node]) =
      .ok ((nodes.zipIdx k).map fun entry => (entry.1, ⟨entry.2 * spacing, 0⟩)) := by
  induction nodes generalizing k with
  | nil => rfl
  | cons node rest ih =>
    obtain ⟨q, hq⟩ := Placement.get?_of_mem (hknown node List.mem_cons_self)
    have hnext : (k : α) * spacing + (q.x - q.x + spacing) = ((k + 1 : Nat) : α) * spacing := by
      push_cast
      ring
    rw [List.map_cons, pack_alone hq hspacing, hnext, ih fun other h => hknown other (List.mem_cons_of_mem node h),
      settle_single]
    rfl

end

section

variable {ε α : Type}

def Measures.ofNumbers (radius : Nat → α) (gap spacing : α) (unplaced : String → ε) : Measures ε α where
  radius count := .ok (radius count)
  gap := .ok gap
  spacing := .ok spacing
  unplaced := unplaced

def Engine.ofFunction
    (place : List String → List (List Bool) → List (Point α) → List (Point α)) : Engine ε α :=
  fun nodes adjacency start => .ok (place nodes adjacency start)

theorem Measures.ofNumbers_computes (radius : Nat → α) (gap spacing : α) (unplaced : String → ε)
    (count : Nat) : (ofNumbers radius gap spacing unplaced).Computes count :=
  ⟨⟨_, rfl⟩, ⟨_, rfl⟩, ⟨_, rfl⟩⟩

variable [Field α] [LinearOrder α] [IsStrictOrderedRing α]

/-- The components are packed side by side; with space between them they stand apart, and nodes without
edges between them stand in a row. -/
structure Arranged (compass : Compass α) (measures : Measures ε α) (engine : Engine ε α)
    (net : Network) (spacing : α) (seeds p : Placement α) : Prop where
  grouped : net.Grouped net.components
  placed : p.nodes = net.components.flatten
  packed : Packed (PutAlone compass measures engine net seeds) spacing 0 net.components p
  apart : 0 < spacing → net.components.Pairwise fun a b =>
    ∀ x ∈ p.along Point.x a, ∀ y ∈ p.along Point.x b, x < y
  distinct : 0 < spacing → net.components.Pairwise fun a b =>
    ∀ u ∈ a, ∀ v ∈ b, p.get? u ≠ p.get? v
  row : (∀ e ∈ net.edges, e.1 = e.2) →
    p = net.nodes.zipIdx.map fun entry => (entry.1, ⟨entry.2 * spacing, 0⟩)

omit [IsStrictOrderedRing α] in
theorem arrange_eq_pack {compass : Compass α} {measures : Measures ε α} {engine : Engine ε α}
    {net : Network} {given seeds : Placement α} (hgrouped : net.Grouped net.components)
    (hseeds : seed compass measures net given = .ok seeds) :
    arrange compass measures engine net given =
      pack compass measures engine net seeds 0 net.components := by
  rw [arrange, hseeds, ok_bind, Nat.cast_zero]
  split
  · next hempty =>
    have hnone : net.components = [] := by
      apply List.eq_nil_iff_forall_not_mem.mpr
      intro part hpart
      obtain ⟨node, hnode⟩ := List.exists_mem_of_ne_nil part (hgrouped.nonempty part hpart)
      have hmem := (hgrouped.covered node).mp (List.mem_flatten_of_mem hpart hnode)
      rw [List.isEmpty_iff.mp hempty] at hmem
      cases hmem
    rw [hnone]
    rfl
  · rfl

theorem components_packed (compass : Compass α) (radius : Nat → α) (gap spacing : α)
    (unplaced : String → ε)
    {place : List String → List (List Bool) → List (Point α) → List (Point α)}
    (hplace : ∀ nodes adjacency start, start.length = nodes.length →
      (place nodes adjacency start).length = nodes.length)
    (nodes : List String) (edges : List (String × String)) (given : Placement α) :
    ∃ seeds p,
      seed compass (.ofNumbers radius gap spacing unplaced) (.ofEdges nodes edges) given = .ok seeds ∧
      arrange compass (.ofNumbers radius gap spacing unplaced) (.ofFunction place)
        (.ofEdges nodes edges) given = .ok p ∧
      Arranged compass (.ofNumbers radius gap spacing unplaced) (.ofFunction place)
        (.ofEdges nodes edges) spacing seeds p := by
  let measures : Measures ε α := .ofNumbers radius gap spacing unplaced
  let engine : Engine ε α := .ofFunction place
  let net := Network.ofEdges nodes edges
  have hproper : net.Proper := Network.ofEdges_proper nodes edges
  have hgrouped := Network.components_grouped hproper
  have hfull : engine.Full := by
    rintro nodes adjacency start points hlength ⟨⟩
    exact hplace nodes adjacency start hlength
  obtain ⟨seeds, hseeds⟩ : ∃ seeds, seed compass measures net given = .ok seeds := ⟨_, rfl⟩
  have hengine : ∀ nodes adjacency start, ∃ points, engine nodes adjacency start = .ok points :=
    fun _ _ _ => ⟨_, rfl⟩
  obtain ⟨p, hp⟩ : ∃ p, arrange compass measures engine net given = .ok p :=
    arrange_eq_ok (Measures.ofNumbers_computes radius gap spacing unplaced _) hengine rfl given
  have hpack := (arrange_eq_pack hgrouped hseeds).symm.trans hp
  have hpacked := pack_packed hfull rfl hgrouped.disjoint hgrouped.nonempty hpack fun _ _ => rfl
  refine ⟨seeds, p, hseeds, hp, hgrouped, arrange_nodes hfull hp, hpacked, hpacked.apart, ?_, ?_⟩
  · intro hpos
    apply (hpacked.apart hpos).imp_of_mem
    intro a b ha hb hlt u hu v hv heq
    have hmem : u ∈ p.nodes := by
      rw [arrange_nodes hfull hp]
      exact List.mem_flatten_of_mem ha hu
    obtain ⟨q, hq⟩ := Placement.get?_of_mem hmem
    exact (hlt q.x ⟨u, hu, q, hq, rfl⟩ q.x ⟨v, hv, q, heq ▸ hq, rfl⟩).false
  · intro hloops
    have hknown : ∀ node ∈ net.nodes, node ∈ seeds.nodes := by
      rw [seed_nodes hseeds]
      exact fun node hnode => hnode
    have hrow : pack compass measures engine net seeds ((0 : ℕ) * spacing)
        (net.nodes.map fun node => [node]) = _ := pack_singles rfl hknown 0
    rw [Nat.cast_zero, zero_mul, ← Network.components_of_loops hproper hloops, hpack] at hrow
    exact Except.ok.inj hrow

def stillCompass : Compass ℚ :=
  ⟨fun _ _ => 0, fun _ _ => 0⟩

def pairStarts : Placement ℚ :=
  [("a", ⟨5, 1⟩), ("b", ⟨8, 5⟩), ("c", ⟨7, 7⟩)]

def pairPlaces : Placement ℚ :=
  [("a", ⟨0, -2⟩), ("b", ⟨3, 2⟩), ("c", ⟨103, 0⟩)]

theorem components_packed_pair :
    (∀ (nodes : List String) (_ : List (List Bool)) (start : List (Point ℚ)),
      start.length = nodes.length → start.length = nodes.length) ∧
    ∃ seeds,
      seed stillCompass (.ofNumbers (fun _ => 1) 1 100 id : Measures String ℚ)
        (.ofEdges ["a", "b", "c"] [("a", "b")]) pairStarts = .ok seeds ∧
      arrange stillCompass (.ofNumbers (fun _ => 1) 1 100 id : Measures String ℚ)
        (.ofFunction fun _ _ start => start) (.ofEdges ["a", "b", "c"] [("a", "b")]) pairStarts =
        .ok pairPlaces ∧
      Arranged stillCompass (.ofNumbers (fun _ => 1) 1 100 id : Measures String ℚ)
        (.ofFunction fun _ _ start => start) (.ofEdges ["a", "b", "c"] [("a", "b")]) 100 seeds
        pairPlaces := by
  have hplace : ∀ (nodes : List String) (_ : List (List Bool)) (start : List (Point ℚ)),
      start.length = nodes.length → start.length = nodes.length := fun _ _ _ h => h
  obtain ⟨seeds, p, hseeds, hp, harranged⟩ := components_packed stillCompass (fun _ => 1) 1 100
    (id : String → String) hplace ["a", "b", "c"] [("a", "b")] pairStarts
  have hcomputed : arrange stillCompass (.ofNumbers (fun _ => 1) 1 100 id : Measures String ℚ)
      (.ofFunction fun _ _ start => start) (.ofEdges ["a", "b", "c"] [("a", "b")]) pairStarts =
      .ok pairPlaces := by
    decide +kernel
  cases hp.symm.trans hcomputed
  exact ⟨hplace, seeds, hseeds, hcomputed, harranged⟩

end

end DependencyAtlas.Layout
