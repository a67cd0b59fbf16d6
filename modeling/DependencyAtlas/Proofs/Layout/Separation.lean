import DependencyAtlas.Proofs.Layout.Packing
import Mathlib.Analysis.SpecialFunctions.Trigonometric.Angle

/-!
Separating nodes. A node whose point is taken moves aside, every node in a direction of its own, and where it comes
to is not looked at again. Nodes that are seeded on one point come apart so, but a node may come to the point of
another one that is no further away than twice the gap.
-/

namespace DependencyAtlas.Layout

section

variable {α : Type} [BEq α]

def Placement.Apart (p : Placement α) : Prop :=
  p.points.Pairwise fun a b => b.same a = false

instance (p : Placement α) : Decidable p.Apart :=
  inferInstanceAs (Decidable (p.points.Pairwise fun a b => b.same a = false))

theorem Placement.apart_iff {p : Placement α} :
    p.Apart ↔ ∀ (j : ℕ) (q : Point α), p.points[j]? = some q →
      (p.points.take j).any q.same = false := by
  simp only [Placement.Apart, List.pairwise_iff_getElem, List.any_eq_false, Bool.not_eq_true]
  constructor
  · intro h j q hj a ha
    obtain ⟨hlt, rfl⟩ := List.getElem?_eq_some_iff.mp hj
    obtain ⟨i, hi, rfl⟩ := List.mem_take_iff_getElem.mp ha
    exact h i j (by omega) hlt (by omega)
  · intro h i j hi hj hij
    exact h j _ (List.getElem?_eq_getElem hj) _
      (List.mem_take_iff_getElem.mpr ⟨i, by omega, rfl⟩)

theorem same_iff [LawfulBEq α] {p q : Point α} : p.same q = true ↔ p = q := by
  cases p
  cases q
  simp [Point.same]

theorem any_same_iff [LawfulBEq α] {taken : List (Point α)} {p : Point α} :
    taken.any p.same = true ↔ p ∈ taken := by
  simp [List.any_eq_true, same_iff]

theorem Placement.apart_iff_nodup [LawfulBEq α] {p : Placement α} : p.Apart ↔ p.points.Nodup := by
  have hne (a b : Point α) : b.same a = false ↔ a ≠ b := by
    rw [← Bool.not_eq_true, same_iff, ne_comm]
  simp only [Placement.Apart, hne]
  rfl

end

section

variable {ε α : Type} [Add α] [Mul α] [BEq α] {compass : Compass α} {measures : Measures ε α}
  {nodes : List String} {seeds start : Placement α} {taken : List (Point α)} {p q : Point α}
  {i n : ℕ}

theorem apart_of_free (h : taken.any p.same = false) :
    apart compass measures taken p i n = .ok p := by
  rw [apart, h]
  rfl

theorem apart_eq_ok_iff_of_taken (h : taken.any p.same = true) :
    apart compass measures taken p i n = .ok q ↔
      ∃ gap, measures.gap = .ok gap ∧ q = p.toward compass gap i n := by
  rw [apart, if_pos h, bind_eq_ok_iff]
  constructor
  · rintro ⟨gap, hgap, ⟨⟩⟩
    exact ⟨gap, hgap, rfl⟩
  · rintro ⟨gap, hgap, rfl⟩
    exact ⟨gap, hgap, rfl⟩

theorem apart_reverse (taken : List (Point α)) :
    apart compass measures taken.reverse p i n = apart compass measures taken p i n := by
  rw [apart, apart, List.any_reverse]

theorem separateFrom_step (earlier : List (Point α)) {count : ℕ}
    (h : separateFrom compass measures seeds count earlier.length earlier.reverse nodes = .ok start)
    {j : ℕ} {node : String} (hnode : nodes[j]? = some node) (hp : seeds.get? node = some p)
    (hq : start.points[j]? = some q) :
    apart compass measures (earlier ++ start.points.take j) p (earlier.length + j) count =
      .ok q := by
  induction nodes generalizing earlier start j with
  | nil => cases hnode
  | cons first rest ih =>
    simp only [separateFrom_cons, bind_eq_ok_iff] at h
    obtain ⟨p₀, hp₀, q₀, hq₀, others, hothers, ⟨⟩⟩ := h
    cases j with
    | zero =>
      cases hnode
      cases hq
      rw [placed, hp] at hp₀
      cases hp₀
      rw [apart_reverse] at hq₀
      simpa using hq₀
    | succ j =>
      have hlength : earlier.length + 1 = (earlier ++ [q₀]).length := by simp
      rw [← List.reverse_concat, hlength] at hothers
      have hstep := ih (earlier ++ [q₀]) hothers hnode hq
      simpa [Placement.points, Nat.add_right_comm, Nat.add_assoc] using hstep

structure Separated (compass : Compass α) (measures : Measures ε α) (nodes : List String)
    (seeds start : Placement α) : Prop where
  placed : start.nodes = nodes
  step : ∀ {j node p q}, nodes[j]? = some node → seeds.get? node = some p →
    start.points[j]? = some q →
    apart compass measures (start.points.take j) p j nodes.length = .ok q

theorem separate_separated (h : separate compass measures nodes seeds = .ok start) :
    Separated compass measures nodes seeds start where
  placed := separateFrom_nodes h
  step {j _ p q} hnode hp hq := by
    have hstep := separateFrom_step [] h hnode hp hq
    rwa [List.nil_append, List.length_nil, Nat.zero_add] at hstep

theorem Separated.length (h : Separated compass measures nodes seeds start) :
    start.points.length = nodes.length := by
  rw [← h.placed, Placement.points, Placement.nodes, List.length_map, List.length_map]

theorem Separated.exists_start (h : Separated compass measures nodes seeds start) {j : ℕ}
    {node : String} (hnode : nodes[j]? = some node) : ∃ q, start.points[j]? = some q := by
  obtain ⟨hj, -⟩ := List.getElem?_eq_some_iff.mp hnode
  exact ⟨_, List.getElem?_eq_getElem (h.length ▸ hj)⟩

theorem Separated.exists_seed (h : Separated compass measures nodes seeds start)
    (hseeded : ∀ node ∈ nodes, node ∈ seeds.nodes) {j : ℕ} (hq : start.points[j]? = some q) :
    ∃ node p, nodes[j]? = some node ∧ seeds.get? node = some p := by
  obtain ⟨hj, -⟩ := List.getElem?_eq_some_iff.mp hq
  rw [h.length] at hj
  have hnode : nodes[j]? = some nodes[j] := List.getElem?_eq_getElem hj
  obtain ⟨p, hp⟩ := Placement.get?_of_mem (hseeded _ (List.mem_of_getElem? hnode))
  exact ⟨_, p, hnode, hp⟩

theorem Separated.start_eq (h : Separated compass measures nodes seeds start) {gap : α}
    (hgap : measures.gap = .ok gap) {j : ℕ} {node : String} (hnode : nodes[j]? = some node)
    (hp : seeds.get? node = some p) (hq : start.points[j]? = some q) :
    q = if (start.points.take j).any p.same then p.toward compass gap j nodes.length else p := by
  have hstep := h.step hnode hp hq
  rw [apart_eq hgap] at hstep
  exact (Except.ok.inj hstep).symm

/-- A node has to move aside and comes to a point that is taken as well. -/
def Lands (compass : Compass α) (measures : Measures ε α) (nodes : List String)
    (seeds start : Placement α) : Prop :=
  ∃ j node p gap, nodes[j]? = some node ∧ seeds.get? node = some p ∧ measures.gap = .ok gap ∧
    (start.points.take j).any p.same = true ∧
    (start.points.take j).any (p.toward compass gap j nodes.length).same = true

theorem Separated.apart_iff (h : Separated compass measures nodes seeds start)
    (hseeded : ∀ node ∈ nodes, node ∈ seeds.nodes) :
    start.Apart ↔ ¬ Lands compass measures nodes seeds start := by
  rw [Placement.apart_iff]
  constructor
  · rintro hapart ⟨j, node, p, gap, hnode, hp, hgap, htaken, hlands⟩
    obtain ⟨q, hq⟩ := h.exists_start hnode
    obtain ⟨gap', hgap', rfl⟩ := (apart_eq_ok_iff_of_taken htaken).mp (h.step hnode hp hq)
    cases hgap.symm.trans hgap'
    rw [hapart j _ hq] at hlands
    cases hlands
  · intro hlands j q hq
    obtain ⟨node, p, hnode, hp⟩ := h.exists_seed hseeded hq
    have hstep := h.step hnode hp hq
    by_contra htaken
    rw [Bool.not_eq_false] at htaken
    cases hfree : (start.points.take j).any p.same with
    | false =>
      rw [apart_of_free hfree] at hstep
      cases hstep
      rw [hfree] at htaken
      cases htaken
    | true =>
      obtain ⟨gap, hgap, rfl⟩ := (apart_eq_ok_iff_of_taken hfree).mp hstep
      exact hlands ⟨j, node, p, gap, hnode, hp, hgap, hfree, htaken⟩

end

section

variable {α : Type} [Field α]

def Point.squareTo (p q : Point α) : α :=
  (q.x - p.x) ^ 2 + (q.y - p.y) ^ 2

theorem squareTo_comm (p q : Point α) : p.squareTo q = q.squareTo p := by
  simp only [Point.squareTo]
  ring

def Compass.OnCircle (compass : Compass α) (n : ℕ) : Prop :=
  ∀ i, compass.cos i n ^ 2 + compass.sin i n ^ 2 = 1

structure Compass.Round (compass : Compass α) (n : ℕ) : Prop where
  unit : ∀ i, compass.cos i n ^ 2 + compass.sin i n ^ 2 = 1
  distinct : ∀ {i j}, i < n → j < n → compass.cos i n = compass.cos j n →
    compass.sin i n = compass.sin j n → i = j

variable [LinearOrder α] [IsStrictOrderedRing α] {compass : Compass α} {n : ℕ} {gap : α}
  {p q : Point α} {i j : ℕ}

theorem squareTo_toward (hcircle : compass.OnCircle n) :
    p.squareTo (p.toward compass gap i n) = gap ^ 2 := by
  have hunit := hcircle i
  simp only [Point.squareTo, Point.toward, Point.shift]
  linear_combination gap ^ 2 * hunit

theorem toward_ne (hcircle : compass.OnCircle n) (hgap : 0 < gap) : p.toward compass gap i n ≠ p := by
  intro heq
  have hsquare : p.squareTo (p.toward compass gap i n) = gap ^ 2 := squareTo_toward hcircle
  rw [heq] at hsquare
  simp only [Point.squareTo, sub_self] at hsquare
  have hpos : 0 < gap ^ 2 := pow_pos hgap 2
  rw [← hsquare] at hpos
  simp at hpos

theorem toward_injective (hround : compass.Round n) (hgap : 0 < gap) (hi : i < n) (hj : j < n)
    (h : p.toward compass gap i n = p.toward compass gap j n) : i = j := by
  simp only [Point.toward, Point.shift, Point.mk.injEq, add_right_inj,
    mul_right_inj' hgap.ne'] at h
  exact hround.distinct hi hj h.1 h.2

theorem squareTo_of_meet (hround : compass.Round n)
    (h : p.toward compass gap i n = q.toward compass gap j n) : p.squareTo q ≤ (2 * gap) ^ 2 := by
  have hi := hround.unit i
  have hj := hround.unit j
  simp only [Point.toward, Point.shift, Point.mk.injEq] at h
  obtain ⟨hx, hy⟩ := h
  have hx' : q.x - p.x = gap * (compass.cos i n - compass.cos j n) := by linear_combination -hx
  have hy' : q.y - p.y = gap * (compass.sin i n - compass.sin j n) := by linear_combination -hy
  -- The two directions span a parallelogram, and its diagonals have this sum of squares.
  have hsum : p.squareTo q + gap ^ 2 * ((compass.cos i n + compass.cos j n) ^ 2 +
      (compass.sin i n + compass.sin j n) ^ 2) = (2 * gap) ^ 2 := by
    rw [Point.squareTo, hx', hy']
    linear_combination 2 * gap ^ 2 * hi + 2 * gap ^ 2 * hj
  have hrest : 0 ≤ gap ^ 2 * ((compass.cos i n + compass.cos j n) ^ 2 +
      (compass.sin i n + compass.sin j n) ^ 2) := by positivity
  linarith

variable {ε : Type} [BEq α] [LawfulBEq α] {measures : Measures ε α} {nodes : List String}
  {seeds start : Placement α}

theorem Separated.seeds_of_meet (h : Separated compass measures nodes seeds start)
    (hround : compass.Round nodes.length) (hmeasure : measures.gap = .ok gap) (hgap : 0 < gap)
    (hij : i < j) {u v : String} {r : Point α} (hu : nodes[i]? = some u) (hv : nodes[j]? = some v)
    (hp : seeds.get? u = some p) (hq : seeds.get? v = some q) (hi : start.points[i]? = some r)
    (hj : start.points[j]? = some r) : p ≠ q ∧ p.squareTo q ≤ (2 * gap) ^ 2 := by
  have hmem : r ∈ start.points.take j := by
    apply List.mem_of_getElem?
    rwa [List.getElem?_take_of_lt hij]
  -- The later node has moved, or it would be on a free point.
  have hmoved := h.start_eq hmeasure hv hq hj
  split at hmoved
  · have hfirst := h.start_eq hmeasure hu hp hi
    split at hfirst
    · have hmeet := hfirst.symm.trans hmoved
      refine ⟨?_, squareTo_of_meet hround hmeet⟩
      rintro rfl
      have hi' := (List.getElem?_eq_some_iff.mp hu).1
      have hj' := (List.getElem?_eq_some_iff.mp hv).1
      exact hij.ne (toward_injective hround hgap hi' hj' hmeet)
    · rw [← hfirst, squareTo_comm, hmoved, squareTo_toward hround.unit]
      exact ⟨toward_ne hround.unit hgap, pow_le_pow_left₀ hgap.le (by linarith) 2⟩
  · next hfree =>
    rw [← hmoved] at hfree
    exact absurd (any_same_iff.mpr hmem) hfree

def Scattered (distance : α) (nodes : List String) (seeds : Placement α) : Prop :=
  ∀ u ∈ nodes, ∀ v ∈ nodes, ∀ p q, seeds.get? u = some p → seeds.get? v = some q →
    p ≠ q → distance ^ 2 < p.squareTo q

theorem Separated.apart_of_scattered (h : Separated compass measures nodes seeds start)
    (hround : compass.Round nodes.length) (hmeasure : measures.gap = .ok gap) (hgap : 0 < gap)
    (hseeded : ∀ node ∈ nodes, node ∈ seeds.nodes) (hscattered : Scattered (2 * gap) nodes seeds) :
    start.Apart := by
  rw [Placement.apart_iff_nodup, List.nodup_iff_pairwise_ne, List.pairwise_iff_getElem]
  intro i j hi hj hij hsame
  have hi := List.getElem?_eq_getElem hi
  have hj := List.getElem?_eq_getElem hj
  obtain ⟨u, p, hu, hp⟩ := h.exists_seed hseeded hi
  obtain ⟨v, q, hv, hq⟩ := h.exists_seed hseeded hj
  obtain ⟨hne, hle⟩ :=
    h.seeds_of_meet hround hmeasure hgap hij hu hv hp hq hi (hsame ▸ hj)
  have hlt := hscattered u (List.mem_of_getElem? hu) v (List.mem_of_getElem? hv) p q hp hq hne
  exact absurd hle hlt.not_ge

end

/-- The directions themselves, of which `floatCompass` has the doubles. -/
noncomputable def circle : Compass ℝ where
  cos i n := Real.cos (Real.pi * (2 * i : ℕ) / n)
  sin i n := Real.sin (Real.pi * (2 * i : ℕ) / n)

theorem circle_round (n : ℕ) : circle.Round n where
  unit i := Real.cos_sq_add_sin_sq _
  distinct {i j} hi hj hcos hsin := by
    have hangle := Real.Angle.cos_sin_inj hcos hsin
    obtain ⟨k, hk⟩ := Real.Angle.angle_eq_iff_two_pi_dvd_sub.mp hangle
    have hn : (n : ℝ) ≠ 0 := Nat.cast_ne_zero.mpr (by omega)
    have hturns : ((i - j : ℤ) : ℝ) = ((k * n : ℤ) : ℝ) := by
      push_cast at hk ⊢
      field_simp at hk
      linear_combination hk
    have hdvd : (n : ℤ) ∣ i - j := Dvd.intro_left k (Int.cast_injective hturns).symm
    have hzero : (i : ℤ) - j = 0 := by
      apply Int.eq_zero_of_abs_lt_dvd hdvd
      rw [abs_lt]
      omega
    omega

/-- Nodes start on points of their own exactly if none that moves comes to a point that is taken. In exact numbers
this cannot happen to nodes seeded on one point, nor to ones further apart than twice the gap. -/
theorem starts_apart (policy : Policy) (nodes : List String) :
    (∀ seeds : Placement Float, (∀ node ∈ nodes, node ∈ seeds.nodes) →
      (∀ gap, policy.gap = .ok gap → ∃ start, policy.separate nodes seeds = .ok start) ∧
      ∀ start, policy.separate nodes seeds = .ok start → start.nodes = nodes ∧
        (start.Apart ↔ ¬ Lands floatCompass policy.measures nodes seeds start)) ∧
    ∀ (ε : Type) (measures : Measures ε ℝ) (gap : ℝ) (seeds : Placement ℝ),
      measures.gap = .ok gap → 0 < gap → (∀ node ∈ nodes, node ∈ seeds.nodes) →
        ∃ start, separate circle measures nodes seeds = .ok start ∧ start.nodes = nodes ∧
          (start.Apart ↔ ¬ Lands circle measures nodes seeds start) ∧
          (∀ (i j : ℕ) u v p q r, i < j → nodes[i]? = some u → nodes[j]? = some v →
            seeds.get? u = some p → seeds.get? v = some q → start.points[i]? = some r →
            start.points[j]? = some r → p ≠ q ∧ p.squareTo q ≤ (2 * gap) ^ 2) ∧
          (Scattered (2 * gap) nodes seeds → start.Apart) := by
  refine ⟨fun seeds hseeded => ⟨fun gap hgap => ?_, fun start hstart => ?_⟩, ?_⟩
  · exact separateFrom_eq_ok (mapError_eq_ok_iff.mpr hgap) hseeded nodes.length 0 []
  · have hsep := separate_separated hstart
    exact ⟨hsep.placed, hsep.apart_iff hseeded⟩
  · intro ε measures gap seeds hmeasure hgap hseeded
    obtain ⟨start, hstart⟩ : ∃ start, separate circle measures nodes seeds = .ok start :=
      separateFrom_eq_ok hmeasure hseeded nodes.length 0 []
    have hsep := separate_separated hstart
    have hround := circle_round nodes.length
    refine ⟨start, hstart, hsep.placed, hsep.apart_iff hseeded, ?_,
      hsep.apart_of_scattered hround hmeasure hgap hseeded⟩
    intro i j u v p q r hij hu hv hp hq hi hj
    exact hsep.seeds_of_meet hround hmeasure hgap hij hu hv hp hq hi hj

theorem starts_apart_scattered :
    (∃ start, ({} : Policy).separate ["a", "b"] [("a", ⟨0, 0⟩), ("b", ⟨0, 0⟩)] = .ok start ∧
      start.nodes = ["a", "b"] ∧ (start.Apart ↔ ¬ Lands floatCompass ({} : Policy).measures ["a", "b"]
        [("a", ⟨0, 0⟩), ("b", ⟨0, 0⟩)] start)) ∧
    ∃ start, separate circle (.ofNumbers (fun _ => 100) 10 100 id : Measures String ℝ)
        ["a", "b", "c"] [("a", ⟨0, 0⟩), ("b", ⟨0, 0⟩), ("c", ⟨30, 0⟩)] = .ok start ∧
      start.nodes = ["a", "b", "c"] ∧ start.Apart := by
  constructor
  · have hgap : ({} : Policy).gap = .ok 10.0 := by decide +kernel
    obtain ⟨hreturns, happly⟩ :=
      (starts_apart {} ["a", "b"]).1 [("a", ⟨0, 0⟩), ("b", ⟨0, 0⟩)] (by decide)
    obtain ⟨start, hstart⟩ := hreturns 10.0 hgap
    exact ⟨start, hstart, happly start hstart⟩
  · obtain ⟨start, hstart, hnodes, -, -, hscattered⟩ :=
      (starts_apart {} ["a", "b", "c"]).2 String (.ofNumbers (fun _ => 100) 10 100 id) 10
        [("a", ⟨0, 0⟩), ("b", ⟨0, 0⟩), ("c", ⟨30, 0⟩)] rfl (by norm_num) (by simp [Placement.nodes])
    refine ⟨start, hstart, hnodes, hscattered ?_⟩
    intro u hu v hv p q hp hq hne
    simp only [List.mem_cons, List.not_mem_nil, or_false] at hu hv
    rcases hu with rfl | rfl | rfl <;> rcases hv with rfl | rfl | rfl <;> cases hp <;> cases hq <;>
      first
      | exact absurd rfl hne
      | norm_num [Point.squareTo]

theorem circle_half : circle.cos 2 4 = -1 ∧ circle.sin 2 4 = 0 := by
  have hangle : Real.pi * (2 * 2 : ℕ) / (4 : ℕ) = Real.pi := by
    push_cast
    ring
  simp only [circle, hangle, Real.cos_pi, Real.sin_pi, and_self]

/-- The third node is moved off the point of the first and onto that of the second; in doubles as well, if the cosine
and the sine of the half turn are the nearest ones. -/
theorem starts_shared :
    (∃ start, separate circle (.ofNumbers (fun _ => 100) 10 100 id : Measures String ℝ)
        ["a", "b", "c", "d"]
        [("a", ⟨0, 100⟩), ("b", ⟨-10, 100⟩), ("c", ⟨0, 100⟩), ("d", ⟨50, 50⟩)] = .ok start ∧
      start.get? "b" = some ⟨-10, 100⟩ ∧ start.get? "c" = some ⟨-10, 100⟩ ∧ ¬ start.Apart) ∧
    (floatCompass.cos 2 4 = -1.0 → floatCompass.sin 2 4 = 1.2246467991473532e-16 →
      ∃ start, ({} : Policy).separate ["a", "b", "c", "d"]
          [("a", ⟨0, 100⟩), ("b", ⟨-10, 100⟩), ("c", ⟨0, 100⟩), ("d", ⟨50, 50⟩)] = .ok start ∧
        start.get? "b" = some ⟨-10, 100⟩ ∧ start.get? "c" = some ⟨-10, 100⟩ ∧ ¬ start.Apart) := by
  constructor
  · obtain ⟨hcos, hsin⟩ := circle_half
    have hstep (taken : List (Point ℝ)) (p : Point ℝ) (i : ℕ) :
        apart circle (.ofNumbers (fun _ => 100) 10 100 id : Measures String ℝ) taken p i 4 =
          .ok (if p ∈ taken then p.toward circle 10 i 4 else p) := by
      simp only [← any_same_iff]
      exact apart_eq rfl taken p i 4
    refine ⟨[("a", ⟨0, 100⟩), ("b", ⟨-10, 100⟩), ("c", ⟨-10, 100⟩), ("d", ⟨50, 50⟩)],
      separateFrom_cons_of_apart rfl ?_ (separateFrom_cons_of_apart rfl ?_
        (separateFrom_cons_of_apart rfl ?_ (separateFrom_cons_of_apart rfl ?_ rfl))), rfl, rfl, ?_⟩
    · exact (hstep _ _ _).trans (by norm_num)
    · exact (hstep _ _ _).trans (by norm_num)
    · exact (hstep _ _ _).trans (by norm_num [Point.toward, Point.shift, hcos, hsin])
    · exact (hstep _ _ _).trans (by norm_num)
    · simp [Placement.apart_iff_nodup, Placement.points]
  · intro hcos hsin
    have hgap : ({} : Policy).measures.gap = .ok 10.0 := by decide +kernel
    have hland : Point.toward floatCompass ⟨0, 100⟩ 10.0 2 4 = ⟨-10, 100⟩ := by
      rw [Point.toward, hcos, hsin]
      decide +kernel
    refine ⟨[("a", ⟨0, 100⟩), ("b", ⟨-10, 100⟩), ("c", ⟨-10, 100⟩), ("d", ⟨50, 50⟩)],
      separateFrom_cons_of_apart rfl ?_ (separateFrom_cons_of_apart rfl ?_
        (separateFrom_cons_of_apart rfl ?_ (separateFrom_cons_of_apart rfl ?_ rfl))), rfl, rfl, ?_⟩
    · exact apart_of_free rfl
    · exact apart_of_free (by decide +kernel)
    · rw [apart_eq hgap, if_pos (by decide +kernel)]
      exact congrArg Except.ok hland
    · exact apart_of_free (by decide +kernel)
    · decide +kernel

end DependencyAtlas.Layout
