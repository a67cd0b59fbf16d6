import DependencyAtlas.Layout.Policy
import DependencyAtlas.Proofs.Lookup
import DependencyAtlas.Proofs.Results
import Mathlib.Algebra.Order.Field.Basic
import Mathlib.Algebra.Order.Ring.Rat
import Mathlib.Data.List.Chain
import Mathlib.Tactic.Ring

namespace DependencyAtlas.Layout

section

variable {α : Type} [Add α] [Sub α] [Mul α] [Div α] [NatCast α] {old new : Placement α}

theorem frame_nodes (step count : ℕ) : (frame old new step count).nodes = new.nodes := by
  rw [frame, Placement.nodes, List.map_map]
  rfl

theorem frame_get? (step count : ℕ) (node : String) :
    (frame old new step count).get? node =
      (new.get? node).map fun q => ((old.get? node).getD q).between q step count :=
  lookup_mapKeyed (fun node q => ((old.get? node).getD q).between q step count) node new

theorem frames_nodes {count : ℕ} : ∀ f ∈ frames old new count, f.nodes = new.nodes := by
  intro f hf
  rcases List.mem_append.mp hf with hmove | hend
  · obtain ⟨i, -, rfl⟩ := List.mem_map.mp hmove
    exact frame_nodes _ _
  · rw [List.mem_singleton.mp hend]

theorem frames_getLast? (count : ℕ) : (frames old new count).getLast? = some new := by
  rw [frames, List.getLast?_concat]

namespace Policy

variable {p : Policy} {shown : List (Placement α)}

theorem transition_eq_frames (h : p.transition old new = .ok shown) :
    ∃ count, shown = frames old new count := by
  rw [transition] at h
  split at h
  · cases h
    exact ⟨0, rfl⟩
  · obtain ⟨count, -, ⟨⟩⟩ := bind_eq_ok_iff.mp h
    exact ⟨count, rfl⟩

theorem transition_nodes (h : p.transition old new = .ok shown) : ∀ q ∈ shown, q.nodes = new.nodes := by
  obtain ⟨count, rfl⟩ := transition_eq_frames h
  exact frames_nodes

theorem transition_getLast? (h : p.transition old new = .ok shown) : shown.getLast? = some new := by
  obtain ⟨count, rfl⟩ := transition_eq_frames h
  exact frames_getLast? count

theorem frameCount_of_int? {n : ℤ} (h : p.animationFrames.int? = some n) : p.frameCount = .ok n.toNat := by
  rw [frameCount]
  split
  · next hfloat =>
    rw [hfloat] at h
    cases h
  · rw [h]

theorem transition_of_moved {n : ℕ} (hanimate : p.animate.truthy = true)
    (hn : p.animationFrames.int? = some (n : ℤ)) (hold : old ≠ []) :
    p.transition old new = .ok (frames old new n) := by
  have hempty : old.isEmpty = false := by simpa using hold
  simp only [transition, hanimate, hempty, Bool.not_true, Bool.or_self, frameCount_of_int? hn]
  rfl

theorem transition_of_still (h : p.animate.truthy = false ∨ old = [] ∨
      ∃ n, p.animationFrames.int? = some n ∧ n ≤ 1) :
    p.transition old new = .ok [new] := by
  rw [transition]
  split
  · rfl
  · next hmoves =>
    rcases h with hanimate | rfl | ⟨n, hn, hle⟩
    · simp [hanimate] at hmoves
    · simp at hmoves
    · have hcount : n.toNat - 1 = 0 := by omega
      rw [frameCount_of_int? hn]
      simp only [Except.mapError, ok_bind, frames, hcount]
      rfl

end Policy

end

section

variable {α : Type} [Field α] {p q : Point α}

theorem between_zero (n : ℕ) : p.between q 0 n = p := by
  simp [Point.between]

theorem between_same (step n : ℕ) : p.between p step n = p := by
  simp [Point.between]

def way (p q : Point α) (n : ℕ) : List (Point α) :=
  (List.range n).map fun i => p.between q (i + 1) n

theorem cons_way (p q : Point α) (n : ℕ) :
    p :: way p q n = (List.range (n + 1)).map fun i => p.between q i n := by
  rw [List.range_succ_eq_map, List.map_cons, List.map_map, between_zero]
  rfl

variable [LinearOrder α] [IsStrictOrderedRing α] {old new : Placement α} {n : ℕ}

theorem between_self (hn : n ≠ 0) : p.between q n n = q := by
  have hn' : (n : α) ≠ 0 := Nat.cast_ne_zero.mpr hn
  simp [Point.between, div_self hn']

theorem frame_self (hn : n ≠ 0) : frame old new n n = new := by
  simp only [frame, between_self hn]
  exact List.map_id _

theorem frames_eq (hn : n ≠ 0) :
    frames old new n = (List.range n).map fun i => frame old new (i + 1) n := by
  obtain ⟨k, rfl⟩ := Nat.exists_eq_succ_of_ne_zero hn
  rw [frames, Nat.succ_sub_one, List.range_succ, List.map_append, List.map_singleton, frame_self hn]

theorem between_sub (i : ℕ) :
    (p.between q (i + 1) n).x - (p.between q i n).x = (q.x - p.x) / n ∧
      (p.between q (i + 1) n).y - (p.between q i n).y = (q.y - p.y) / n := by
  simp only [Point.between]
  push_cast
  constructor <;> ring

theorem between_injective (hn : n ≠ 0) (hne : p ≠ q) : Function.Injective fun i => p.between q i n := by
  intro i j h
  have hn' : (n : α) ≠ 0 := Nat.cast_ne_zero.mpr hn
  have hsame (d : α) (hd : d ≠ 0) (h : d * ((i : α) / n) = d * ((j : α) / n)) : i = j := by
    exact Nat.cast_injective ((div_left_inj' hn').mp (mul_left_cancel₀ hd h))
  simp only [Point.between, Point.mk.injEq, add_right_inj] at h
  by_cases hx : q.x - p.x = 0
  · apply hsame (q.y - p.y) _ h.2
    intro hy
    apply hne
    cases p
    cases q
    simp_all [sub_eq_zero]
  · exact hsame _ hx h.1

structure EvenWay (p q : Point α) (n : ℕ) (points : List (Point α)) : Prop where
  steps : (p :: points).IsChain fun a b =>
    b.x - a.x = (q.x - p.x) / n ∧ b.y - a.y = (q.y - p.y) / n
  arrives : points.getLast? = some q
  between : ∀ r ∈ points, ∃ t : α, 0 ≤ t ∧ t ≤ 1 ∧
    r.x = p.x + (q.x - p.x) * t ∧ r.y = p.y + (q.y - p.y) * t
  nodup : p ≠ q → (p :: points).Nodup

theorem way_even (hn : n ≠ 0) (p q : Point α) : EvenWay p q n (way p q n) where
  steps := by
    rw [cons_way, List.isChain_iff_getElem]
    intro i hi
    simp only [List.getElem_map, List.getElem_range]
    exact between_sub i
  arrives := by
    simp [way, List.getLast?_range, hn, between_self hn, Nat.sub_one_add_one hn]
  between r hr := by
    obtain ⟨i, hi, rfl⟩ := List.mem_map.mp hr
    have hle : ((i + 1 : ℕ) : α) ≤ n := Nat.cast_le.mpr (List.mem_range.mp hi)
    exact ⟨((i + 1 : ℕ) : α) / n, div_nonneg (Nat.cast_nonneg _) (Nat.cast_nonneg n),
      div_le_one_of_le₀ hle (Nat.cast_nonneg n), rfl, rfl⟩
  nodup hne := by
    rw [cons_way]
    exact List.nodup_range.map (between_injective hn hne)

/-- Nodes that were there before go an even way to their new places, and the other ones are there at once. -/
structure EvenMove (old new : Placement α) (n : ℕ) (shown : List (Placement α)) : Prop where
  length : shown.length = n
  nodes : ∀ f ∈ shown, f.nodes = new.nodes
  last : shown.getLast? = some new
  moving : ∀ {node p q}, old.get? node = some p → new.get? node = some q →
    ∃ points, shown.map (·.get? node) = points.map some ∧ EvenWay p q n points
  staying : ∀ {node q}, old.get? node = none → new.get? node = some q →
    ∀ f ∈ shown, f.get? node = some q
  gone : ∀ {node}, new.get? node = none → ∀ f ∈ shown, f.get? node = none

theorem frames_even (hn : n ≠ 0) (old new : Placement α) : EvenMove old new n (frames old new n) where
  length := by rw [frames_eq hn, List.length_map, List.length_range]
  nodes := frames_nodes
  last := frames_getLast? n
  moving {node p q} hold hnew := by
    refine ⟨way p q n, ?_, way_even hn p q⟩
    rw [frames_eq hn, way, List.map_map, List.map_map]
    apply List.map_congr_left
    intro i _
    simp only [Function.comp_apply, frame_get?, hold, hnew, Option.map_some, Option.getD_some]
  staying {node q} hold hnew f hf := by
    rw [frames_eq hn] at hf
    obtain ⟨i, -, rfl⟩ := List.mem_map.mp hf
    rw [frame_get?, hold, hnew, Option.map_some, Option.getD_none, between_same]
  gone {node} hnew f hf := by
    rw [frames_eq hn] at hf
    obtain ⟨i, -, rfl⟩ := List.mem_map.mp hf
    rw [frame_get?, hnew, Option.map_none]

theorem moves_evenly (policy : Policy) (old new : Placement α) :
    (∀ n : ℕ, policy.animate.truthy = true → policy.animationFrames.int? = some (n : ℤ) → 1 < n →
      old ≠ [] → ∃ shown, policy.transition old new = .ok shown ∧ EvenMove old new n shown) ∧
    (policy.animate.truthy = false ∨ old = [] ∨
        (∃ n, policy.animationFrames.int? = some n ∧ n ≤ 1) →
      policy.transition old new = .ok [new]) := by
  refine ⟨fun n hanimate hcount hn hold => ?_, Policy.transition_of_still⟩
  exact ⟨_, Policy.transition_of_moved hanimate hcount hold, frames_even (by omega) old new⟩

end

theorem moves_evenly_thrice :
    ∃ shown, ({ animationFrames := .int 3 } : Policy).transition
        [("a", ⟨0, 6⟩), ("c", ⟨9, 9⟩)] [("b", ⟨1, 1⟩), ("a", (⟨3, 0⟩ : Point ℚ))] = .ok shown ∧
      shown = [[("b", ⟨1, 1⟩), ("a", ⟨1, 4⟩)], [("b", ⟨1, 1⟩), ("a", ⟨2, 2⟩)],
        [("b", ⟨1, 1⟩), ("a", ⟨3, 0⟩)]] ∧
      EvenMove [("a", ⟨0, 6⟩), ("c", ⟨9, 9⟩)] [("b", ⟨1, 1⟩), ("a", ⟨3, 0⟩)] 3 shown := by
  obtain ⟨shown, hshown, heven⟩ :=
    (moves_evenly { animationFrames := .int 3 } [("a", ⟨0, 6⟩), ("c", ⟨9, 9⟩)]
      [("b", ⟨1, 1⟩), ("a", (⟨3, 0⟩ : Point ℚ))]).1 3 rfl rfl (by decide) (by decide)
  refine ⟨shown, hshown, ?_, heven⟩
  rw [Policy.transition_of_moved rfl rfl (by decide)] at hshown
  cases hshown
  decide +kernel

end DependencyAtlas.Layout
