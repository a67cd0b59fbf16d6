import DependencyAtlas.Proofs.Layout.Pairs
import DependencyAtlas.Proofs.Layout.Separation

namespace DependencyAtlas.Layout

theorem Placement.get?_eq_getElem? {α : Type} {p : Placement α} (hnodup : p.nodes.Nodup) {j : ℕ} {node : String}
    (h : p.nodes[j]? = some node) : p.get? node = p.points[j]? := by
  rw [Placement.nodes, List.getElem?_map] at h
  obtain ⟨entry, hentry, rfl⟩ := Option.map_eq_some_iff.mp h
  rw [Placement.points, List.getElem?_map, hentry]
  exact lookup_of_mem hnodup (List.mem_of_getElem? hentry)

theorem get?_of_distinct {α : Type} {nodes : List String} {seeds start : Placement α}
    (hseeded : ∀ node ∈ nodes, node ∈ seeds.nodes)
    (hmoved : ∀ {before node after p}, nodes = before ++ node :: after → seeds.get? node = some p →
      start.get? node ≠ some p → ∃ earlier ∈ before, start.get? earlier = some p)
    (hdistinct : (nodes.map seeds.get?).Nodup) {before after : List String} (hnodes : nodes = before ++ after) :
    ∀ node ∈ before, start.get? node = seeds.get? node := by
  induction before using List.reverseRecOn generalizing after with
  | nil => simp
  | append_singleton before node ih =>
    rw [List.append_assoc, List.singleton_append] at hnodes
    have hbefore := ih hnodes
    intro other hother
    rcases List.mem_append.mp hother with hearlier | hlast
    · exact hbefore other hearlier
    obtain rfl := List.mem_singleton.mp hlast
    obtain ⟨p, hp⟩ := Placement.get?_of_mem (hseeded other (by simp [hnodes]))
    rw [hp]
    by_contra hne
    obtain ⟨earlier, hearlier, hstart⟩ := hmoved hnodes hp hne
    rw [hbefore earlier hearlier] at hstart
    rw [hnodes, List.map_append, List.map_cons] at hdistinct
    exact (List.nodup_append.mp hdistinct).2.2 _ (List.mem_map_of_mem hearlier) _ List.mem_cons_self
      (hstart.trans hp.symm)

section

variable {ε α : Type} [Add α] [Mul α] [BEq α] {compass : Compass α} {measures : Measures ε α}
  {nodes : List String} {seeds seeds' start start' : Placement α} {j : ℕ}

theorem separateFrom_take {count i : ℕ} {taken : List (Point α)}
    (h : separateFrom compass measures seeds count i taken nodes = .ok start) (m : ℕ) :
    separateFrom compass measures seeds count i taken (nodes.take m) = .ok (start.take m) := by
  induction nodes generalizing i taken start m with
  | nil =>
    cases h
    rw [List.take_nil, List.take_nil]
    rfl
  | cons node rest ih =>
    simp only [separateFrom_cons, bind_eq_ok_iff] at h
    obtain ⟨p, hp, q, hq, others, hothers, ⟨⟩⟩ := h
    cases m with
    | zero => rfl
    | succ m =>
      rw [List.take_succ_cons, separateFrom_cons, hp, ok_bind, hq, ok_bind, ih hothers m]
      rfl

theorem separate_take (h : separate compass measures nodes seeds = .ok start)
    (h' : separate compass measures nodes seeds' = .ok start') {m : ℕ}
    (hsame : ∀ node ∈ nodes.take m, seeds'.get? node = seeds.get? node) : start'.take m = start.take m := by
  have hfirst := separateFrom_take h' m
  rw [separateFrom_congr hsame] at hfirst
  exact Except.ok.inj (hfirst.symm.trans (separateFrom_take h m))

theorem Separated.get?_eq (h : Separated compass measures nodes seeds start) (hnodup : nodes.Nodup) {node : String}
    (hnode : nodes[j]? = some node) : start.get? node = start.points[j]? := by
  rw [← h.placed] at hnodup hnode
  exact Placement.get?_eq_getElem? hnodup hnode

theorem Separated.mem_take_iff (h : Separated compass measures nodes seeds start) (hnodup : nodes.Nodup)
    {p : Point α} : p ∈ start.points.take j ↔ ∃ earlier ∈ nodes.take j, start.get? earlier = some p := by
  simp only [List.mem_iff_getElem?, List.getElem?_take, Option.ite_none_right_eq_some]
  constructor
  · rintro ⟨i, hi, hp⟩
    obtain ⟨hlt, -⟩ := List.getElem?_eq_some_iff.mp hp
    rw [h.length] at hlt
    have hnode : nodes[i]? = some nodes[i] := List.getElem?_eq_getElem hlt
    exact ⟨_, ⟨i, hi, hnode⟩, (h.get?_eq hnodup hnode).trans hp⟩
  · rintro ⟨earlier, ⟨i, hi, hnode⟩, hp⟩
    exact ⟨i, hi, (h.get?_eq hnodup hnode).symm.trans hp⟩

theorem Separated.get?_cases [LawfulBEq α] (h : Separated compass measures nodes seeds start) {gap : α}
    (hmeasure : measures.gap = .ok gap) (hnodup : nodes.Nodup) {node : String} {p : Point α}
    (hnode : nodes[j]? = some node) (hp : seeds.get? node = some p) :
    ((∃ earlier ∈ nodes.take j, start.get? earlier = some p) ∧
      start.get? node = some (p.toward compass gap j nodes.length)) ∨
    ((¬ ∃ earlier ∈ nodes.take j, start.get? earlier = some p) ∧ start.get? node = some p) := by
  obtain ⟨q, hq⟩ := h.exists_start hnode
  have hstart := h.start_eq hmeasure hnode hp hq
  rw [h.get?_eq hnodup hnode, hq, ← h.mem_take_iff hnodup, ← any_same_iff]
  split at hstart
  · next htaken => exact .inl ⟨htaken, congrArg some hstart⟩
  · next hfree => exact .inr ⟨hfree, congrArg some hstart⟩

end

section

variable {ε α : Type} [Field α] [LinearOrder α] [IsStrictOrderedRing α] [BEq α] [LawfulBEq α] {compass : Compass α}
  {measures : Measures ε α} {nodes : List String} {seeds start : Placement α} {gap : α}

/-- The nodes are moved that are seeded where an earlier one starts, each by the gap, and no other ones. -/
structure Displaced (gap : α) (nodes : List String) (seeds start : Placement α) : Prop where
  placed : start.nodes = nodes
  moved_iff : ∀ {before node after p}, nodes = before ++ node :: after → seeds.get? node = some p →
    (start.get? node ≠ some p ↔ ∃ earlier ∈ before, start.get? earlier = some p)
  distance : ∀ {node p q}, node ∈ nodes → seeds.get? node = some p → start.get? node = some q → q ≠ p →
    p.squareTo q = gap ^ 2
  still : (nodes.map seeds.get?).Nodup → ∀ node ∈ nodes, start.get? node = seeds.get? node

theorem Separated.displaced (h : Separated compass measures nodes seeds start)
    (hcircle : compass.OnCircle nodes.length) (hmeasure : measures.gap = .ok gap) (hgap : 0 < gap)
    (hnodup : nodes.Nodup) (hseeded : ∀ node ∈ nodes, node ∈ seeds.nodes) :
    Displaced gap nodes seeds start := by
  have hmoved {before after : List String} {node : String} {p : Point α} (hnodes : nodes = before ++ node :: after)
      (hp : seeds.get? node = some p) :
      start.get? node ≠ some p ↔ ∃ earlier ∈ before, start.get? earlier = some p := by
    have hnode : nodes[before.length]? = some node := by simp [hnodes]
    have htake : nodes.take before.length = before := by simp [hnodes]
    have hcases := h.get?_cases hmeasure hnodup hnode hp
    rw [htake] at hcases
    rcases hcases with ⟨htaken, hstart⟩ | ⟨hfree, hstart⟩
    · refine iff_of_true ?_ htaken
      rw [hstart, ne_eq, Option.some.injEq]
      exact toward_ne hcircle hgap
    · exact iff_of_false (not_not.mpr hstart) hfree
  refine ⟨h.placed, hmoved, ?_, fun hdistinct => ?_⟩
  · intro node p q hmem hp hq hne
    obtain ⟨j, hnode⟩ := List.mem_iff_getElem?.mp hmem
    rcases h.get?_cases hmeasure hnodup hnode hp with ⟨-, hstart⟩ | ⟨-, hstart⟩
    · obtain rfl := Option.some.inj (hstart.symm.trans hq)
      exact squareTo_toward hcircle
    · exact absurd (Option.some.inj (hq.symm.trans hstart)) hne
  · exact get?_of_distinct hseeded (fun hnodes hp => (hmoved hnodes hp).mp) hdistinct (List.append_nil nodes).symm

variable (nodes seeds) in
theorem moves_taken (hcircle : compass.OnCircle nodes.length) (hmeasure : measures.gap = .ok gap) (hgap : 0 < gap)
    (hnodup : nodes.Nodup) (hseeded : ∀ node ∈ nodes, node ∈ seeds.nodes) :
    ∃ start, separate compass measures nodes seeds = .ok start ∧ Displaced gap nodes seeds start ∧
      ∀ (m : ℕ) (seeds' : Placement α), (∀ node ∈ nodes, node ∈ seeds'.nodes) →
        (∀ node ∈ nodes.take m, seeds'.get? node = seeds.get? node) →
        ∃ start', separate compass measures nodes seeds' = .ok start' ∧ start'.take m = start.take m := by
  obtain ⟨start, hstart⟩ : ∃ start, separate compass measures nodes seeds = .ok start :=
    separateFrom_eq_ok hmeasure hseeded nodes.length 0 []
  refine ⟨start, hstart, (separate_separated hstart).displaced hcircle hmeasure hgap hnodup hseeded, ?_⟩
  intro m seeds' hseeded' hsame
  obtain ⟨start', hstart'⟩ : ∃ start', separate compass measures nodes seeds' = .ok start' :=
    separateFrom_eq_ok hmeasure hseeded' nodes.length 0 []
  exact ⟨start', hstart', separate_take hstart hstart' hsame⟩

end

def slope : Compass ℚ where
  cos _ _ := 3 / 5
  sin _ _ := 4 / 5

theorem moves_taken_slope :
    ∃ start, separate slope (.ofNumbers (fun _ => 100) 10 100 id : Measures String ℚ) ["a", "b", "c"]
        [("a", ⟨0, 0⟩), ("b", ⟨0, 0⟩), ("c", ⟨6, 8⟩)] = .ok start ∧
      start = [("a", ⟨0, 0⟩), ("b", ⟨6, 8⟩), ("c", ⟨12, 16⟩)] ∧
      Displaced 10 ["a", "b", "c"] [("a", ⟨0, 0⟩), ("b", ⟨0, 0⟩), ("c", ⟨6, 8⟩)] start ∧
      ∃ start', separate slope (.ofNumbers (fun _ => 100) 10 100 id : Measures String ℚ) ["a", "b", "c"]
          [("a", ⟨0, 0⟩), ("b", ⟨0, 0⟩), ("c", ⟨0, 1⟩)] = .ok start' ∧ start'.take 2 = start.take 2 := by
  have hcircle : slope.OnCircle 3 := by
    intro i
    norm_num [slope]
  have hgap : (Measures.ofNumbers (fun _ => 100) 10 100 id : Measures String ℚ).gap = .ok 10 := rfl
  obtain ⟨start, hstart, hdisplaced, hfirst⟩ :=
    moves_taken ["a", "b", "c"] [("a", ⟨0, 0⟩), ("b", ⟨0, 0⟩), ("c", ⟨6, 8⟩)] hcircle hgap (by norm_num)
      (by decide) (by decide)
  refine ⟨start, hstart, ?_, hdisplaced, hfirst 2 _ (by decide) (by decide +kernel)⟩
  have hvalue : separate slope (.ofNumbers (fun _ => 100) 10 100 id : Measures String ℚ) ["a", "b", "c"]
      [("a", ⟨0, 0⟩), ("b", ⟨0, 0⟩), ("c", ⟨6, 8⟩)] =
        .ok [("a", ⟨0, 0⟩), ("b", ⟨6, 8⟩), ("c", ⟨12, 16⟩)] := by
    decide +kernel
  exact Except.ok.inj (hstart.symm.trans hvalue)

end DependencyAtlas.Layout
