import DependencyAtlas.Proofs.Drawing.Pictures
import DependencyAtlas.Proofs.Layout.Packing
import Mathlib.Algebra.Order.Floor.Ring
import Mathlib.Data.Rat.Floor

/-!
What a figure has room for. Its axes reach a padding beyond the outermost nodes of all placements that it shows and
no further, so that nothing lies outside; a figure of the whole graph is as large as its axes, or of the least size.
-/

namespace DependencyAtlas.Drawing

open Layout

section

variable {α : Type}

def coordinates (f : Point α → α) (shown : List (Placement α)) : Set α :=
  {c | ∃ p ∈ shown, ∃ entry ∈ p, f entry.2 = c}

theorem mem_coordinates {f : Point α → α} {shown : List (Placement α)} {c : α} :
    c ∈ (shown.flatMap Placement.points).map f ↔ c ∈ coordinates f shown := by
  simp only [coordinates, Placement.points, List.mem_map, List.mem_flatMap, Set.mem_ofPred_eq]
  constructor
  · rintro ⟨_, ⟨p, hp, entry, hentry, rfl⟩, rfl⟩
    exact ⟨p, hp, entry, hentry, rfl⟩
  · rintro ⟨p, hp, entry, hentry, rfl⟩
    exact ⟨_, ⟨p, hp, entry, hentry, rfl⟩, rfl⟩

def Note.anchors : Note α → List (Point α)
  | .arrow source target _ => [source, target]
  | .label _ middle _ => [middle]

def Picture.anchors (pic : Picture α) : List (Point α) :=
  pic.markers.points ++ pic.notes.flatMap Note.anchors

def Figure.pictures (figure : Figure α) : List (Picture α) :=
  figure.picture :: (figure.animation.map Animation.pictures).getD []

theorem forall₂_mem_right {β γ : Type} {R : β → γ → Prop} {xs : List β} {ys : List γ} {y : γ}
    (h : List.Forall₂ R xs ys) (hy : y ∈ ys) : ∃ x ∈ xs, R x y := by
  induction h with
  | nil => cases hy
  | cons hfirst _ ih =>
    rcases List.mem_cons.mp hy with rfl | hy
    · exact ⟨_, List.mem_cons_self, hfirst⟩
    · obtain ⟨x, hx, hR⟩ := ih hy
      exact ⟨x, List.mem_cons_of_mem _ hx, hR⟩

theorem Visualization.Displays.exists_shown [Add α] [Div α] [NatCast α] {v : Visualization α}
    {options : FigureOptions} {figure : Figure α} (h : v.Displays options figure) {pic : Picture α}
    (hpic : pic ∈ figure.pictures) :
    ∃ p ∈ v.shown options.animated, pic.Shows v.graph v.selected p := by
  obtain ⟨⟨p, hp, hfirst⟩, hmoving, hstill⟩ := h
  rcases List.mem_cons.mp hpic with rfl | hpic
  · exact ⟨p, List.mem_of_head? hp, hfirst⟩
  · by_cases hmoves : options.animated = true ∧ 1 < v.frames.length
    · obtain ⟨animation, hmoved, -, hframes⟩ := hmoving hmoves
      rw [hmoved] at hpic
      rw [shown, if_pos hmoves]
      exact forall₂_mem_right hframes hpic
    · rw [hstill hmoves] at hpic
      cases hpic

end

section

variable {α : Type} [Field α] [LinearOrder α]

structure Fits (room : α) (values : Set α) (s : Span α) : Prop where
  inside : ∀ c ∈ values, s.low + room ≤ c ∧ c ≤ s.high - room
  least : values.Nonempty → ∀ t : Span α, (∀ c ∈ values, t.low + room ≤ c ∧ c ≤ t.high - room) →
    t.low ≤ s.low ∧ s.high ≤ t.high
  attained : values.Nonempty → s.low + room ∈ values ∧ s.high - room ∈ values
  empty : values = ∅ → s = ⟨-room, room⟩

def Figure.Holds (room : α) (figure : Figure α) (q : Point α) : Prop :=
  (figure.across.low + room ≤ q.x ∧ q.x ≤ figure.across.high - room) ∧
    figure.upwards.low + room ≤ q.y ∧ q.y ≤ figure.upwards.high - room

def exactGauge [FloorRing α] (heading : α → α → α) : Gauge α :=
  ⟨heading, fun x => .ok ⌈x⌉⟩

variable [IsStrictOrderedRing α]

theorem fits_widen {values : Set α} {s : Span α} (hlow : IsLeast values s.low)
    (hhigh : IsGreatest values s.high) (room : α) : Fits room values (s.widen room) where
  inside c hc := by
    simp only [Span.widen, sub_add_cancel, add_sub_cancel_right]
    exact ⟨hlow.2 hc, hhigh.2 hc⟩
  least _ t ht := by
    have hleft := (ht _ hlow.1).1
    have hright := (ht _ hhigh.1).2
    simp only [Span.widen]
    constructor <;> linarith
  attained _ := by
    simp only [Span.widen, sub_add_cancel, add_sub_cancel_right]
    exact ⟨hlow.1, hhigh.1⟩
  empty hempty := by
    rw [hempty] at hlow
    exact hlow.1.elim

theorem Figure.Holds.middle {room : α} {figure : Figure α} {a b : Point α}
    (ha : figure.Holds room a) (hb : figure.Holds room b) : figure.Holds room (middle a b) := by
  obtain ⟨⟨hax, hax'⟩, hay, hay'⟩ := ha
  obtain ⟨⟨hbx, hbx'⟩, hby, hby'⟩ := hb
  simp only [Figure.Holds, Drawing.middle, Nat.cast_ofNat]
  refine ⟨⟨?_, ?_⟩, ?_, ?_⟩ <;> linarith

theorem EdgeNotes.held {room : α} {figure : Figure α} {selected : Option String} {e : Edge}
    {a b : Point α} {part : List (Note α)} (h : EdgeNotes selected e a b part)
    (ha : figure.Holds room a) (hb : figure.Holds room b) :
    ∀ note ∈ part, ∀ q ∈ note.anchors, figure.Holds room q := by
  obtain ⟨color, angle, -⟩ := h
  intro note hnote q hq
  rcases List.mem_append.mp hnote with harrow | hlabel
  · split at harrow
    · cases harrow
    · rw [List.mem_singleton.mp harrow] at hq
      rcases List.mem_pair.mp hq with rfl | rfl
      · exact ha
      · exact hb
  · split at hlabel
    · cases hlabel
    · rw [List.mem_singleton.mp hlabel] at hq
      rw [List.mem_singleton.mp hq]
      exact ha.middle hb

theorem Picture.Shows.held {room : α} {figure : Figure α} {g : Graph} {selected : Option String}
    {p : Placement α} {pic : Picture α} (h : pic.Shows g selected p)
    (hheld : ∀ entry ∈ p, figure.Holds room entry.2) : ∀ q ∈ pic.anchors, figure.Holds room q := by
  have hplaced {id : String} {q : Point α} (hq : p.get? id = some q) : figure.Holds room q :=
    hheld (id, q) (mem_of_lookup hq)
  intro q hq
  rcases List.mem_append.mp hq with hmarker | hnote
  · obtain ⟨id, -, hid⟩ := forall₂_mem_right h.points hmarker
    exact hplaced hid
  · obtain ⟨parts, hparts, hedges⟩ := h.notes
    obtain ⟨note, hnote, hq⟩ := List.mem_flatMap.mp hnote
    rw [hparts] at hnote
    obtain ⟨part, hpart, hnote⟩ := List.mem_flatten.mp hnote
    obtain ⟨e, -, a, b, ha, hb, hnotes⟩ := forall₂_mem_right hedges hpart
    exact hnotes.held (hplaced ha) (hplaced hb) note hnote q hq

namespace Visualization

theorem extentOf_fits (values : List α) :
    Fits ((padding : ℕ) : α) {c | c ∈ values} (extentOf values) := by
  cases values with
  | nil =>
    refine ⟨nofun, nofun, nofun, fun _ => ?_⟩
    simp [extentOf, Span.widen]
  | cons a rest =>
    obtain ⟨hlow, hhigh⟩ := around_bounds a rest
    exact fits_widen hlow hhigh _

theorem extent_fits (f : Point α → α) (shown : List (Placement α)) :
    Fits ((padding : ℕ) : α) (coordinates f shown)
      (extentOf ((shown.flatMap Placement.points).map f)) := by
  have hvalues : {c | c ∈ (shown.flatMap Placement.points).map f} = coordinates f shown :=
    Set.ext fun _ => mem_coordinates
  rw [← hvalues]
  exact extentOf_fits _

variable [FloorRing α] {heading : α → α → α}

theorem sizeOf_isLeast {s : Span α} {n : ℤ} (h : sizeOf (exactGauge heading) s = .ok n) :
    IsLeast {k : ℤ | (leastSize : ℤ) ≤ k ∧ s.length ≤ k} n := by
  cases h
  constructor
  · exact ⟨le_max_left _ _, (Int.le_ceil _).trans (Int.cast_le.mpr (le_max_right _ _))⟩
  · rintro k ⟨hleast, hlength⟩
    exact max_le hleast (Int.ceil_le.mpr hlength)

variable {v : Visualization α} {options : FigureOptions} {figure : Figure α}

/-- The axes of the figure just have room for what it shows, and nothing that is drawn comes nearer to their ends
than the padding. -/
structure Enclosed (v : Visualization α) (options : FigureOptions) (figure : Figure α) : Prop where
  displays : v.Displays options figure
  across : Fits ((padding : ℕ) : α) (coordinates Point.x (v.shown options.animated)) figure.across
  upwards : Fits ((padding : ℕ) : α) (coordinates Point.y (v.shown options.animated)) figure.upwards
  drawn : ∀ pic ∈ figure.pictures, ∀ q ∈ pic.anchors, figure.Holds ((padding : ℕ) : α) q
  size : options.fullExtent = true → ∃ width height, figure.size = some (width, height) ∧
    IsLeast {k : ℤ | (leastSize : ℤ) ≤ k ∧ figure.across.length ≤ k} width ∧
    IsLeast {k : ℤ | (leastSize : ℤ) ≤ k ∧ figure.upwards.length ≤ k} height
  unsized : options.fullExtent = false → figure.size = none

theorem nothing_outside (h : v.figure (exactGauge heading) options = .ok figure) :
    v.Enclosed options figure := by
  have hdisplays := figure_displays h
  have hacross := extent_fits Point.x (v.shown options.animated)
  have hupwards := extent_fits Point.y (v.shown options.animated)
  rw [figure_eq] at h
  dsimp only at h
  rw [← shown_eq] at h
  simp only [bind_eq_ok_iff] at h
  obtain ⟨picture, -, size, hsize, moved, -, ⟨⟩⟩ := h
  refine ⟨hdisplays, hacross, hupwards, fun pic hpic => ?_, fun hfull => ?_, fun hfull => ?_⟩
  · obtain ⟨p, hp, hshows⟩ := hdisplays.exists_shown hpic
    apply hshows.held
    intro entry hentry
    exact ⟨hacross.inside _ ⟨p, hp, entry, hentry, rfl⟩, hupwards.inside _ ⟨p, hp, entry, hentry, rfl⟩⟩
  · rw [hfull] at hsize
    simp only [sizeFor, bind_eq_ok_iff] at hsize
    obtain ⟨width, hwidth, height, hheight, ⟨⟩⟩ := hsize
    exact ⟨width, height, rfl, sizeOf_isLeast hwidth, sizeOf_isLeast hheight⟩
  · rw [hfull] at hsize
    cases hsize
    rfl

end Visualization

end

def movedPair : Visualization ℚ where
  graph := ⟨[⟨"a", "A"⟩, ⟨"b", "B"⟩], [⟨"e", "a", "b", "calls", none⟩]⟩
  positions := [("a", ⟨0, 0⟩), ("b", ⟨10, 3⟩)]
  frames := [[("a", ⟨0, -1 / 2⟩), ("b", ⟨400, 0⟩)], [("a", ⟨0, 0⟩), ("b", ⟨10, 3⟩)]]
  selected := none

theorem nothing_outside_moved :
    ∃ figure, movedPair.figure (exactGauge fun _ _ => 0) { animated := true, fullExtent := true } =
        .ok figure ∧
      figure.across = ⟨-70, 470⟩ ∧ figure.upwards = ⟨-141 / 2, 73⟩ ∧ figure.size = some (540, 400) ∧
      movedPair.Enclosed { animated := true, fullExtent := true } figure := by
  have hcomputed : (movedPair.figure (exactGauge fun _ _ => 0)
      { animated := true, fullExtent := true }).toOption.map
        (fun figure => (figure.across, figure.upwards, figure.size)) =
      some (⟨-70, 470⟩, ⟨-141 / 2, 73⟩, some (540, 400)) := by
    decide +kernel
  rcases h : movedPair.figure (exactGauge fun _ _ => 0) { animated := true, fullExtent := true } with
    failure | figure
  · rw [h] at hcomputed
    cases hcomputed
  · rw [h] at hcomputed
    simp only [Except.toOption, Option.map_some, Option.some.injEq, Prod.mk.injEq] at hcomputed
    exact ⟨figure, rfl, hcomputed.1, hcomputed.2.1, hcomputed.2.2, Visualization.nothing_outside h⟩

end DependencyAtlas.Drawing
