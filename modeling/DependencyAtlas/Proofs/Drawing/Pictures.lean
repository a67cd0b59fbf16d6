import DependencyAtlas.Drawing.Visualization
import DependencyAtlas.Proofs.Results

namespace DependencyAtlas.Drawing

open Layout

variable {α : Type}

theorem nodeColor_eq_highlight_iff {selected : Bool} : nodeColor selected = highlight ↔ selected = true := by
  cases selected <;> decide

theorem edgeColor_eq_highlight_iff {selected : Bool} : edgeColor selected = highlight ↔ selected = true := by
  cases selected <;> decide

def Figure.final (figure : Figure α) : Picture α :=
  match figure.animation with
  | none => figure.picture
  | some animation => animation.pictures.getLastD figure.picture

theorem Figure.final_of_moved {figure : Figure α} {animation : Animation α} {last : Picture α}
    (h : figure.animation = some animation) (hlast : animation.pictures.getLast? = some last) :
    figure.final = last := by
  rw [final, h]
  dsimp only
  rw [List.getLastD_eq_getLast?, hlast, Option.getD_some]

section

variable [Add α] [Div α] [NatCast α]

def middle (a b : Point α) : Point α :=
  ⟨(a.x + b.x) / ((2 : Nat) : α), (a.y + b.y) / ((2 : Nat) : α)⟩

inductive EdgeNotes (selected : Option String) (e : Edge) (a b : Point α) : List (Note α) → Prop
  | intro (color : String) (angle : α) (hcolor : color = highlight ↔ selected = some e.id) :
    EdgeNotes selected e a b
      ((if e.source = e.target then [] else [.arrow a b color]) ++
        (if e.label = "" then [] else [.label e.label (middle a b) angle]))

/-- The picture shows a graph with its nodes at the places of a placement and one element selected. -/
structure Picture.Shows (g : Graph) (selected : Option String) (p : Placement α) (pic : Picture α) :
    Prop where
  ids : pic.markers.ids = g.nodeIds
  labels : pic.markers.labels = g.nodes.map Node.label
  points : List.Forall₂ (fun id point => p.get? id = some point) g.nodeIds pic.markers.points
  colors : List.Forall₂ (fun id color => color = highlight ↔ selected = some id) g.nodeIds
    pic.markers.colors
  notes : ∃ parts, pic.notes = parts.flatten ∧ List.Forall₂ (fun e part =>
    ∃ a b, p.get? e.source = some a ∧ p.get? e.target = some b ∧ EdgeNotes selected e a b part)
    g.edges parts

structure Figure.Shows (g : Graph) (selected : Option String) (p : Placement α) (figure : Figure α) :
    Prop where
  final : figure.final.Shows g selected p
  first : ∀ animation, figure.animation = some animation →
    animation.pictures.head? = some figure.picture
  frames : ∀ animation, figure.animation = some animation →
    ∃ placements, placements.getLast? = some p ∧
      List.Forall₂ (fun q pic => pic.Shows g selected q) placements animation.pictures

end

theorem forall₂_getLast? {β γ : Type} {R : β → γ → Prop} {xs : List β} {ys : List γ} {x : β}
    (h : List.Forall₂ R xs ys) (hx : xs.getLast? = some x) : ∃ y, ys.getLast? = some y ∧ R x y := by
  rw [← List.head?_reverse] at hx
  have hreverse := List.forall₂_reverse_iff.mpr h
  rw [← List.head?_reverse]
  rcases hxs : xs.reverse with _ | ⟨_, _⟩
  · rw [hxs] at hx
    cases hx
  · rw [hxs] at hx hreverse
    cases hx
    obtain ⟨y, _, hy, -, hys⟩ := List.forall₂_cons_left_iff.mp hreverse
    rw [hys]
    exact ⟨y, rfl, hy⟩

namespace Visualization

variable {v : Visualization α} {p : Placement α} {gauge : Gauge α} {options : FigureOptions}

theorem pointOf_eq_ok_iff {id : String} {point : Point α} :
    pointOf p id = .ok point ↔ p.get? id = some point := by
  rw [pointOf]
  cases p.get? id with
  | none => exact ⟨nofun, nofun⟩
  | some q =>
    simp only [Except.ok.injEq, Option.some.injEq]

def moving (v : Visualization α) (animated : Bool) : List (Placement α) :=
  if animated && 1 < v.frames.length then v.frames else []

theorem frames_of_moving {animated : Bool} {first : Placement α} {rest : List (Placement α)}
    (h : v.moving animated = first :: rest) : animated = true ∧ v.frames = first :: rest := by
  rw [moving] at h
  split at h
  · rename_i hseveral
    rw [Bool.and_eq_true] at hseveral
    exact ⟨hseveral.1, h⟩
  · cases h

def shown (v : Visualization α) (animated : Bool) : List (Placement α) :=
  if animated = true ∧ 1 < v.frames.length then v.frames else [v.positions]

theorem moving_of_shown {animated : Bool} (h : animated = true ∧ 1 < v.frames.length) :
    v.moving animated = v.frames := by
  rw [moving, h.1, Bool.true_and, if_pos (decide_eq_true h.2)]

theorem moving_of_still {animated : Bool} (h : ¬ (animated = true ∧ 1 < v.frames.length)) :
    v.moving animated = [] := by
  rw [moving, if_neg]
  simpa using h

theorem shown_eq (v : Visualization α) (animated : Bool) :
    v.shown animated =
      if (v.moving animated).isEmpty then [v.positions] else v.moving animated := by
  by_cases h : animated = true ∧ 1 < v.frames.length
  · have hne : v.frames.isEmpty = false := by
      rw [List.isEmpty_eq_false_iff]
      exact List.ne_nil_of_length_pos (by omega)
    rw [shown, if_pos h, moving_of_shown h, hne]
    rfl
  · rw [shown, if_neg h, moving_of_still h]
    rfl

theorem shown_head? (v : Visualization α) (animated : Bool) :
    (v.shown animated).head? = some ((v.moving animated).headD v.positions) := by
  rw [shown_eq]
  cases v.moving animated <;> rfl

variable [Add α] [Sub α] [Neg α] [Div α] [LT α] [DecidableLT α] [BEq α] [NatCast α]

def sizeFor (gauge : Gauge α) (spans : Span α × Span α) : Bool → Except Failure (Option (Int × Int))
  | false => .ok none
  | true => do
    let width ← sizeOf gauge spans.1
    let height ← sizeOf gauge spans.2
    return some (width, height)

def animation (v : Visualization α) (gauge : Gauge α) (duration : Value) :
    List (Placement α) → Except Failure (Option (Animation α))
  | [] => .ok none
  | shown => do
    let pictures ← shown.mapM (v.picture gauge)
    let duration ← (share duration shown.length).mapError .misuse
    return some ⟨pictures, duration⟩

theorem figure_eq (v : Visualization α) (gauge : Gauge α) (options : FigureOptions) :
    v.figure gauge options =
      let shown := v.moving options.animated
      let spans := extent (if shown.isEmpty then [v.positions] else shown)
      do
        let picture ← v.picture gauge (shown.headD v.positions)
        let size ← sizeFor gauge spans options.fullExtent
        let animation ← v.animation gauge options.duration shown
        return ⟨picture, spans.1, spans.2, size, animation⟩ := by
  obtain ⟨animated, full, duration⟩ := options
  rw [figure, moving]
  cases animated with
  | false => cases full <;> simp [sizeFor, animation, bind_assoc] <;> rfl
  | true =>
    rcases v.frames with _ | ⟨first, _ | ⟨second, rest⟩⟩
    all_goals cases full <;> simp [sizeFor, animation, bind_assoc] <;> rfl

theorem edgeNotes_shows {e : Edge} {part : List (Note α)} (h : v.edgeNotes gauge p e = .ok part) :
    ∃ a b, p.get? e.source = some a ∧ p.get? e.target = some b ∧
      EdgeNotes v.selected e a b part := by
  simp only [edgeNotes, bind_eq_ok_iff, pointOf_eq_ok_iff] at h
  obtain ⟨a, ha, b, hb, hpart⟩ := h
  have hcolor : edgeColor (v.selected == some e.id) = highlight ↔ v.selected = some e.id := by
    rw [edgeColor_eq_highlight_iff, beq_iff_eq]
  have hnotes := EdgeNotes.intro (a := a) (b := b) _ (labelAngle gauge a b) hcolor
  refine ⟨a, b, ha, hb, ?_⟩
  cases hpart
  simpa only [bne_iff_ne, ne_eq, ite_not, middle] using hnotes

theorem picture_shows {pic : Picture α} (h : v.picture gauge p = .ok pic) :
    pic.Shows v.graph v.selected p := by
  simp only [picture, markers, notes, bind_eq_ok_iff] at h
  obtain ⟨_, ⟨points, hpoints, ⟨⟩⟩, _, ⟨parts, hparts, ⟨⟩⟩, ⟨⟩⟩ := h
  constructor
  · rfl
  · rfl
  · exact (mapM_eq_ok_iff.mp hpoints).imp fun _ _ => pointOf_eq_ok_iff.mp
  · rw [List.forall₂_map_right_iff, List.forall₂_same]
    intro id _
    rw [nodeColor_eq_highlight_iff, beq_iff_eq]
  · exact ⟨parts, rfl, (mapM_eq_ok_iff.mp hparts).imp fun _ _ => edgeNotes_shows⟩

structure Displays (v : Visualization α) (options : FigureOptions) (figure : Figure α) : Prop where
  first : ∃ p, (v.shown options.animated).head? = some p ∧ figure.picture.Shows v.graph v.selected p
  moving : options.animated = true ∧ 1 < v.frames.length → ∃ animation,
    figure.animation = some animation ∧ animation.pictures.head? = some figure.picture ∧
      List.Forall₂ (fun p pic => pic.Shows v.graph v.selected p) v.frames animation.pictures
  still : ¬ (options.animated = true ∧ 1 < v.frames.length) → figure.animation = none

theorem figure_displays {figure : Figure α} (h : v.figure gauge options = .ok figure) :
    v.Displays options figure := by
  simp only [figure_eq, bind_eq_ok_iff] at h
  obtain ⟨picture, hpicture, size, -, moved, hanimation, ⟨⟩⟩ := h
  refine ⟨⟨_, shown_head? v _, picture_shows hpicture⟩, fun hmoves => ?_, fun hmoves => ?_⟩
  · obtain ⟨first, rest, hframes⟩ := List.exists_cons_of_length_pos (Nat.zero_lt_of_lt hmoves.2)
    rw [moving_of_shown hmoves, hframes] at hpicture hanimation
    simp only [animation, bind_eq_ok_iff] at hanimation
    obtain ⟨pictures, hpictures, duration, -, ⟨⟩⟩ := hanimation
    have hall := mapM_eq_ok_iff.mp hpictures
    refine ⟨_, rfl, ?_, hframes ▸ hall.imp fun _ _ => picture_shows⟩
    obtain ⟨start, others, hstart, -, rfl⟩ := List.forall₂_cons_left_iff.mp hall
    cases hstart.symm.trans hpicture
    rfl
  · rw [moving_of_still hmoves] at hanimation
    cases hanimation
    rfl

theorem figure_shows {figure : Figure α}
    (hlast : options.animated = true → v.frames.getLast? = some v.positions)
    (h : v.figure gauge options = .ok figure) :
    figure.Shows v.graph v.selected v.positions := by
  obtain ⟨⟨p, hp, hfirst⟩, hmoving, hstill⟩ := figure_displays h
  by_cases hmoves : options.animated = true ∧ 1 < v.frames.length
  · obtain ⟨animation, hmoved, hhead, hframes⟩ := hmoving hmoves
    obtain ⟨last, hend, hfinal⟩ := forall₂_getLast? hframes (hlast hmoves.1)
    constructor
    · rwa [Figure.final_of_moved hmoved hend]
    · intro other hother
      cases hmoved.symm.trans hother
      exact hhead
    · intro other hother
      cases hmoved.symm.trans hother
      exact ⟨v.frames, hlast hmoves.1, hframes⟩
  · have hnone := hstill hmoves
    rw [shown, if_neg hmoves] at hp
    cases hp
    constructor
    · rwa [Figure.final, hnone]
    · simp [hnone]
    · simp [hnone]

end Visualization

end DependencyAtlas.Drawing
