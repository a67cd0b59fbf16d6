import DependencyAtlas.Proofs.Drawing.Pictures
import DependencyAtlas.Stage.Renderer

namespace DependencyAtlas

namespace Layout

section

variable {ε α : Type} {P : ε → Prop} {compass : Compass α} {measures : Measures ε α}
  {engine : Engine ε α}

structure Measures.FailAs (P : ε → Prop) (measures : Measures ε α) : Prop where
  radius : ∀ n, DependencyAtlas.FailsAs P (measures.radius n)
  gap : DependencyAtlas.FailsAs P measures.gap
  spacing : DependencyAtlas.FailsAs P measures.spacing
  unplaced : ∀ node, P (measures.unplaced node)

def placed (measures : Measures ε α) (seeds : Placement α) (node : String) : Except ε (Point α) :=
  match seeds.get? node with
  | some p => .ok p
  | none => .error (measures.unplaced node)

def apart [Add α] [Mul α] [BEq α] (compass : Compass α) (measures : Measures ε α)
    (taken : List (Point α)) (p : Point α) (i n : Nat) : Except ε (Point α) :=
  if taken.any p.same then do
    let gap ← measures.gap
    return p.toward compass gap i n
  else .ok p

theorem separateFrom_cons [Add α] [Mul α] [BEq α] (seeds : Placement α) (count i : Nat)
    (taken : List (Point α)) (node : String) (rest : List String) :
    separateFrom compass measures seeds count i taken (node :: rest) = do
      let p ← placed measures seeds node
      let q ← apart compass measures taken p i count
      let others ← separateFrom compass measures seeds count (i + 1) (q :: taken) rest
      return (node, q) :: others := by
  rw [separateFrom, placed]
  rcases seeds.get? node with _ | p
  · rfl
  · simp only [Option.elim_some, ok_bind, apart]
    split
    · cases measures.gap <;> rfl
    · rfl

variable (hm : measures.FailAs P)

include hm

theorem placed_failsAs (seeds : Placement α) (node : String) :
    FailsAs P (placed measures seeds node) := by
  rw [placed]
  split
  · exact failsAs_ok _
  · exact failsAs_error (hm.unplaced node)

theorem seed_failsAs [Mul α] (net : Network) (given : Placement α) :
    FailsAs P (seed compass measures net given) := by
  apply (hm.radius _).bind
  intro radius
  exact failsAs_ok _

theorem apart_failsAs [Add α] [Mul α] [BEq α] (taken : List (Point α)) (p : Point α) (i n : Nat) :
    FailsAs P (apart compass measures taken p i n) := by
  rw [apart]
  split
  · apply hm.gap.bind
    intro gap
    exact failsAs_ok _
  · exact failsAs_ok p

theorem separateFrom_failsAs [Add α] [Mul α] [BEq α] (seeds : Placement α) (count : Nat)
    (nodes : List String) (i : Nat) (taken : List (Point α)) :
    FailsAs P (separateFrom compass measures seeds count i taken nodes) := by
  induction nodes generalizing i taken with
  | nil => exact failsAs_ok []
  | cons node rest ih =>
    rw [separateFrom_cons]
    apply (placed_failsAs hm seeds node).bind
    intro p
    apply (apart_failsAs hm taken p i count).bind
    intro q
    apply (ih (i + 1) (q :: taken)).bind
    intro others
    exact failsAs_ok _

variable (hengine : ∀ nodes adjacency start, FailsAs P (engine nodes adjacency start))

include hengine

theorem placeComponent_failsAs [Add α] [Mul α] [BEq α] (net : Network) (seeds : Placement α)
    (nodes : List String) :
    FailsAs P (placeComponent compass measures engine net seeds nodes) := by
  rw [placeComponent.eq_def]
  split
  · split
    · exact failsAs_ok _
    · exact failsAs_error (hm.unplaced _)
  · apply (separateFrom_failsAs hm seeds _ nodes 0 []).bind
    intro start
    apply (hengine _ _ _).bind
    intro points
    exact failsAs_ok _

variable [Add α] [Sub α] [Mul α] [Div α] [LT α] [DecidableLT α] [BEq α] [NatCast α]

theorem pack_failsAs (net : Network) (seeds : Placement α) (components : List (List String))
    (offset : α) : FailsAs P (pack compass measures engine net seeds offset components) := by
  induction components generalizing offset with
  | nil => exact failsAs_ok []
  | cons nodes rest ih =>
    rw [pack]
    apply (placeComponent_failsAs hm hengine net seeds nodes).bind
    intro placed
    apply hm.spacing.bind
    intro spacing
    apply (ih _).bind
    intro others
    exact failsAs_ok _

theorem arrange_failsAs (net : Network) (given : Placement α) :
    FailsAs P (arrange compass measures engine net given) := by
  rw [arrange]
  split
  · exact failsAs_ok []
  · apply (seed_failsAs hm net given).bind
    intro seeds
    exact pack_failsAs hm hengine net seeds _ _

end

inductive Unplaceable : Failure → Prop
  | misuse (m : Misuse) : Unplaceable (.misuse m)
  | missing (node : String) : Unplaceable (.missing node)

theorem Unplaceable.ne_complaint {failure : Failure} (h : Unplaceable failure) (c : Complaint) :
    failure ≠ .complaint c := by
  cases h <;> nofun

theorem Unplaceable.halts_eq_false {failure : Failure} (h : Unplaceable failure) : failure.halts = false := by
  cases h <;> rfl

namespace Policy

theorem measures_failAs (p : Policy) : p.measures.FailAs Unplaceable where
  radius _ := failsAs_mapError Unplaceable.misuse _
  gap := failsAs_mapError Unplaceable.misuse _
  spacing := failsAs_mapError Unplaceable.misuse _
  unplaced := .missing

theorem engine_failsAs (p : Policy) (nodes : List String) (adjacency : List (List Bool))
    (start : List (Point Float)) : FailsAs Unplaceable (p.engine nodes adjacency start) := by
  apply (failsAs_mapError Unplaceable.misuse _).bind
  intro steps
  apply (failsAs_mapError Unplaceable.misuse _).bind
  intro length
  exact failsAs_ok _

theorem arrange_failsAs (p : Policy) (net : Network) (given : Placement Float) :
    FailsAs Unplaceable (p.arrange net given) :=
  Layout.arrange_failsAs p.measures_failAs p.engine_failsAs net given

theorem transition_failsAs (p : Policy) (old new : Placement Float) :
    FailsAs Unplaceable (p.transition old new) := by
  rw [transition]
  split
  · exact failsAs_ok _
  · apply (failsAs_mapError Unplaceable.misuse _).bind
    intro count
    exact failsAs_ok _

end Policy

end Layout

open Layout

namespace Drawing.Visualization

variable {v : Visualization Float} {gauge : Gauge Float}

theorem pointOf_failsAs (p : Placement Float) (id : String) :
    FailsAs Unplaceable (pointOf p id) := by
  rw [pointOf]
  split
  · exact failsAs_ok _
  · exact failsAs_error (.missing id)

theorem picture_failsAs (p : Placement Float) : FailsAs Unplaceable (v.picture gauge p) := by
  have hmarkers : FailsAs Unplaceable (v.markers p) := by
    apply (FailsAs.mapM (pointOf_failsAs p) _).bind
    intro points
    exact failsAs_ok _
  have hedge (e : Edge) : FailsAs Unplaceable (v.edgeNotes gauge p e) := by
    apply (pointOf_failsAs p _).bind
    intro a
    apply (pointOf_failsAs p _).bind
    intro b
    exact failsAs_ok _
  have hnotes : FailsAs Unplaceable (v.notes gauge p) := by
    apply (FailsAs.mapM hedge _).bind
    intro notes
    exact failsAs_ok _
  apply hmarkers.bind
  intro markers
  apply hnotes.bind
  intro notes
  exact failsAs_ok _

theorem sizeOf_failsAs (s : Span Float) : FailsAs Unplaceable (sizeOf gauge s) := by
  apply (failsAs_mapError Unplaceable.misuse _).bind
  intro length
  exact failsAs_ok _

theorem figure_failsAs (options : FigureOptions) :
    FailsAs Unplaceable (v.figure gauge options) := by
  rw [figure_eq]
  have hsize (spans : Span Float × Span Float) (full : Bool) :
      FailsAs Unplaceable (sizeFor gauge spans full) := by
    cases full with
    | false => exact failsAs_ok none
    | true =>
      apply (sizeOf_failsAs _).bind
      intro width
      apply (sizeOf_failsAs _).bind
      intro height
      exact failsAs_ok _
  have hanimation (shown : List (Placement Float)) :
      FailsAs Unplaceable (v.animation gauge options.duration shown) := by
    cases shown with
    | nil => exact failsAs_ok none
    | cons first rest =>
      apply (FailsAs.mapM picture_failsAs _).bind
      intro pictures
      apply (failsAs_mapError Unplaceable.misuse _).bind
      intro duration
      exact failsAs_ok _
  apply (picture_failsAs _).bind
  intro picture
  apply (hsize _ _).bind
  intro size
  apply (hanimation _).bind
  intro animation
  exact failsAs_ok _

end Drawing.Visualization

theorem Stage.Studio.firstView_failsAs (policy : Policy) (g : Graph) :
    FailsAs Unplaceable (firstView policy g) := by
  apply (seed_failsAs policy.measures_failAs _ _).bind
  intro start
  apply (policy.arrange_failsAs _ _).bind
  intro final
  apply (policy.transition_failsAs _ _).bind
  intro frames
  exact failsAs_ok _

theorem Stage.Studio.nextView_failsAs (policy : Policy) (v : Drawing.Visualization Float) :
    FailsAs Unplaceable (nextView policy v) := by
  apply (policy.arrange_failsAs _ _).bind
  intro positions
  apply (policy.transition_failsAs _ _).bind
  intro frames
  exact failsAs_ok _

namespace Stage.Renderer

variable {η : Type} (r : Renderer η)

theorem snapshot_failsAs : FailsAs Unplaceable r.snapshot := by
  rw [snapshot]
  split
  · exact failsAs_ok none
  · intro failure h
    exact Drawing.Visualization.figure_failsAs _ failure (map_eq_error_iff.mp h)

theorem document_failsAs : FailsAs Unplaceable r.document := by
  rw [document]
  split
  · exact failsAs_ok none
  · refine FailsAs.bind (FailsAs.mapM (fun node => ?_) _) fun entries => failsAs_ok _
    apply (Drawing.Visualization.pointOf_failsAs _ _).bind
    intro p
    exact failsAs_ok _

end Stage.Renderer

end DependencyAtlas
