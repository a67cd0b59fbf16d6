import DependencyAtlas.Failure
import DependencyAtlas.Layout.Arrange
import DependencyAtlas.Layout.Springs
import DependencyAtlas.Layout.Transition

/-!
Policies: the options of a layout, kept as they were given. An option of the wrong kind is refused where
it is needed, so one that a network does not need does no harm.
-/

namespace DependencyAtlas.Layout

structure Policy where
  componentSpacing : Value := .int 100
  nodeRepulsion : Value := .int 400000
  nodeOverlap : Value := .int 10
  idealEdgeLength : Value := .int 100
  edgeElasticity : Value := .int 100
  nestingFactor : Value := .int 5
  gravity : Value := .int 80
  maxIterations : Value := .int 1000
  initialTemperature : Value := .int 200
  coolingFactor : Value := .float 0.95
  minTemperature : Value := .float 1.0
  animate : Value := .bool true
  animationFrames : Value := .int 12
  animationDuration : Value := .int 500

instance floatOfNat : NatCast Float :=
  ⟨Nat.toFloat⟩

namespace Policy

def set? (p : Policy) (name : String) (v : Value) : Option Policy :=
  match name with
  | "component_spacing" => some { p with componentSpacing := v }
  | "node_repulsion" => some { p with nodeRepulsion := v }
  | "node_overlap" => some { p with nodeOverlap := v }
  | "ideal_edge_length" => some { p with idealEdgeLength := v }
  | "edge_elasticity" => some { p with edgeElasticity := v }
  | "nesting_factor" => some { p with nestingFactor := v }
  | "gravity" => some { p with gravity := v }
  | "max_iterations" => some { p with maxIterations := v }
  | "initial_temperature" => some { p with initialTemperature := v }
  | "cooling_factor" => some { p with coolingFactor := v }
  | "min_temperature" => some { p with minTemperature := v }
  | "animate" => some { p with animate := v }
  | "animation_frames" => some { p with animationFrames := v }
  | "animation_duration_ms" => some { p with animationDuration := v }
  | _ => none

def ofOptions (options : Fields) : Except Failure Policy :=
  options.foldlM (fun p option =>
    match p.set? option.1 option.2 with
    | some p => .ok p
    | none => .error (.unknownOption .layout option.1)) {}

def lengths (p : Policy) (count : Nat) : Except Misuse Float :=
  match p.idealEdgeLength with
  | .float x => .ok (count.toFloat * x)
  | v =>
    match v.int? with
    | some n => (Value.int (count * n)).toDouble fun k => .operands "*" .int k
    | none =>
      match v.kind with
      | .str => .error (.operands "/" .str .float)
      | .list => .error (.operands "/" .list .float)
      | k => .error (.operands "*" .int k)

def radius (p : Policy) (count : Nat) : Except Misuse Float := do
  let around := (← p.lengths count) / (2.0 * halfTurn)
  match p.idealEdgeLength.toDouble fun k => .operands "*" .int k with
  | .ok length => return greatest length [around]
  | .error _ => return around

def gap (p : Policy) : Except Misuse Float :=
  p.nodeOverlap.toDouble fun
    | .str | .list => .notRepeatable
    | k => .operands "*" k .float

def spacing (p : Policy) : Except Misuse Float :=
  p.componentSpacing.toDouble fun k => .operands "+" .float k

def steps (p : Policy) : Except Misuse Int :=
  match p.maxIterations.kind with
  | .str | .list => .error (.notJoinable p.maxIterations.kind)
  | .float | .int | .bool => p.maxIterations.toCount
  | k => .error (.operands "+" k .int)

def measures (p : Policy) : Measures Failure Float where
  radius count := (p.radius count).mapError .misuse
  gap := p.gap.mapError .misuse
  spacing := p.spacing.mapError .misuse
  unplaced := .missing

def engine (p : Policy) : Engine Failure Float := fun _ adjacency start => do
  let steps ← p.steps.mapError .misuse
  let length ← (p.idealEdgeLength.toDouble fun k => .operands "*" .int k).mapError .misuse
  return Springs.place ⟨length, steps⟩ adjacency start

def seed (p : Policy) (net : Network) (given : Placement Float) :
    Except Failure (Placement Float) :=
  Layout.seed floatCompass p.measures net given

def separate (p : Policy) (nodes : List String) (seeds : Placement Float) :
    Except Failure (Placement Float) :=
  Layout.separate floatCompass p.measures nodes seeds

def arrange (p : Policy) (net : Network) (given : Placement Float) :
    Except Failure (Placement Float) :=
  Layout.arrange floatCompass p.measures p.engine net given

def frameCount (p : Policy) : Except Misuse Nat :=
  match p.animationFrames with
  | .float x => if x ≤ 1.0 then .ok 1 else .error (.notCount .float)
  | v =>
    match v.int? with
    | some n => .ok n.toNat
    | none => .error (.notComparable "<=" v.kind .int)

/-- The frames of the move from an old placement to a new one. Without animation, or from nowhere, the
move is a single frame. -/
def transition {α : Type} [Add α] [Sub α] [Mul α] [Div α] [NatCast α] (p : Policy)
    (old new : Placement α) : Except Failure (List (Placement α)) :=
  if !p.animate.truthy || old.isEmpty then .ok [new]
  else do
    let count ← p.frameCount.mapError .misuse
    return frames old new count

def toOptions (p : Policy) : Value :=
  .object [
    ("name", .str "cose"),
    ("animate", p.animate),
    ("randomize", .bool false),
    ("componentSpacing", p.componentSpacing),
    ("nodeRepulsion", p.nodeRepulsion),
    ("nodeOverlap", p.nodeOverlap),
    ("idealEdgeLength", p.idealEdgeLength),
    ("edgeElasticity", p.edgeElasticity),
    ("nestingFactor", p.nestingFactor),
    ("gravity", p.gravity),
    ("numIter", p.maxIterations),
    ("initialTemp", p.initialTemperature),
    ("coolingFactor", p.coolingFactor),
    ("minTemp", p.minTemperature)]

end Policy

end DependencyAtlas.Layout
