import DependencyAtlas.Layout.Compass
import DependencyAtlas.Layout.Network
import DependencyAtlas.Layout.Place

/-!
Arranging a network. Nodes start where they are, or on a circle in their order; every component is
placed on its own by an engine; the components are packed from left to right. Measures are asked for
where they are needed, and one that is refused ends the arrangement there.
-/

namespace DependencyAtlas.Layout

/-- The measures of an arrangement, over refusals `ε` and coordinates `α`. -/
structure Measures (ε α : Type) where
  radius : Nat → Except ε α
  gap : Except ε α
  spacing : Except ε α
  unplaced : String → ε

abbrev Engine (ε α : Type) :=
  List String → List (List Bool) → List (Point α) → Except ε (List (Point α))

variable {ε α : Type}

def Point.toward [Add α] [Mul α] (compass : Compass α) (p : Point α) (distance : α) (i n : Nat) :
    Point α :=
  p.shift (distance * compass.cos i n) (distance * compass.sin i n)

def seat [Mul α] (compass : Compass α) (radius : α) (i n : Nat) : Point α :=
  ⟨radius * compass.cos i n, radius * compass.sin i n⟩

def seed [Mul α] (compass : Compass α) (measures : Measures ε α) (net : Network)
    (given : Placement α) : Except ε (Placement α) := do
  let count := net.nodes.length
  let radius ← measures.radius count
  return net.nodes.zipIdx.map fun entry =>
    (entry.1, (given.get? entry.1).getD (seat compass radius entry.2 count))

/-- Moves nodes off points that are taken, given the points taken before, the number of nodes and the
turn of the next one. -/
def separateFrom [Add α] [Mul α] [BEq α] (compass : Compass α) (measures : Measures ε α)
    (seeds : Placement α) (count : Nat) : Nat → List (Point α) → List String →
    Except ε (Placement α)
  | _, _, [] => .ok []
  | i, taken, node :: rest => do
    let p ← (seeds.get? node).elim (.error (measures.unplaced node)) .ok
    let p ←
      if taken.any p.same then do
        let gap ← measures.gap
        pure (p.toward compass gap i count)
      else pure p
    let others ← separateFrom compass measures seeds count (i + 1) (p :: taken) rest
    return (node, p) :: others

def separate [Add α] [Mul α] [BEq α] (compass : Compass α) (measures : Measures ε α)
    (nodes : List String) (seeds : Placement α) : Except ε (Placement α) :=
  separateFrom compass measures seeds nodes.length 0 [] nodes

def placeComponent [Add α] [Mul α] [BEq α] (compass : Compass α) (measures : Measures ε α)
    (engine : Engine ε α) (net : Network) (seeds : Placement α) (nodes : List String) :
    Except ε (Placement α) :=
  match nodes with
  | [node] =>
    match seeds.get? node with
    | some p => .ok [(node, p)]
    | none => .error (measures.unplaced node)
  | nodes => do
    let start ← separate compass measures nodes seeds
    let points ← engine nodes (net.adjacency nodes) start.points
    return nodes.zip points

def spans [LT α] [DecidableLT α] (zero : α) (p : Placement α) : Span α × Span α :=
  match p.points with
  | [] => (⟨zero, zero⟩, ⟨zero, zero⟩)
  | q :: rest =>
    (.around q.x (rest.map Point.x), .around q.y (rest.map Point.y))

variable [Add α] [Sub α] [Mul α] [Div α] [LT α] [DecidableLT α] [BEq α] [NatCast α]

def settle (offset : α) (p : Placement α) : Placement α :=
  let (across, upwards) := spans ((0 : Nat) : α) p
  let middle := (upwards.low + upwards.high) / ((2 : Nat) : α)
  p.map fun entry => (entry.1, ⟨entry.2.x - across.low + offset, entry.2.y - middle⟩)

def pack (compass : Compass α) (measures : Measures ε α) (engine : Engine ε α) (net : Network)
    (seeds : Placement α) : α → List (List String) → Except ε (Placement α)
  | _, [] => .ok []
  | offset, nodes :: rest => do
    let placed ← placeComponent compass measures engine net seeds nodes
    let width := (spans ((0 : Nat) : α) placed).1.length
    let spacing ← measures.spacing
    let others ← pack compass measures engine net seeds (offset + (width + spacing)) rest
    return settle offset placed ++ others

def arrange (compass : Compass α) (measures : Measures ε α) (engine : Engine ε α) (net : Network)
    (given : Placement α) : Except ε (Placement α) :=
  if net.nodes.isEmpty then .ok []
  else do
    let seeds ← seed compass measures net given
    pack compass measures engine net seeds ((0 : Nat) : α) net.components

end DependencyAtlas.Layout
