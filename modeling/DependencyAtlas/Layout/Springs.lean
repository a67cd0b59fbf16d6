import DependencyAtlas.Decimal.Reading
import DependencyAtlas.Layout.Place

/-!
Springs: all nodes of a component push each other away, joined ones pull each other near. In each step
every node moves against the sum of these forces, by no more than a limit that falls evenly to
nothing; the movement ends early when the nodes come to rest.
-/

namespace DependencyAtlas.Layout

structure Springs where
  length : Float
  steps : Int

namespace Springs

structure Motion where
  xs : FloatArray
  ys : FloatArray
  limit : Float

def nearest : Float :=
  0.01

def atLeast (low x : Float) : Float :=
  if x < low then low else x

def norm (dx dy : Float) : Float :=
  (dx * dx + dy * dy).sqrt

/-- How strongly a node is pushed and pulled along the way from another one at a distance `d`; `pull` is
one if they are joined, and else zero. -/
def strength (s : Springs) (d pull : Float) : Float :=
  s.length * s.length / (d * d) - pull * d / s.length

def forceFrom (s : Springs) (pulls : FloatArray) (m : Motion) (x y fx fy : Float) :
    Nat → Float × Float
  | 0 => (fx, fy)
  | left + 1 =>
    let j := m.xs.size - (left + 1)
    let dx := x - m.xs.get! j
    let dy := y - m.ys.get! j
    let f := s.strength (atLeast nearest (norm dx dy)) (pulls.get! j)
    forceFrom s pulls m x y (fx + dx * f) (fy + dy * f) left

def force (s : Springs) (pulls : FloatArray) (m : Motion) (i : Nat) : Float × Float :=
  s.forceFrom pulls m (m.xs.get! i) (m.ys.get! i) 0.0 0.0 m.xs.size

def step (s : Springs) (rows : Array FloatArray) (m : Motion) : FloatArray × FloatArray × Float :=
  Id.run do
    let mut xs := m.xs
    let mut ys := m.ys
    let mut moved : Float := 0.0
    for i in [0:m.xs.size] do
      let (fx, fy) := s.force (rows.getD i .empty) m i
      let share := m.limit / atLeast nearest (norm fx fy)
      let dx := fx * share
      let dy := fy * share
      xs := xs.set! i (m.xs.get! i + dx)
      ys := ys.set! i (m.ys.get! i + dy)
      moved := moved + dx * dx + dy * dy
    return (xs, ys, moved.sqrt)

def settle (s : Springs) (rows : Array FloatArray) (fall : Float) : Nat → Motion → Motion
  | 0, m => m
  | steps + 1, m =>
    let (xs, ys, moved) := s.step rows m
    let m' : Motion := ⟨xs, ys, m.limit - fall⟩
    if moved / m.xs.size.toFloat < 0.0001 then m' else settle s rows fall steps m'

def extent : List (Point Float) → Float
  | [] => 0.0
  | p :: rest =>
    let width := (Span.around p.x (rest.map Point.x)).length
    let height := (Span.around p.y (rest.map Point.y)).length
    greatest width [height]

def pullsOf (row : List Bool) : FloatArray :=
  ⟨(row.map fun joined => if joined then 1.0 else 0.0).toArray⟩

def place (s : Springs) (adjacency : List (List Bool)) (start : List (Point Float)) :
    List (Point Float) :=
  let limit := extent start * 0.1
  let count := (Decimal.ofInt? (s.steps + 1)).getD (1.0 / 0.0)
  let rows := (adjacency.map pullsOf).toArray
  let m := s.settle rows (limit / count) s.steps.toNat
    ⟨⟨(start.map Point.x).toArray⟩, ⟨(start.map Point.y).toArray⟩, limit⟩
  (List.range start.length).map fun i => ⟨m.xs.get! i, m.ys.get! i⟩

end Springs

end DependencyAtlas.Layout
