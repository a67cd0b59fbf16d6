import DependencyAtlas.Layout.Place

namespace DependencyAtlas.Layout

variable {α : Type} [Add α] [Sub α] [Mul α] [Div α] [NatCast α]

def Point.between (p q : Point α) (step count : Nat) : Point α :=
  let t := (step : α) / (count : α)
  ⟨p.x + (q.x - p.x) * t, p.y + (q.y - p.y) * t⟩

def frame (old new : Placement α) (step count : Nat) : Placement α :=
  new.map fun entry =>
    (entry.1, ((old.get? entry.1).getD entry.2).between entry.2 step count)

def frames (old new : Placement α) (count : Nat) : List (Placement α) :=
  (List.range (count - 1)).map (fun i => frame old new (i + 1) count) ++ [new]

end DependencyAtlas.Layout
