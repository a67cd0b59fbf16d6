
namespace DependencyAtlas.Layout

structure Point (α : Type) where
  x : α
  y : α
  deriving Repr, DecidableEq

abbrev Placement (α : Type) := List (String × Point α)

variable {α : Type}

def Point.same [BEq α] (p q : Point α) : Bool :=
  p.x == q.x && p.y == q.y

def Point.shift [Add α] (p : Point α) (dx dy : α) : Point α :=
  ⟨p.x + dx, p.y + dy⟩

namespace Placement

def get? (p : Placement α) (node : String) : Option (Point α) :=
  p.lookup node

def put (node : String) (point : Point α) : Placement α → Placement α
  | [] => [(node, point)]
  | (n, q) :: rest => if n = node then (n, point) :: rest else (n, q) :: put node point rest

def ofPairs (pairs : List (String × Point α)) : Placement α :=
  pairs.foldl (fun p entry => put entry.1 entry.2 p) []

def nodes (p : Placement α) : List String :=
  p.map Prod.fst

def points (p : Placement α) : List (Point α) :=
  p.map Prod.snd

end Placement

def least [LT α] [DecidableLT α] (a : α) (rest : List α) : α :=
  rest.foldl (fun m b => if b < m then b else m) a

def greatest [LT α] [DecidableLT α] (a : α) (rest : List α) : α :=
  rest.foldl (fun m b => if m < b then b else m) a

structure Span (α : Type) where
  low : α
  high : α
  deriving Repr, DecidableEq

namespace Span

def around [LT α] [DecidableLT α] (a : α) (rest : List α) : Span α :=
  ⟨least a rest, greatest a rest⟩

def length [Sub α] (s : Span α) : α :=
  s.high - s.low

def widen [Add α] [Sub α] (room : α) (s : Span α) : Span α :=
  ⟨s.low - room, s.high + room⟩

end Span

end DependencyAtlas.Layout
