import DependencyAtlas.Drawing.Style
import DependencyAtlas.Layout.Policy

namespace DependencyAtlas.Drawing

open Layout

variable {α : Type}

structure Markers (α : Type) where
  ids : List String
  labels : List String
  points : List (Point α)
  colors : List String

inductive Note (α : Type) where
  | arrow (source target : Point α) (color : String)
  | label (text : String) (middle : Point α) (angle : α)

structure Picture (α : Type) where
  markers : Markers α
  notes : List (Note α)

structure Animation (α : Type) where
  pictures : List (Picture α)
  duration : Value

structure Figure (α : Type) where
  picture : Picture α
  across : Span α
  upwards : Span α
  size : Option (Int × Int)
  animation : Option (Animation α)

structure Gauge (α : Type) where
  heading : α → α → α
  roundUp : α → Except Misuse Int

def floatGauge : Gauge Float where
  heading dx dy := dy.atan2 dx * (180.0 / halfTurn)
  roundUp x :=
    match Decimal.ceiling? x with
    | some n => .ok n
    | none => .error (if x.isNaN then .notANumber else .infinite)

def labelAngle [Sub α] [Add α] [Neg α] [LT α] [DecidableLT α] [BEq α] [NatCast α] (gauge : Gauge α)
    (p q : Point α) : α :=
  if p.x == q.x && p.y == q.y then ((0 : Nat) : α)
  else
    let angle := -gauge.heading (q.x - p.x) (q.y - p.y)
    if ((90 : Nat) : α) < angle then angle - ((180 : Nat) : α)
    else if angle < -((90 : Nat) : α) then angle + ((180 : Nat) : α)
    else angle

def share (duration : Value) (count : Nat) : Except Misuse Value :=
  match duration with
  | .float x => if count = 0 then .error (.byZero .float) else .ok (.float (Decimal.floorDiv x count))
  | v =>
    match v.int? with
    | some n => if count = 0 then .error (.byZero .int) else .ok (.int (n.fdiv count))
    | none => .error (.operands "//" v.kind .int)

end DependencyAtlas.Drawing
