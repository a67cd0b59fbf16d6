
namespace DependencyAtlas.Layout

structure Compass (α : Type) where
  cos : Nat → Nat → α
  sin : Nat → Nat → α

def halfTurn : Float :=
  Float.ofBits 0x400921FB54442D18

def turn (i n : Nat) : Float :=
  2.0 * halfTurn * i.toFloat / n.toFloat

def floatCompass : Compass Float where
  cos i n := (turn i n).cos
  sin i n := (turn i n).sin

end DependencyAtlas.Layout
