
namespace DependencyAtlas.Decimal

structure Binary where
  mantissa : Nat
  exponent : Int
  deriving Repr, DecidableEq

inductive Parts where
  | finite (negative : Bool) (b : Binary)
  | infinite (negative : Bool)
  | nan
  deriving Repr, DecidableEq

def Parts.ofBits (bits : Nat) : Parts :=
  let negative := bits / Nat.pow 2 63 % 2 == 1
  let field : Nat := bits / Nat.pow 2 52 % Nat.pow 2 11
  let fraction : Nat := bits % Nat.pow 2 52
  if field == 2047 then if fraction == 0 then .infinite negative else .nan
  else if field == 0 then .finite negative ⟨fraction, -1074⟩
  else .finite negative ⟨Nat.pow 2 52 + fraction, (field : Int) - 1075⟩

def parts (x : Float) : Parts :=
  .ofBits x.toBits.toNat

def Binary.floor (b : Binary) : Nat × Bool :=
  match b.exponent with
  | .ofNat k => (b.mantissa * Nat.pow 2 k, false)
  | .negSucc k => (b.mantissa / Nat.pow 2 (k + 1), b.mantissa % Nat.pow 2 (k + 1) != 0)

def floor? (x : Float) : Option Int :=
  match parts x with
  | .finite negative b =>
    let (n, rest) := b.floor
    some (if negative then (if rest then -(n : Int) - 1 else -n) else n)
  | _ => none

/-- The greatest whole number of times that `n` goes into a number, as a double. Into what is not finite it
goes no number of times. -/
def floorDiv (x : Float) (n : Nat) : Float :=
  match parts x with
  | .finite negative b =>
    let top := b.mantissa * Nat.pow 2 b.exponent.toNat
    let bottom := n * Nat.pow 2 (-b.exponent).toNat
    if negative then -(((top + bottom - 1) / bottom).toFloat) else (top / bottom).toFloat
  | _ => 0.0 / 0.0

def ceiling? (x : Float) : Option Int :=
  match parts x with
  | .finite negative b =>
    let (n, rest) := b.floor
    some (if negative then -n else (if rest then n + 1 else n))
  | _ => none

def exactInt? (x : Float) : Option Int :=
  match parts x with
  | .finite negative b =>
    let (n, rest) := b.floor
    if rest then none else some (if negative then -n else n)
  | _ => none

end DependencyAtlas.Decimal
