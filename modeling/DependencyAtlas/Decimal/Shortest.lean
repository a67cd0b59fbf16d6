import DependencyAtlas.Decimal.Binary

/-!
The shortest decimal of a double: the fewest digits that read back as the same number, and among
those the nearest to it.
-/

namespace DependencyAtlas.Decimal

structure Scaled where
  digits : Nat
  exponent : Int
  deriving Repr, DecidableEq

def pow10 (e : Int) : Nat :=
  Nat.pow 10 e.toNat

def pow2 (e : Int) : Nat :=
  Nat.pow 2 e.toNat

def countDigits (n : Nat) : Nat :=
  (Nat.repr n).length

def Binary.magnitude (b : Binary) : Int :=
  let whole := b.mantissa * pow2 b.exponent / pow2 (-b.exponent)
  if whole = 0 then
    let ratio := (pow2 (-b.exponent) + b.mantissa - 1) / b.mantissa
    1 - (countDigits (ratio - 1) : Int)
  else countDigits whole

/-- The interval of reals that round to the number, in quarters of its last place. The neighbour below
a power of two is half as far away as the one above. -/
def Binary.around (b : Binary) : Nat × Nat :=
  let below := if b.mantissa = Nat.pow 2 52 && b.exponent != -1074 then 1 else 2
  (4 * b.mantissa - below, 4 * b.mantissa + 2)

def Binary.onGrid (b : Binary) (s : Int) : Option Nat :=
  let unit := b.exponent - 2
  let grid := pow10 s * pow2 (-unit)
  let scale := pow2 unit * pow10 (-s)
  let (low, high) := b.around
  let inside (j : Nat) : Bool :=
    if b.mantissa % 2 = 0 then low * scale ≤ j * grid && j * grid ≤ high * scale
    else low * scale < j * grid && j * grid < high * scale
  let value := 4 * b.mantissa * scale
  let j := value / grid
  match inside j, inside (j + 1) with
  | false, false => none
  | true, false => some j
  | false, true => some (j + 1)
  | true, true =>
    if 2 * value < (2 * j + 1) * grid then some j
    else if (2 * j + 1) * grid < 2 * value then some (j + 1)
    else some (if j % 2 = 0 then j else j + 1)

def Binary.search (b : Binary) (p : Int) : Nat → Nat → Scaled
  | 0, n => ⟨4 * b.mantissa * pow2 (b.exponent - 2), p - n⟩
  | count + 1, n =>
    match b.onGrid (p - n) with
    | some j => ⟨j, p - n⟩
    | none => b.search p count (n + 1)

def Binary.shortest (b : Binary) : Scaled :=
  b.search b.magnitude 17 1

structure Spelling where
  lowest : Int
  highest : Int
  infinity : String
  nan : String

def plain : Spelling := ⟨-4, 16, "inf", "nan"⟩

def exported : Spelling := ⟨-4, 16, "Infinity", "NaN"⟩

def zerosText (n : Nat) : String :=
  String.ofList (List.replicate n '0')

def exponentText (e : Int) : String :=
  let size := Nat.repr e.natAbs
  (if e < 0 then "e-" else "e+") ++ (if size.length < 2 then "0" ++ size else size)

def withoutZeros (digits : List Char) : List Char :=
  (digits.reverse.dropWhile (· == '0')).reverse

def Spelling.magnitude (style : Spelling) (x : Scaled) : String :=
  let all := Nat.repr x.digits
  let point := x.exponent + all.length
  let digits := withoutZeros all.toList
  if style.lowest < point && point ≤ style.highest then
    if point ≤ 0 then "0." ++ zerosText point.natAbs ++ String.ofList digits
    else
      let whole := digits.take point.toNat
      let rest := digits.drop point.toNat
      String.ofList whole ++ zerosText (point.toNat - whole.length) ++ "." ++
        (if rest.isEmpty then "0" else String.ofList rest)
  else
    let rest := digits.drop 1
    String.ofList (digits.take 1) ++ (if rest.isEmpty then "" else "." ++ String.ofList rest) ++
      exponentText (point - 1)

def Spelling.write (style : Spelling) (x : Float) : String :=
  match parts x with
  | .nan => style.nan
  | .infinite negative => (if negative then "-" else "") ++ style.infinity
  | .finite negative b =>
    (if negative then "-" else "") ++
      (if b.mantissa = 0 then "0.0" else style.magnitude b.shortest)

end DependencyAtlas.Decimal
