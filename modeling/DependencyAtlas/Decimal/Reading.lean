import DependencyAtlas.Text.Blank
import DependencyAtlas.Text.Case
import DependencyAtlas.Text.Digits

namespace DependencyAtlas.Decimal

def nearest (negative : Bool) (digits : Nat) (exponent : Int) : Float :=
  let size : Int := (Nat.repr digits).length
  let x : Float :=
    if digits = 0 || size + exponent < -400 then 0.0
    else if 400 < size + exponent then 1.0 / 0.0
    else if exponent < 0 then Float.ofScientific digits true exponent.natAbs
    else Float.ofScientific digits false exponent.natAbs
  if negative then -x else x

def ofInt? (n : Int) : Option Float :=
  let x := nearest (n < 0) n.natAbs 0
  if x.isInf then none else some x

def moreDigits : List Char → List Nat × List Char
  | [] => ([], [])
  | c :: cs =>
    match Text.digitValue? c with
    | some d => let (ds, rest) := moreDigits cs; (d :: ds, rest)
    | none =>
      match c, cs with
      | '_', c' :: cs' =>
        match Text.digitValue? c' with
        | some d => let (ds, rest) := moreDigits cs'; (d :: ds, rest)
        | none => ([], c :: cs)
      | _, _ => ([], c :: cs)

def sign : List Char → Bool × List Char
  | '-' :: cs => (true, cs)
  | '+' :: cs => (false, cs)
  | cs => (false, cs)

def valueOf (ds : List Nat) : Nat :=
  ds.foldl (fun n d => n * 10 + d) 0

def digits? (cs : List Char) : Option (List Nat × List Char) :=
  match cs with
  | [] => none
  | c :: rest =>
    (Text.digitValue? c).map fun d => let (ds, rest') := moreDigits rest; (d :: ds, rest')

def exponent? : List Char → Option Int
  | [] => some 0
  | c :: cs =>
    if c == 'e' || c == 'E' then
      let (negative, cs) := sign cs
      match digits? cs with
      | some (ds, []) => some (if negative then -(valueOf ds : Int) else valueOf ds)
      | _ => none
    else none

def unsigned? (negative : Bool) (cs : List Char) : Option Float :=
  let word := String.ofList (cs.map Text.lower)
  if word = "inf" || word = "infinity" then
    some (if negative then -(1.0 / 0.0) else 1.0 / 0.0)
  else if word = "nan" then some (0.0 / 0.0)
  else
    let (whole, rest) := (digits? cs).getD ([], cs)
    match rest with
    | '.' :: rest =>
      let (fraction, rest) := (digits? rest).getD ([], rest)
      if whole.isEmpty && fraction.isEmpty then none
      else
        (exponent? rest).map fun e =>
          nearest negative (valueOf (whole ++ fraction)) (e - fraction.length)
    | _ =>
      if whole.isEmpty then none
      else (exponent? rest).map fun e => nearest negative (valueOf whole) e

/-- The number that a text denotes: blanks around it, a sign, digits of any script, a point and an
exponent, or one of the words for infinity and for no number. -/
def read? (s : String) : Option Float :=
  let (negative, cs) := sign (Text.trim s.toList)
  unsigned? negative cs

end DependencyAtlas.Decimal
