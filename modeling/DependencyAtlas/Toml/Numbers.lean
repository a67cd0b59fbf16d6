import DependencyAtlas.Decimal.Reading
import DependencyAtlas.Toml.Strings
import DependencyAtlas.Value.Basic

namespace DependencyAtlas.Toml

open Text (isDigit natOfDigits hexValue?)

def moreDigits (digit : Char → Bool) : List Char → List Char × List Char
  | [] => ([], [])
  | [c] => if digit c then ([c], []) else ([], [c])
  | c :: c' :: cs =>
    if digit c then
      let (ds, rest) := moreDigits digit (c' :: cs)
      (c :: ds, rest)
    else if c == '_' && digit c' then
      let (ds, rest) := moreDigits digit cs
      (c' :: ds, rest)
    else ([], c :: c' :: cs)

def digits? (digit : Char → Bool) (cs : List Char) : Option (List Char × List Char) :=
  match cs with
  | [] => none
  | c :: _ => if digit c then some (moreDigits digit cs) else none

def inBase (base : Nat) (ds : List Char) : Nat :=
  ds.foldl (fun n c => n * base + (hexValue? c).getD 0) 0

def isBinary (c : Char) : Bool :=
  c == '0' || c == '1'

def isOctal (c : Char) : Bool :=
  '0' ≤ c && c ≤ '7'

def isHex (c : Char) : Bool :=
  (hexValue? c).isSome

def based? : List Char → Option (Nat × List Char)
  | 'x' :: cs => (digits? isHex cs).map fun (ds, rest) => (inBase 16 ds, rest)
  | 'b' :: cs => (digits? isBinary cs).map fun (ds, rest) => (inBase 2 ds, rest)
  | 'o' :: cs => (digits? isOctal cs).map fun (ds, rest) => (inBase 8 ds, rest)
  | _ => none

def whole? : List Char → Option (List Char × List Char)
  | '0' :: cs => some (['0'], cs)
  | cs => digits? isDigit cs

def fraction? : List Char → Option (List Char × List Char)
  | '.' :: cs => digits? isDigit cs
  | _ => none

def exponent? : List Char → Option (Int × List Char)
  | c :: cs =>
    if c == 'e' || c == 'E' then
      let (negative, cs) := Decimal.sign cs
      (digits? isDigit cs).map fun (ds, rest) =>
        (if negative then -(natOfDigits ds : Int) else natOfDigits ds, rest)
    else none
  | [] => none

def longest : Nat :=
  4300

def decimal? (cs : List Char) : Option (Except Stuck (Value × List Char)) :=
  let (negative, unsigned) := Decimal.sign cs
  (whole? unsigned).map fun (whole, rest) =>
    let (fraction, rest') := (fraction? rest).getD ([], rest)
    let exponent := exponent? rest'
    if fraction.isEmpty && exponent.isNone then
      if longest < whole.length then .error (.longInteger whole.length)
      else
        let n : Int := natOfDigits whole
        .ok (.int (if negative then -n else n), rest)
    else
      let (e, rest'') := exponent.getD (0, rest')
      .ok (.float (Decimal.nearest negative (natOfDigits (whole ++ fraction)) (e - fraction.length)),
        rest'')

def number? (cs : List Char) : Option (Except Stuck (Value × List Char)) :=
  match cs with
  | '0' :: rest =>
    match based? rest with
    | some (n, rest) => some (.ok (.int n, rest))
    | none => decimal? cs
  | cs => decimal? cs

def word? (cs : List Char) : Option (Value × List Char) :=
  let (negative, unsigned) := Decimal.sign cs
  let infinite : Float := 1.0 / 0.0
  match unsigned with
  | 'i' :: 'n' :: 'f' :: rest => some (.float (if negative then -infinite else infinite), rest)
  | 'n' :: 'a' :: 'n' :: rest => some (.float (0.0 / 0.0), rest)
  | _ => none

def two? (bound : Nat) : List Char → Option (Nat × List Char)
  | a :: b :: rest =>
    if isDigit a && isDigit b && natOfDigits [a, b] < bound then some (natOfDigits [a, b], rest)
    else none
  | _ => none

def after? (c : Char) : List Char → Option (List Char)
  | d :: rest => if d == c then some rest else none
  | [] => none

def micro (cs : List Char) : Nat × List Char :=
  match cs with
  | '.' :: rest =>
    let ds := rest.takeWhile isDigit
    if ds.isEmpty then (0, cs)
    else
      let six := ds.take 6
      (natOfDigits six * Nat.pow 10 (6 - six.length), rest.dropWhile isDigit)
  | cs => (0, cs)

def clock? (cs : List Char) : Option (Clock × List Char) := do
  let (hour, cs) ← two? 24 cs
  let (minute, cs) ← two? 60 (← after? ':' cs)
  let (second, cs) ← two? 60 (← after? ':' cs)
  let (micro, cs) := micro cs
  return (⟨hour, minute, second, micro⟩, cs)

def offset? (cs : List Char) : Option (Int × List Char) :=
  match cs with
  | c :: rest =>
    if c == 'Z' || c == 'z' then some (0, rest)
    else if c == '+' || c == '-' then do
      let (hours, rest) ← two? 24 rest
      let (minutes, rest) ← two? 60 (← after? ':' rest)
      let n : Int := 60 * hours + minutes
      return (if c == '-' then -n else n, rest)
    else none
  | [] => none

def day? (cs : List Char) : Option (Day × List Char) := do
  let year := cs.take 4
  if year.length = 4 && year.all isDigit then
    let (month, cs) ← two? 13 (← after? '-' (cs.drop 4))
    let (day, cs) ← two? 32 (← after? '-' cs)
    if month = 0 || day = 0 then none else some ({ year := natOfDigits year, month, day }, cs)
  else none

def moment? (cs : List Char) : Option (Except Stuck (Value × List Char)) :=
  match day? cs with
  | some (day, rest) =>
    let timed := do
      let (c, rest) ← rest.head?.map fun c => (c, rest.drop 1)
      if c == 'T' || c == 't' || c == ' ' then clock? rest else none
    some <|
      if !Moment.dayExists day then .error (.at .badDate cs)
      else
        match timed with
        | none => .ok (.moment (.day day), rest)
        | some (clock, rest) =>
          match offset? rest with
          | some (offset, rest) => .ok (.moment (.instant day clock (some offset)), rest)
          | none => .ok (.moment (.instant day clock none), rest)
  | none => (clock? cs).map fun (clock, rest) => .ok (.moment (.clock clock), rest)

end DependencyAtlas.Toml
