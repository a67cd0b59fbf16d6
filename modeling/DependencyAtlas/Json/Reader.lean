import DependencyAtlas.Decimal.Reading
import DependencyAtlas.Json.Fault
import DependencyAtlas.Value.Basic

/-!
Reading JSON. A repeated field keeps its first place and takes its last value. The words for infinity
and for no number are accepted, and an integer may have 4300 digits.
-/

namespace DependencyAtlas.Json

open Text (hexValue? isDigit natOfDigits)

inductive Stuck where
  | at (cause : Cause) (rest : List Char)
  | longInteger (digits : Nat)

def isSpace (c : Char) : Bool :=
  c == ' ' || c == '\t' || c == '\n' || c == '\r'

def skipSpace (cs : List Char) : List Char :=
  cs.dropWhile isSpace

def hex4? (a b c d : Char) : Option Nat := do
  let a ← hexValue? a
  let b ← hexValue? b
  let c ← hexValue? c
  let d ← hexValue? d
  return ((a * 16 + b) * 16 + c) * 16 + d

def isHighSurrogate (n : Nat) : Bool :=
  0xD800 ≤ n && n ≤ 0xDBFF

def isLowSurrogate (n : Nat) : Bool :=
  0xDC00 ≤ n && n ≤ 0xDFFF

def charOf (n : Nat) : Char :=
  if isHighSurrogate n || isLowSurrogate n then '\uFFFD' else Char.ofNat n

def escapedCodePoint (cs : List Char) : Except Stuck (Nat × Nat) :=
  match cs with
  | a :: b :: c :: d :: e :: more =>
    match hex4? a b c d with
    | none => .error (.at .badCodePoint ('u' :: cs))
    | some n =>
      if isHighSurrogate n then
        match e, more with
        | '\\', 'u' :: w :: x :: y :: z :: _ :: _ =>
          match hex4? w x y z with
          | none => .error (.at .badCodePoint more)
          | some m =>
            if isLowSurrogate m then .ok (0x10000 + (n - 0xD800) * 0x400 + (m - 0xDC00), 10)
            else .ok (n, 4)
        | _, _ => .ok (n, 4)
      else .ok (n, 4)
  | _ => .error (.at .badCodePoint ('u' :: cs))

def simpleEscape? (c : Char) : Option Char :=
  if c == '"' || c == '\\' || c == '/' then some c
  else if c == 'b' then some '\x08'
  else if c == 'f' then some '\x0c'
  else if c == 'n' then some '\n'
  else if c == 'r' then some '\r'
  else if c == 't' then some '\t'
  else none

def string (start : List Char) (acc : List Char) : List Char → Except Stuck (String × List Char)
  | [] => .error (.at .unterminated start)
  | '"' :: rest => .ok (String.ofList acc.reverse, rest)
  | ['\\'] => .error (.at .unterminated start)
  | '\\' :: 'u' :: rest =>
    match escapedCodePoint rest with
    | .error stuck => .error stuck
    | .ok (n, used) => string start (charOf n :: acc) (rest.drop used)
  | '\\' :: c :: rest =>
    match simpleEscape? c with
    | some d => string start (d :: acc) rest
    | none => .error (.at .badEscape ('\\' :: c :: rest))
  | c :: rest =>
    if c.toNat ≤ 0x1F then .error (.at .controlCharacter (c :: rest))
    else string start (c :: acc) rest
termination_by cs => cs.length

def fraction (cs : List Char) : List Char × List Char :=
  match cs with
  | '.' :: c :: rest =>
    if isDigit c then ((c :: rest).takeWhile isDigit, (c :: rest).dropWhile isDigit) else ([], cs)
  | _ => ([], cs)

def exponent (cs : List Char) : Option Int × List Char :=
  match cs with
  | c :: rest =>
    if c == 'e' || c == 'E' then
      let (negative, rest) := Decimal.sign rest
      match rest.takeWhile isDigit with
      | [] => (none, cs)
      | ds =>
        let n : Int := natOfDigits ds
        (some (if negative then -n else n), rest.dropWhile isDigit)
    else (none, cs)
  | [] => (none, [])

def wholePart (cs : List Char) : List Char × List Char :=
  match cs with
  | '0' :: rest => (['0'], rest)
  | _ => (cs.takeWhile isDigit, cs.dropWhile isDigit)

def number (cs : List Char) : Except Stuck (Value × List Char) :=
  let (negative, body) := match cs with
    | '-' :: rest => (true, rest)
    | _ => (false, cs)
  match wholePart body with
  | ([], _) => .error (.at .valueExpected cs)
  | (whole, rest) =>
    let (decimals, rest) := fraction rest
    let (power, rest) := exponent rest
    if decimals.isEmpty && power.isNone then
      if 4300 < whole.length then .error (.longInteger whole.length)
      else
        let n : Int := natOfDigits whole
        .ok (.int (if negative then -n else n), rest)
    else
      .ok (.float (Decimal.nearest negative (natOfDigits (whole ++ decimals))
        (power.getD 0 - decimals.length)), rest)

def after? (word : String) (cs : List Char) : Option (List Char) :=
  if word.toList.isPrefixOf cs then some (cs.drop word.length) else none

def words : List (String × Value) :=
  [("null", .null), ("true", .bool true), ("false", .bool false), ("NaN", .float (0.0 / 0.0)),
    ("Infinity", .float (1.0 / 0.0)), ("-Infinity", .float (-1.0 / 0.0))]

def word? (cs : List Char) : Option (Value × List Char) :=
  words.findSome? fun (word, v) => (after? word cs).map fun rest => (v, rest)

mutual

/-- One value. The first argument bounds the number of values and fields still to come. -/
def value : Nat → List Char → Except Stuck (Value × List Char)
  | 0, cs => .error (.at .valueExpected cs)
  | fuel + 1, cs =>
    match cs with
    | '"' :: rest =>
      match string cs [] rest with
      | .error stuck => .error stuck
      | .ok (s, rest) => .ok (.str s, rest)
    | '[' :: rest =>
      match skipSpace rest with
      | ']' :: rest => .ok (.list [], rest)
      | rest => items fuel [] rest
    | '\x7b' :: rest =>
      match skipSpace rest with
      | '\x7d' :: rest => .ok (.object [], rest)
      | rest => fields fuel [] rest
    | _ =>
      match word? cs with
      | some result => .ok result
      | none => number cs

def items : Nat → List Value → List Char → Except Stuck (Value × List Char)
  | 0, _, cs => .error (.at .valueExpected cs)
  | fuel + 1, acc, cs =>
    match value fuel cs with
    | .error stuck => .error stuck
    | .ok (v, rest) =>
      match skipSpace rest with
      | ']' :: rest => .ok (.list (v :: acc).reverse, rest)
      | ',' :: rest => items fuel (v :: acc) (skipSpace rest)
      | rest => .error (.at .commaExpected rest)

def fields : Nat → Fields → List Char → Except Stuck (Value × List Char)
  | 0, _, cs => .error (.at .nameExpected cs)
  | fuel + 1, acc, cs =>
    match cs with
    | '"' :: rest =>
      match string cs [] rest with
      | .error stuck => .error stuck
      | .ok (name, rest) =>
        match skipSpace rest with
        | ':' :: rest =>
          match value fuel (skipSpace rest) with
          | .error stuck => .error stuck
          | .ok (v, rest) =>
            match skipSpace rest with
            | '\x7d' :: rest => .ok (.object (acc.put name v), rest)
            | ',' :: rest => fields fuel (acc.put name v) (skipSpace rest)
            | rest => .error (.at .commaExpected rest)
        | rest => .error (.at .colonExpected rest)
    | _ => .error (.at .nameExpected cs)

end

def Stuck.fault (whole : List Char) : Stuck → Fault
  | .at cause rest => .malformed cause (Text.Place.ofRest whole rest)
  | .longInteger digits => .longInteger digits

def parseChars (cs : List Char) : Except Fault Value :=
  match value (2 * cs.length + 2) (skipSpace cs) with
  | .error stuck => .error (stuck.fault cs)
  | .ok (v, rest) =>
    match skipSpace rest with
    | [] => .ok v
    | rest => .error (Stuck.fault cs (.at .extraData rest))

def parse (s : String) : Except Fault Value :=
  match s.toList with
  | '\uFEFF' :: rest => .error (Stuck.fault ('\uFEFF' :: rest) (.at .byteOrderMark ('\uFEFF' :: rest)))
  | cs => parseChars cs

end DependencyAtlas.Json
