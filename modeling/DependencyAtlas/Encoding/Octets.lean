import DependencyAtlas.Text.Digits

namespace DependencyAtlas.Encoding

abbrev Octets := List UInt8

inductive Reason where
  | invalidStart
  | invalidContinuation
  | unexpectedEnd
  | truncated
  | outOfRange
  deriving Repr, DecidableEq

def Reason.text : Reason → String
  | invalidStart => "invalid start byte"
  | invalidContinuation => "invalid continuation byte"
  | unexpectedEnd => "unexpected end of data"
  | truncated => "truncated data"
  | outOfRange => "code point not in range(0x110000)"

inductive Item where
  | point (n : Nat) (size : Nat)
  | broken (reason : Reason) (size : Nat)
  deriving Repr, DecidableEq

def Item.size : Item → Nat
  | point _ size => size
  | broken _ size => size

abbrev Reader := UInt8 → Octets → Item

def itemsFrom (read : Reader) (skip : Nat) : Octets → List Item
  | [] => []
  | b :: rest =>
    match skip with
    | skip + 1 => itemsFrom read skip rest
    | 0 =>
      let item := read b rest
      item :: itemsFrom read (item.size - 1) rest

def items (read : Reader) (octets : Octets) : List Item :=
  itemsFrom read 0 octets

structure Fault where
  encoding : String
  reason : Reason
  start : Nat
  octets : Octets
  deriving Repr, DecidableEq

def Fault.message (f : Fault) : String :=
  let place :=
    match f.octets with
    | [b] => "byte 0x" ++ String.ofList (Text.hexPadded 2 b.toNat) ++ " in position " ++ toString f.start
    | octets =>
      "bytes in position " ++ toString f.start ++ "-" ++ toString (f.start + octets.length - 1)
  "'" ++ f.encoding ++ "' codec can't decode " ++ place ++ ": " ++ f.reason.text

def isSurrogate (n : Nat) : Bool :=
  0xD800 ≤ n && n ≤ 0xDFFF

def replacement : Char :=
  '\uFFFD'

def charOf (n : Nat) : Char :=
  if isSurrogate n then replacement else Char.ofNat n

def strictFrom (encoding : String) (octets : Octets) (start : Nat) :
    List Item → Except Fault (List Char)
  | [] => .ok []
  | .point n size :: rest => do
    return charOf n :: (← strictFrom encoding octets (start + size) rest)
  | .broken reason size :: _ =>
    .error ⟨encoding, reason, start, (octets.drop start).take size⟩

def strict (encoding : String) (read : Reader) (octets : Octets) : Except Fault (List Char) :=
  strictFrom encoding octets 0 (items read octets)

def lenientItem : Item → Char
  | .point n _ => charOf n
  | .broken .. => replacement

def lenient (read : Reader) (octets : Octets) : List Char :=
  (items read octets).map lenientItem

end DependencyAtlas.Encoding
