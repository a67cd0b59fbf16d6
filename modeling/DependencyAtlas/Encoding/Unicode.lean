import DependencyAtlas.Encoding.Octets

namespace DependencyAtlas.Encoding

def isContinuation (b : UInt8) : Bool :=
  0x80 ≤ b && b < 0xC0

def low6 (b : UInt8) : Nat :=
  b.toNat - 0x80

def isSecond (halves : Bool) (b second : UInt8) : Bool :=
  isContinuation second &&
    !(b == 0xE0 && second < 0xA0) && !(b == 0xED && 0xA0 ≤ second && !halves) &&
    !(b == 0xF0 && second < 0x90) && !(b == 0xF4 && 0x90 ≤ second)

def utf8 (halves : Bool) : Reader := fun b rest =>
  if b < 0x80 then .point b.toNat 1
  else if b < 0xC2 || 0xF5 ≤ b then .broken .invalidStart 1
  else
    match rest with
    | [] => .broken .unexpectedEnd 1
    | c :: rest =>
      if b < 0xE0 then
        if isContinuation c then .point ((b.toNat - 0xC0) * 0x40 + low6 c) 2
        else .broken .invalidContinuation 1
      else if !isSecond halves b c then .broken .invalidContinuation 1
      else
        match rest with
        | [] =>
          if isSecond false b c then .broken .unexpectedEnd 2 else .broken .invalidContinuation 1
        | d :: rest =>
          if !isContinuation d then
            if isSecond false b c then .broken .invalidContinuation 2
            else .broken .invalidContinuation 1
          else if b < 0xF0 then .point (((b.toNat - 0xE0) * 0x40 + low6 c) * 0x40 + low6 d) 3
          else
            match rest with
            | [] => .broken .unexpectedEnd 3
            | e :: _ =>
              if isContinuation e then
                .point ((((b.toNat - 0xF0) * 0x40 + low6 c) * 0x40 + low6 d) * 0x40 + low6 e) 4
              else .broken .invalidContinuation 3

inductive Order where
  | little
  | big
  deriving Repr, DecidableEq

def Order.pair (o : Order) (a b : UInt8) : Nat :=
  match o with
  | little => a.toNat + 0x100 * b.toNat
  | big => 0x100 * a.toNat + b.toNat

def Order.quad (o : Order) (a b c d : UInt8) : Nat :=
  match o with
  | little => o.pair a b + 0x10000 * o.pair c d
  | big => 0x10000 * o.pair a b + o.pair c d

def isHigh (n : Nat) : Bool :=
  0xD800 ≤ n && n < 0xDC00

def isLow (n : Nat) : Bool :=
  0xDC00 ≤ n && n < 0xE000

def utf16 (halves : Bool) (o : Order) : Reader := fun a rest =>
  match rest with
  | [] => .broken .truncated 1
  | b :: rest =>
    let n := o.pair a b
    if isHigh n then
      match rest with
      | c :: d :: _ =>
        let m := o.pair c d
        if isLow m then .point (0x10000 + (n - 0xD800) * 0x400 + (m - 0xDC00)) 4 else .point n 2
      | _ => if halves then .point n 2 else .broken .unexpectedEnd (2 + rest.length)
    else .point n 2

def utf32 (o : Order) : Reader := fun a rest =>
  match rest with
  | b :: c :: d :: _ =>
    let n := o.quad a b c d
    if n < 0x110000 then .point n 4 else .broken .outOfRange 4
  | _ => .broken .truncated (1 + rest.length)

end DependencyAtlas.Encoding
