import DependencyAtlas.Json.Writer
import DependencyAtlas.Scan.Exchange

namespace DependencyAtlas.Scan.Wire

open Encoding (Octets)

def hostField (a : Address) : String :=
  String.ofList ({ a with user := [] } : Address).authority

def target (a : Address) : String :=
  String.ofList <|
    '/' :: ((Address.escaped Address.refusedInPath a.path).dropWhile (· == '/') ++
      Address.optional '?' Address.refusedInQuery a.query)

def headLines (a : Address) (length : Nat) : List String := [
  "POST " ++ target a ++ " HTTP/1.1",
  "Host: " ++ hostField a,
  "Accept: */*",
  "Content-Type: application/json",
  "Content-Length: " ++ toString length,
  "Connection: close",
  ""]

def request (a : Address) (body : Value) : Octets :=
  let body := (Json.compact body).toUTF8.toList
  (String.join ((headLines a body.length).map (· ++ "\r\n"))).toUTF8.toList ++ body

def headFrom (current : List Char) (lines : List (List Char)) :
    Octets → Option (List (List Char) × Octets)
  | [] => none
  | 0x0D :: 0x0A :: rest =>
    if current.isEmpty then some (lines.reverse, rest)
    else headFrom [] (current.reverse :: lines) rest
  | b :: rest => headFrom (Char.ofNat b.toNat :: current) lines rest

def status? (line : List Char) : Option Nat :=
  let digits := ((line.dropWhile (· != ' ')).drop 1).takeWhile (· != ' ')
  if digits.length = 3 && digits.all Text.isDigit then some (Text.natOfDigits digits) else none

def field? (lines : List (List Char)) (name : String) : Option (List Char) :=
  lines.findSome? fun line =>
    if (line.takeWhile (· != ':')).map Text.lower = name.toList then
      some (Text.trim ((line.dropWhile (· != ':')).drop 1))
    else none

inductive Chunk where
  | size (n : Nat)
  | sized (n : Nat)
  | data (left : Nat)
  | gap

def unchunk (done : Octets) : Chunk → Octets → Option Octets
  | _, [] => none
  | .size n, b :: rest =>
    match Text.hexValue? (Char.ofNat b.toNat) with
    | some d => unchunk done (.size (n * 16 + d)) rest
    | none => unchunk done (.sized n) rest
  | .sized n, b :: rest =>
    if b != 0x0A then unchunk done (.sized n) rest
    else if n = 0 then some done.reverse
    else unchunk done (.data n) rest
  | .data n, b :: rest => unchunk (b :: done) (if n ≤ 1 then .gap else .data (n - 1)) rest
  | .gap, b :: rest => unchunk done (if b = 0x0A then .size 0 else .gap) rest

def body? (lines : List (List Char)) (rest : Octets) : Option Octets :=
  if (field? lines "transfer-encoding").isSome then unchunk [] (.size 0) rest
  else
    match field? lines "content-length" with
    | some digits =>
      let length := Text.natOfDigits digits
      if length ≤ rest.length then some (rest.take length) else none
    | none => some rest

def answer? (octets : Octets) : Option Answer := do
  let (lines, rest) ← headFrom [] [] octets
  let first ← lines.head?
  let status ← status? first
  let body ← body? lines rest
  return ⟨status, (field? lines "content-type").map String.ofList, body⟩

def reply (octets : Octets) : Reply :=
  match answer? octets with
  | some answer => .answer answer
  | none => .broken .protocol "Server disconnected without sending a response."

end DependencyAtlas.Scan.Wire
