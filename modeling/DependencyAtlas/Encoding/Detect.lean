import DependencyAtlas.Encoding.Unicode

namespace DependencyAtlas.Encoding

inductive Detected where
  | octets (mark : Nat)
  | pairs (o : Order) (mark : Nat)
  | quads (o : Order) (mark : Nat)
  deriving Repr, DecidableEq

def detect : Octets → Detected
  | 0 :: 0 :: 0xFE :: 0xFF :: _ => .quads .big 4
  | 0xFF :: 0xFE :: 0 :: 0 :: _ => .quads .little 4
  | 0xFE :: 0xFF :: _ => .pairs .big 2
  | 0xFF :: 0xFE :: _ => .pairs .little 2
  | 0xEF :: 0xBB :: 0xBF :: _ => .octets 3
  | a :: b :: c :: d :: _ =>
    if a == 0 then if b == 0 then .quads .big 0 else .pairs .big 0
    else if b == 0 then if c == 0 && d == 0 then .quads .little 0 else .pairs .little 0
    else .octets 0
  | [a, b] =>
    if a == 0 then .pairs .big 0 else if b == 0 then .pairs .little 0 else .octets 0
  | _ => .octets 0

def Order.suffix : Order → String
  | little => "-le"
  | big => "-be"

def jsonText (octets : Octets) : Except Fault (List Char) :=
  let marked (mark : Nat) (result : Except Fault (List Char)) :=
    result.mapError fun f => { f with start := f.start + mark }
  match detect octets with
  | .octets mark => strict "utf-8" (utf8 true) (octets.drop mark)
  | .pairs o mark =>
    marked mark (strict ("utf-16" ++ o.suffix) (utf16 true o) (octets.drop mark))
  | .quads o mark =>
    marked mark (strict ("utf-32" ++ o.suffix) (utf32 o) (octets.drop mark))

end DependencyAtlas.Encoding
