import DependencyAtlas.Decimal.Binary
import DependencyAtlas.Value.Moment

/-!
Values of documents: what a server answer, a settings file or an option holds. Integers and decimals
are told apart, and an object keeps its fields in the order in which they were first written.
-/

namespace DependencyAtlas

inductive Value where
  | null
  | bool (b : Bool)
  | int (n : Int)
  | float (x : Float)
  | str (s : String)
  | moment (m : Moment)
  | list (items : List Value)
  | object (fields : List (String × Value))
  deriving Inhabited

inductive Kind where
  | null | bool | int | float | str | day | clock | instant | list | object
  deriving Repr, DecidableEq

abbrev Fields := List (String × Value)

namespace Fields

def put (key : String) (v : Value) : Fields → Fields
  | [] => [(key, v)]
  | (k, w) :: rest => if k = key then (k, v) :: rest else (k, w) :: put key v rest

def get? (fields : Fields) (key : String) : Option Value :=
  fields.lookup key

def ofPairs (pairs : List (String × Value)) : Fields :=
  pairs.foldl (fun fields p => put p.1 p.2 fields) []

def without (keys : List String) (fields : Fields) : Fields :=
  fields.filter fun p => !keys.contains p.1

end Fields

namespace Value

def kind : Value → Kind
  | null => .null
  | bool _ => .bool
  | int _ => .int
  | float _ => .float
  | str _ => .str
  | moment (.day _) => .day
  | moment (.clock _) => .clock
  | moment (.instant ..) => .instant
  | list _ => .list
  | object _ => .object

def truthy : Value → Bool
  | null => false
  | bool b => b
  | int n => n != 0
  | float x => x != 0.0
  | str s => s != ""
  | moment _ => true
  | list items => !items.isEmpty
  | object fields => !fields.isEmpty

def isNull : Value → Bool
  | null => true
  | _ => false

def int? : Value → Option Int
  | bool b => some (if b then 1 else 0)
  | int n => some n
  | _ => none

mutual

/-- Equality of values: numbers by their size, whatever their kind, and objects whatever the order of
their fields. -/
def same : Value → Value → Bool
  | null, null => true
  | str s, str t => s == t
  | moment m, moment n => m == n
  | list xs, list ys => sameItems xs ys
  | object xs, object ys => xs.length == ys.length && sameFields xs ys
  | float x, float y => x == y
  | float x, w => w.int? == Decimal.exactInt? x && w.int?.isSome
  | v, float y => v.int? == Decimal.exactInt? y && v.int?.isSome
  | v, w => v.int? == w.int? && v.int?.isSome

def sameItems : List Value → List Value → Bool
  | [], [] => true
  | x :: xs, y :: ys => same x y && sameItems xs ys
  | _, _ => false

def sameFields : List (String × Value) → List (String × Value) → Bool
  | [], _ => true
  | (k, x) :: xs, ys =>
    (match ys.lookup k with
      | some y => same x y
      | none => false) && sameFields xs ys

end

instance : BEq Value := ⟨same⟩

end Value

end DependencyAtlas
