import DependencyAtlas.Decimal.Reading
import DependencyAtlas.Value.Text

namespace DependencyAtlas

inductive Misuse where
  | notIterable (k : Kind)
  | notContainer (k : Kind)
  | noMember (k : Kind) (name : String)
  | operands (sign : String) (left right : Kind)
  | byZero (k : Kind)
  | notJoinable (k : Kind)
  | notRepeatable
  | notComparable (sign : String) (left right : Kind)
  | notCount (k : Kind)
  | tooLarge
  | infinite
  | notANumber
  | noFields (k : Kind)
  | notNumeric (k : Kind)
  | unreadable (text : String)
  | notPath (k : Kind)
  deriving Repr, DecidableEq

def Kind.name : Kind → String
  | null => "NoneType"
  | bool => "bool"
  | int => "int"
  | float => "float"
  | str => "str"
  | day => "datetime.date"
  | clock => "datetime.time"
  | instant => "datetime.datetime"
  | list => "list"
  | object => "dict"

def Kind.shortName : Kind → String
  | day => "date"
  | clock => "time"
  | instant => "datetime"
  | k => k.name

namespace Misuse

def unsupported (sign : String) (left right : Kind) : String :=
  "unsupported operand type(s) for " ++ sign ++ ": '" ++ left.name ++ "' and '" ++ right.name ++ "'"

def message : Misuse → String
  | notIterable k => "'" ++ k.name ++ "' object is not iterable"
  | notContainer k => "argument of type '" ++ k.name ++ "' is not iterable"
  | noMember k name => "'" ++ k.name ++ "' object has no attribute '" ++ name ++ "'"
  | operands sign left right => unsupported sign left right
  | byZero .float => "float floor division by zero"
  | byZero _ => "integer division or modulo by zero"
  | notJoinable k => "can only concatenate " ++ k.name ++ " (not \"int\") to " ++ k.name
  | notRepeatable => "can't multiply sequence by non-int of type 'float'"
  | notComparable sign left right =>
    "'" ++ sign ++ "' not supported between instances of '" ++ left.name ++ "' and '" ++
      right.name ++ "'"
  | notCount k => "'" ++ k.name ++ "' object cannot be interpreted as an integer"
  | tooLarge => "int too large to convert to float"
  | infinite => "cannot convert float infinity to integer"
  | notANumber => "cannot convert float NaN to integer"
  | noFields .str => "string indices must be integers, not 'str'"
  | noFields .list => "list indices must be integers or slices, not str"
  | noFields k => "'" ++ k.name ++ "' object is not subscriptable"
  | notNumeric k => "float() argument must be a string or a real number, not '" ++ k.name ++ "'"
  | unreadable text => "could not convert string to float: " ++ Text.quoted text
  | notPath k => "expected str, bytes or os.PathLike object, not " ++ k.shortName

def isWrongValue : Misuse → Bool
  | notANumber | unreadable _ => true
  | _ => false

end Misuse

namespace Value

def toDouble (v : Value) (otherwise : Kind → Misuse) : Except Misuse Float :=
  match v with
  | .float x => .ok x
  | v =>
    match v.int? with
    | some n =>
      match Decimal.ofInt? n with
      | some x => .ok x
      | none => .error .tooLarge
    | none => .error (otherwise v.kind)

def readDouble (v : Value) : Except Misuse Float :=
  match v with
  | .str s =>
    match Decimal.read? s with
    | some x => .ok x
    | none => .error (.unreadable s)
  | v => v.toDouble .notNumeric

def toCount (v : Value) : Except Misuse Int :=
  match v.int? with
  | some n => .ok n
  | none => .error (.notCount v.kind)

end Value

end DependencyAtlas
