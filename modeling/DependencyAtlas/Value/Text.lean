import DependencyAtlas.Decimal.Shortest
import DependencyAtlas.Text.Quoted
import DependencyAtlas.Value.Basic

namespace DependencyAtlas.Value

def intText (n : Int) : String :=
  (if n < 0 then "-" else "") ++ Nat.repr n.natAbs

mutual

def quoted : Value → String
  | null => "None"
  | bool b => if b then "True" else "False"
  | int n => intText n
  | float x => Decimal.plain.write x
  | str s => Text.quoted s
  | moment m => m.quoted
  | list items => "[" ++ quotedItems items ++ "]"
  | object fields => "\x7b" ++ quotedFields fields ++ "\x7d"

def quotedItems : List Value → String
  | [] => ""
  | [v] => quoted v
  | v :: rest => quoted v ++ ", " ++ quotedItems rest

def quotedFields : List (String × Value) → String
  | [] => ""
  | [(k, v)] => Text.quoted k ++ ": " ++ quoted v
  | (k, v) :: rest => Text.quoted k ++ ": " ++ quoted v ++ ", " ++ quotedFields rest

end

def text : Value → String
  | str s => s
  | moment m => m.text
  | v => quoted v

end DependencyAtlas.Value
