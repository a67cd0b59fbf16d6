import DependencyAtlas.Value.Text

namespace DependencyAtlas.Json

open Text (hexPadded)

def escapedUnit (n : Nat) : List Char :=
  '\\' :: 'u' :: hexPadded 4 n

def escaped (c : Char) : List Char :=
  let n := c.toNat
  if c == '"' || c == '\\' then ['\\', c]
  else if c == '\n' then ['\\', 'n']
  else if c == '\r' then ['\\', 'r']
  else if c == '\t' then ['\\', 't']
  else if n == 0x0C then ['\\', 'f']
  else if n == 0x08 then ['\\', 'b']
  else if 0x20 ≤ n && n ≤ 0x7E then [c]
  else if n ≤ 0xFFFF then escapedUnit n
  else escapedUnit (0xD800 + (n - 0x10000) / 0x400) ++ escapedUnit (0xDC00 + (n - 0x10000) % 0x400)

def quote (s : String) : String :=
  String.ofList ('"' :: (s.toList.flatMap escaped ++ ['"']))

def scalar : Value → String
  | .null => "null"
  | .bool b => if b then "true" else "false"
  | .int n => Value.intText n
  | .float x => Decimal.exported.write x
  | .str s => quote s
  | v => quote v.text

mutual

def compactPieces : Value → List String
  | .list items => "[" :: (compactItems items ++ ["]"])
  | .object fields => "\x7b" :: (compactFields fields ++ ["\x7d"])
  | v => [scalar v]

def compactItems : List Value → List String
  | [] => []
  | [v] => compactPieces v
  | v :: rest => compactPieces v ++ ", " :: compactItems rest

def compactFields : List (String × Value) → List String
  | [] => []
  | [(k, v)] => quote k :: ": " :: compactPieces v
  | (k, v) :: rest => quote k :: ": " :: (compactPieces v ++ ", " :: compactFields rest)

end

def compact (v : Value) : String :=
  String.join (compactPieces v)

def lineAt (depth : Nat) : String :=
  "\n" ++ String.ofList (List.replicate (2 * depth) ' ')

mutual

def indentedPieces (depth : Nat) : Value → List String
  | .list [] => ["[]"]
  | .list (v :: rest) =>
    "[" :: lineAt (depth + 1) :: (indentedPieces (depth + 1) v ++ indentedItems (depth + 1) rest ++
      [lineAt depth, "]"])
  | .object [] => ["\x7b\x7d"]
  | .object ((k, v) :: rest) =>
    "\x7b" :: lineAt (depth + 1) :: quote k :: ": " :: (indentedPieces (depth + 1) v ++
      indentedFields (depth + 1) rest ++ [lineAt depth, "\x7d"])
  | v => [scalar v]

def indentedItems (depth : Nat) : List Value → List String
  | [] => []
  | v :: rest => "," :: lineAt depth :: (indentedPieces depth v ++ indentedItems depth rest)

def indentedFields (depth : Nat) : List (String × Value) → List String
  | [] => []
  | (k, v) :: rest =>
    "," :: lineAt depth :: quote k :: ": " :: (indentedPieces depth v ++ indentedFields depth rest)

end

def indented (v : Value) : String :=
  String.join (indentedPieces 0 v)

end DependencyAtlas.Json
