import DependencyAtlas.Toml.Numbers
import DependencyAtlas.Toml.Tables

namespace DependencyAtlas.Toml

def isBare (c : Char) : Bool :=
  ('a' ≤ c && c ≤ 'z') || ('A' ≤ c && c ≤ 'Z') || ('0' ≤ c && c ≤ '9') || c == '-' || c == '_'

def skipComment (cs : List Char) : Except Stuck (List Char) :=
  match cs with
  | '#' :: rest => do
    let before := rest.takeWhile (· != '\n')
    let rest := rest.dropWhile (· != '\n')
    check isControl before rest
    return rest
  | cs => .ok cs

def skipLines : Nat → List Char → Except Stuck (List Char)
  | 0, cs => .ok cs
  | fuel + 1, cs =>
    match cs.dropWhile isSpaceOrNewline with
    | '#' :: rest => do
      let rest ← skipComment ('#' :: rest)
      skipLines fuel rest
    | rest => .ok rest

def skipBetween (cs : List Char) : Except Stuck (List Char) :=
  skipLines cs.length cs

def name (cs : List Char) : Except Stuck (String × List Char) :=
  match cs with
  | '\'' :: rest => literal ['\''] false rest
  | '"' :: rest => basic false rest
  | cs =>
    match cs.takeWhile isBare with
    | [] => .error (.at .keyPart cs)
    | bare => .ok (String.ofList bare, cs.dropWhile isBare)

def keyFrom : Nat → List Char → Except Stuck (Key × List Char)
  | 0, cs => .error (.at .keyPart cs)
  | fuel + 1, cs => do
    let (first, rest) ← name cs
    match skipSpace rest with
    | '.' :: rest =>
      let (others, rest) ← keyFrom fuel (skipSpace rest)
      return (first :: others, rest)
    | rest => return ([first], rest)

def key (cs : List Char) : Except Stuck (Key × List Char) :=
  keyFrom (cs.length + 1) cs

def keyOfPair (cs : List Char) : Except Stuck (Key × List Char) := do
  let (key, rest) ← key cs
  match rest with
  | '=' :: rest => return (key, skipSpace rest)
  | rest => throw (.at .equalsSign rest)

def scalar (cs : List Char) : Except Stuck (Value × List Char) :=
  match string? cs with
  | some result => result.map fun (s, rest) => (.str s, rest)
  | none =>
    match cs with
    | 't' :: 'r' :: 'u' :: 'e' :: rest => .ok (.bool true, rest)
    | 'f' :: 'a' :: 'l' :: 's' :: 'e' :: rest => .ok (.bool false, rest)
    | cs =>
      match moment? cs, number? cs, word? cs with
      | some result, _, _ => result
      | none, some result, _ => result
      | none, none, some result => .ok result
      | none, none, none => .error (.at .value cs)

mutual

def value : Nat → List Char → Except Stuck (Value × List Char)
  | 0, cs => .error (.at .value cs)
  | fuel + 1, cs =>
    match cs with
    | '[' :: rest => do
      let rest ← skipBetween rest
      let (items, rest) ← items fuel rest
      return (.list items, rest)
    | '\x7b' :: rest => do
      match skipSpace rest with
      | '\x7d' :: rest => return (.object [], rest)
      | rest =>
        let (table, rest) ← pairs fuel [] .none rest
        return (.object table, rest)
    | cs => scalar cs

def items : Nat → List Char → Except Stuck (List Value × List Char)
  | 0, cs => .error (.at .unclosedArray cs)
  | fuel + 1, cs =>
    match cs with
    | ']' :: rest => .ok ([], rest)
    | cs => do
      let (first, rest) ← value fuel cs
      let rest ← skipBetween rest
      match rest with
      | ']' :: rest => return ([first], rest)
      | ',' :: rest =>
        let rest ← skipBetween rest
        let (others, rest) ← items fuel rest
        return (first :: others, rest)
      | rest => throw (.at .unclosedArray rest)

def pairs : Nat → Fields → Marks → List Char → Except Stuck (Fields × List Char)
  | 0, _, _, cs => .error (.at .unclosedTable cs)
  | fuel + 1, table, marks, cs => do
    let (key, rest) ← keyOfPair cs
    let (v, rest) ← value fuel rest
    let table ← (addInline table marks key v).mapError (.at · rest)
    match skipSpace rest with
    | '\x7d' :: rest => return (table, rest)
    | ',' :: rest =>
      let marks := if Document.isContainer v then marks.freeze key else marks
      pairs fuel table marks (skipSpace rest)
    | rest => throw (.at .unclosedTable rest)

end

def header (d : Document) (cs : List Char) : Except Stuck (Document × List Char) :=
  match cs with
  | '[' :: rest => do
    let (key, rest) ← key (skipSpace rest)
    let d ← (d.beginItem key).mapError (.at · rest)
    match rest with
    | ']' :: ']' :: rest => return (d, rest)
    | rest => throw (.at .arrayTableEnd rest)
  | cs => do
    let (key, rest) ← key (skipSpace cs)
    let d ← (d.beginTable key).mapError (.at · rest)
    match rest with
    | ']' :: rest => return (d, rest)
    | rest => throw (.at .tableEnd rest)

def statement (d : Document) (cs : List Char) : Except Stuck (Document × List Char) :=
  match cs with
  | [] => .ok (d, [])
  | '#' :: _ => .ok (d, cs)
  | '[' :: rest => header d rest
  | c :: _ =>
    if isBare c || c == '"' || c == '\'' then do
      let (key, rest) ← keyOfPair cs
      let (v, rest) ← value (2 * rest.length + 2) rest
      let d ← (d.add key v).mapError (.at · rest)
      return (d, rest)
    else .error (.at .statement cs)

def lines : Nat → Document → List Char → Except Stuck Document
  | 0, d, _ => .ok d
  | fuel + 1, d, cs =>
    match skipSpace cs with
    | [] => .ok d
    | '\n' :: rest => lines fuel d rest
    | cs => do
      let (d, rest) ← statement d cs
      let rest ← skipComment (skipSpace rest)
      match rest with
      | [] => return d
      | '\n' :: rest => lines fuel d rest
      | rest => throw (.at .lineEnd rest)

def plainLines : List Char → List Char
  | '\r' :: '\n' :: cs => '\n' :: plainLines cs
  | c :: cs => c :: plainLines cs
  | [] => []

def parse (s : String) : Except Fault Fields :=
  let cs := plainLines s.toList
  match lines (cs.length + 1) .empty cs with
  | .ok d => .ok d.tables
  | .error stuck => .error (stuck.inText cs)

end DependencyAtlas.Toml
