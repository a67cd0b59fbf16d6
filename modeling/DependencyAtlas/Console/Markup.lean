import DependencyAtlas.Console.CellWidth
import DependencyAtlas.Console.StyleName

/-!
Console markup. A tag stands in square brackets and begins with a small letter, `#`, `/` or `@`; an odd
number of backslashes in front of it makes it plain text. `escape` writes any text so that it is shown
as it is, and `render` gives the characters that a markup text shows.
-/

namespace DependencyAtlas.Console.Markup

inductive Piece where
  | char (c : Char)
  | tag (slashes : Nat) (body : List Char)
  deriving Repr, DecidableEq

inductive Fault where
  | unmatched (tag : List Char) (position : Nat)
  | nothingOpen (position : Nat)
  deriving Repr, DecidableEq

def Fault.message : Fault → String
  | unmatched tag position =>
    "closing tag '[" ++ String.ofList tag ++ "]' at position " ++ toString position ++
      " doesn't match any open tag"
  | nothingOpen position =>
    "closing tag '[/]' at position " ++ toString position ++ " has nothing to close"

def beginsTag (c : Char) : Bool :=
  ('a' ≤ c && c ≤ 'z') || c == '#' || c == '/' || c == '@'

def inTag (c : Char) : Bool :=
  c != '[' && c != ']'

def body? : List Char → Option (List Char)
  | [] => none
  | c :: cs =>
    if beginsTag c then
      match cs.dropWhile inTag with
      | ']' :: _ => some (c :: cs.takeWhile inTag)
      | _ => none
    else none

def slashes (n : Nat) : List Char :=
  List.replicate n '\\'

/-- Splits a text into its pieces, after `n` backslashes and with `skip` characters to pass over. -/
def piecesFrom (n skip : Nat) : List Char → List Piece
  | [] => (slashes n).map .char
  | c :: cs =>
    match skip with
    | skip + 1 => piecesFrom n skip cs
    | 0 =>
      if c = '\\' then piecesFrom (n + 1) 0 cs
      else
        match if c = '[' then body? cs else none with
        | some body => .tag n body :: piecesFrom 0 (body.length + 1) cs
        | none => (slashes n).map .char ++ .char c :: piecesFrom 0 0 cs

def pieces (cs : List Char) : List Piece :=
  piecesFrom 0 0 cs

def bracketed (body : List Char) : List Char :=
  '[' :: (body ++ [']'])

def escapedPiece : Piece → List Char
  | .char c => [c]
  | .tag n body => slashes (2 * n + 1) ++ bracketed body

def endsInOneSlash (cs : List Char) : Bool :=
  match cs.reverse with
  | '\\' :: '\\' :: _ => false
  | '\\' :: _ => true
  | _ => false

def escapeChars (cs : List Char) : List Char :=
  let escaped := (pieces cs).flatMap escapedPiece
  if endsInOneSlash escaped then escaped ++ ['\\'] else escaped

/-- A markup text that shows `s` as it is. -/
def escape (s : String) : String :=
  String.ofList (escapeChars s.toList)

def tagName (body : List Char) : List Char :=
  body.takeWhile (· != '=')

def afterTag (position : Nat) (body : List Char) (opened : List String) :
    Except Fault (List String) :=
  match tagName body with
  | '/' :: name =>
    if (Text.trim name).isEmpty then
      match opened with
      | [] => .error (.nothingOpen position)
      | _ :: rest => .ok rest
    else if opened.contains (StyleName.normal name) then .ok (opened.erase (StyleName.normal name))
    else .error (.unmatched body position)
  | name => .ok (StyleName.normal name :: opened)

def shown (position : Nat) (opened : List String) : List Piece → Except Fault (List Char)
  | [] => .ok []
  | .char '\\' :: .char '[' :: rest => do
    return '[' :: (← shown (position + 2) opened rest)
  | .char c :: rest => do
    return c :: (← shown (position + 1) opened rest)
  | .tag n body :: rest => do
    let next := position + n + body.length + 2
    if n % 2 = 1 then
      return slashes (n / 2) ++ bracketed body ++ (← shown next opened rest)
    else
      let opened ← afterTag (position + n) body opened
      return slashes (n / 2) ++ (← shown next opened rest)

def isControl (c : Char) : Bool :=
  let n := c.toNat
  n == 7 || n == 8 || n == 11 || n == 12 || n == 13

def expandTabs (column : Nat) : List Char → List Char
  | [] => []
  | '\n' :: cs => '\n' :: expandTabs 0 cs
  | '\t' :: cs =>
    let width := 8 - column % 8
    List.replicate width ' ' ++ expandTabs (column + width) cs
  | c :: cs => c :: expandTabs (column + cellWidth c) cs

def render (s : String) : Except Fault String := do
  let cs ← shown 0 [] (pieces s.toList)
  return String.ofList (expandTabs 0 (cs.filter (!isControl ·)))

end DependencyAtlas.Console.Markup
