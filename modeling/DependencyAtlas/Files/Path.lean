import DependencyAtlas.Text.Case
import DependencyAtlas.Text.Digits

namespace DependencyAtlas.Files

structure Path where
  root : String
  parts : List String
  deriving Repr, DecidableEq

namespace Path

def rootOf : List Char → String
  | '/' :: '/' :: '/' :: _ => "/"
  | '/' :: '/' :: _ => "//"
  | '/' :: _ => "/"
  | _ => ""

def ofText (s : String) : Path where
  root := rootOf s.toList
  parts := ((s.toList.splitOn '/').map String.ofList).filter fun part => part != "" && part != "."

def text (p : Path) : String :=
  if p.root = "" && p.parts.isEmpty then "." else p.root ++ "/".intercalate p.parts

def isAbsolute (p : Path) : Bool :=
  p.root != ""

def child (p : Path) (name : String) : Path :=
  { p with parts := p.parts ++ [name] }

def parent (p : Path) : Path :=
  { p with parts := p.parts.dropLast }

def name (p : Path) : String :=
  p.parts.getLast?.getD ""

def homeOf? (home : Option String) (tilde : String) : Option String :=
  if tilde = "~" then
    home.map fun h =>
      let trimmed := String.ofList (h.toList.reverse.dropWhile (· == '/')).reverse
      if trimmed = "" then "/" else trimmed
  else if tilde = "~root" then some "/root"
  else none

def expandHome? (home : Option String) (p : Path) : Option Path :=
  match p.root, p.parts with
  | "", first :: rest =>
    if first.toList.head? = some '~' then
      match homeOf? home first with
      | some dir =>
        if dir.toList.head? = some '~' then none
        else
          let start := ofText dir
          some { start with parts := start.parts ++ rest }
      | none => none
    else some p
  | _, _ => some p

def isUnreserved (n : Nat) : Bool :=
  (0x30 ≤ n && n ≤ 0x39) || (0x41 ≤ n && n ≤ 0x5A) || (0x61 ≤ n && n ≤ 0x7A) || n == 0x5F ||
    n == 0x2E || n == 0x2D || n == 0x7E || n == 0x2F

def percentByte (b : UInt8) : List Char :=
  let n := b.toNat
  if isUnreserved n then [Char.ofNat n] else '%' :: (Text.hexPadded 2 n).map Text.upper

def uri (p : Path) : String :=
  "file://" ++ String.ofList (p.text.toUTF8.toList.flatMap percentByte)

end Path

end DependencyAtlas.Files
