import DependencyAtlas.Toml.Fault

namespace DependencyAtlas.Toml

open Text (hexValue?)

def isSpace (c : Char) : Bool :=
  c == ' ' || c == '\t'

def isSpaceOrNewline (c : Char) : Bool :=
  isSpace c || c == '\n'

def skipSpace (cs : List Char) : List Char :=
  cs.dropWhile isSpace

def isControl (c : Char) : Bool :=
  (c.toNat < 0x20 && c != '\t') || c.toNat == 0x7F

def isIllegal (multiline : Bool) (c : Char) : Bool :=
  isControl c && !(multiline && c == '\n')

def splitAt? (mark : List Char) : List Char → Option (List Char × List Char)
  | [] => none
  | c :: cs =>
    if mark.isPrefixOf (c :: cs) then some ([], c :: cs)
    else (splitAt? mark cs).map fun (before, rest) => (c :: before, rest)

def check (illegal : Char → Bool) (before rest : List Char) : Except Stuck Unit :=
  match before.dropWhile (!illegal ·) with
  | [] => .ok ()
  | c :: cs => .error (.at (.badCharacter c) (c :: (cs ++ rest)))

def literal (mark : List Char) (multiline : Bool) (cs : List Char) : Except Stuck (String × List Char) :=
  match splitAt? mark cs with
  | none => .error (.at (.expected (String.ofList mark)) [])
  | some (before, rest) => do
    check (isIllegal multiline) before rest
    return (String.ofList before, rest.drop mark.length)

def hexOf? (cs : List Char) : Option Nat :=
  cs.foldlM (fun n c => (hexValue? c).map (n * 16 + ·)) 0

def hexChar (count : Nat) (cs : List Char) : Except Stuck (Char × List Char) :=
  let digits := cs.take count
  match if digits.length = count then hexOf? digits else none with
  | none => .error (.at .badHex cs)
  | some n =>
    if n.isValidChar then .ok (Char.ofNat n, cs.drop count)
    else .error (.at .noScalar (cs.drop count))

def plainEscape? : Char → Option Char
  | 'b' => some '\x08'
  | 't' => some '\t'
  | 'n' => some '\n'
  | 'f' => some '\x0c'
  | 'r' => some '\r'
  | '"' => some '"'
  | '\\' => some '\\'
  | _ => none

def escape (multiline : Bool) (cs : List Char) : Except Stuck (List Char × List Char) :=
  match cs with
  | [] => .error (.at .badEscape [])
  | c :: rest =>
    if multiline && isSpaceOrNewline c then
      let rest := if c == '\n' then c :: rest else skipSpace rest
      match rest with
      | [] => .ok ([], [])
      | '\n' :: rest => .ok ([], rest.dropWhile isSpaceOrNewline)
      | rest => .error (.at .badEscape rest)
    else if c == 'u' then do
      let (c, rest) ← hexChar 4 rest
      return ([c], rest)
    else if c == 'U' then do
      let (c, rest) ← hexChar 8 rest
      return ([c], rest)
    else
      match plainEscape? c with
      | some c => .ok ([c], rest)
      | none => .error (.at .badEscape rest)

def basicFrom (multiline : Bool) : Nat → List Char → Except Stuck (List Char × List Char)
  | 0, cs => .error (.at .unterminated cs)
  | fuel + 1, cs =>
    match cs with
    | [] => .error (.at .unterminated [])
    | '"' :: rest =>
      if !multiline then .ok ([], rest)
      else
        match rest with
        | '"' :: '"' :: rest => .ok ([], rest)
        | rest => do
          let (text, rest) ← basicFrom multiline fuel rest
          return ('"' :: text, rest)
    | '\\' :: rest => do
      let (escaped, rest) ← escape multiline rest
      let (text, rest) ← basicFrom multiline fuel rest
      return (escaped ++ text, rest)
    | c :: rest =>
      if isIllegal multiline c then .error (.at (.illegalCharacter c) (c :: rest))
      else do
        let (text, rest) ← basicFrom multiline fuel rest
        return (c :: text, rest)

def basic (multiline : Bool) (cs : List Char) : Except Stuck (String × List Char) := do
  let (text, rest) ← basicFrom multiline (cs.length + 1) cs
  return (String.ofList text, rest)

def withQuotes (quote : Char) (text : String) (rest : List Char) : String × List Char :=
  match rest with
  | a :: b :: rest' =>
    if a == quote then
      if b == quote then (text ++ String.ofList [quote, quote], rest')
      else (text.push quote, b :: rest')
    else (text, rest)
  | [a] => if a == quote then (text.push quote, []) else (text, rest)
  | [] => (text, [])

def withoutFirstNewline : List Char → List Char
  | '\n' :: cs => cs
  | cs => cs

def string? (cs : List Char) : Option (Except Stuck (String × List Char)) :=
  match cs with
  | '"' :: '"' :: '"' :: rest => some do
    let (text, rest) ← basic true (withoutFirstNewline rest)
    return withQuotes '"' text rest
  | '"' :: rest => some (basic false rest)
  | '\'' :: '\'' :: '\'' :: rest => some do
    let (text, rest) ← literal ['\'', '\'', '\''] true (withoutFirstNewline rest)
    return withQuotes '\'' text rest
  | '\'' :: rest => some (literal ['\''] false rest)
  | _ => none

end DependencyAtlas.Toml
