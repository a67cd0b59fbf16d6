import DependencyAtlas.Failure

namespace DependencyAtlas.Scan

structure Address where
  scheme : List Char
  user : List Char
  host : List Char
  port : Option Nat
  path : List Char
  query : Option (List Char)
  fragment : Option (List Char)

namespace Address

def inScheme (c : Char) : Bool :=
  Text.isLetter c || Text.isDigit c || c == '+' || c == '-' || c == '.'

def splitScheme (cs : List Char) : List Char × List Char :=
  match cs.takeWhile inScheme, cs.dropWhile inScheme with
  | c :: scheme, ':' :: rest => if Text.isLetter c then (c :: scheme, rest) else ([], cs)
  | _, _ => ([], cs)

def inAuthority (c : Char) : Bool :=
  c != '/' && c != '?' && c != '#'

def splitAuthority : List Char → List Char × List Char
  | '/' :: '/' :: rest => (rest.takeWhile inAuthority, rest.dropWhile inAuthority)
  | cs => ([], cs)

def splitUser (cs : List Char) : List Char × List Char :=
  match cs.dropWhile (· != '@') with
  | '@' :: rest => (cs.takeWhile (· != '@'), rest)
  | _ => ([], cs)

def splitPort (cs : List Char) : List Char × List Char :=
  let host :=
    match cs with
    | '[' :: rest => '[' :: rest.takeWhile (· != ']') ++ [']']
    | cs => cs.takeWhile fun c => c != ':' && c != '@'
  (host, (cs.drop host.length).dropWhile (· == ':'))

def usualPort? (scheme : List Char) : Option Nat :=
  [("ftp", 21), ("http", 80), ("https", 443), ("ws", 80), ("wss", 443)].lookup (String.ofList scheme)

def portOf (scheme digits : List Char) : Except Failure (Option Nat) :=
  if digits.isEmpty then .ok none
  else if digits.all Text.isDigit then
    let n := Text.natOfDigits digits
    .ok (if usualPort? scheme = some n then none else some n)
  else .error (.outside .address ("Invalid port: " ++ Text.quoted (String.ofList digits)))

def withoutDots (done : List (List Char)) : List (List Char) → List (List Char)
  | [] => done.reverse
  | part :: rest =>
    if part = ['.'] then withoutDots done rest
    else if part = ['.', '.'] then
      withoutDots (if done = [[]] then done else done.drop 1) rest
    else withoutDots (part :: done) rest

def parts (cs : List Char) : List (List Char) :=
  cs.splitOn '/'

def normalPath (cs : List Char) : List Char :=
  let names := parts cs
  if names.contains ['.'] || names.contains ['.', '.'] then
    ['/'].intercalate (withoutDots [] names)
  else cs

def isPlain (refused : List Char) (c : Char) : Bool :=
  0x20 < c.toNat && c.toNat < 0x7F && !refused.contains c

def percent (b : UInt8) : List Char :=
  '%' :: (Text.hexPadded 2 b.toNat).map Text.upper

def escaped (refused cs : List Char) : List Char :=
  cs.flatMap fun c =>
    if isPlain refused c then [c] else (String.ofList [c]).toUTF8.toList.flatMap percent

def refusedInQuery : List Char :=
  ['"', '#', '<', '>']

def refusedInPath : List Char :=
  refusedInQuery ++ ['?', '\x60', '\x7b', '\x7d']

def refusedInUser : List Char :=
  refusedInPath ++ ['/', ':', ';', '=', '@', '[', '\\', ']', '^', '|']

def refusedInFragment : List Char :=
  ['"', '<', '>', '\x60']

def unprintable? (cs : List Char) : Option (Char × Nat) :=
  cs.zipIdx.find? fun entry => entry.1.toNat < 0x20 || entry.1.toNat == 0x7F

def parse (url : String) : Except Failure Address := do
  let cs := url.toList
  if let some (c, place) := unprintable? cs then
    throw (.outside .address ("Invalid non-printable ASCII character in URL, " ++
      Text.quoted (String.ofList [c]) ++ " at position " ++ toString place ++ "."))
  let (scheme, rest) := splitScheme cs
  let scheme := scheme.map Text.lower
  let (authority, rest) := splitAuthority rest
  let (user, rest') := splitUser authority
  let (host, port) := splitPort rest'
  let port ← portOf scheme port
  let beforeQuery (c : Char) := c != '?' && c != '#'
  let path := rest.takeWhile beforeQuery
  let rest := rest.dropWhile beforeQuery
  let (query, rest) :=
    match rest with
    | '?' :: rest => (some (rest.takeWhile (· != '#')), rest.dropWhile (· != '#'))
    | rest => (none, rest)
  let fragment :=
    match rest with
    | '#' :: rest => some rest
    | _ => none
  return { scheme, user, host := host.map Text.lower, port, path := normalPath path, query, fragment }

def isComplete (a : Address) : Bool :=
  !a.scheme.isEmpty && !a.host.isEmpty

def optional (mark : Char) (refused : List Char) : Option (List Char) → List Char
  | some cs => mark :: escaped refused cs
  | none => []

def authority (a : Address) : List Char :=
  (if a.user.isEmpty then [] else escaped refusedInUser a.user ++ ['@']) ++
    escaped refusedInPath a.host ++
    (match a.port with
      | some n => ':' :: (Nat.repr n).toList
      | none => [])

def text (a : Address) : String :=
  let path := escaped refusedInPath a.path
  let tail := optional '?' refusedInQuery a.query ++ optional '#' refusedInFragment a.fragment
  String.ofList <|
    if a.isComplete then a.scheme ++ [':', '/', '/'] ++ a.authority ++ path ++ tail
    else '/' :: (path.dropWhile (· == '/') ++ tail)

end Address

end DependencyAtlas.Scan
