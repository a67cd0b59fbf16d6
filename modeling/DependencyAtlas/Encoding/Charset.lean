import DependencyAtlas.Encoding.Unicode
import DependencyAtlas.Text.Blank
import DependencyAtlas.Text.Case

namespace DependencyAtlas.Encoding

inductive Charset where
  | ascii
  | latin1
  | latin9
  | windows1252
  | utf8
  | utf8Marked
  | utf16 (o : Option Order)
  | utf32 (o : Option Order)
  deriving Repr, DecidableEq

namespace Charset

def names : List (Charset × List String) := [
  (ascii, ["ascii", "us_ascii", "us", "646", "ansi_x3.4_1968", "ansi_x3_4_1968", "ansi_x3.4_1986",
    "cp367", "csascii", "ibm367", "iso646_us", "iso_646.irv_1991", "iso_ir_6"]),
  (latin1, ["latin_1", "latin1", "latin", "l1", "8859", "cp819", "csisolatin1", "ibm819", "iso8859",
    "iso8859_1", "iso_8859_1", "iso_8859_1_1987", "iso_ir_100"]),
  (latin9, ["iso8859_15", "iso_8859_15", "latin_9", "latin9", "l9"]),
  (windows1252, ["cp1252", "windows_1252", "1252"]),
  (utf8, ["utf_8", "utf8", "u8", "utf", "utf8_ucs2", "utf8_ucs4", "cp65001"]),
  (utf8Marked, ["utf_8_sig"]),
  (utf16 none, ["utf_16", "utf16", "u16"]),
  (utf16 (some .little), ["utf_16_le", "utf_16le", "unicodelittleunmarked"]),
  (utf16 (some .big), ["utf_16_be", "utf_16be", "unicodebigunmarked"]),
  (utf32 none, ["utf_32", "utf32", "u32"]),
  (utf32 (some .little), ["utf_32_le", "utf_32le"]),
  (utf32 (some .big), ["utf_32_be", "utf_32be"])]

def inName (c : Char) : Bool :=
  ('a' ≤ c && c ≤ 'z') || ('0' ≤ c && c ≤ '9') || c == '.'

def normalFrom (gap started : Bool) : List Char → List Char
  | [] => []
  | c :: cs =>
    if inName c then
      if gap && started then '_' :: c :: normalFrom false true cs
      else c :: normalFrom false true cs
    else normalFrom true started cs

def ofName? (name : String) : Option Charset :=
  let plain := String.ofList (normalFrom false false (name.toList.map Text.lower))
  if name.toList.all fun c => c.toNat < 0x80 then
    (names.find? fun entry => entry.2.contains plain).map Prod.fst
  else none

def parametersFrom (quoted : Bool) (current : List Char) : List Char → List (List Char)
  | [] => [current.reverse]
  | c :: cs =>
    if c == ';' && !quoted then current.reverse :: parametersFrom false [] cs
    else parametersFrom (quoted != (c == '"')) (c :: current) cs

def unescaped : List Char → List Char
  | '\\' :: '\\' :: cs => '\\' :: unescaped cs
  | '\\' :: '"' :: cs => '"' :: unescaped cs
  | c :: cs => c :: unescaped cs
  | [] => []

def unquoted (cs : List Char) : List Char :=
  match cs, cs.getLast? with
  | '"' :: _ :: _, some '"' => unescaped ((cs.drop 1).dropLast)
  | '<' :: _ :: _, some '>' => (cs.drop 1).dropLast
  | cs, _ => cs

def nameIn? (contentType : String) : Option String :=
  ((parametersFrom false [] contentType.toList).drop 1).findSome? fun parameter =>
    let name := (Text.trim (parameter.takeWhile (· != '='))).map Text.lower
    if name = "charset".toList then
      some (String.ofList (unquoted (Text.trim ((parameter.dropWhile (· != '=')).drop 1))))
    else none

def ofType (contentType : Option String) : Charset :=
  ((contentType.bind nameIn?).bind ofName?).getD utf8

def windows1252High : List Nat := [
  0x20AC, 0, 0x201A, 0x192, 0x201E, 0x2026, 0x2020, 0x2021, 0x2C6, 0x2030, 0x160, 0x2039, 0x152, 0,
  0x17D, 0, 0, 0x2018, 0x2019, 0x201C, 0x201D, 0x2022, 0x2013, 0x2014, 0x2DC, 0x2122, 0x161,
  0x203A, 0x153, 0, 0x17E, 0x178]

def latin9Points : List (Nat × Nat) := [
  (0xA4, 0x20AC), (0xA6, 0x160), (0xA8, 0x161), (0xB4, 0x17D), (0xB8, 0x17E), (0xBC, 0x152),
  (0xBD, 0x153), (0xBE, 0x178)]

def single (point? : Nat → Option Nat) : Reader := fun b _ =>
  match point? b.toNat with
  | some n => .point n 1
  | none => .broken .invalidStart 1

def windows1252Point? (n : Nat) : Option Nat :=
  if 0x80 ≤ n && n < 0xA0 then
    match windows1252High.getD (n - 0x80) 0 with
    | 0 => none
    | m => some m
  else some n

structure Unmarked where
  units : String
  deriving Repr, DecidableEq

def Unmarked.message (u : Unmarked) : String :=
  u.units ++ " stream does not start with BOM"

def decodePairs (octets : Octets) : Except Unmarked (List Char) :=
  match octets with
  | 0xFF :: 0xFE :: rest => .ok (lenient (Encoding.utf16 false .little) rest)
  | 0xFE :: 0xFF :: rest => .ok (lenient (Encoding.utf16 false .big) rest)
  | _ :: _ :: _ => .error ⟨"UTF-16"⟩
  | octets => .ok (lenient (Encoding.utf16 false .little) octets)

def decodeQuads (octets : Octets) : Except Unmarked (List Char) :=
  match octets with
  | 0xFF :: 0xFE :: 0 :: 0 :: rest => .ok (lenient (Encoding.utf32 .little) rest)
  | 0 :: 0 :: 0xFE :: 0xFF :: rest => .ok (lenient (Encoding.utf32 .big) rest)
  | _ :: _ :: _ :: _ :: _ => .error ⟨"UTF-32"⟩
  | octets => .ok (lenient (Encoding.utf32 .little) octets)

def decode (charset : Charset) (octets : Octets) : Except Unmarked (List Char) :=
  match charset with
  | ascii => .ok (lenient (single fun n => if n < 0x80 then some n else none) octets)
  | latin1 => .ok (lenient (single some) octets)
  | latin9 => .ok (lenient (single fun n => some ((latin9Points.lookup n).getD n)) octets)
  | windows1252 => .ok (lenient (single windows1252Point?) octets)
  | utf8 => .ok (lenient (Encoding.utf8 false) octets)
  | utf8Marked =>
    match octets with
    | [0xEF] | [0xEF, 0xBB] => .ok []
    | 0xEF :: 0xBB :: 0xBF :: rest => .ok (lenient (Encoding.utf8 false) rest)
    | octets => .ok (lenient (Encoding.utf8 false) octets)
  | utf16 none => decodePairs octets
  | utf16 (some o) => .ok (lenient (Encoding.utf16 false o) octets)
  | utf32 none => decodeQuads octets
  | utf32 (some o) => .ok (lenient (Encoding.utf32 o) octets)

end Charset

end DependencyAtlas.Encoding
