import DependencyAtlas.Text.Blank
import DependencyAtlas.Text.Case
import DependencyAtlas.Text.Digits

namespace DependencyAtlas.Console.StyleName

def qualities : List (String × List String) := [
  ("bold", ["b"]), ("dim", ["d"]), ("italic", ["i"]), ("underline", ["u"]), ("blink", []),
  ("blink2", []), ("reverse", ["r"]), ("conceal", ["c"]), ("strike", ["s"]), ("underline2", ["uu"]),
  ("frame", []), ("encircle", []), ("overline", ["o"])]

def colors : List (String × List String) := [
  ("black", [""]), ("red", ["", "1", "3"]), ("green", ["", "1", "3", "4"]),
  ("yellow", ["", "1", "2", "3", "4"]), ("blue", ["", "1", "3"]), ("magenta", ["", "1", "2", "3"]),
  ("cyan", ["", "1", "2", "3"]), ("white", [""]), ("bright_black", [""]), ("bright_red", [""]),
  ("bright_green", [""]), ("bright_yellow", [""]), ("bright_blue", [""]), ("bright_magenta", [""]),
  ("bright_cyan", [""]), ("bright_white", [""]),
  ("grey", ["0", "3", "7", "11", "15", "19", "23", "27", "30", "35", "37", "39", "42", "46",
    "50", "53", "54", "58", "62", "63", "66", "69", "70", "74", "78", "82", "84", "85", "89",
    "93", "100"]),
  ("gray", ["0", "3", "7", "11", "15", "19", "23", "27", "30", "35", "37", "39", "42", "46",
    "50", "53", "54", "58", "62", "63", "66", "69", "70", "74", "78", "82", "84", "85", "89",
    "93", "100"]), ("navy_blue", [""]), ("dark_blue", [""]), ("dark_green", [""]),
  ("deep_sky_blue", ["1", "2", "3", "4"]), ("dodger_blue", ["1", "2", "3"]),
  ("spring_green", ["1", "2", "3", "4"]), ("turquoise", ["2", "4"]), ("dark_cyan", [""]),
  ("light_sea_green", [""]), ("dark_turquoise", [""]), ("medium_spring_green", [""]),
  ("dark_red", [""]), ("deep_pink", ["1", "2", "3", "4"]), ("purple", ["", "3", "4"]),
  ("blue_violet", [""]), ("orange", ["1", "3", "4"]), ("medium_purple", ["", "1", "2", "3", "4"]),
  ("slate_blue", ["1", "3"]), ("royal_blue", ["1"]), ("chartreuse", ["1", "2", "3", "4"]),
  ("dark_sea_green", ["", "1", "2", "3", "4"]), ("pale_turquoise", ["1", "4"]),
  ("steel_blue", ["", "1", "3"]), ("cornflower_blue", [""]), ("cadet_blue", [""]),
  ("sky_blue", ["1", "2", "3"]), ("pale_green", ["1", "3"]), ("sea_green", ["1", "2", "3"]),
  ("aquamarine", ["1", "3"]), ("medium_turquoise", [""]), ("dark_slate_gray", ["1", "2", "3"]),
  ("dark_magenta", [""]), ("dark_violet", [""]), ("light_pink", ["1", "3", "4"]),
  ("plum", ["1", "2", "3", "4"]), ("wheat", ["1", "4"]), ("light_slate_grey", [""]),
  ("light_slate_gray", [""]), ("light_slate_blue", [""]), ("dark_olive_green", ["1", "2", "3"]),
  ("light_sky_blue", ["1", "3"]), ("light_green", [""]), ("medium_violet_red", [""]),
  ("dark_orange", ["", "3"]), ("indian_red", ["", "1"]), ("hot_pink", ["", "2", "3"]),
  ("medium_orchid", ["", "1", "3"]), ("dark_goldenrod", [""]), ("light_salmon", ["1", "3"]),
  ("rosy_brown", [""]), ("gold", ["1", "3"]), ("dark_khaki", [""]), ("navajo_white", ["1", "3"]),
  ("light_steel_blue", ["", "1", "3"]), ("light_cyan", ["1", "3"]), ("green_yellow", [""]),
  ("orchid", ["", "1", "2"]), ("pink", ["1", "3"]), ("violet", [""]),
  ("light_goldenrod", ["1", "2", "3"]), ("tan", [""]), ("misty_rose", ["1", "3"]),
  ("thistle", ["1", "3"]), ("khaki", ["1", "3"]), ("light_yellow", ["3"]), ("honeydew", ["2"]),
  ("orange_red", ["1"]), ("salmon", ["1"]), ("light_coral", [""]), ("pale_violet_red", ["1"]),
  ("sandy_brown", [""]), ("cornsilk", ["1"])]

def lowerText (s : String) : String :=
  String.ofList (s.toList.map Text.lower)

def quality? (word : String) : Option String :=
  (qualities.find? fun a => a.1 == word || a.2.contains word).map Prod.fst

def isNamedColor (word : String) : Bool :=
  colors.any fun entry => entry.2.any fun number => entry.1 ++ number == word

def bracketed? (name : String) (cs : List Char) : Option (List Char) :=
  let start := name.toList ++ ['(']
  if start.isPrefixOf cs && cs.getLast? = some ')' then some ((cs.drop start.length).dropLast)
  else none

def isHexColor : List Char → Bool
  | '#' :: digits =>
    digits.length == 6 && digits.all fun c => Text.isDigit c || ('a' ≤ c && c ≤ 'f')
  | _ => false

def isOctet (digits : List Char) : Bool :=
  !digits.isEmpty && digits.all Text.isDigit && Text.natOfDigits digits ≤ 255

def isNumberedColor (cs : List Char) : Bool :=
  (bracketed? "color" cs).any fun digits => digits.length ≤ 3 && isOctet digits

def splitCommas (current : List Char) : List Char → List (List Char)
  | [] => [current.reverse]
  | c :: cs =>
    if c = ',' then current.reverse :: splitCommas [] cs else splitCommas (c :: current) cs

def isMixedColor (cs : List Char) : Bool :=
  (bracketed? "rgb" cs).any fun inner =>
    let parts := splitCommas [] inner
    parts.length == 3 && parts.all isOctet

def isColor (word : String) : Bool :=
  let cs := word.toList
  word == "default" || isNamedColor word || isHexColor cs || isNumberedColor cs || isMixedColor cs

structure Style where
  given : List (String × Bool)
  color : Option String
  ground : Option String
  link : Option String

def Style.plain : Style :=
  ⟨[], none, none, none⟩

def Style.set (s : Style) (quality : String) (on : Bool) : Style :=
  { s with given := (quality, on) :: s.given }

def readWord (s : Style) (word : String) (next : Option String) : Option (Style × Bool) :=
  match lowerText word with
  | "on" =>
    (next.filter fun color => isColor (lowerText color)).map fun color =>
      ({ s with ground := some (lowerText color) }, true)
  | "not" => (next.bind quality?).map fun quality => (s.set quality false, true)
  | "link" => next.map fun address => ({ s with link := some address }, true)
  | word =>
    match quality? word with
    | some quality => some (s.set quality true, false)
    | none => if isColor word then some ({ s with color := some word }, false) else none

def readWords (s : Style) (skip : Bool) : List String → Option Style
  | [] => some s
  | word :: rest =>
    if skip then readWords s false rest
    else (readWord s word rest.head?).bind fun (s, skip) => readWords s skip rest

def Style.words (s : Style) : List String :=
  (qualities.filterMap fun a =>
    (s.given.lookup a.1).map fun on => if on then a.1 else "not " ++ a.1) ++
    s.color.toList ++ (s.ground.map ("on " ++ ·)).toList ++ (s.link.map ("link " ++ ·)).toList

def normal (name : List Char) : String :=
  match readWords .plain false ((Text.words name).map String.ofList) with
  | some s => " ".intercalate s.words
  | none => String.ofList ((Text.trim name).map Text.lower)

end DependencyAtlas.Console.StyleName
