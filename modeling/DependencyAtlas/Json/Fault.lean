import DependencyAtlas.Text.Place

namespace DependencyAtlas.Json

inductive Cause where
  | valueExpected
  | nameExpected
  | colonExpected
  | commaExpected
  | unterminated
  | controlCharacter
  | badEscape
  | badCodePoint
  | extraData
  | byteOrderMark
  deriving Repr, DecidableEq

inductive Fault where
  | malformed (cause : Cause) (place : Text.Place)
  | longInteger (digits : Nat)
  deriving Repr, DecidableEq

def Cause.message : Cause → String
  | valueExpected => "Expecting value"
  | nameExpected => "Expecting property name enclosed in double quotes"
  | colonExpected => "Expecting ':' delimiter"
  | commaExpected => "Expecting ',' delimiter"
  | unterminated => "Unterminated string starting at"
  | controlCharacter => "Invalid control character at"
  | badEscape => "Invalid \\escape"
  | badCodePoint => "Invalid \\uXXXX escape"
  | extraData => "Extra data"
  | byteOrderMark => "Unexpected UTF-8 BOM (decode using utf-8-sig)"

def longIntegerMessage (digits : Nat) : String :=
  "Exceeds the limit (4300 digits) for integer string conversion: value has " ++ toString digits ++
    " digits; use sys.set_int_max_str_digits() to increase the limit"

def Fault.message : Fault → String
  | malformed cause place =>
    cause.message ++ ": line " ++ toString place.line ++ " column " ++ toString place.column ++
      " (char " ++ toString place.offset ++ ")"
  | longInteger digits => longIntegerMessage digits

end DependencyAtlas.Json
