import DependencyAtlas.Json.Fault
import DependencyAtlas.Text.Quoted

namespace DependencyAtlas.Toml

abbrev Key := List String

inductive Cause where
  | statement
  | lineEnd
  | tableEnd
  | arrayTableEnd
  | equalsSign
  | keyPart
  | value
  | unclosedArray
  | unclosedTable
  | unterminated
  | expected (mark : String)
  | badCharacter (c : Char)
  | illegalCharacter (c : Char)
  | badEscape
  | badHex
  | noScalar
  | badDate
  | declaredTwice (key : Key)
  | immutable (key : Key)
  | redefined (key : Key)
  | overwrite
  | duplicate (name : String)
  deriving Repr, DecidableEq

inductive Fault where
  | malformed (cause : Cause) (place : Option Text.Place)
  | longInteger (digits : Nat)
  deriving Repr, DecidableEq

def keyText : Key → String
  | [name] => "(" ++ Text.quoted name ++ ",)"
  | names => "(" ++ ", ".intercalate (names.map Text.quoted) ++ ")"

def Cause.message : Cause → String
  | statement => "Invalid statement"
  | lineEnd => "Expected newline or end of document after a statement"
  | tableEnd => "Expected ']' at the end of a table declaration"
  | arrayTableEnd => "Expected ']]' at the end of an array declaration"
  | equalsSign => "Expected '=' after a key in a key/value pair"
  | keyPart => "Invalid initial character for a key part"
  | value => "Invalid value"
  | unclosedArray => "Unclosed array"
  | unclosedTable => "Unclosed inline table"
  | unterminated => "Unterminated string"
  | expected mark => "Expected " ++ Text.quoted mark
  | badCharacter c => "Found invalid character " ++ Text.quoted (String.ofList [c])
  | illegalCharacter c => "Illegal character " ++ Text.quoted (String.ofList [c])
  | badEscape => "Unescaped '\\' in a string"
  | badHex => "Invalid hex value"
  | noScalar => "Escaped character is not a Unicode scalar value"
  | badDate => "Invalid date or datetime"
  | declaredTwice key => "Cannot declare " ++ keyText key ++ " twice"
  | immutable key => "Cannot mutate immutable namespace " ++ keyText key
  | redefined key => "Cannot redefine namespace " ++ keyText key
  | overwrite => "Cannot overwrite a value"
  | duplicate name => "Duplicate inline table key " ++ Text.quoted name

def placeText : Option Text.Place → String
  | some place => "line " ++ toString place.line ++ ", column " ++ toString place.column
  | none => "end of document"

def Fault.message : Fault → String
  | malformed cause place => cause.message ++ " (at " ++ placeText place ++ ")"
  | longInteger digits => Json.longIntegerMessage digits

inductive Stuck where
  | at (cause : Cause) (rest : List Char)
  | longInteger (digits : Nat)

def Stuck.inText (text : List Char) : Stuck → Fault
  | .at cause rest =>
    .malformed cause (if rest.isEmpty then none else some (.ofRest text rest))
  | .longInteger digits => .longInteger digits

end DependencyAtlas.Toml
