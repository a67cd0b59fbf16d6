import DependencyAtlas.Status
import DependencyAtlas.Value.Text

namespace DependencyAtlas

structure Answered where
  text : String
  status : Option Int
  deriving Repr, DecidableEq

inductive Complaint where
  | general (text : String)
  | emptyPath
  | request (answered : Answered)
  | malformed (answered : Answered)
  | emptyResult
  | busy (text : String)
  | render (text : String)
  | exporting (text : String)
  deriving Repr, DecidableEq

namespace Complaint

def noDependencies : String :=
  "No dependencies found."

def text : Complaint → String
  | general text => text
  | emptyPath => "Path is empty"
  | request answered => answered.text
  | malformed answered => answered.text
  | emptyResult => noDependencies
  | busy text => text
  | render text => text
  | exporting text => text

def severity : Complaint → Severity
  | emptyResult => .warning
  | _ => .error

def message (c : Complaint) : Message where
  text := if c = emptyResult then noDependencies else "Error: " ++ c.text
  severity := c.severity

def textWithCode (text : String) (code : Value) : String :=
  "(" ++ Text.quoted text ++ ", " ++ code.quoted ++ ")"

def isWrongValue (c : Complaint) : Bool :=
  c = emptyPath

def isWrongState : Complaint → Bool
  | busy _ => true
  | _ => false

def isRequest : Complaint → Bool
  | request _ | malformed _ => true
  | _ => false

end Complaint

end DependencyAtlas
