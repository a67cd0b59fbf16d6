import DependencyAtlas.Complaint
import DependencyAtlas.Files.Disk
import DependencyAtlas.Graph.Elements

namespace DependencyAtlas

inductive Trouble where
  | system
  | forbidden
  | value
  | runtime
  | lookup
  | address
  deriving Repr, DecidableEq

inductive Options where
  | layout
  | figure
  deriving Repr, DecidableEq

/-- What ends everything that is going on, and is no error. -/
inductive Halt where
  | interrupted
  | cancelled
  | exit (code : Nat)
  deriving Repr, DecidableEq

inductive Failure where
  | complaint (c : Complaint)
  | misuse (m : Misuse)
  | missing (name : String)
  | file (fault : Files.Fault)
  | markup (fault : Console.Markup.Fault)
  | settings (file reason : String)
  | noHome
  | unknownShortcut (name : String) (known : List String)
  | unknownCommand (name : String)
  | unknownSeverity (written : String)
  | unknownOption (of : Options) (name : String)
  | unreadable (text : String)
  | exit (code : Nat)
  | outside (trouble : Trouble) (text : String)
  | halt (h : Halt) (text : String)
  deriving Repr, DecidableEq

namespace Failure

def ofRefusal : Graph.Refusal → Failure
  | .defect d => complaint (.malformed ⟨d.message, none⟩)
  | .misuse m => misuse m

def Options.owner : Options → String
  | .layout => "LayoutPolicy.__init__()"
  | .figure => "Visualization.figure()"

def text : Failure → String
  | complaint c => c.text
  | misuse m => m.message
  | missing name => Text.quoted name
  | file fault => fault.message
  | markup fault => fault.message
  | settings name reason => "Failed to load config from " ++ name ++ ": " ++ reason
  | noHome => "Could not determine home directory."
  | unknownShortcut name known =>
    "Unknown command: " ++ name ++ ". Known commands: " ++ ", ".intercalate known
  | unknownCommand name => "Unknown command: " ++ name
  | unknownSeverity written => written ++ " is not a valid Severity"
  | unknownOption of name =>
    Options.owner of ++ " got an unexpected keyword argument '" ++ name ++ "'"
  | unreadable text => text
  | exit _ => ""
  | outside .lookup text => Text.quoted text
  | outside _ text => text
  | halt _ text => text

/-- What cleans up after errors does not run for such a failure. -/
def halts : Failure → Bool
  | halt .. => true
  | _ => false

def isSystem : Failure → Bool
  | file _ | outside .system _ | outside .forbidden _ => true
  | _ => false

def isWrongValue : Failure → Bool
  | complaint c => c.isWrongValue
  | misuse m => m.isWrongValue
  | settings .. | unknownShortcut .. | unknownCommand _ | unknownSeverity _ | unreadable _ => true
  | outside .value _ => true
  | _ => false

def isWrongState : Failure → Bool
  | complaint c => c.isWrongState
  | noHome | exit _ | outside .runtime _ => true
  | _ => false

def stopsDrawing (f : Failure) : Bool :=
  f.isSystem || f.isWrongValue

def stopsExport (f : Failure) : Bool :=
  f.stopsDrawing || f.isWrongState

def complaint? : Failure → Option Complaint
  | complaint c => some c
  | _ => none

end Failure

/-- Actions on a state that may fail; what an action did before it failed stays done. -/
abbrev Act (σ : Type) := ExceptT Failure (StateM σ)

namespace Act

variable {σ τ α : Type}

def within (part : σ → τ) (put : τ → σ → σ) (act : Act τ α) : Act σ α :=
  fun s =>
    let (result, t) := act (part s)
    (result, put t s)

def ofExcept (result : Except Failure α) : Act σ α :=
  fun s => (result, s)

def ending (act : Act σ α) : Act σ (Except Failure α) :=
  fun s =>
    let (result, s) := act s
    (.ok result, s)

/-- Runs `after` when an action has ended, however it did; if `after` fails, its failure counts. -/
def andFinally (act : Act σ α) (after : Act σ Unit) : Act σ α := do
  let result ← ending act
  after
  ofExcept result

/-- Runs `after` when an action has failed with an error, and passes the failure on; if `after` fails, its failure
counts. -/
def onError (act : Act σ α) (after : Act σ Unit) : Act σ α := do
  match ← ending act with
  | .ok a => return a
  | .error failure =>
    if failure.halts then throw failure
    else
      after
      throw failure

end Act

end DependencyAtlas
