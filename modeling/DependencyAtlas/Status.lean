import DependencyAtlas.Console.Markup

namespace DependencyAtlas

inductive Severity where
  | info
  | warning
  | error
  deriving Repr, DecidableEq

namespace Severity

def all : List Severity :=
  [info, warning, error]

def name : Severity → String
  | info => "info"
  | warning => "warning"
  | error => "error"

def ofName? (s : String) : Option Severity :=
  all.find? fun severity => severity.name == s

def style : Severity → String
  | info => "cyan"
  | warning => "yellow"
  | error => "red"

end Severity

structure Message where
  text : String
  severity : Severity
  deriving Repr, DecidableEq

def Message.markup (m : Message) : String :=
  "[" ++ m.severity.style ++ "]" ++ Console.Markup.escape m.text ++ "[/" ++ m.severity.style ++ "]"

structure Notice (α : Type) where
  loading : α
  message : Option Message

def Notice.triggerEnabled (n : Notice Bool) : Bool :=
  !n.loading

structure Board (α ι : Type) where
  notice : Notice α
  listeners : List ι

inductive Change (α : Type) where
  | load (value : α)
  | show (message : Message)
  | clear

def Change.noticeAfter? {α : Type} [BEq α] (change : Change α) (n : Notice α) : Option (Notice α) :=
  match change with
  | load value => if n.loading == value then none else some { n with loading := value }
  | .show message => some { n with message := some message }
  | clear => if n.message.isNone then none else some { n with message := none }

namespace Board

variable {α ι : Type}

def subscribe (listener : ι) (b : Board α ι) : Board α ι :=
  { b with listeners := b.listeners ++ [listener] }

/-- Calls every listener once. `react` says what becomes of a listener that is called, and which new
ones it brings in; these are not called yet. -/
def notify (react : ι → Notice α → ι × List ι) (b : Board α ι) : Board α ι × List ι :=
  let reactions := b.listeners.map (react · b.notice)
  ({ b with listeners := reactions.map Prod.fst ++ reactions.flatMap Prod.snd }, b.listeners)

def change [BEq α] (react : ι → Notice α → ι × List ι) (c : Change α) (b : Board α ι) :
    Board α ι × List ι :=
  match c.noticeAfter? b.notice with
  | none => (b, [])
  | some notice => notify react { b with notice }

end Board

structure Listener where
  name : String
  adds : Option String
  deriving Repr, DecidableEq

def Listener.react {α : Type} (l : Listener) (_ : Notice α) : Listener × List Listener :=
  ({ l with adds := none }, l.adds.toList.map fun name => ⟨name, none⟩)

end DependencyAtlas
