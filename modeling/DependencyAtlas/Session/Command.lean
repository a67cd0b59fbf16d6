import DependencyAtlas.Failure

namespace DependencyAtlas.Session

inductive Command where
  | submit
  | relayout
  | exportImage
  | exportPage
  | exportElements
  | select
  | quit
  deriving Repr, DecidableEq

namespace Command

def all : List Command :=
  [submit, relayout, exportImage, exportPage, exportElements, select, quit]

def name : Command → String
  | submit => "submit"
  | relayout => "relayout"
  | exportImage => "export_image"
  | exportPage => "export_html"
  | exportElements => "export_json"
  | select => "select"
  | quit => "quit"

def ofName? (s : String) : Option Command :=
  all.find? fun c => c.name == s

def shortcuts : List (String × Command) := [
  (":export", exportImage),
  (":html", exportPage),
  (":json", exportElements),
  (":q", quit),
  (":quit", quit),
  (":relayout", relayout),
  (":select", select)]

def exports : Command → Bool
  | exportImage | exportPage | exportElements => true
  | _ => false

def ofTrimmed (cs : List Char) : Except Failure (Command × List Char) :=
  match cs with
  | ':' :: _ =>
    let name := String.ofList (cs.takeWhile (· != ' '))
    match shortcuts.lookup name with
    | some command => .ok (command, Text.trim ((cs.dropWhile (· != ' ')).drop 1))
    | none => .error (.unknownShortcut name (shortcuts.map Prod.fst))
  | cs => .ok (submit, cs)

def ofLine (line : String) : Except Failure (Command × String) := do
  let (command, argument) ← ofTrimmed (Text.trim line.toList)
  return (command, String.ofList argument)

end Command

end DependencyAtlas.Session
