import DependencyAtlas.Session.Command
import DependencyAtlas.Session.Exports

namespace DependencyAtlas.Session

open Files Scan Stage

inductive Outcome where
  | none
  | graph (g : Graph)
  | path (p : Path)
  | element (kind : Graph.Element)

namespace Outcome

def ofGraph : Option Graph → Outcome
  | some g => graph g
  | Option.none => none

def ofPath : Option Path → Outcome
  | some p => path p
  | Option.none => none

def ofElement : Option Graph.Element → Outcome
  | some kind => element kind
  | Option.none => none

end Outcome

inductive Progress where
  | over (outcome : Outcome)
  | waiting (w : Waiting)

namespace Viewer

def close : Act Viewer Unit :=
  release

def start (command : Command) (argument : String) : Act Viewer Progress := do
  match command with
  | .submit =>
    match ← beginSubmit (.str argument) with
    | some w => return .waiting w
    | none => return .over .none
  | .relayout =>
    inStudio (Studio.relayout canvas)
    return .over .none
  | .exportImage => return .over (.ofPath (← exportImage))
  | .exportPage => return .over (.ofPath (← exportPage))
  | .exportElements => return .over (.ofPath (← exportElements))
  | .select => return .over (.ofElement (← inStudio (Studio.tap canvas argument)))
  | .quit =>
    close
    return .over .none

def resume (w : Waiting) (reply : Reply) : Act Viewer Outcome := do
  return .ofGraph (← receive w reply)

def dispatch (command : Command) (argument : String) : Act Viewer Outcome := do
  match ← start command argument with
  | .over outcome => return outcome
  | .waiting w => resume w (← inWorld nextReply)

def dispatchNamed (name argument : String) : Act Viewer Outcome := do
  match Command.ofName? name with
  | some command => dispatch command argument
  | none => throw (.unknownCommand name)

end Viewer

end DependencyAtlas.Session
