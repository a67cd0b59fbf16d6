import DependencyAtlas.Console.Spinner
import DependencyAtlas.Session.World

/-!
Viewers: a renderer, the status, and the scan that is running, if one is. A submission is made in two
parts, before and after the server's reply, so that other things can happen while the server works. One
submission runs at a time; others are ignored.
-/

namespace DependencyAtlas.Session

open Files Scan Stage

structure Viewer where
  studio : Studio World Unit
  board : Board Bool Console.Spinner
  changes : List (Notice Bool)
  client : Client
  inFlight : Bool

structure Waiting where
  request : Request
  address : Address

namespace Viewer

def world (v : Viewer) : World :=
  v.studio.outside

def setWorld (w : World) (v : Viewer) : Viewer :=
  { v with studio := { v.studio with outside := w } }

def inWorld {α : Type} (act : Act World α) : Act Viewer α :=
  act.within world setWorld

def inStudio {α : Type} (act : Act (Studio World Unit) α) : Act Viewer α :=
  act.within Viewer.studio fun studio v => { v with studio }

def showEvent : Console.Event → Act Viewer Unit
  | .print m => inWorld (print m.markup)
  | _ => return

def showEvents : List Console.Event → Act Viewer Unit
  | [] => return
  | e :: rest => do
    showEvent e
    showEvents rest

def change (c : Change Bool) : Act Viewer Unit := do
  let (board, called) := (← get).board.change Console.Spinner.react c
  modify fun v => { v with board }
  unless called.isEmpty do
    modify fun v => { v with changes := v.changes ++ [board.notice] }
  showEvents (called.flatMap fun spinner => (spinner.see board.notice).2)

def release : Act Viewer Unit :=
  inStudio (Studio.release canvas)

def render (g : Graph) : Act Viewer Bool :=
  inStudio (Studio.render canvas g)

/-- What becomes of a failed submission: a complaint is shown, anything else is passed on. After an
empty result nothing stays on the surface. -/
def recover : Failure → Act Viewer (Option Graph)
  | .complaint c => do
    if c = .emptyResult then release
    change (.show c.message)
    return none
  | failure => throw failure

def becomeIdle : Act Viewer Unit := do
  modify fun v => { v with inFlight := false }
  change (.load false)

def settle (act : Act Viewer Graph) : Act Viewer (Option Graph) := do
  match ← act.ending with
  | .ok g => return some g
  | .error failure => recover failure

def conclude (act : Act Viewer Graph) : Act Viewer (Option Graph) := do
  match ← (settle act).andFinally becomeIdle with
  | some g =>
    inWorld (tell ("[dim]Rendered " ++ toString g.nodes.length ++ " nodes, " ++
      toString g.edges.length ++ " edges[/dim]"))
    return some g
  | none => return none

def connect : Act World Unit := do
  let w ← get
  let timeout ← Act.ofExcept (w.settings.getTimeout w.around)
  let _ ← (Pool.acquire w.refusal w.settings.verify timeout).within World.pool
    fun pool w => { w with pool }
  return

def send (request : Request) : Act Viewer Waiting := do
  let client := (← get).client
  inWorld (tell ("[dim]POST " ++ client.scanUrl ++ " " ++ request.path ++ "[/dim]"))
  inWorld connect
  let (sent, address) ← Act.ofExcept (client.send request)
  inWorld (modify fun w => { w with requests := w.requests ++ [sent] })
  return ⟨request, address⟩

/-- Accepts a submission: from now on it is the one that runs. A blank path is passed over, and so is any
path while another submission is running. -/
def accept (path : Value) : Act Viewer (Option Request) := do
  match Request.ofValue path with
  | .ok request =>
    if (← get).inFlight then
      inWorld (tell ("[dim]Scan already in progress, ignoring " ++ request.path ++ "[/dim]"))
      return none
    else
      modify fun v => { v with inFlight := true }
      change (.load true)
      change .clear
      return some request
  | .error (.complaint _) => return none
  | .error failure => throw failure

def launch (request : Request) : Act Viewer (Option Waiting) := do
  match ← (send request).ending with
  | .ok waiting => return some waiting
  | .error failure =>
    let _ ← conclude (throw failure)
    return none

def beginSubmit (path : Value) : Act Viewer (Option Waiting) := do
  match ← accept path with
  | some request => launch request
  | none => return none

def present (g : Graph) : Act Viewer Graph := do
  if g.isEmpty then throw (.complaint .emptyResult)
  let _ ← render g
  return g

def receive (waiting : Waiting) (reply : Reply) : Act Viewer (Option Graph) :=
  conclude do
    let g ← Act.ofExcept (reply.graphFrom waiting.address)
    present g

def submit (path : Value) : Act Viewer (Option Graph) := do
  match ← beginSubmit path with
  | none => return none
  | some waiting => receive waiting (← inWorld nextReply)

end Viewer

end DependencyAtlas.Session
