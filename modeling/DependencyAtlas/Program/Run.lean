import DependencyAtlas.Program.Arguments

namespace DependencyAtlas.Program

open Files Scan Session

def version : String :=
  "0.1.0"

def disconnect : Act Viewer Unit :=
  Viewer.inWorld (modify fun w => { w with pool := w.pool.shut })

def printComplaint (c : Complaint) : Act Viewer Unit :=
  Viewer.inWorld (print c.message.markup)

def outcomeText : Outcome → String
  | .path p => p.text
  | _ => "None"

def exportAfter (wanted : Bool) (command : Command) (what : String) : Act Viewer Unit := do
  if wanted then
    let outcome ← Viewer.dispatch command ""
    Viewer.inWorld
      (print ("[green]" ++ what ++ " exported to: " ++ outcomeText outcome ++ "[/green]"))

def followUp (wanted : FollowUps) : Act Viewer Unit := do
  if wanted.relayout then
    let _ ← Viewer.dispatch .relayout ""
    Viewer.inWorld (print "[cyan]Layout refreshed.[/cyan]")
  exportAfter wanted.image .exportImage "Graph image"
  exportAfter wanted.page .exportPage "Graph page"
  exportAfter wanted.elements .exportElements "Graph data"

def endsWell (m : Option Message) : Bool :=
  match m with
  | some m => m.severity != .error
  | none => false

/-- What happens after the submission: the graph is reported and followed up; without one the message
decides how the program ends. -/
def afterScan (wanted : FollowUps) (outcome : Outcome) : Act Viewer Unit := do
  match outcome with
  | .graph g =>
    let path := (← get).world.page.path
    Viewer.inWorld (print ("[green]Rendered " ++ toString g.nodes.length ++ " nodes and " ++
      toString g.edges.length ++ " edges to: " ++ path.text ++ "[/green]"))
    match ← (followUp wanted).ending with
    | .ok () => return
    | .error (.complaint c) =>
      printComplaint c
      throw (.exit 1)
    | .error failure => throw failure
  | _ => unless endsWell (← get).board.notice.message do throw (.exit 1)

def finishScan (wanted : FollowUps) (submission : Act Viewer Outcome) : Act Viewer Unit := do
  let outcome ← submission.andFinally disconnect
  afterScan wanted outcome

def prepare (flags : Flags) (opens : Bool) : Act World Viewer := do
  applyFlags flags
  openViewer {} opens

def scan (path : String) (flags : Flags) (wanted : FollowUps) (opens : Bool) : Act World Unit := do
  let viewer ← prepare flags opens
  withViewer viewer (finishScan wanted (Viewer.dispatch .submit path))

def help : String :=
  "[bold cyan]depgraph-viewer[/bold cyan]\n" ++
  "Enter a directory path to scan it, or one of:\n" ++
  "  [bold]:relayout[/bold]      re-run the layout\n" ++
  "  [bold]:export[/bold]        save dependency-graph.png\n" ++
  "  [bold]:html[/bold]          save dependency-graph.html\n" ++
  "  [bold]:json[/bold]          save dependency-graph.json\n" ++
  "  [bold]:select <id>[/bold]   select a node or edge\n" ++
  "  [bold]:quit[/bold]          leave"

def prompt : Act Viewer Unit :=
  Viewer.inWorld (write "[bold]>[/bold] (): " "")

inductive LineStep where
  | over
  | next
  | waiting (w : Waiting)

def handled (act : Act Viewer LineStep) : Act Viewer LineStep := do
  match ← act.ending with
  | .ok step => return step
  | .error (.complaint c) =>
    printComplaint c
    return .next
  | .error failure => throw failure

def report? (command : Command) (argument : String) (outcome : Outcome) : Option String :=
  match command.exports, outcome with
  | true, .path p => some ("[green]Exported to: " ++ p.text ++ "[/green]")
  | true, _ => some "[dim]Nothing to export yet.[/dim]"
  | false, .none =>
    if command = .select then
      some ("[dim]No element " ++ Console.Markup.escape argument ++ " in the graph.[/dim]")
    else none
  | false, _ => none

def report (command : Command) (argument : String) (outcome : Outcome) : Act Viewer Unit :=
  match report? command argument outcome with
  | some markup => Viewer.inWorld (print markup)
  | none => return

def beginLine (line : String) : Act Viewer LineStep := do
  match Command.ofLine line with
  | .error failure =>
    Viewer.inWorld (print ("[yellow]" ++ Console.Markup.escape failure.text ++ "[/yellow]"))
    return .next
  | .ok (command, argument) =>
    if command = .quit then return .over
    if command = .select && argument = "" then
      Viewer.inWorld (print "[yellow]Usage: :select <id>[/yellow]")
      return .next
    handled do
      match ← Viewer.start command argument with
      | .over outcome =>
        report command argument outcome
        return .next
      | .waiting w => return .waiting w

def endLine (w : Waiting) (reply : Reply) : Act Viewer LineStep :=
  handled do
    let _ ← Viewer.resume w reply
    return .next

def lines : List String → Act Viewer Unit
  | [] => prompt
  | line :: rest => do
    prompt
    match ← beginLine line with
    | .over => return
    | .next => lines rest
    | .waiting w =>
      let _ ← endLine w (← Viewer.inWorld nextReply)
      lines rest

def leave : Act Viewer Unit := do
  Viewer.close
  disconnect

def view (flags : Flags) (opens : Bool) (input : List String) : Act World Unit := do
  let viewer ← prepare flags opens
  print help
  withViewer viewer ((lines input).andFinally leave)

def splitLines (current : List Char) : List Char → List String
  | [] => if current.isEmpty then [] else [String.ofList current.reverse]
  | '\r' :: '\n' :: cs => String.ofList current.reverse :: splitLines [] cs
  | c :: cs =>
    if c = '\n' || c = '\r' then String.ofList current.reverse :: splitLines [] cs
    else splitLines (c :: current) cs

def run (invocation : Invocation) (input : String) : Act World Unit :=
  match invocation with
  | .version => print ("depgraph-viewer " ++ version)
  | .scan path flags wanted opens => scan path flags wanted opens
  | .view flags opens => view flags opens (splitLines [] input.toList)

structure Ending where
  code : Nat
  failure : Option Failure

def Ending.of : Except Failure Unit → Ending
  | .ok () => ⟨0, none⟩
  | .error (.exit code) | .error (.halt (.exit code) _) => ⟨code, none⟩
  | .error (.halt .interrupted _) => ⟨130, none⟩
  | .error failure => ⟨1, some failure⟩

end DependencyAtlas.Program
