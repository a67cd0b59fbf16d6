import DependencyAtlas.Session.Dispatch

namespace DependencyAtlas.Session

open Files Scan Stage

structure Flags where
  server : Value := .null
  timeout : Value := .null
  outputDir : Value := .null
  verbose : Value := .null
  insecure : Bool := false
  certificates : Option Path := none

def modifySettings (f : Settings → Settings) : Act World Unit :=
  modify fun w => { w with settings := f w.settings }

def setSettings (f : Surroundings → Settings → Except Failure Settings) : Act World Unit := do
  let w ← get
  let settings ← Act.ofExcept (f w.around w.settings)
  modify fun w => { w with settings }

def isNotPositive (v : Value) : Except Misuse Bool :=
  match v with
  | .float x => .ok (x ≤ 0.0)
  | v =>
    match v.int? with
    | some n => .ok (n ≤ 0)
    | none => .error (.notComparable "<=" v.kind .int)

def applyTimeout (v : Value) : Act World Unit := do
  if ← Act.ofExcept ((isNotPositive v).mapError .misuse) then
    print "[red]Invalid timeout. Must be a positive number.[/red]"
    throw (.exit 1)
  modifySettings (Settings.setTimeout v)

def applyCertificates (insecure : Bool) : Option Path → Act World Unit
  | none => modifySettings (Settings.setVerify (.bool !insecure))
  | some path => do
    if insecure then
      print "[yellow]⚠️  Both --insecure and --ca-cert specified. Using --ca-cert.[/yellow]"
    unless (← get).disk.exists? path do
      print ("[red]CA certificate file not found: " ++ path.text ++ "[/red]")
      throw (.exit 1)
    modifySettings (Settings.setVerify (.str path.text))

def applyFlags (flags : Flags) : Act World Unit := do
  if flags.server.truthy then setSettings fun _ s => s.setServer flags.server
  unless flags.timeout.isNull do applyTimeout flags.timeout
  unless flags.outputDir.isNull do
    setSettings fun around s => s.setOutputDir around flags.outputDir
  unless flags.verbose.isNull do modifySettings (Settings.setVerbose flags.verbose)
  applyCertificates flags.insecure flags.certificates

def livePageName : String :=
  "depgraph-viewer.html"

def openViewer (policy : Layout.Policy) (opens : Bool) : Act World Viewer := do
  let path := (← getOutputDir).child livePageName
  modify fun w => { w with page := ⟨path, opens, false⟩ }
  let w ← get
  let client ← Act.ofExcept (Client.create w.settings w.around .null .null)
  tell ("[dim]Live graph page: " ++ path.text ++ "[/dim]")
  return {
    studio := ⟨⟨policy, none, [()]⟩, .empty, ⟨0, []⟩, ← get⟩
    board := ⟨⟨false, none⟩, [⟨false⟩]⟩
    changes := []
    client := client
    inFlight := false }

def withViewer {α : Type} (viewer : Viewer) (act : Act Viewer α) : Act World α :=
  fun w =>
    let (result, viewer) := act (viewer.setWorld w)
    (result, viewer.world)

end DependencyAtlas.Session
