import DependencyAtlas.Settings.Source

namespace DependencyAtlas

open Files

structure Settings where
  server : Option String
  timeout : Option Value
  outputDir : Option Path
  verbose : Option Value
  verify : Value

namespace Settings

def initial : Settings :=
  ⟨none, none, none, none, .bool true⟩

def defaultServer : String :=
  "http://localhost:8080"

def defaultTimeout : Float :=
  30.0

def given (v : Value) : Option Value :=
  if v.isNull then none else some v

def setServer (v : Value) (s : Settings) : Except Failure Settings :=
  match v with
  | .str url => .ok { s with server := some (Text.withoutEnd '/' url) }
  | v => .error (.misuse (.noMember v.kind "rstrip"))

def setTimeout (v : Value) (s : Settings) : Settings :=
  { s with timeout := given v }

def setVerbose (v : Value) (s : Settings) : Settings :=
  { s with verbose := given v }

def setVerify (v : Value) (s : Settings) : Settings :=
  { s with verify := v }

def pathOf (around : Surroundings) (v : Value) : Except Failure Path :=
  match v with
  | .str text => around.expand (.ofText text)
  | v => .error (.misuse (.notPath v.kind))

def setOutputDir (around : Surroundings) (v : Value) (s : Settings) : Except Failure Settings := do
  let path ← pathOf around v
  return { s with outputDir := some path }

def getServer (s : Settings) (around : Surroundings) : Except Failure String :=
  match s.server, around.variableText? "DEPGRAPH_VIEWER_SERVER_URL" with
  | some url, _ => .ok url
  | none, some url => .ok (Text.withoutEnd '/' url)
  | none, none => do
    match ← around.setting? "server_url" with
    | some v => return Text.withoutEnd '/' v.text
    | none => return defaultServer

def getTimeout (s : Settings) (around : Surroundings) : Except Failure Value :=
  match s.timeout, (around.variableText? "DEPGRAPH_VIEWER_TIMEOUT").bind Decimal.read? with
  | some v, _ => .ok v
  | none, some x => .ok (.float x)
  | none, none => do
    match ← around.setting? "timeout" with
    | some v => return .float (← v.readDouble.mapError .misuse)
    | none => return .float defaultTimeout

def getOutputDir (s : Settings) (around : Surroundings) : Except Failure Path :=
  match s.outputDir, around.variableText? "DEPGRAPH_VIEWER_OUTPUT_DIR" with
  | some path, _ => .ok path
  | none, some path => around.expand (.ofText path)
  | none, none => do
    match ← around.setting? "output_dir" with
    | some v => pathOf around v
    | none => return around.here

def getVerbose (s : Settings) (around : Surroundings) : Except Failure Value :=
  match s.verbose with
  | some v => .ok v
  | none => do
    match ← around.table with
    | .object fields => return .bool ((Fields.get? fields "verbose").getD (.bool false)).truthy
    | v => throw (.misuse (.noMember v.kind "get"))

def isVerbose (s : Settings) (around : Surroundings) : Except Failure Bool := do
  return (← s.getVerbose around).truthy

end Settings

end DependencyAtlas
