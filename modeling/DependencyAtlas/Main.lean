import DependencyAtlas.Program.Run
import DependencyAtlas.Scan.Wire
import Std.Async.DNS
import Std.Async.TCP
import Std.Async.Timer

/-!
The program. What is to be done is decided by viewers; here it is done, with the files, the console and the
server that there are. The files that a session may touch are looked up before every step, and what the
step changed is written after it.
-/

namespace DependencyAtlas

open Files Scan Session Program
open Std.Async (Async)
open Std.Async.TCP.Socket (Client.mk)

def locationText (l : Location) : String :=
  (⟨"/", l⟩ : Path).text

def lookAt (l : Location) : IO (Option Item) := do
  let path := (← IO.currentDir) / locationText l
  try
    match (← path.metadata).type with
    | .dir => return some .folder
    | _ => return some (.file (← try IO.FS.readFile path catch _ => pure ""))
  catch _ => return none

def look (disk : Disk) (p : Path) : IO Disk := do
  let mut disk := disk
  let mut l : Location := if p.isAbsolute then [] else disk.here
  for name in p.parts do
    l := if name = ".." then l.dropLast else l ++ [name]
    if let some item ← lookAt l then disk := disk.put l item
  return disk

def filesIn (dir : Path) : List Path :=
  [livePageName, imageName, pageName, elementsName].map dir.child

def settingsFiles : List Path :=
  [Surroundings.localFile, Surroundings.projectFile].map Path.ofText

def refresh (others : List Path) (w : World) : IO World := do
  let disk ← (settingsFiles ++ others).foldlM look (.empty w.disk.here)
  let w := { w with disk }
  match (getOutputDir w).1 with
  | .ok dir => return { w with disk := ← (filesIn dir).foldlM look disk }
  | .error _ => return w

def store (before after : Disk) : IO Unit := do
  for (l, item) in before.items do
    if (after.at? l).isNone && item != .folder then IO.FS.removeFile (locationText l)
  for (l, item) in after.items do
    if before.at? l != some item then
      match item with
      | .folder => IO.FS.createDirAll (locationText l)
      | .file text => IO.FS.writeFile (locationText l) text

def say (text : String) : IO Unit := do
  let out ← IO.getStdout
  out.putStr text
  out.flush

def settle (before : Disk) (w : World) : IO World := do
  store before w.disk
  say (String.join w.printed)
  for address in w.opened do IO.eprintln ("The page is at " ++ address)
  return { w with printed := [], requests := [], opened := [], attempts := [] }

def step {α : Type} (viewer : Viewer) (act : Act Viewer α) : IO (Except Failure α × Viewer) := do
  let world ← refresh [viewer.world.page.path] viewer.world
  let world := { world with refusal := Pool.refusal? world.disk world.settings.verify }
  let (result, viewer) := act (viewer.setWorld world)
  return (result, viewer.setWorld (← settle world.disk viewer.world))

def patience (timeout : Value) : Option Nat :=
  match timeout.toDouble .notNumeric with
  | .ok x => if 0.0 < x && x < 1e9 then some (x * 1000.0).toUInt64.toNat else none
  | .error _ => none

def hurried {α : Type} [Inhabited α] (limit : Option Nat) (act : Async α) : Async α :=
  match limit with
  | none => act
  | some n => Async.race act (do Std.Async.sleep ⟨n⟩; throw (IO.userError "timed out"))

partial def drain (socket : Std.Async.TCP.Socket.Client) (before : ByteArray) : Async ByteArray := do
  match ← socket.recv? 65536 with
  | some octets => drain socket (before ++ octets)
  | none => return before

def socketAddress (ip : Std.Net.IPAddr) (port : UInt16) : Std.Net.SocketAddress :=
  match ip with
  | .v4 addr => .v4 ⟨addr, port⟩
  | .v6 addr => .v6 ⟨addr, port⟩

def connectTo (host : String) (port : Nat) : Async Std.Async.TCP.Socket.Client := do
  match (← Std.Async.DNS.getAddrInfo host (toString port))[0]? with
  | none => throw (IO.userError "Name or service not known")
  | some ip =>
    let socket ← Client.mk
    socket.connect (socketAddress ip port.toUInt16)
    return socket

def hostName (a : Address) : String :=
  String.ofList (a.host.filter fun c => c != '[' && c != ']')

def exchange (timeout : Value) (w : Waiting) : IO Reply := do
  let address := w.address
  unless address.scheme = "http".toList do
    return .broken .connect "Only addresses that begin with http can be reached."
  let limit := patience timeout
  let port := address.port.getD 80
  try
    let octets := Wire.request address w.request.document
    let received := do
      let socket ← connectTo (hostName address) port
      socket.send octets.toByteArray
      drain socket .empty
    return Wire.reply (← (hurried limit received).block).toList
  catch e => return .broken .connect (toString e)

def afterReply {α : Type} (viewer : Viewer) (w : Waiting) (act : Reply → Act Viewer α) :
    IO (Except Failure α × Viewer) := do
  let reply ← exchange viewer.client.timeout w
  step viewer (act reply)

def runScan (path : String) (wanted : FollowUps) (viewer : Viewer) : IO (Except Failure Unit) := do
  let (progress, viewer) ← step viewer (Viewer.start .submit path)
  match progress with
  | .ok (.waiting w) =>
    return (← afterReply viewer w fun reply => finishScan wanted (Viewer.resume w reply)).1
  | .ok (.over outcome) => return (← step viewer (finishScan wanted (pure outcome))).1
  | .error failure => return (← step viewer (finishScan wanted (throw failure))).1

partial def converse (input : IO.FS.Stream) (viewer : Viewer) :
    IO (Except Failure Unit × Viewer) := do
  let (asked, viewer) ← step viewer prompt
  if let .error failure := asked then return (.error failure, viewer)
  let line ← input.getLine
  if line.isEmpty then return (.ok (), viewer)
  let (result, viewer) ← step viewer (beginLine line)
  let (result, viewer) ←
    match result with
    | .ok (.waiting w) => afterReply viewer w (endLine w)
    | result => pure (result, viewer)
  match result with
  | .ok .over => return (.ok (), viewer)
  | .ok _ => converse input viewer
  | .error failure => return (.error failure, viewer)

def runView (viewer : Viewer) : IO (Except Failure Unit) := do
  let (_, viewer) ← step viewer (Viewer.inWorld (print help))
  let (result, viewer) ← converse (← IO.getStdin) viewer
  return (← step viewer ((Act.ofExcept result).andFinally leave)).1

def runViewer (flags : Flags) (opens : Bool) (world : World)
    (run : Viewer → IO (Except Failure Unit)) : IO (Except Failure Unit) := do
  let world ← refresh flags.certificates.toList world
  let planned := (applyFlags flags world).2
  let world := { world with disk := (← refresh flags.certificates.toList planned).disk }
  let (opening, after) := prepare flags opens world
  let after ← settle world.disk after
  match opening with
  | .ok viewer => run (viewer.setWorld after)
  | .error failure => return .error failure

def variableNames : List String :=
  ["HOME", "DEPGRAPH_VIEWER_SERVER_URL", "DEPGRAPH_VIEWER_TIMEOUT", "DEPGRAPH_VIEWER_OUTPUT_DIR"]

def sheetConfig : Sheet → List (String × Value)
  | .live => [("displaylogo", .bool false), ("scrollZoom", .bool true)]
  | .exported => []

def sheetText (sheet : Sheet) (f : Drawing.Figure Float) : String :=
  "<html>\n<head><meta charset=\"utf-8\" /></head>\n<body>\n<div id=\"graph\"></div>\n" ++
    "<script src=\"plotly.min.js\"></script>\n" ++
    "<script>Plotly.newPlot(\"graph\", Object.assign(" ++ Json.compact f.document ++
    ", " ++ Json.compact (.object [("config", .object (sheetConfig sheet))]) ++ "));</script>\n" ++
    "</body>\n</html>\n"

def worldNow : IO World := do
  let environment ← variableNames.filterMapM fun name => do
    return (← IO.getEnv name).map fun value => (name, value)
  let here := Path.ofText (← IO.currentDir).toString
  return {
    settings := .initial
    environment := environment
    disk := .empty here.parts
    page := ⟨here, false, false⟩
    pool := .empty
    refusal := none
    replies := []
    html := sheetText
    image := .fails (.outside .runtime "no image writer is installed")
    mishaps := []
    printed := []
    requests := []
    opened := []
    attempts := [] }

def usage : String :=
  "Usage: depgraph-viewer scan PATH [OPTIONS] | view [OPTIONS] | version"

def perform (invocation : Invocation) : IO (Except Failure Unit) := do
  let world ← worldNow
  match invocation with
  | .version => do
    let (result, after) := Program.run .version "" world
    let _ ← settle world.disk after
    return result
  | .scan path flags wanted opens => runViewer flags opens world (runScan path wanted)
  | .view flags opens => runViewer flags opens world runView

end DependencyAtlas

open DependencyAtlas in
def main (args : List String) : IO UInt32 := do
  match Program.invocation args with
  | none =>
    IO.eprintln usage
    return 2
  | some invocation =>
    let ending := Program.Ending.of (← perform invocation)
    if let some failure := ending.failure then IO.eprintln failure.text
    return ending.code.toUInt32
