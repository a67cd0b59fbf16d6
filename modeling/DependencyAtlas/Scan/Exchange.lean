import DependencyAtlas.Encoding.Charset
import DependencyAtlas.Encoding.Detect
import DependencyAtlas.Json.Reader
import DependencyAtlas.Scan.Address
import DependencyAtlas.Scan.Request
import DependencyAtlas.Settings.Basic

namespace DependencyAtlas.Scan

structure Sent where
  method : String
  url : String
  body : Value

inductive Break where
  | connect
  | connectTimeout
  | readTimeout
  | protocol
  | redirects
  deriving Repr, DecidableEq

def Break.name : Break → String
  | connect => "ConnectError"
  | connectTimeout => "ConnectTimeout"
  | readTimeout => "ReadTimeout"
  | protocol => "RemoteProtocolError"
  | redirects => "TooManyRedirects"

structure Answer where
  status : Int
  contentType : Option String
  body : Encoding.Octets

inductive Reply where
  | answer (a : Answer)
  | broken (b : Break) (text : String)
  | failed (f : Failure)

namespace Answer

def isSuccess (a : Answer) : Bool :=
  200 ≤ a.status && a.status ≤ 299

def text (a : Answer) : Except Failure String :=
  if a.body.isEmpty then .ok ""
  else
    match (Encoding.Charset.ofType a.contentType).decode a.body with
    | .ok cs => .ok (String.ofList cs)
    | .error fault => .error (.unreadable fault.message)

def malformed (text : String) : Failure :=
  .complaint (.malformed ⟨text, none⟩)

def document (a : Answer) : Except Failure Value :=
  match Encoding.jsonText a.body with
  | .error fault => .error (malformed ("Invalid JSON in response: " ++ fault.message))
  | .ok cs =>
    match Json.parseChars cs with
    | .error fault => .error (malformed ("Invalid JSON in response: " ++ fault.message))
    | .ok v => .ok v

def graph (a : Answer) : Except Failure Graph := do
  if a.isSuccess then
    (Graph.ofDocument (← a.document)).mapError .ofRefusal
  else
    throw (.complaint (.request ⟨← a.text, some a.status⟩))

end Answer

def Reply.graph : Reply → Except Failure Graph
  | answer a => a.graph
  | broken b text => .error (.complaint (.request ⟨if text = "" then b.name else text, none⟩))
  | failed f => .error f

structure Client where
  server : String
  timeout : Value

namespace Client

def endpoint : String :=
  "/api/scan"

def create (settings : Settings) (around : Surroundings) (server timeout : Value) :
    Except Failure Client := do
  let url ←
    if server.truthy then
      match server with
      | .str url => pure url
      | v => throw (.misuse (.noMember v.kind "rstrip"))
    else settings.getServer around
  let timeout ← if timeout.isNull then settings.getTimeout around else pure timeout
  return ⟨Text.withoutEnd '/' url, timeout⟩

def scanUrl (c : Client) : String :=
  c.server ++ endpoint

def send (c : Client) (r : Request) : Except Failure (Sent × Address) := do
  let address ← Address.parse c.scanUrl
  return (⟨"POST", address.text, r.document⟩, address)

end Client

/-- The graph that a reply from an address brings. An answer from nowhere is not accepted. -/
def Reply.graphFrom (address : Address) (reply : Reply) : Except Failure Graph :=
  match reply with
  | answer a =>
    if address.isComplete then a.graph
    else .error (.outside .value ("unknown url type: " ++ Text.quoted address.text))
  | reply => reply.graph

end DependencyAtlas.Scan
