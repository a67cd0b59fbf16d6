import DependencyAtlas.Graph.Basic
import DependencyAtlas.Value.Misuse

/-!
The elements document, in which graphs travel: an object `elements` with the lists `nodes` and
`edges`, whose entries each hold an object `data`. Ids and labels may be any values; their texts count.
-/

namespace DependencyAtlas.Graph

inductive Defect where
  | noElements
  | noData (part : Element)
  | missing (part : Element) (field : String)
  | duplicate (part : Element) (id : String)
  | unknownNode (edge node : String)
  deriving Repr, DecidableEq

inductive Refusal where
  | defect (d : Defect)
  | misuse (m : Misuse)
  deriving Repr, DecidableEq

def Element.title : Element → String
  | node => "Node"
  | edge => "Edge"

def Defect.message : Defect → String
  | noElements => "Response has no 'elements' object"
  | noData part => "Every " ++ part.name ++ " needs a 'data' object"
  | missing part field => part.title ++ " is missing '" ++ field ++ "'"
  | duplicate part id => "Duplicate " ++ part.name ++ " id: " ++ id
  | unknownNode edge node => "Edge " ++ edge ++ " references unknown node: " ++ node

/-- The entries under a field: none if it is absent or empty, the characters of a text, the names of
an object. -/
def entries (fields : Fields) (name : String) : Except Refusal (List Value) :=
  match fields.get? name with
  | none => .ok []
  | some v =>
    if v.truthy then
      match v with
      | .list items => .ok items
      | .str s => .ok (s.toList.map fun c => .str (String.ofList [c]))
      | .object inner => .ok (inner.map fun p => .str p.1)
      | v => .error (.misuse (.notIterable v.kind))
    else .ok []

def held (name : String) (otherwise : Defect) : Value → Except Refusal Fields
  | .object fields =>
    match Fields.get? fields name with
    | some (.object inner) => .ok inner
    | _ => .error (.defect otherwise)
  | _ => .error (.defect otherwise)

def dataOf (part : Element) : Value → Except Refusal Fields :=
  held "data" (.noData part)

def required (part : Element) (data : Fields) (field : String) : Except Refusal String :=
  match data.get? field with
  | none | some .null | some (.str "") => .error (.defect (.missing part field))
  | some v => .ok v.text

def labelOr (other : String) (data : Fields) : String :=
  match data.get? "label" with
  | some v => if v.truthy then v.text else other
  | none => other

def edgeFields : List String :=
  ["id", "source", "target", "label"]

def extraOf (data : Fields) : Option Fields :=
  match data.without edgeFields with
  | [] => none
  | extra => some extra

def readNode (taken : List String) (entry : Value) : Except Refusal Node := do
  let data ← dataOf .node entry
  let id ← required .node data "id"
  if taken.contains id then throw (.defect (.duplicate .node id))
  return { id, label := labelOr id data }

def readEdge (nodes taken : List String) (entry : Value) : Except Refusal Edge := do
  let data ← dataOf .edge entry
  let id ← required .edge data "id"
  let source ← required .edge data "source"
  let target ← required .edge data "target"
  if nodes.contains id || taken.contains id then throw (.defect (.duplicate .edge id))
  if !nodes.contains source then throw (.defect (.unknownNode id source))
  if !nodes.contains target then throw (.defect (.unknownNode id target))
  return { id, source, target, label := labelOr "" data, extra := extraOf data }

/-- Reads entries in turn. Each is read with the ids that are taken when its turn comes. -/
def readAll {α : Type} (read : List String → Value → Except Refusal α) (idOf : α → String)
    (taken : List String) : List Value → Except Refusal (List α)
  | [] => .ok []
  | entry :: rest => do
    let item ← read taken entry
    let items ← readAll read idOf (idOf item :: taken) rest
    return item :: items

def readUnder {α : Type} (name : String) (read : List String → Value → Except Refusal α)
    (idOf : α → String) (elements : Fields) : Except Refusal (List α) := do
  readAll read idOf [] (← entries elements name)

def nodesIn : Fields → Except Refusal (List Node) :=
  readUnder "nodes" readNode Node.id

def edgesIn (nodes : List String) : Fields → Except Refusal (List Edge) :=
  readUnder "edges" (readEdge nodes) Edge.id

def elementsOf : Value → Except Refusal Fields :=
  held "elements" .noElements

def ofDocument (v : Value) : Except Refusal Graph := do
  let elements ← elementsOf v
  let nodes ← nodesIn elements
  let edges ← edgesIn (nodes.map Node.id) elements
  return ⟨nodes, edges⟩

def nodeEntry (n : Node) : Value :=
  .object [("data", .object [("id", .str n.id), ("label", .str n.label)])]

def edgeData (e : Edge) : Fields :=
  Fields.ofPairs ((e.extra.getD []) ++
    [("id", .str e.id), ("source", .str e.source), ("target", .str e.target),
      ("label", .str e.label)])

def edgeEntry (e : Edge) : Value :=
  .object [("data", .object (edgeData e))]

def toElements (g : Graph) : Value :=
  .object [("nodes", .list (g.nodes.map nodeEntry)), ("edges", .list (g.edges.map edgeEntry))]

def toDocument (g : Graph) : Value :=
  .object [("elements", g.toElements)]

end DependencyAtlas.Graph
