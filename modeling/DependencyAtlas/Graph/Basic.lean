import DependencyAtlas.Value.Text

namespace DependencyAtlas

structure Node where
  id : String
  label : String
  deriving Repr, DecidableEq

/-- A dependency. `extra` holds whatever else the server says about it, if it says anything. -/
structure Edge where
  id : String
  source : String
  target : String
  label : String
  extra : Option Fields

structure Graph where
  nodes : List Node
  edges : List Edge

namespace Graph

inductive Element where
  | node
  | edge
  deriving Repr, DecidableEq

def Element.name : Element → String
  | node => "node"
  | edge => "edge"

def isEmpty (g : Graph) : Bool :=
  g.nodes.isEmpty

def nodeIds (g : Graph) : List String :=
  g.nodes.map Node.id

def edgeIds (g : Graph) : List String :=
  g.edges.map Edge.id

def element? (g : Graph) (id : String) : Option Element :=
  if g.nodeIds.contains id then some .node
  else if g.edgeIds.contains id then some .edge
  else none

end Graph

end DependencyAtlas
