import DependencyAtlas.Graph.Basic

namespace DependencyAtlas.Layout

structure Network where
  nodes : List String
  edges : List (String × String)
  deriving Repr, DecidableEq

def addNew {α : Type} [BEq α] (xs : List α) (x : α) : List α :=
  if xs.contains x then xs else xs ++ [x]

def distinct {α : Type} [BEq α] (xs : List α) : List α :=
  xs.foldl addNew []

namespace Network

def ofEdges (nodes : List String) (edges : List (String × String)) : Network where
  nodes := distinct (nodes ++ edges.flatMap fun e => [e.1, e.2])
  edges := edges

def ofGraph (g : Graph) : Network :=
  ofEdges g.nodeIds (g.edges.map fun e => (e.source, e.target))

def joined (net : Network) (u v : String) : Bool :=
  u != v && net.edges.any fun e => (e.1 == u && e.2 == v) || (e.1 == v && e.2 == u)

abbrev Marks := List (String × String)

/-- Gives all nodes that are marked like `v` the mark of `u`. -/
def Marks.merge (marks : Marks) (e : String × String) : Marks :=
  match marks.lookup e.1, marks.lookup e.2 with
  | some a, some b => marks.map fun m => (m.1, if m.2 == b then a else m.2)
  | _, _ => marks

def marks (net : Network) : Marks :=
  net.edges.foldl Marks.merge (net.nodes.map fun n => (n, n))

def components (net : Network) : List (List String) :=
  let marks := net.marks
  (distinct (marks.map Prod.snd)).map fun mark =>
    (marks.filter fun m => m.2 == mark).map Prod.fst

def adjacency (net : Network) (nodes : List String) : List (List Bool) :=
  nodes.map fun u => nodes.map fun v => net.joined u v

end Network

end DependencyAtlas.Layout
