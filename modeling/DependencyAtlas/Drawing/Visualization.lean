import DependencyAtlas.Drawing.Figure

namespace DependencyAtlas.Drawing

open Layout

structure Visualization (α : Type) where
  graph : Graph
  positions : Placement α
  frames : List (Placement α)
  selected : Option String

structure FigureOptions where
  animated : Bool := false
  fullExtent : Bool := false
  duration : Value := .int 500

def FigureOptions.ofFields (fields : Fields) : Except Failure FigureOptions :=
  fields.foldlM (fun options field =>
    match field.1 with
    | "animated" => .ok { options with animated := field.2.truthy }
    | "full_extent" => .ok { options with fullExtent := field.2.truthy }
    | "duration_ms" => .ok { options with duration := field.2 }
    | name => .error (.unknownOption .figure name)) {}

namespace Visualization

variable {α : Type}

def ofGraph (g : Graph) : Visualization α :=
  ⟨g, [], [], none⟩

def moveTo (v : Visualization α) (positions : Placement α) (frames : List (Placement α)) :
    Visualization α :=
  { v with positions, frames }

def select (v : Visualization α) (id : String) : Visualization α × Option Graph.Element :=
  match v.graph.element? id with
  | some kind => ({ v with selected := some id }, some kind)
  | none => (v, none)

def destroy (v : Visualization α) : Visualization α :=
  { v with frames := [], selected := none }

def extentOf [Add α] [Sub α] [LT α] [DecidableLT α] [NatCast α] (values : List α) : Span α :=
  let span : Span α :=
    match values with
    | [] => ⟨((0 : Nat) : α), ((0 : Nat) : α)⟩
    | a :: rest => .around a rest
  span.widen ((padding : Nat) : α)

def extent [Add α] [Sub α] [LT α] [DecidableLT α] [NatCast α] (placements : List (Placement α)) :
    Span α × Span α :=
  let points := placements.flatMap Placement.points
  (extentOf (points.map Point.x), extentOf (points.map Point.y))

def pointOf (p : Placement α) (id : String) : Except Failure (Point α) :=
  match p.get? id with
  | some point => .ok point
  | none => .error (.missing id)

def markers (v : Visualization α) (p : Placement α) : Except Failure (Markers α) := do
  let ids := v.graph.nodeIds
  let points ← ids.mapM (pointOf p)
  return {
    ids, points
    labels := v.graph.nodes.map Node.label
    colors := ids.map fun id => nodeColor (v.selected == some id) }

variable [Add α] [Sub α] [Neg α] [Div α] [LT α] [DecidableLT α] [BEq α] [NatCast α]

def edgeNotes (v : Visualization α) (gauge : Gauge α) (p : Placement α) (e : Edge) :
    Except Failure (List (Note α)) := do
  let a ← pointOf p e.source
  let b ← pointOf p e.target
  let two := ((2 : Nat) : α)
  let middle : Point α := ⟨(a.x + b.x) / two, (a.y + b.y) / two⟩
  return (if e.source != e.target then [.arrow a b (edgeColor (v.selected == some e.id))] else []) ++
    (if e.label != "" then [.label e.label middle (labelAngle gauge a b)] else [])

def notes (v : Visualization α) (gauge : Gauge α) (p : Placement α) :
    Except Failure (List (Note α)) := do
  return (← v.graph.edges.mapM (v.edgeNotes gauge p)).flatten

def picture (v : Visualization α) (gauge : Gauge α) (p : Placement α) :
    Except Failure (Picture α) := do
  let markers ← v.markers p
  let notes ← v.notes gauge p
  return ⟨markers, notes⟩

def sizeOf (gauge : Gauge α) (s : Span α) : Except Failure Int := do
  let length ← (gauge.roundUp s.length).mapError .misuse
  return max (leastSize : Int) length

/-- The figure of a visualization. An animated one begins with the first frame, if there are
several. -/
def figure (v : Visualization α) (gauge : Gauge α) (options : FigureOptions) :
    Except Failure (Figure α) := do
  let (start, shown) :=
    match options.animated, v.frames with
    | true, first :: second :: rest => (first, first :: second :: rest)
    | _, _ => (v.positions, [])
  let (across, upwards) := extent (if shown.isEmpty then [v.positions] else shown)
  let picture ← v.picture gauge start
  let size ←
    if options.fullExtent then do
      let width ← sizeOf gauge across
      let height ← sizeOf gauge upwards
      pure (some (width, height))
    else pure none
  let animation ←
    if shown.isEmpty then pure none
    else do
      let pictures ← shown.mapM (v.picture gauge)
      let duration ← (share options.duration shown.length).mapError .misuse
      pure (some ⟨pictures, duration⟩)
  return ⟨picture, across, upwards, size, animation⟩

end Visualization

end DependencyAtlas.Drawing
