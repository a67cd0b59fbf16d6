import DependencyAtlas.Drawing.Visualization

namespace DependencyAtlas.Drawing

open Layout

def noteDocument : Note Float → Value
  | .arrow source target color => .object [
      ("x", .float target.x),
      ("y", .float target.y),
      ("ax", .float source.x),
      ("ay", .float source.y),
      ("xref", .str "x"),
      ("yref", .str "y"),
      ("axref", .str "x"),
      ("ayref", .str "y"),
      ("text", .str ""),
      ("showarrow", .bool true),
      ("arrowhead", .int edgeStyle.arrowhead),
      ("arrowwidth", .int edgeStyle.width),
      ("arrowcolor", .str color),
      ("standoff", .float (nodeStyle.size.toFloat / 2.0)),
      ("startstandoff", .float (nodeStyle.size.toFloat / 2.0))]
  | .label text middle angle => .object [
      ("x", .float middle.x),
      ("y", .float middle.y),
      ("xref", .str "x"),
      ("yref", .str "y"),
      ("text", .str text),
      ("showarrow", .bool false),
      ("textangle", .float angle),
      ("font", .object [
        ("color", .str edgeStyle.fontColor),
        ("size", .int edgeStyle.fontSize)]),
      ("bgcolor", .str edgeStyle.labelBackground),
      ("borderpad", .int edgeStyle.labelPadding)]

def notesFields (notes : List (Note Float)) : Fields :=
  if notes.isEmpty then [] else [("annotations", .list (notes.map noteDocument))]

def texts (strings : List String) : Value :=
  .list (strings.map .str)

def markersDocument (m : Markers Float) : Value :=
  .object [
    ("type", .str "scatter"),
    ("x", .list (m.points.map fun p => .float p.x)),
    ("y", .list (m.points.map fun p => .float p.y)),
    ("mode", .str "markers+text"),
    ("text", texts m.labels),
    ("customdata", texts m.ids),
    ("hovertext", texts m.ids),
    ("hoverinfo", .str "text"),
    ("textposition", .str nodeStyle.textPosition),
    ("textfont", .object [
      ("color", .str nodeStyle.fontColor),
      ("size", .int nodeStyle.fontSize)]),
    ("marker", .object [
      ("symbol", .str nodeStyle.symbol),
      ("size", .int nodeStyle.size),
      ("color", texts m.colors),
      ("line", .object [
        ("width", .int nodeStyle.outlineWidth),
        ("color", .str nodeStyle.outlineColor)])]),
    ("showlegend", .bool false)]

def axisFields (s : Span Float) : Fields :=
  [("range", .list [.float s.low, .float s.high]),
    ("showgrid", .bool false),
    ("zeroline", .bool false),
    ("showticklabels", .bool false)]

def sizeFields : Option (Int × Int) → Fields
  | none => []
  | some (width, height) => [("width", .int width), ("height", .int height)]

def playFields : Option (Animation Float) → Fields
  | none => []
  | some animation => [("updatemenus", .list [.object [
      ("type", .str "buttons"),
      ("showactive", .bool false),
      ("visible", .bool false),
      ("buttons", .list [.object [
        ("label", .str "Play"),
        ("method", .str "animate"),
        ("args", .list [.null, .object [
          ("frame", .object [("duration", animation.duration), ("redraw", .bool true)]),
          ("transition", .object [("duration", animation.duration)]),
          ("fromcurrent", .bool true)]])]])]])]

def frameDocument (number : Nat) (p : Picture Float) : Value :=
  .object ([("name", .str (toString number)), ("data", .list [markersDocument p.markers])] ++
    (if p.notes.isEmpty then [] else [("layout", .object (notesFields p.notes))]))

def frameFields : Option (Animation Float) → Fields
  | none => []
  | some animation =>
    [("frames", .list (animation.pictures.zipIdx.map fun entry => frameDocument entry.2 entry.1))]

def Figure.document (f : Figure Float) : Value :=
  .object ([
    ("data", .list [markersDocument f.picture.markers]),
    ("layout", .object (notesFields f.picture.notes ++ [
      ("showlegend", .bool false),
      ("hovermode", .str "closest"),
      ("dragmode", .str "pan"),
      ("margin", .object [("b", .int 0), ("l", .int 0), ("r", .int 0), ("t", .int 0)]),
      ("plot_bgcolor", .str background),
      ("paper_bgcolor", .str background),
      ("xaxis", .object (axisFields f.across)),
      ("yaxis", .object (axisFields f.upwards ++ [("scaleanchor", .str "x")]))] ++
      sizeFields f.size ++ playFields f.animation))] ++
    frameFields f.animation)

end DependencyAtlas.Drawing
