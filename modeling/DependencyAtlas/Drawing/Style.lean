
namespace DependencyAtlas.Drawing

def highlight : String :=
  "#a78bfa"

def background : String :=
  "#0f172a"

structure NodeStyle where
  symbol : String
  color : String
  size : Nat
  fontColor : String
  fontSize : Nat
  textPosition : String
  outlineColor : String
  outlineWidth : Nat

structure EdgeStyle where
  color : String
  width : Nat
  arrowhead : Nat
  fontColor : String
  fontSize : Nat
  labelBackground : String
  labelPadding : Nat

def nodeStyle : NodeStyle :=
  ⟨"circle", "#3b82f6", 40, "#f8fafc", 12, "bottom center", "#1e293b", 2⟩

def edgeStyle : EdgeStyle :=
  ⟨"#475569", 2, 2, "#94a3b8", 10, background, 2⟩

def nodeColor (selected : Bool) : String :=
  if selected then highlight else nodeStyle.color

def edgeColor (selected : Bool) : String :=
  if selected then highlight else edgeStyle.color

def padding : Nat :=
  nodeStyle.size + 30

def leastSize : Nat :=
  400

end DependencyAtlas.Drawing
