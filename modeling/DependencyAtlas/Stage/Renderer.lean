import DependencyAtlas.Drawing.Visualization
import DependencyAtlas.Stage.Surface

/-!
Renderers: each owns at most one live visualization, which is bound to its surface. The old
visualization is released before a new one is bound, and a visualization that cannot be drawn at first
is released again.
-/

namespace DependencyAtlas.Stage

open Layout Drawing

/-- What happens outside when a figure is drawn, when the surface is cleared, and when a handler is told
of a tapped node. -/
structure Canvas (σ η : Type) where
  draw : Figure Float → Act σ Unit
  clear : Act σ Unit
  notify : η → String → Act σ Unit

structure Live where
  id : Nat
  visualization : Visualization Float

structure Renderer (η : Type) where
  policy : Policy
  live : Option Live
  handlers : List η

structure Studio (σ η : Type) where
  renderer : Renderer η
  surface : Surface
  registry : Registry
  outside : σ

namespace Renderer

variable {η : Type}

def hasInstance (r : Renderer η) : Bool :=
  r.live.isSome

def elements (r : Renderer η) : Option Graph :=
  r.live.map (·.visualization.graph)

def positions (r : Renderer η) : Placement Float :=
  (r.live.map (·.visualization.positions)).getD []

def selected (r : Renderer η) : Option String :=
  r.live.bind (·.visualization.selected)

def onSelect (handler : η) (r : Renderer η) : Renderer η :=
  { r with handlers := r.handlers ++ [handler] }

def snapshot (r : Renderer η) : Except Failure (Option (Figure Float)) :=
  match r.live with
  | none => .ok none
  | some live =>
    (live.visualization.figure floatGauge { fullExtent := true }).map some

/-- The entry of a node in an exported document. Its y axis points down. -/
def positionedEntry (positions : Placement Float) (n : Node) : Except Failure Value := do
  let p ← Visualization.pointOf positions n.id
  return .object [
    ("data", .object [("id", .str n.id), ("label", .str n.label)]),
    ("position", .object [("x", .float p.x), ("y", .float (-p.y))])]

def document (r : Renderer η) : Except Failure (Option Value) :=
  match r.live with
  | none => .ok none
  | some live => do
    let g := live.visualization.graph
    let nodes ← g.nodes.mapM (positionedEntry live.visualization.positions)
    return some (.object [
      ("elements", .object [
        ("nodes", .list nodes),
        ("edges", .list (g.edges.map Graph.edgeEntry))]),
      ("layout", r.policy.toOptions)])

end Renderer

namespace Studio

variable {σ η : Type}

def outsideAct {α : Type} (act : Act σ α) : Act (Studio σ η) α :=
  act.within Studio.outside fun outside s => { s with outside }

def setLive (live : Option Live) : Act (Studio σ η) Unit :=
  modify fun s => { s with renderer := { s.renderer with live } }

def destroy (id : Nat) : Act (Studio σ η) Unit :=
  modify fun s => { s with registry := s.registry.destroy id }

def unbind (canvas : Canvas σ η) (holder : Option Holder) : Act (Studio σ η) Unit := do
  if (← get).surface.bound = holder then
    modify fun s => { s with surface := s.surface.free }
    outsideAct canvas.clear
    modify fun s => { s with surface := s.surface.cleared }

def bind (holder : Option Holder) : Act (Studio σ η) Unit := do
  match (← get).surface.bind holder with
  | .ok surface => modify fun s => { s with surface }
  | .error failure => throw failure

def release (canvas : Canvas σ η) : Act (Studio σ η) Unit := do
  match (← get).renderer.live with
  | none => return
  | some live =>
    setLive none
    unbind canvas (some (.visualization live.id))
    destroy live.id

def drawFailure (failure : Failure) : Failure :=
  if failure.stopsDrawing then
    .complaint (.render ("Could not draw the graph: " ++ failure.text))
  else failure

def draw (canvas : Canvas σ η) (figure : Figure Float) : Act (Studio σ η) Unit := do
  match ← (outsideAct (canvas.draw figure)).ending with
  | .ok () => return
  | .error failure => throw (drawFailure failure)

def drawTransition (canvas : Canvas σ η) (v : Visualization Float) : Act (Studio σ η) Unit := do
  let duration := (← get).renderer.policy.animationDuration
  let figure ← Act.ofExcept (v.figure floatGauge { animated := true, duration })
  draw canvas figure

def firstView (policy : Policy) (g : Graph) : Except Failure (Visualization Float) := do
  let net := Network.ofGraph g
  let start ← policy.seed net []
  let final ← policy.arrange net start
  let frames ← policy.transition start final
  return (Visualization.ofGraph g).moveTo final frames

def create : Act (Studio σ η) Nat := do
  let id := (← get).registry.created
  modify fun s => { s with registry := { s.registry with created := id + 1 } }
  return id

def render (canvas : Canvas σ η) (g : Graph) : Act (Studio σ η) Bool := do
  release canvas
  if g.isEmpty then return false
  let id ← create
  let v ← Act.ofExcept (firstView (← get).renderer.policy g)
  (bind (some (.visualization id))).onError (destroy id)
  setLive (some ⟨id, v⟩)
  (drawTransition canvas v).onError (release canvas)
  return true

def nextView (policy : Policy) (v : Visualization Float) : Except Failure (Visualization Float) := do
  let positions ← policy.arrange (Network.ofGraph v.graph) v.positions
  let frames ← policy.transition v.positions positions
  return v.moveTo positions frames

def relayout (canvas : Canvas σ η) : Act (Studio σ η) Unit := do
  let renderer := (← get).renderer
  match renderer.live with
  | none => return
  | some live =>
    let v ← Act.ofExcept (nextView renderer.policy live.visualization)
    setLive (some { live with visualization := v })
    drawTransition canvas v

def notifyAll (canvas : Canvas σ η) (id : String) : List η → Act (Studio σ η) Unit
  | [] => return
  | handler :: rest => do
    outsideAct (canvas.notify handler id)
    notifyAll canvas id rest

def tap (canvas : Canvas σ η) (id : String) : Act (Studio σ η) (Option Graph.Element) := do
  match (← get).renderer.live with
  | none => return none
  | some live =>
    match live.visualization.select id with
    | (_, none) => return none
    | (v, some kind) =>
      setLive (some { live with visualization := v })
      draw canvas (← Act.ofExcept (v.figure floatGauge {}))
      if kind = .node then notifyAll canvas id (← get).renderer.handlers
      return some kind

end Studio

end DependencyAtlas.Stage
