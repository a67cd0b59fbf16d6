import DependencyAtlas.Stage.Renderer

/-!
Ensembles: several renderers on several surfaces. A surface may serve several renderers, and other parties
may keep tokens on it.
-/

namespace DependencyAtlas.Stage

open Layout Drawing

structure Ensemble (σ η : Type) where
  renderers : List (Renderer η)
  surfaces : List Surface
  surfaceOf : Nat → Nat
  registry : Registry
  outside : σ

inductive Deed (η : Type) where
  | render (g : Graph)
  | relayout
  | tap (id : String)
  | release
  | onSelect (handler : η)
  | snapshot
  | document
  | bind (holder : Option Holder)
  | unbind (holder : Option Holder)
  | unbindBound

inductive Result where
  | done
  | rendered (shown : Bool)
  | tapped (kind : Option Graph.Element)
  | figure (f : Option (Figure Float))
  | document (v : Option Value)

namespace Ensemble

variable {σ η : Type}

def surfaceAt (e : Ensemble σ η) (i : Nat) : Surface :=
  e.surfaces.getD (e.surfaceOf i) .empty

def studio (e : Ensemble σ η) (i : Nat) (renderer : Renderer η) : Studio σ η where
  renderer := renderer
  surface := e.surfaceAt i
  registry := e.registry
  outside := e.outside

def update (e : Ensemble σ η) (i : Nat) (s : Studio σ η) : Ensemble σ η where
  renderers := e.renderers.set i s.renderer
  surfaces := e.surfaces.set (e.surfaceOf i) s.surface
  surfaceOf := e.surfaceOf
  registry := s.registry
  outside := s.outside

end Ensemble

def Deed.perform {σ η : Type} (canvas : Canvas σ η) : Deed η → Act (Studio σ η) Result
  | render g => return .rendered (← Studio.render canvas g)
  | relayout => do Studio.relayout canvas; return .done
  | tap id => return .tapped (← Studio.tap canvas id)
  | release => do Studio.release canvas; return .done
  | onSelect handler => do
    modify fun s => { s with renderer := s.renderer.onSelect handler }
    return .done
  | snapshot => return .figure (← Act.ofExcept (← get).renderer.snapshot)
  | document => return .document (← Act.ofExcept (← get).renderer.document)
  | bind holder => do Studio.bind holder; return .done
  | unbind holder => do Studio.unbind canvas holder; return .done
  | unbindBound => do Studio.unbind canvas (← get).surface.bound; return .done

def Ensemble.perform {σ η : Type} (canvas : Canvas σ η) (i : Nat) (deed : Deed η) :
    Act (Ensemble σ η) Result :=
  fun e =>
    match e.renderers[i]? with
    | none => (.ok .done, e)
    | some renderer =>
      let (result, s) := deed.perform canvas (e.studio i renderer)
      (result, e.update i s)

structure Recording (η : Type) where
  failing : Option Failure
  drawn : List (Figure Float)
  taps : List (η × String)

def recorder (η : Type) : Canvas (Recording η) η where
  draw figure := do
    match (← get).failing with
    | some failure => throw failure
    | none => modify fun r => { r with drawn := r.drawn ++ [figure] }
  clear := return
  notify handler id := modify fun r => { r with taps := r.taps ++ [(handler, id)] }

def Ensemble.start {η : Type} (policy : Policy) (renderers surfaces : Nat) :
    Ensemble (Recording η) η where
  renderers := List.replicate renderers ⟨policy, none, []⟩
  surfaces := List.replicate surfaces .empty
  surfaceOf i := min i (surfaces - 1)
  registry := ⟨0, []⟩
  outside := ⟨none, [], []⟩

end DependencyAtlas.Stage
