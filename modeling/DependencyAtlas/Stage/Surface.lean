import DependencyAtlas.Failure

namespace DependencyAtlas.Stage

inductive Holder where
  | visualization (id : Nat)
  | token (key : Nat)
  deriving Repr, DecidableEq

structure Surface where
  bound : Option Holder
  history : List (Option Holder)
  clears : Nat
  deriving Repr, DecidableEq

namespace Surface

def empty : Surface :=
  ⟨none, [], 0⟩

def binds (s : Surface) : Nat :=
  s.history.length

def busyText : String :=
  "Surface already holds a visualization; release it first"

def bind (holder : Option Holder) (s : Surface) : Except Failure Surface :=
  match s.bound with
  | some _ => .error (.complaint (.busy busyText))
  | none => .ok { s with bound := holder, history := s.history ++ [holder] }

def free (s : Surface) : Surface :=
  { s with bound := none }

def cleared (s : Surface) : Surface :=
  { s with clears := s.clears + 1 }

end Surface

structure Registry where
  created : Nat
  destroyed : List Nat
  deriving Repr, DecidableEq

def Registry.destroy (id : Nat) (r : Registry) : Registry :=
  { r with destroyed := id :: r.destroyed }

end DependencyAtlas.Stage
