import DependencyAtlas.Status

namespace DependencyAtlas.Console

structure Spinner where
  turning : Bool
  deriving Repr, DecidableEq

inductive Event where
  | start
  | stop
  | print (m : Message)
  deriving Repr, DecidableEq

namespace Spinner

def turn (s : Spinner) (loading : Bool) : Spinner × List Event :=
  match loading, s.turning with
  | true, false => (⟨true⟩, [.start])
  | false, true => (⟨false⟩, [.stop])
  | _, _ => (s, [])

def see (s : Spinner) (n : Notice Bool) : Spinner × List Event :=
  let (s', events) := s.turn n.loading
  (s', events ++
    match n.message with
    | some m => if n.loading then [] else [.print m]
    | none => [])

def react (s : Spinner) (n : Notice Bool) : Spinner × List Spinner :=
  ((s.see n).1, [])

end Spinner

end DependencyAtlas.Console
