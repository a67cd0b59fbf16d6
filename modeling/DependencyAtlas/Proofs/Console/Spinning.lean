import DependencyAtlas.Console.Spinner
import Mathlib.Data.List.Chain

namespace DependencyAtlas

def Message.lines (m : Message) : List String :=
  match Console.Markup.render m.markup with
  | .ok text => [text ++ "\n"]
  | .error _ => []

theorem Message.lines_eq {m : Message} {text : String} (h : Console.Markup.render m.markup = .ok text) :
    m.lines = [text ++ "\n"] := by
  rw [Message.lines, h]

namespace Console

namespace Event

def isTurn : Event → Bool
  | .start | .stop => true
  | .print _ => false

def lines : Event → List String
  | .print m => m.lines
  | _ => []

end Event

namespace Spinner

def watch (s : Spinner) : List (Notice Bool) → Spinner × List Event
  | [] => (s, [])
  | n :: rest => (((s.see n).1.watch rest).1, (s.see n).2 ++ ((s.see n).1.watch rest).2)

theorem watch_append (s : Spinner) (earlier later : List (Notice Bool)) :
    s.watch (earlier ++ later) =
      (((s.watch earlier).1.watch later).1,
        (s.watch earlier).2 ++ ((s.watch earlier).1.watch later).2) := by
  induction earlier generalizing s with
  | nil => rfl
  | cons n rest ih =>
    simp only [List.cons_append, watch, ih, List.append_assoc]

theorem see_spinner (s : Spinner) (n : Notice Bool) : (s.see n).1 = ⟨n.loading⟩ := by
  obtain ⟨turning⟩ := s
  obtain ⟨loading, message⟩ := n
  cases loading <;> cases turning <;> rfl

theorem watch_turning {s : Spinner} {n : Notice Bool} (h : s.turning = n.loading)
    (notices : List (Notice Bool)) :
    (s.watch notices).1.turning = (notices.getLastD n).loading := by
  induction notices generalizing s n with
  | nil => exact h
  | cons next rest ih =>
    rw [List.getLastD_cons]
    apply ih
    rw [see_spinner]

def turned (s : Spinner) : Event :=
  if s.turning then .start else .stop

theorem see_turns (s : Spinner) (n : Notice Bool) :
    ((s.see n).2.filter Event.isTurn = [] ∧ (s.see n).1 = s) ∨
      ((s.see n).2.filter Event.isTurn = [(s.see n).1.turned] ∧ s.turned ≠ (s.see n).1.turned) := by
  obtain ⟨turning⟩ := s
  obtain ⟨loading, message⟩ := n
  cases loading <;> cases turning <;> cases message <;> simp [see, turn, turned, List.filter_cons, Event.isTurn]

theorem watch_alternates (s : Spinner) (notices : List (Notice Bool)) :
    List.IsChain (· ≠ ·) (s.turned :: (s.watch notices).2.filter Event.isTurn) := by
  induction notices generalizing s with
  | nil => exact List.isChain_singleton _
  | cons n rest ih =>
    rw [watch, List.filter_append]
    rcases see_turns s n with ⟨hturns, hsame⟩ | ⟨hturns, hother⟩
    · rw [hturns, hsame]
      exact ih s
    · rw [hturns]
      exact List.isChain_cons_cons.mpr ⟨hother, ih _⟩

end Spinner

end Console

end DependencyAtlas
