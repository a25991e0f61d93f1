/-!
A timer that fires once input has come to rest. Arming it anew takes the place of what was armed
before, so of a burst only the last call fires. Time is counted in milliseconds and moves only when
it is told to. An event loop keeps its timer among all else that falls due; it arms and fires it like
this one (`EventLoop.OnTime.debounce_eq`).
-/
namespace InlineCompletion.Ghost

/-- An armed timer. -/
structure Timer where
  generation : Nat
  /-- The time at which it fires. -/
  due : Nat
deriving Repr, DecidableEq

/-- A debounce timer on its clock. -/
structure Debounce where
  delay : Nat
  clock : Nat
  timer : Option Timer
  /-- What has fired, with the time of each. -/
  fired : List (Nat × Nat)
deriving Repr, DecidableEq

namespace Debounce

/-- Nothing armed at time zero. -/
def start (delay : Nat) : Debounce :=
  ⟨delay, 0, none, []⟩

/-- Moves the clock. A timer that is due by then fires at its own time. -/
def runUntil (d : Debounce) (time : Nat) : Debounce :=
  match d.timer with
  | some timer =>
    if timer.due ≤ time then
      { d with clock := time, timer := none, fired := d.fired ++ [(timer.due, timer.generation)] }
    else { d with clock := time }
  | none => { d with clock := time }

/-- Arms the timer for a generation in place of what was armed. Without a delay it fires at once. -/
def schedule (d : Debounce) (generation : Nat) : Debounce :=
  { d with timer := some ⟨generation, d.clock + d.delay⟩ }.runUntil d.clock

/-- Disarms the timer. -/
def cancel (d : Debounce) : Debounce :=
  { d with timer := none }

/-- Whether the timer is armed. -/
def isPending (d : Debounce) : Bool :=
  d.timer.isSome

end Debounce
end InlineCompletion.Ghost
