import InlineCompletion.Ghost.EventLoop

/-!
The event loop on a clock that moves only when it is told to. All that falls due by the new time
happens at its own time, the earliest first, and the queue is empty before anything else falls due.
-/
namespace InlineCompletion.Ghost

/-- Something that falls due. -/
inductive Due where
  | timer
  | fetch (place : Nat)
  | generation (place : Nat)
deriving Repr, DecidableEq

/-- Of two dues the earlier one; at the same time the first. -/
def earlier (first second : Option (Nat × Due)) : Option (Nat × Due) :=
  match first, second with
  | some a, some b => if b.1 < a.1 then some b else some a
  | some a, none => some a
  | none, second => second

/-- The earliest of the times in a list, each with its place. -/
def earliest (dues : List (Nat × Due)) : Option (Nat × Due) :=
  dues.foldl (fun best due => earlier best (some due)) none

namespace EventLoop
variable {σ : Type}

/-- All that runs beside the loop, with the time at which it falls due: the timer, the fetches and
the escalations. -/
def dues (l : EventLoop σ) : List (Nat × Due) :=
  (l.timer.map fun timer => (timer.due, Due.timer)).toList ++
    l.fetches.zipIdx.map (fun task => (task.1.due, .fetch task.2)) ++
    l.generations.zipIdx.map fun task => (task.1.due, .generation task.2)

/-- Something falls due. -/
def complete (due : Due) (l : EventLoop σ) : EventLoop σ :=
  match due with
  | .timer => l.fireTimer
  | .fetch place => l.finishFetch place
  | .generation place => l.finishGeneration place

/-- The next thing that happens up to a time: an event of the queue is handled, or else the earliest
due falls due. -/
def step? (world : Collaborators) (time : Nat) (l : EventLoop σ) : Option (EventLoop σ) :=
  if !l.queue.isEmpty then some (l.handleNext world)
  else
    match earliest l.dues with
    | some (due, task) =>
      if due ≤ time then some ({ l with clock := max l.clock due }.complete task) else none
    | none => none

/-- One step of a timeline: an event is handled, or with none left the earliest due falls due. -/
theorem step?_cases {world : Collaborators} {time : Nat} {l next : EventLoop σ}
    (taken : l.step? world time = some next) :
    (∃ event rest, l.queue = event :: rest ∧
        next = { l with queue := rest }.handle world event) ∨
      ∃ due task, l.queue = [] ∧ earliest l.dues = some (due, task) ∧ due ≤ time ∧
        next = { l with clock := max l.clock due }.complete task := by
  unfold step? at taken
  split at taken
  next busy =>
    cases queued : l.queue with
    | nil => simp [queued] at busy
    | cons event rest =>
      simp only [handleNext, queued] at taken
      exact .inl ⟨event, rest, rfl, (Option.some.inj taken).symm⟩
  next settled =>
    split at taken
    next due task found =>
      split at taken
      next inTime =>
        exact .inr ⟨due, task, by simpa using settled, found, inTime, (Option.some.inj taken).symm⟩
      next => cases taken
    next => cases taken

/-- At most `fuel` steps up to a time, then the clock is set to it. -/
def runSteps (world : Collaborators) (time : Nat) : Nat → EventLoop σ → EventLoop σ
  | 0, l => { l with clock := time }
  | fuel + 1, l =>
    match l.step? world time with
    | some next => runSteps world time fuel next
    | none => { l with clock := time }

/-- A bound on the number of steps without a new command. A command leads to at most five steps: its
own event, the timer, the timer's event, the fetch and the fetch's event. A parked timer leads to
one more fetch. -/
def stepBound (l : EventLoop σ) : Nat :=
  5 * l.queue.length + 4 * l.timer.toList.length + 2 * l.session.pending.toList.length +
    2 * l.fetches.length + 2 * l.generations.length + 1

/-- Everything that happens up to a time. -/
def runUntil (world : Collaborators) (time : Nat) (l : EventLoop σ) : EventLoop σ :=
  l.runSteps world time l.stepBound

/-- Everything that happens at the present time. -/
def settle (world : Collaborators) (l : EventLoop σ) : EventLoop σ :=
  l.runUntil world l.clock

/-- A command of the host, and all that it leads to at once. -/
def command (world : Collaborators) (event : Event) (l : EventLoop σ) : EventLoop σ :=
  (l.send event).settle world

/-- The loop is told to stop, or its host goes away. -/
def shutdown (world : Collaborators) (l : EventLoop σ) : EventLoop σ :=
  l.command world .shutdown

end EventLoop
end InlineCompletion.Ghost
