import InlineCompletion.Ghost.Timeline

/-!
What can happen to the items on offer, to a session and to an event loop, in any order. The items are
replaced, gone through and taken off offer. A session takes each of its calls in every state, also
results that are late, repeated or were never asked for. A loop is less free: its queue is handled in
order, a timer fires only while it is armed, and a fetch or an escalation comes back once; but how
long each of them takes is left open, the host may change its document between any two steps, and it
may drop the loop at any time. All that happens on a clock (`EventLoop.runUntil`) is made of such
steps.
-/
namespace InlineCompletion.Ghost

/-- A change of what is on offer. -/
inductive OffersChange where
  | replace (items : List Item)
  | advance
  | clear

/-- What is on offer after a change. -/
def OffersChange.apply (o : Offers) : OffersChange → Offers
  | .replace items => .ofItems items
  | .advance => o.advance?.2
  | .clear => .none

/-- What is on offer after a list of changes. -/
def Offers.run (o : Offers) (changes : List OffersChange) : Offers :=
  changes.foldl OffersChange.apply o

/-- A call of a session, or a change of its host. -/
inductive SessionCall (σ : Type) where
  | restartDebounce
  | timerFired (generation : Nat)
  | fetchResolved (ticket : Ticket) (result : Except CompletionError (List Candidate))
  | drainPending
  | cycle
  | accept
  | beginEscalation
  | finishEscalation (request : EscalationRequest) (result : Except GhostError String)
  | clear
  | dispose
  /-- The host changes its state on its own. -/
  | host (change : σ → σ)

variable {σ : Type}

/-- The session after a call. -/
def SessionCall.apply (s : Session σ) : SessionCall σ → Session σ
  | .restartDebounce => s.restartDebounce
  | .timerFired generation => (s.timerFired generation).2
  | .fetchResolved ticket result => (s.fetchResolved ticket result).2
  | .drainPending => s.drainPending.2
  | .cycle => s.cycle.2
  | .accept => s.accept.2
  | .beginEscalation => s.beginEscalation.2
  | .finishEscalation request result => (s.finishEscalation request result).2
  | .clear => s.clear
  | .dispose => s.dispose
  | .host change => s.withHost change

/-- The session after a list of calls. -/
def Session.run (s : Session σ) (calls : List (SessionCall σ)) : Session σ :=
  calls.foldl SessionCall.apply s

/-- Whether an event is a command of the host, and not the end of something that ran. -/
def Event.isCommand : Event → Bool
  | .documentChanged | .cursorMoved | .cycle _ | .accept _ | .escalate _ | .shutdown => true
  | .timerFired _ | .fetchResolved _ _ | .escalationResolved _ _ _ => false

namespace EventLoop

/-- Something that happens beside a loop while it handles no event. -/
inductive Arrival : EventLoop σ → EventLoop σ → Prop where
  | command (l : EventLoop σ) (event : Event) (ofHost : event.isCommand = true) :
      Arrival l (l.send event)
  | fire (l : EventLoop σ) : Arrival l l.fireTimer
  | finishFetch (l : EventLoop σ) (place : Nat) : Arrival l (l.finishFetch place)
  | finishGeneration (l : EventLoop σ) (place : Nat) : Arrival l (l.finishGeneration place)
  | tick (l : EventLoop σ) (time : Nat) : Arrival l { l with clock := time }
  | host (l : EventLoop σ) (change : σ → σ) : Arrival l (l.withHost change)

/-- What falls due is such a thing. -/
theorem Arrival.complete (l : EventLoop σ) (due : Due) : Arrival l (l.complete due) := by
  cases due with
  | timer => exact .fire l
  | fetch place => exact .finishFetch l place
  | generation place => exact .finishGeneration l place

/-- One thing that can happen to a loop. -/
inductive Step (world : Collaborators) : EventLoop σ → EventLoop σ → Prop where
  | arrive {l next : EventLoop σ} (arrival : Arrival l next) : Step world l next
  | handle (l : EventLoop σ) : Step world l (l.handleNext world)
  | abandon (l : EventLoop σ) : Step world l l.abandon

/-- The loops that a new loop can become. -/
inductive Reachable (world : Collaborators) (sink : Sink σ) (config : Config) :
    EventLoop σ → Prop where
  | start : Reachable world sink config (.start sink config)
  | step {l next : EventLoop σ} (before : Reachable world sink config l)
      (taken : Step world l next) : Reachable world sink config next

namespace Reachable
variable {world : Collaborators} {sink : Sink σ} {config : Config} {l : EventLoop σ}

theorem step? {time : Nat} {next : EventLoop σ} (reachable : Reachable world sink config l)
    (taken : l.step? world time = some next) : Reachable world sink config next := by
  rcases step?_cases taken with ⟨event, rest, queued, rfl⟩ | ⟨due, task, -, -, -, rfl⟩
  · have handled := reachable.step (.handle l)
    rwa [handleNext, queued] at handled
  · exact (reachable.step (.arrive (.tick l _))).step (.arrive (.complete _ task))

theorem runSteps (time fuel : Nat) (reachable : Reachable world sink config l) :
    Reachable world sink config (l.runSteps world time fuel) := by
  induction fuel generalizing l with
  | zero => exact reachable.step (.arrive (.tick l time))
  | succ fuel ih =>
    unfold EventLoop.runSteps
    split
    next next taken => exact ih (reachable.step? taken)
    next => exact reachable.step (.arrive (.tick l time))

/-- A loop stays reachable while a clock runs. -/
theorem runUntil (time : Nat) (reachable : Reachable world sink config l) :
    Reachable world sink config (l.runUntil world time) :=
  reachable.runSteps time _

/-- A loop stays reachable under a command and all that it leads to. -/
theorem command (event : Event) (ofHost : event.isCommand = true)
    (reachable : Reachable world sink config l) :
    Reachable world sink config (l.command world event) :=
  (reachable.step (.arrive (.command l event ofHost))).runUntil _

end Reachable
end EventLoop
end InlineCompletion.Ghost
