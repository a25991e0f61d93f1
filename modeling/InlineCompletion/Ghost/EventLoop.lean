import InlineCompletion.Ghost.Debounce
import InlineCompletion.Ghost.Session

/-!
The event loop around a session. It owns the session and the debounce timer and handles its events
one by one in the order of their arrival. Fetches and generations run beside it and report back
through the same queue, so the loop never waits for a collaborator. Once stopped it does nothing any
more.
-/
namespace InlineCompletion.Ghost

/-- Names a caller that waits for an answer. -/
abbrev Caller := Nat

/-- What the loop handles. -/
inductive Event where
  | documentChanged
  | cursorMoved
  | timerFired (generation : Nat)
  | fetchResolved (ticket : Ticket) (result : Except CompletionError (List Candidate))
  | cycle (caller : Caller)
  | accept (caller : Caller)
  | escalate (caller : Caller)
  | escalationResolved (request : EscalationRequest) (result : Except GhostError String)
      (caller : Caller)
  | shutdown

/-- The answer to a caller. -/
inductive Answer where
  | cycled (index : Option Nat)
  | accepted (result : Except GhostError String)
  | escalated (result : Except GhostError EscalationOutcome)

/-- Something that can be seen from outside. -/
inductive Report where
  /-- The session asked its host for something. -/
  | sink (call : SinkCall)
  /-- The suggestion source was asked. -/
  | fetch (context : Context)
  /-- The text service was asked. -/
  | generate (prompt : String)
  | answer (caller : Caller) (answer : Answer)

/-- An answer and how long it takes, in milliseconds. -/
structure Delayed (α : Type) where
  delay : Nat
  result : α

/-- The suggestion source and the text service. Each is told the number of the call, from zero
on. -/
structure Collaborators where
  source : Nat → Context → Delayed (Except CompletionError (List Candidate))
  service : Nat → String → Delayed Reply

/-- A fetch that runs beside the loop. -/
structure FetchTask where
  ticket : Ticket
  due : Nat
  result : Except CompletionError (List Candidate)

/-- An escalation that runs beside the loop. -/
structure GenerationTask where
  request : EscalationRequest
  caller : Caller
  due : Nat
  result : Except GhostError String

/-- The loop with everything around it. -/
structure EventLoop (σ : Type) where
  session : Session σ
  /-- The time in milliseconds. -/
  clock : Nat
  timer : Option Timer
  /-- Events that have arrived, the oldest first. -/
  queue : List Event
  /-- The fetches that run, in the order of their start. -/
  fetches : List FetchTask
  /-- The escalations that run, in the order of their start. -/
  generations : List GenerationTask
  /-- Number of calls of the suggestion source. -/
  sourceCalls : Nat
  /-- Number of calls of the text service. -/
  serviceCalls : Nat
  /-- The view that was published last. -/
  published : Snapshot
  running : Bool
  /-- What could be seen so far, with the time of each. -/
  reports : List (Nat × Report)

namespace EventLoop
variable {σ : Type}

/-- A loop at time zero. -/
def start (sink : Sink σ) (config : Config) : EventLoop σ where
  session := .start sink config
  clock := 0
  timer := none
  queue := []
  fetches := []
  generations := []
  sourceCalls := 0
  serviceCalls := 0
  published := .initial
  running := true
  reports := []

/-- One more report, at the present time. -/
def report (l : EventLoop σ) (report : Report) : EventLoop σ :=
  { l with reports := l.reports ++ [(l.clock, report)] }

/-- The session after a step. What it asked its host for meanwhile is reported. -/
def withSession (l : EventLoop σ) (session : Session σ) : EventLoop σ :=
  let calls := session.sink.log.drop l.session.sink.log.length
  { l with session, reports := l.reports ++ calls.map fun call => (l.clock, .sink call) }

/-- The loop after a change that the host of its session makes on its own. -/
def withHost (l : EventLoop σ) (change : σ → σ) : EventLoop σ :=
  { l with session := l.session.withHost change }

/-- Arms the timer for a generation in place of what was armed. -/
def schedule (l : EventLoop σ) (generation : Nat) : EventLoop σ :=
  { l with timer := some ⟨generation, l.clock + l.session.config.debounceMs⟩ }

/-- Starts a fetch, if one is asked for. -/
def spawnFetch (world : Collaborators) (request : Option FetchRequest) (l : EventLoop σ) :
    EventLoop σ :=
  match request with
  | none => l
  | some request =>
    let delayed := world.source l.sourceCalls request.context
    let task : FetchTask := ⟨request.ticket, l.clock + delayed.delay, delayed.result⟩
    { l with fetches := l.fetches ++ [task], sourceCalls := l.sourceCalls + 1 }.report
      (.fetch request.context)

/-- Starts an escalation. -/
def spawnGeneration (world : Collaborators) (request : EscalationRequest) (caller : Caller)
    (l : EventLoop σ) : EventLoop σ :=
  let delayed := world.service l.serviceCalls request.prompt
  let task : GenerationTask :=
    ⟨request, caller, l.clock + delayed.delay, usableText delayed.result⟩
  { l with generations := l.generations ++ [task], serviceCalls := l.serviceCalls + 1 }.report
    (.generate request.prompt)

/-- The end of the loop: the timer is disarmed, what runs beside the loop is given up, and a last
view is published. -/
def stop (l : EventLoop σ) : EventLoop σ :=
  let l := l.withSession l.session.dispose
  { l with
    timer := none
    queue := []
    fetches := []
    generations := []
    running := false
    published := l.session.snapshot }

/-- The handle of the loop is dropped: a loop that runs ends, whatever its queue holds. -/
def abandon (l : EventLoop σ) : EventLoop σ :=
  if l.running then l.stop else l

/-- What an event does. -/
def react (world : Collaborators) (event : Event) (l : EventLoop σ) : EventLoop σ :=
  match event with
  | .documentChanged | .cursorMoved =>
    let l := l.withSession l.session.restartDebounce
    l.schedule l.session.generation
  | .timerFired generation =>
    let (request, session) := l.session.timerFired generation
    (l.withSession session).spawnFetch world request
  | .fetchResolved ticket result =>
    let (_, session) := l.session.fetchResolved ticket result
    let (request, session) := session.drainPending
    (l.withSession session).spawnFetch world request
  | .cycle caller =>
    let (index, session) := l.session.cycle
    (l.withSession session).report (.answer caller (.cycled index))
  | .accept caller =>
    let (result, session) := l.session.accept
    (l.withSession session).report (.answer caller (.accepted result))
  | .escalate caller =>
    match l.session.beginEscalation with
    | (.ok request, session) => (l.withSession session).spawnGeneration world request caller
    | (.error error, session) =>
      (l.withSession session).report (.answer caller (.escalated (.error error)))
  | .escalationResolved request result caller =>
    let (outcome, session) := l.session.finishEscalation request result
    (l.withSession session).report (.answer caller (.escalated outcome))
  | .shutdown => l

/-- Publishes the view of the session. -/
def publish (l : EventLoop σ) : EventLoop σ :=
  { l with published := l.session.snapshot }

/-- Handles an event. -/
def handle (world : Collaborators) (event : Event) (l : EventLoop σ) : EventLoop σ :=
  match event with
  | .shutdown => l.stop
  | event => (l.react world event).publish

/-- One more event in the queue. A loop that is stopped takes none. -/
def send (l : EventLoop σ) (event : Event) : EventLoop σ :=
  if l.running then { l with queue := l.queue ++ [event] } else l

/-- The armed timer fires. -/
def fireTimer (l : EventLoop σ) : EventLoop σ :=
  match l.timer with
  | some timer => { l with timer := none }.send (.timerFired timer.generation)
  | none => l

/-- The running fetch with this place among the others comes back. -/
def finishFetch (place : Nat) (l : EventLoop σ) : EventLoop σ :=
  match l.fetches[place]? with
  | some task =>
    { l with fetches := l.fetches.eraseIdx place }.send (.fetchResolved task.ticket task.result)
  | none => l

/-- The running escalation with this place among the others comes back. -/
def finishGeneration (place : Nat) (l : EventLoop σ) : EventLoop σ :=
  match l.generations[place]? with
  | some task =>
    { l with generations := l.generations.eraseIdx place }.send
      (.escalationResolved task.request task.result task.caller)
  | none => l

/-- Handles the oldest event of the queue. -/
def handleNext (world : Collaborators) (l : EventLoop σ) : EventLoop σ :=
  match l.queue with
  | event :: rest => { l with queue := rest }.handle world event
  | [] => l

end EventLoop
end InlineCompletion.Ghost
