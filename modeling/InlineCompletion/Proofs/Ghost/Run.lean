import Mathlib.Data.List.Perm.Basic
import InlineCompletion.Proofs.Ghost.Control

/-!
Runs of an event loop with the history of what they handled. Beside the handling of events little
happens: what is outstanding, be it a timer, a fetch, an escalation or an event of the queue, only
moves on to the queue. So a run is described by its history and by `EventLoop.ahead`, the events that
are still to be handled, in whatever order they will arrive.
-/
namespace InlineCompletion.Ghost

/-- An event that was handled, and the loop that handled it. -/
structure Handled (σ : Type) where
  loop : EventLoop σ
  event : Event

variable {σ : Type}

namespace EventLoop

/-- The runs of a new loop: what was handled so far, the oldest first, and what the loop became. -/
inductive Run (world : Collaborators) (sink : Sink σ) (config : Config) :
    List (Handled σ) → EventLoop σ → Prop where
  | start : Run world sink config [] (.start sink config)
  | arrive {log : List (Handled σ)} {l next : EventLoop σ} (before : Run world sink config log l)
      (arrival : Arrival l next) : Run world sink config log next
  | handle {log : List (Handled σ)} {l : EventLoop σ} {event : Event} {rest : List Event}
      (before : Run world sink config log l) (queued : l.queue = event :: rest) :
      Run world sink config (log ++ [⟨{ l with queue := rest }, event⟩])
        ({ l with queue := rest }.handle world event)
  | abandon {log : List (Handled σ)} {l : EventLoop σ} (before : Run world sink config log l) :
      Run world sink config log l.abandon

variable {world : Collaborators} {sink : Sink σ} {config : Config} {log : List (Handled σ)}
  {l next : EventLoop σ}

/-- The runs reach what can be reached. -/
theorem reachable_iff_run :
    Reachable world sink config l ↔ ∃ log, Run world sink config log l := by
  constructor
  · intro reachable
    induction reachable with
    | start => exact ⟨[], .start⟩
    | step before taken ih =>
      obtain ⟨log, run⟩ := ih
      cases taken with
      | arrive arrival => exact ⟨log, run.arrive arrival⟩
      | abandon => exact ⟨log, run.abandon⟩
      | handle =>
        unfold handleNext
        split
        next event rest queued => exact ⟨_, run.handle queued⟩
        next => exact ⟨log, run⟩
  · rintro ⟨log, run⟩
    induction run with
    | start => exact .start
    | arrive before arrival ih => exact ih.step (.arrive arrival)
    | abandon before ih => exact ih.step (.abandon _)
    | handle before queued ih =>
      have taken := ih.step (.handle _)
      simpa only [handleNext, queued] using taken

/-! ### The session of a run -/

/-- The calls of the session that an event leads to. -/
def sessionCalls (σ : Type) : Event → List (SessionCall σ)
  | .documentChanged | .cursorMoved => [.restartDebounce]
  | .timerFired generation => [.timerFired generation]
  | .fetchResolved ticket result => [.fetchResolved ticket result, .drainPending]
  | .cycle _ => [.cycle]
  | .accept _ => [.accept]
  | .escalate _ => [.beginEscalation]
  | .escalationResolved request result _ => [.finishEscalation request result]
  | .shutdown => [.dispose]

theorem spawnFetch_session (request : Option FetchRequest) (l : EventLoop σ) :
    (l.spawnFetch world request).session = l.session := by
  cases request <;> rfl

theorem handle_session (world : Collaborators) (event : Event) (l : EventLoop σ) :
    (l.handle world event).session = l.session.run (sessionCalls σ event) := by
  cases event with
  | timerFired generation => exact spawnFetch_session _ _
  | fetchResolved ticket result => exact spawnFetch_session _ _
  | escalate caller =>
    rcases Session.beginEscalation_cases l.session with ⟨-, refused⟩ | ⟨text, -, asked⟩
    · simp only [handle, react, refused, sessionCalls, Session.run, List.foldl, SessionCall.apply]
      rfl
    · simp only [handle, react, asked, sessionCalls, Session.run, List.foldl, SessionCall.apply]
      rfl
  | _ => rfl

/-- Most events lead to one call. -/
theorem handle_call (world : Collaborators) (l : EventLoop σ) {event : Event}
    {call : SessionCall σ} (calls : sessionCalls σ event = [call]) :
    (l.handle world event).session = call.apply l.session := by
  rw [handle_session, calls]
  rfl

/-! ### What lies ahead -/

/-- The event that an armed timer will send. -/
def timerAhead (l : EventLoop σ) : List Event :=
  l.timer.toList.map fun timer => .timerFired timer.generation

/-- The events that are still to be handled: what the armed timer, the running fetches and the
running escalations will send, and the queue. -/
def ahead (l : EventLoop σ) : List Event :=
  l.timerAhead ++ (l.fetches.map fun task => .fetchResolved task.ticket task.result) ++
    (l.generations.map fun task => .escalationResolved task.request task.result task.caller) ++
    l.queue

theorem ahead_timer (l : EventLoop σ) :
    l.ahead = l.timerAhead ++ ({ l with timer := none } : EventLoop σ).ahead := by
  simp [ahead, timerAhead]

/-- The oldest event of the queue is one that lies ahead. -/
theorem ahead_queue {event : Event} {rest : List Event} (queued : l.queue = event :: rest) :
    l.ahead.Perm (event :: ({ l with queue := rest } : EventLoop σ).ahead) := by
  unfold ahead
  rw [queued]
  exact List.perm_middle

/-- One more event at the end of the queue is one more that lies ahead. -/
theorem ahead_append (l : EventLoop σ) (event : Event) :
    ({ l with queue := l.queue ++ [event] } : EventLoop σ).ahead = l.ahead ++ [event] := by
  simp [ahead, timerAhead]

theorem ahead_send (running : l.running = true) (event : Event) :
    (l.send event).ahead = l.ahead ++ [event] := by
  rw [send, if_pos running, ahead_append]

private theorem eraseIdx_map_perm {α : Type} (f : α → Event) {items : List α} {place : Nat}
    {item : α} (found : items[place]? = some item) :
    (items.map f).Perm (f item :: (items.eraseIdx place).map f) := by
  obtain ⟨inside, rfl⟩ := List.getElem?_eq_some_iff.mp found
  exact ((List.getElem_cons_eraseIdx_perm inside).map f).symm

theorem ahead_fireTimer (running : l.running = true) : l.fireTimer.ahead.Perm l.ahead := by
  unfold fireTimer
  cases armed : l.timer with
  | none => exact .rfl
  | some timer =>
    dsimp only
    rw [ahead_send (l := { l with timer := none }) running, ahead_timer l, timerAhead, armed]
    exact List.perm_append_singleton _ _

theorem ahead_finishFetch (running : l.running = true) (place : Nat) :
    (l.finishFetch place).ahead.Perm l.ahead := by
  unfold finishFetch
  cases found : l.fetches[place]? with
  | none => exact .rfl
  | some task =>
    dsimp only
    rw [ahead_send (l := { l with fetches := l.fetches.eraseIdx place }) running]
    refine (List.perm_append_singleton _ _).trans ?_
    have moved := eraseIdx_map_perm
      (fun task : FetchTask => Event.fetchResolved task.ticket task.result) found
    have inside := ((moved.append_left l.timerAhead).append_right
      (l.generations.map fun task => .escalationResolved task.request task.result task.caller)
      ).append_right l.queue
    refine List.Perm.trans ?_ inside.symm
    simp only [ahead, timerAhead, List.append_assoc, List.cons_append]
    exact List.perm_middle.symm

theorem ahead_finishGeneration (running : l.running = true) (place : Nat) :
    (l.finishGeneration place).ahead.Perm l.ahead := by
  unfold finishGeneration
  cases found : l.generations[place]? with
  | none => exact .rfl
  | some task =>
    dsimp only
    rw [ahead_send (l := { l with generations := l.generations.eraseIdx place }) running]
    refine (List.perm_append_singleton _ _).trans ?_
    have moved := eraseIdx_map_perm
      (fun task : GenerationTask =>
        Event.escalationResolved task.request task.result task.caller) found
    have inside := (moved.append_left
      (l.timerAhead ++ l.fetches.map fun task => .fetchResolved task.ticket task.result)
      ).append_right l.queue
    refine List.Perm.trans ?_ inside.symm
    simp only [ahead, timerAhead, List.append_assoc, List.cons_append]
    exact List.perm_middle.symm.trans (List.perm_middle.symm.append_left _)

/-! ### What changes beside the handling of events -/

theorem send_frame (l : EventLoop σ) (event : Event) : ∃ queue, l.send event = { l with queue } := by
  unfold send
  split
  · exact ⟨_, rfl⟩
  · exact ⟨l.queue, rfl⟩

theorem fireTimer_frame (l : EventLoop σ) : ∃ timer queue, l.fireTimer = { l with timer, queue } := by
  unfold fireTimer
  split
  · obtain ⟨queue, sent⟩ := send_frame { l with timer := none } _
    exact ⟨_, queue, sent⟩
  · exact ⟨l.timer, l.queue, rfl⟩

theorem finishFetch_frame (l : EventLoop σ) (place : Nat) :
    ∃ fetches queue, l.finishFetch place = { l with fetches, queue } := by
  unfold finishFetch
  split
  · obtain ⟨queue, sent⟩ := send_frame { l with fetches := l.fetches.eraseIdx place } _
    exact ⟨_, queue, sent⟩
  · exact ⟨l.fetches, l.queue, rfl⟩

theorem finishGeneration_frame (l : EventLoop σ) (place : Nat) :
    ∃ generations queue, l.finishGeneration place = { l with generations, queue } := by
  unfold finishGeneration
  split
  · obtain ⟨queue, sent⟩ := send_frame { l with generations := l.generations.eraseIdx place } _
    exact ⟨_, queue, sent⟩
  · exact ⟨l.generations, l.queue, rfl⟩

/-- Between two handled events only the clock, the queue and what runs beside the loop change, and
what the host changes. -/
theorem Arrival.frame (arrival : Arrival l next) :
    ∃ change clock timer queue fetches generations,
      next = { l.withHost change with clock, timer, queue, fetches, generations } := by
  cases arrival with
  | command event =>
    obtain ⟨queue, sent⟩ := send_frame l event
    exact ⟨id, _, _, queue, _, _, sent⟩
  | fire =>
    obtain ⟨timer, queue, fired⟩ := fireTimer_frame l
    exact ⟨id, _, timer, queue, _, _, fired⟩
  | finishFetch place =>
    obtain ⟨fetches, queue, finished⟩ := finishFetch_frame l place
    exact ⟨id, _, _, queue, fetches, _, finished⟩
  | finishGeneration place =>
    obtain ⟨generations, queue, finished⟩ := finishGeneration_frame l place
    exact ⟨id, _, _, queue, _, generations, finished⟩
  | tick time => exact ⟨id, time, _, _, _, _, rfl⟩
  | host change => exact ⟨change, _, _, _, _, _, rfl⟩

/-- The session keeps all but what its host changes. -/
theorem Arrival.session (arrival : Arrival l next) :
    ∃ change, next.session = l.session.withHost change := by
  obtain ⟨change, _, _, _, _, _, rfl⟩ := arrival.frame
  exact ⟨change, rfl⟩

theorem Arrival.running (arrival : Arrival l next) : next.running = l.running := by
  obtain ⟨_, _, _, _, _, _, rfl⟩ := arrival.frame
  rfl

theorem Arrival.published (arrival : Arrival l next) : next.published = l.published := by
  obtain ⟨_, _, _, _, _, _, rfl⟩ := arrival.frame
  rfl

/-- Only what a loop handles can be seen. -/
theorem Arrival.reports (arrival : Arrival l next) : next.reports = l.reports := by
  obtain ⟨_, _, _, _, _, _, rfl⟩ := arrival.frame
  rfl

@[simp] theorem spawnFetch_running (request : Option FetchRequest) (l : EventLoop σ) :
    (l.spawnFetch world request).running = l.running := by
  cases request <;> rfl

theorem react_running (world : Collaborators) (event : Event) (l : EventLoop σ) :
    (l.react world event).running = l.running := by
  cases event with
  | timerFired generation => exact spawnFetch_running _ (l.withSession _)
  | fetchResolved ticket result => exact spawnFetch_running _ (l.withSession _)
  | escalate caller =>
    rcases Session.beginEscalation_cases l.session with ⟨-, refused⟩ | ⟨text, -, asked⟩
    · simp only [react, refused]
      rfl
    · simp only [react, asked]
      rfl
  | _ => rfl

/-- Only when it is told to stop does a loop stop by an event. -/
theorem handle_running_of_ne (world : Collaborators) (l : EventLoop σ) {event : Event}
    (goes : event ≠ .shutdown) : (l.handle world event).running = l.running := by
  cases event with
  | shutdown => exact absurd rfl goes
  | _ => exact react_running world _ l

/-- A loop that runs after an event ran before it. -/
theorem handle_running {event : Event} (going : (l.handle world event).running = true) :
    l.running = true := by
  by_cases stops : event = .shutdown
  · subst stops
    cases going
  · exact (handle_running_of_ne world l stops).symm.trans going

theorem abandon_running (l : EventLoop σ) : l.abandon.running = false := by
  unfold EventLoop.abandon
  cases going : l.running with
  | true => rfl
  | false => exact going

theorem Arrival.queue_of_stopped (stopped : l.running = false) (arrival : Arrival l next) :
    next.queue = l.queue := by
  cases arrival with
  | command event => simp only [send, stopped, Bool.false_eq_true, ↓reduceIte]
  | fire => unfold fireTimer; split <;> simp only [send, stopped, Bool.false_eq_true, ↓reduceIte]
  | finishFetch place =>
    unfold EventLoop.finishFetch
    split <;> simp only [send, stopped, Bool.false_eq_true, ↓reduceIte]
  | finishGeneration place =>
    unfold EventLoop.finishGeneration
    split <;> simp only [send, stopped, Bool.false_eq_true, ↓reduceIte]
  | tick => rfl
  | host => rfl

/-- A loop that has stopped has nothing more to handle. -/
theorem Run.queue_of_stopped (run : Run world sink config log l) (stopped : l.running = false) :
    l.queue = [] := by
  induction run with
  | start => cases stopped
  | arrive before arrival ih =>
    have earlier := arrival.running ▸ stopped
    rw [arrival.queue_of_stopped earlier]
    exact ih earlier
  | @handle log l event rest before queued ih =>
    by_cases stops : event = .shutdown
    · subst stops
      rfl
    · have going := handle_running_of_ne world { l with queue := rest } stops
      rw [ih (going.symm.trans stopped)] at queued
      cases queued
  | abandon before ih =>
    unfold EventLoop.abandon at stopped ⊢
    split
    next going => rfl
    next rested => exact ih (by simpa using rested)

theorem Run.running_of_queue {event : Event} {rest : List Event}
    (run : Run world sink config log l) (queued : l.queue = event :: rest) : l.running = true := by
  by_contra stopped
  rw [run.queue_of_stopped (by simpa using stopped)] at queued
  cases queued

/-- A loop does nothing to its session but call it. -/
theorem Run.session_run (run : Run world sink config log l) :
    ∃ calls, l.session = (Session.start sink config).run calls := by
  induction run with
  | start => exact ⟨[], rfl⟩
  | arrive before arrival ih =>
    obtain ⟨calls, same⟩ := ih
    obtain ⟨change, changed⟩ := arrival.session
    refine ⟨calls ++ [.host change], ?_⟩
    rw [changed, Session.run_append, ← same]
    rfl
  | @handle log l event rest before queued ih =>
    obtain ⟨calls, same⟩ := ih
    refine ⟨calls ++ sessionCalls σ event, ?_⟩
    rw [Session.run_append, ← same]
    exact handle_session world event _
  | @abandon log l before ih =>
    obtain ⟨calls, same⟩ := ih
    unfold EventLoop.abandon
    split
    · refine ⟨calls ++ [.dispose], ?_⟩
      rw [Session.run_append, ← same]
      rfl
    · exact ⟨calls, same⟩

/-- In every loop the text to show is that of the current item. -/
theorem Run.offers_valid (run : Run world sink config log l) : l.session.offers.Valid := by
  obtain ⟨calls, same⟩ := run.session_run
  rw [same]
  exact Session.run_valid sink config calls

/-- Between two handled events nothing that lies ahead gets lost, and nothing comes up but commands
of the host. -/
theorem Arrival.ahead (running : l.running = true) (arrival : Arrival l next) :
    ∃ commands, (∀ event ∈ commands, event.isCommand = true) ∧
      next.ahead.Perm (l.ahead ++ commands) := by
  cases arrival with
  | command event ofHost =>
    exact ⟨[event], by simpa using ofHost, by rw [ahead_send running]⟩
  | fire => exact ⟨[], by simp, by simpa using ahead_fireTimer running⟩
  | finishFetch place => exact ⟨[], by simp, by simpa using ahead_finishFetch running place⟩
  | finishGeneration place =>
    exact ⟨[], by simp, by simpa using ahead_finishGeneration running place⟩
  | tick => exact ⟨[], by simp, by rw [List.append_nil]; rfl⟩
  | host => exact ⟨[], by simp, by rw [List.append_nil]; rfl⟩

end EventLoop
end InlineCompletion.Ghost
