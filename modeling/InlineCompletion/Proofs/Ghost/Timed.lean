import InlineCompletion.Proofs.Ghost.Escalation

/-!
Runs on a clock. What happens beside a loop takes as long as it will, but the clock never goes back
and a timer does not fire before it is due. It may fire later, and its event may wait in the queue
behind others. So the history of such a run is in the order of its times.
-/
namespace InlineCompletion.Ghost
variable {σ : Type}

/-- An event lies behind a loop: time has gone on since it was handled, and so has the generation if
the event moved the session on. -/
structure Handled.Past (h : Handled σ) (l : EventLoop σ) : Prop where
  clock : h.loop.clock ≤ l.clock
  generation : h.loop.session.generation + h.movesOn.toNat ≤ l.session.generation

/-- What lies behind a loop lies behind it later as well. -/
theorem Handled.Past.later {h : Handled σ} {l next : EventLoop σ} (past : h.Past l)
    (clock : l.clock ≤ next.clock) (generation : l.session.generation ≤ next.session.generation) :
    h.Past next :=
  ⟨Nat.le_trans past.clock clock, Nat.le_trans past.generation generation⟩

namespace EventLoop
variable {world : Collaborators} {sink : Sink σ} {config : Config} {log : List (Handled σ)}
  {l next : EventLoop σ} {event : Event} {time : Nat}

/-- Something that happens beside a loop on a clock that does not go back. A timer that is disarmed
by it was due. -/
structure InTime (l next : EventLoop σ) : Prop where
  arrival : Arrival l next
  onward : l.clock ≤ next.clock
  due : ∀ timer, l.timer = some timer → next.timer ≠ some timer → timer.due ≤ l.clock

/-- The runs of a new loop on a clock. -/
inductive TimedRun (world : Collaborators) (sink : Sink σ) (config : Config) :
    List (Handled σ) → EventLoop σ → Prop where
  | start : TimedRun world sink config [] (.start sink config)
  | arrive {log : List (Handled σ)} {l next : EventLoop σ}
      (before : TimedRun world sink config log l) (inTime : InTime l next) :
      TimedRun world sink config log next
  | handle {log : List (Handled σ)} {l : EventLoop σ} {event : Event} {rest : List Event}
      (before : TimedRun world sink config log l) (queued : l.queue = event :: rest) :
      TimedRun world sink config (log ++ [⟨{ l with queue := rest }, event⟩])
        ({ l with queue := rest }.handle world event)
  | abandon {log : List (Handled σ)} {l : EventLoop σ}
      (before : TimedRun world sink config log l) : TimedRun world sink config log l.abandon

theorem TimedRun.run (timed : TimedRun world sink config log l) : Run world sink config log l := by
  induction timed with
  | start => exact .start
  | arrive before inTime ih => exact ih.arrive inTime.arrival
  | handle before queued ih => exact ih.handle queued
  | abandon before ih => exact ih.abandon

/-! ### What keeps the clock and the timer -/

theorem complete_clock (due : Due) (l : EventLoop σ) : (l.complete due).clock = l.clock := by
  cases due with
  | timer =>
    obtain ⟨_, _, fired⟩ := fireTimer_frame l
    rw [complete, fired]
  | fetch place =>
    obtain ⟨_, _, finished⟩ := finishFetch_frame l place
    rw [complete, finished]
  | generation place =>
    obtain ⟨_, _, finished⟩ := finishGeneration_frame l place
    rw [complete, finished]

theorem spawnFetch_frame (world : Collaborators) (request : Option FetchRequest) (l : EventLoop σ) :
    (l.spawnFetch world request).clock = l.clock ∧
      (l.spawnFetch world request).queue = l.queue ∧
      (l.spawnFetch world request).timer = l.timer := by
  cases request <;> exact ⟨rfl, rfl, rfl⟩

/-- Handling an event takes no time and adds nothing to the queue. An edit or a move arms the timer
anew; all else leaves it as it is, unless the loop ends. -/
theorem handle_going (world : Collaborators) (l : EventLoop σ) (goesOn : event ≠ .shutdown) :
    (l.handle world event).clock = l.clock ∧ (l.handle world event).queue = l.queue ∧
      (l.handle world event).timer =
        if event.isEdit then
          some ⟨l.session.generation + 1, l.clock + l.session.config.debounceMs⟩
        else l.timer := by
  cases event with
  | documentChanged | cursorMoved =>
    refine ⟨rfl, rfl, ?_⟩
    simp only [handle, react, publish, schedule, withSession, Session.restartDebounce_eq]
    rfl
  | timerFired generation =>
    exact spawnFetch_frame world (l.session.timerFired generation).1
      (l.withSession (l.session.timerFired generation).2)
  | fetchResolved ticket result =>
    exact spawnFetch_frame world (l.session.fetchResolved ticket result).2.drainPending.1
      (l.withSession (l.session.fetchResolved ticket result).2.drainPending.2)
  | escalate caller =>
    rcases Session.beginEscalation_cases l.session with ⟨-, refused⟩ | ⟨text, -, asked⟩
    · simp only [handle, react, refused]
      exact ⟨rfl, rfl, rfl⟩
    · simp only [handle, react, asked]
      exact ⟨rfl, rfl, rfl⟩
  | shutdown => exact absurd rfl goesOn
  | cycle | accept | escalationResolved => exact ⟨rfl, rfl, rfl⟩

theorem handle_frame (world : Collaborators) (event : Event) (l : EventLoop σ) :
    (l.handle world event).clock = l.clock ∧
      ((l.handle world event).queue = l.queue ∧
          (l.handle world event).timer =
            (if event.isEdit then
              some ⟨l.session.generation + 1, l.clock + l.session.config.debounceMs⟩
            else l.timer) ∨
        (l.handle world event).queue = [] ∧ (l.handle world event).timer = none) := by
  by_cases stops : event = .shutdown
  · subst stops
    exact ⟨rfl, .inr ⟨rfl, rfl⟩⟩
  · obtain ⟨clock, frame⟩ := handle_going world l stops
    exact ⟨clock, .inl frame⟩

theorem handle_clock (world : Collaborators) (event : Event) (l : EventLoop σ) :
    (l.handle world event).clock = l.clock :=
  (handle_frame world event l).1

theorem InTime.of_same (arrival : Arrival l next) (clock : next.clock = l.clock)
    (timer : next.timer = l.timer) : InTime l next where
  arrival := arrival
  onward := Nat.le_of_eq clock.symm
  due _ armed disarmed := absurd (timer.trans armed) disarmed

theorem InTime.command (l : EventLoop σ) (event : Event) (ofHost : event.isCommand = true) :
    InTime l (l.send event) := by
  obtain ⟨_, sent⟩ := send_frame l event
  exact .of_same (.command l event ofHost) (by rw [sent]) (by rw [sent])

theorem InTime.fire (due : ∀ timer, l.timer = some timer → timer.due ≤ l.clock) :
    InTime l l.fireTimer :=
  ⟨.fire l, Nat.le_of_eq (complete_clock .timer l).symm, fun timer armed _ => due timer armed⟩

theorem InTime.finishFetch (l : EventLoop σ) (place : Nat) : InTime l (l.finishFetch place) := by
  obtain ⟨_, _, finished⟩ := finishFetch_frame l place
  exact .of_same (.finishFetch l place) (by rw [finished]) (by rw [finished])

theorem InTime.finishGeneration (l : EventLoop σ) (place : Nat) :
    InTime l (l.finishGeneration place) := by
  obtain ⟨_, _, finished⟩ := finishGeneration_frame l place
  exact .of_same (.finishGeneration l place) (by rw [finished]) (by rw [finished])

theorem InTime.tick (l : EventLoop σ) (time : Nat) (onward : l.clock ≤ time) :
    InTime l { l with clock := time } :=
  ⟨.tick l time, onward, fun _ armed disarmed => absurd armed disarmed⟩

/-! ### The order of a history -/

/-- A loop that has handled an event has it behind it. -/
theorem Run.past_of_handle {rest : List Event} (run : Run world sink config log l)
    (queued : l.queue = event :: rest) :
    Handled.Past ⟨{ l with queue := rest }, event⟩
      ({ l with queue := rest }.handle world event) := by
  refine ⟨Nat.le_of_eq (handle_clock world event _).symm, ?_⟩
  rcases run.turn_or_stop queued with rfl | ⟨coherent, going, -⟩
  · rw [handle_call world _ rfl, SessionCall.apply, Session.dispose, Session.clear_eq]
    exact Nat.le_succ _
  · have generation := handle_generation (l := { l with queue := rest }) run.offers_valid coherent
      going
    exact Nat.le_of_eq generation.symm

theorem abandon_clock (l : EventLoop σ) : l.abandon.clock = l.clock := by
  unfold EventLoop.abandon
  split <;> rfl

theorem abandon_generation (l : EventLoop σ) :
    l.session.generation ≤ l.abandon.session.generation := by
  unfold EventLoop.abandon
  split
  · change l.session.generation ≤ l.session.dispose.generation
    rw [Session.dispose, Session.clear_eq]
    exact Nat.le_succ _
  · exact Nat.le_refl _

/-- A history is in the order of its times and generations, and all of it lies behind the loop. -/
theorem TimedRun.ordered (timed : TimedRun world sink config log l) :
    (log.Pairwise fun first second => first.Past second.loop) ∧ ∀ h ∈ log, h.Past l := by
  induction timed with
  | start => exact ⟨.nil, by simp⟩
  | @arrive log l next before inTime ih =>
    obtain ⟨sorted, past⟩ := ih
    obtain ⟨change, session⟩ := inTime.arrival.session
    have same : l.session.generation ≤ next.session.generation := by
      rw [session]
      exact Nat.le_refl _
    exact ⟨sorted, fun h member => (past h member).later inTime.onward same⟩
  | @handle log l event rest before queued ih =>
    obtain ⟨sorted, past⟩ := ih
    have last := before.run.past_of_handle queued
    refine ⟨List.pairwise_append.mpr ⟨sorted, List.pairwise_singleton _ _, ?_⟩, ?_⟩
    · intro h member other here
      obtain rfl := List.mem_singleton.mp here
      exact (past h member).later (Nat.le_refl _) (Nat.le_refl _)
    · rw [List.forall_mem_append, List.forall_mem_singleton]
      refine ⟨fun h member => (past h member).later last.clock ?_, last⟩
      exact Nat.le_of_add_right_le last.generation
  | @abandon log l before ih =>
    obtain ⟨sorted, past⟩ := ih
    exact ⟨sorted, fun h member =>
      (past h member).later (Nat.le_of_eq (abandon_clock l).symm) (abandon_generation l)⟩

/-- Every event of a history was handled at the end of the run before it. -/
theorem TimedRun.handled {before after : List (Handled σ)} {h : Handled σ}
    (timed : TimedRun world sink config log l) (split : log = before ++ h :: after) :
    ∃ first rest, TimedRun world sink config before first ∧ first.queue = h.event :: rest ∧
      h.loop = { first with queue := rest } := by
  induction timed generalizing after with
  | start => simp at split
  | arrive earlier inTime ih => exact ih split
  | abandon earlier ih => exact ih split
  | @handle log l event rest earlier queued ih =>
    rcases List.eq_nil_or_concat after with rfl | ⟨meanwhile, last, rfl⟩
    · obtain ⟨rfl, same⟩ := List.append_inj' split rfl
      cases same
      exact ⟨l, rest, earlier, queued, rfl⟩
    · rw [List.concat_eq_append, ← List.cons_append, ← List.append_assoc] at split
      exact ih (List.append_inj' split rfl).1

end EventLoop
end InlineCompletion.Ghost
