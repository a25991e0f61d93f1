import InlineCompletion.Proofs.Ghost.Timed

/-!
The steps of a timeline. Each step leaves less to do, so a timeline comes to rest before its fuel runs
out, and what happens on it is told without fuel: the events of the queue are handled first, then the
earliest due falls due at its own time, and the clock moves on only when neither is left. Such a run
is a timed run in which nothing is late.
-/
namespace InlineCompletion.Ghost
variable {σ : Type}

/-- How many steps an event leads to at most, its own included. -/
def Event.effort : Event → Nat
  | .documentChanged | .cursorMoved => 5
  | .timerFired _ | .escalate _ => 3
  | _ => 1

theorem Event.effort_le (event : Event) : event.effort ≤ 5 := by
  cases event <;> simp [effort]

/-- How many steps some events lead to at most. -/
def Event.efforts : List Event → Nat
  | [] => 0
  | event :: rest => event.effort + efforts rest

theorem Event.efforts_append (first second : List Event) :
    efforts (first ++ second) = efforts first + efforts second := by
  induction first with
  | nil => exact (Nat.zero_add _).symm
  | cons event rest ih =>
    rw [List.cons_append, efforts, efforts, ih, Nat.add_assoc]

theorem Event.efforts_le (events : List Event) : efforts events ≤ 5 * events.length := by
  induction events with
  | nil => exact Nat.le_refl _
  | cons event rest ih =>
    have first := event.effort_le
    rw [efforts, List.length_cons]
    omega

namespace Session
variable {s : Session σ}

theorem startFetch_pending (s : Session σ) (generation : Nat) :
    (s.startFetch generation).2.pending = s.pending := by
  obtain ⟨_, _, started⟩ := s.startFetch_frame generation
  rw [started]

/-- A timer leads to a fetch or is parked, not both. -/
theorem timerFired_pending (s : Session σ) (generation : Nat) :
    (s.timerFired generation).2.pending.toList.length +
        (s.timerFired generation).1.toList.length ≤ s.pending.toList.length + 1 := by
  by_cases current : generation = s.generation
  · subst current
    cases flying : s.inFlight with
    | none =>
      rw [timerFired_free flying, startFetch_pending]
      exact Nat.add_le_add_left (Option.length_toList_le) _
    | some ticket =>
      rw [timerFired_parked (by rw [flying]; rfl)]
      exact Nat.le_add_left 1 _
  · rw [timerFired_outdated current]
    exact Nat.le_succ _

/-- A fetch that starts late takes the place of what was parked. -/
theorem drainPending_pending (s : Session σ) :
    s.drainPending.2.pending.toList.length + s.drainPending.1.toList.length ≤
      s.pending.toList.length := by
  unfold drainPending
  split
  · exact Nat.le_refl _
  · split
    · exact Nat.le_refl _
    next generation parked =>
      dsimp only
      split
      · exact Nat.zero_le _
      · rw [startFetch_pending, parked]
        exact Nat.add_le_add_left Option.length_toList_le 0

end Session

namespace EventLoop
variable {world : Collaborators} {sink : Sink σ} {config : Config} {log : List (Handled σ)}
  {l next : EventLoop σ} {event : Event} {time fuel : Nat}

/-- How many steps are left at most until a loop comes to rest. -/
def effort (l : EventLoop σ) : Nat :=
  Event.efforts l.queue + 4 * l.timer.toList.length +
    2 * l.session.pending.toList.length + 2 * l.fetches.length + 2 * l.generations.length

/-- The fuel of a timeline is more than it takes. -/
theorem effort_lt_stepBound (l : EventLoop σ) : l.effort < l.stepBound := by
  have queue := Event.efforts_le l.queue
  unfold effort stepBound
  omega

theorem effort_spawnFetch (world : Collaborators) (request : Option FetchRequest)
    (l : EventLoop σ) :
    (l.spawnFetch world request).effort = l.effort + 2 * request.toList.length := by
  cases request with
  | none => rfl
  | some request =>
    simp only [spawnFetch, report, effort, List.length_append, List.length_singleton,
      Option.toList_some]
    omega

/-- Where nothing starts and nothing more is parked, nothing more is left to do. -/
theorem effort_le (queue : next.queue = l.queue) (timer : next.timer = l.timer)
    (fetches : next.fetches = l.fetches) (generations : next.generations = l.generations)
    (pending : next.session.pending.toList.length ≤ l.session.pending.toList.length) :
    next.effort ≤ l.effort := by
  simp only [effort, queue, timer, fetches, generations]
  omega

/-- What an event leads to is less than what is given up for it. -/
theorem handle_effort (world : Collaborators) (event : Event) (l : EventLoop σ) :
    (l.handle world event).effort < event.effort + l.effort := by
  cases event with
  | documentChanged | cursorMoved =>
    simp only [handle, react, publish, schedule, withSession, Session.restartDebounce_eq, effort,
      Event.effort, Option.toList_some, Option.toList_none, List.length_singleton, List.length_nil]
    omega
  | timerFired generation =>
    have pending := l.session.timerFired_pending generation
    have handled := effort_spawnFetch world (l.session.timerFired generation).1
      (l.withSession (l.session.timerFired generation).2)
    change ((l.withSession (l.session.timerFired generation).2).spawnFetch world
      (l.session.timerFired generation).1).effort < _
    rw [handled]
    simp only [withSession, effort, Event.effort]
    omega
  | fetchResolved ticket result =>
    have pending := (l.session.fetchResolved ticket result).2.drainPending_pending
    rw [Session.fetchResolved_pending] at pending
    have handled := effort_spawnFetch world
      (l.session.fetchResolved ticket result).2.drainPending.1
      (l.withSession (l.session.fetchResolved ticket result).2.drainPending.2)
    change ((l.withSession (l.session.fetchResolved ticket result).2.drainPending.2).spawnFetch world
      (l.session.fetchResolved ticket result).2.drainPending.1).effort < _
    rw [handled]
    simp only [withSession, effort, Event.effort]
    omega
  | cycle caller =>
    have same : l.session.cycle.2.pending = l.session.pending :=
      congrArg Control.pending Session.control_cycle
    exact Nat.lt_one_add_iff.mpr (effort_le rfl rfl rfl rfl (Nat.le_of_eq (by rw [← same]; rfl)))
  | accept caller =>
    refine Nat.lt_one_add_iff.mpr (effort_le rfl rfl rfl rfl ?_)
    change l.session.accept.2.pending.toList.length ≤ _
    rcases l.session.control_accept with ⟨-, -, control⟩ | ⟨-, control⟩
    · have dropped : l.session.accept.2.pending = none := congrArg Control.pending control
      rw [dropped]
      exact Nat.zero_le _
    · have same : l.session.accept.2.pending = l.session.pending :=
        congrArg Control.pending control
      rw [same]
  | escalate caller =>
    rcases Session.beginEscalation_cases l.session with ⟨-, refused⟩ | ⟨text, -, asked⟩
    · simp only [handle, react, refused, publish, withSession, report, effort, Event.effort]
      omega
    · simp only [handle, react, asked, publish, withSession, spawnGeneration, report, effort,
        Event.effort, List.length_append, List.length_singleton]
      omega
  | escalationResolved request result caller =>
    have same : (l.session.finishEscalation request result).2.pending = l.session.pending := by
      rcases l.session.control_finishEscalation request result with control | ⟨-, control⟩
      · exact congrArg Control.pending control
      · exact congrArg Control.pending control
    exact Nat.lt_one_add_iff.mpr (effort_le rfl rfl rfl rfl (Nat.le_of_eq (by rw [← same]; rfl)))
  | shutdown =>
    simp only [handle, stop, withSession, Session.dispose, Session.clear_eq, effort, Event.effort,
      Event.efforts, Option.toList_none, List.length_nil]
    omega

theorem send_effort (l : EventLoop σ) (event : Event) :
    (l.send event).effort ≤ l.effort + event.effort := by
  unfold send
  split
  · simp only [effort, Event.efforts_append, Event.efforts]
    omega
  · exact Nat.le_add_right _ _

/-! ### What falls due -/

/-- The earliest of some times is the first of them, or earlier than that. -/
theorem foldl_earlier (best : Nat × Due) (dues : List (Nat × Due)) :
    ∃ found, dues.foldl (fun best due => earlier best (some due)) (some best) = some found ∧
      (found = best ∨ found ∈ dues ∧ found.1 < best.1) := by
  induction dues generalizing best with
  | nil => exact ⟨best, rfl, .inl rfl⟩
  | cons first rest ih =>
    rw [List.foldl_cons, earlier]
    split
    next sooner =>
      obtain ⟨found, folded, place⟩ := ih first
      refine ⟨found, folded, .inr ?_⟩
      rcases place with rfl | ⟨member, before⟩
      · exact ⟨List.mem_cons_self, sooner⟩
      · exact ⟨List.mem_cons_of_mem _ member, Nat.lt_trans before sooner⟩
    next =>
      obtain ⟨found, folded, place⟩ := ih best
      exact ⟨found, folded, place.imp_right (And.imp_left (List.mem_cons_of_mem _))⟩

/-- The earliest of the times in a list is one of them. -/
theorem earliest_mem {dues : List (Nat × Due)} {due : Nat × Due}
    (found : earliest dues = some due) : due ∈ dues := by
  cases dues with
  | nil => cases found
  | cons first rest =>
    obtain ⟨other, folded, place⟩ := foldl_earlier first rest
    obtain rfl := Option.some.inj (found.symm.trans folded)
    rcases place with rfl | ⟨member, -⟩
    · exact List.mem_cons_self
    · exact List.mem_cons_of_mem _ member

theorem timer_of_dues {due : Nat} (member : (due, Due.timer) ∈ l.dues) :
    ∃ timer, l.timer = some timer ∧ timer.due = due := by
  simpa [dues] using member

/-- While a timer is armed something falls due: the timer, or before it something else. -/
theorem earliest_of_armed {timer : Timer} (armed : l.timer = some timer) :
    ∃ due task, earliest l.dues = some (due, task) ∧
      ((due, task) = (timer.due, .timer) ∨ due < timer.due) := by
  unfold dues
  rw [armed]
  obtain ⟨⟨due, task⟩, folded, place⟩ := foldl_earlier (timer.due, .timer) _
  exact ⟨due, task, folded, place.imp_right And.right⟩

theorem fetch_of_dues {due place : Nat} (member : (due, Due.fetch place) ∈ l.dues) :
    place < l.fetches.length := by
  have found : ∃ task, l.fetches[place]? = some task ∧ task.due = due := by
    simpa [dues, List.mem_zipIdx_iff_getElem?] using member
  obtain ⟨task, found, -⟩ := found
  exact (List.getElem?_eq_some_iff.mp found).1

theorem generation_of_dues {due place : Nat} (member : (due, Due.generation place) ∈ l.dues) :
    place < l.generations.length := by
  have found : ∃ task, l.generations[place]? = some task ∧ task.due = due := by
    simpa [dues, List.mem_zipIdx_iff_getElem?] using member
  obtain ⟨task, found, -⟩ := found
  exact (List.getElem?_eq_some_iff.mp found).1

/-- What falls due leaves less to do. -/
theorem complete_effort {due : Nat} {task : Due} (member : (due, task) ∈ l.dues) :
    (l.complete task).effort < l.effort := by
  cases task with
  | timer =>
    obtain ⟨timer, armed, -⟩ := timer_of_dues member
    have sent := send_effort { l with timer := none } (.timerFired timer.generation)
    simp only [complete, fireTimer, armed]
    refine Nat.lt_of_le_of_lt sent ?_
    simp only [effort, Event.effort, armed, Option.toList_some, Option.toList_none,
      List.length_singleton, List.length_nil]
    omega
  | fetch place =>
    have inside := fetch_of_dues member
    have sent := send_effort { l with fetches := l.fetches.eraseIdx place }
      (.fetchResolved l.fetches[place].ticket l.fetches[place].result)
    simp only [complete, finishFetch, List.getElem?_eq_getElem inside]
    refine Nat.lt_of_le_of_lt sent ?_
    simp only [effort, Event.effort, List.length_eraseIdx_of_lt inside]
    omega
  | generation place =>
    have inside := generation_of_dues member
    have sent := send_effort { l with generations := l.generations.eraseIdx place }
      (.escalationResolved l.generations[place].request l.generations[place].result
        l.generations[place].caller)
    simp only [complete, finishGeneration, List.getElem?_eq_getElem inside]
    refine Nat.lt_of_le_of_lt sent ?_
    simp only [effort, Event.effort, List.length_eraseIdx_of_lt inside]
    omega

/-- A loop is at rest if its queue is empty and nothing falls due by then. -/
theorem step?_eq_none_iff : l.step? world time = none ↔
    l.queue = [] ∧ ∀ due task, earliest l.dues = some (due, task) → time < due := by
  unfold step?
  cases queued : l.queue with
  | cons event rest => simp
  | nil =>
    cases found : earliest l.dues with
    | none => simp
    | some first =>
      obtain ⟨due, task⟩ := first
      simp

/-- What is armed at rest falls due later. -/
theorem lt_due_of_still {timer : Timer} (still : l.step? world time = none)
    (armed : l.timer = some timer) : time < timer.due := by
  obtain ⟨due, task, found, place⟩ := earliest_of_armed armed
  have later := (step?_eq_none_iff.mp still).2 due task found
  rcases place with same | before
  · cases same
    exact later
  · exact Nat.lt_trans later before

/-- Every step leaves less to do. -/
theorem step?_effort (taken : l.step? world time = some next) : next.effort < l.effort := by
  rcases step?_cases taken with ⟨event, rest, queued, rfl⟩ | ⟨due, task, settled, found, -, rfl⟩
  · have less := handle_effort world event { l with queue := rest }
    simp only [effort, queued, Event.efforts] at less ⊢
    omega
  · exact complete_effort (l := { l with clock := max l.clock due }) (earliest_mem found)

/-- A timeline comes to rest at its time: nothing is left that could happen by then. -/
theorem runSteps_rests (enough : l.effort < fuel) :
    (l.runSteps world time fuel).clock = time ∧
      (l.runSteps world time fuel).step? world time = none := by
  induction fuel generalizing l with
  | zero => exact absurd enough (Nat.not_lt_zero _)
  | succ fuel ih =>
    unfold runSteps
    split
    next next taken =>
      have less := step?_effort taken
      exact ih (by omega)
    next still => exact ⟨rfl, step?_eq_none_iff.mpr (step?_eq_none_iff (l := l).mp still)⟩

theorem runUntil_rests (world : Collaborators) (time : Nat) (l : EventLoop σ) :
    (l.runUntil world time).clock = time ∧ (l.runUntil world time).step? world time = none :=
  runSteps_rests l.effort_lt_stepBound

/-! ### Runs on time -/

/-- The runs of a new loop on a timeline. Commands may come at any time. The queue is emptied before
anything falls due, what falls due does so at its own time, and the clock moves on to a time only
while nothing is left that could happen by then. -/
inductive OnTime (world : Collaborators) (sink : Sink σ) (config : Config) :
    List (Handled σ) → EventLoop σ → Prop where
  | start : OnTime world sink config [] (.start sink config)
  | command {log : List (Handled σ)} {l : EventLoop σ} (before : OnTime world sink config log l)
      (event : Event) (ofHost : event.isCommand = true) : OnTime world sink config log (l.send event)
  | host {log : List (Handled σ)} {l : EventLoop σ} (before : OnTime world sink config log l)
      (change : σ → σ) : OnTime world sink config log (l.withHost change)
  | handle {log : List (Handled σ)} {l : EventLoop σ} {event : Event} {rest : List Event}
      (before : OnTime world sink config log l) (queued : l.queue = event :: rest) :
      OnTime world sink config (log ++ [⟨{ l with queue := rest }, event⟩])
        ({ l with queue := rest }.handle world event)
  | fall {log : List (Handled σ)} {l : EventLoop σ} {due : Nat} {task : Due}
      (before : OnTime world sink config log l) (settled : l.queue = [])
      (first : earliest l.dues = some (due, task)) :
      OnTime world sink config log ({ l with clock := max l.clock due }.complete task)
  | elapse {log : List (Handled σ)} {l : EventLoop σ} {time : Nat}
      (before : OnTime world sink config log l) (onward : l.clock ≤ time)
      (still : l.step? world time = none) : OnTime world sink config log { l with clock := time }
  | abandon {log : List (Handled σ)} {l : EventLoop σ} (before : OnTime world sink config log l) :
      OnTime world sink config log l.abandon

theorem TimedRun.complete {due : Due} (timed : TimedRun world sink config log l)
    (fallen : ∀ timer, due = .timer → l.timer = some timer → timer.due ≤ l.clock) :
    TimedRun world sink config log (l.complete due) := by
  cases due with
  | timer => exact timed.arrive (.fire fun timer armed => fallen timer rfl armed)
  | fetch place => exact timed.arrive (.finishFetch l place)
  | generation place => exact timed.arrive (.finishGeneration l place)

namespace OnTime

/-- What is on time is timed: a timer falls due at its own time. -/
theorem timed (onTime : OnTime world sink config log l) : TimedRun world sink config log l := by
  induction onTime with
  | start => exact .start
  | @command log l before event ofHost ih => exact ih.arrive (.command l event ofHost)
  | @host log l before change ih => exact ih.arrive (.of_same (.host l change) rfl rfl)
  | handle before queued ih => exact ih.handle queued
  | @fall log l due task before settled first ih =>
    refine (ih.arrive (.tick l _ (Nat.le_max_left _ due))).complete ?_
    rintro timer rfl armed
    obtain ⟨other, same, rfl⟩ := timer_of_dues (earliest_mem first)
    obtain rfl := Option.some.inj (same.symm.trans armed)
    exact Nat.le_max_right _ _
  | @elapse log l time before onward still ih => exact ih.arrive (.tick l time onward)
  | abandon before ih => exact ih.abandon

theorem step? (onTime : OnTime world sink config log l) (onward : l.clock ≤ time)
    (taken : l.step? world time = some next) :
    next.clock ≤ time ∧ ∃ more, OnTime world sink config (log ++ more) next := by
  rcases step?_cases taken with ⟨event, rest, queued, rfl⟩ | ⟨due, task, settled, first, inTime, rfl⟩
  · rw [handle_clock]
    exact ⟨onward, _, onTime.handle queued⟩
  · rw [complete_clock]
    exact ⟨Nat.max_le.mpr ⟨onward, inTime⟩, [], by rw [List.append_nil]; exact onTime.fall settled first⟩

theorem runSteps (onTime : OnTime world sink config log l) (onward : l.clock ≤ time)
    (enough : l.effort < fuel) :
    ∃ more, OnTime world sink config (log ++ more) (l.runSteps world time fuel) := by
  induction fuel generalizing log l with
  | zero => exact absurd enough (Nat.not_lt_zero _)
  | succ fuel ih =>
    unfold EventLoop.runSteps
    split
    next next taken =>
      have less := step?_effort taken
      obtain ⟨later, first, steps⟩ := onTime.step? onward taken
      obtain ⟨rest, runs⟩ := ih steps later (by omega)
      exact ⟨first ++ rest, by rwa [← List.append_assoc]⟩
    next still => exact ⟨[], by rw [List.append_nil]; exact onTime.elapse onward still⟩

/-- What happens on the clock of a timeline is on time. -/
theorem runUntil (onTime : OnTime world sink config log l) (onward : l.clock ≤ time) :
    ∃ more, OnTime world sink config (log ++ more) (l.runUntil world time) :=
  onTime.runSteps onward l.effort_lt_stepBound

/-- A command and all that it leads to at once is on time. -/
theorem settles (onTime : OnTime world sink config log l) (ofHost : event.isCommand = true) :
    ∃ more, OnTime world sink config (log ++ more) (l.command world event) :=
  (onTime.command event ofHost).runUntil (Nat.le_refl _)

end OnTime
end EventLoop
end InlineCompletion.Ghost
