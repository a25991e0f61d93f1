import InlineCompletion.Proofs.Ghost.QuietPeriod
import InlineCompletion.Proofs.Ghost.Timeline

/-!
The timer of an event loop and the debounce timer. The loop keeps its timer among all that falls due
and sends its event through the queue; a debounce timer stands alone. On a timeline both arm and fire
alike: a debounce timer that is armed by nothing but the edits and moves of a history has the timer of
the loop, and it has fired when the loop's timers did.
-/
namespace InlineCompletion.Ghost
variable {σ : Type}

namespace Debounce
variable {d : Debounce} {timer : Timer} {time later generation : Nat}

theorem runUntil_of_early (early : ∀ timer, d.timer = some timer → time < timer.due) :
    d.runUntil time = { d with clock := time } := by
  unfold runUntil
  split
  next timer armed => rw [if_neg (Nat.not_le.mpr (early timer armed))]
  next => rfl

theorem runUntil_of_due (armed : d.timer = some timer) (due : timer.due ≤ time) :
    d.runUntil time =
      { d with
        clock := time
        timer := none
        fired := d.fired ++ [(timer.due, timer.generation)] } := by
  simp only [runUntil, armed, if_pos due]

/-- What is armed at a time has not been due by then. -/
theorem lt_due_of_runUntil (armed : (d.runUntil time).timer = some timer) : time < timer.due := by
  unfold runUntil at armed
  split at armed
  next other same =>
    split at armed
    next => cases armed
    next early =>
      obtain rfl := Option.some.inj (same.symm.trans armed)
      exact Nat.not_le.mp early
  next same => cases same.symm.trans armed

/-- Two stretches of time are one. -/
theorem runUntil_runUntil (onward : time ≤ later) :
    (d.runUntil time).runUntil later = d.runUntil later := by
  cases armed : d.timer with
  | none => simp only [runUntil, armed]
  | some timer =>
    by_cases due : timer.due ≤ time
    · rw [runUntil_of_due armed due, runUntil_of_due armed (Nat.le_trans due onward)]
      rfl
    · have waits : d.runUntil time = { d with clock := time } := by
        simp only [runUntil, armed, if_neg due]
      rw [waits]
      rfl

/-- With a delay a timer that is armed does not fire at once. -/
theorem schedule_runUntil (waits : 0 < d.delay) :
    (d.schedule generation).runUntil d.clock =
      { d with timer := some ⟨generation, d.clock + d.delay⟩ } := by
  rw [schedule, runUntil_runUntil (Nat.le_refl _), runUntil_of_early]
  intro timer armed
  cases armed
  exact Nat.lt_add_of_pos_right waits

/-- An edit or a move arms a debounce timer, at its own time; nothing else that is handled does. -/
def follow (d : Debounce) (h : Handled σ) : Debounce :=
  match h.starts? with
  | some generation => (d.runUntil h.loop.clock).schedule generation
  | none => d

end Debounce

theorem Event.firing?_of_isCommand {event : Event} (ofHost : event.isCommand = true) :
    event.firing? = none := by
  cases event with
  | timerFired => cases ofHost
  | _ => rfl

namespace EventLoop
variable {world : Collaborators} {sink : Sink σ} {config : Config} {log : List (Handled σ)}
  {l next : EventLoop σ} {event : Event} {time due : Nat} {task : Due}

/-- The timers that have fired, with the time of each: those whose event was handled, and those whose
event waits in the queue. -/
def firings (log : List (Handled σ)) (l : EventLoop σ) : List (Nat × Nat) :=
  (log.filterMap fun h => h.event.firing?.map fun generation => (h.loop.clock, generation)) ++
    (l.queue.filterMap Event.firing?).map fun generation => (l.clock, generation)

/-- The timers of a loop, as a debounce timer has them. -/
def debounce (delay : Nat) (log : List (Handled σ)) (l : EventLoop σ) : Debounce :=
  ⟨delay, l.clock, l.timer, firings log l⟩

/-- What has fired does not depend on the clock once it was handled. -/
theorem firings_of_settled (settled : l.queue = []) (still : next.queue = []) :
    firings log next = firings log l := by
  unfold firings
  rw [settled, still]
  rfl

theorem firings_append (log : List (Handled σ)) (queue : next.queue = l.queue ++ [event])
    (clock : next.clock = l.clock) :
    firings log next =
      firings log l ++ event.firing?.toList.map fun generation => (l.clock, generation) := by
  unfold firings
  rw [queue, clock, List.filterMap_append, List.map_append, List.append_assoc]
  cases event <;> rfl

/-- Handling an event leaves what has fired as it is. -/
theorem firings_handle (log : List (Handled σ)) {rest : List Event}
    (queued : l.queue = event :: rest) (queue : next.queue = rest) (clock : next.clock = l.clock) :
    firings (log ++ [⟨{ l with queue := rest }, event⟩]) next = firings log l := by
  unfold firings
  rw [queue, clock, queued, List.filterMap_append, List.append_assoc]
  cases event <;> rfl

theorem debounce_send (running : l.running = true) (delay : Nat) :
    debounce delay log (l.send event) =
      { debounce delay log l with
        fired := firings log l ++ event.firing?.toList.map fun generation =>
          (l.clock, generation) } := by
  have queued : (l.send event).queue = l.queue ++ [event] := by rw [send, if_pos running]
  obtain ⟨_, sent⟩ := send_frame l event
  have fired := firings_append log queued (by rw [sent])
  rw [debounce, fired, sent]
  rfl

theorem debounce_quiet (running : l.running = true) (quiet : event.firing? = none) (delay : Nat) :
    debounce delay log (l.send event) = debounce delay log l := by
  rw [debounce_send running, quiet]
  exact congrArg (Debounce.mk _ _ _) (List.append_nil _)

/-- A loop that waits with an empty queue waits as a debounce timer does. -/
theorem debounce_wait (settled : l.queue = [])
    (early : ∀ timer, l.timer = some timer → time < timer.due) (delay : Nat) :
    debounce delay log { l with clock := time } = (debounce delay log l).runUntil time := by
  have fired : firings log { l with clock := time } = firings log l :=
    firings_of_settled settled settled
  rw [Debounce.runUntil_of_early early, debounce, fired]
  rfl

/-- A timer that falls due at its own time fires. -/
theorem debounce_fire {timer : Timer} (running : l.running = true) (settled : l.queue = [])
    (armed : l.timer = some timer) (delay : Nat) :
    debounce delay log { l with clock := timer.due }.fireTimer =
      (debounce delay log l).runUntil timer.due := by
  have fired : firings log { l with clock := timer.due, timer := none } = firings log l :=
    firings_of_settled settled settled
  simp only [fireTimer, armed]
  rw [debounce_send (l := { l with clock := timer.due, timer := none }) running, fired,
    Debounce.runUntil_of_due armed (Nat.le_refl _)]
  rfl

/-- What else comes back leaves the timers as they are. -/
theorem debounce_complete (running : l.running = true) (other : task ≠ .timer) (delay : Nat) :
    debounce delay log (l.complete task) = debounce delay log l := by
  cases task with
  | timer => exact absurd rfl other
  | fetch place =>
    rw [complete, finishFetch]
    split
    next task found =>
      exact debounce_quiet (l := { l with fetches := l.fetches.eraseIdx place }) running rfl delay
    next => rfl
  | generation place =>
    rw [complete, finishGeneration]
    split
    next task found =>
      exact debounce_quiet (l := { l with generations := l.generations.eraseIdx place }) running rfl
        delay
    next => rfl

/-- What falls due in a loop does so in a debounce timer, or lies before its timer. -/
theorem debounce_fall (running : l.running = true) (settled : l.queue = [])
    (first : earliest l.dues = some (due, task)) (delay : Nat)
    (early : ∀ timer, l.timer = some timer → l.clock < timer.due) :
    debounce delay log ({ l with clock := max l.clock due }.complete task) =
      (debounce delay log l).runUntil (max l.clock due) := by
  by_cases fires : task = .timer
  · subst fires
    obtain ⟨timer, armed, rfl⟩ := timer_of_dues (earliest_mem first)
    rw [Nat.max_eq_right (Nat.le_of_lt (early timer armed))]
    exact debounce_fire running settled armed delay
  · rw [debounce_complete (l := { l with clock := max l.clock due }) running fires]
    refine debounce_wait settled (fun timer armed => ?_) delay
    obtain ⟨_, _, found, place⟩ := earliest_of_armed armed
    obtain ⟨rfl, rfl⟩ := Prod.mk.inj (Option.some.inj (first.symm.trans found))
    refine Nat.max_lt.mpr ⟨early timer armed, place.resolve_left ?_⟩
    exact fun same => fires (congrArg Prod.snd same)

/-- With a delay, a debounce timer that follows the edits and moves of a timeline has the timer of its
loop, and has fired when the loop's timers did. -/
theorem OnTime.debounce_eq (onTime : OnTime world sink config log l) (running : l.running = true)
    (waits : 0 < config.debounceMs) :
    (log.foldl Debounce.follow (.start config.debounceMs)).runUntil l.clock =
      debounce config.debounceMs log l := by
  induction onTime with
  | start => rfl
  | @command log l before event ofHost ih =>
    have going := (Arrival.command l event ofHost).running.symm.trans running
    obtain ⟨_, sent⟩ := send_frame l event
    rw [debounce_quiet going (Event.firing?_of_isCommand ofHost), ← ih going, sent]
  | host before change ih => exact ih running
  | @handle log l event rest before queued ih =>
    have goesOn : event ≠ .shutdown := by
      rintro rfl
      cases running
    have earlier := ih (before.timed.run.running_of_queue queued)
    obtain ⟨clock, queue, timer⟩ := handle_going world { l with queue := rest } goesOn
    have fired := firings_handle log queued queue clock
    rw [debounce, fired, clock, timer, before.timed.run.config_eq, List.foldl_concat,
      Debounce.follow, Handled.starts?]
    by_cases edit : event.isEdit = true
    · simp only [edit, if_true]
      rw [earlier]
      exact Debounce.schedule_runUntil waits
    · simp only [edit]
      exact earlier
  | @fall log l due task before settled first ih =>
    have same := (Arrival.complete { l with clock := max l.clock due } task).running
    have going : l.running = true := same.symm.trans running
    have earlier := ih going
    rw [complete_clock, ← Debounce.runUntil_runUntil (Nat.le_max_left l.clock due), earlier]
    refine (debounce_fall going settled first _ fun timer armed => ?_).symm
    exact Debounce.lt_due_of_runUntil ((congrArg Debounce.timer earlier).trans armed)
  | @elapse log l time before onward still ih =>
    have settled := (step?_eq_none_iff.mp still).1
    rw [← Debounce.runUntil_runUntil onward, ih running]
    exact (debounce_wait settled (fun timer armed => lt_due_of_still still armed) _).symm
  | @abandon log l before ih => simp [abandon_running l] at running

/-- A loop that is told to stop while its queue is empty disarms its timer as a debounce timer does
that is cancelled. -/
theorem OnTime.debounce_stop (onTime : OnTime world sink config log l) (running : l.running = true)
    (waits : 0 < config.debounceMs) (settled : l.queue = []) :
    ((log.foldl Debounce.follow (.start config.debounceMs)).runUntil l.clock).cancel =
      debounce config.debounceMs log l.stop := by
  have fired : firings log l.stop = firings log l := firings_of_settled settled rfl
  rw [onTime.debounce_eq running waits, debounce, debounce, fired]
  rfl

end EventLoop
end InlineCompletion.Ghost
