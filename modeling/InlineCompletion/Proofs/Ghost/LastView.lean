import Mathlib.Logic.Relation
import InlineCompletion.Proofs.Ghost.Escalation

/-!
The end of a loop. Whether it is told to stop or its handle is dropped, it takes everything off offer
and publishes a last view, and whatever happens around it afterwards, neither that view nor the
decorations change any more. A fetch that is in flight then is given up and will never come back, but
the session still notes it; so the last view says idle only if nothing was in flight.
-/
namespace InlineCompletion.Ghost
variable {σ : Type} {world : Collaborators} {sink : Sink σ} {config : Config}
  {l last later next : EventLoop σ}

/-- The view of a session whose use has ended: nothing is on offer, and of all that it waited for only
the fetch in flight is left. -/
theorem Session.snapshot_dispose (s : Session σ) :
    s.dispose.snapshot =
      ⟨if s.inFlight.isSome then .fetching else .idle, none, [], s.stats⟩ := by
  rw [dispose, clear_eq]
  simp [snapshot, phase, Offers.none]

/-- A session without a decoration is given up without a trace. -/
theorem Session.drop_of_none {s : Session σ} (undrawn : s.decoration = none) : s.drop = s := by
  simp only [Session.drop, undraw, undrawn]

namespace EventLoop

/-- A loop ends in one way only, for whatever reason it does. -/
theorem Step.eq_stop (taken : Step world l last) (running : l.running = true)
    (stopped : last.running = false) : last = l.stop := by
  cases taken with
  | arrive arrival => simp [arrival.running, running] at stopped
  | handle =>
    unfold handleNext at stopped ⊢
    cases queued : l.queue with
    | nil => simp [queued, running] at stopped
    | cons event rest =>
      simp only [queued] at stopped
      by_cases stops : event = .shutdown
      · subst stops
        rfl
      · have earlier := (handle_running_of_ne world _ stops).symm.trans stopped
        cases running.symm.trans earlier
  | abandon => simp only [EventLoop.abandon, running, ↓reduceIte]

/-- A loop that has come to rest with this view and with nothing drawn. -/
structure AtRest (last l : EventLoop σ) : Prop where
  stopped : l.running = false
  emptied : l.queue = []
  published : l.published = last.published
  reports : l.reports = last.reports
  log : l.session.sink.log = last.session.sink.log
  undrawn : l.session.decoration = none

/-- Ending a loop brings it to rest. -/
theorem atRest_stop (l : EventLoop σ) : AtRest l.stop l.stop where
  stopped := rfl
  emptied := rfl
  published := rfl
  reports := rfl
  log := rfl
  undrawn := by
    change l.session.dispose.decoration = none
    rw [Session.dispose, Session.clear_eq]

/-- Nothing wakes a loop at rest. -/
theorem AtRest.step (rests : AtRest last l) (taken : Step world l next) : AtRest last next := by
  cases taken with
  | arrive arrival =>
    obtain ⟨change, session⟩ := arrival.session
    constructor
    case stopped => exact arrival.running.trans rests.stopped
    case emptied => exact (arrival.queue_of_stopped rests.stopped).trans rests.emptied
    case published => exact arrival.published.trans rests.published
    case reports => exact arrival.reports.trans rests.reports
    case log => exact session ▸ rests.log
    case undrawn => exact session ▸ rests.undrawn
  | handle =>
    have same : l.handleNext world = l := by simp only [handleNext, rests.emptied]
    rwa [same]
  | abandon =>
    have same : l.abandon = l := by
      simp only [EventLoop.abandon, rests.stopped, Bool.false_eq_true, ↓reduceIte]
    rwa [same]

theorem AtRest.steps (rests : AtRest last l) (taken : Relation.ReflTransGen (Step world) l later) :
    AtRest last later := by
  induction taken with
  | refl => exact rests
  | tail before taken ih => exact ih.step taken

/-- The last view of a loop has nothing on offer, and it says idle exactly if no fetch was running or
waiting to be handled when the loop ended. After it nothing is published and nothing is asked of the
editor any more, not even when the session is given up. -/
theorem Reachable.last_view (reachable : Reachable world sink config l) (running : l.running = true)
    (taken : Step world l last) (stopped : last.running = false) :
    last.published.items = [] ∧ last.published.activeText = none ∧
      (last.published.phase = .idle ↔
        l.fetches.map FetchTask.ticket ++ l.queue.filterMap Event.ticket? = []) ∧
      (last.published.phase ≠ .idle → last.published.phase = .fetching) ∧
      ∀ later, Relation.ReflTransGen (Step world) last later →
        later.published = last.published ∧ later.reports = last.reports ∧
          later.session.drop.sink.log = last.session.sink.log := by
  obtain ⟨log, run⟩ := reachable_iff_run.mp reachable
  obtain rfl := taken.eq_stop running stopped
  have view : l.stop.published = _ := l.session.snapshot_dispose
  rw [view, (run.singleFlight running).outstanding]
  refine ⟨rfl, rfl, ?_, ?_, ?_⟩
  · cases l.session.inFlight <;> simp
  · cases l.session.inFlight <;> simp
  · intro later steps
    have rests := (atRest_stop l).steps steps
    rw [Session.drop_of_none rests.undrawn, ← view]
    exact ⟨rests.published, rests.reports, rests.log⟩

/-- A loop that shows something ends idle. -/
theorem Reachable.last_view_idle :
    ∃ l last : EventLoop MemoryEditor, Reachable talkative blank .standard l ∧ l.running = true ∧
      l.session.offers.activeText = some "int" ∧ Step talkative l last ∧ last.running = false ∧
      last.published.phase = .idle ∧ last.published.items = [] := by
  have edited : Run talkative blank .standard _ _ :=
    (Run.start.arrive (.command _ .documentChanged rfl)).handle rfl
  have fetching := (edited.arrive (.fire _)).handle rfl
  have shown := (fetching.arrive (.finishFetch _ 0)).handle rfl
  have told := shown.arrive (.command _ .shutdown rfl)
  have reachable := reachable_iff_run.mpr ⟨_, told⟩
  obtain ⟨items, -, idle, -⟩ := reachable.last_view rfl (.handle _) rfl
  exact ⟨_, _, reachable, rfl, rfl, .handle _, rfl, idle.mpr rfl, items⟩

/-- A loop that is told to stop while a fetch is in flight says in its last view that it is
fetching. -/
theorem Reachable.last_view_fetching :
    ∃ l last : EventLoop MemoryEditor, Reachable silent blank .standard l ∧ l.running = true ∧
      Step silent l last ∧ last.running = false ∧ last.fetches = [] ∧
      last.published.phase = .fetching := by
  have edited : Run silent blank .standard _ _ :=
    (Run.start.arrive (.command _ .documentChanged rfl)).handle rfl
  have fetching := (edited.arrive (.fire _)).handle rfl
  have told := fetching.arrive (.command _ .shutdown rfl)
  exact ⟨_, _, reachable_iff_run.mpr ⟨_, told⟩, rfl, .handle _, rfl, rfl, rfl⟩

end EventLoop
end InlineCompletion.Ghost
