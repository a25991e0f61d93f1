import InlineCompletion.Proofs.Ghost.Escalation

/-!
The fetches of a run. A fetch is asked for while an event is handled, in the present generation and
only when it is due; so no generation gets two of them, and the generations that get one increase.
Each is what the suggestion source is asked, and the source is asked for nothing else.
-/
namespace InlineCompletion.Ghost
variable {σ : Type} {h : Handled σ} {log : List (Handled σ)}

namespace Handled

/-- The fetch that was asked for while an event was handled. -/
def fetch? (h : Handled σ) : Option FetchRequest :=
  match h.event with
  | .timerFired generation => (h.loop.session.timerFired generation).1
  | .fetchResolved ticket result => (h.loop.session.fetchResolved ticket result).2.drainPending.1
  | _ => none

/-- A fetch is asked for in the present generation, and only when it is due. -/
theorem fetch?_due {request : FetchRequest} (handed : h.fetch? = some request) :
    request.ticket.generation = h.loop.session.generation ∧
      ∃ s, h.Due h.loop.session.generation s := by
  obtain ⟨l, event⟩ := h
  cases event with
  | timerFired generation =>
    obtain ⟨current, free⟩ := Session.timerFired_due handed
    dsimp only at current free
    subst current
    obtain ⟨view, -, ticket, -⟩ := Session.timerFired_request handed
    exact ⟨congrArg Ticket.generation ticket, _, .fired rfl free⟩
  | fetchResolved ticket result =>
    have current := l.session.fetchResolved_generation ticket result
    obtain ⟨free, parked⟩ := Session.drainPending_due handed
    obtain ⟨view, -, ticket, -⟩ := Session.drainPending_request handed
    rw [current] at parked ticket
    exact ⟨congrArg Ticket.generation ticket, _, .drained rfl free parked⟩
  | _ => cases handed

theorem fetch?_eq_none
    (idle : h.event.ticket? = none ∧ h.event.firing? ≠ some h.loop.session.generation) :
    h.fetch? = none := by
  rw [Option.eq_none_iff_forall_not_mem]
  intro request handed
  obtain ⟨-, s, due⟩ := fetch?_due handed
  exact due.cause.elim (· idle.1) idle.2

theorem fetch?_of_movesOn (moved : h.movesOn = true) : h.fetch? = none := by
  obtain ⟨l, event⟩ := h
  cases event with
  | timerFired | fetchResolved => cases moved
  | _ => rfl

theorem fetch?_of_isEdit (edit : h.event.isEdit = true) : h.fetch? = none :=
  fetch?_of_movesOn (by rw [movesOn, edit, Bool.true_or])

end Handled

/-- What the suggestion source was asked, with the time of each. -/
def asked (reports : List (Nat × Report)) : List (Nat × Context) :=
  reports.filterMap fun (time, report) =>
    match report with
    | .fetch context => some (time, context)
    | .sink _ | .generate _ | .answer _ _ => none

/-- The generations whose fetches were asked for. -/
def issued (log : List (Handled σ)) : List Nat :=
  log.filterMap fun h => h.fetch?.map fun request => request.ticket.generation

theorem issued_append (log : List (Handled σ)) (h : Handled σ) :
    issued (log ++ [h]) =
      issued log ++ (h.fetch?.map fun request => request.ticket.generation).toList := by
  cases handed : h.fetch? <;> simp [issued, handed]

theorem issued_append_none (log : List (Handled σ)) (none : h.fetch? = none) :
    issued (log ++ [h]) = issued log := by
  simp [issued_append, none]

/-! ### A generation gets one fetch -/

/-- The present generation does not wait for its fetch to start. -/
def Control.NothingDue (c : Control) : Prop :=
  c.debouncing = false ∧ c.pending = none

namespace Coherent

/-- A generation that does not wait gets no fetch. -/
theorem idle (coherent : Coherent h.loop.session.control (h.event :: h.loop.ahead))
    (nothing : h.loop.session.control.NothingDue) : h.fetch? = none := by
  rw [Option.eq_none_iff_forall_not_mem]
  intro request handed
  obtain ⟨-, s, due⟩ := Handled.fetch?_due handed
  rcases (coherent.due due).2.1 with debouncing | parked
  · exact absurd debouncing (Bool.eq_false_iff.mp nothing.1)
  · exact parked nothing.2

/-- A generation that gets a fetch does not wait for one any more, and a new generation gets none
yet. -/
theorem turn_starts {next : Control} {later : List Event}
    (coherent : Coherent h.loop.session.control (h.event :: h.loop.ahead))
    (turn : Turn h next later) :
    (next.generation = h.loop.session.generation + 1 ∧ h.fetch? = none) ∨
      (next.generation = h.loop.session.generation ∧
        (h.loop.session.control.NothingDue ∨ h.fetch? ≠ none → next.NothingDue)) := by
  cases turn with
  | restart edit split timers => exact .inl ⟨rfl, Handled.fetch?_of_isEdit edit⟩
  | accept accepted onOffer =>
    exact .inl ⟨rfl, Handled.fetch?_of_movesOn (by rw [Handled.movesOn, accepted, Bool.or_true])⟩
  | park fired flying =>
    refine .inr ⟨rfl, ?_⟩
    rintro (nothing | handed)
    · have debouncing := (coherent.firing (congrArg Event.firing? fired)).1
      exact absurd debouncing (Bool.eq_false_iff.mp nothing.1)
    · obtain ⟨request, handed⟩ := Option.ne_none_iff_exists'.mp handed
      simp only [Handled.fetch?, fired] at handed
      exact absurd (Session.timerFired_due handed).2 flying
  | launch due inReach landed current more => exact .inr ⟨rfl, fun _ => ⟨rfl, rfl⟩⟩
  | block due outOfReach landed => exact .inr ⟨rfl, fun _ => ⟨rfl, rfl⟩⟩
  | land resolved flying stale unparked =>
    refine .inr ⟨rfl, ?_⟩
    rintro (nothing | handed)
    · exact nothing
    · obtain ⟨request, handed⟩ := Option.ne_none_iff_exists'.mp handed
      simp only [Handled.fetch?, resolved] at handed
      have parked := (Session.drainPending_due handed).2
      rw [Session.fetchResolved_pending, unparked] at parked
      cases parked
  | apply resolved flying current => exact .inr ⟨rfl, fun _ => coherent.rested flying current⟩
  | ask asked current onOffer more =>
    have none : h.fetch? = none := by rw [Handled.fetch?, asked]
    exact .inr ⟨rfl, fun either => either.resolve_right (· none)⟩
  | quiet noEdit refused noLanding noFiring =>
    have none := Handled.fetch?_eq_none ⟨noLanding, noFiring⟩
    exact .inr ⟨rfl, fun either => either.resolve_right (· none)⟩

end Coherent

/-- A history in which no generation got two fetches, and what its session waits for. -/
structure Issued (log : List (Handled σ)) (c : Control) : Prop where
  increasing : (issued log).Pairwise (· < ·)
  past : ∀ generation ∈ issued log, generation ≤ c.generation
  rests : c.generation ∈ issued log → c.NothingDue

theorem Issued.turn {next : Control} {later : List Event}
    (issues : Issued log h.loop.session.control)
    (coherent : Coherent h.loop.session.control (h.event :: h.loop.ahead))
    (turn : Turn h next later) : Issued (log ++ [h]) next := by
  rcases coherent.turn_starts turn with ⟨renewed, none⟩ | ⟨same, starts⟩
  · have older : ∀ generation ∈ issued log, generation < next.generation := by
      intro generation member
      have := issues.past generation member
      simp only [Session.control] at this
      omega
    rw [← issued_append_none log none] at older
    constructor
    case increasing => exact issued_append_none log none ▸ issues.increasing
    case past => exact fun generation member => Nat.le_of_lt (older generation member)
    case rests => exact fun member => absurd (older _ member) (Nat.lt_irrefl _)
  · cases handed : h.fetch? with
    | none =>
      constructor
      case increasing => exact issued_append_none log handed ▸ issues.increasing
      case past => exact issued_append_none log handed ▸ same ▸ issues.past
      case rests =>
        rw [issued_append_none log handed, same]
        exact fun member => starts (.inl (issues.rests member))
    | some request =>
      have own := (Handled.fetch?_due handed).1
      have more : issued (log ++ [h]) = issued log ++ [h.loop.session.generation] := by
        simp [issued_append, handed, own]
      have older : ∀ generation ∈ issued log, generation < h.loop.session.generation := by
        intro generation member
        refine Nat.lt_of_le_of_ne (issues.past generation member) ?_
        rintro rfl
        cases (coherent.idle (issues.rests member)).symm.trans handed
      constructor
      case increasing =>
        rw [more, List.pairwise_append]
        refine ⟨issues.increasing, List.pairwise_singleton _ _, ?_⟩
        intro generation member other last
        exact List.mem_singleton.mp last ▸ older generation member
      case past =>
        rw [more, same, List.forall_mem_append, List.forall_mem_singleton]
        exact ⟨issues.past, Nat.le_refl _⟩
      case rests => exact fun _ => starts (.inr (by simp [handed]))

namespace EventLoop
variable {world : Collaborators} {sink : Sink σ} {config : Config} {l : EventLoop σ}

/-- No generation gets two fetches, and none gets one after a newer generation got one. -/
theorem Run.issued_increasing (run : Run world sink config log l) :
    (issued log).Pairwise (· < ·) := by
  induction run with
  | start => exact .nil
  | arrive before arrival ih => exact ih
  | abandon before ih => exact ih
  | @handle log l event rest before queued ih =>
    rcases before.turn_or_stop queued with rfl | ⟨-, going, -⟩
    · rwa [issued_append_none log rfl]
    · refine ((before.handle queued).turns Issued ?_ ?_ going).increasing
      · constructor <;> simp [issued]
      · exact fun log h next later coherent issues turn => issues.turn coherent turn

/-! ### What the source was asked -/

theorem asked_append (first rest : List (Nat × Report)) :
    asked (first ++ rest) = asked first ++ asked rest :=
  List.filterMap_append

theorem asked_withSession (l : EventLoop σ) (s : Session σ) :
    asked (l.withSession s).reports = asked l.reports := by
  have none (calls : List SinkCall) :
      asked (calls.map fun call => (l.clock, .sink call)) = [] := by simp [asked]
  rw [withSession, asked_append, none, List.append_nil]

theorem asked_answer (l : EventLoop σ) (caller : Caller) (answer : Answer) :
    asked (l.report (.answer caller answer)).reports = asked l.reports := by
  simp [asked, report]

theorem asked_spawnFetch (world : Collaborators) (request : Option FetchRequest)
    (l : EventLoop σ) :
    asked (l.spawnFetch world request).reports =
      asked l.reports ++ (request.map fun request => (l.clock, request.context)).toList := by
  cases request <;> simp [asked, spawnFetch, report]

/-- The suggestion source is asked for the fetch that an event starts, and for nothing else. -/
theorem asked_handle (world : Collaborators) (event : Event) (l : EventLoop σ) :
    asked (l.handle world event).reports = asked l.reports ++
      ((Handled.fetch? ⟨l, event⟩).map fun request => (l.clock, request.context)).toList := by
  cases event with
  | timerFired generation =>
    rw [← asked_withSession l (l.session.timerFired generation).2]
    exact asked_spawnFetch world _ _
  | fetchResolved ticket result =>
    rw [← asked_withSession l (l.session.fetchResolved ticket result).2.drainPending.2]
    exact asked_spawnFetch world _ _
  | escalate caller =>
    rw [Handled.fetch?, Option.map_none, Option.toList_none, List.append_nil]
    rcases Session.beginEscalation_cases l.session with ⟨-, refused⟩ | ⟨text, -, started⟩
    · simp only [handle, react, refused, publish]
      rw [asked_answer, asked_withSession]
    · simp only [handle, react, started, publish]
      simp [asked, spawnGeneration, report, withSession]
  | documentChanged | cursorMoved | shutdown =>
    rw [Handled.fetch?, Option.map_none, Option.toList_none, List.append_nil]
    exact asked_withSession l _
  | cycle caller | accept caller | escalationResolved request result caller =>
    rw [Handled.fetch?, Option.map_none, Option.toList_none, List.append_nil]
    exact (asked_answer _ caller _).trans (asked_withSession l _)

theorem Run.asked_eq (run : Run world sink config log l) :
    asked l.reports = log.filterMap fun h =>
      h.fetch?.map fun request => (h.loop.clock, request.context) := by
  induction run with
  | start => rfl
  | arrive before arrival ih => rw [arrival.reports, ih]
  | @handle log l event rest before queued ih =>
    rw [asked_handle, List.filterMap_append, ← ih, List.filterMap_cons, List.filterMap_nil]
    cases Handled.fetch? ⟨{ l with queue := rest }, event⟩ <;> rfl
  | @abandon log l before ih =>
    rw [← ih]
    unfold EventLoop.abandon
    split
    · exact asked_withSession l _
    · rfl

end EventLoop
end InlineCompletion.Ghost
