import InlineCompletion.Proofs.Ghost.Calls

/-!
What the course of a session depends on: its generation, the fetches it waits for and whether
anything is on offer, but not the texts. Each call acts on this part of the state alone, and what the
host answers matters only for whether a fetch can start and whether a text is accepted.
-/
namespace InlineCompletion.Ghost

/-- The state of a session without its texts. -/
structure Control where
  generation : Nat
  debouncing : Bool
  inFlight : Option Ticket
  pending : Option Nat
  onOffer : Bool
  /-- Fetches asked for so far. -/
  fetches : Nat

/-- An edit or a move: a new generation, whose timer is armed. -/
def Control.restart (c : Control) : Control :=
  { c with generation := c.generation + 1, debouncing := true, pending := none, onOffer := false }

/-- A new generation without a timer. -/
def Control.reset (c : Control) : Control :=
  { c with generation := c.generation + 1, debouncing := false, pending := none, onOffer := false }

/-- Nothing is waited for any more. -/
def Control.settle (c : Control) : Control :=
  { c with debouncing := false, pending := none, inFlight := none }

/-- A fetch takes off. -/
def Control.launch (c : Control) (ticket : Ticket) : Control :=
  { c with inFlight := some ticket, fetches := c.fetches + 1 }

namespace Session
variable {σ : Type} {s : Session σ}

/-- The state of a session without its texts. -/
def control (s : Session σ) : Control :=
  ⟨s.generation, s.debouncing, s.inFlight, s.pending, !s.offers.items.isEmpty, s.stats.fetches⟩

theorem onOffer_iff : s.control.onOffer = true ↔ s.offers.items ≠ [] := by
  simp [control]

@[simp] theorem control_withHost (change : σ → σ) : (s.withHost change).control = s.control := rfl

@[simp] theorem control_launch (ticket : Ticket) :
    (s.launch ticket).control = s.control.launch ticket := rfl

@[simp] theorem control_render : s.render.control = s.control := by
  obtain ⟨sink, decoration, rendered⟩ := render_frame s
  rw [rendered]
  rfl

@[simp] theorem control_hide : s.hide.control = { s.control with onOffer := false } := by
  rw [hide_eq]
  rfl

@[simp] theorem control_offer (items : List Item) :
    (s.offer items).control = { s.control with onOffer := !items.isEmpty } := by
  rw [offer, control_render]
  rfl

@[simp] theorem control_restartDebounce : s.restartDebounce.control = s.control.restart := by
  rw [restartDebounce_eq]
  rfl

@[simp] theorem control_clear : s.clear.control = s.control.reset := by
  rw [clear_eq]
  rfl

@[simp] theorem control_cycle : s.cycle.2.control = s.control := by
  obtain ⟨sink, decoration, cycled⟩ := cycle_frame s
  rw [cycled]
  simp [control]

theorem control_accept (s : Session σ) :
    (s.accept.1.isOk = true ∧ s.offers.activeText.isSome ∧ s.accept.2.control = s.control.reset) ∨
      (s.accept.1.isOk = false ∧ s.accept.2.control = s.control) := by
  rcases accept_cases s with ⟨error, sink, refused, -⟩ | ⟨text, view, sink, shown, -, -, accepted⟩
  · right
    rw [refused]
    exact ⟨rfl, rfl⟩
  · left
    rw [accepted, shown]
    exact ⟨rfl, rfl, control_clear⟩

/-- An escalation that came back puts something on offer or leaves all as it was. -/
theorem control_finishEscalation (request : EscalationRequest)
    (result : Except GhostError String) :
    (s.finishEscalation request result).2.control = s.control ∨
      request.generation = s.generation ∧
        (s.finishEscalation request result).2.control = { s.control with onOffer := true } := by
  by_cases current : request.generation = s.generation
  · cases result with
    | ok text =>
      right
      rw [finishEscalation_ok text current]
      exact ⟨current, control_offer _⟩
    | error error =>
      left
      rw [finishEscalation_error error current]
      rfl
  · left
    rw [finishEscalation_stale result current]
    rfl

theorem control_land (ticket : Ticket) :
    (s.land ticket).control =
      { s.control with inFlight := if s.inFlight = some ticket then none else s.inFlight } := by
  rw [land_eq]
  rfl

/-- A result of the present generation may leave something on offer, and lands its fetch. -/
theorem control_fetchResolved {ticket : Ticket} (result : Except CompletionError (List Candidate))
    (current : ticket.generation = s.generation) :
    (s.fetchResolved ticket result).1 ≠ .stale ∧
      ∃ onOffer, (s.fetchResolved ticket result).2.control =
        { s.control with
          inFlight := if s.inFlight = some ticket then none else s.inFlight
          onOffer } := by
  rcases fetchResolved_cases result current with
    ⟨candidates, -, -, resolved⟩ | ⟨outcome, nothing, resolved⟩
  · rw [resolved]
    refine ⟨by simp, !(candidates.map Item.candidate).isEmpty, ?_⟩
    rw [control_offer, land_eq]
    rfl
  · rw [resolved]
    refine ⟨?_, false, by rw [control_hide, control_land]⟩
    rcases nothing with rfl | rfl <;> simp

theorem fetchResolved_generation (ticket : Ticket)
    (result : Except CompletionError (List Candidate)) :
    (s.fetchResolved ticket result).2.generation = s.generation := by
  by_cases current : ticket.generation = s.generation
  · obtain ⟨-, onOffer, control⟩ := control_fetchResolved result current
    exact congrArg Control.generation control
  · rw [fetchResolved_stale result current, land_eq]
    rfl

/-- A result leaves parked what is parked. -/
theorem fetchResolved_pending (ticket : Ticket) (result : Except CompletionError (List Candidate)) :
    (s.fetchResolved ticket result).2.pending = s.pending := by
  by_cases current : ticket.generation = s.generation
  · obtain ⟨-, onOffer, control⟩ := control_fetchResolved result current
    exact congrArg Control.pending control
  · rw [fetchResolved_stale result current, land_eq]
    rfl

end Session
end InlineCompletion.Ghost
