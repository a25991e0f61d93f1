import InlineCompletion.Proofs.Ghost.Control
import InlineCompletion.Proofs.Ghost.Ledger

/-!
Where the texts on offer come from. Results may come back in any order, late, more than once or
never; still everything on offer was asked for after the last edit, move, accepted text or clearing,
and it is drawn where the fetch was asked for. A result of an earlier generation leaves no trace but
in the counts.
-/
namespace InlineCompletion.Ghost
variable {σ : Type}

/-- A call of a session, and the session that was called. -/
structure Called (σ : Type) where
  session : Session σ
  call : SessionCall σ

namespace Called

/-- The fetch that a call hands out. -/
def fetch? (c : Called σ) : Option FetchRequest :=
  match c.call with
  | .timerFired generation => (c.session.timerFired generation).1
  | .drainPending => c.session.drainPending.1
  | _ => none

/-- The escalation that a call hands out. -/
def escalation? (c : Called σ) : Option EscalationRequest :=
  match c.call with
  | .beginEscalation => c.session.beginEscalation.1.toOption
  | _ => none

/-- The ticket of the fetch whose candidates a call puts on offer. -/
def shown? (c : Called σ) : Option Ticket :=
  match c.call with
  | .fetchResolved ticket result =>
    match (c.session.fetchResolved ticket result).1 with
    | .shown _ => some ticket
    | _ => none
  | _ => none

/-- Whether a call is an edit, a move, an accepted text or a clearing. -/
def movesOn (c : Called σ) : Bool :=
  match c.call with
  | .restartDebounce | .clear | .dispose => true
  | .accept => c.session.accept.1.isOk
  | _ => false

/-- A call hands out a fetch with this ticket. -/
def Asks (c : Called σ) (ticket : Ticket) : Prop :=
  ∃ request, c.fetch? = some request ∧ request.ticket = ticket

end Called

/-- A result is one of something that was handed out before. -/
def AskedIn (log : List (Called σ)) : SessionCall σ → Prop
  | .fetchResolved ticket _ => ∃ asked ∈ log, asked.Asks ticket
  | .finishEscalation request _ => ∃ asked ∈ log, asked.escalation? = some request
  | _ => True

/-- The calls that lead from one session to another, the oldest first. -/
inductive History (first : Session σ) : List (Called σ) → Session σ → Prop where
  | start : History first [] first
  | call {log : List (Called σ)} {s : Session σ} (before : History first log s)
      (call : SessionCall σ) (asked : AskedIn log call) :
      History first (log ++ [⟨s, call⟩]) (call.apply s)

/-- The calls since the last edit, move, accepted text or clearing. -/
def current (log : List (Called σ)) : List (Called σ) :=
  log.foldl (fun since c => if c.movesOn then [] else since ++ [c]) []

/-- The ticket of the last fetch whose candidates were put on offer since then. -/
def lastShown (log : List (Called σ)) : Option Ticket :=
  ((current log).filterMap Called.shown?).getLast?

/-- Since then something was asked for and, later, answered. -/
def Answered (log : List (Called σ)) (asks : Called σ → Prop) (answer : SessionCall σ) : Prop :=
  ∃ earlier delivered later, current log = earlier ++ delivered :: later ∧
    delivered.call = answer ∧ ∃ asked ∈ earlier, asks asked

/-- The items are the candidates of a fetch, or the one text of an escalation, that was asked for
and answered since the session last moved on. -/
def Sourced (log : List (Called σ)) (items : List Item) : Prop :=
  (∃ ticket candidates, Answered log (·.Asks ticket) (.fetchResolved ticket (.ok candidates)) ∧
      items = candidates.map .candidate) ∨
    ∃ request text,
      Answered log (·.escalation? = some request) (.finishEscalation request (.ok text)) ∧
        items = [.escalated (Text.trimmed text)]

variable {log : List (Called σ)} {c asked : Called σ} {ticket : Ticket} {s next : Session σ}

theorem current_append (log : List (Called σ)) (c : Called σ) :
    current (log ++ [c]) = if c.movesOn then [] else current log ++ [c] := by
  simp only [current, List.foldl_append, List.foldl_cons, List.foldl_nil]

theorem lastShown_append (stays : c.movesOn = false) :
    lastShown (log ++ [c]) = c.shown?.or (lastShown log) := by
  simp only [lastShown, current_append, stays, Bool.false_eq_true, ↓reduceIte,
    List.filterMap_append]
  cases shown : c.shown? <;> simp [shown]

theorem Answered.append {asks : Called σ → Prop} {answer : SessionCall σ}
    (answered : Answered log asks answer) (stays : c.movesOn = false) :
    Answered (log ++ [c]) asks answer := by
  obtain ⟨earlier, delivered, later, split, same, asked⟩ := answered
  refine ⟨earlier, delivered, later ++ [c], ?_, same, asked⟩
  simp [current_append, stays, split]

theorem Sourced.append {items : List Item} (sourced : Sourced log items)
    (stays : c.movesOn = false) : Sourced (log ++ [c]) items := by
  rcases sourced with ⟨ticket, candidates, answered, same⟩ | ⟨request, text, answered, same⟩
  · exact .inl ⟨ticket, candidates, answered.append stays, same⟩
  · exact .inr ⟨request, text, answered.append stays, same⟩

/-! ### What is handed out -/

theorem Called.fetch_spec {request : FetchRequest} (handed : c.fetch? = some request) :
    request.AtCursorOf c.session := by
  obtain ⟨s, call⟩ := c
  cases call with
  | timerFired generation => exact Session.timerFired_request handed
  | drainPending => exact Session.drainPending_request handed
  | _ => cases handed

/-- An escalation is of the present generation, and of a text that is shown. -/
theorem Called.escalation_spec {request : EscalationRequest}
    (handed : c.escalation? = some request) :
    request.generation = c.session.generation ∧ c.session.offers.activeText ≠ none := by
  obtain ⟨s, call⟩ := c
  cases call with
  | beginEscalation =>
    simp only [escalation?] at handed
    rcases Session.beginEscalation_cases s with ⟨-, refused⟩ | ⟨text, shown, started⟩
    · rw [refused] at handed
      cases handed
    · rw [started] at handed
      cases handed
      exact ⟨rfl, by simp [shown]⟩
  | _ => cases handed

/-! ### What a call does to what is on offer -/

/-- What a call does to the generation, to what is on offer and to its anchor. -/
inductive Effect (c : Called σ) (next : Session σ) : Prop where
  /-- The session moves on, with nothing on offer. -/
  | moveOn (moved : c.movesOn = true) (generation : next.generation = c.session.generation + 1)
      (nothing : next.offers.items = [])
  /-- Nothing new is on offer. -/
  | keep (stays : c.movesOn = false) (generation : next.generation = c.session.generation)
      (items : next.offers.items = c.session.offers.items ∨ next.offers.items = [])
      (anchor : next.anchor = c.session.anchor) (unshown : c.shown? = none)
  /-- The candidates of a fetch are on offer. -/
  | offer {ticket : Ticket} {candidates : List Candidate}
      (resolved : c.call = .fetchResolved ticket (.ok candidates))
      (own : ticket.generation = c.session.generation)
      (generation : next.generation = c.session.generation)
      (items : next.offers.items = candidates.map .candidate) (anchor : next.anchor = ticket.anchor)
      (shown : c.shown? = some ticket)
  /-- The text of an escalation is on offer. -/
  | escalate {request : EscalationRequest} {text : String}
      (resolved : c.call = .finishEscalation request (.ok text))
      (own : request.generation = c.session.generation)
      (generation : next.generation = c.session.generation)
      (items : next.offers.items = [.escalated (Text.trimmed text)])
      (anchor : next.anchor = c.session.anchor)

namespace Session

theorem effect_clear {call : SessionCall σ} (moved : (Called.mk s call).movesOn = true)
    (sink : Sink σ) : Effect ⟨s, call⟩ ({ s with sink } : Session σ).clear := by
  rw [clear_eq]
  exact .moveOn moved rfl rfl

theorem effect_fetchResolved (s : Session σ) (ticket : Ticket)
    (result : Except CompletionError (List Candidate)) :
    Effect ⟨s, .fetchResolved ticket result⟩ (s.fetchResolved ticket result).2 := by
  by_cases current : ticket.generation = s.generation
  · rcases fetchResolved_cases result current with
      ⟨candidates, rfl, -, shown⟩ | ⟨outcome, nothing, hidden⟩
    · obtain ⟨sink, decoration, rendered⟩ :=
        render_frame { s.land ticket with
          anchor := ticket.anchor, offers := .ofItems (candidates.map .candidate) }
      have offered : (s.fetchResolved ticket (.ok candidates)).2 =
          { s.land ticket with
            anchor := ticket.anchor, offers := .ofItems (candidates.map .candidate)
            sink, decoration } := by
        rw [shown]
        exact rendered
      rw [offered, land_eq]
      exact .offer rfl current rfl rfl rfl (by simp [Called.shown?, shown])
    · have unshown : (Called.mk s (.fetchResolved ticket result)).shown? = none := by
        rcases nothing with rfl | rfl <;> simp [Called.shown?, hidden]
      rw [hidden, hide_eq, land_eq]
      exact .keep rfl rfl (.inr rfl) rfl unshown
  · have unshown : (Called.mk s (.fetchResolved ticket result)).shown? = none := by
      simp [Called.shown?, fetchResolved_stale result current]
    rw [fetchResolved_stale result current, land_eq]
    exact .keep rfl rfl (.inl rfl) rfl unshown

theorem effect_finishEscalation (s : Session σ) (request : EscalationRequest)
    (result : Except GhostError String) :
    Effect ⟨s, .finishEscalation request result⟩ (s.finishEscalation request result).2 := by
  by_cases current : request.generation = s.generation
  · cases result with
    | ok text =>
      obtain ⟨sink, decoration, rendered⟩ :=
        render_frame { s with offers := .ofItems [.escalated (Text.trimmed text)] }
      rw [finishEscalation_ok text current, offer, rendered]
      exact .escalate rfl current rfl rfl rfl
    | error error =>
      rw [finishEscalation_error error current]
      exact .keep rfl rfl (.inl rfl) rfl rfl
  · rw [finishEscalation_stale result current]
    exact .keep rfl rfl (.inl rfl) rfl rfl

/-- Every call has one of the four effects. -/
theorem apply_effect (s : Session σ) (call : SessionCall σ) : Effect ⟨s, call⟩ (call.apply s) := by
  cases call with
  | restartDebounce =>
    rw [SessionCall.apply, restartDebounce_eq]
    exact .moveOn rfl rfl rfl
  | clear | dispose => exact effect_clear rfl s.sink
  | timerFired generation =>
    obtain ⟨_, _, _, _, fired⟩ := timerFired_frame s generation
    rw [SessionCall.apply, fired]
    exact .keep rfl rfl (.inl rfl) rfl rfl
  | fetchResolved ticket result => exact effect_fetchResolved s ticket result
  | drainPending =>
    obtain ⟨_, _, _, drained⟩ := drainPending_frame s
    rw [SessionCall.apply, drained]
    exact .keep rfl rfl (.inl rfl) rfl rfl
  | cycle =>
    obtain ⟨_, _, cycled⟩ := cycle_frame s
    rw [SessionCall.apply, cycled]
    exact .keep rfl rfl (.inl (Offers.advance_items _)) rfl rfl
  | accept =>
    rw [SessionCall.apply]
    rcases accept_cases s with ⟨error, sink, refused, -⟩ | ⟨text, view, sink, -, -, -, accepted⟩
    · have stays : (Called.mk s .accept).movesOn = false := by simp [Called.movesOn, refused]; rfl
      rw [refused]
      exact .keep stays rfl (.inl rfl) rfl rfl
    · have moved : (Called.mk s .accept).movesOn = true := by simp [Called.movesOn, accepted]; rfl
      rw [accepted, clear_eq]
      exact .moveOn moved rfl rfl
  | beginEscalation =>
    rw [SessionCall.apply]
    rcases beginEscalation_cases s with ⟨-, refused⟩ | ⟨text, -, asked⟩
    · rw [refused]
      exact .keep rfl rfl (.inl rfl) rfl rfl
    · rw [asked]
      exact .keep rfl rfl (.inl rfl) rfl rfl
  | finishEscalation request result => exact effect_finishEscalation s request result
  | host change => exact .keep rfl rfl (.inl rfl) rfl rfl

end Session

/-! ### The history of a session -/

/-- What a history tells about the session that it leads to. -/
structure Traced (log : List (Called σ)) (s : Session σ) : Prop where
  past : ∀ c ∈ log, c.session.generation ≤ s.generation
  /-- All calls in the present generation came after the session last moved on. -/
  placed : ∀ c ∈ log, c.session.generation = s.generation → c ∈ current log
  sourced : s.offers.items ≠ [] → Sourced log s.offers.items
  anchored : ∀ ticket, lastShown log = some ticket →
    s.anchor = ticket.anchor ∧ ∃ asked ∈ current log, asked.Asks ticket
  shown : s.offers.items ≠ [] → lastShown log ≠ none
  /-- An escalation was asked for only after a fetch was shown. -/
  escalated : ∀ c ∈ current log, c.escalation? ≠ none → lastShown log ≠ none

namespace Traced

theorem start {first : Session σ} (nothing : first.offers.items = []) : Traced [] first := by
  constructor <;> simp [nothing, current, lastShown]

/-- The calls of a generation stay in it until the session moves on. -/
theorem stay (traced : Traced log c.session) (stays : c.movesOn = false)
    (generation : next.generation = c.session.generation) :
    (∀ other ∈ log ++ [c], other.session.generation ≤ next.generation) ∧
      ∀ other ∈ log ++ [c], other.session.generation = next.generation →
        other ∈ current (log ++ [c]) := by
  have grown : current (log ++ [c]) = current log ++ [c] := by simp [current_append, stays]
  rw [generation, grown]
  constructor
  · rw [List.forall_mem_append, List.forall_mem_singleton]
    exact ⟨traced.past, Nat.le_refl _⟩
  · intro other member same
    rcases List.mem_append.mp member with member | member
    · exact List.mem_append_left _ (traced.placed other member same)
    · exact List.mem_append_right _ member

/-- What is drawn stays where it is while no other fetch is shown. -/
theorem anchored_append (traced : Traced log c.session) (stays : c.movesOn = false)
    (same : lastShown (log ++ [c]) = lastShown log) (anchor : next.anchor = c.session.anchor) :
    ∀ ticket, lastShown (log ++ [c]) = some ticket →
      next.anchor = ticket.anchor ∧ ∃ asked ∈ current (log ++ [c]), asked.Asks ticket := by
  intro ticket last
  rw [same] at last
  obtain ⟨drawn, asked, member, asks⟩ := traced.anchored ticket last
  exact ⟨anchor.trans drawn, asked, by simp [current_append, stays, member], asks⟩

/-- Moving on starts a history of its own. -/
theorem moveOn (traced : Traced log c.session) (moved : c.movesOn = true)
    (generation : next.generation = c.session.generation + 1) (nothing : next.offers.items = []) :
    Traced (log ++ [c]) next := by
  have fresh : current (log ++ [c]) = [] := by simp [current_append, moved]
  have older : ∀ other ∈ log ++ [c], other.session.generation < next.generation := by
    rw [generation, List.forall_mem_append, List.forall_mem_singleton]
    exact ⟨fun other member => Nat.lt_succ_of_le (traced.past other member), Nat.lt_succ_self _⟩
  constructor
  case past => exact fun other member => Nat.le_of_lt (older other member)
  case placed => exact fun other member same => absurd same (Nat.ne_of_lt (older other member))
  case sourced => exact fun showing => absurd nothing showing
  case anchored => simp [lastShown, fresh]
  case shown => exact fun showing => absurd nothing showing
  case escalated => simp [fresh]

/-- What is on offer keeps its origin. -/
theorem keep (traced : Traced log c.session) (valid : c.session.offers.Valid)
    (stays : c.movesOn = false) (generation : next.generation = c.session.generation)
    (items : next.offers.items = c.session.offers.items ∨ next.offers.items = [])
    (anchor : next.anchor = c.session.anchor) (unshown : c.shown? = none) :
    Traced (log ++ [c]) next := by
  have grown : current (log ++ [c]) = current log ++ [c] := by simp [current_append, stays]
  have same : lastShown (log ++ [c]) = lastShown log := by
    rw [lastShown_append stays, unshown, Option.none_or]
  obtain ⟨past, placed⟩ := traced.stay stays generation
  constructor
  case past => exact past
  case placed => exact placed
  case sourced =>
    intro showing
    rcases items with items | items
    · rw [items] at showing ⊢
      exact (traced.sourced showing).append stays
    · exact absurd items showing
  case anchored => exact traced.anchored_append stays same anchor
  case shown =>
    intro showing
    rw [same]
    rcases items with items | items
    · rw [items] at showing
      exact traced.shown showing
    · exact absurd items showing
  case escalated =>
    rw [same, grown, List.forall_mem_append, List.forall_mem_singleton]
    refine ⟨traced.escalated, fun handed => ?_⟩
    -- an escalation is asked for while a text is shown, so something is on offer
    obtain ⟨request, handed⟩ := Option.ne_none_iff_exists'.mp handed
    obtain ⟨text, shown⟩ := Option.ne_none_iff_exists'.mp (Called.escalation_spec handed).2
    exact traced.shown (valid.items_ne_nil shown)

/-- Candidates come on offer from a fetch of the present generation. -/
theorem offer {candidates : List Candidate} (traced : Traced log c.session)
    (asked : AskedIn log c.call) (resolved : c.call = .fetchResolved ticket (.ok candidates))
    (own : ticket.generation = c.session.generation)
    (generation : next.generation = c.session.generation)
    (items : next.offers.items = candidates.map .candidate) (anchor : next.anchor = ticket.anchor)
    (shown : c.shown? = some ticket) : Traced (log ++ [c]) next := by
  have stays : c.movesOn = false := by simp [Called.movesOn, resolved]
  have grown : current (log ++ [c]) = current log ++ [c] := by simp [current_append, stays]
  have last : lastShown (log ++ [c]) = some ticket := by
    rw [lastShown_append stays, shown, Option.some_or]
  rw [resolved] at asked
  obtain ⟨asked, member, asks⟩ := asked
  have recent : asked ∈ current log := by
    obtain ⟨request, handed, rfl⟩ := asks
    obtain ⟨view, -, ticket, -⟩ := Called.fetch_spec handed
    rw [ticket] at own
    exact traced.placed asked member own
  obtain ⟨past, placed⟩ := traced.stay stays generation
  constructor
  case past => exact past
  case placed => exact placed
  case sourced =>
    intro _
    exact .inl ⟨ticket, candidates,
      ⟨current log, c, [], by simp [grown], resolved, asked, recent, asks⟩, items⟩
  case anchored =>
    intro other same
    rw [last] at same
    cases same
    exact ⟨anchor, asked, by simp [grown, recent], asks⟩
  case shown => simp [last]
  case escalated => simp [last]

/-- The text of an escalation comes on offer where the last fetch was shown. -/
theorem escalate {request : EscalationRequest} {text : String} (traced : Traced log c.session)
    (asked : AskedIn log c.call) (resolved : c.call = .finishEscalation request (.ok text))
    (own : request.generation = c.session.generation)
    (generation : next.generation = c.session.generation)
    (items : next.offers.items = [.escalated (Text.trimmed text)])
    (anchor : next.anchor = c.session.anchor) : Traced (log ++ [c]) next := by
  have stays : c.movesOn = false := by simp [Called.movesOn, resolved]
  have grown : current (log ++ [c]) = current log ++ [c] := by simp [current_append, stays]
  have same : lastShown (log ++ [c]) = lastShown log := by
    rw [lastShown_append stays, Called.shown?, resolved, Option.none_or]
  rw [resolved] at asked
  obtain ⟨asked, member, handed⟩ := asked
  have recent : asked ∈ current log :=
    traced.placed asked member ((Called.escalation_spec handed).1.symm.trans own)
  have shown : lastShown log ≠ none := traced.escalated asked recent (by simp [handed])
  obtain ⟨past, placed⟩ := traced.stay stays generation
  constructor
  case past => exact past
  case placed => exact placed
  case sourced =>
    intro _
    exact .inr ⟨request, text,
      ⟨current log, c, [], by simp [grown], resolved, asked, recent, handed⟩, items⟩
  case anchored => exact traced.anchored_append stays same anchor
  case shown =>
    intro _
    rwa [same]
  case escalated =>
    intro _ _ _
    rwa [same]

/-- Every call is traced. -/
theorem effect (traced : Traced log c.session) (valid : c.session.offers.Valid)
    (asked : AskedIn log c.call) (effect : Effect c next) : Traced (log ++ [c]) next := by
  cases effect with
  | moveOn moved generation nothing => exact traced.moveOn moved generation nothing
  | keep stays generation items anchor unshown =>
    exact traced.keep valid stays generation items anchor unshown
  | offer resolved own generation items anchor shown =>
    exact traced.offer asked resolved own generation items anchor shown
  | escalate resolved own generation items anchor =>
    exact traced.escalate asked resolved own generation items anchor

end Traced

/-- What is on offer, and where it is drawn, goes back to the present generation. -/
structure Provenance (log : List (Called σ)) (s : Session σ) : Prop where
  sourced : s.offers.items ≠ [] → Sourced log s.offers.items
  anchored : ∀ left ∈ live s.sink.log, ∃ ticket, lastShown log = some ticket ∧
    left.ghost.anchor = ticket.anchor ∧
      ∃ asked ∈ current log, ∃ request, asked.fetch? = some request ∧ request.ticket = ticket ∧
        request.AtCursorOf asked.session

/-- The same calls, but for what results of another generation say. -/
inductive Variant : Session σ → List (SessionCall σ) → List (SessionCall σ) → Prop where
  | nil (s : Session σ) : Variant s [] []
  | call {s : Session σ} {call : SessionCall σ} {rest others : List (SessionCall σ)}
      (later : Variant (call.apply s) rest others) : Variant s (call :: rest) (call :: others)
  | fetch {s : Session σ} {ticket : Ticket} {rest others : List (SessionCall σ)}
      {result other : Except CompletionError (List Candidate)}
      (stale : ticket.generation ≠ s.generation)
      (later : Variant (s.fetchResolved ticket result).2 rest others) :
      Variant s (.fetchResolved ticket result :: rest) (.fetchResolved ticket other :: others)
  | escalation {s : Session σ} {request : EscalationRequest} {rest others : List (SessionCall σ)}
      {result other : Except GhostError String} (stale : request.generation ≠ s.generation)
      (later : Variant (s.finishEscalation request result).2 rest others) :
      Variant s (.finishEscalation request result :: rest)
        (.finishEscalation request other :: others)

/-- A result of another generation counts as stale, and does nothing else but land its fetch; so it
does not matter what it says. -/
structure Unheeded (s : Session σ) : Prop where
  fetch : ∀ ticket result, ticket.generation ≠ s.generation →
    s.fetchResolved ticket result =
      (.stale, { s with
        inFlight := if s.inFlight = some ticket then none else s.inFlight
        stats := { s.stats with staleDiscarded := s.stats.staleDiscarded + 1 } })
  escalation : ∀ request result, request.generation ≠ s.generation →
    s.finishEscalation request result =
      (.ok .stale,
        { s with stats := { s.stats with staleDiscarded := s.stats.staleDiscarded + 1 } })
  runs : ∀ calls others, Variant s calls others → s.run calls = s.run others

theorem Variant.run_eq {calls others : List (SessionCall σ)} (variant : Variant s calls others) :
    s.run calls = s.run others := by
  induction variant with
  | nil => rfl
  | call later ih => exact ih
  | @fetch s ticket rest others result other stale later ih =>
    have same : (s.fetchResolved ticket result).2 = (s.fetchResolved ticket other).2 := by
      rw [Session.fetchResolved_stale result stale, Session.fetchResolved_stale other stale]
    rw [same] at ih
    exact (congrArg (Session.run · rest) same).trans ih
  | @escalation s request rest others result other stale later ih =>
    have same : (s.finishEscalation request result).2 = (s.finishEscalation request other).2 := by
      rw [Session.finishEscalation_stale result stale, Session.finishEscalation_stale other stale]
    rw [same] at ih
    exact (congrArg (Session.run · rest) same).trans ih

theorem unheeded (s : Session σ) : Unheeded s where
  fetch ticket result stale := by
    rw [Session.fetchResolved_stale result stale, Session.land_eq]
    rfl
  escalation request result stale := Session.finishEscalation_stale result stale
  runs calls others variant := variant.run_eq

namespace History

theorem run_eq {first : Session σ} (history : History first log s) :
    s = first.run (log.map Called.call) := by
  induction history with
  | start => rfl
  | call before call asked ih =>
    rw [List.map_append, Session.run_append, ← ih]
    rfl

theorem traced {sink : Sink σ} {config : Config}
    (history : History (Session.start sink config) log s) : Traced log s := by
  induction history with
  | start => exact .start rfl
  | @call log s before call asked ih =>
    have valid : s.offers.Valid := by
      rw [before.run_eq]
      exact Session.run_valid sink config _
    exact Traced.effect (c := ⟨s, call⟩) ih valid asked (Session.apply_effect s call)

/-- Results that come late, more than once or in any order never show: all that is on offer was asked
for in the present generation, and is drawn where the last fetch that was shown was asked for. -/
theorem provenance {host : Host σ} {state : σ} {config : Config}
    (history : History (Session.start ⟨host, state, []⟩ config) log s) :
    Provenance log s ∧ Unheeded s := by
  have traced := history.traced
  refine ⟨⟨traced.sourced, ?_⟩, unheeded s⟩
  intro left member
  obtain ⟨drawing, owns, text, -⟩ : s.Shows := by
    rw [history.run_eq]
    exact Session.run_shows _
  rw [owns.balanced.live_eq, Option.mem_toList] at member
  subst member
  obtain ⟨shown, active, same⟩ : ∃ shown, s.offers.activeText = some shown ∧
      s.ghost shown = left.ghost := by simpa using text.symm
  have valid : s.offers.Valid := by
    rw [history.run_eq]
    exact Session.run_valid _ config _
  obtain ⟨ticket, last⟩ :=
    Option.ne_none_iff_exists'.mp (traced.shown (valid.items_ne_nil active))
  obtain ⟨anchor, asked, recent, request, handed, own⟩ := traced.anchored ticket last
  have drawn : left.ghost.anchor = s.anchor := by rw [← same]; rfl
  exact ⟨ticket, last, drawn.trans anchor, asked, recent, request, handed, own,
    Called.fetch_spec handed⟩

/-- The fetch of an edit is shown although that of an older edit comes back twice. -/
theorem provenance_shown :
    ∃ (log : List (Called MemoryEditor)) (s : Session MemoryEditor),
      History (Session.start ⟨MemoryEditor.host, ⟨some ⟨"", 0⟩, none, 0⟩, []⟩ .standard) log s ∧
        s.offers.activeText = some "int" ∧ s.stats.staleDiscarded = 2 ∧ Provenance log s ∧
        Unheeded s := by
  have edited : History (Session.start
      ⟨MemoryEditor.host, ⟨some ⟨"", 0⟩, none, 0⟩, []⟩ .standard) _ _ :=
    History.start.call .restartDebounce trivial
  have fetching := edited.call (.timerFired 1) trivial
  have again := fetching.call .restartDebounce trivial
  have parked := again.call (.timerFired 2) trivial
  have late := parked.call (.fetchResolved ⟨1, 0⟩ (.ok [⟨"void", 1, "00000"⟩]))
    ⟨⟨_, .timerFired 1⟩, .tail _ (.head _), _, rfl, rfl⟩
  have drained := late.call .drainPending trivial
  have shown := drained.call (.fetchResolved ⟨2, 0⟩ (.ok [⟨"int", 1, "00000"⟩]))
    ⟨⟨_, .drainPending⟩, List.mem_append_right _ (List.mem_singleton_self _), _, rfl, rfl⟩
  have twice := shown.call (.fetchResolved ⟨1, 0⟩ (.ok [⟨"char", 1, "00000"⟩]))
    ⟨⟨_, .timerFired 1⟩, .tail _ (.head _), _, rfl, rfl⟩
  exact ⟨_, _, twice, rfl, rfl, twice.provenance⟩

end History
end InlineCompletion.Ghost
