import InlineCompletion.Cursor
import InlineCompletion.Ghost.Editor
import InlineCompletion.Ghost.Offers
import InlineCompletion.Ghost.Prompt

/-!
A ghost-text session as a state machine. Every edit and every move of the cursor starts a new
generation. A fetch or an escalation carries the generation it was asked for in, and a result of an
earlier generation is dropped, so that a slow answer never replaces a newer state. At most one fetch
is in flight; a timer that fires meanwhile is parked, and its fetch starts when the other has come
back. A session runs nothing itself: it hands out requests and takes their results.
-/
namespace InlineCompletion.Ghost

/-- Names a fetch that was asked for. -/
structure Ticket where
  generation : Nat
  /-- The cursor when the fetch was asked for. -/
  anchor : Nat
deriving Repr, DecidableEq

/-- A fetch to be run against the suggestion source. -/
structure FetchRequest where
  ticket : Ticket
  context : Context
deriving Repr, DecidableEq

/-- What the result of a fetch did to the session. -/
inductive FetchOutcome where
  /-- This many items are on offer. -/
  | shown (count : Nat)
  /-- The source had nothing. -/
  | empty
  /-- The source failed. -/
  | failed
  /-- The session had moved on. -/
  | stale
deriving Repr, DecidableEq

/-- An escalation to be run against the text service. -/
structure EscalationRequest where
  generation : Nat
  prompt : String
deriving Repr, DecidableEq

/-- What the result of an escalation did to the session. -/
inductive EscalationOutcome where
  /-- The text is the one item on offer. -/
  | applied
  /-- The session had moved on. -/
  | stale
deriving Repr, DecidableEq

/-- Counts over the life of a session. -/
structure Stats where
  /-- Fetches asked for. -/
  fetches : Nat
  /-- Results dropped because the session had moved on. -/
  staleDiscarded : Nat
  /-- Timers that fired while a fetch was in flight. -/
  suppressedFires : Nat
  /-- Whether the time of a fetch was noted. -/
  hasFetched : Bool
deriving Repr, DecidableEq

/-- A view of a session at one time. -/
structure Snapshot where
  phase : Phase
  activeText : Option String
  items : List Item
  stats : Stats

/-- A session. -/
structure Session (σ : Type) where
  sink : Sink σ
  config : Config
  offers : Offers
  generation : Nat
  debouncing : Bool
  inFlight : Option Ticket
  /-- The generation of a timer that fired while a fetch was in flight. -/
  pending : Option Nat
  anchor : Nat
  decoration : Option Handle
  stats : Stats

/-- No counts yet. -/
def Stats.zero : Stats :=
  ⟨0, 0, 0, false⟩

/-- The view of a session that has done nothing. -/
def Snapshot.initial : Snapshot :=
  ⟨.idle, none, [], .zero⟩

namespace Session
variable {σ : Type}

/-- A new session. -/
def start (sink : Sink σ) (config : Config) : Session σ where
  sink := sink
  config := config
  offers := .none
  generation := 0
  debouncing := false
  inFlight := none
  pending := none
  anchor := 0
  decoration := none
  stats := .zero

/-- The session after a change that its host makes on its own. -/
def withHost (s : Session σ) (change : σ → σ) : Session σ :=
  { s with sink := { s.sink with state := change s.sink.state } }

/-- Removes the decoration, if there is one. -/
def undraw (s : Session σ) : Session σ :=
  match s.decoration with
  | some handle => { s with sink := s.sink.dispose handle, decoration := none }
  | none => s

/-- Draws the text to show, if there is one. -/
def draw (s : Session σ) : Session σ :=
  match s.offers.activeText with
  | some text =>
    let ghost : GhostText := ⟨text, s.anchor⟩
    let (handle, sink) := s.sink.create ghost (decorationFor ghost s.config.ghostStyle)
    { s with sink, decoration := some handle }
  | none => s

/-- Brings the decoration in line with the text to show. -/
def render (s : Session σ) : Session σ :=
  s.undraw.draw

/-- Takes everything off offer. -/
def hide (s : Session σ) : Session σ :=
  { s with offers := .none }.render

/-- The document changed or the cursor moved: a new generation starts, whose timer is to be
armed. -/
def restartDebounce (s : Session σ) : Session σ :=
  { s.hide with generation := s.generation + 1, pending := none, debouncing := true }

/-- Asks for a fetch at the cursor. Without an editor, or with a cursor behind the end of its
document, there is none. -/
def startFetch (s : Session σ) (generation : Nat) : Option FetchRequest × Session σ :=
  match s.sink.view with
  | none => (none, s)
  | some view =>
    match extractContext view.document view.cursor s.config.lengthTagMarker with
    | .error _ => (none, s)
    | .ok context =>
      let ticket : Ticket := ⟨generation, view.cursor⟩
      (some ⟨ticket, context⟩,
        { s with
          inFlight := some ticket
          stats := { s.stats with fetches := s.stats.fetches + 1, hasFetched := true } })

/-- The timer of a generation fired. An outdated one changes nothing; one that fires while a fetch
is in flight is parked. -/
def timerFired (s : Session σ) (generation : Nat) : Option FetchRequest × Session σ :=
  if generation ≠ s.generation then (none, s)
  else if s.inFlight.isSome then
    (none, { s with
      debouncing := false
      stats := { s.stats with suppressedFires := s.stats.suppressedFires + 1 }
      pending := some generation })
  else { s with debouncing := false }.startFetch generation

/-- One more result was dropped. -/
def dropStale (s : Session σ) : Session σ :=
  { s with stats := { s.stats with staleDiscarded := s.stats.staleDiscarded + 1 } }

/-- A fetch is not in flight any more. -/
def land (s : Session σ) (ticket : Ticket) : Session σ :=
  if s.inFlight = some ticket then { s with inFlight := none } else s

/-- Items put on offer, the first of them shown. -/
def offer (s : Session σ) (items : List Item) : Session σ :=
  { s with offers := .ofItems items }.render

/-- A fetch came back. -/
def fetchResolved (s : Session σ) (ticket : Ticket)
    (result : Except CompletionError (List Candidate)) : FetchOutcome × Session σ :=
  let s := s.land ticket
  if ticket.generation ≠ s.generation then (.stale, s.dropStale)
  else
    match result with
    | .ok [] => (.empty, s.hide)
    | .ok candidates =>
      (.shown candidates.length,
        { s with anchor := ticket.anchor }.offer (candidates.map Item.candidate))
    | .error .emptySuggestionResult => (.empty, s.hide)
    | .error _ => (.failed, s.hide)

/-- Starts the fetch of a parked timer once nothing is in flight. -/
def drainPending (s : Session σ) : Option FetchRequest × Session σ :=
  if s.inFlight.isSome then (none, s)
  else
    match s.pending with
    | none => (none, s)
    | some generation =>
      let s := { s with pending := none }
      if generation ≠ s.generation then (none, s) else s.startFetch generation

/-- The phase of a session, read off its state. -/
def phase (s : Session σ) : Phase :=
  if !s.offers.items.isEmpty then .showing s.offers.index
  else if s.debouncing then .debouncing
  else if s.inFlight.isSome || s.pending.isSome then .fetching
  else .idle

/-- Shows the next item. An idle session says that there is none. -/
def cycle (s : Session σ) : Option Nat × Session σ :=
  match s.phase with
  | .showing _ =>
    match s.offers.advance? with
    | (none, _) => (none, s)
    | (some index, offers) => (some index, { s with offers }.render)
  | .idle => (none, { s with sink := s.sink.notify .info "No Ghost Text to cycle." })
  | _ => (none, s)

/-- Drops the ghost text and forgets what is scheduled. A fetch in flight stays in flight. -/
def clear (s : Session σ) : Session σ :=
  { s.hide with generation := s.generation + 1, pending := none, debouncing := false }

/-- Inserts the text shown at the cursor. -/
def accept (s : Session σ) : Except GhostError String × Session σ :=
  match s.sink.view with
  | none =>
    (.error .noActiveTarget, { s with sink := s.sink.notify .error "No active editor found." })
  | some view =>
    match s.offers.activeText with
    | none =>
      (.error (.nothingToAct "accept"),
        { s with sink := s.sink.notify .warning "No Ghost Text to accept." })
    | some text =>
      match s.sink.insert view.cursor text with
      | (.error reason, sink) =>
        (.error (.editor reason),
          { s with sink := sink.notify .error ("Failed to insert Ghost Text: " ++ reason) })
      | (.ok (), sink) =>
        let s := { s with sink }.clear
        (.ok text, { s with sink := s.sink.notify .info "Ghost Text inserted into editor." })

/-- Asks for an escalation of the text shown. -/
def beginEscalation (s : Session σ) : Except GhostError EscalationRequest × Session σ :=
  match s.offers.activeText with
  | none =>
    (.error (.nothingToAct "escalate"),
      { s with sink := s.sink.notify .warning "No Ghost Text to escalate." })
  | some text => (.ok ⟨s.generation, buildPrompt s.config.promptTemplate text⟩, s)

/-- An escalation came back. After a failure the items stay as they were. -/
def finishEscalation (s : Session σ) (request : EscalationRequest)
    (result : Except GhostError String) : Except GhostError EscalationOutcome × Session σ :=
  if request.generation ≠ s.generation then (.ok .stale, s.dropStale)
  else
    match result with
    | .ok text => (.ok .applied, s.offer [.escalated (Text.trimmed text)])
    | .error error =>
      (.error error,
        { s with sink := s.sink.notify .warning ("Failed to generate code: " ++ error.message) })

/-- Escalates the text shown and waits for the service. -/
def escalate (s : Session σ) (service : String → Reply) :
    Except GhostError EscalationOutcome × Session σ :=
  match s.beginEscalation with
  | (.error error, s) => (.error error, s)
  | (.ok request, s) => s.finishEscalation request (usableText (service request.prompt))

/-- Ends the use of a session. -/
def dispose (s : Session σ) : Session σ :=
  s.clear

/-- Gives a session up: its decoration goes with it. -/
def drop (s : Session σ) : Session σ :=
  s.undraw

/-- The view of a session. -/
def snapshot (s : Session σ) : Snapshot :=
  ⟨s.phase, s.offers.activeText, s.offers.items, s.stats⟩

end Session
end InlineCompletion.Ghost
