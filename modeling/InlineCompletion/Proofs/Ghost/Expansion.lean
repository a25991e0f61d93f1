import Mathlib.Logic.Relation
import InlineCompletion.Proofs.Ghost.Commands
import InlineCompletion.Proofs.Ghost.Escalation
import InlineCompletion.Proofs.Text.Search
import InlineCompletion.Proofs.Text.Trim

/-!
An escalation as a whole, from the text that is shown to the text that takes its place. One prompt is
sent, with the shown text in it as it is. A reply with any ink in it replaces all that is on offer;
every other reply, be it a failure of whatever kind, is one and the same failure, of which the user
is told once and which leaves everything as it was. It makes no difference whether the session waits
for the service or the service is asked beside the loop.
-/
namespace InlineCompletion.Ghost
open Text
variable {σ : Type} {s : Session σ} {template text : String}

/-- The prompts that put a text into a template: as it is in the place of the first placeholder, or
behind the template if that has none. -/
inductive PromptFor (template text : String) : String → Prop where
  | inside {front back : List Char}
      (split : FirstSplit promptPlaceholder.toList template.toList front back) :
      PromptFor template text (.ofList (front ++ text.toList ++ back))
  | behind (absent : ¬ promptPlaceholder.toList <:+: template.toList) :
      PromptFor template text (template ++ "\n\n" ++ text)

theorem buildPrompt_promptFor (template text : String) :
    PromptFor template text (buildPrompt template text) := by
  unfold buildPrompt
  cases found : splitAtFirst? promptPlaceholder.toList template.toList with
  | none =>
    refine .behind fun occurs => ?_
    rw [← splitAtFirst?_isSome_iff, found] at occurs
    cases occurs
  | some parts => exact .inside (splitAtFirst?_first found)

/-- A reply has text to show if any of its characters is not blank. -/
theorem usableText_cases (reply : Reply) :
    (∃ text, reply = .ok (some text) ∧ (∃ c ∈ text.toList, isBlank c = false) ∧
        usableText reply = .ok (trimmed text)) ∨
      ∃ reason, usableText reply = .error (.generatorUnavailable reason) ∧
        ∀ text, reply = .ok (some text) → ∀ c ∈ text.toList, isBlank c = true := by
  match reply with
  | .ok (some text) =>
    cases blank : isBlankText text with
    | true =>
      right
      refine ⟨"no text returned", by simp only [usableText, blank, ↓reduceIte], ?_⟩
      rintro _ ⟨⟩
      simpa [isBlankText] using blank
    | false =>
      left
      refine ⟨text, rfl, by simpa [isBlankText] using blank, ?_⟩
      simp only [usableText, blank, Bool.false_eq_true, ↓reduceIte]
  | .ok none => exact .inr ⟨_, rfl, nofun⟩
  | .error error =>
    right
    cases error <;> exact ⟨_, rfl, nofun⟩

namespace Session

/-- A session in which a text took the place of all that was on offer. -/
structure Replaced (s after : Session σ) (text : String) : Prop where
  items : ∃ item, after.offers.items = [item] ∧ item.isEscalated = true ∧ item.text = text ∧
    item.value = 1.0 ∧ item.sortText = "0"
  index : after.offers.index = 0
  shown : after.offers.activeText = some text
  phase : after.phase = .showing 0
  /-- It is drawn where the text before it was, once that is removed. -/
  drawn : ∃ handle, after.decoration = some handle ∧
    after.sink.log = s.sink.log ++ s.decoration.toList.map .dispose ++
      [.create handle ⟨text, s.anchor⟩ (decorationFor ⟨text, s.anchor⟩ s.config.ghostStyle)]
  same : after =
    { s with sink := after.sink, offers := after.offers, decoration := after.decoration }

/-- How an escalation ends, by what the service replied. -/
inductive EscalationEnds (s : Session σ) (reply : Reply) :
    Except GhostError EscalationOutcome → Session σ → Prop where
  | applied {text : String} {after : Session σ} (answered : reply = .ok (some text))
      (inked : ∃ c ∈ text.toList, isBlank c = false) (replaced : s.Replaced after (trimmed text)) :
      EscalationEnds s reply (.ok .applied) after
  | failed (reason : String)
      (inkless : ∀ text, reply = .ok (some text) → ∀ c ∈ text.toList, isBlank c = true) :
      EscalationEnds s reply (.error (.generatorUnavailable reason))
        { s with
          sink := s.sink.notify .warning ("Failed to generate code: " ++
            (GhostError.generatorUnavailable reason).message) }

theorem offer_replaced (s : Session σ) (present : text ≠ "") :
    s.Replaced (s.offer [.escalated text]) text := by
  have shown : (Offers.ofItems [.escalated text]).activeText = some text := by
    simp [Offers.ofItems, shownText, nonempty?, Item.text, present]
  have drawn := render_of_some (s := { s with offers := .ofItems [.escalated text] }) shown
  rw [offer, drawn]
  refine ⟨⟨_, rfl, rfl, rfl, rfl, rfl⟩, rfl, shown, rfl, ⟨_, rfl, ?_⟩, rfl⟩
  rw [← erased_log]
  rfl

/-- A session that asked for an escalation and was left alone until the reply came. -/
theorem finishEscalation_ends {request : EscalationRequest}
    (current : request.generation = s.generation) (reply : Reply) :
    s.EscalationEnds reply (s.finishEscalation request (usableText reply)).1
      (s.finishEscalation request (usableText reply)).2 := by
  rcases usableText_cases reply with ⟨text, answered, inked, usable⟩ | ⟨reason, failed, inkless⟩
  · rw [usable, finishEscalation_ok _ current, trimmed_trimmed]
    exact .applied answered inked (s.offer_replaced (trimmed_ne_empty inked))
  · rw [failed, finishEscalation_error _ current]
    exact .failed reason inkless

theorem EscalationEnds.said {reply : Reply} {outcome : Except GhostError EscalationOutcome}
    {after : Session σ} (ends : s.EscalationEnds reply outcome after) :
    ∃ said, after.sink.log = s.sink.log ++ said := by
  cases ends with
  | applied answered inked replaced =>
    obtain ⟨handle, -, log⟩ := replaced.drawn
    exact ⟨_, log.trans (List.append_assoc _ _ _)⟩
  | failed reason inkless => exact ⟨_, rfl⟩

/-- The request for an escalation of a text. -/
def requestFor (s : Session σ) (text : String) : EscalationRequest :=
  ⟨s.generation, buildPrompt s.config.promptTemplate text⟩

theorem beginEscalation_shown (shown : s.offers.activeText = some text) :
    s.beginEscalation = (.ok (s.requestFor text), s) := by
  simp only [beginEscalation, shown, requestFor]

/-- What a session does that escalates a text and waits for the service meanwhile. -/
structure EscalatesInPlace (s : Session σ) (text : String) (service : String → Reply) : Prop where
  prompt : PromptFor s.config.promptTemplate text (s.requestFor text).prompt
  /-- Nothing else that the service might say makes a difference. -/
  single : ∀ other : String → Reply,
    other (s.requestFor text).prompt = service (s.requestFor text).prompt →
    s.escalate other = s.escalate service
  ends : s.EscalationEnds (service (s.requestFor text).prompt) (s.escalate service).1
    (s.escalate service).2

theorem escalate_inPlace (shown : s.offers.activeText = some text) (service : String → Reply) :
    s.EscalatesInPlace text service := by
  have waits (service : String → Reply) : s.escalate service =
      s.finishEscalation (s.requestFor text) (usableText (service (s.requestFor text).prompt)) := by
    simp only [escalate, beginEscalation_shown shown]
  constructor
  case prompt => exact buildPrompt_promptFor _ text
  case single =>
    intro other same
    rw [waits, waits, same]
  case ends =>
    rw [waits]
    exact finishEscalation_ends rfl _

end Session

namespace EventLoop
variable {world : Collaborators} {l waiting : EventLoop σ} {caller : Caller}

/-- What the service will reply to the next prompt. -/
def replyTo (world : Collaborators) (l : EventLoop σ) (prompt : String) : Reply :=
  (world.service l.serviceCalls prompt).result

/-- The event with which an escalation of a text will come back. -/
def comesBack (world : Collaborators) (l : EventLoop σ) (text : String) (caller : Caller) : Event :=
  .escalationResolved (l.session.requestFor text)
    (usableText (l.replyTo world (l.session.requestFor text).prompt)) caller

/-- What a loop does for a caller that has it escalate a text. -/
structure EscalatesBeside (world : Collaborators) (l : EventLoop σ) (text : String)
    (caller : Caller) : Prop where
  prompt : PromptFor l.session.config.promptTemplate text (l.session.requestFor text).prompt
  sent : (l.handle world (.escalate caller)).reports =
    l.reports ++ [(l.clock, .generate (l.session.requestFor text).prompt)]
  single : (l.handle world (.escalate caller)).serviceCalls = l.serviceCalls + 1
  untouched : (l.handle world (.escalate caller)).session = l.session
  /-- The service is asked beside the loop, and its reply arrives in the queue. -/
  returns : l.running = true →
    ((l.handle world (.escalate caller)).finishGeneration l.generations.length).queue =
      l.queue ++ [l.comesBack world text caller]
  /-- When no other event is handled before the reply, no further prompt is sent and the escalation
  ends as if the session had waited for it. -/
  ends : ∀ waiting rest, Relation.ReflTransGen Arrival (l.handle world (.escalate caller)) waiting →
    waiting.queue = l.comesBack world text caller :: rest →
    (∃ change, waiting.session = l.session.withHost change) ∧
      ∃ outcome said,
        waiting.session.EscalationEnds (l.replyTo world (l.session.requestFor text).prompt) outcome
          (waiting.handleNext world).session ∧
        (waiting.handleNext world).session.sink.log = l.session.sink.log ++ said ∧
        (waiting.handleNext world).reports = (l.handle world (.escalate caller)).reports ++
          said.map (fun call => (waiting.clock, .sink call)) ++
          [(waiting.clock, .answer caller (.escalated outcome))] ∧
        (waiting.handleNext world).published = (waiting.handleNext world).session.snapshot

theorem handle_escalate (shown : l.session.offers.activeText = some text) :
    l.handle world (.escalate caller) =
      (l.spawnGeneration world (l.session.requestFor text) caller).publish := by
  simp only [handle, react, Session.beginEscalation_shown shown, withSession_self]

theorem finishGeneration_queue (running : l.running = true) {place : Nat} {task : GenerationTask}
    (runs : l.generations[place]? = some task) :
    (l.finishGeneration place).queue =
      l.queue ++ [.escalationResolved task.request task.result task.caller] := by
  simp only [finishGeneration, runs, send, running, ↓reduceIte]

theorem withSession_reports {next : Session σ} {said : List SinkCall}
    (log : next.sink.log = l.session.sink.log ++ said) :
    (l.withSession next).reports = l.reports ++ said.map fun call => (l.clock, .sink call) := by
  rw [withSession, log, List.drop_left]

/-- While no event is handled only the host changes anything of the session. -/
theorem arrivals_frame {start : EventLoop σ} (arrivals : Relation.ReflTransGen Arrival start waiting) :
    (∃ change, waiting.session = start.session.withHost change) ∧
      waiting.reports = start.reports := by
  induction arrivals with
  | refl => exact ⟨⟨id, rfl⟩, rfl⟩
  | tail before arrival ih =>
    obtain ⟨⟨change, session⟩, reports⟩ := ih
    obtain ⟨more, changed⟩ := arrival.session
    refine ⟨⟨more ∘ change, ?_⟩, arrival.reports.trans reports⟩
    rw [changed, session]
    rfl

theorem escalate_beside (shown : l.session.offers.activeText = some text) :
    l.EscalatesBeside world text caller := by
  have asked : l.handle world (.escalate caller) =
      (l.spawnGeneration world (l.session.requestFor text) caller).publish := handle_escalate shown
  constructor
  case prompt => exact buildPrompt_promptFor _ text
  case sent => rw [asked]; rfl
  case single => rw [asked]; rfl
  case untouched => rw [asked]; rfl
  case returns =>
    intro running
    rw [asked]
    exact finishGeneration_queue
      (l := (l.spawnGeneration world (l.session.requestFor text) caller).publish) running
      List.getElem?_concat_length
  case ends =>
    intro waiting rest arrivals queued
    obtain ⟨⟨change, session⟩, reports⟩ := arrivals_frame arrivals
    rw [asked] at session
    -- only a handled event starts a new generation, so the reply is not late
    have current : (l.session.requestFor text).generation = waiting.session.generation := by
      rw [session]
      rfl
    have ends := Session.finishEscalation_ends current
      (l.replyTo world (l.session.requestFor text).prompt)
    obtain ⟨said, log⟩ := ends.said
    have handled : waiting.handleNext world =
        ({ waiting with queue := rest } : EventLoop σ).handle world
          (l.comesBack world text caller) := by
      simp only [handleNext, queued]
    rw [handled]
    refine ⟨⟨change, session⟩, _, said, ends, ?_, ?_, rfl⟩
    · have kept : waiting.session.sink.log = l.session.sink.log := by
        rw [session]
        rfl
      rw [← kept]
      exact log
    · rw [← reports]
      exact congrArg (· ++ [_]) (withSession_reports (l := { waiting with queue := rest }) log)

end EventLoop

/-- A text that is shown is escalated by one prompt, and the reply decides alone whether its own text
takes the place of all that is on offer or everything stays as it was. -/
theorem escalation_whole (σ : Type) :
    (∀ (s : Session σ) (text : String) (service : String → Reply),
      s.offers.activeText = some text → s.EscalatesInPlace text service) ∧
    ∀ (world : Collaborators) (l : EventLoop σ) (text : String) (caller : Caller),
      l.session.offers.activeText = some text → l.EscalatesBeside world text caller :=
  ⟨fun _ _ service shown => Session.escalate_inPlace shown service,
    fun _ _ _ _ shown => EventLoop.escalate_beside shown⟩

/-- A text that holds a placeholder goes into a template with two of them. A reply with blanks around
its text is applied, in place or by the loop, and one of blanks alone is not. -/
theorem escalation_whole_placeholders :
    let config : Config := { Config.standard with promptTemplate := "\x7btext\x7d, \x7btext\x7d" }
    let calls : List (SessionCall MemoryEditor) :=
      [.restartDebounce, .timerFired 1, .fetchResolved ⟨1, 0⟩ (.ok [⟨"f \x7btext\x7d", 1, "0"⟩])]
    let s := (Session.start EventLoop.blank config).run calls
    let l : EventLoop MemoryEditor := { EventLoop.start EventLoop.blank config with session := s }
    let world : Collaborators := ⟨fun _ _ => ⟨0, .ok []⟩, fun _ _ => ⟨5, .ok (some " long\n")⟩⟩
    let waiting := (l.handle world (.escalate 1)).finishGeneration 0
    (s.requestFor "f \x7btext\x7d").prompt = "f \x7btext\x7d, \x7btext\x7d" ∧
      s.EscalationEnds (.ok (some " long\n")) (.ok .applied)
        (s.escalate fun _ => .ok (some " long\n")).2 ∧
      s.EscalationEnds (.ok (some "\t")) (.error (.generatorUnavailable "no text returned"))
        (s.escalate fun _ => .ok (some "\t")).2 ∧
      ∃ outcome, waiting.session.EscalationEnds (.ok (some " long\n")) outcome
        (waiting.handleNext world).session := by
  intro config calls s l world waiting
  have whole := escalation_whole MemoryEditor
  have shown : s.offers.activeText = some "f \x7btext\x7d" := rfl
  have spoken := (whole.1 s _ (fun _ => .ok (some " long\n")) shown).ends
  have silent := (whole.1 s _ (fun _ => .ok (some "\t")) shown).ends
  have applied : (s.escalate fun _ => .ok (some " long\n")).1 = .ok .applied := by decide +kernel
  have failed : (s.escalate fun _ => .ok (some "\t")).1 =
      .error (.generatorUnavailable "no text returned") := by decide +kernel
  rw [applied] at spoken
  rw [failed] at silent
  have beside : l.EscalatesBeside world _ 1 := whole.2 world l _ 1 shown
  obtain ⟨-, outcome, _, ends, -⟩ :=
    beside.ends waiting [] (.single (.finishGeneration _ 0)) (beside.returns rfl)
  exact ⟨by decide +kernel, spoken, silent, outcome, ends⟩

end InlineCompletion.Ghost
