import InlineCompletion.Proofs.Ghost.Calls

/-!
The ledger of decorations. Whatever a session is called to do, and whatever its host answers, it
draws only when nothing is drawn and removes only what is drawn, so decorations come in pairs of a
drawing and its removal. What is left drawn after a call is the text to show.
-/
namespace InlineCompletion.Ghost

/-- A decoration of the host. -/
structure Drawing where
  handle : Handle
  ghost : GhostText
  spec : DecorationSpec

/-- The decorations after a call, given those before it. -/
def SinkCall.drawn (drawings : List Drawing) : SinkCall → List Drawing
  | .create handle ghost spec => drawings ++ [⟨handle, ghost, spec⟩]
  | .dispose handle => drawings.filter (·.handle ≠ handle)
  | .insert _ _ | .notice _ _ => drawings

/-- The decorations that a log leaves drawn. -/
def live (log : List SinkCall) : List Drawing :=
  log.foldl SinkCall.drawn []

/-- The two calls of a decoration. -/
def Drawing.calls (d : Drawing) : List SinkCall :=
  [.create d.handle d.ghost d.spec, .dispose d.handle]

/-- A log that never has two decorations drawn, and only ever removes the one that is. -/
structure Ledger (log : List SinkCall) : Prop where
  single : ∀ first, first <+: log → (live first).length ≤ 1
  disposed : ∀ first handle rest, log = first ++ .dispose handle :: rest →
    (live first).map Drawing.handle = [handle]

/-- Logs that draw and remove in turn, with what they leave drawn. -/
inductive Balanced : List SinkCall → Option Drawing → Prop where
  | nil : Balanced [] none
  | create {log : List SinkCall} (before : Balanced log none) (drawing : Drawing) :
      Balanced (log ++ [.create drawing.handle drawing.ghost drawing.spec]) (some drawing)
  | dispose {log : List SinkCall} {drawing : Drawing} (before : Balanced log (some drawing)) :
      Balanced (log ++ [.dispose drawing.handle]) none
  | other {log : List SinkCall} {drawing : Option Drawing} {call : SinkCall}
      (before : Balanced log drawing) (noDrawing : call.isDrawing = false) :
      Balanced (log ++ [call]) drawing

namespace Balanced
variable {log first tail : List SinkCall} {drawing : Option Drawing} {handle : Handle}

theorem live_eq (balanced : Balanced log drawing) : live log = drawing.toList := by
  induction balanced with
  | nil => rfl
  | create before drawing ih =>
    simp only [live, List.foldl_append] at ih ⊢
    rw [ih]
    rfl
  | dispose before ih =>
    simp only [live, List.foldl_append] at ih ⊢
    rw [ih]
    simp [SinkCall.drawn]
  | @other log drawing call before noDrawing ih =>
    simp only [live, List.foldl_append] at ih ⊢
    rw [ih]
    cases call with
    | create | dispose => cases noDrawing
    | insert | notice => rfl

/-- Every part of a balanced log from its start on is balanced. -/
theorem of_prefix (balanced : Balanced log drawing) (part : first <+: log) :
    ∃ left, Balanced first left := by
  induction balanced with
  | nil => exact ⟨none, List.prefix_nil.mp part ▸ .nil⟩
  | create before drawing ih =>
    rcases List.prefix_concat_iff.mp part with rfl | part
    · exact ⟨_, before.create drawing⟩
    · exact ih part
  | dispose before ih =>
    rcases List.prefix_concat_iff.mp part with rfl | part
    · exact ⟨_, before.dispose⟩
    · exact ih part
  | other before noDrawing ih =>
    rcases List.prefix_concat_iff.mp part with rfl | part
    · exact ⟨_, before.other noDrawing⟩
    · exact ih part

/-- A decoration that is removed was drawn. -/
theorem of_dispose (balanced : Balanced (log ++ [.dispose handle]) drawing) :
    ∃ removed, Balanced log (some removed) ∧ removed.handle = handle := by
  generalize same : log ++ [.dispose handle] = whole at balanced
  cases balanced with
  | nil => simp at same
  | create before drawing => simp at same
  | @dispose before removed balanced =>
    obtain ⟨rfl, last⟩ := List.append_inj' same rfl
    cases last
    exact ⟨removed, balanced, rfl⟩
  | @other before drawing call balanced noDrawing =>
    obtain ⟨rfl, last⟩ := List.append_inj' same rfl
    cases last
    cases noDrawing

theorem ledger (balanced : Balanced log drawing) : Ledger log := by
  constructor
  case single =>
    intro first part
    obtain ⟨left, balanced⟩ := balanced.of_prefix part
    rw [balanced.live_eq]
    cases left <;> simp
  case disposed =>
    intro first handle rest split
    have part : first ++ [.dispose handle] <+: log := ⟨rest, by simp [split]⟩
    obtain ⟨left, upto⟩ := balanced.of_prefix part
    obtain ⟨removed, before, rfl⟩ := upto.of_dispose
    rw [before.live_eq]
    rfl

/-- All that was drawn was removed once, right after, but for what is left drawn. -/
theorem pairs (balanced : Balanced log drawing) :
    ∃ removed : List Drawing, log.filter SinkCall.isDrawing =
      removed.flatMap Drawing.calls ++
        drawing.toList.map fun left => .create left.handle left.ghost left.spec := by
  induction balanced with
  | nil => exact ⟨[], rfl⟩
  | create before drawing ih =>
    obtain ⟨removed, paired⟩ := ih
    refine ⟨removed, ?_⟩
    rw [List.filter_append, paired]
    simp [SinkCall.isDrawing]
  | @dispose log drawing before ih =>
    obtain ⟨removed, paired⟩ := ih
    refine ⟨removed ++ [drawing], ?_⟩
    rw [List.filter_append, paired]
    simp [SinkCall.isDrawing, Drawing.calls]
  | other before noDrawing ih =>
    obtain ⟨removed, paired⟩ := ih
    refine ⟨removed, ?_⟩
    rw [List.filter_append, paired]
    simp [noDrawing]

/-- What draws nothing leaves drawn what is. -/
theorem others (balanced : Balanced log drawing)
    (noDrawing : ∀ call ∈ tail, call.isDrawing = false) : Balanced (log ++ tail) drawing := by
  induction tail generalizing log with
  | nil => rwa [List.append_nil]
  | cons call rest ih =>
    rw [List.append_cons]
    exact ih (balanced.other (noDrawing call (by simp)))
      fun call member => noDrawing call (by simp [member])

end Balanced

namespace Session
variable {σ : Type} {s : Session σ} {drawing : Option Drawing}

/-- A session knows the handle of what its log leaves drawn. -/
structure Owns (s : Session σ) (drawing : Option Drawing) : Prop where
  balanced : Balanced s.sink.log drawing
  handle : s.decoration = drawing.map Drawing.handle

/-- What is drawn is the text to show. -/
def Shows (s : Session σ) : Prop :=
  ∃ drawing, s.Owns drawing ∧ drawing.map Drawing.ghost = s.offers.activeText.map s.ghost ∧
    ∀ left, drawing = some left → left.spec = decorationFor left.ghost s.config.ghostStyle

theorem Owns.erased (owns : s.Owns drawing) : Balanced s.erased.log none := by
  unfold Session.erased
  rw [owns.handle]
  cases drawing with
  | none => exact owns.balanced
  | some left => exact owns.balanced.dispose

/-- Rendering brings the decoration in line with the text to show. -/
theorem Owns.render (owns : s.Owns drawing) : s.render.Shows := by
  cases shown : s.offers.activeText with
  | none =>
    rw [render_of_none shown]
    exact ⟨none, ⟨owns.erased, rfl⟩, by simp [shown], by simp⟩
  | some text =>
    rw [render_of_some shown]
    let drawn : Drawing :=
      ⟨(s.redrawn text).1, s.ghost text, decorationFor (s.ghost text) s.config.ghostStyle⟩
    refine ⟨some drawn, ⟨owns.erased.create drawn, rfl⟩, by simp [shown, drawn]; rfl, ?_⟩
    rintro left ⟨rfl⟩
    rfl

theorem Owns.hide (owns : s.Owns drawing) : s.hide.Shows := by
  have kept : ({ s with offers := .none } : Session σ).Owns drawing := ⟨owns.balanced, owns.handle⟩
  exact kept.render

theorem Owns.offer (owns : s.Owns drawing) (items : List Item) : (s.offer items).Shows := by
  have kept : ({ s with offers := .ofItems items } : Session σ).Owns drawing :=
    ⟨owns.balanced, owns.handle⟩
  exact kept.render

/-- Whether the text to show is drawn depends on that text, the drawing and the log alone. -/
theorem Shows.frame {other : Session σ} (shows : s.Shows) (log : other.sink.log = s.sink.log)
    (handle : other.decoration = s.decoration)
    (text : other.offers.activeText.map other.ghost = s.offers.activeText.map s.ghost)
    (style : other.config.ghostStyle = s.config.ghostStyle) : other.Shows := by
  obtain ⟨drawing, owns, same, look⟩ := shows
  refine ⟨drawing, ⟨?_, handle.trans owns.handle⟩, same.trans text.symm, ?_⟩
  · rw [log]
    exact owns.balanced
  · rw [style]
    exact look

theorem Owns.clear (owns : s.Owns drawing) : s.clear.Shows :=
  owns.hide.frame rfl rfl rfl rfl

/-- What a session says or inserts leaves its drawing as it is. -/
theorem Shows.aside (shows : s.Shows) {sink : Sink σ} {tail : List SinkCall}
    (said : sink.log = s.sink.log ++ tail) (noDrawing : ∀ call ∈ tail, call.isDrawing = false) :
    ({ s with sink } : Session σ).Shows := by
  obtain ⟨drawing, owns, text, look⟩ := shows
  refine ⟨drawing, ⟨?_, owns.handle⟩, text, look⟩
  rw [said]
  exact owns.balanced.others noDrawing

theorem Shows.notify (shows : s.Shows) (level : NoticeLevel) (message : String) :
    ({ s with sink := s.sink.notify level message } : Session σ).Shows :=
  shows.aside rfl (by simp [SinkCall.isDrawing])

theorem Shows.accept (shows : s.Shows) : s.accept.2.Shows := by
  rcases accept_cases s with ⟨error, sink, refused, tail, said, noDrawing, -⟩ |
    ⟨text, view, sink, -, -, inserted, accepted⟩
  · rw [refused]
    exact shows.aside said noDrawing
  · have said : sink.log = s.sink.log ++ [.insert view.cursor text] :=
      congrArg (fun answer => answer.2.log) inserted.symm
    obtain ⟨drawing, owns, -⟩ := shows.aside said (by simp [SinkCall.isDrawing])
    rw [accepted]
    exact owns.clear.notify _ _

/-- After every call what is drawn is the text to show. -/
theorem apply_shows (s : Session σ) (call : SessionCall σ) (shows : s.Shows) :
    (call.apply s).Shows := by
  obtain ⟨drawing, owns, -⟩ := id shows
  cases call with
  | restartDebounce => exact owns.hide.frame rfl rfl rfl rfl
  | clear | dispose => exact owns.clear
  | timerFired generation =>
    obtain ⟨_, _, _, _, fired⟩ := timerFired_frame s generation
    rw [SessionCall.apply, fired]
    exact shows.frame rfl rfl rfl rfl
  | fetchResolved ticket result =>
    rw [SessionCall.apply]
    by_cases current : ticket.generation = s.generation
    · rcases fetchResolved_cases result current with
        ⟨candidates, -, -, shown⟩ | ⟨outcome, -, hidden⟩
      · have landed : ({ s.land ticket with anchor := ticket.anchor } : Session σ).Owns drawing := by
          rw [land_eq]
          exact ⟨owns.balanced, owns.handle⟩
        rw [shown]
        exact landed.offer _
      · have landed : (s.land ticket).Owns drawing := by
          rw [land_eq]
          exact ⟨owns.balanced, owns.handle⟩
        rw [hidden]
        exact landed.hide
    · rw [fetchResolved_stale result current, land_eq]
      exact shows.frame rfl rfl rfl rfl
  | drainPending =>
    obtain ⟨_, _, _, drained⟩ := drainPending_frame s
    rw [SessionCall.apply, drained]
    exact shows.frame rfl rfl rfl rfl
  | cycle =>
    rw [SessionCall.apply]
    by_cases nothing : s.offers.items = []
    · rcases cycle_empty nothing with same | said
      · rw [same]
        exact shows
      · rw [said]
        exact shows.notify _ _
    · have advanced : ({ s with offers := s.offers.advance } : Session σ).Owns drawing :=
        ⟨owns.balanced, owns.handle⟩
      rw [cycle_showing nothing]
      exact advanced.render
  | accept => exact shows.accept
  | beginEscalation =>
    rw [SessionCall.apply]
    rcases beginEscalation_cases s with ⟨-, refused⟩ | ⟨text, -, asked⟩
    · rw [refused]
      exact shows.notify _ _
    · rw [asked]
      exact shows
  | finishEscalation request result =>
    rw [SessionCall.apply]
    by_cases current : request.generation = s.generation
    · cases result with
      | ok text =>
        rw [finishEscalation_ok text current]
        exact owns.offer _
      | error error =>
        rw [finishEscalation_error error current]
        exact shows.notify _ _
    · rw [finishEscalation_stale result current]
      exact shows.frame rfl rfl rfl rfl
  | host change => exact shows.frame rfl rfl rfl rfl

variable {host : Host σ} {state : σ} {config : Config}

/-- In every session what is drawn is the text to show. -/
theorem run_shows (calls : List (SessionCall σ)) :
    ((start ⟨host, state, []⟩ config).run calls).Shows :=
  run_induction apply_shows calls ⟨none, ⟨.nil, rfl⟩, rfl, by simp⟩

/-- Whatever a session is called to do, it has at most one decoration drawn and removes only that,
what is drawn after a call is the text to show, and once it is given up all that was drawn was
removed once. -/
theorem run_ledger (host : Host σ) (state : σ) (config : Config) (calls : List (SessionCall σ)) :
    let s := (start ⟨host, state, []⟩ config).run calls
    Ledger s.sink.log ∧
      (live s.sink.log).map (fun left => (left.ghost.text, left.spec.contentText)) =
        s.offers.activeText.toList.map (fun text => (text, text)) ∧
      Ledger s.drop.sink.log ∧ live s.drop.sink.log = [] ∧
      ∃ drawings : List Drawing,
        s.drop.sink.log.filter SinkCall.isDrawing = drawings.flatMap Drawing.calls := by
  intro s
  obtain ⟨drawing, owns, text, look⟩ : s.Shows := run_shows calls
  have dropped : Balanced s.drop.sink.log none := by
    rw [Session.drop, undraw_eq]
    exact owns.erased
  obtain ⟨removed, paired⟩ := dropped.pairs
  rw [Option.toList_none, List.map_nil, List.append_nil] at paired
  refine ⟨owns.balanced.ledger, ?_, dropped.ledger, dropped.live_eq, removed, paired⟩
  rw [owns.balanced.live_eq]
  cases drawing with
  | none =>
    have hidden : s.offers.activeText = none := by simpa using text.symm
    rw [hidden]
    rfl
  | some left =>
    obtain ⟨shown, active, same⟩ : ∃ shown, s.offers.activeText = some shown ∧
        s.ghost shown = left.ghost := by simpa using text.symm
    rw [active, Option.toList_some, List.map_singleton, look left rfl, ← same]
    rfl

end Session
end InlineCompletion.Ghost
