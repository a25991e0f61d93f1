import InlineCompletion.Proofs.Echo.Statement
import InlineCompletion.Proofs.Spacing.NormalForm
import InlineCompletion.Proofs.Spacing.Operator
import InlineCompletion.Proofs.Text.Search

/-!
What reconciliation does to the ink of a body. Every rule that is recorded took out one contiguous
block, the ink of its own echo, from what the rules before it had left; the cut then ends the text
behind its first semicolon. All else that happens on the way, be it the normal form, the trimming or
the respacing, touches blanks only, so nothing is put in and nothing else is lost.
-/
namespace InlineCompletion
open Text Spacing

/-- What a rule looks for. -/
def EchoRule.echo (label : String) (typed : Typed) : EchoRule → String
  | .sentinelMarker | .fullPrefix => typed.resolved
  | .labelEcho => label
  | .linePrefix => typed.line

/-- Blocks taken out of a text, one for each rule and in the order of the rules, each out of what
the one before it left. -/
inductive Erased (block : EchoRule → List Char) : List EchoRule → List Char → List Char → Prop where
  | none (text : List Char) : Erased block [] text text
  | rule {rules : List EchoRule} {text front back : List Char} {rule : EchoRule}
      (before : Erased block rules text (front ++ block rule ++ back)) :
      Erased block (rules ++ [rule]) text (front ++ back)

/-- What a reconciled body tells about the body: its ink, less the blocks of the recorded rules, up
to the first semicolon. -/
structure Accounted (label body : String) (typed : Typed) (r : Reconciled) : Prop where
  rules : r.rules.Sublist [.sentinelMarker, .labelEcho, .fullPrefix] ∨
    r.rules.Sublist [.sentinelMarker, .labelEcho, .linePrefix]
  ink : ∃ left, Erased (fun rule => ink (rule.echo label typed).toList) r.rules
      (ink body.toList) left ∧
    ink r.insertText.toList = firstStatement left ∧
    (r.truncated = true ↔ firstStatement left ≠ left)
  single : ';' ∉ r.insertText.toList.dropLast
  trimmed : Trimmed r.insertText.toList

/-- A rule does nothing, or it is recorded and took out one block. -/
inductive Acts (rule : EchoRule) (block : List Char) (before after : Stripped) : Prop where
  | idle (rules : after.rules = before.rules) (text : ink after.text = ink before.text)
  | fired {front back : List Char} (rules : after.rules = before.rules ++ [rule])
      (found : ink before.text = front ++ block ++ back) (left : ink after.text = front ++ back)

section
variable {rule : EchoRule} {s next : Stripped} {text : List Char}

theorem Acts.erased {block : EchoRule → List Char} (acts : Acts rule (block rule) s next)
    (erased : Erased block s.rules text (ink s.text)) :
    Erased block next.rules text (ink next.text) := by
  cases acts with
  | idle rules same => rwa [rules, same]
  | fired rules found left =>
    rw [found] at erased
    rw [rules, left]
    exact erased.rule

theorem Acts.rules {block : List Char} (acts : Acts rule block s next) :
    ∃ more, next.rules = s.rules ++ more ∧ more.Sublist [rule] := by
  cases acts with
  | idle rules => exact ⟨[], by rw [rules, List.append_nil], List.nil_sublist _⟩
  | fired rules => exact ⟨[rule], rules, .refl _⟩

/-- What is removed is a block of the ink. -/
theorem ink_removeFirst? {needle rest : List Char}
    (removed : removeFirst? needle text = some rest) :
    ∃ front back, ink text = front ++ ink needle ++ back ∧ ink rest = front ++ back := by
  obtain ⟨front, back, rfl, rfl⟩ := removeFirst?_eq removed
  exact ⟨ink front, ink back, by simp only [ink_append], ink_append front back⟩

theorem strip_acts (rule : EchoRule) (echo : List Char) (s : Stripped) :
    Acts rule (ink echo) s (s.strip rule echo) := by
  unfold Stripped.strip
  cases removed : removeFirst? echo s.text with
  | none => exact .idle rfl rfl
  | some rest =>
    obtain ⟨front, back, found, left⟩ := ink_removeFirst? removed
    exact .fired rfl found left

theorem stripSentinel_acts (marker resolved : List Char) (s : Stripped) :
    Acts .sentinelMarker (ink resolved) s (s.stripSentinel marker resolved) := by
  unfold Stripped.stripSentinel
  split
  · exact strip_acts .sentinelMarker resolved s
  · exact .idle rfl rfl

theorem stripLabel_acts (label : List Char) (s : Stripped) :
    Acts .labelEcho (ink label) s (s.stripLabel label) := by
  unfold Stripped.stripLabel
  cases removed : removeFirst? label s.text with
  | none => exact .idle rfl rfl
  | some rest =>
    obtain ⟨front, back, found, left⟩ := ink_removeFirst? removed
    exact .fired rfl found (by rw [ink_trimStart, left])

theorem stripTyped_acts (resolved line : List Char) (s : Stripped) :
    Acts .fullPrefix (ink resolved) s (s.stripTyped resolved line) ∨
      Acts .linePrefix (ink line) s (s.stripTyped resolved line) := by
  unfold Stripped.stripTyped
  cases removed : removeFirst? resolved s.text with
  | none => exact .inr (strip_acts .linePrefix line s)
  | some rest =>
    obtain ⟨front, back, found, left⟩ := ink_removeFirst? removed
    exact .inl (.fired rfl found left)

/-- The rules together: which of them can be recorded, and what they take out. -/
theorem stripEcho_spec (block : EchoRule → List Char) (marker label resolved line body : List Char)
    (sentinel : block .sentinelMarker = ink resolved) (full : block .fullPrefix = ink resolved)
    (echo : block .labelEcho = ink label) (lines : block .linePrefix = ink line) :
    let stripped := stripEcho marker label resolved line body
    (stripped.rules.Sublist [.sentinelMarker, .labelEcho, .fullPrefix] ∨
        stripped.rules.Sublist [.sentinelMarker, .labelEcho, .linePrefix]) ∧
      Erased block stripped.rules (ink body) (ink stripped.text) := by
  have first := stripSentinel_acts marker resolved ⟨body, []⟩
  have second := stripLabel_acts label ((Stripped.mk body []).stripSentinel marker resolved)
  have third := stripTyped_acts resolved line
    (((Stripped.mk body []).stripSentinel marker resolved).stripLabel label)
  obtain ⟨markers, markerRules, markerOnly⟩ := first.rules
  obtain ⟨labels, labelRules, labelOnly⟩ := second.rules
  rw [← sentinel] at first
  rw [← echo] at second
  have erased := second.erased (first.erased (.none (ink body)))
  rcases third with third | third
  · obtain ⟨prefixes, prefixRules, prefixOnly⟩ := third.rules
    rw [← full] at third
    refine ⟨.inl ?_, third.erased erased⟩
    rw [stripEcho, prefixRules, labelRules, markerRules]
    exact (markerOnly.append labelOnly).append prefixOnly
  · obtain ⟨prefixes, prefixRules, prefixOnly⟩ := third.rules
    rw [← lines] at third
    refine ⟨.inr ?_, third.erased erased⟩
    rw [stripEcho, prefixRules, labelRules, markerRules]
    exact (markerOnly.append labelOnly).append prefixOnly

end

/-- Reconciliation fails exactly for a missing body, and else its ink is accounted for: nothing is
invented, and nothing is lost but the recorded echo and what follows the first statement. -/
theorem reconcile_accounted (marker label : String) (typed : Typed) :
    reconcile marker label none typed = .error (.noUsableResponse label) ∧
      ∀ body, ∃ r, reconcile marker label (some body) typed = .ok r ∧
        Accounted label body typed r := by
  refine ⟨rfl, fun body => ⟨reconcileBody marker label body typed, rfl, ?_⟩⟩
  obtain ⟨rules, erased⟩ := stripEcho_spec (fun rule => ink (rule.echo label typed).toList)
    marker.toList (normalForm label.toList) (normalForm typed.resolved.toList)
    (normalForm typed.line.toList) (normalForm body.toList)
    (ink_normalForm _).symm (ink_normalForm _).symm (ink_normalForm _).symm (ink_normalForm _).symm
  rw [ink_normalForm] at erased
  have spaced := respaced_trimmed (echoless marker label body typed).text
  constructor
  case rules => exact rules
  case ink =>
    refine ⟨_, erased, ?_, ?_⟩
    · rw [reconcileBody_text, ink_firstStatement, ink_respaced]
      rfl
    · rw [reconcileBody_truncated, ne_eq, firstStatement_eq_iff spaced, ink_respaced]
      rfl
  case single =>
    rw [reconcileBody_text]
    exact semicolon_last _
  case trimmed =>
    rw [reconcileBody_text]
    exact firstStatement_trimmed spaced

end InlineCompletion
