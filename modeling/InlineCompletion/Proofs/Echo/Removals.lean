import Mathlib.Data.List.Nodup
import InlineCompletion.Proofs.Echo.Statement
import InlineCompletion.Proofs.Spacing.NormalForm
import InlineCompletion.Proofs.Text.Search

/-!
How often what is typed is removed. Each rule has one turn, in which it takes out the first
occurrence of its echo in what the rules before it left; every further occurrence stays. Two rules
look for what is typed, and the later one does not ask whether the first one has found it. So what
is typed is removed once, but twice if it is the object marker and still occurs when the marker and
the label are gone.
-/
namespace InlineCompletion
open Text Spacing

/-- What is typed is just the marker, with or without a dot after it. -/
def MarkerTyped (marker : String) (typed : Typed) : Prop :=
  marker ≠ "" ∧ (normalize typed.resolved = marker ∨ normalize typed.resolved = marker ++ ".")

/-- There is something to look for in a text, and it occurs. -/
def Occurs (echo : String) (text : List Char) : Prop :=
  normalize echo ≠ "" ∧ (normalize echo).toList <:+: text

/-- The turn of a rule. Where it applies and its echo occurs, it takes out the first occurrence and
is recorded; else nothing changes. -/
inductive Turn (rule : EchoRule) (applies : Prop) (echo : String) (tidy : List Char → List Char)
    (before : Stripped) : Stripped → Prop where
  | acts {left : List Char} (applied : applies)
      (taken : TakesOut (normalize echo).toList before.text left) :
      Turn rule applies echo tidy before ⟨tidy left, before.rules ++ [rule]⟩
  | rests (nothing : ¬ (applies ∧ Occurs echo before.text)) :
      Turn rule applies echo tidy before before

/-- The turns of the rules on a body, with what each of them leaves. -/
structure Turns (marker label body : String) (typed : Typed)
    (unmarked unlabelled untyped left : Stripped) : Prop where
  sentinelMarker : Turn .sentinelMarker (MarkerTyped marker typed) typed.resolved id
    ⟨(normalize body).toList, []⟩ unmarked
  labelEcho : Turn .labelEcho True label trimStart unmarked unlabelled
  fullPrefix : Turn .fullPrefix True typed.resolved id unlabelled untyped
  linePrefix : Turn .linePrefix (.fullPrefix ∉ untyped.rules) typed.line id untyped left

section
variable {rule other : EchoRule} {applies : Prop} {echo marker label body : String} {typed : Typed}
  {tidy : List Char → List Char} {s next : Stripped}

theorem isSentinel_iff :
    isSentinel marker.toList (normalForm typed.resolved.toList) = true ↔
      MarkerTyped marker typed := by
  have dotted : (marker ++ ".").toList = marker.toList ++ ['.'] := String.toList_append
  rw [MarkerTyped, ← String.toList_inj, ← String.toList_inj, dotted, normalize_toList, isSentinel,
    Bool.and_eq_true, Bool.or_eq_true, beq_iff_eq, beq_iff_eq]
  simp

theorem occurs_iff {text : List Char} :
    Occurs echo text ↔ (removeFirst? (normalForm echo.toList) text).isSome := by
  rw [Occurs, removeFirst?_isSome_iff, normalize_toList, ne_eq, normalize_eq_empty_iff]

/-- What occurs is taken out, and nothing is taken out that does not occur. -/
theorem Turn.of_removeFirst? (rule : EchoRule) (applied : applies) (echo : String)
    (tidy : List Char → List Char) (s : Stripped) :
    Turn rule applies echo tidy s
      (match removeFirst? (normalForm echo.toList) s.text with
      | some left => ⟨tidy left, s.rules ++ [rule]⟩
      | none => s) := by
  cases removed : removeFirst? (normalForm echo.toList) s.text with
  | none =>
    refine .rests fun ⟨_, occurs⟩ => ?_
    rw [occurs_iff, removed] at occurs
    cases occurs
  | some left =>
    rw [removeFirst?_eq_some_iff, ← normalize_toList] at removed
    exact .acts applied removed

theorem Turn.other_iff (turn : Turn rule applies echo tidy s next) (apart : other ≠ rule) :
    other ∈ next.rules ↔ other ∈ s.rules := by
  cases turn with
  | acts => simp [apart]
  | rests => rfl

/-- A rule is recorded in its turn exactly if it applies and its echo occurs. -/
theorem Turn.recorded_iff (turn : Turn rule applies echo tidy s next) (fresh : rule ∉ s.rules) :
    rule ∈ next.rules ↔ applies ∧ Occurs echo s.text := by
  cases turn with
  | acts applied taken =>
    obtain ⟨present, split⟩ := taken
    have occurs : Occurs echo s.text := by
      refine ⟨?_, _, _, split.whole.symm⟩
      rwa [ne_eq, ← String.toList_inj]
    simp [applied, occurs]
  | rests nothing => simp [fresh, nothing]

theorem Turn.nodup (turn : Turn rule applies echo tidy s next) (fresh : rule ∉ s.rules)
    (once : s.rules.Nodup) : next.rules.Nodup := by
  cases turn with
  | acts => exact List.Nodup.append once (List.nodup_singleton rule) (by simpa using fresh)
  | rests => exact once

theorem stripTyped_turns (s : Stripped) (fresh : .fullPrefix ∉ s.rules) (typed : Typed) :
    ∃ untyped, Turn .fullPrefix True typed.resolved id s untyped ∧
      Turn .linePrefix (.fullPrefix ∉ untyped.rules) typed.line id untyped
        (s.stripTyped (normalForm typed.resolved.toList) (normalForm typed.line.toList)) := by
  have full := Turn.of_removeFirst? .fullPrefix trivial typed.resolved id s
  refine ⟨_, full, ?_⟩
  unfold Stripped.stripTyped
  cases removed : removeFirst? (normalForm typed.resolved.toList) s.text with
  | none => exact .of_removeFirst? .linePrefix fresh typed.line id s
  | some left =>
    -- the line is looked for only if what is typed was not found
    exact .rests fun ⟨unrecorded, _⟩ => unrecorded (by simp)

theorem echoless_turns (marker label body : String) (typed : Typed) :
    ∃ unmarked unlabelled untyped,
      Turns marker label body typed unmarked unlabelled untyped
        (echoless marker label body typed) := by
  have first : Turn .sentinelMarker (MarkerTyped marker typed) typed.resolved id
      ⟨(normalize body).toList, []⟩ ((Stripped.mk (normalForm body.toList) []).stripSentinel
        marker.toList (normalForm typed.resolved.toList)) := by
    rw [normalize_toList]
    unfold Stripped.stripSentinel
    split
    next sentinel => exact .of_removeFirst? _ (isSentinel_iff.mp sentinel) _ _ _
    next other => exact .rests fun ⟨typedOnly, _⟩ => other (isSentinel_iff.mpr typedOnly)
  have second := Turn.of_removeFirst? .labelEcho trivial label trimStart
    ((Stripped.mk (normalForm body.toList) []).stripSentinel marker.toList
      (normalForm typed.resolved.toList))
  have fresh : .fullPrefix ∉ (((Stripped.mk (normalForm body.toList) []).stripSentinel
      marker.toList (normalForm typed.resolved.toList)).stripLabel (normalForm label.toList)).rules := by
    intro recorded
    have earlier := (first.other_iff (by decide)).mp ((second.other_iff (by decide)).mp recorded)
    cases earlier
  obtain ⟨untyped, third, fourth⟩ := stripTyped_turns _ fresh typed
  exact ⟨_, _, untyped, first, second, third, fourth⟩

/-- Which of the turns were recorded. -/
theorem Turns.recorded {unmarked unlabelled untyped left : Stripped}
    (turns : Turns marker label body typed unmarked unlabelled untyped left) :
    (.sentinelMarker ∈ left.rules ↔
        MarkerTyped marker typed ∧ Occurs typed.resolved (normalize body).toList) ∧
      (.fullPrefix ∈ left.rules ↔ Occurs typed.resolved unlabelled.text) ∧ left.rules.Nodup := by
  obtain ⟨first, second, third, fourth⟩ := turns
  have noMarker : EchoRule.sentinelMarker ∉ ([] : List EchoRule) := List.not_mem_nil
  have noLabel : .labelEcho ∉ unmarked.rules := by
    rw [first.other_iff (by decide)]
    exact List.not_mem_nil
  have noFull : .fullPrefix ∉ unlabelled.rules := by
    rw [second.other_iff (by decide), first.other_iff (by decide)]
    exact List.not_mem_nil
  have noLine : .linePrefix ∉ untyped.rules := by
    rw [third.other_iff (by decide), second.other_iff (by decide), first.other_iff (by decide)]
    exact List.not_mem_nil
  refine ⟨?_, ?_, ?_⟩
  · rw [fourth.other_iff (by decide), third.other_iff (by decide), second.other_iff (by decide),
      first.recorded_iff noMarker]
  · rw [fourth.other_iff (by decide), third.recorded_iff noFull, true_and]
  · exact fourth.nodup noLine (third.nodup noFull (second.nodup noLabel
      (first.nodup noMarker List.nodup_nil)))

end

/-- The rules for what is typed remove it at most once unless it is the marker, and then at most
twice: the second time exactly if it occurs in what the marker rule and the label rule have left.
Each removal takes the first occurrence and leaves all others. -/
theorem typed_removals (marker label body : String) (typed : Typed) :
    ∃ r unmarked unlabelled untyped left, reconcile marker label (some body) typed = .ok r ∧
      Turns marker label body typed unmarked unlabelled untyped left ∧ r.rules = left.rules ∧
      r.insertText.toList = firstStatement (respaced left.text) ∧ r.rules.Nodup ∧
      (.sentinelMarker ∈ r.rules ∧ .fullPrefix ∈ r.rules ↔
        MarkerTyped marker typed ∧ Occurs typed.resolved (normalize body).toList ∧
          Occurs typed.resolved unlabelled.text) := by
  obtain ⟨unmarked, unlabelled, untyped, turns⟩ := echoless_turns marker label body typed
  obtain ⟨sentinel, full, once⟩ := turns.recorded
  refine ⟨reconcileBody marker label body typed, unmarked, unlabelled, untyped, _, rfl, turns,
    reconcileBody_rules marker label body typed, reconcileBody_text marker label body typed, ?_, ?_⟩
  · rw [reconcileBody_rules]
    exact once
  · rw [reconcileBody_rules, sentinel, full, and_assoc]

/-- The marker is typed, and the body mentions it again behind the echo: both mentions are gone. -/
theorem typed_removals_twice :
    reconcile "TextWindow" "WriteLine" (some "TextWindow.WriteLine(TextWindow.CursorLeft);")
      ⟨"TextWindow.", "TextWindow."⟩ =
        .ok ⟨"(CursorLeft);", [.sentinelMarker, .labelEcho, .fullPrefix], false⟩ := by
  decide +kernel

end InlineCompletion
