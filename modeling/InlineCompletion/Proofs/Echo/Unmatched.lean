import InlineCompletion.Proofs.Echo.Removals
import InlineCompletion.Proofs.Spacing.Absorption

/-!
A body in which no rule finds an echo. All its ink is inserted up to the first semicolon, and so are
the gaps between ordinary characters; but the body has gone through its normal form, which respacing
does not undo. So it is inserted as it was written exactly if its lexemes stay apart and no blank
stands beside a parenthesis.
-/
namespace InlineCompletion
open Text Spacing

/-- What respacing and the cut alone make of a body. -/
def literalStatement (body : String) : List Char :=
  firstStatement (respaceOperators body).toList

/-- What becomes of a body in which no rule finds an echo. -/
structure HandedOn (body : String) (r : Reconciled) : Prop where
  /-- The body goes through its normal form, before or after it is respaced and cut. -/
  normal : r.insertText.toList = firstStatement (respaceOperators (normalize body)).toList ∧
    r.insertText = respaceOperators (normalize (.ofList (literalStatement body)))
  ink : ink r.insertText.toList = ink (literalStatement body)
  truncated : r.truncated = true ↔ literalStatement body ≠ (respaceOperators body).toList
  literal : r.insertText.toList = literalStatement body ↔
    (bareLexemes (literalStatement body)).IsChain Fits
  gaps : ∀ (front gap back : List Char) (first second : Char),
    body.toList = front ++ first :: (gap ++ second :: back) → ';' ∉ front → first ≠ ';' →
    Ordinary first → Ordinary second → Text.ink gap = [] →
    ∃ start stop, Text.ink start = Text.ink front ∧
      r.insertText.toList = start ++ first :: (gap ++ second :: stop)

section
variable {rule : EchoRule} {applies : Prop} {echo marker label body : String} {typed : Typed}
  {tidy : List Char → List Char} {s next : Stripped}

theorem Turn.eq_of_unrecorded (turn : Turn rule applies echo tidy s next)
    (unrecorded : next.rules = []) : next = s := by
  cases turn with
  | acts => exact absurd unrecorded (List.append_ne_nil_of_right_ne_nil _ (List.cons_ne_nil _ _))
  | rests => rfl

/-- Where no rule is recorded, no rule has changed anything. -/
theorem echoless_unmatched (unmatched : (echoless marker label body typed).rules = []) :
    (echoless marker label body typed).text = normalForm body.toList := by
  obtain ⟨unmarked, unlabelled, untyped, first, second, third, fourth⟩ :=
    echoless_turns marker label body typed
  have noLine := fourth.eq_of_unrecorded unmatched
  rw [noLine] at unmatched ⊢
  have noFull := third.eq_of_unrecorded unmatched
  rw [noFull] at unmatched ⊢
  have noLabel := second.eq_of_unrecorded unmatched
  rw [noLabel] at unmatched ⊢
  rw [first.eq_of_unrecorded unmatched, normalize_toList]

theorem literalStatement_eq (body : String) :
    literalStatement body = respaced (firstStatement body.toList) := by
  rw [literalStatement, respaceOperators_toList, firstStatement_respaced]

end

/-- A body in which no rule finds an echo is handed on with its ink and its ordinary gaps; it is
handed on as it was written exactly if its lexemes stay apart. -/
theorem unmatched_handedOn (marker label body : String) (typed : Typed) :
    ∃ r, reconcile marker label (some body) typed = .ok r ∧
      (r.isUnmodified = true → HandedOn body r) := by
  refine ⟨reconcileBody marker label body typed, rfl, fun unmodified => ?_⟩
  have unmatched : (echoless marker label body typed).rules = [] := by
    rwa [Reconciled.isUnmodified, List.isEmpty_iff, reconcileBody_rules] at unmodified
  have left := echoless_unmatched unmatched
  have text : (reconcileBody marker label body typed).insertText.toList =
      firstStatement (respaced (normalForm body.toList)) := by
    rw [reconcileBody_text, left]
  have cutFirst : firstStatement (respaced (normalForm body.toList)) =
      respaced (normalForm (firstStatement body.toList)) := by
    rw [firstStatement_respaced, firstStatement_normalForm]
  have sameInk : ink (respaced (normalForm body.toList)) = ink (respaced body.toList) := by simp
  constructor
  case normal =>
    constructor
    · rw [text, respaceOperators_toList, normalize_toList]
    · rw [← String.toList_inj, text, cutFirst, respaceOperators_toList, normalize_toList,
        String.toList_ofList, literalStatement_eq, respaced_normalForm_absorbs]
  case ink => rw [text, ink_firstStatement, sameInk, ← ink_firstStatement, literalStatement,
    respaceOperators_toList]
  case truncated =>
    rw [reconcileBody_truncated, left, literalStatement, respaceOperators_toList, ne_eq, ne_eq,
      firstStatement_eq_iff (respaced_trimmed _), firstStatement_eq_iff (respaced_trimmed _), sameInk]
  case literal =>
    rw [text, cutFirst, literalStatement_eq]
    exact respaced_normalForm_eq_iff _
  case gaps =>
    intro front gap back first second whole unended running ordinary ordinaryNext blanks
    obtain ⟨start, stop, startInk, spaced⟩ :=
      respaced_normalForm_gap ordinary ordinaryNext blanks front back
    have uncut : ';' ∉ start ++ first :: gap := by
      rw [semicolon_iff_ink, ink_append, startInk, ink_cons_inked ordinary.inked, blanks,
        List.mem_append, ← semicolon_iff_ink]
      rintro (inFront | here)
      · exact unended inFront
      · exact running (List.mem_singleton.mp here).symm
    have cut := firstStatement_behind uncut (second :: stop)
    rw [List.append_assoc, List.cons_append, ← spaced, ← whole, firstStatement,
      firstStatement, List.take_succ_cons, ← firstStatement, List.append_assoc, List.cons_append] at cut
    exact ⟨start, _, startInk, text.trans cut⟩

/-- A body that no rule touches, with a gap that stays and margins that are put in. -/
theorem unmatched_handedOn_return :
    ∃ r, reconcile "TextWindow" "while" (some "return  x+=1; y") ⟨"int y", "int y"⟩ = .ok r ∧
      r.isUnmodified = true ∧ HandedOn "return  x+=1; y" r ∧ r.insertText = "return  x += 1;" := by
  obtain ⟨r, done, handed⟩ :=
    unmatched_handedOn "TextWindow" "while" "return  x+=1; y" ⟨"int y", "int y"⟩
  have found : reconcile "TextWindow" "while" (some "return  x+=1; y") ⟨"int y", "int y"⟩ =
      .ok ⟨"return  x += 1;", [], true⟩ := by decide +kernel
  obtain rfl := Except.ok.inj (done.symm.trans found)
  exact ⟨_, found, rfl, handed rfl, rfl⟩

/-- Blanks beside the parentheses of a string literal are lost, although no rule touches the body. -/
theorem unmatched_handedOn_literal :
    reconcile "TextWindow" "Show" (some "puts(\"f (x)\");") ⟨"", ""⟩ =
        .ok ⟨"puts(\"f(x)\");", [], false⟩ ∧
      literalStatement "puts(\"f (x)\");" = "puts(\"f (x)\");".toList := by
  constructor <;> decide +kernel

end InlineCompletion
