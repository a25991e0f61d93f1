import InlineCompletion.Proofs.Echo.Accounting

/-!
A body that repeats what is typed. However the repetition is spaced, and wherever it stands, it is
found; and where the body starts with it, what is inserted is what the rest of the body alone would
have given. This holds for all that is typed unless that is just the object marker, and for the line
when all that is typed does not occur.
-/
namespace InlineCompletion
open Text Spacing

/-- Nothing in a body can be taken for this echo. -/
def Absent (echo body : String) : Prop :=
  normalize echo = "" ∨ ¬ (normalize echo).toList <:+: (normalize body).toList

/-- A rule removes its echo from a body, and no other rule removes anything. -/
structure RemovesEcho (marker label body : String) (typed : Typed) (rule : EchoRule) : Prop where
  /-- The echo is found wherever it stands and however it is spaced. -/
  anywhere : ∀ front fragment back, body = front ++ fragment ++ back →
    normalize fragment = normalize (rule.echo label typed) → normalize fragment ≠ "" →
    ∃ r, reconcile marker label (some body) typed = .ok r ∧ r.rules = [rule]
  /-- At the start of the body it leaves what the rest alone would have given. -/
  atStart : ∀ fragment rest, body = fragment ++ rest →
    normalize fragment = normalize (rule.echo label typed) → normalize fragment ≠ "" →
    ∃ r plain, reconcile marker label (some body) typed = .ok r ∧ r.rules = [rule] ∧
      reconcile marker "" (some rest) ⟨"", ""⟩ = .ok plain ∧ plain.rules = [] ∧
      r.insertText = plain.insertText ∧ r.truncated = plain.truncated ∧
      r.insertText.toList = firstStatement (respaceOperators (normalize rest)).toList ∧
      (r.truncated = true ↔ firstStatement (respaceOperators (normalize rest)).toList ≠
        (respaceOperators (normalize rest)).toList)

theorem Absent.not_removed {echo body : String} (absent : Absent echo body) :
    removeFirst? (normalForm echo.toList) (normalForm body.toList) = none := by
  rw [removeFirst?_eq_none_iff, ← normalize_eq_empty_iff, ← normalize_toList, ← normalize_toList]
  exact absent

section
variable {marker label body : String} {typed : Typed} {rule : EchoRule} {rest : List Char}

theorem isSentinel_eq_false (noMarker : normalize typed.resolved ≠ marker)
    (noDottedMarker : normalize typed.resolved ≠ marker ++ ".") :
    isSentinel marker.toList (normalForm typed.resolved.toList) = false := by
  have plain : normalForm typed.resolved.toList ≠ marker.toList := by
    rwa [← normalize_toList, ne_eq, String.toList_inj]
  have dotted : normalForm typed.resolved.toList ≠ marker.toList ++ ['.'] := by
    have same : marker.toList ++ ['.'] = (marker ++ ".").toList := by simp
    rwa [same, ← normalize_toList, ne_eq, String.toList_inj]
  simp [isSentinel, plain, dotted]

/-- With neither marker nor label only the typed text is looked for. -/
theorem echoless_eq
    (noSentinel : isSentinel marker.toList (normalForm typed.resolved.toList) = false)
    (noLabel : Absent label body) :
    echoless marker label body typed =
      (Stripped.mk (normalForm body.toList) []).stripTyped (normalForm typed.resolved.toList)
        (normalForm typed.line.toList) := by
  have first : (Stripped.mk (normalForm body.toList) []).stripSentinel marker.toList
      (normalForm typed.resolved.toList) = ⟨normalForm body.toList, []⟩ := by
    simp [Stripped.stripSentinel, noSentinel]
  have second : (Stripped.mk (normalForm body.toList) []).stripLabel (normalForm label.toList) =
      ⟨normalForm body.toList, []⟩ := by
    simp [Stripped.stripLabel, noLabel.not_removed]
  rw [echoless, stripEcho, first, second]

/-- With nothing to look for a body is only respaced and cut. -/
theorem echoless_plain (marker body : String) :
    echoless marker "" body ⟨"", ""⟩ = ⟨normalForm body.toList, []⟩ := by
  have empty : normalForm "".toList = [] := by
    rw [String.toList_empty]
    rfl
  have noSentinel : isSentinel marker.toList (normalForm "".toList) = false := by
    rw [empty]
    cases marker.toList <;> rfl
  have nothing : Absent "" body := .inl (normalize_eq_empty_iff.mpr empty)
  have typedOnly : echoless marker "" body ⟨"", ""⟩ =
      (Stripped.mk (normalForm body.toList) []).stripTyped (normalForm "".toList)
        (normalForm "".toList) := echoless_eq noSentinel nothing
  rw [typedOnly]
  unfold Stripped.stripTyped Stripped.strip
  rw [nothing.not_removed]

/-- A rule that removes the first occurrence of its echo, and lets no other rule remove anything,
removes its echo whatever its spacing. -/
theorem removesEcho_of
    (removes : ∀ rest, removeFirst? (normalForm (rule.echo label typed).toList)
      (normalForm body.toList) = some rest → echoless marker label body typed = ⟨rest, [rule]⟩) :
    RemovesEcho marker label body typed rule := by
  constructor
  case anywhere =>
    intro front fragment back whole same present
    have occurs := normalForm_infix fragment.toList front.toList back.toList
    rw [← String.toList_append, ← String.toList_append, ← whole, normalize_eq_iff.mp same] at occurs
    rw [same, ne_eq, normalize_eq_empty_iff] at present
    obtain ⟨rest, removed⟩ := Option.isSome_iff_exists.mp
      (removeFirst?_isSome_iff.mpr ⟨present, occurs⟩)
    refine ⟨_, rfl, ?_⟩
    rw [reconcileBody_rules, removes rest removed]
  case atStart =>
    intro fragment rest whole same present
    rw [ne_eq, normalize_eq_empty_iff] at present
    obtain ⟨after, split, start⟩ := normalForm_append fragment.toList rest.toList present
    rw [← String.toList_append, ← whole] at split
    have removed := removeFirst?_start present after
    rw [← split, normalize_eq_iff.mp same] at removed
    have left := removes after removed
    -- the rest of the body may keep a gap from the seam, which respacing drops
    have spaced : respaced after = respaced (normalForm rest.toList) := by
      rw [← start, respaced_trimStart]
    have respace : (respaceOperators (normalize rest)).toList =
        respaced (normalForm rest.toList) := by
      rw [respaceOperators, String.toList_ofList, normalize_toList]
    refine ⟨_, _, rfl, ?_, rfl, ?_, ?_, ?_, ?_, ?_⟩
    · rw [reconcileBody_rules, left]
    · rw [reconcileBody_rules, echoless_plain]
    · rw [← String.toList_inj, reconcileBody_text, reconcileBody_text, left, echoless_plain, spaced]
    · rw [Bool.eq_iff_iff, reconcileBody_truncated, reconcileBody_truncated, left, echoless_plain,
        spaced]
    · rw [reconcileBody_text, left, spaced, respace]
    · rw [reconcileBody_truncated, left, spaced, respace]

/-- A body that repeats what is typed loses the repetition, however it is spaced. -/
theorem repeatedPrefix_removed (marker label body : String) (typed : Typed)
    (noMarker : normalize typed.resolved ≠ marker)
    (noDottedMarker : normalize typed.resolved ≠ marker ++ ".") (noLabel : Absent label body) :
    RemovesEcho marker label body typed .fullPrefix ∧
      (Absent typed.resolved body → RemovesEcho marker label body typed .linePrefix) := by
  have typedOnly := echoless_eq (isSentinel_eq_false noMarker noDottedMarker) noLabel
  constructor
  · refine removesEcho_of fun rest removed => ?_
    rw [typedOnly, Stripped.stripTyped]
    simp only [EchoRule.echo] at removed
    simp [removed]
  · intro elsewhere
    refine removesEcho_of fun rest removed => ?_
    rw [typedOnly, Stripped.stripTyped]
    simp only [EchoRule.echo] at removed
    simp [elsewhere.not_removed, Stripped.strip, removed]

/-- A body that spaces the line in its own way, and repeats it although more is typed. -/
theorem repeatedPrefix_removed_respaced :
    normalize "int y;\nx = (" ≠ "TextWindow" ∧ normalize "int y;\nx = (" ≠ "TextWindow" ++ "." ∧
      Absent "value" " x=( 10) ; y" ∧ Absent "int y;\nx = (" " x=( 10) ; y" ∧
      ∃ r, reconcile "TextWindow" "value" (some " x=( 10) ; y") ⟨"int y;\nx = (", "x = ("⟩ = .ok r ∧
        r.rules = [.linePrefix] ∧ r.insertText = "10);" ∧ r.truncated = true := by
  have noMarker : normalize "int y;\nx = (" ≠ "TextWindow" := by decide +kernel
  have noDottedMarker : normalize "int y;\nx = (" ≠ "TextWindow" ++ "." := by decide +kernel
  have noLabel : Absent "value" " x=( 10) ; y" := .inr (by decide +kernel)
  have elsewhere : Absent "int y;\nx = (" " x=( 10) ; y" := .inr (by decide +kernel)
  refine ⟨noMarker, noDottedMarker, noLabel, elsewhere, ?_⟩
  have removes := (repeatedPrefix_removed "TextWindow" "value" " x=( 10) ; y"
    ⟨"int y;\nx = (", "x = ("⟩ noMarker noDottedMarker noLabel).2 elsewhere
  obtain ⟨r, plain, done, rules, -, -, -, -, text, cut⟩ :=
    removes.atStart " x=( " "10) ; y" (by decide +kernel) (by decide +kernel) (by decide +kernel)
  refine ⟨r, done, rules, ?_, ?_⟩
  · rw [← String.toList_inj, text]
    decide +kernel
  · rw [cut]
    decide +kernel

end
end InlineCompletion
