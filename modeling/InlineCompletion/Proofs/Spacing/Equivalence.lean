import Mathlib.Logic.Relation
import InlineCompletion.Echo
import InlineCompletion.Proofs.Spacing.NormalForm

/-!
What the normal form tells apart. Two texts have the same normal form exactly if changes of
irrelevant spacing turn one of them into the other: no single change moves the normal form, and
every text comes down to its normal form by deleting such blanks alone. So nothing that is computed
from normal forms, reconciliation in particular, depends on the spacing of what it was given.
-/
namespace InlineCompletion.Spacing
open Text
variable {text looser other first second gap : List Char} {mark blank : Char}

/-- Finitely many deletions of irrelevant blanks turn a text into another. -/
abbrev Tightens : List Char → List Char → Prop :=
  Relation.ReflTransGen fun looser text => Loosens text looser

/-! ### A change of spacing -/

/-- What stands before a part sees only the tightened part. -/
theorem tighten_append_congr (front : List Char) (same : tighten first = tighten second) :
    tighten (front ++ first) = tighten (front ++ second) := by
  induction front with
  | nil => exact same
  | cons c front ih => rw [List.cons_append, List.cons_append, tighten, tighten, ih]

theorem tighten_blank_tight (space : isBlank blank = true) (tight : isTight mark = true)
    (rest : List Char) : tighten (blank :: mark :: rest) = tighten (mark :: rest) := by
  rw [tighten, tighten, prependTight_tight tight, prependTight]
  simp [isTight_of_isBlank space, space, startsTight, tight]

/-- No single change moves the normal form. -/
theorem normalForm_of_loosens (step : Loosens text looser) :
    normalForm looser = normalForm text := by
  cases step with
  | afterTight before after mark blank tight space =>
    have seam : tighten (mark :: blank :: after) = tighten (mark :: after) := by
      rw [tighten, tighten, tighten, prependTight_tight tight, prependTight_tight tight,
        trimStart_prependTight space]
    rw [normalForm, normalForm, tighten_append_congr before seam]
  | beforeTight before after mark blank tight space =>
    rw [normalForm, normalForm, tighten_append_congr before (tighten_blank_tight space tight after)]
  | atStart text blank space => exact normalForm_gap [blank] text (ink_cons_blank space [])
  | atEnd text blank space => exact normalForm_append_gap text (ink_cons_blank space [])

theorem SpacingEquivalent.normalForm_eq (same : SpacingEquivalent first second) :
    normalForm first = normalForm second := by
  induction same with
  | refl text => rfl
  | loosen step rest ih => rw [← ih, normalForm_of_loosens step]
  | tighten step rest ih => rw [← ih, normalForm_of_loosens step]

/-! ### Deletions -/

theorem tightens_trimStart (front rest : List Char) (tight : isTight mark = true) :
    Tightens (front ++ mark :: rest) (front ++ mark :: trimStart rest) := by
  induction rest with
  | nil => exact .refl
  | cons c rest ih =>
    cases space : isBlank c with
    | true =>
      rw [trimStart_blank space]
      exact .head (.afterTight front rest mark c tight space) ih
    | false => rw [trimStart_inked space]

/-- Behind any front a text is tightened by deletions alone. -/
theorem tightens_tighten (front text : List Char) :
    Tightens (front ++ text) (front ++ tighten text) := by
  induction text generalizing front with
  | nil => exact .refl
  | cons c rest ih =>
    -- the rest is tightened first, with this character as part of the front
    have inside : Tightens (front ++ c :: rest) (front ++ c :: tighten rest) := by
      simpa using ih (front ++ [c])
    refine inside.trans ?_
    rw [tighten, prependTight]
    split
    next tight => exact tightens_trimStart front _ tight
    next =>
      split
      next dropped =>
        obtain ⟨space, starts⟩ := Bool.and_eq_true_iff.mp dropped
        cases left : tighten rest with
        | nil =>
          rw [left] at starts
          cases starts
        | cons mark others =>
          rw [left] at starts
          exact .single (.beforeTight front others mark c starts space)
      next => exact .refl

theorem tightens_gap (gap rest : List Char) (blanks : ink gap = []) :
    Tightens (gap ++ rest) rest := by
  induction gap with
  | nil => exact .refl
  | cons c gap ih =>
    obtain ⟨space, others⟩ := blank_of_ink blanks
    exact .head (.atStart (gap ++ rest) c space) (ih others)

theorem tightens_append_gap (text : List Char) (blanks : ink gap = []) :
    Tightens (text ++ gap) text := by
  induction gap generalizing text with
  | nil => rw [List.append_nil]
  | cons c gap ih =>
    obtain ⟨space, others⟩ := blank_of_ink blanks
    rw [List.append_cons]
    exact (ih (text ++ [c]) others).tail (.atEnd text c space)

/-- Every text comes down to its normal form by deletions alone. -/
theorem tightens_normalForm (text : List Char) : Tightens text (normalForm text) := by
  obtain ⟨front, back, before, after, split⟩ := trim_split (tighten text)
  have inside : Tightens text (tighten text) := tightens_tighten [] text
  have stop : Tightens (tighten text) (front ++ normalForm text) := by
    conv_lhs => rw [split]
    exact tightens_append_gap _ after
  exact (inside.trans stop).trans (tightens_gap front _ before)

/-! ### Classes of texts -/

theorem SpacingEquivalent.trans (same : SpacingEquivalent text looser)
    (next : SpacingEquivalent looser other) : SpacingEquivalent text other := by
  induction same with
  | refl text => exact next
  | loosen step rest ih => exact .loosen step (ih next)
  | tighten step rest ih => exact .tighten step (ih next)

theorem SpacingEquivalent.symm (same : SpacingEquivalent first second) :
    SpacingEquivalent second first := by
  induction same with
  | refl text => exact .refl text
  | loosen step rest ih => exact ih.trans (.tighten step (.refl _))
  | tighten step rest ih => exact ih.trans (.loosen step (.refl _))

theorem Tightens.equivalent (deleted : Tightens looser text) : SpacingEquivalent looser text := by
  induction deleted with
  | refl => exact .refl looser
  | tail before step ih => exact ih.trans (.tighten step (.refl _))

/-- The normal form is the same exactly for texts that differ in irrelevant spacing only. -/
theorem normalForm_eq_iff : normalForm first = normalForm second ↔
    SpacingEquivalent first second := by
  constructor
  · intro same
    have down := (tightens_normalForm first).equivalent
    have up := (tightens_normalForm second).equivalent.symm
    rw [← same] at up
    exact down.trans up
  · exact SpacingEquivalent.normalForm_eq

theorem normalForm_normalForm (text : List Char) : normalForm (normalForm text) = normalForm text :=
  (tightens_normalForm text).equivalent.normalForm_eq.symm

/-! ### What is computed from normal forms -/

/-- Reconciliation sees the normal forms of what it is given, and nothing else of it. -/
theorem reconcile_congr {label label' body body' : String} {typed typed' : Typed}
    (marker : String) (sameLabel : normalize label = normalize label')
    (sameBody : normalize body = normalize body')
    (sameResolved : normalize typed.resolved = normalize typed'.resolved)
    (sameLine : normalize typed.line = normalize typed'.line) :
    reconcile marker label (some body) typed = reconcile marker label' (some body') typed' := by
  rw [normalize_eq_iff] at sameLabel sameBody sameResolved sameLine
  simp only [reconcile, reconcileBody, sameLabel, sameBody, sameResolved, sameLine]

/-- The normal form tells apart exactly the texts that differ in more than irrelevant spacing, it is
reached by deletions and is its own normal form; so reconciliation does not see such spacing. -/
theorem normalize_classifies :
    (∀ text other : String,
      normalize text = normalize other ↔ SpacingEquivalent text.toList other.toList) ∧
    (∀ text : String,
      Tightens text.toList (normalize text).toList ∧ normalize (normalize text) = normalize text) ∧
    ∀ (marker label label' body body' : String) (typed typed' : Typed),
      SpacingEquivalent label.toList label'.toList →
      SpacingEquivalent body.toList body'.toList →
      SpacingEquivalent typed.resolved.toList typed'.resolved.toList →
      SpacingEquivalent typed.line.toList typed'.line.toList →
      ∃ r, reconcile marker label (some body) typed = .ok r ∧
        reconcile marker label' (some body') typed' = .ok r := by
  have classes (text other : String) :
      normalize text = normalize other ↔ SpacingEquivalent text.toList other.toList :=
    normalize_eq_iff.trans normalForm_eq_iff
  refine ⟨classes, fun text => ⟨?_, ?_⟩, ?_⟩
  · rw [normalize_toList]
    exact tightens_normalForm text.toList
  · rw [normalize_eq_iff, normalize_toList, normalForm_normalForm]
  · intro marker label label' body body' typed typed' sameLabel sameBody sameResolved sameLine
    refine ⟨reconcileBody marker label body typed, rfl, ?_⟩
    exact (reconcile_congr marker ((classes _ _).mpr sameLabel) ((classes _ _).mpr sameBody)
      ((classes _ _).mpr sameResolved) ((classes _ _).mpr sameLine)).symm

/-- A candidate whose label, body and typed text are all spaced in another way. -/
theorem normalize_classifies_respelled :
    reconcile "TextWindow" " Show" (some "x =\t( 10 ) ; y") ⟨"a\nx = (", "x = ( "⟩ =
        .ok ⟨"10);", [.linePrefix], true⟩ ∧
      reconcile "TextWindow" "Show" (some "x=(10); y") ⟨"a\nx=(", "x=("⟩ =
        .ok ⟨"10);", [.linePrefix], true⟩ := by
  have same {text other : String} (equal : normalize text = normalize other) :
      SpacingEquivalent text.toList other.toList := (normalize_classifies.1 text other).mp equal
  obtain ⟨r, loose, tight⟩ := normalize_classifies.2.2 "TextWindow" " Show" "Show"
    "x =\t( 10 ) ; y" "x=(10); y" ⟨"a\nx = (", "x = ( "⟩ ⟨"a\nx=(", "x=("⟩
    (same (by decide +kernel)) (same (by decide +kernel)) (same (by decide +kernel))
    (same (by decide +kernel))
  have found : reconcile "TextWindow" "Show" (some "x=(10); y") ⟨"a\nx=(", "x=("⟩ =
      .ok ⟨"10);", [.linePrefix], true⟩ := by decide +kernel
  rw [loose, ← tight, found]
  exact ⟨rfl, rfl⟩

end InlineCompletion.Spacing
