import InlineCompletion.Proofs.Text.Trim
import InlineCompletion.Spacing.Operator

/-!
Respacing and ink. A text is read into lexemes that are the text again when they are written one
after the other, and only blanks are dropped or put in before they are; so respacing keeps the ink.
Blanks at the start of a text never reach an operator, so they go as a whole.
-/
namespace InlineCompletion.Spacing
open Text
variable {gap text : List Char} {c : Char}

/-- A lexeme as it stands in the text that it was read from. -/
def Lexeme.source : Lexeme → List Char
  | .operator op => op
  | .plain c => [c]

/-! ### Reading -/

theorem endRun_source (run : List Char) (rest : List Lexeme) :
    (endRun run rest).flatMap Lexeme.source = run.reverse ++ rest.flatMap Lexeme.source := by
  cases run <;> rfl

theorem lexemesAfter_source (run text : List Char) :
    (lexemesAfter run text).flatMap Lexeme.source = run.reverse ++ text := by
  induction run, text using lexemesAfter.induct with
  | case1 run => rw [lexemesAfter, endRun_source]; rfl
  | case2 run c comparison => rw [lexemesAfter, if_pos comparison, endRun_source]; simp
  | case3 run c other => rw [lexemesAfter, if_neg other, endRun_source]; rfl
  | case4 run c next rest arrow ih =>
    rw [lexemesAfter, if_pos arrow, endRun_source, List.flatMap_cons, ih]
    rfl
  | case5 run c next rest noArrow compound ih =>
    rw [lexemesAfter, if_neg noArrow, if_pos compound, endRun_source, List.flatMap_cons, ih]
    rfl
  | case6 run c next rest noArrow noCompound comparison ih =>
    rw [lexemesAfter, if_neg noArrow, if_neg noCompound, if_pos comparison, ih]
    simp
  | case7 run c next rest noArrow noCompound noComparison ih =>
    rw [lexemesAfter, if_neg noArrow, if_neg noCompound, if_neg noComparison, endRun_source,
      List.flatMap_cons, ih]
    rfl

/-- The lexemes of a text are the text. -/
theorem lexemes_source (text : List Char) : (lexemes text).flatMap Lexeme.source = text :=
  lexemesAfter_source [] text

/-! ### Ink -/

theorem ink_dropBlanks (lexemes : List Lexeme) :
    ink ((dropBlanks lexemes).flatMap Lexeme.source) = ink (lexemes.flatMap Lexeme.source) := by
  induction lexemes using dropBlanks.induct with
  | case1 c rest blank ih =>
    rw [dropBlanks, if_pos blank, ih, List.flatMap_cons, ink_append]
    simp [Lexeme.source, ink, blank]
  | case2 c rest inked => rw [dropBlanks, if_neg inked]
  | case3 rest other => rw [dropBlanks]; exact other

theorem ink_bareOperators (lexemes : List Lexeme) :
    ink ((bareOperators lexemes).flatMap Lexeme.source) = ink (lexemes.flatMap Lexeme.source) := by
  induction lexemes with
  | nil => rfl
  | cons lexeme rest ih =>
    rw [bareOperators, List.flatMap_cons, ink_append, ← ih]
    cases lexeme with
    | operator op => rw [prependBare, List.flatMap_cons, ink_append, ink_dropBlanks]
    | plain c =>
      rw [prependBare]
      split
      next dropped =>
        have blank : isBlank c = true := (Bool.and_eq_true_iff.mp dropped).1
        simp [Lexeme.source, ink, blank]
      next => rw [List.flatMap_cons, ink_append]

theorem ink_spaced (lexeme : Lexeme) : ink lexeme.spaced = ink lexeme.source := by
  have space : isBlank ' ' = true := by decide
  cases lexeme with
  | operator op =>
    rw [Lexeme.spaced]
    split
    · rfl
    · simp [Lexeme.source, ink, space]
  | plain c => rfl

theorem ink_flatMap_spaced (lexemes : List Lexeme) :
    ink (lexemes.flatMap Lexeme.spaced) = ink (lexemes.flatMap Lexeme.source) := by
  induction lexemes with
  | nil => rfl
  | cons lexeme rest ih =>
    rw [List.flatMap_cons, List.flatMap_cons, ink_append, ink_append, ink_spaced, ih]

/-- Respacing changes blanks only. -/
@[simp] theorem ink_respaced (text : List Char) : ink (respaced text) = ink text := by
  rw [respaced, ink_trim, ink_flatMap_spaced, ink_bareOperators, lexemes_source]

/-! ### Blanks at the start -/

theorem isComparison_of_isBlank (blank : isBlank c = true) : isComparison c = false := by
  by_contra comparison
  simp only [isComparison, Bool.not_eq_false, Bool.or_eq_true, beq_iff_eq] at comparison
  rcases comparison with (rfl | rfl) | rfl <;> exact absurd blank (by decide)

theorem isCompound_of_isBlank (blank : isBlank c = true) : isCompound c = false := by
  by_contra compound
  simp only [isCompound, Bool.not_eq_false, Bool.or_eq_true, beq_iff_eq] at compound
  rcases compound with (((((((rfl | rfl) | rfl) | rfl) | rfl) | rfl) | rfl) | rfl) | rfl <;>
    exact absurd blank (by decide)

/-- A blank at the start belongs to no operator. -/
theorem lexemes_cons_blank (blank : isBlank c = true) (rest : List Char) :
    lexemes (c :: rest) = .plain c :: lexemes rest := by
  have noArrow : c ≠ '-' := by
    rintro rfl
    exact absurd blank (by decide)
  have noCompound := isCompound_of_isBlank blank
  have noComparison := isComparison_of_isBlank blank
  cases rest with
  | nil => simp [lexemes, lexemesAfter, endRun, noComparison]
  | cons next rest => simp [lexemes, lexemesAfter, endRun, noArrow, noCompound, noComparison]

theorem respaced_cons_blank (blank : isBlank c = true) (rest : List Char) :
    respaced (c :: rest) = respaced rest := by
  rw [respaced, lexemes_cons_blank blank, bareOperators, prependBare, respaced]
  split
  · rfl
  · have single : ink [c] = [] := ink_cons_blank blank []
    exact trim_gap [c] _ single

theorem respaced_gap (gap rest : List Char) (blanks : ink gap = []) :
    respaced (gap ++ rest) = respaced rest := by
  induction gap with
  | nil => rfl
  | cons c gap ih =>
    obtain ⟨blank, others⟩ := blank_of_ink blanks
    rw [List.cons_append, respaced_cons_blank blank, ih others]

theorem respaced_trimStart (text : List Char) : respaced (trimStart text) = respaced text := by
  obtain ⟨gap, blanks, split, -⟩ := trimStart_split text
  conv_rhs => rw [split]
  rw [respaced_gap gap _ blanks]

theorem respaced_trimmed (text : List Char) : Trimmed (respaced text) :=
  trim_trimmed _

end InlineCompletion.Spacing
