import Mathlib.Data.List.Chain
import Mathlib.Data.List.TakeWhile
import InlineCompletion.Proofs.Spacing.Operator

/-!
Reading a text into lexemes, one lexeme at a time. A lexeme in front of a text is read back as
itself unless it reads on into the text: a dash into `>`, a compound character into `=`, a run into
one more comparison character. All that a text is read into is made that way, so facts about reading
go by induction on the lexemes at the start of a text.
-/
namespace InlineCompletion.Spacing
open Text
variable {text rest run gap : List Char} {c : Char} {lexeme : Lexeme}

namespace Lexeme

/-- The lexemes that a text can be read into. -/
inductive Legal : Lexeme → Prop where
  | arrow : Legal (.operator ['-', '>'])
  | compound {c : Char} (compound : isCompound c = true) : Legal (.operator [c, '='])
  | run {run : List Char} (present : run ≠ []) (comparisons : ∀ c ∈ run, isComparison c = true) :
      Legal (.operator run)
  | plain {c : Char} (other : isComparison c = false) : Legal (.plain c)

/-- A lexeme with this character behind it is read on into that character. -/
inductive ReadsOn : Lexeme → Char → Prop where
  | arrow : ReadsOn (.plain '-') '>'
  | compound {c : Char} (compound : isCompound c = true) : ReadsOn (.plain c) '='
  | run {run : List Char} {c : Char} (comparisons : ∀ d ∈ run, isComparison d = true)
      (comparison : isComparison c = true) : ReadsOn (.operator run) c

/-- A lexeme ends where a text begins. -/
def EndsAt (lexeme : Lexeme) (text : List Char) : Prop :=
  ∀ c, text.head? = some c → ¬ lexeme.ReadsOn c

theorem ReadsOn.comparison (readsOn : lexeme.ReadsOn c) : isComparison c = true := by
  cases readsOn with
  | arrow | compound => rfl
  | run comparisons comparison => exact comparison

/-- Every lexeme ends before what is no comparison character. -/
theorem endsAt_of_stop (lexeme : Lexeme)
    (stop : ∀ c, text.head? = some c → isComparison c = false) : lexeme.EndsAt text := by
  intro c first readsOn
  have comparison := readsOn.comparison
  rw [stop c first] at comparison
  cases comparison

theorem Legal.source_ne_nil (legal : lexeme.Legal) : lexeme.source ≠ [] := by
  cases legal with
  | run present => exact present
  | arrow | compound | plain => exact List.cons_ne_nil _ _

theorem Legal.plain_other (legal : (Lexeme.plain c).Legal) : isComparison c = false := by
  cases legal
  assumption

end Lexeme

theorem isComparison_of_isCompound (compound : isCompound c = true) : isComparison c = false := by
  simp only [isCompound, Bool.or_eq_true, beq_iff_eq] at compound
  rcases compound with (((((((rfl | rfl) | rfl) | rfl) | rfl) | rfl) | rfl) | rfl) | rfl <;> decide

/-! ### One lexeme at the start of a text -/

theorem lexemesAfter_comparison (comparison : isComparison c = true) (before rest : List Char) :
    lexemesAfter before (c :: rest) = lexemesAfter (c :: before) rest := by
  have noCompound : isCompound c = false := excluded isComparison_of_isCompound comparison
  have noArrow : c ≠ '-' := by
    rintro rfl
    cases comparison
  cases rest with
  | nil => simp [lexemesAfter, comparison]
  | cons next rest => simp [lexemesAfter, comparison, noCompound, noArrow]

theorem lexemesAfter_run (comparisons : ∀ c ∈ run, isComparison c = true)
    (before rest : List Char) :
    lexemesAfter before (run ++ rest) = lexemesAfter (run.reverse ++ before) rest := by
  induction run generalizing before with
  | nil => rfl
  | cons c run ih =>
    rw [List.forall_mem_cons] at comparisons
    rw [List.cons_append, lexemesAfter_comparison comparisons.1, ih comparisons.2]
    simp

/-- A run ends before what is no comparison character. -/
theorem lexemesAfter_stop (before : List Char)
    (stop : ∀ c, rest.head? = some c → isComparison c = false) :
    lexemesAfter before rest = endRun before (lexemes rest) := by
  match rest with
  | [] => rfl
  | [c] =>
    have other := stop c rfl
    simp [lexemes, lexemesAfter, other, endRun]
  | c :: next :: rest =>
    have other := stop c rfl
    simp only [lexemes, lexemesAfter, other, Bool.false_eq_true, ↓reduceIte]
    split
    · rfl
    · split <;> rfl

/-- A lexeme that does not read on into a text is read off in front of it. -/
theorem lexemes_append (legal : lexeme.Legal) (ends : lexeme.EndsAt rest) :
    lexemes (lexeme.source ++ rest) = lexeme :: lexemes rest := by
  cases legal with
  | arrow => simp [Lexeme.source, lexemes, lexemesAfter, endRun]
  | compound compound => simp [Lexeme.source, lexemes, lexemesAfter, endRun, compound]
  | @run run present comparisons =>
    have stop : ∀ c, rest.head? = some c → isComparison c = false := by
      intro c first
      by_contra comparison
      exact ends c first (.run comparisons (by simpa using comparison))
    have unread : lexemesAfter [] (run ++ rest) = endRun run.reverse (lexemes rest) := by
      rw [lexemesAfter_run comparisons, List.append_nil, lexemesAfter_stop _ stop]
    rw [Lexeme.source, lexemes, unread]
    obtain ⟨last, others, reversed⟩ :=
      List.exists_cons_of_ne_nil (List.reverse_ne_nil_iff.mpr present)
    rw [reversed, endRun, ← reversed, List.reverse_reverse]
  | @plain c other =>
    cases rest with
    | nil => simp [Lexeme.source, lexemes, lexemesAfter, endRun, other]
    | cons next rest =>
      have noArrow : ¬ (c = '-' ∧ next = '>') := by
        rintro ⟨rfl, rfl⟩
        exact ends '>' rfl .arrow
      have noCompound : ¬ (isCompound c = true ∧ next = '=') := by
        rintro ⟨compound, rfl⟩
        exact ends '=' rfl (.compound compound)
      simp [Lexeme.source, lexemes, lexemesAfter, endRun, noArrow, noCompound, other]

/-- Every text is empty or begins with a lexeme that ends before the rest. -/
theorem lexeme_at_start (text : List Char) :
    text = [] ∨ ∃ (lexeme : Lexeme) (rest : List Char),
      lexeme.Legal ∧ lexeme.EndsAt rest ∧ text = lexeme.source ++ rest := by
  match text with
  | [] => exact .inl rfl
  | c :: rest =>
    right
    cases comparison : isComparison c with
    | true =>
      let run := (c :: rest).takeWhile isComparison
      let after := (c :: rest).dropWhile isComparison
      have split : c :: rest = run ++ after := List.takeWhile_append_dropWhile.symm
      have present : run ≠ [] := by simp [run, comparison]
      refine ⟨.operator run, after, .run present fun d => List.mem_takeWhile_imp, ?_, split⟩
      apply Lexeme.endsAt_of_stop
      intro d first
      have stopped := List.head?_dropWhile_not isComparison (c :: rest)
      rwa [show (c :: rest).dropWhile isComparison = after from rfl, first] at stopped
    | false =>
      by_cases readsOn : ∃ next, rest.head? = some next ∧ (Lexeme.plain c).ReadsOn next
      · obtain ⟨next, first, readsOn⟩ := readsOn
        obtain ⟨others, rfl⟩ := List.head?_eq_some_iff.mp first
        cases readsOn with
        | arrow =>
          refine ⟨.operator ['-', '>'], others, .arrow, ?_, rfl⟩
          intro d _ readsOn
          cases readsOn with
          | run comparisons => exact absurd (comparisons '-' (by simp)) (by decide)
        | compound compound =>
          refine ⟨.operator [c, '='], others, .compound compound, ?_, rfl⟩
          intro d _ readsOn
          cases readsOn with
          | run comparisons =>
            rw [comparisons c (by simp)] at comparison
            cases comparison
      · exact ⟨.plain c, rest, .plain comparison, fun next first reads =>
          readsOn ⟨next, first, reads⟩, rfl⟩

/-- Induction on the lexemes of a text from its start. -/
@[elab_as_elim]
theorem reading_induction {holds : List Char → Prop} (empty : holds [])
    (read : ∀ (lexeme : Lexeme) (rest : List Char), lexeme.Legal → lexeme.EndsAt rest →
      holds rest → holds (lexeme.source ++ rest)) (text : List Char) : holds text := by
  induction size : text.length using Nat.strong_induction_on generalizing text with
  | h size ih =>
    subst size
    rcases lexeme_at_start text with rfl | ⟨lexeme, rest, legal, ends, rfl⟩
    · exact empty
    · have shorter : rest.length < (lexeme.source ++ rest).length := by
        have present := List.length_pos_iff.mpr legal.source_ne_nil
        rw [List.length_append]
        omega
      exact read lexeme rest legal ends (ih _ shorter rest rfl)

/-! ### All lexemes of a text -/

theorem legal_of_mem_lexemes (text : List Char) : ∀ lexeme ∈ lexemes text, lexeme.Legal := by
  induction text using reading_induction with
  | empty => exact List.forall_mem_nil _
  | read lexeme rest legal ends ih =>
    rw [lexemes_append legal ends]
    exact List.forall_mem_cons.mpr ⟨legal, ih⟩

/-- The first lexeme of a text stands at its start. -/
theorem head_source (first : (lexemes text).head? = some lexeme) :
    lexeme.source.head? = text.head? := by
  obtain ⟨others, read⟩ := List.head?_eq_some_iff.mp first
  have legal := legal_of_mem_lexemes text lexeme (by simp [read])
  have split := lexemes_source text
  rw [read, List.flatMap_cons] at split
  rw [← split, List.head?_append_of_ne_nil _ legal.source_ne_nil]

/-- No lexeme of a text reads on into the next one. -/
theorem lexemes_isChain (text : List Char) :
    (lexemes text).IsChain fun first second => first.EndsAt second.source := by
  induction text using reading_induction with
  | empty => exact .nil
  | read lexeme rest legal ends ih =>
    rw [lexemes_append legal ends]
    refine ih.cons fun next first => ?_
    rw [Lexeme.EndsAt, head_source first]
    exact ends

/-- A text is read on its own before what is no comparison character. -/
theorem lexemes_append_stop (stop : ∀ c, rest.head? = some c → isComparison c = false)
    (text : List Char) : lexemes (text ++ rest) = lexemes text ++ lexemes rest := by
  induction text using reading_induction with
  | empty => rfl
  | read lexeme front legal ends ih =>
    have endsHere : lexeme.EndsAt (front ++ rest) := by
      cases front with
      | nil => exact lexeme.endsAt_of_stop stop
      | cons => exact ends
    rw [List.append_assoc, lexemes_append legal endsHere, lexemes_append legal ends, ih]
    rfl

/-- What is neither a comparison character nor a compound one stands alone in every text. -/
theorem lexemes_append_cons (noComparison : isComparison c = false)
    (noCompound : isCompound c = false) (text rest : List Char) :
    lexemes (text ++ c :: rest) = lexemes text ++ .plain c :: lexemes rest := by
  have stop : ∀ d, (c :: rest).head? = some d → isComparison d = false := by
    rintro d ⟨⟩
    exact noComparison
  have alone : lexemes ([c] ++ rest) = .plain c :: lexemes rest := by
    refine lexemes_append (.plain noComparison) fun next _ readsOn => ?_
    cases readsOn with
    | arrow => cases noCompound
    | compound compound =>
      rw [compound] at noCompound
      cases noCompound
  rw [lexemes_append_stop stop, ← alone, List.singleton_append]

theorem lexemes_gap (gap rest : List Char) (blanks : ink gap = []) :
    lexemes (gap ++ rest) = gap.map .plain ++ lexemes rest := by
  induction gap with
  | nil => rfl
  | cons c gap ih =>
    obtain ⟨blank, others⟩ := blank_of_ink blanks
    rw [List.cons_append, lexemes_cons_blank blank, ih others]
    rfl

theorem lexemes_append_gap (text : List Char) (blanks : ink gap = []) :
    lexemes (text ++ gap) = lexemes text ++ gap.map .plain := by
  cases gap with
  | nil => simp
  | cons c gap =>
    obtain ⟨blank, others⟩ := blank_of_ink blanks
    have noComparison := isComparison_of_isBlank blank
    have noCompound := isCompound_of_isBlank blank
    have inside := lexemes_gap gap [] others
    rw [List.append_nil] at inside
    rw [lexemes_append_cons noComparison noCompound, inside]
    simp [lexemes, lexemesAfter, endRun]

end InlineCompletion.Spacing
