import InlineCompletion.Proofs.Spacing.Equivalence
import InlineCompletion.Proofs.Spacing.Stability

/-!
The normal form absorbs respacing. Blanks next to an operator are either taken away by the normal
form or dropped when it is respaced, so a text and the respaced text come to the same; and that is
the respaced text itself exactly where its lexemes stay apart, with no blank beside a parenthesis.
-/
namespace InlineCompletion.Spacing
open Text
variable {text rest front gap op : List Char} {c : Char} {line : List Lexeme}

/-! ### Blanks next to an operator -/

/-- Ink that is not tight begins a part that is made tight on its own. -/
theorem tighten_before_loose (inked : isBlank c = false) (loose : isTight c = false)
    (front rest : List Char) :
    tighten (front ++ c :: rest) = tighten front ++ tighten (c :: rest) := by
  obtain ⟨seam, starts, -⟩ := tighten_cons_inked inked rest
  induction front with
  | nil => rfl
  | cons d front ih =>
    have start : startsTight (tighten front ++ c :: seam) = startsTight (tighten front) := by
      cases tighten front with
      | nil => exact loose
      | cons => rfl
    rw [List.cons_append, tighten, ih, starts, prependTight, start,
      trimStart_append_inked inked, tighten, prependTight]
    split
    · rfl
    · split <;> rfl

theorem tighten_append_blank (blank : isBlank c = true) (text : List Char) :
    tighten (text ++ [c]) = tighten text ∨ tighten (text ++ [c]) = tighten text ++ [c] := by
  induction text with
  | nil =>
    right
    simp [tighten, prependTight, isTight_of_isBlank blank, startsTight]
  | cons d rest ih =>
    rw [List.cons_append, tighten, tighten]
    rcases ih with same | more
    · exact .inl (by rw [same])
    · have start : startsTight (tighten rest ++ [c]) = startsTight (tighten rest) := by
        cases tighten rest with
        | nil => exact isTight_of_isBlank blank
        | cons => rfl
      rw [more, prependTight, prependTight, start]
      split
      · by_cases blanks : ink (tighten rest) = []
        · left
          rw [trimStart_gap _ _ blanks, trimStart_blank blank, trimStart_eq_nil blanks]
          rfl
        · right
          rw [trimStart_append blanks, List.cons_append]
      · right
        split <;> rfl

theorem bareOperators_blank_operator (blank : isBlank c = true) (front : List Lexeme)
    (op : List Char) (line : List Lexeme) :
    bareOperators (front ++ .plain c :: .operator op :: line) =
      bareOperators (front ++ .operator op :: line) := by
  induction front with
  | nil =>
    have single : ink [c] = [] := ink_cons_blank blank []
    exact bareOperators_gap_operator single op line
  | cons lexeme front ih => rw [List.cons_append, List.cons_append, bareOperators, bareOperators, ih]

/-- What does not begin with a tight character is no run, so as an operator it ends before every
text. -/
theorem endsAt_of_loose (loose : isTight c = false) (op text : List Char) :
    isComparison c = false ∧ (Lexeme.operator (c :: op)).EndsAt text := by
  have noComparison := isComparison_of_loose loose
  refine ⟨noComparison, fun d _ readsOn => ?_⟩
  cases readsOn with
  | run comparisons =>
    rw [comparisons c List.mem_cons_self] at noComparison
    cases noComparison

/-- A blank before an operator leaves no trace. -/
theorem bareLexemes_blank_before (legal : (Lexeme.operator op).Legal) (blank : isBlank c = true)
    (front rest : List Char) :
    bareLexemes (tighten (front ++ c :: (op ++ rest))) =
      bareLexemes (tighten (front ++ (op ++ rest))) := by
  obtain ⟨d, others, rfl⟩ := List.exists_cons_of_ne_nil legal.source_ne_nil
  obtain ⟨inked, init, mark, split, tight⟩ := legal.operator_ink
  have inkedFirst : isBlank d = false := inked d List.mem_cons_self
  cases first : isTight d with
  | true =>
    have seam := tighten_append_congr front (tighten_blank_tight blank first (others ++ rest))
    rw [List.cons_append, seam]
  | false =>
    obtain ⟨noComparison, ends⟩ := endsAt_of_loose first others (trimStart (tighten rest))
    have written : tighten (d :: (others ++ rest)) = d :: others ++ trimStart (tighten rest) := by
      have inkedInit : ∀ e ∈ init, isBlank e = false := fun e member =>
        inked e (by rw [split]; exact List.mem_append_left _ member)
      rw [← List.cons_append, split, List.append_assoc, List.singleton_append,
        tighten_mark inkedInit tight]
      simp
    have read : lexemes (d :: others ++ trimStart (tighten rest)) =
        .operator (d :: others) :: lexemes (trimStart (tighten rest)) := lexemes_append legal ends
    have stop : ∀ e, (d :: others ++ trimStart (tighten rest)).head? = some e →
        isComparison e = false := by
      rintro e ⟨⟩
      exact noComparison
    rw [List.cons_append, List.append_cons front c, tighten_before_loose inkedFirst first,
      tighten_before_loose inkedFirst first, written]
    rcases tighten_append_blank blank front with same | more
    · rw [same]
    · rw [more, bareLexemes, bareLexemes, lexemes_append_stop stop, lexemes_append_stop stop, read,
        lexemes_append_gap _ (ink_cons_blank blank []), List.append_assoc, List.map_singleton,
        List.singleton_append, bareOperators_blank_operator blank]

/-- Nor do blanks behind an operator. -/
theorem tighten_gap_behind (legal : (Lexeme.operator op).Legal) (blanks : ink gap = [])
    (front rest : List Char) :
    tighten (front ++ (op ++ (gap ++ rest))) = tighten (front ++ (op ++ rest)) := by
  obtain ⟨-, init, mark, rfl, tight⟩ := legal.operator_ink
  have seam : tighten (mark :: (gap ++ rest)) = tighten (mark :: rest) := by
    rw [tighten, tighten, prependTight_tight tight, prependTight_tight tight,
      trimStart_tighten_gap blanks]
  rw [List.append_assoc, List.append_assoc]
  exact tighten_append_congr front (tighten_append_congr init seam)

/-! ### Lexemes with and without those blanks -/

theorem plain_source (text : List Char) :
    (text.map Lexeme.plain).flatMap Lexeme.source = text := by
  rw [List.flatMap_map]
  exact List.flatMap_singleton' text

theorem plain_spaced (text : List Char) :
    (text.map Lexeme.plain).flatMap Lexeme.spaced = text := by
  rw [List.flatMap_map]
  exact List.flatMap_singleton' text

theorem dropBlanks_split (line : List Lexeme) :
    ∃ gap : List Char, ink gap = [] ∧ line = gap.map .plain ++ dropBlanks line := by
  induction line using dropBlanks.induct with
  | case1 c rest blank ih =>
    obtain ⟨gap, blanks, split⟩ := ih
    refine ⟨c :: gap, by rw [ink_cons_blank blank, blanks], ?_⟩
    rw [dropBlanks, if_pos blank, List.map_cons, List.cons_append, ← split]
  | case2 c rest inked => exact ⟨[], rfl, by rw [dropBlanks, if_neg inked]; rfl⟩
  | case3 rest other => exact ⟨[], rfl, by rw [dropBlanks.eq_2 _ other]; rfl⟩

/-- Lexemes come to the same, behind any text, without the blanks next to their operators. -/
theorem bareLexemes_bareOperators (legal : ∀ lexeme ∈ line, lexeme.Legal) (front : List Char) :
    bareLexemes (tighten (front ++ (bareOperators line).flatMap Lexeme.source)) =
      bareLexemes (tighten (front ++ line.flatMap Lexeme.source)) := by
  induction line generalizing front with
  | nil => rfl
  | cons lexeme rest ih =>
    obtain ⟨legalHere, legalRest⟩ := List.forall_mem_cons.mp legal
    have later := ih legalRest (front ++ lexeme.source)
    rw [List.append_assoc, List.append_assoc] at later
    rw [List.flatMap_cons, ← later, bareOperators]
    cases lexeme with
    | operator op =>
      obtain ⟨gap, blanks, split⟩ := dropBlanks_split (bareOperators rest)
      have source : (bareOperators rest).flatMap Lexeme.source =
          gap ++ (dropBlanks (bareOperators rest)).flatMap Lexeme.source := by
        conv_lhs => rw [split]
        rw [List.flatMap_append, plain_source]
      rw [source, prependBare, List.flatMap_cons, Lexeme.source, tighten_gap_behind legalHere blanks]
    | plain c =>
      rw [prependBare]
      split
      next dropped =>
        obtain ⟨blank, starts⟩ := Bool.and_eq_true_iff.mp dropped
        obtain ⟨op, others, kept⟩ := operator_of_starts starts
        have legalOp : (Lexeme.operator op).Legal :=
          legalRest _ ((bareOperators_sublist rest).subset (by rw [kept]; exact List.mem_cons_self))
        rw [kept, List.flatMap_cons, Lexeme.source, Lexeme.source, List.singleton_append,
          bareLexemes_blank_before legalOp blank]
      next => rfl

theorem padded_source (lexeme : Lexeme) :
    lexeme.padded.flatMap Lexeme.source = lexeme.spaced := by
  cases lexeme with
  | plain c => rfl
  | operator op =>
    rw [Lexeme.padded, List.flatMap_append, List.flatMap_cons, plain_source, spaced_operator,
      List.append_assoc]
    rfl

theorem padded_legal (legal : ∀ lexeme ∈ line, lexeme.Legal) :
    ∀ lexeme ∈ line.flatMap Lexeme.padded, lexeme.Legal := by
  intro lexeme member
  obtain ⟨whole, inside, part⟩ := List.mem_flatMap.mp member
  cases whole with
  | plain c =>
    obtain rfl := List.mem_singleton.mp part
    exact legal _ inside
  | operator op =>
    cases lexeme with
    | plain d => exact .plain (isComparison_of_isBlank (isBlank_of_mem_padded part))
    | operator other =>
      have same : other = op := by simpa [Lexeme.padded] using part
      rw [same]
      exact legal _ inside

/-- The normal form does not see whether a text was respaced before. -/
theorem respaced_normalForm_absorbs (text : List Char) :
    respaced (normalForm (respaced text)) = respaced (normalForm text) := by
  have legal := bareLexemes_legal text
  have spaced := bareLexemes_bareOperators (padded_legal legal) []
  have source := bareLexemes_bareOperators (legal_of_mem_lexemes text) []
  rw [bareOperators_padded (bareLexemes_bare text), List.flatMap_assoc] at spaced
  simp only [padded_source, List.nil_append] at spaced
  rw [lexemes_source, List.nil_append, ← bareLexemes] at source
  have same : bareLexemes (tighten ((bareLexemes text).flatMap Lexeme.spaced)) =
      bareLexemes (tighten text) := spaced.symm.trans source
  rw [respaced_eq text, normalForm_trim, normalForm, respaced_trim, respaced_eq, same, normalForm,
    respaced_trim, respaced_eq]

/-! ### Gaps that stay -/

/-- Ink next to which neither the normal form nor respacing touches a blank. -/
structure Ordinary (c : Char) : Prop where
  inked : isBlank c = false
  loose : isTight c = false
  noCompound : isCompound c = false

theorem tighten_of_loose (loose : ∀ c ∈ text, isTight c = false) : tighten text = text := by
  induction text with
  | nil => rfl
  | cons c rest ih =>
    obtain ⟨here, others⟩ := List.forall_mem_cons.mp loose
    rw [tighten, ih others]
    refine prependTight_kept here fun mark head tight => ?_
    rw [others mark (List.mem_of_mem_head? head)] at tight
    cases tight

theorem isTight_of_ink (blanks : ink gap = []) : ∀ c ∈ gap, isTight c = false := by
  intro c member
  by_contra tight
  have inked : isBlank c = false := isBlank_of_isTight (by simpa using tight)
  have kept : c ∈ ink gap := List.mem_filter.mpr ⟨member, by simpa using inked⟩
  rw [blanks] at kept
  cases kept

theorem bareOperators_gap_plain (inked : isBlank c = false) (gap : List Char)
    (line : List Lexeme) : bareOperators (gap.map .plain ++ .plain c :: line) =
      gap.map .plain ++ .plain c :: bareOperators line := by
  induction gap with
  | nil =>
    rw [List.map_nil, List.nil_append, bareOperators, prependBare, inked]
    rfl
  | cons d gap ih =>
    have start : startsWithOperator (gap.map .plain ++ .plain c :: bareOperators line) = false := by
      cases gap <;> rfl
    rw [List.map_cons, List.cons_append, bareOperators, ih, prependBare, start, Bool.and_false]
    rfl

/-- Between ordinary characters a text keeps its gap. -/
theorem respaced_normalForm_gap {first second : Char} (ordinary : Ordinary first)
    (ordinaryNext : Ordinary second) (blanks : ink gap = []) (front back : List Char) :
    ∃ start stop, ink start = ink front ∧
      respaced (normalForm (front ++ first :: (gap ++ second :: back))) =
        start ++ first :: (gap ++ second :: stop) := by
  have core : normalForm (first :: gap ++ [second]) = first :: gap ++ [second] := by
    have trimmed : Trimmed (first :: gap ++ [second]) := by
      constructor
      case start =>
        rintro c ⟨⟩
        exact ordinary.inked
      case stop =>
        intro c last
        rw [List.getLast?_concat, Option.some.injEq] at last
        rw [← last]
        exact ordinaryNext.inked
    rw [normalForm_eq, trimmed.trim_eq, tighten_of_loose]
    intro c member
    rcases List.mem_append.mp member with inside | last
    · rcases List.mem_cons.mp inside with rfl | inside
      · exact ordinary.loose
      · exact isTight_of_ink blanks c inside
    · rw [List.mem_singleton.mp last]
      exact ordinaryNext.loose
  have present : normalForm (first :: gap ++ [second]) ≠ [] := by
    rw [core]
    exact List.cons_ne_nil _ _
  obtain ⟨before, after, around, sameInk, -⟩ :=
    normalForm_around (first :: gap ++ [second]) front back present
  obtain ⟨start, startInk, -, spaced⟩ := respaced_before_inked ordinary.inked
    (isComparison_of_loose ordinary.loose) ordinary.noCompound before
  have read : bareLexemes (gap ++ second :: after) =
      gap.map .plain ++ .plain second :: bareLexemes after := by
    have alone : lexemes (second :: after) = .plain second :: lexemes after :=
      lexemes_append_cons (isComparison_of_loose ordinaryNext.loose) ordinaryNext.noCompound [] after
    rw [bareLexemes, lexemes_gap gap _ blanks, alone]
    exact bareOperators_gap_plain ordinaryNext.inked gap _
  have whole := spaced (gap ++ second :: after)
  rw [read, List.flatMap_append, plain_spaced, List.flatMap_cons, Lexeme.spaced, List.singleton_append,
    trimEnd_append_inked ordinaryNext.inked] at whole
  have split : normalForm (front ++ first :: (gap ++ second :: back)) =
      before ++ first :: (gap ++ second :: after) := by
    rw [core] at around
    simpa using around
  rw [split]
  exact ⟨start, _, startInk.trans sameInk, whole⟩

/-! ### Where nothing changes -/

theorem bareLexemes_append_gap (blanks : ink gap = []) (text : List Char) :
    bareLexemes text <+: bareLexemes (text ++ gap) := by
  induction gap generalizing text with
  | nil => exact ⟨[], by simp⟩
  | cons c gap ih =>
    obtain ⟨blank, others⟩ := blank_of_ink blanks
    have single : ink [c] = [] := ink_cons_blank blank []
    have here : bareLexemes text <+: bareLexemes (text ++ [c]) := by
      rw [bareLexemes, bareLexemes, lexemes_append_gap text single]
      rcases bareOperators_append_blank blank (lexemes text) with same | more
      · exact ⟨[], by rw [List.map_singleton, same, List.append_nil]⟩
      · rw [List.map_singleton, more]
        exact List.prefix_append _ _
    rw [List.append_cons]
    exact here.trans (ih others _)

/-- The lexemes of a respaced text are those that it was respaced from, less the outer blanks. -/
theorem bareLexemes_respaced (text : List Char) :
    bareLexemes (respaced text) <:+: bareLexemes text := by
  have read : bareLexemes ((bareLexemes text).flatMap Lexeme.spaced) = bareLexemes text := by
    rw [bareLexemes, lexemes_spaced (bareLexemes_legal text)]
    exact bareOperators_padded (bareLexemes_bare text)
  obtain ⟨gap, blanks, split, -⟩ := trimEnd_split (trimStart ((bareLexemes text).flatMap Lexeme.spaced))
  have inside := bareLexemes_append_gap blanks (respaced text)
  rw [respaced_eq text, trim, ← split, bareLexemes_trimStart, read, ← trim, ← respaced_eq] at inside
  exact inside.isInfix.trans (dropBlanks_suffix _).isInfix

/-- Going through the normal form leaves a respaced text as it is exactly if its lexemes stay
apart. -/
theorem respaced_normalForm_eq_iff (text : List Char) :
    respaced (normalForm text) = respaced text ↔ (bareLexemes (respaced text)).IsChain Fits := by
  constructor
  · intro same
    have fits := bareLexemes_normalForm_fits text
    rw [← same]
    exact fits.infix (bareLexemes_respaced (normalForm text))
  · intro fits
    have settled := respaced_normalForm_of_fits fits
    rwa [respaced_respaced, respaced_normalForm_absorbs] at settled

end InlineCompletion.Spacing
