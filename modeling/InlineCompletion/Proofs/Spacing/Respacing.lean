import InlineCompletion.Proofs.Spacing.Reading

/-!
Writing lexemes and reading them back. Lexemes without blanks next to their operators are read back
as they were written, with the blanks of the writing around the operators and nowhere else; so
respacing keeps the operators, leaves exactly its own blanks around them, and has no effect on what
is respaced already.
-/
namespace InlineCompletion.Spacing
open Text
variable {text rest front back gap op : List Char} {c : Char} {lexeme first second : Lexeme}
  {line others : List Lexeme}

/-- The blanks that are written on each side of an operator: one, and none around the arrow. -/
def margin (op : List Char) : List Char :=
  if op = ['-', '>'] then [] else [' ']

namespace Lexeme

/-- The operator that a lexeme is. -/
def operator? : Lexeme → Option (List Char)
  | .operator op => some op
  | .plain _ => none

/-- Whether a lexeme is a blank. -/
def isGap : Lexeme → Bool
  | .operator _ => false
  | .plain c => isBlank c

/-- A lexeme as it is read again once it is written. -/
def padded : Lexeme → List Lexeme
  | .operator op => (margin op).map .plain ++ .operator op :: (margin op).map .plain
  | .plain c => [.plain c]

/-- One of two lexemes is an operator and the other one a blank. -/
inductive Loose : Lexeme → Lexeme → Prop where
  | behind {op : List Char} {c : Char} (blank : isBlank c = true) : Loose (.operator op) (.plain c)
  | before {op : List Char} {c : Char} (blank : isBlank c = true) : Loose (.plain c) (.operator op)

end Lexeme

/-- No blank stands next to an operator. -/
def Bare (line : List Lexeme) : Prop :=
  line.IsChain fun first second => ¬ first.Loose second

theorem Lexeme.solid_of_not_loose (tidy : ¬ (Lexeme.operator op).Loose lexeme) :
    lexeme.isGap = false := by
  cases lexeme with
  | operator op => rfl
  | plain c =>
    by_contra blank
    exact tidy (.behind (by simpa [Lexeme.isGap] using blank))

theorem ink_margin (op : List Char) : ink (margin op) = [] := by
  unfold margin
  split
  · rfl
  · decide

theorem spaced_operator (op : List Char) :
    (Lexeme.operator op).spaced = margin op ++ op ++ margin op := by
  rw [Lexeme.spaced, margin]
  split
  · simp
  · rfl

theorem operators_eq (text : List Char) :
    operators text = (lexemes text).filterMap Lexeme.operator? := by
  unfold operators
  congr

theorem plain_operators (text : List Char) :
    (text.map Lexeme.plain).filterMap Lexeme.operator? = [] := by
  rw [List.filterMap_map, List.filterMap_eq_nil_iff]
  exact fun c _ => rfl

/-! ### Dropping the blanks -/

theorem dropBlanks_suffix (line : List Lexeme) : dropBlanks line <:+ line := by
  induction line using dropBlanks.induct with
  | case1 c rest blank ih =>
    rw [dropBlanks, if_pos blank]
    exact ih.trans (List.suffix_cons _ _)
  | case2 c rest inked => exact ⟨[], by rw [List.nil_append, dropBlanks, if_neg inked]⟩
  | case3 rest other => exact ⟨[], by rw [List.nil_append, dropBlanks.eq_2 _ other]⟩

theorem dropBlanks_head (head : (dropBlanks line).head? = some lexeme) : lexeme.isGap = false := by
  induction line using dropBlanks.induct with
  | case1 c rest blank ih =>
    rw [dropBlanks, if_pos blank] at head
    exact ih head
  | case2 c rest inked =>
    rw [dropBlanks, if_neg inked] at head
    cases head
    simpa [Lexeme.isGap] using inked
  | case3 rest other =>
    rw [dropBlanks.eq_2 _ other] at head
    cases lexeme with
    | operator op => rfl
    | plain c =>
      obtain ⟨others, rfl⟩ := List.head?_eq_some_iff.mp head
      exact absurd rfl (other c others)

theorem dropBlanks_of_head (solid : ∀ lexeme, line.head? = some lexeme → lexeme.isGap = false) :
    dropBlanks line = line := by
  match line with
  | [] => rfl
  | .operator op :: rest => rfl
  | .plain c :: rest =>
    have inked : isBlank c = false := solid (.plain c) rfl
    simp [dropBlanks, inked]

theorem dropBlanks_operators (line : List Lexeme) :
    (dropBlanks line).filterMap Lexeme.operator? = line.filterMap Lexeme.operator? := by
  induction line using dropBlanks.induct with
  | case1 c rest blank ih =>
    rw [dropBlanks, if_pos blank, ih]
    rfl
  | case2 c rest inked => rw [dropBlanks, if_neg inked]
  | case3 rest other => rw [dropBlanks.eq_2 _ other]

/-! ### Bare lexemes -/

theorem operator_of_starts (starts : startsWithOperator line = true) :
    ∃ op rest, line = .operator op :: rest := by
  cases line with
  | nil => cases starts
  | cons lexeme rest =>
    cases lexeme with
    | operator op => exact ⟨op, rest, rfl⟩
    | plain d => cases starts

theorem startsWithOperator_append_plain (line : List Lexeme) (c : Char) (others : List Lexeme) :
    startsWithOperator (line ++ .plain c :: others) = startsWithOperator line := by
  cases line with
  | nil => rfl
  | cons lexeme rest => cases lexeme <;> rfl

/-- What is put in front of a line stays there if it leaves no blank next to an operator. -/
theorem prependBare_eq (tidy : ∀ next, line.head? = some next → ¬ lexeme.Loose next) :
    prependBare lexeme line = lexeme :: line := by
  cases lexeme with
  | operator op =>
    rw [prependBare, dropBlanks_of_head]
    exact fun next head => Lexeme.solid_of_not_loose (tidy next head)
  | plain c =>
    rw [prependBare, if_neg]
    intro dropped
    obtain ⟨blank, starts⟩ := Bool.and_eq_true_iff.mp dropped
    obtain ⟨op, rest, rfl⟩ := operator_of_starts starts
    exact tidy _ rfl (.before blank)

theorem prependBare_bare (lexeme : Lexeme) (bare : Bare line) :
    Bare (prependBare lexeme line) := by
  cases lexeme with
  | operator op =>
    have rest : Bare (dropBlanks line) := bare.suffix (dropBlanks_suffix line)
    refine rest.cons fun next head loose => ?_
    cases loose with
    | behind blank =>
      have solid := dropBlanks_head head
      rw [Lexeme.isGap, blank] at solid
      cases solid
  | plain c =>
    rw [prependBare]
    split
    · exact bare
    next kept =>
      refine bare.cons fun next head loose => ?_
      cases loose with
      | before blank =>
        obtain ⟨others, rfl⟩ := List.head?_eq_some_iff.mp head
        exact kept (by simp [blank, startsWithOperator])

theorem bareOperators_bare (line : List Lexeme) : Bare (bareOperators line) := by
  induction line with
  | nil => exact .nil
  | cons lexeme rest ih => exact prependBare_bare lexeme ih

theorem bareOperators_sublist (line : List Lexeme) : (bareOperators line).Sublist line := by
  induction line with
  | nil => exact .slnil
  | cons lexeme rest ih =>
    rw [bareOperators]
    cases lexeme with
    | operator op => exact .cons_cons _ ((dropBlanks_suffix _).sublist.trans ih)
    | plain c =>
      rw [prependBare]
      split
      · exact .cons _ ih
      · exact .cons_cons _ ih

theorem bareOperators_operators (line : List Lexeme) :
    (bareOperators line).filterMap Lexeme.operator? = line.filterMap Lexeme.operator? := by
  induction line with
  | nil => rfl
  | cons lexeme rest ih =>
    rw [bareOperators]
    cases lexeme with
    | operator op =>
      rw [prependBare, List.filterMap_cons, List.filterMap_cons, dropBlanks_operators, ih]
    | plain c =>
      rw [prependBare]
      split
      · exact ih
      · exact ih

theorem dropBlanks_bareOperators_gap (blanks : ink gap = []) (line : List Lexeme) :
    dropBlanks (bareOperators (gap.map .plain ++ line)) = dropBlanks (bareOperators line) := by
  induction gap with
  | nil => rfl
  | cons c gap ih =>
    obtain ⟨blank, others⟩ := blank_of_ink blanks
    rw [List.map_cons, List.cons_append, bareOperators, prependBare]
    split
    · exact ih others
    · rw [dropBlanks, if_pos blank]
      exact ih others

/-- An operator takes the gap before it and the one behind it away. -/
theorem bareOperators_gap_operator (blanks : ink gap = []) (op : List Char) (line : List Lexeme) :
    bareOperators (gap.map .plain ++ .operator op :: line) =
      .operator op :: dropBlanks (bareOperators line) := by
  induction gap with
  | nil => rfl
  | cons c gap ih =>
    obtain ⟨blank, others⟩ := blank_of_ink blanks
    rw [List.map_cons, List.cons_append, bareOperators, ih others, prependBare, blank]
    rfl

/-- The blanks of the writing are the ones that go again. -/
theorem bareOperators_padded (bare : Bare line) :
    bareOperators (line.flatMap Lexeme.padded) = line := by
  induction line with
  | nil => rfl
  | cons lexeme rest ih =>
    obtain ⟨tidy, bareRest⟩ := List.isChain_cons.mp bare
    have kept : prependBare lexeme rest = lexeme :: rest := prependBare_eq tidy
    rw [List.flatMap_cons]
    cases lexeme with
    | plain c =>
      rw [Lexeme.padded, List.singleton_append, bareOperators, ih bareRest, kept]
    | operator op =>
      rw [Lexeme.padded, List.append_assoc, List.cons_append,
        bareOperators_gap_operator (ink_margin op), dropBlanks_bareOperators_gap (ink_margin op),
        ih bareRest]
      exact kept

/-! ### Writing -/

/-- What is written does not begin with a comparison character: a run stands behind its margin. -/
theorem spaced_head (legal : ∀ lexeme ∈ line, lexeme.Legal) :
    ∀ c, (line.flatMap Lexeme.spaced).head? = some c → isComparison c = false := by
  intro c first
  match line with
  | [] => cases first
  | .plain d :: rest =>
    cases first
    exact (legal _ List.mem_cons_self).plain_other
  | .operator op :: rest =>
    rw [List.flatMap_cons, Lexeme.spaced] at first
    split at first
    next arrow =>
      rw [arrow] at first
      cases first
      rfl
    next =>
      cases first
      rfl

/-- What is written is read back with the blanks of the writing. -/
theorem lexemes_spaced (legal : ∀ lexeme ∈ line, lexeme.Legal) :
    lexemes (line.flatMap Lexeme.spaced) = line.flatMap Lexeme.padded := by
  induction line with
  | nil => rfl
  | cons lexeme rest ih =>
    obtain ⟨legalHere, legalRest⟩ := List.forall_mem_cons.mp legal
    have stop := spaced_head legalRest
    rw [List.flatMap_cons, List.flatMap_cons]
    cases lexeme with
    | plain c =>
      have read := lexemes_append legalHere ((Lexeme.plain c).endsAt_of_stop stop)
      rw [ih legalRest] at read
      exact read
    | operator op =>
      have ends : (Lexeme.operator op).EndsAt (margin op ++ rest.flatMap Lexeme.spaced) := by
        apply Lexeme.endsAt_of_stop
        rw [margin]
        split
        · exact stop
        · rintro c ⟨⟩
          rfl
      have read := lexemes_append legalHere ends
      rw [lexemes_gap _ _ (ink_margin op), ih legalRest] at read
      rw [spaced_operator, List.append_assoc, List.append_assoc, lexemes_gap _ _ (ink_margin op)]
      rw [Lexeme.source] at read
      rw [read, Lexeme.padded]
      simp

/-! ### Blanks at the ends -/

theorem dropBlanks_append_blank (blank : isBlank c = true) (line : List Lexeme) :
    dropBlanks (line ++ [.plain c]) = dropBlanks line ∨
      dropBlanks (line ++ [.plain c]) = dropBlanks line ++ [.plain c] := by
  induction line with
  | nil => exact .inl (by simp [dropBlanks, blank])
  | cons lexeme rest ih =>
    cases lexeme with
    | operator op => exact .inr rfl
    | plain d =>
      rw [List.cons_append, dropBlanks, dropBlanks]
      split
      · exact ih
      · exact .inr rfl

/-- A blank behind a line goes with the operator before it, or it stays behind the line. -/
theorem bareOperators_append_blank (blank : isBlank c = true) (line : List Lexeme) :
    bareOperators (line ++ [.plain c]) = bareOperators line ∨
      bareOperators (line ++ [.plain c]) = bareOperators line ++ [.plain c] := by
  induction line with
  | nil => exact .inr (by simp [bareOperators, prependBare, startsWithOperator])
  | cons lexeme rest ih =>
    rw [List.cons_append, bareOperators, bareOperators]
    rcases ih with same | more
    · exact .inl (by rw [same])
    · rw [more]
      cases lexeme with
      | operator op =>
        rw [prependBare, prependBare]
        rcases dropBlanks_append_blank blank (bareOperators rest) with same | more
        · exact .inl (by rw [same])
        · exact .inr (by rw [more, List.cons_append])
      | plain d =>
        right
        rw [prependBare, prependBare, startsWithOperator_append_plain]
        split <;> rfl

theorem respaced_append_blank (blank : isBlank c = true) (text : List Char) :
    respaced (text ++ [c]) = respaced text := by
  have single : ink [c] = [] := ink_cons_blank blank []
  rw [respaced, lexemes_append_gap text single, respaced]
  rcases bareOperators_append_blank blank (lexemes text) with same | more
  · exact congrArg (fun line => trim (line.flatMap Lexeme.spaced)) same
  · rw [List.map_singleton, more, List.flatMap_append]
    exact trim_append_gap _ single

theorem respaced_append_gap (text : List Char) (blanks : ink gap = []) :
    respaced (text ++ gap) = respaced text := by
  induction gap generalizing text with
  | nil => rw [List.append_nil]
  | cons c gap ih =>
    obtain ⟨blank, others⟩ := blank_of_ink blanks
    rw [List.append_cons, ih (text ++ [c]) others, respaced_append_blank blank]

theorem respaced_trim (text : List Char) : respaced (trim text) = respaced text := by
  obtain ⟨front, back, before, after, split⟩ := trim_split text
  conv_rhs => rw [split]
  rw [respaced_append_gap _ after, respaced_gap front _ before]

/-! ### Respacing -/

/-- The lexemes that a text is respaced from. -/
def bareLexemes (text : List Char) : List Lexeme :=
  bareOperators (lexemes text)

theorem bareLexemes_bare (text : List Char) : Bare (bareLexemes text) :=
  bareOperators_bare _

theorem bareLexemes_legal (text : List Char) : ∀ lexeme ∈ bareLexemes text, lexeme.Legal :=
  fun lexeme member => legal_of_mem_lexemes text lexeme ((bareOperators_sublist _).subset member)

theorem respaced_eq (text : List Char) :
    respaced text = trim ((bareLexemes text).flatMap Lexeme.spaced) := rfl

/-- What is written from bare lexemes is respaced as it was written. -/
theorem respaced_spaced (legal : ∀ lexeme ∈ line, lexeme.Legal) (bare : Bare line) :
    respaced (line.flatMap Lexeme.spaced) = trim (line.flatMap Lexeme.spaced) := by
  rw [respaced, lexemes_spaced legal, bareOperators_padded bare]

/-- Respacing has no effect on what is respaced. -/
theorem respaced_respaced (text : List Char) : respaced (respaced text) = respaced text := by
  rw [respaced_eq text, respaced_trim,
    respaced_spaced (bareLexemes_legal text) (bareLexemes_bare text)]

theorem padded_operators (line : List Lexeme) :
    (line.flatMap Lexeme.padded).filterMap Lexeme.operator? = line.filterMap Lexeme.operator? := by
  induction line with
  | nil => rfl
  | cons lexeme rest ih =>
    rw [List.flatMap_cons, List.filterMap_append, ih]
    cases lexeme with
    | plain c => rfl
    | operator op =>
      rw [Lexeme.padded, List.filterMap_append, List.filterMap_cons, plain_operators]
      rfl

/-- The lexemes of a respaced text, between the blanks that were trimmed off. -/
theorem lexemes_respaced (text : List Char) :
    ∃ front back : List Char, ink front = [] ∧ ink back = [] ∧
      (bareLexemes text).flatMap Lexeme.padded =
        front.map .plain ++ lexemes (respaced text) ++ back.map .plain := by
  obtain ⟨front, back, before, after, split⟩ :=
    trim_split ((bareLexemes text).flatMap Lexeme.spaced)
  refine ⟨front, back, before, after, ?_⟩
  rw [← lexemes_spaced (bareLexemes_legal text), split, lexemes_append_gap _ after,
    lexemes_gap _ _ before, ← respaced_eq]

/-- No operator is split, merged, lost or made up by respacing. -/
theorem operators_respaced (text : List Char) : operators (respaced text) = operators text := by
  obtain ⟨front, back, -, -, split⟩ := lexemes_respaced text
  have kept := congrArg (List.filterMap Lexeme.operator?) split
  rw [padded_operators, bareLexemes, bareOperators_operators, List.filterMap_append,
    List.filterMap_append, plain_operators, plain_operators, List.nil_append, List.append_nil] at kept
  rw [operators_eq, operators_eq, kept]

/-! ### Around an operator -/

/-- Between an operator and the next character that is neither blank nor part of an operator, on
either side of it, stands the margin of the operator. -/
structure Margins (line : List Lexeme) : Prop where
  behind : ∀ (front back : List Lexeme) (op gap : List Char) (c : Char),
    line = front ++ .operator op :: (gap.map .plain ++ .plain c :: back) → ink gap = [] →
    isBlank c = false → gap = margin op
  before : ∀ (front back : List Lexeme) (op gap : List Char) (c : Char),
    line = front ++ .plain c :: (gap.map .plain ++ .operator op :: back) → ink gap = [] →
    isBlank c = false → gap = margin op

theorem margin_eq (op : List Char) : margin op = [] ∨ margin op = [' '] := by
  unfold margin
  split
  · exact .inl rfl
  · exact .inr rfl

/-- A written line that does not start with a blank has no gap before its first plain character. -/
theorem no_gap_of_padded (solid : ∀ lexeme, line.head? = some lexeme → lexeme.isGap = false)
    (split : line.flatMap Lexeme.padded = gap.map .plain ++ .plain c :: others)
    (blanks : ink gap = []) : gap = [] := by
  match line, gap with
  | _, [] => rfl
  | [], e :: gap => cases split
  | .plain d :: rest, e :: gap =>
    obtain ⟨same, -⟩ := List.cons.inj split
    cases same
    have blank := (blank_of_ink blanks).1
    have solid : isBlank d = false := solid (.plain d) rfl
    rw [solid] at blank
    cases blank
  | .operator op :: rest, e :: gap =>
    rw [List.flatMap_cons, Lexeme.padded] at split
    rcases margin_eq op with none | one
    · rw [none] at split
      cases split
    · rw [one] at split
      cases gap <;> cases split

theorem padded_operator_split {op : List Char} {front back : List Lexeme}
    (split : lexeme.padded = front ++ .operator op :: back) :
    lexeme = .operator op ∧ back = (margin op).map .plain := by
  cases lexeme with
  | plain c =>
    match front with
    | [] => cases split
    | [first] => cases split
    | first :: second :: front => cases split
  | operator other =>
    rw [Lexeme.padded] at split
    rcases margin_eq other with none | one
    · rw [none] at split
      match front with
      | [] =>
        cases split
        exact ⟨rfl, by rw [none, List.map_nil]⟩
      | [first] => cases split
      | first :: second :: front => cases split
    · rw [one] at split
      match front with
      | [] => cases split
      | [first] =>
        cases split
        exact ⟨rfl, by rw [one, List.map_singleton]⟩
      | [first, second] => cases split
      | [first, second, third] => cases split
      | first :: second :: third :: fourth :: front => cases split

theorem isBlank_of_mem_padded {op : List Char} (member : .plain c ∈ (Lexeme.operator op).padded) :
    isBlank c = true := by
  rw [Lexeme.padded] at member
  rcases margin_eq op with none | one
  · simp [none] at member
  · obtain rfl : c = ' ' := by simpa [one] using member
    rfl

theorem padded_behind {front back : List Lexeme} (bare : Bare line)
    (split : line.flatMap Lexeme.padded =
      front ++ .operator op :: (gap.map .plain ++ .plain c :: back))
    (blanks : ink gap = []) (inked : isBlank c = false) : gap = margin op := by
  induction line generalizing front with
  | nil => simp at split
  | cons lexeme rest ih =>
    obtain ⟨tidy, bareRest⟩ := List.isChain_cons.mp bare
    rw [List.flatMap_cons] at split
    rcases List.append_eq_append_iff.mp split with ⟨inside, -, later⟩ | ⟨inside, here, tail⟩
    · exact ih bareRest later
    · cases inside with
      | nil =>
        rw [← List.nil_append (_ :: _)] at tail
        exact ih bareRest tail.symm
      | cons first inside =>
        rw [List.cons_append, List.cons.injEq] at tail
        obtain ⟨same, tail⟩ := tail
        rw [← same] at here
        obtain ⟨rfl, rfl⟩ := padded_operator_split here
        have solid : ∀ next, rest.head? = some next → next.isGap = false :=
          fun next head => Lexeme.solid_of_not_loose (tidy next head)
        rcases margin_eq op with none | one
        · rw [none] at tail ⊢
          exact no_gap_of_padded solid tail.symm blanks
        · rw [one] at tail ⊢
          cases gap with
          | nil =>
            cases tail
            cases inked
          | cons e gap =>
            rw [List.map_cons, List.cons_append, List.map_singleton, List.singleton_append,
              List.cons.injEq] at tail
            obtain ⟨same, tail⟩ := tail
            cases same
            rw [no_gap_of_padded solid tail.symm (blank_of_ink blanks).2]

/-- A written line that starts with a gap before an operator starts with that operator. -/
theorem padded_starts (bare : Bare line)
    (split : line.flatMap Lexeme.padded = gap.map .plain ++ .operator op :: others)
    (blanks : ink gap = []) : gap = margin op ∧ line.head? = some (.operator op) := by
  induction line generalizing gap with
  | nil => simp at split
  | cons lexeme rest ih =>
    obtain ⟨tidy, bareRest⟩ := List.isChain_cons.mp bare
    cases lexeme with
    | plain d =>
      cases gap with
      | nil => cases split
      | cons e gap =>
        obtain ⟨same, later⟩ := List.cons.inj split
        cases same
        obtain ⟨blank, others⟩ := blank_of_ink blanks
        exact absurd (.before blank) (tidy _ (ih bareRest later others).2)
    | operator other =>
      rw [List.flatMap_cons, Lexeme.padded] at split
      rcases margin_eq other with none | one
      · rw [none] at split
        cases gap with
        | nil =>
          cases split
          exact ⟨none.symm, rfl⟩
        | cons e gap => cases split
      · rw [one] at split
        match gap with
        | [] => cases split
        | [e] =>
          cases split
          exact ⟨one.symm, rfl⟩
        | e :: f :: gap => cases split

theorem padded_before {front back : List Lexeme} (bare : Bare line)
    (split : line.flatMap Lexeme.padded =
      front ++ .plain c :: (gap.map .plain ++ .operator op :: back))
    (blanks : ink gap = []) (inked : isBlank c = false) : gap = margin op := by
  induction line generalizing front with
  | nil => simp at split
  | cons lexeme rest ih =>
    obtain ⟨-, bareRest⟩ := List.isChain_cons.mp bare
    rw [List.flatMap_cons] at split
    rcases List.append_eq_append_iff.mp split with ⟨inside, -, later⟩ | ⟨inside, here, tail⟩
    · exact ih bareRest later
    · cases inside with
      | nil =>
        rw [← List.nil_append (_ :: _)] at tail
        exact ih bareRest tail.symm
      | cons first inside =>
        rw [List.cons_append, List.cons.injEq] at tail
        obtain ⟨same, tail⟩ := tail
        rw [← same] at here
        cases lexeme with
        | operator other =>
          rw [isBlank_of_mem_padded (by rw [here]; simp)] at inked
          cases inked
        | plain d =>
          obtain ⟨rfl, none⟩ : front = [] ∧ inside = [] := by
            have size := congrArg List.length here
            simp only [Lexeme.padded, List.length_append, List.length_cons, List.length_nil] at size
            exact ⟨List.eq_nil_of_length_eq_zero (by omega),
              List.eq_nil_of_length_eq_zero (by omega)⟩
          rw [none, List.nil_append] at tail
          exact (padded_starts bareRest tail.symm blanks).1

/-- In a respaced text every operator has its margins. -/
theorem margins_respaced (text : List Char) : Margins (lexemes (respaced text)) := by
  obtain ⟨outer, inner, -, -, whole⟩ := lexemes_respaced text
  constructor
  case behind =>
    intro front back op gap c split blanks inked
    have between : (bareLexemes text).flatMap Lexeme.padded =
        (outer.map .plain ++ front) ++
          .operator op :: (gap.map .plain ++ .plain c :: (back ++ inner.map .plain)) := by
      rw [whole, split]
      simp only [List.append_assoc, List.cons_append]
    exact padded_behind (bareLexemes_bare text) between blanks inked
  case before =>
    intro front back op gap c split blanks inked
    have between : (bareLexemes text).flatMap Lexeme.padded =
        (outer.map .plain ++ front) ++
          .plain c :: (gap.map .plain ++ .operator op :: (back ++ inner.map .plain)) := by
      rw [whole, split]
      simp only [List.append_assoc, List.cons_append]
    exact padded_before (bareLexemes_bare text) between blanks inked

end InlineCompletion.Spacing
