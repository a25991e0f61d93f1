import InlineCompletion.Proofs.Spacing.Equivalence
import InlineCompletion.Proofs.Spacing.Stability

/-!
Spacing as search and replacement. A pass goes through a text from its start, looks at each place for
something between blanks, puts what it found back in its own writing without those blanks, and goes
on behind it. The normal form is what two such passes and a trim make of a text, one for the
parentheses and one for the comparison characters; respacing is what one pass for the operators and
a trim make of it.
-/
namespace InlineCompletion.Spacing
open Text
variable {text rest after op : List Char} {c d mark : Char} {isMark isOther : Char → Bool}

theorem length_trimStart_le (text : List Char) : (trimStart text).length ≤ text.length :=
  List.length_dropWhile_le _ _

/-- One pass. What is looked for is given by its size at the start of a text, zero if it does not
stand there. -/
def pass (size : List Char → Nat) (write : List Char → List Char) : List Char → List Char
  | [] => []
  | c :: rest =>
    let here := trimStart (c :: rest)
    if size here = 0 then c :: pass size write rest
    else write (here.take (size here)) ++ pass size write (trimStart (here.drop (size here)))
termination_by text => text.length
decreasing_by
  · exact Nat.lt_succ_self _
  · next present =>
    have behind : (trimStart (here.drop (size here))).length ≤ here.length - size here := by
      rw [← List.length_drop]
      exact length_trimStart_le _
    have whole : here.length ≤ rest.length + 1 := length_trimStart_le (c :: rest)
    have shorter : (trimStart (here.drop (size here))).length < rest.length + 1 := by omega
    exact shorter

/-- One character of a class. -/
def oneOf (isMark : Char → Bool) : List Char → Nat
  | [] => 0
  | c :: _ => if isMark c then 1 else 0

/-- The parentheses. -/
def isParen (c : Char) : Bool :=
  c == '(' || c == ')'

/-- The member arrow, else a compound assignment, else a run of comparison characters. -/
def operatorSize : List Char → Nat
  | [] => 0
  | [c] => if isComparison c then 1 else 0
  | c :: next :: rest =>
    if c = '-' ∧ next = '>' then 2
    else if isCompound c ∧ next = '=' then 2
    else ((c :: next :: rest).takeWhile isComparison).length

/-! ### Passes for single characters -/

/-- One pass that drops the blanks around each mark. -/
abbrev sweep (isMark : Char → Bool) : List Char → List Char :=
  pass (oneOf isMark) id

theorem sweep_mark (found : trimStart text = mark :: after) (isOne : isMark mark = true) :
    sweep isMark text = mark :: sweep isMark (trimStart after) := by
  cases text with
  | nil => cases found
  | cons c rest =>
    rw [sweep, pass, found]
    simp [oneOf, isOne]

theorem sweep_other (noMark : ∀ mark, (trimStart (c :: rest)).head? = some mark → isMark mark = false) :
    sweep isMark (c :: rest) = c :: sweep isMark rest := by
  have none : oneOf isMark (trimStart (c :: rest)) = 0 := by
    cases here : trimStart (c :: rest) with
    | nil => rfl
    | cons d others =>
      rw [here] at noMark
      simp [oneOf, noMark d rfl]
  rw [sweep, pass]
  simp [none]

/-- Induction along a pass: a mark is found behind a gap, or a character is passed over. -/
@[elab_as_elim]
theorem sweep_induction (isMark : Char → Bool) {holds : List Char → Prop} (empty : holds [])
    (found : ∀ text mark after, trimStart text = mark :: after → isMark mark = true →
      holds (trimStart after) → holds text)
    (other : ∀ c rest, (∀ mark, (trimStart (c :: rest)).head? = some mark → isMark mark = false) →
      holds rest → holds (c :: rest)) (text : List Char) : holds text := by
  induction text using pass.induct (oneOf isMark) with
  | case1 => exact empty
  | case2 c rest here none ih =>
    refine other c rest (fun mark first => ?_) ih
    obtain ⟨after, split⟩ := List.head?_eq_some_iff.mp first
    by_contra isOne
    simp [here, split, oneOf, isOne] at none
  | case3 c rest here some ih =>
    cases split : here with
    | nil => simp [split, oneOf] at some
    | cons mark after =>
      have isOne : isMark mark = true := by
        by_contra other
        simp [split, oneOf, other] at some
      refine found (c :: rest) mark after split isOne ?_
      simpa [split, oneOf, isOne] using ih

/-- A pass leaves the first character of a text, or drops the blanks before a mark. -/
theorem sweep_head (head : (sweep isMark text).head? = some d) :
    text.head? = some d ∨ isMark d = true ∧ (trimStart text).head? = some d := by
  cases text with
  | nil =>
    rw [sweep, pass] at head
    cases head
  | cons c rest =>
    by_cases found : ∃ mark after, trimStart (c :: rest) = mark :: after ∧ isMark mark = true
    · obtain ⟨mark, after, split, isOne⟩ := found
      rw [sweep_mark split isOne] at head
      cases head
      exact .inr ⟨isOne, by rw [split]; rfl⟩
    · rw [sweep_other] at head
      · exact .inl head
      · intro mark first
        obtain ⟨after, split⟩ := List.head?_eq_some_iff.mp first
        by_contra isOne
        exact found ⟨mark, after, split, by simpa using isOne⟩

theorem tightens_before (front gap after : List Char) (blanks : ink gap = [])
    (tight : isTight mark = true) :
    Tightens (front ++ (gap ++ mark :: after)) (front ++ mark :: after) := by
  induction gap generalizing front with
  | nil => exact .refl
  | cons c gap ih =>
    obtain ⟨blank, others⟩ := blank_of_ink blanks
    have inside := ih (front ++ [c]) others
    rw [List.append_assoc, List.append_assoc] at inside
    exact inside.tail (.beforeTight front after mark c tight blank)

/-- A pass for tight characters deletes irrelevant blanks only. -/
theorem tightens_sweep (tight : ∀ {c}, isMark c = true → isTight c = true) (front text : List Char) :
    Tightens (front ++ text) (front ++ sweep isMark text) := by
  induction text using sweep_induction isMark generalizing front with
  | empty => rw [sweep, pass]
  | found text mark after split isOne ih =>
    obtain ⟨gap, blanks, whole, -⟩ := trimStart_split text
    rw [split] at whole
    have before : Tightens (front ++ text) (front ++ mark :: after) := by
      rw [whole]
      exact tightens_before front gap after blanks (tight isOne)
    have behind : Tightens (front ++ mark :: after) (front ++ mark :: trimStart after) :=
      tightens_trimStart front after (tight isOne)
    rw [sweep_mark split isOne, List.append_cons]
    rw [List.append_cons front mark (trimStart after)] at behind
    exact (before.trans behind).trans (ih (front ++ [mark]))
  | other c rest noMark ih =>
    rw [sweep_other noMark, List.append_cons, List.append_cons front c (sweep isMark rest)]
    exact ih (front ++ [c])

/-- One of two characters is of a class and the other one a blank. -/
def Beside (isMark : Char → Bool) (first second : Char) : Prop :=
  isMark first = true ∧ isBlank second = true ∨ isBlank first = true ∧ isMark second = true

/-- No blank stands next to a character of a class. -/
def Clear (isMark : Char → Bool) (text : List Char) : Prop :=
  text.IsChain fun first second => ¬ Beside isMark first second

/-- Behind a pass no blank stands next to a mark. -/
theorem sweep_clear (inked : ∀ {c}, isMark c = true → isBlank c = false) (text : List Char) :
    Clear isMark (sweep isMark text) := by
  induction text using sweep_induction isMark with
  | empty =>
    rw [sweep, pass]
    exact .nil
  | found text mark after split isOne ih =>
    rw [sweep_mark split isOne]
    refine ih.cons fun next head beside => ?_
    obtain ⟨-, -, -, first⟩ := trimStart_split after
    have inkedNext : isBlank next = false := by
      rcases sweep_head head with same | ⟨isOneToo, -⟩
      · exact first next same
      · exact inked isOneToo
    rcases beside with ⟨-, blank⟩ | ⟨blank, -⟩
    · rw [inkedNext] at blank
      cases blank
    · rw [inked isOne] at blank
      cases blank
  | other c rest noMark ih =>
    rw [sweep_other noMark]
    refine ih.cons fun next head beside => ?_
    rcases beside with ⟨isOne, -⟩ | ⟨blank, isOne⟩
    · rw [trimStart_inked (inked isOne)] at noMark
      rw [noMark c rfl] at isOne
      cases isOne
    · have behind : (trimStart rest).head? = some next := by
        rcases sweep_head head with same | ⟨-, same⟩
        · obtain ⟨others, rfl⟩ := List.head?_eq_some_iff.mp same
          rw [trimStart_inked (inked isOne)]
          rfl
        · exact same
      rw [trimStart_blank blank] at noMark
      rw [noMark next behind] at isOne
      cases isOne

/-- A pass puts no blank next to a character that is not one of its own marks. -/
theorem sweep_keeps (inked : ∀ {c}, isMark c = true → isBlank c = false)
    (apart : ∀ {c}, isMark c = true → isOther c = false) (clear : Clear isOther text) :
    Clear isOther (sweep isMark text) := by
  induction text using sweep_induction isMark with
  | empty =>
    rw [sweep, pass]
    exact .nil
  | found text mark after split isOne ih =>
    have behind : trimStart after <:+ text := by
      have whole : mark :: after <:+ text := split ▸ List.dropWhile_suffix _
      exact (List.dropWhile_suffix _).trans ((List.suffix_cons _ _).trans whole)
    rw [sweep_mark split isOne]
    refine (ih (clear.suffix behind)).cons fun next head => ?_
    simp [Beside, apart isOne, inked isOne]
  | other c rest noMark ih =>
    rw [sweep_other noMark]
    obtain ⟨here, behind⟩ := List.isChain_cons.mp clear
    refine (ih behind).cons fun next head => ?_
    rcases sweep_head head with same | ⟨isOne, -⟩
    · exact here next same
    · simp [Beside, apart isOne, inked isOne]

/-! ### The normal form -/

theorem isTight_eq (c : Char) : isTight c = (isParen c || isComparison c) := by
  simp only [isTight, isParen, isComparison, Bool.or_assoc]

theorem isTight_of_isParen (paren : isParen c = true) : isTight c = true := by
  rw [isTight_eq, paren, Bool.true_or]

theorem isParen_of_isComparison (comparison : isComparison c = true) : isParen c = false := by
  simp only [isComparison, Bool.or_eq_true, beq_iff_eq] at comparison
  rcases comparison with (rfl | rfl) | rfl <;> decide

/-- No blank next to a parenthesis and none next to a comparison character is none next to a tight
character. -/
theorem taut_of_clear (parens : Clear isParen text) (comparisons : Clear isComparison text) :
    Taut text := by
  rw [Taut, List.isChain_iff_forall_rel_of_append_cons_cons]
  intro first second before after split slack
  have noParen := List.isChain_iff_forall_rel_of_append_cons_cons.mp parens split
  have noComparison := List.isChain_iff_forall_rel_of_append_cons_cons.mp comparisons split
  cases slack with
  | behind tight blank =>
    rcases Bool.or_eq_true_iff.mp (isTight_eq first ▸ tight) with paren | comparison
    · exact noParen (.inl ⟨paren, blank⟩)
    · exact noComparison (.inl ⟨comparison, blank⟩)
  | before tight blank =>
    rcases Bool.or_eq_true_iff.mp (isTight_eq second ▸ tight) with paren | comparison
    · exact noParen (.inr ⟨blank, paren⟩)
    · exact noComparison (.inr ⟨blank, comparison⟩)

theorem tighten_of_taut (taut : Taut text) : tighten text = text := by
  induction text with
  | nil => rfl
  | cons c rest ih =>
    obtain ⟨here, behind⟩ := List.isChain_cons.mp taut
    rw [tighten, ih behind]
    cases tight : isTight c with
    | true =>
      rw [prependTight_tight tight]
      cases rest with
      | nil => rfl
      | cons next others =>
        have inked : isBlank next = false := by
          by_contra blank
          exact here next rfl (.behind tight (by simpa using blank))
        rw [trimStart_inked inked]
    | false =>
      refine prependTight_kept tight fun mark head tightMark => ?_
      by_contra blank
      exact here mark head (.before tightMark (by simpa using blank))

/-- The normal form is what a pass for parentheses, one for comparison characters and a trim leave. -/
theorem normalForm_eq_passes (text : List Char) :
    normalForm text = trim (sweep isComparison (sweep isParen text)) := by
  have inkedParen {c : Char} (paren : isParen c = true) : isBlank c = false :=
    isBlank_of_isTight (isTight_of_isParen paren)
  have inkedComparison {c : Char} (comparison : isComparison c = true) : isBlank c = false :=
    isBlank_of_isTight (isTight_of_isComparison comparison)
  -- no parenthesis is a comparison character, so the second pass undoes nothing of the first
  have parens : Clear isParen (sweep isComparison (sweep isParen text)) :=
    sweep_keeps inkedComparison isParen_of_isComparison (sweep_clear inkedParen text)
  have taut : Taut (sweep isComparison (sweep isParen text)) :=
    taut_of_clear parens (sweep_clear inkedComparison _)
  have deleted : Tightens text (sweep isComparison (sweep isParen text)) :=
    (tightens_sweep isTight_of_isParen [] text).trans
      (tightens_sweep isTight_of_isComparison [] (sweep isParen text))
  calc normalForm text = normalForm (sweep isComparison (sweep isParen text)) :=
        deleted.equivalent.normalForm_eq
    _ = trim (sweep isComparison (sweep isParen text)) := by
        rw [normalForm, tighten_of_taut taut]

/-! ### Respacing -/

/-- The pass for operators finds the lexeme that the text is read into at its start, if that is an
operator. -/
theorem operatorSize_operator (legal : (Lexeme.operator op).Legal)
    (ends : (Lexeme.operator op).EndsAt rest) : operatorSize (op ++ rest) = op.length := by
  cases legal with
  | arrow => simp [operatorSize]
  | compound compound => simp [operatorSize, compound]
  | run present comparisons =>
    have whole : (op ++ rest).takeWhile isComparison = op := by
      rw [List.takeWhile_append_of_pos comparisons]
      cases rest with
      | nil => simp
      | cons next others =>
        have stop : isComparison next = false := by
          by_contra comparison
          exact ends next rfl (.run comparisons (by simpa using comparison))
        simp [stop]
    obtain ⟨c, run, rfl⟩ := List.exists_cons_of_ne_nil present
    have comparison := comparisons c List.mem_cons_self
    have noArrow : c ≠ '-' := by
      rintro rfl
      cases comparison
    have noCompound : isCompound c = false := excluded isComparison_of_isCompound comparison
    rw [List.cons_append] at whole ⊢
    cases behind : run ++ rest with
    | nil =>
      obtain ⟨rfl, -⟩ := List.append_eq_nil_iff.mp behind
      simp [operatorSize, comparison]
    | cons next others =>
      rw [behind] at whole
      simp only [operatorSize, noArrow, noCompound, false_and, Bool.false_eq_true, ↓reduceIte,
        whole]

theorem operatorSize_plain (legal : (Lexeme.plain c).Legal) (ends : (Lexeme.plain c).EndsAt rest) :
    operatorSize (c :: rest) = 0 := by
  have other := legal.plain_other
  cases rest with
  | nil => simp [operatorSize, other]
  | cons next others =>
    have noArrow : ¬ (c = '-' ∧ next = '>') := by
      rintro ⟨rfl, rfl⟩
      exact ends '>' rfl .arrow
    have noCompound : ¬ (isCompound c = true ∧ next = '=') := by
      rintro ⟨compound, rfl⟩
      exact ends '=' rfl (.compound compound)
    simp [operatorSize, noArrow, noCompound, other]

/-- Where the pass finds no operator the text is read into its first character. -/
theorem lexemes_of_operatorSize (none : operatorSize (c :: rest) = 0) :
    lexemes (c :: rest) = .plain c :: lexemes rest := by
  rcases lexeme_at_start (c :: rest) with empty | ⟨lexeme, others, legal, ends, split⟩
  · cases empty
  · cases lexeme with
    | operator op =>
      rw [split, Lexeme.source, operatorSize_operator legal ends, List.length_eq_zero_iff] at none
      exact absurd none legal.source_ne_nil
    | plain d =>
      cases split
      exact lexemes_append legal ends

/-- Where the pass finds something it finds an operator as it is read there. -/
theorem operator_of_operatorSize (found : operatorSize text ≠ 0) :
    ∃ op rest, (Lexeme.operator op).Legal ∧ (Lexeme.operator op).EndsAt rest ∧
      text = op ++ rest := by
  rcases lexeme_at_start text with rfl | ⟨lexeme, rest, legal, ends, rfl⟩
  · exact absurd rfl found
  · cases lexeme with
    | operator op => exact ⟨op, rest, legal, ends, rfl⟩
    | plain c => exact absurd (operatorSize_plain legal ends) found

/-- Where the pass finds no operator, be it behind a gap, the text does not come down to one. -/
theorem bareLexemes_head_of_operatorSize (none : operatorSize (trimStart text) = 0) :
    (bareLexemes text).head? ≠ some (.operator op) := by
  intro head
  have same : bareLexemes (trimStart text) = bareLexemes text := by
    rw [bareLexemes_trimStart, dropBlanks_of_head]
    intro lexeme first
    rw [head] at first
    cases first
    rfl
  obtain ⟨-, -, -, first⟩ := trimStart_split text
  rw [← same] at head
  cases here : trimStart text with
  | nil =>
    rw [here] at head
    cases head
  | cons d others =>
    rw [here] at head none
    have inked : isBlank d = false := first d (by rw [here]; rfl)
    rw [bareLexemes, lexemes_of_operatorSize none, bareOperators, prependBare, inked] at head
    cases head

/-- A character that the pass for operators passes over is no part of an operator, and no blank
before one. -/
theorem bareLexemes_passed (none : operatorSize (trimStart (c :: rest)) = 0) :
    bareLexemes (c :: rest) = .plain c :: bareLexemes rest := by
  cases blank : isBlank c with
  | false =>
    rw [trimStart_inked blank] at none
    rw [bareLexemes, lexemes_of_operatorSize none, bareOperators, prependBare, blank]
    rfl
  | true =>
    rw [trimStart_blank blank] at none
    rw [bareLexemes, lexemes_cons_blank blank, bareOperators]
    refine prependBare_eq fun next head loose => ?_
    cases loose with
    | before => exact bareLexemes_head_of_operatorSize none head

theorem pass_operators (text : List Char) :
    pass operatorSize (fun op => (Lexeme.operator op).spaced) text =
      (bareLexemes text).flatMap Lexeme.spaced := by
  induction text using pass.induct operatorSize with
  | case1 =>
    rw [pass]
    rfl
  | case2 c rest here none ih =>
    rw [pass, if_pos none, ih, bareLexemes_passed none]
    rfl
  | case3 c rest here found ih =>
    simp only [here] at found ih
    obtain ⟨op, others, legal, ends, split⟩ := operator_of_operatorSize found
    have size : operatorSize (op ++ others) = op.length := operatorSize_operator legal ends
    rw [split, size, List.drop_left] at ih
    rw [pass, if_neg found, split, size, List.take_left, List.drop_left, ih,
      bareLexemes_found legal ends split, List.flatMap_cons]

/-- Respacing is what a pass for operators and a trim leave. -/
theorem respaced_eq_pass (text : List Char) :
    respaced text = trim (pass operatorSize (fun op => (Lexeme.operator op).spaced) text) := by
  rw [pass_operators, respaced_eq]

end InlineCompletion.Spacing
