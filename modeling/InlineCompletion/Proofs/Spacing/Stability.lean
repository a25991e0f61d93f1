import InlineCompletion.Proofs.Echo.Statement
import InlineCompletion.Proofs.Spacing.NormalForm
import InlineCompletion.Proofs.Spacing.Respacing

/-!
Normal form and respacing after one another. The normal form of a respaced text takes most of the
margins away again and glues together what stood apart, but two lexemes of a normal form never meet
that would be read as one; so respacing finds the same lexemes once more, and nothing changes when
both are done again. The first statement of a respaced text is respaced, too.
-/
namespace InlineCompletion.Spacing
open Text
variable {text rest front back gap op : List Char} {c d : Char} {lexeme first second : Lexeme}
  {line others : List Lexeme}

/-! ### Texts without blanks next to tight characters -/

/-- A tight character next to a blank. -/
inductive Slack : Char → Char → Prop where
  | behind {mark blank : Char} (tight : isTight mark = true) (space : isBlank blank = true) :
      Slack mark blank
  | before {mark blank : Char} (tight : isTight mark = true) (space : isBlank blank = true) :
      Slack blank mark

/-- No blank stands next to a tight character. -/
def Taut (text : List Char) : Prop :=
  text.IsChain fun first second => ¬ Slack first second

theorem prependTight_taut (c : Char) (taut : Taut text) : Taut (prependTight c text) := by
  unfold prependTight
  split
  next tight =>
    obtain ⟨gap, -, split, first⟩ := trimStart_split text
    have rest : Taut (trimStart text) := taut.suffix ⟨gap, split.symm⟩
    refine rest.cons fun next head slack => ?_
    cases slack with
    | behind _ space =>
      rw [first next head] at space
      cases space
    | before _ space =>
      rw [isBlank_of_isTight tight] at space
      cases space
  next loose =>
    split
    · exact taut
    next kept =>
      refine taut.cons fun next head slack => ?_
      cases slack with
      | behind tight => exact loose tight
      | before tight space =>
        obtain ⟨others, rfl⟩ := List.head?_eq_some_iff.mp head
        exact kept (by simp [space, startsTight, tight])

theorem tighten_taut (text : List Char) : Taut (tighten text) := by
  induction text with
  | nil => exact .nil
  | cons c rest ih => exact prependTight_taut c ih

theorem normalForm_taut (text : List Char) : Taut (normalForm text) := by
  obtain ⟨front, back, -, -, split⟩ := trim_split (tighten text)
  have taut := tighten_taut text
  rw [split] at taut
  exact List.IsChain.right_of_append (List.IsChain.left_of_append taut)

theorem isTight_of_isComparison (comparison : isComparison c = true) : isTight c = true := by
  simp only [isComparison, Bool.or_eq_true, beq_iff_eq] at comparison
  rcases comparison with (rfl | rfl) | rfl <;> decide

theorem isComparison_of_loose (loose : isTight c = false) : isComparison c = false := by
  by_contra comparison
  rw [isTight_of_isComparison (by simpa using comparison)] at loose
  cases loose

theorem isTight_of_isCompound (compound : isCompound c = true) : isTight c = false := by
  simp only [isCompound, Bool.or_eq_true, beq_iff_eq] at compound
  rcases compound with (((((((rfl | rfl) | rfl) | rfl) | rfl) | rfl) | rfl) | rfl) | rfl <;> decide

/-- An operator is ink, and it ends with a tight character. -/
theorem Lexeme.Legal.operator_ink (legal : (Lexeme.operator op).Legal) :
    (∀ c ∈ op, isBlank c = false) ∧ ∃ front mark, op = front ++ [mark] ∧ isTight mark = true := by
  cases legal with
  | arrow =>
    refine ⟨?_, ['-'], '>', rfl, rfl⟩
    rw [List.forall_mem_cons, List.forall_mem_singleton]
    exact ⟨by decide, by decide⟩
  | @compound c compound =>
    have inked : isBlank c = false := excluded isCompound_of_isBlank compound
    refine ⟨?_, [c], '=', rfl, rfl⟩
    rw [List.forall_mem_cons, List.forall_mem_singleton]
    exact ⟨inked, by decide⟩
  | run present comparisons =>
    have tight : ∀ c ∈ op, isTight c = true :=
      fun c member => isTight_of_isComparison (comparisons c member)
    refine ⟨fun c member => isBlank_of_isTight (tight c member), op.dropLast, op.getLast present,
      (List.dropLast_concat_getLast present).symm, tight _ (List.getLast_mem present)⟩

/-! ### Lexemes that stay apart -/

/-- Two lexemes as they follow each other in a text without blanks next to tight characters. -/
structure Meets (first second : Lexeme) : Prop where
  ends : first.EndsAt second.source
  taut : ∀ c d, first.source.getLast? = some c → second.source.head? = some d → ¬ Slack c d

/-- Two such lexemes with no blank next to an operator. -/
structure Fits (first second : Lexeme) : Prop extends Meets first second where
  tidy : ¬ first.Loose second

theorem lexemes_meet (taut : Taut text) : (lexemes text).IsChain Meets := by
  rw [List.isChain_iff_forall_rel_of_append_cons_cons]
  intro first second before after split
  constructor
  case ends => exact List.isChain_iff_forall_rel_of_append_cons_cons.mp (lexemes_isChain text) split
  case taut =>
    intro c d last head
    obtain ⟨init, left⟩ := List.getLast?_eq_some_iff.mp last
    obtain ⟨tail, right⟩ := List.head?_eq_some_iff.mp head
    have whole : text = (before.flatMap Lexeme.source ++ init) ++
        c :: d :: (tail ++ after.flatMap Lexeme.source) := by
      rw [← lexemes_source text, split]
      simp [left, right]
    exact List.isChain_iff_forall_rel_of_append_cons_cons.mp taut whole

/-- Behind a lexeme that ends with a tight character no blank follows. -/
theorem Meets.solid (meets : Meets first second) (last : first.source.getLast? = some c)
    (tight : isTight c = true) : second.isGap = false := by
  cases second with
  | operator op => rfl
  | plain d =>
    by_contra blank
    exact meets.taut c d last rfl (.behind tight (by simpa [Lexeme.isGap] using blank))

theorem Meets.solid_operator (meets : Meets (.operator op) second)
    (legal : (Lexeme.operator op).Legal) : second.isGap = false := by
  obtain ⟨-, front, mark, rfl, tight⟩ := legal.operator_ink
  exact meets.solid List.getLast?_concat tight

/-- A line keeps its first lexeme, or loses blanks before an operator that begins with no tight
character. -/
theorem bareOperators_head (chain : line.IsChain Meets)
    (head : (bareOperators line).head? = some lexeme) :
    line.head? = some lexeme ∨
      ∃ c op rest, line = .plain c :: rest ∧ isBlank c = true ∧ lexeme = .operator op ∧
        ∀ d, op.head? = some d → isTight d = false := by
  induction line with
  | nil => cases head
  | cons first rest ih =>
    obtain ⟨meets, chainRest⟩ := List.isChain_cons.mp chain
    rw [bareOperators] at head
    cases first with
    | operator op => exact .inl head
    | plain c =>
      rw [prependBare] at head
      split at head
      next dropped =>
        right
        obtain ⟨blank, starts⟩ := Bool.and_eq_true_iff.mp dropped
        obtain ⟨op, others, kept⟩ := operator_of_starts starts
        obtain rfl : lexeme = .operator op := by
          rw [kept] at head
          exact (Option.some.inj head).symm
        refine ⟨c, op, rest, rfl, blank, rfl, ?_⟩
        rcases ih chainRest head with first | ⟨-, other, -, -, -, same, loose⟩
        · intro d start
          by_contra tight
          exact (meets _ first).taut c d rfl start (.before (by simpa using tight) blank)
        · cases same
          exact loose
      next => exact .inl head

theorem bareOperators_fits (legal : ∀ lexeme ∈ line, lexeme.Legal) (chain : line.IsChain Meets) :
    (bareOperators line).IsChain Fits := by
  induction line with
  | nil => exact .nil
  | cons lexeme rest ih =>
    obtain ⟨meets, chainRest⟩ := List.isChain_cons.mp chain
    obtain ⟨legalHere, legalRest⟩ := List.forall_mem_cons.mp legal
    have fits := ih legalRest chainRest
    rw [bareOperators]
    cases lexeme with
    | operator op =>
      -- no blank follows an operator, so its neighbour is the one it had
      have same (next : Lexeme) (head : (bareOperators rest).head? = some next) :
          rest.head? = some next := by
        rcases bareOperators_head chainRest head with same | ⟨c, other, others, rfl, blank, -⟩
        · exact same
        · have solid : isBlank c = false := (meets _ rfl).solid_operator legalHere
          rw [solid] at blank
          cases blank
      have solid (next : Lexeme) (head : (bareOperators rest).head? = some next) :
          next.isGap = false := (meets next (same next head)).solid_operator legalHere
      rw [prependBare, dropBlanks_of_head solid]
      refine fits.cons fun next head => ⟨meets next (same next head), fun loose => ?_⟩
      cases loose with
      | behind blank =>
        have solid := solid _ head
        rw [Lexeme.isGap, blank] at solid
        cases solid
    | plain c =>
      rw [prependBare]
      split
      · exact fits
      next kept =>
        refine fits.cons fun next head => ?_
        have tidy : ¬ (Lexeme.plain c).Loose next := by
          intro loose
          cases loose with
          | before blank =>
            obtain ⟨others, starts⟩ := List.head?_eq_some_iff.mp head
            exact kept (by simp [blank, starts, startsWithOperator])
        rcases bareOperators_head chainRest head with same | ⟨-, op, -, -, -, rfl, loose⟩
        · exact ⟨meets next same, tidy⟩
        · have member := (bareOperators_sublist rest).subset (List.mem_of_head? head)
          obtain ⟨inked, -⟩ := (legalRest _ member).operator_ink
          refine ⟨⟨?_, ?_⟩, tidy⟩
          · intro d start readsOn
            have tight := isTight_of_isComparison readsOn.comparison
            rw [loose d start] at tight
            cases tight
          · rintro e d - start (⟨-, space⟩ | ⟨tight, -⟩)
            · rw [inked d (List.mem_of_head? start)] at space
              cases space
            · rw [loose d start] at tight
              cases tight

/-! ### The normal form of what is written -/

/-- What a line is written as, without the blanks next to tight characters. -/
def glued (line : List Lexeme) : List Char :=
  tighten (line.flatMap Lexeme.spaced)

theorem prependTight_inked (inked : isBlank c = false) (text : List Char) :
    ∃ seam, prependTight c text = c :: seam := by
  unfold prependTight
  split
  · exact ⟨_, rfl⟩
  · rw [inked]
    exact ⟨_, rfl⟩

/-- What is not tight stays before a text unless it is a blank before a tight character. -/
theorem prependTight_kept (loose : isTight c = false)
    (apart : ∀ mark, text.head? = some mark → isTight mark = true → isBlank c = false) :
    prependTight c text = c :: text := by
  rw [prependTight, if_neg (by simp [loose]), if_neg]
  intro dropped
  obtain ⟨blank, starts⟩ := Bool.and_eq_true_iff.mp dropped
  cases text with
  | nil => cases starts
  | cons mark rest =>
    rw [apart mark rfl starts] at blank
    cases blank

theorem trimStart_tighten_gap (blanks : ink gap = []) (rest : List Char) :
    trimStart (tighten (gap ++ rest)) = trimStart (tighten rest) := by
  induction gap with
  | nil => rfl
  | cons c gap ih =>
    obtain ⟨blank, others⟩ := blank_of_ink blanks
    rw [List.cons_append, tighten, trimStart_prependTight blank, ih others]

/-- Ink up to a tight character stays as it is, and what follows loses the blanks at its start. -/
theorem tighten_mark (inked : ∀ c ∈ front, isBlank c = false) (tight : isTight d = true)
    (rest : List Char) :
    tighten (front ++ d :: rest) = front ++ d :: trimStart (tighten rest) := by
  induction front with
  | nil => rw [List.nil_append, tighten, prependTight_tight tight, List.nil_append]
  | cons c front ih =>
    obtain ⟨inkedHere, inkedFront⟩ := List.forall_mem_cons.mp inked
    rw [List.cons_append, tighten, ih inkedFront, prependTight]
    split
    · cases front with
      | nil => rw [List.nil_append, trimStart_inked (isBlank_of_isTight tight)]; rfl
      | cons e front =>
        rw [List.cons_append, trimStart_inked (inkedFront e List.mem_cons_self)]
        rfl
    · rw [inkedHere]
      rfl

theorem trimStart_glued_operator (legal : (Lexeme.operator op).Legal) (rest : List Lexeme) :
    trimStart (glued (.operator op :: rest)) = op ++ trimStart (glued rest) := by
  obtain ⟨inked, front, mark, rfl, tight⟩ := legal.operator_ink
  have inkedFront : ∀ c ∈ front, isBlank c = false :=
    fun c member => inked c (List.mem_append_left _ member)
  rw [glued, List.flatMap_cons, spaced_operator, List.append_assoc, List.append_assoc,
    trimStart_tighten_gap (ink_margin _), List.append_assoc, List.singleton_append,
    tighten_mark inkedFront tight, trimStart_tighten_gap (ink_margin _), ← glued]
  have start : trimStart (front ++ mark :: trimStart (glued rest)) =
      front ++ mark :: trimStart (glued rest) := by
    cases front with
    | nil => exact trimStart_inked (isBlank_of_isTight tight) _
    | cons c front => exact trimStart_inked (inkedFront c List.mem_cons_self) _
  rw [start]
  simp

/-- A line that does not start with a blank begins, once it is written and trimmed, as its first
lexeme does. -/
theorem trimStart_glued_head (legal : ∀ lexeme ∈ line, lexeme.Legal)
    (solid : ∀ lexeme, line.head? = some lexeme → lexeme.isGap = false)
    (head : (trimStart (glued line)).head? = some d) :
    ∃ first, line.head? = some first ∧ first.source.head? = some d := by
  cases line with
  | nil => cases head
  | cons first rest =>
    refine ⟨first, rfl, ?_⟩
    have legalHere := legal first List.mem_cons_self
    cases first with
    | operator op =>
      have present : op ≠ [] := legalHere.source_ne_nil
      rwa [trimStart_glued_operator legalHere, List.head?_append_of_ne_nil _ present] at head
    | plain c =>
      have inked : isBlank c = false := solid _ rfl
      obtain ⟨seam, starts⟩ := prependTight_inked inked (glued rest)
      have written : glued (.plain c :: rest) = c :: seam := starts
      rw [written, trimStart_inked inked] at head
      exact head

theorem glued_plain (c : Char) (rest : List Lexeme) :
    glued (.plain c :: rest) = prependTight c (glued rest) := rfl

/-- A line that begins with ink once it is written begins as its first lexeme does. -/
theorem glued_head (legal : ∀ lexeme ∈ line, lexeme.Legal) (fits : line.IsChain Fits)
    (inked : isBlank d = false) (head : (glued line).head? = some d) :
    ∃ first, line.head? = some first ∧ first.source.head? = some d := by
  induction line generalizing d with
  | nil => cases head
  | cons first rest ih =>
    obtain ⟨meets, fitsRest⟩ := List.isChain_cons.mp fits
    by_cases solid : first.isGap = false
    · obtain ⟨tail, starts⟩ := List.head?_eq_some_iff.mp head
      have trimmed : trimStart (glued (first :: rest)) = glued (first :: rest) := by
        rw [starts, trimStart_inked inked]
      refine trimStart_glued_head legal ?_ (trimmed.symm ▸ head)
      rintro _ ⟨⟩
      exact solid
    · cases first with
      | operator op => exact absurd rfl solid
      | plain c =>
        have blank : isBlank c = true := by simpa [Lexeme.isGap] using solid
        have written : glued (.plain c :: rest) = c :: glued rest := by
          refine prependTight_kept (isTight_of_isBlank blank) fun mark starts tight => ?_
          obtain ⟨next, follows, begins⟩ :=
            ih (List.forall_mem_cons.mp legal).2 fitsRest (isBlank_of_isTight tight) starts
          exact absurd (.before tight blank) ((meets next follows).taut c mark rfl begins)
        rw [written] at head
        cases head
        rw [inked] at blank
        cases blank

/-! ### Reading it back -/

theorem bareLexemes_trimStart (text : List Char) :
    bareLexemes (trimStart text) = dropBlanks (bareLexemes text) := by
  obtain ⟨gap, blanks, split, first⟩ := trimStart_split text
  have solid : ∀ lexeme, (bareLexemes (trimStart text)).head? = some lexeme →
      lexeme.isGap = false := by
    intro lexeme head
    cases read : lexemes (trimStart text) with
    | nil =>
      rw [bareLexemes, read] at head
      cases head
    | cons start rest =>
      rw [bareLexemes, read, bareOperators] at head
      cases start with
      | operator op =>
        cases head
        rfl
      | plain c =>
        have inked : isBlank c = false := first c (head_source (by rw [read]; rfl)).symm
        rw [prependBare, inked] at head
        cases head
        exact inked
  have dropped := dropBlanks_bareOperators_gap blanks (lexemes (trimStart text))
  rw [← lexemes_gap gap _ blanks, ← split] at dropped
  calc bareLexemes (trimStart text) = dropBlanks (bareLexemes (trimStart text)) :=
        (dropBlanks_of_head solid).symm
    _ = dropBlanks (bareLexemes text) := dropped.symm

/-- An operator behind a gap takes the blanks on both sides away. -/
theorem bareLexemes_found (legal : (Lexeme.operator op).Legal)
    (ends : (Lexeme.operator op).EndsAt rest) (split : trimStart text = op ++ rest) :
    bareLexemes text = .operator op :: bareLexemes (trimStart rest) := by
  obtain ⟨gap, blanks, whole, -⟩ := trimStart_split text
  have read : lexemes (op ++ rest) = .operator op :: lexemes rest := lexemes_append legal ends
  rw [whole, split, bareLexemes, lexemes_gap gap _ blanks, read,
    bareOperators_gap_operator blanks, bareLexemes_trimStart]
  rfl

/-- A line of lexemes that stay apart is read back from the normal form of what it is written as. -/
theorem bareLexemes_glued (legal : ∀ lexeme ∈ line, lexeme.Legal) (fits : line.IsChain Fits) :
    bareLexemes (glued line) = line := by
  induction line with
  | nil => rfl
  | cons lexeme rest ih =>
    obtain ⟨meets, fitsRest⟩ := List.isChain_cons.mp fits
    obtain ⟨legalHere, legalRest⟩ := List.forall_mem_cons.mp legal
    have read := ih legalRest fitsRest
    have kept : prependBare lexeme rest = lexeme :: rest :=
      prependBare_eq fun next head => (meets next head).tidy
    cases lexeme with
    | operator op =>
      have solid : ∀ next, rest.head? = some next → next.isGap = false :=
        fun next head => Lexeme.solid_of_not_loose (meets next head).tidy
      have ends : (Lexeme.operator op).EndsAt (trimStart (glued rest)) := by
        intro d head readsOn
        obtain ⟨next, follows, begins⟩ := trimStart_glued_head legalRest solid head
        exact (meets next follows).ends d begins readsOn
      rw [bareLexemes_found legalHere ends (trimStart_glued_operator legalHere rest),
        trimStart_trimStart, bareLexemes_trimStart, read, dropBlanks_of_head solid]
    | plain c =>
      cases tight : isTight c with
      | true =>
        -- the blanks it drops are the margin of the next operator, which reading drops as well
        have noCompound : isCompound c = false := excluded isTight_of_isCompound tight
        have solid : ∀ next, rest.head? = some next → next.isGap = false :=
          fun next head => (meets next head).solid rfl tight
        have rereads : lexemes (c :: trimStart (glued rest)) =
            .plain c :: lexemes (trimStart (glued rest)) :=
          lexemes_append_cons legalHere.plain_other noCompound [] _
        rw [bareLexemes, glued_plain, prependTight_tight tight, rereads, bareOperators,
          ← bareLexemes, bareLexemes_trimStart, read, dropBlanks_of_head solid, kept]
      | false =>
        -- no blank before a tight character is left in a line that fits
        have written : glued (.plain c :: rest) = c :: glued rest := by
          refine prependTight_kept tight fun mark starts tight => ?_
          obtain ⟨next, follows, begins⟩ :=
            glued_head legalRest fitsRest (isBlank_of_isTight tight) starts
          by_contra blank
          exact (meets next follows).taut c mark rfl begins (.before tight (by simpa using blank))
        have ends : (Lexeme.plain c).EndsAt (glued rest) := by
          intro d head readsOn
          have inked := isBlank_of_isTight (isTight_of_isComparison readsOn.comparison)
          obtain ⟨next, follows, begins⟩ := glued_head legalRest fitsRest inked head
          exact (meets next follows).ends d begins readsOn
        have rereads : lexemes (c :: glued rest) = .plain c :: lexemes (glued rest) :=
          lexemes_append legalHere ends
        rw [bareLexemes, written, rereads, bareOperators, ← bareLexemes, read, kept]

/-- Where the lexemes of a text stay apart, the normal form takes nothing from the respaced text that
respacing does not put back. -/
theorem respaced_normalForm_of_fits (fits : (bareLexemes text).IsChain Fits) :
    respaced (normalForm (respaced text)) = respaced text := by
  have read := bareLexemes_glued (bareLexemes_legal text) fits
  rw [respaced_eq text, normalForm_trim, normalForm, ← glued, respaced_trim, respaced_eq, read]

theorem bareLexemes_normalForm_fits (text : List Char) :
    (bareLexemes (normalForm text)).IsChain Fits :=
  bareOperators_fits (legal_of_mem_lexemes _) (lexemes_meet (normalForm_taut text))

/-- Respacing what was respaced from a normal form, after taking its normal form again, changes
nothing. -/
theorem respaced_normalForm_respaced (text : List Char) :
    respaced (normalForm (respaced (normalForm text))) = respaced (normalForm text) :=
  respaced_normalForm_of_fits (bareLexemes_normalForm_fits text)

/-! ### The first statement -/

theorem dropBlanks_append_inked (inked : isBlank c = false) (line others : List Lexeme) :
    dropBlanks (line ++ .plain c :: others) = dropBlanks line ++ .plain c :: others := by
  induction line with
  | nil => simp [dropBlanks, inked]
  | cons lexeme rest ih =>
    cases lexeme with
    | operator op => rfl
    | plain d =>
      rw [List.cons_append, dropBlanks, dropBlanks]
      split
      · exact ih
      · rfl

/-- What stands before ink loses its blanks whatever follows. -/
theorem bareOperators_before_inked (inked : isBlank c = false) (line : List Lexeme) :
    ∃ kept, ∀ others, bareOperators (line ++ .plain c :: others) =
      kept ++ .plain c :: bareOperators others := by
  induction line with
  | nil =>
    refine ⟨[], fun others => ?_⟩
    rw [List.nil_append, bareOperators, prependBare, inked]
    rfl
  | cons lexeme rest ih =>
    obtain ⟨kept, same⟩ := ih
    cases lexeme with
    | operator op =>
      refine ⟨.operator op :: dropBlanks kept, fun others => ?_⟩
      rw [List.cons_append, bareOperators, same, prependBare, dropBlanks_append_inked inked]
      rfl
    | plain d =>
      refine ⟨prependBare (.plain d) kept, fun others => ?_⟩
      rw [List.cons_append, bareOperators, same, prependBare, startsWithOperator_append_plain,
        prependBare]
      split <;> rfl

/-- Up to ink that belongs to no operator a text is respaced whatever follows, and behind it what
follows is respaced but for the blanks at its start. -/
theorem respaced_before_inked (inked : isBlank c = false) (noComparison : isComparison c = false)
    (noCompound : isCompound c = false) (front : List Char) :
    ∃ start, ink start = ink front ∧ respaced (front ++ [c]) = start ++ [c] ∧
      ∀ back, respaced (front ++ c :: back) =
        start ++ c :: trimEnd ((bareLexemes back).flatMap Lexeme.spaced) := by
  obtain ⟨kept, same⟩ := bareOperators_before_inked inked (lexemes front)
  have spaced (back : List Char) : respaced (front ++ c :: back) =
      trimStart (kept.flatMap Lexeme.spaced) ++
        c :: trimEnd ((bareLexemes back).flatMap Lexeme.spaced) := by
    rw [respaced, lexemes_append_cons noComparison noCompound, same, List.flatMap_append,
      List.flatMap_cons]
    rw [Lexeme.spaced, List.singleton_append, trim, trimStart_append_inked inked,
      trimEnd_append_inked inked]
    rfl
  have single := spaced []
  refine ⟨trimStart (kept.flatMap Lexeme.spaced), ?_, single, spaced⟩
  have kept := congrArg ink single
  rw [ink_respaced, ink_append, ink_append] at kept
  exact (List.append_cancel_right kept).symm

/-- It does not matter whether a text is respaced before it is cut or after. -/
theorem firstStatement_respaced (text : List Char) :
    firstStatement (respaced text) = respaced (firstStatement text) := by
  rcases semicolon_cases text with unended | ⟨front, back, rfl, unended⟩
  · have colorless : ';' ∉ respaced text := by
      rw [semicolon_iff_ink, ink_respaced, ← semicolon_iff_ink]
      exact unended
    rw [firstStatement_of_notMem unended, firstStatement_of_notMem colorless]
  · obtain ⟨start, sameInk, single, whole⟩ :=
      respaced_before_inked (c := ';') (by decide) (by decide) (by decide) front
    have colorless : ';' ∉ start := by
      rw [semicolon_iff_ink, sameInk, ← semicolon_iff_ink]
      exact unended
    rw [whole, firstStatement_append colorless, firstStatement_append unended, single]

/-- Nor whether its normal form is taken before it is cut or after. -/
theorem firstStatement_normalForm (text : List Char) :
    firstStatement (normalForm text) = normalForm (firstStatement text) := by
  rcases semicolon_cases text with unended | ⟨front, back, rfl, unended⟩
  · have colorless : ';' ∉ normalForm text := by
      rw [semicolon_iff_ink, ink_normalForm, ← semicolon_iff_ink]
      exact unended
    rw [firstStatement_of_notMem unended, firstStatement_of_notMem colorless]
  · have inked : isBlank ';' = false := by decide
    have sameInk : ink (normalForm (front ++ [';'])) = ink front ++ [';'] := by
      rw [ink_normalForm, ink_append, ink_cons_inked inked]
      rfl
    have present : normalForm (front ++ [';']) ≠ [] := by
      intro none
      rw [none] at sameInk
      exact absurd sameInk (by simp [ink])
    obtain ⟨init, d, split, inkedLast⟩ := (normalForm_trimmed (front ++ [';'])).concat present
    rw [split, ink_append, ink_cons_inked inkedLast] at sameInk
    obtain ⟨sameFront, sameLast⟩ := List.append_inj' sameInk rfl
    obtain rfl : d = ';' := (List.cons.inj sameLast).1
    have colorless : ';' ∉ init := by
      rw [semicolon_iff_ink, sameFront, ← semicolon_iff_ink]
      exact unended
    obtain ⟨after, whole, -⟩ := normalForm_append (front ++ [';']) back present
    rw [List.append_assoc, List.singleton_append, split, List.append_assoc,
      List.singleton_append] at whole
    rw [whole, firstStatement_append colorless, firstStatement_append unended, split]

/-- The first statement of a respaced text is respaced. -/
theorem respaced_firstStatement (text : List Char) :
    respaced (firstStatement (respaced text)) = firstStatement (respaced text) := by
  rw [firstStatement_respaced, respaced_respaced]

/-! ### Strings -/

theorem respaceOperators_toList (text : String) :
    (respaceOperators text).toList = respaced text.toList :=
  String.toList_ofList

/-- Respacing changes blanks around operators only, and it settles: nothing changes when it is done
again, not even after a normal form in between, nor when it is done to an inserted text. -/
theorem respaceOperators_settles :
    (∀ text : String,
      ink (respaceOperators text).toList = ink text.toList ∧
      operators (respaceOperators text).toList = operators text.toList ∧
      Margins (lexemes (respaceOperators text).toList) ∧
      respaceOperators (respaceOperators text) = respaceOperators text ∧
      respaceOperators (normalize (respaceOperators (normalize text))) =
        respaceOperators (normalize text)) ∧
    ∀ (marker label : String) (typed : Typed),
      reconcile marker label none typed = .error (.noUsableResponse label) ∧
      ∀ body, ∃ r, reconcile marker label (some body) typed = .ok r ∧
        respaceOperators r.insertText = r.insertText := by
  constructor
  · intro text
    refine ⟨?_, ?_, ?_, ?_, ?_⟩
    · rw [respaceOperators_toList, ink_respaced]
    · rw [respaceOperators_toList, operators_respaced]
    · rw [respaceOperators_toList]
      exact margins_respaced text.toList
    · rw [← String.toList_inj]
      simp only [respaceOperators_toList, respaced_respaced]
    · rw [← String.toList_inj]
      simp only [respaceOperators_toList, normalize_toList, respaced_normalForm_respaced]
  · intro marker label typed
    refine ⟨rfl, fun body => ⟨reconcileBody marker label body typed, rfl, ?_⟩⟩
    rw [← String.toList_inj, respaceOperators_toList, reconcileBody_text, respaced_firstStatement]

/-- Operators that touch stay apart, although an arrow loses its blanks. -/
example : respaceOperators "a - -> b <-> c+== d" = "a -->b < ->c +=  = d" := by decide +kernel

end InlineCompletion.Spacing
