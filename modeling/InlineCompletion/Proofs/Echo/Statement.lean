import InlineCompletion.Echo
import InlineCompletion.Proofs.Text.Trim

/-!
The first statement of a text: all of it up to and including the first semicolon, or all of it if
there is none. The cut of a text is its first statement, and a cut is noted exactly if it drops
something. A semicolon is ink, so it does not matter whether the blanks go before the cut or after.
-/
namespace InlineCompletion
open Text Spacing
variable {text front : List Char}

/-- A text up to and including its first semicolon; all of it when it has none. -/
def firstStatement (text : List Char) : List Char :=
  text.take (text.idxOf ';' + 1)

theorem firstStatement_of_notMem (unended : ';' ∉ text) : firstStatement text = text := by
  rw [firstStatement, List.idxOf_eq_length_iff.mpr unended, List.take_of_length_le]
  exact Nat.le_succ _

theorem firstStatement_append (unended : ';' ∉ front) (back : List Char) :
    firstStatement (front ++ ';' :: back) = front ++ [';'] := by
  rw [firstStatement, List.idxOf_append_of_notMem unended, List.idxOf_cons_self, Nat.add_zero,
    List.take_length_add_append]
  rfl

theorem firstStatement_behind (unended : ';' ∉ front) (rest : List Char) :
    firstStatement (front ++ rest) = front ++ firstStatement rest := by
  rw [firstStatement, List.idxOf_append_of_notMem unended, Nat.add_assoc,
    List.take_length_add_append, firstStatement]

/-- A text has no semicolon, or it is split at the first one. -/
theorem semicolon_cases (text : List Char) :
    ';' ∉ text ∨ ∃ front back, text = front ++ ';' :: back ∧ ';' ∉ front := by
  by_cases ended : ';' ∈ text
  · exact .inr (List.eq_append_cons_of_mem ended)
  · exact .inl ended

theorem cutStatement_eq (text : List Char) :
    cutStatement text = (firstStatement text, decide (firstStatement text ≠ text)) := by
  induction text with
  | nil => rfl
  | cons c rest ih =>
    rw [cutStatement]
    by_cases ends : c = ';'
    · subst ends
      have unended : ';' ∉ ([] : List Char) := List.not_mem_nil
      have cut : firstStatement (';' :: rest) = [';'] := firstStatement_append unended rest
      rw [if_pos rfl, cut]
      cases rest <;> simp
    · have later : firstStatement (c :: rest) = c :: firstStatement rest := by
        rw [firstStatement, List.idxOf_cons_ne rest ends, List.take_succ_cons, firstStatement]
      rw [if_neg ends, ih, later]
      simp

/-- A first statement has at most one semicolon, at its end. -/
theorem semicolon_last (text : List Char) : ';' ∉ (firstStatement text).dropLast := by
  rcases semicolon_cases text with unended | ⟨front, back, rfl, unended⟩
  · rw [firstStatement_of_notMem unended]
    exact fun member => unended (List.dropLast_subset text member)
  · rw [firstStatement_append unended, List.dropLast_concat]
    exact unended

theorem semicolon_iff_ink : ';' ∈ text ↔ ';' ∈ ink text := by
  have inked : isBlank ';' = false := by decide
  simp [ink, inked]

theorem ink_firstStatement (text : List Char) :
    ink (firstStatement text) = firstStatement (ink text) := by
  have inked : isBlank ';' = false := by decide
  rcases semicolon_cases text with unended | ⟨front, back, rfl, unended⟩
  · have colorless : ';' ∉ ink text := by rwa [← semicolon_iff_ink]
    rw [firstStatement_of_notMem unended, firstStatement_of_notMem colorless]
  · have colorless : ';' ∉ ink front := by rwa [← semicolon_iff_ink]
    rw [firstStatement_append unended, ink_append, ink_append, ink_cons_inked inked,
      ink_cons_inked inked, firstStatement_append colorless]
    rfl

theorem firstStatement_trimmed (trimmed : Trimmed text) : Trimmed (firstStatement text) := by
  rcases semicolon_cases text with unended | ⟨front, back, rfl, unended⟩
  · rwa [firstStatement_of_notMem unended]
  · rw [firstStatement_append unended]
    refine ⟨fun c first => trimmed.start c ?_, ?_⟩
    · cases front <;> exact first
    · have inked : isBlank ';' = false := by decide
      simpa using inked

/-- A cut of a text without blanks at its end drops ink if it drops anything. -/
theorem firstStatement_eq_iff (trimmed : Trimmed text) :
    firstStatement text = text ↔ firstStatement (ink text) = ink text := by
  rw [← ink_firstStatement]
  constructor
  · intro whole
    rw [whole]
  · intro whole
    rcases semicolon_cases text with unended | ⟨front, back, rfl, unended⟩
    · exact firstStatement_of_notMem unended
    · rw [firstStatement_append unended] at whole ⊢
      rw [List.append_cons front ';' back] at whole trimmed ⊢
      have blanks : ink back = [] := by
        rw [ink_append _ back] at whole
        exact List.self_eq_append_right.mp whole
      rw [Trimmed.no_gap_behind _ trimmed blanks, List.append_nil]

/-! ### What is inserted -/

/-- The normal form of a body, less its echo. -/
def echoless (marker label body : String) (typed : Typed) : Stripped :=
  stripEcho marker.toList (normalForm label.toList) (normalForm typed.resolved.toList)
    (normalForm typed.line.toList) (normalForm body.toList)

variable (marker label body : String) (typed : Typed)

theorem reconcileBody_rules :
    (reconcileBody marker label body typed).rules = (echoless marker label body typed).rules := rfl

theorem reconcileBody_text :
    (reconcileBody marker label body typed).insertText.toList =
      firstStatement (respaced (echoless marker label body typed).text) := by
  simp only [reconcileBody, echoless, cutStatement_eq, String.toList_ofList]

theorem reconcileBody_truncated :
    (reconcileBody marker label body typed).truncated = true ↔
      firstStatement (respaced (echoless marker label body typed).text) ≠
        respaced (echoless marker label body typed).text := by
  simp only [reconcileBody, echoless, cutStatement_eq, decide_eq_true_iff]

end InlineCompletion
