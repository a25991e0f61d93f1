import Mathlib.Data.List.TakeWhile
import InlineCompletion.Text.Search

/-!
Cutting a text at a mark. What follows the last mark is the one end of the text that stands behind
a mark and has none itself; what stands between the first two marks ends where the second one is.
-/
namespace InlineCompletion.Text
variable {mark : Char} {text front back rest : List Char}

theorem afterLast?_eq_none_iff : afterLast? mark text = none ↔ mark ∉ text := by
  induction text with
  | nil => simp [afterLast?]
  | cons c text ih =>
    by_cases here : c = mark
    · simp [afterLast?, here]
    · simp [afterLast?, here, Ne.symm here, ih]

/-- What follows the last mark has no mark in it, and a mark stands right before it. -/
theorem afterLast?_eq_some_iff :
    afterLast? mark text = some rest ↔ ∃ front, text = front ++ mark :: rest ∧ mark ∉ rest := by
  constructor
  · intro found
    induction text with
    | nil => cases found
    | cons c text ih =>
      rw [afterLast?] at found
      cases later : afterLast? mark text with
      | some other =>
        rw [later, Option.some_or, Option.some.injEq] at found
        obtain ⟨front, split, last⟩ := ih (later.trans (congrArg some found))
        exact ⟨c :: front, by rw [split, List.cons_append], last⟩
      | none =>
        rw [later, Option.none_or] at found
        split at found
        next here =>
          cases found
          exact ⟨[], by rw [here, List.nil_append], afterLast?_eq_none_iff.mp later⟩
        next => cases found
  · rintro ⟨front, rfl, last⟩
    induction front with
    | nil => simp [afterLast?, afterLast?_eq_none_iff.mpr last]
    | cons c front ih => simp [afterLast?, ih]

/-- Of what follows the first mark, the part up to the second one is taken. -/
theorem afterFirst_append (first : mark ∉ front) (rest : List Char) :
    afterFirst mark (front ++ mark :: rest) = rest.takeWhile fun c => c != mark := by
  have skipped : (front ++ mark :: rest).dropWhile (fun c => c != mark) = mark :: rest := by
    rw [List.dropWhile_append_of_pos, List.dropWhile_cons_of_neg (by simp)]
    intro c member
    simpa using fun same : c = mark => first (same ▸ member)
  rw [afterFirst, skipped, List.drop_one, List.tail_cons]

/-- What has no mark ends a text exactly if it ends what follows a mark of that text. -/
theorem suffix_behind_mark (unmarked : mark ∉ text) (front rest : List Char) :
    text <:+ front ++ mark :: rest ↔ text <:+ rest := by
  constructor
  · intro ends
    rcases List.suffix_or_suffix_of_suffix ends (List.suffix_append front _) with inside | around
    · rcases List.suffix_cons_iff.mp inside with rfl | inside
      · exact absurd List.mem_cons_self unmarked
      · exact inside
    · exact absurd (around.subset List.mem_cons_self) unmarked
  · intro ends
    exact ends.trans ((List.suffix_cons mark rest).trans (List.suffix_append front _))

end InlineCompletion.Text
