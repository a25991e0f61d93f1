import InlineCompletion.Fragment
import InlineCompletion.Proofs.Text.Marks
import InlineCompletion.Proofs.Text.Trim

/-!
Where the fragment that a prompt entry continues stands in its line. The word behind the last dot
ends the line, and so does the value of an assignment. A line that assigns more than once is the
exception: of its word the fragment is the part between the first two signs, and what stands behind
the second one is lost.
-/
namespace InlineCompletion
open Text
variable {text line name value rest : List Char}

/-- A text is what a line ends with, when the blanks behind both are left out. -/
def EndsLine (text line : List Char) : Prop :=
  trimEnd text <:+ trimEnd line

/-- A word without a call that assigns again, around its first two signs. -/
structure AssignsAgain (word name value rest : List Char) : Prop where
  closed : '(' ∉ word
  whole : word = name ++ '=' :: (value ++ '=' :: rest)
  first : '=' ∉ name
  second : '=' ∉ value

/-- How a fragment is read off the word at the end of a line. -/
inductive FragmentOf (word : List Char) : List Char → Prop where
  /-- A word that opens a call leaves nothing to continue. -/
  | call (opens : '(' ∈ word) : FragmentOf word []
  | bare (closed : '(' ∉ word) (unassigned : '=' ∉ word) : FragmentOf word word
  | value {name value : List Char} (closed : '(' ∉ word) (whole : word = name ++ '=' :: value)
      (first : '=' ∉ name) (last : '=' ∉ value) : FragmentOf word (trim value)
  /-- Of a word that assigns again, the part between the first two signs. -/
  | between {name value rest : List Char} (again : AssignsAgain word name value rest) :
      FragmentOf word (trim value)

/-! ### The end of a line -/

theorem endsLine_of_suffix (ends : text <:+ line) : EndsLine text line := by
  obtain ⟨front, rfl⟩ := ends
  obtain ⟨gap, blanks, split, last⟩ := trimEnd_split text
  have dropped : trimEnd (front ++ text) = trimEnd (front ++ trimEnd text) := by
    conv_lhs => rw [split]
    rw [← List.append_assoc, trimEnd_append_gap _ blanks]
  rw [EndsLine, dropped]
  rcases List.eq_nil_or_concat' (trimEnd text) with none | ⟨init, c, kept⟩
  · rw [none]
    exact List.nil_suffix
  · have inked : isBlank c = false := last c (by rw [kept, List.getLast?_concat])
    have same : trimEnd (front ++ (init ++ [c])) = front ++ (init ++ [c]) := by
      rw [← List.append_assoc, trimEnd_append_inked inked]
      rfl
    rw [kept, same]
    exact List.suffix_append front _

theorem endsLine_trim (text : List Char) : EndsLine (trim text) text := by
  rw [EndsLine, trim, trimEnd_trimEnd, ← trim, ← trimStart_trimEnd]
  exact List.dropWhile_suffix _

/-- The word at the end of a line ends it. -/
theorem wordAtEnd_endsLine (line : List Char) : EndsLine (wordAtEnd line) line := by
  rw [wordAtEnd]
  cases found : afterLast? '.' line with
  | none => exact List.suffix_rfl
  | some after =>
    obtain ⟨front, rfl, -⟩ := afterLast?_eq_some_iff.mp found
    have behind : after <:+ front ++ '.' :: after :=
      (List.suffix_cons '.' after).trans (List.suffix_append front _)
    exact (endsLine_trim after).trans (endsLine_of_suffix behind)

/-! ### The fragment of a word -/

theorem afterFirst_unmarked {mark : Char} (first : mark ∉ name) (last : mark ∉ value) :
    afterFirst mark (name ++ mark :: value) = value := by
  rw [afterFirst_append first, List.takeWhile_eq_self_iff]
  intro c member
  simpa using fun same : c = mark => last (same ▸ member)

theorem afterFirst_marked {mark : Char} (first : mark ∉ name) (second : mark ∉ value)
    (rest : List Char) : afterFirst mark (name ++ mark :: (value ++ mark :: rest)) = value := by
  rw [afterFirst_append first, List.takeWhile_append_of_pos, List.takeWhile_cons_of_neg (by simp),
    List.append_nil]
  intro c member
  simpa using fun same : c = mark => second (same ▸ member)

theorem fragmentAtEnd_assigned (closed : '(' ∉ wordAtEnd line) (assigned : '=' ∈ wordAtEnd line) :
    fragmentAtEnd line = trim (afterFirst '=' (wordAtEnd line)) := by
  simp [fragmentAtEnd, closed, assigned]

theorem fragmentOf_fragmentAtEnd (line : List Char) :
    FragmentOf (wordAtEnd line) (fragmentAtEnd line) := by
  by_cases opens : '(' ∈ wordAtEnd line
  · have none : fragmentAtEnd line = [] := by simp [fragmentAtEnd, opens]
    rw [none]
    exact .call opens
  by_cases assigned : '=' ∈ wordAtEnd line
  · have taken := fragmentAtEnd_assigned opens assigned
    obtain ⟨name, after, whole, first⟩ := List.eq_append_cons_of_mem assigned
    by_cases again : '=' ∈ after
    · obtain ⟨value, rest, rfl, second⟩ := List.eq_append_cons_of_mem again
      rw [taken, whole, afterFirst_marked first second]
      exact .between ⟨whole ▸ opens, rfl, first, second⟩
    · rw [taken, whole, afterFirst_unmarked first again]
      exact .value (whole ▸ opens) rfl first again
  · have all : fragmentAtEnd line = wordAtEnd line := by simp [fragmentAtEnd, opens, assigned]
    rw [all]
    exact .bare opens assigned

theorem AssignsAgain.fragment (again : AssignsAgain (wordAtEnd line) name value rest) :
    fragmentAtEnd line = trim value := by
  obtain ⟨closed, whole, first, second⟩ := again
  rw [fragmentAtEnd_assigned closed (by simp [whole]), whole, afterFirst_marked first second]

/-- What stands between two signs ends the line only if it also ends what follows the second one. -/
theorem AssignsAgain.endsLine_iff (again : AssignsAgain (wordAtEnd line) name value rest) :
    EndsLine (trim value) line ↔ EndsLine (trim value) rest := by
  have unmarked : '=' ∉ trimEnd (trim value) := by
    intro member
    obtain ⟨front, back, -, -, split⟩ := trim_split value
    rw [trim, trimEnd_trimEnd, ← trim] at member
    exact again.second (by rw [split]; simp [member])
  obtain ⟨front, split⟩ := wordAtEnd_endsLine line
  have inked : isBlank '=' = false := by decide
  rw [again.whole, trimEnd_append_inked inked, trimEnd_append_inked inked] at split
  have whole : trimEnd line = (front ++ name ++ '=' :: value) ++ '=' :: trimEnd rest := by
    rw [← split]
    simp
  rw [EndsLine, EndsLine, whole]
  exact suffix_behind_mark unmarked _ _

/-- The fragment that a prompt entry continues ends the line, unless the word there assigns again:
then it is what stands before the second sign, and ends the line only by chance. -/
theorem continued_fragment (line label : String) :
    (promptInsertText line label =
      if (reduceLine line).toList.getLast? = some ' ' then label else reduceLine line ++ label) ∧
    EndsLine (wordAtEnd line.toList) line.toList ∧
    FragmentOf (wordAtEnd line.toList) (reduceLine line).toList ∧
    (EndsLine (reduceLine line).toList line.toList ↔
      ∀ name value rest, AssignsAgain (wordAtEnd line.toList) name value rest →
        EndsLine (trim value) rest) := by
  have fragment : (reduceLine line).toList = fragmentAtEnd line.toList := String.toList_ofList
  have word := wordAtEnd_endsLine line.toList
  have read := fragmentOf_fragmentAtEnd line.toList
  refine ⟨?_, word, ?_, ?_⟩
  · rw [fragment, promptInsertText]
    split
    · rfl
    · rw [← String.toList_inj, String.toList_ofList, String.toList_append, fragment]
  · rw [fragment]
    exact read
  · rw [fragment]
    constructor
    · intro ends name value rest again
      rw [again.fragment] at ends
      exact again.endsLine_iff.mp ends
    · intro chance
      generalize fragmentAtEnd line.toList = taken at read
      cases read with
      | call => exact List.nil_suffix
      | bare => exact word
      | @value name value closed whole first last =>
        have inside : EndsLine value (wordAtEnd line.toList) := by
          rw [whole]
          exact endsLine_of_suffix ((List.suffix_cons _ _).trans (List.suffix_append _ _))
        exact ((endsLine_trim value).trans inside).trans word
      | between again => exact again.endsLine_iff.mpr (chance _ _ _ again)

/-- A variable that is assigned in passing is carried over, and what is being typed is not. -/
theorem continued_fragment_lost :
    reduceLine "int x = y = ma" = "y" ∧ promptInsertText "int x = y = ma" "lloc(4);" = "ylloc(4);" ∧
      ¬ EndsLine (reduceLine "int x = y = ma").toList "int x = y = ma".toList := by
  refine ⟨by decide +kernel, by decide +kernel, ?_⟩
  unfold EndsLine
  decide +kernel

end InlineCompletion
