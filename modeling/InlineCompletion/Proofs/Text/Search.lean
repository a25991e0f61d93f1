import Mathlib.Data.List.Infix
import InlineCompletion.Text.Search

/-!
The first occurrence of one text in another. It is found exactly if there is one, removing it takes
out one contiguous block, and at the start of a text nothing stands before it.
-/
namespace InlineCompletion.Text
variable {needle text rest front back : List Char} {parts : List Char × List Char}

/-- A text around the first occurrence of a part in it. -/
structure FirstSplit (part text front back : List Char) : Prop where
  whole : text = front ++ part ++ back
  first : ∀ earlier later, text = earlier ++ part ++ later → front.length ≤ earlier.length

theorem FirstSplit.unique {part front' back' : List Char}
    (one : FirstSplit part text front back) (two : FirstSplit part text front' back') :
    front = front' ∧ back = back' := by
  have size : front.length = front'.length :=
    Nat.le_antisymm (one.first _ _ two.whole) (two.first _ _ one.whole)
  have same := one.whole.symm.trans two.whole
  rw [List.append_assoc, List.append_assoc] at same
  obtain ⟨fronts, rest⟩ := List.append_inj same size
  exact ⟨fronts, List.append_cancel_left rest⟩

theorem splitAtFirst?_first (found : splitAtFirst? needle text = some parts) :
    FirstSplit needle text parts.1 parts.2 := by
  induction text generalizing parts with
  | nil =>
    cases needle with
    | nil =>
      cases found
      exact ⟨rfl, fun _ _ _ => Nat.zero_le _⟩
    | cons => cases found
  | cons c rest ih =>
    rw [splitAtFirst?] at found
    by_cases start : needle.isPrefixOf (c :: rest)
    · rw [if_pos start] at found
      cases found
      obtain ⟨after, split⟩ := List.isPrefixOf_iff_prefix.mp start
      refine ⟨?_, fun _ _ _ => Nat.zero_le _⟩
      rw [← split]
      simp
    · rw [if_neg start] at found
      obtain ⟨later, inside, rfl⟩ := Option.map_eq_some_iff.mp found
      obtain ⟨whole, first⟩ := ih inside
      refine ⟨by simp [← whole], fun earlier after split => ?_⟩
      cases earlier with
      | nil => exact absurd (List.isPrefixOf_iff_prefix.mpr ⟨after, split.symm⟩) start
      | cons d earlier =>
        rw [List.cons_append, List.cons_append, List.cons.injEq] at split
        exact Nat.succ_le_succ (first earlier after split.2)

theorem splitAtFirst?_start (needle rest : List Char) :
    splitAtFirst? needle (needle ++ rest) = some ([], rest) := by
  cases whole : needle ++ rest with
  | nil =>
    obtain ⟨rfl, rfl⟩ := List.append_eq_nil_iff.mp whole
    rfl
  | cons c others =>
    have start : needle.isPrefixOf (c :: others) := by
      rw [← whole]
      exact List.isPrefixOf_iff_prefix.mpr (List.prefix_append _ _)
    rw [splitAtFirst?, if_pos start, ← whole, List.drop_left]

/-- If there is an occurrence, one is found. -/
theorem splitAtFirst?_isSome (front needle back : List Char) :
    (splitAtFirst? needle (front ++ needle ++ back)).isSome := by
  induction front with
  | nil => rw [List.nil_append, splitAtFirst?_start]; rfl
  | cons c front ih =>
    rw [List.cons_append, List.cons_append, splitAtFirst?]
    split
    · rfl
    · rwa [Option.isSome_map]

theorem splitAtFirst?_isSome_iff : (splitAtFirst? needle text).isSome ↔ needle <:+: text := by
  constructor
  · intro found
    obtain ⟨parts, found⟩ := Option.isSome_iff_exists.mp found
    exact ⟨parts.1, parts.2, (splitAtFirst?_first found).whole.symm⟩
  · rintro ⟨front, back, rfl⟩
    exact splitAtFirst?_isSome front needle back

/-- What is found is the first occurrence. -/
theorem splitAtFirst?_eq_some_iff : splitAtFirst? needle text = some (front, back) ↔
    FirstSplit needle text front back := by
  constructor
  · exact splitAtFirst?_first
  · intro split
    obtain ⟨found, search⟩ :=
      Option.isSome_iff_exists.mp (splitAtFirst?_isSome front needle back)
    rw [← split.whole] at search
    obtain ⟨fronts, backs⟩ := (splitAtFirst?_first search).unique split
    rw [search, ← fronts, ← backs]

/-- Something is removed exactly if there is something to remove and it occurs. -/
theorem removeFirst?_isSome_iff :
    (removeFirst? needle text).isSome ↔ needle ≠ [] ∧ needle <:+: text := by
  unfold removeFirst?
  cases needle with
  | nil => simp
  | cons c others => simp [splitAtFirst?_isSome_iff]

/-- The first occurrence of a part is taken out of a text, and all else of it stays. -/
inductive TakesOut (part text : List Char) : List Char → Prop where
  | intro {front back : List Char} (present : part ≠ []) (split : FirstSplit part text front back) :
      TakesOut part text (front ++ back)

theorem removeFirst?_eq_some_iff : removeFirst? needle text = some rest ↔
    TakesOut needle text rest := by
  constructor
  · intro removed
    unfold removeFirst? at removed
    split at removed
    · cases removed
    next present =>
      obtain ⟨parts, found, rfl⟩ := Option.map_eq_some_iff.mp removed
      exact .intro (by simpa using present) (splitAtFirst?_eq_some_iff.mp found)
  · rintro ⟨present, split⟩
    rw [removeFirst?, if_neg (by simpa using present), splitAtFirst?_eq_some_iff.mpr split]
    rfl

theorem removeFirst?_eq_none_iff :
    removeFirst? needle text = none ↔ needle = [] ∨ ¬ needle <:+: text := by
  rw [← Option.not_isSome_iff_eq_none, removeFirst?_isSome_iff, not_and_or, ne_eq, not_not]

/-- What is removed is one contiguous block. -/
theorem removeFirst?_eq (removed : removeFirst? needle text = some rest) :
    ∃ front back, text = front ++ needle ++ back ∧ rest = front ++ back := by
  obtain ⟨-, split⟩ := removeFirst?_eq_some_iff.mp removed
  exact ⟨_, _, split.whole, rfl⟩

theorem removeFirst?_start (present : needle ≠ []) (rest : List Char) :
    removeFirst? needle (needle ++ rest) = some rest := by
  simp [removeFirst?, splitAtFirst?_start, present]

end InlineCompletion.Text
