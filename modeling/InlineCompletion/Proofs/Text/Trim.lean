import Mathlib.Data.List.Basic
import InlineCompletion.Text.Trim

/-!
What trimming leaves alone. A text is its trimmed part between two gaps without ink, so trimming
keeps the ink; and of a text around a part that begins and ends with ink, trimming changes only what
stands before that part and behind it.
-/
namespace InlineCompletion.Text
variable {text gap front back core rest : List Char} {c : Char}

/-- No blank stands at either end. -/
structure Trimmed (text : List Char) : Prop where
  start : ∀ c, text.head? = some c → isBlank c = false
  stop : ∀ c, text.getLast? = some c → isBlank c = false

/-- Of two classes of characters that exclude one another each excludes the other. -/
theorem excluded {first second : Char → Bool} (excludes : ∀ {c}, first c = true → second c = false)
    (member : second c = true) : first c = false := by
  by_contra other
  rw [excludes (by simpa using other)] at member
  cases member

/-! ### Ink -/

@[simp] theorem ink_append (first second : List Char) :
    ink (first ++ second) = ink first ++ ink second :=
  List.filter_append ..

theorem ink_cons_blank (blank : isBlank c = true) (rest : List Char) :
    ink (c :: rest) = ink rest := by
  simp [ink, blank]

theorem ink_cons_inked (inked : isBlank c = false) (rest : List Char) :
    ink (c :: rest) = c :: ink rest := by
  simp [ink, inked]

/-- The first character of a text without ink is blank, and the others have no ink either. -/
theorem blank_of_ink (empty : ink (c :: rest) = []) : isBlank c = true ∧ ink rest = [] := by
  cases blank : isBlank c with
  | true => exact ⟨rfl, by rwa [ink_cons_blank blank] at empty⟩
  | false => rw [ink_cons_inked blank] at empty; cases empty

/-! ### The start -/

theorem trimStart_blank (blank : isBlank c = true) (rest : List Char) :
    trimStart (c :: rest) = trimStart rest :=
  List.dropWhile_cons_of_pos blank

theorem trimStart_inked (inked : isBlank c = false) (rest : List Char) :
    trimStart (c :: rest) = c :: rest := by
  simp [trimStart, inked]

theorem trimStart_append_inked (inked : isBlank c = false) (front rest : List Char) :
    trimStart (front ++ c :: rest) = trimStart front ++ c :: rest := by
  induction front with
  | nil => exact trimStart_inked inked rest
  | cons d front ih =>
    cases blank : isBlank d with
    | true => rw [List.cons_append, trimStart_blank blank, trimStart_blank blank, ih]
    | false => rw [List.cons_append, trimStart_inked blank, trimStart_inked blank, List.cons_append]

theorem trimStart_append (inked : ink front ≠ []) (rest : List Char) :
    trimStart (front ++ rest) = trimStart front ++ rest := by
  induction front with
  | nil => exact absurd rfl inked
  | cons c front ih =>
    cases blank : isBlank c with
    | true =>
      rw [ink_cons_blank blank] at inked
      rw [List.cons_append, trimStart_blank blank, trimStart_blank blank, ih inked]
    | false => rw [List.cons_append, trimStart_inked blank, trimStart_inked blank, List.cons_append]

theorem trimStart_gap (gap rest : List Char) (blanks : ink gap = []) :
    trimStart (gap ++ rest) = trimStart rest := by
  induction gap with
  | nil => rfl
  | cons c gap ih =>
    obtain ⟨blank, others⟩ := blank_of_ink blanks
    rw [List.cons_append, trimStart_blank blank, ih others]

theorem trimStart_eq_nil (blanks : ink gap = []) : trimStart gap = [] := by
  have skipped := trimStart_gap gap [] blanks
  rwa [List.append_nil] at skipped

/-- A text is a gap and then what begins with ink. -/
theorem trimStart_split (text : List Char) :
    ∃ gap, ink gap = [] ∧ text = gap ++ trimStart text ∧
      ∀ c, (trimStart text).head? = some c → isBlank c = false := by
  induction text with
  | nil => exact ⟨[], rfl, rfl, by simp [trimStart]⟩
  | cons c rest ih =>
    cases blank : isBlank c with
    | true =>
      obtain ⟨gap, blanks, split, first⟩ := ih
      rw [trimStart_blank blank]
      refine ⟨c :: gap, ?_, ?_, first⟩
      · rw [ink_cons_blank blank, blanks]
      · rw [List.cons_append, ← split]
    | false =>
      rw [trimStart_inked blank]
      exact ⟨[], rfl, rfl, by simpa using blank⟩

@[simp] theorem trimStart_trimStart (text : List Char) :
    trimStart (trimStart text) = trimStart text := by
  obtain ⟨-, -, -, first⟩ := trimStart_split text
  cases left : trimStart text with
  | nil => rfl
  | cons c rest => exact trimStart_inked (first c (by rw [left]; rfl)) rest

/-! ### The end -/

theorem trimEnd_append_inked (inked : isBlank c = false) (front rest : List Char) :
    trimEnd (front ++ c :: rest) = front ++ c :: trimEnd rest := by
  induction front with
  | nil =>
    rw [List.nil_append, List.nil_append, trimEnd]
    cases left : trimEnd rest with
    | nil => simp [inked]
    | cons => rfl
  | cons d front ih =>
    rw [List.cons_append, List.cons_append, trimEnd, ih]
    cases front <;> rfl

theorem trimEnd_gap (blanks : ink gap = []) : trimEnd gap = [] := by
  induction gap with
  | nil => rfl
  | cons c gap ih =>
    obtain ⟨blank, others⟩ := blank_of_ink blanks
    rw [trimEnd, ih others]
    simp [blank]

/-- A text is what ends with ink and then a gap. -/
theorem trimEnd_split (text : List Char) :
    ∃ gap, ink gap = [] ∧ text = trimEnd text ++ gap ∧
      ∀ c, (trimEnd text).getLast? = some c → isBlank c = false := by
  induction text with
  | nil => exact ⟨[], rfl, rfl, by simp [trimEnd]⟩
  | cons c rest ih =>
    obtain ⟨gap, blanks, split, last⟩ := ih
    rw [trimEnd]
    cases left : trimEnd rest with
    | nil =>
      rw [left, List.nil_append] at split
      subst split
      cases blank : isBlank c with
      | true => exact ⟨c :: rest, by rw [ink_cons_blank blank, blanks], rfl, by simp⟩
      | false => exact ⟨rest, blanks, rfl, by simpa using blank⟩
    | cons kept others =>
      rw [left] at split last
      refine ⟨gap, blanks, by simp [split], ?_⟩
      simpa [List.getLast?_cons_cons] using last

/-! ### Both ends -/

/-- A text is its trimmed part between two gaps. -/
theorem trim_split (text : List Char) :
    ∃ front back, ink front = [] ∧ ink back = [] ∧ text = front ++ trim text ++ back := by
  obtain ⟨front, before, split, -⟩ := trimStart_split text
  obtain ⟨back, after, rest, -⟩ := trimEnd_split (trimStart text)
  exact ⟨front, back, before, after, by rw [List.append_assoc, trim, ← rest, ← split]⟩

theorem trim_trimmed (text : List Char) : Trimmed (trim text) := by
  obtain ⟨-, -, -, first⟩ := trimStart_split text
  obtain ⟨gap, -, split, last⟩ := trimEnd_split (trimStart text)
  refine ⟨?_, last⟩
  intro c head
  apply first c
  rw [split, List.head?_append]
  exact Option.or_eq_some_iff.mpr (.inl head)

@[simp] theorem ink_trimStart (text : List Char) : ink (trimStart text) = ink text := by
  obtain ⟨gap, blanks, split, -⟩ := trimStart_split text
  calc ink (trimStart text) = ink (gap ++ trimStart text) := by simp [blanks]
    _ = ink text := by rw [← split]

@[simp] theorem ink_trim (text : List Char) : ink (trim text) = ink text := by
  obtain ⟨front, back, before, after, split⟩ := trim_split text
  calc ink (trim text) = ink (front ++ trim text ++ back) := by simp [before, after]
    _ = ink text := by rw [← split]

namespace Trimmed

theorem cons (trimmed : Trimmed core) (inked : core ≠ []) :
    ∃ c rest, core = c :: rest ∧ isBlank c = false := by
  obtain ⟨c, rest, rfl⟩ := List.exists_cons_of_ne_nil inked
  exact ⟨c, rest, rfl, trimmed.start c rfl⟩

theorem concat (trimmed : Trimmed core) (inked : core ≠ []) :
    ∃ front c, core = front ++ [c] ∧ isBlank c = false := by
  have split := List.dropLast_concat_getLast inked
  exact ⟨_, _, split.symm, trimmed.stop _ (List.getLast?_eq_some_getLast inked)⟩

/-- Around a part that begins and ends with ink only the rest is trimmed. -/
theorem trim_around (trimmed : Trimmed core) (inked : core ≠ []) (front back : List Char) :
    trim (front ++ core ++ back) = trimStart front ++ core ++ trimEnd back := by
  obtain ⟨c, rest, first, inkedFirst⟩ := trimmed.cons inked
  obtain ⟨init, d, last, inkedLast⟩ := trimmed.concat inked
  have start : trimStart (front ++ core ++ back) = trimStart front ++ core ++ back := by
    rw [first, List.append_assoc, List.cons_append, trimStart_append_inked inkedFirst]
    simp
  rw [trim, start, last]
  have stop := trimEnd_append_inked inkedLast (trimStart front ++ init) back
  simpa using stop

theorem no_gap_before (trimmed : Trimmed (gap ++ rest)) (blanks : ink gap = []) : gap = [] := by
  cases gap with
  | nil => rfl
  | cons c gap =>
    have inked := trimmed.start c rfl
    rw [ink_cons_inked inked] at blanks
    cases blanks

theorem no_gap_behind (front : List Char) (trimmed : Trimmed (front ++ gap))
    (blanks : ink gap = []) : gap = [] := by
  rcases List.eq_nil_or_concat' gap with rfl | ⟨init, c, rfl⟩
  · rfl
  · have inked := trimmed.stop c (by rw [← List.append_assoc, List.getLast?_concat])
    rw [ink_append, ink_cons_inked inked] at blanks
    simp at blanks

end Trimmed

theorem trim_gap (gap rest : List Char) (blanks : ink gap = []) :
    trim (gap ++ rest) = trim rest := by
  rw [trim, trimStart_gap gap rest blanks, trim]

/-- It does not matter which end is trimmed first. -/
theorem trimStart_trimEnd (text : List Char) : trimStart (trimEnd text) = trim text := by
  obtain ⟨front, back, before, after, split⟩ := trim_split text
  by_cases empty : trim text = []
  · have blanks : ink text = [] := by rw [← ink_trim, empty]; rfl
    rw [empty, trimEnd_gap blanks]
    rfl
  · obtain ⟨init, d, last, inked⟩ := (trim_trimmed text).concat empty
    have stop : trimEnd text = front ++ trim text := by
      have stop := trimEnd_append_inked inked (front ++ init) back
      rw [trimEnd_gap after] at stop
      conv_lhs => rw [split]
      simpa [last] using stop
    obtain ⟨c, rest, first, inked⟩ := (trim_trimmed text).cons empty
    rw [stop, trimStart_gap front _ before, first, trimStart_inked inked]

theorem trimEnd_append_gap (text : List Char) (blanks : ink gap = []) :
    trimEnd (text ++ gap) = trimEnd text := by
  induction text with
  | nil => exact trimEnd_gap blanks
  | cons c rest ih => rw [List.cons_append, trimEnd, trimEnd, ih]

theorem trimEnd_trimEnd (text : List Char) : trimEnd (trimEnd text) = trimEnd text := by
  obtain ⟨gap, blanks, split, -⟩ := trimEnd_split text
  conv_rhs => rw [split]
  rw [trimEnd_append_gap _ blanks]

theorem trim_append_gap (text : List Char) (blanks : ink gap = []) :
    trim (text ++ gap) = trim text := by
  rw [← trimStart_trimEnd, trimEnd_append_gap text blanks, trimStart_trimEnd]

theorem Trimmed.trim_eq (trimmed : Trimmed text) : trim text = text := by
  by_cases empty : text = []
  · rw [empty]
    rfl
  · have around := trimmed.trim_around empty [] []
    simpa [trimStart, trimEnd] using around

theorem trim_trim (text : List Char) : trim (trim text) = trim text :=
  (trim_trimmed text).trim_eq

/-! ### Strings -/

theorem trimmed_trimmed (text : String) : trimmed (trimmed text) = trimmed text := by
  rw [trimmed, trimmed, String.toList_ofList, trim_trim]

/-- Ink is not trimmed off. -/
theorem trimmed_ne_empty {text : String} (inked : ∃ c ∈ text.toList, isBlank c = false) :
    trimmed text ≠ "" := by
  obtain ⟨c, member, inked⟩ := inked
  have kept : c ∈ ink (trim text.toList) := by
    rw [ink_trim]
    exact List.mem_filter.mpr ⟨member, by simpa using inked⟩
  intro empty
  rw [trimmed, ← String.toList_inj, String.toList_ofList, String.toList_empty] at empty
  rw [empty] at kept
  cases kept

end InlineCompletion.Text
