import InlineCompletion.Proofs.Text.Trim
import InlineCompletion.Spacing.NormalForm

/-!
The normal form of a fragment inside a larger text. Whether a blank inside a fragment is kept
depends on the fragment alone; only the blanks at its ends may be kept or dropped by what stands
next to them. So the normal form of a fragment is part of the normal form of every text that
contains it, and what stands behind it there is the normal form of the rest, perhaps after a gap.
-/
namespace InlineCompletion.Spacing
open Text
variable {text fragment core first front back gap rest : List Char} {c : Char}

theorem isBlank_of_isTight (tight : isTight c = true) : isBlank c = false := by
  simp only [isTight, Bool.or_eq_true, beq_iff_eq] at tight
  rcases tight with (((rfl | rfl) | rfl) | rfl) | rfl <;> decide

theorem isTight_of_isBlank (blank : isBlank c = true) : isTight c = false :=
  excluded isBlank_of_isTight blank

theorem prependTight_tight (tight : isTight c = true) (text : List Char) :
    prependTight c text = c :: trimStart text :=
  if_pos tight

/-- A blank comes to stand before a text or is dropped, and is no part of what begins with ink. -/
theorem trimStart_prependTight (blank : isBlank c = true) (text : List Char) :
    trimStart (prependTight c text) = trimStart text := by
  unfold prependTight
  rw [if_neg (by simp [isTight_of_isBlank blank])]
  split
  · rfl
  · exact trimStart_blank blank text

/-! ### Ink -/

theorem ink_prependTight (c : Char) (text : List Char) :
    ink (prependTight c text) = ink (c :: text) := by
  unfold prependTight
  split
  next tight =>
    have inked := isBlank_of_isTight tight
    rw [ink_cons_inked inked, ink_cons_inked inked, ink_trimStart]
  next =>
    split
    next dropped =>
      have blank : isBlank c = true := (Bool.and_eq_true_iff.mp dropped).1
      rw [ink_cons_blank blank]
    next => rfl

@[simp] theorem ink_tighten (text : List Char) : ink (tighten text) = ink text := by
  induction text with
  | nil => rfl
  | cons c rest ih =>
    rw [tighten, ink_prependTight]
    cases blank : isBlank c with
    | true => rw [ink_cons_blank blank, ink_cons_blank blank, ih]
    | false => rw [ink_cons_inked blank, ink_cons_inked blank, ih]

@[simp] theorem ink_normalForm (text : List Char) : ink (normalForm text) = ink text := by
  rw [normalForm, ink_trim, ink_tighten]

/-! ### Parts of a text -/

theorem prependTight_append (c : Char) (inked : ink first ≠ []) (rest : List Char) :
    prependTight c (first ++ rest) = prependTight c first ++ rest := by
  have start : startsTight (first ++ rest) = startsTight first := by
    cases first with
    | nil => exact absurd rfl inked
    | cons => rfl
  unfold prependTight
  rw [trimStart_append inked, start]
  split
  · rfl
  · split <;> rfl

/-- Before ink a text is made tight as if nothing followed; what follows may lose the blanks at its
start. -/
theorem tighten_append_inked (inked : isBlank c = false) (front rest : List Char) :
    ∃ seam, tighten (front ++ c :: rest) = tighten (front ++ [c]) ++ seam ∧
      trimStart seam = trimStart (tighten rest) := by
  induction front with
  | nil =>
    simp only [List.nil_append, tighten, prependTight, inked, Bool.false_and, Bool.false_eq_true,
      ↓reduceIte]
    split
    · exact ⟨trimStart (tighten rest), rfl, trimStart_trimStart _⟩
    · exact ⟨tighten rest, rfl, rfl⟩
  | cons d front ih =>
    obtain ⟨seam, split, start⟩ := ih
    refine ⟨seam, ?_, start⟩
    have present : ink (tighten (front ++ [c])) ≠ [] := by
      rw [ink_tighten, ink_append, ink_cons_inked inked]
      simp
    rw [List.cons_append, tighten, split, prependTight_append d present]
    rfl

theorem tighten_singleton (inked : isBlank c = false) : tighten [c] = [c] := by
  simp [tighten, prependTight, inked, trimStart]

theorem tighten_cons_inked (inked : isBlank c = false) (rest : List Char) :
    ∃ seam, tighten (c :: rest) = c :: seam ∧ trimStart seam = trimStart (tighten rest) := by
  obtain ⟨seam, split, start⟩ := tighten_append_inked inked [] rest
  rw [List.nil_append, List.nil_append, tighten_singleton inked] at split
  exact ⟨seam, split, start⟩

/-- From ink on a text is made tight as if nothing stood before. -/
theorem tighten_before_inked (inked : isBlank c = false) (front rest : List Char) :
    ∃ before, tighten (front ++ c :: rest) = before ++ tighten (c :: rest) ∧
      ink before = ink front := by
  obtain ⟨seam, starts, -⟩ := tighten_cons_inked inked rest
  have split : ∃ before, tighten (front ++ c :: rest) = before ++ tighten (c :: rest) := by
    induction front with
    | nil => exact ⟨[], rfl⟩
    | cons d front ih =>
      obtain ⟨before, split⟩ := ih
      rw [List.cons_append, tighten, split, starts, prependTight,
        trimStart_append_inked inked]
      split
      · exact ⟨d :: trimStart before, rfl⟩
      · split
        · exact ⟨before, rfl⟩
        · exact ⟨d :: before, rfl⟩
  obtain ⟨before, split⟩ := split
  refine ⟨before, split, ?_⟩
  have same := congrArg ink split
  rw [ink_tighten, ink_append, ink_append, ink_tighten] at same
  exact (List.append_cancel_right same).symm

/-- A part that begins and ends with ink is made tight on its own. -/
theorem tighten_around (trimmed : Trimmed core) (inked : core ≠ []) (front back : List Char) :
    ∃ before after, tighten (front ++ core ++ back) = before ++ tighten core ++ after ∧
      ink before = ink front ∧ trimStart after = trimStart (tighten back) := by
  obtain ⟨c, others, starts, inkedFirst⟩ := trimmed.cons inked
  obtain ⟨init, d, ends, inkedLast⟩ := trimmed.concat inked
  obtain ⟨before, left, ink⟩ := tighten_before_inked inkedFirst front (others ++ back)
  obtain ⟨after, right, start⟩ := tighten_append_inked inkedLast init back
  refine ⟨before, after, ?_, ink, start⟩
  have whole : c :: (others ++ back) = init ++ d :: back := by
    calc c :: (others ++ back) = core ++ back := by rw [starts]; rfl
      _ = init ++ d :: back := by simp [ends]
  calc tighten (front ++ core ++ back) = tighten (front ++ c :: (others ++ back)) := by
        simp [starts]
    _ = before ++ tighten (init ++ d :: back) := by rw [left, whole]
    _ = before ++ tighten core ++ after := by rw [right, ends, List.append_assoc]

theorem tighten_trimmed (trimmed : Trimmed core) (inked : core ≠ []) :
    Trimmed (tighten core) ∧ tighten core ≠ [] := by
  obtain ⟨c, others, starts, inkedFirst⟩ := trimmed.cons inked
  obtain ⟨init, d, ends, inkedLast⟩ := trimmed.concat inked
  obtain ⟨seam, first, -⟩ := tighten_cons_inked inkedFirst others
  obtain ⟨before, last, -⟩ := tighten_before_inked inkedLast init []
  rw [← starts] at first
  rw [← ends, tighten_singleton inkedLast] at last
  refine ⟨⟨?_, ?_⟩, by simp [first]⟩
  · simpa [first] using inkedFirst
  · simpa [last] using inkedLast

/-! ### The normal form -/

/-- It does not matter whether the ends or the tight characters lose their blanks first. -/
theorem normalForm_eq (text : List Char) : normalForm text = tighten (trim text) := by
  obtain ⟨front, back, gap, blanks, split⟩ := trim_split text
  by_cases empty : trim text = []
  · have colorless : ink (normalForm text) = [] := by
      rw [ink_normalForm, ← ink_trim, empty]
      rfl
    have nothing : normalForm text = [] :=
      Trimmed.no_gap_behind [] (trim_trimmed _) colorless
    rw [nothing, empty]
    rfl
  · obtain ⟨before, after, around, left, right⟩ :=
      tighten_around (trim_trimmed text) empty front back
    obtain ⟨trimmed, present⟩ := tighten_trimmed (trim_trimmed text) empty
    have blanksBefore : ink before = [] := left.trans gap
    have blanksAfter : ink after = [] := by
      rw [← ink_trimStart, right, ink_trimStart, ink_tighten, blanks]
    rw [← split] at around
    rw [normalForm, around, trimmed.trim_around present, trimStart_eq_nil blanksBefore,
      trimEnd_gap blanksAfter]
    simp

theorem normalForm_trimmed (text : List Char) : Trimmed (normalForm text) :=
  trim_trimmed _

theorem normalForm_gap (gap rest : List Char) (blanks : ink gap = []) :
    normalForm (gap ++ rest) = normalForm rest := by
  rw [normalForm_eq, normalForm_eq, trim_gap gap rest blanks]

theorem normalForm_append_gap (text : List Char) (blanks : ink gap = []) :
    normalForm (text ++ gap) = normalForm text := by
  rw [normalForm_eq, normalForm_eq, trim_append_gap text blanks]

theorem normalForm_trim (text : List Char) : normalForm (trim text) = normalForm text := by
  obtain ⟨front, back, before, after, split⟩ := trim_split text
  conv_rhs => rw [split]
  rw [normalForm_append_gap _ after, normalForm_gap front _ before]

/-- The normal form of a fragment is part of the normal form of the whole. Behind it stands the
normal form of the rest, perhaps after a gap; before it there is the ink that was there before. -/
theorem normalForm_around (fragment front back : List Char) (present : normalForm fragment ≠ []) :
    ∃ before after,
      normalForm (front ++ fragment ++ back) = before ++ normalForm fragment ++ after ∧
      ink before = ink front ∧ trimStart after = normalForm back := by
  obtain ⟨gap, others, blanksBefore, blanksAfter, split⟩ := trim_split fragment
  rw [normalForm_eq] at present
  have inked : trim fragment ≠ [] := by
    intro empty
    rw [empty] at present
    exact present rfl
  obtain ⟨trimmed, -⟩ := tighten_trimmed (trim_trimmed fragment) inked
  obtain ⟨before, after, around, left, right⟩ :=
    tighten_around (trim_trimmed fragment) inked (front ++ gap) (others ++ back)
  refine ⟨trimStart before, trimEnd after, ?_, ?_, ?_⟩
  · have whole : front ++ fragment ++ back = front ++ gap ++ trim fragment ++ (others ++ back) := by
      conv_lhs => rw [split]
      simp only [List.append_assoc]
    rw [normalForm, whole, around, trimmed.trim_around present, normalForm_eq]
  · rw [ink_trimStart, left, ink_append, blanksBefore, List.append_nil]
  · calc trimStart (trimEnd after) = trimEnd (trimStart after) := trimStart_trimEnd after
      _ = normalForm (others ++ back) := by rw [right]; rfl
      _ = normalForm back := normalForm_gap others back blanksAfter

/-- At the start of a text nothing stands before the normal form of a fragment. -/
theorem normalForm_append (fragment rest : List Char) (present : normalForm fragment ≠ []) :
    ∃ after, normalForm (fragment ++ rest) = normalForm fragment ++ after ∧
      trimStart after = normalForm rest := by
  obtain ⟨before, after, around, left, right⟩ := normalForm_around fragment [] rest present
  rw [List.nil_append] at around
  have trimmed := normalForm_trimmed (fragment ++ rest)
  rw [around, List.append_assoc] at trimmed
  rw [trimmed.no_gap_before left, List.nil_append] at around
  exact ⟨after, around, right⟩

/-- A fragment that occurs in a text occurs in its normal form, too. -/
theorem normalForm_infix (fragment front back : List Char) :
    normalForm fragment <:+: normalForm (front ++ fragment ++ back) := by
  by_cases empty : normalForm fragment = []
  · rw [empty]
    exact List.nil_infix
  · obtain ⟨before, after, around, -⟩ := normalForm_around fragment front back empty
    exact ⟨before, after, around.symm⟩

/-! ### Strings -/

theorem normalize_toList (text : String) : (normalize text).toList = normalForm text.toList :=
  String.toList_ofList

theorem normalize_eq_iff {text other : String} :
    normalize text = normalize other ↔ normalForm text.toList = normalForm other.toList := by
  rw [← String.toList_inj, normalize_toList, normalize_toList]

theorem normalize_eq_empty_iff {text : String} :
    normalize text = "" ↔ normalForm text.toList = [] := by
  rw [← String.toList_inj, normalize_toList]
  rfl

end InlineCompletion.Spacing
