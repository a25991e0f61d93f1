import InlineCompletion.Ghost.Offers

/-!
What holds of the texts on offer at all times: the text to show is the one of the current item, and
the index names an item unless there is none.
-/
namespace InlineCompletion.Ghost.Offers

/-- The text to show is that of the current item, and the current item is one on offer. -/
structure Valid (o : Offers) : Prop where
  text : o.activeText = shownText o.items o.index
  index : o.index < o.items.length ∨ o.items = [] ∧ o.index = 0

variable {o : Offers} {text : String}

theorem none_valid : Offers.none.Valid :=
  ⟨rfl, .inr ⟨rfl, rfl⟩⟩

theorem ofItems_valid (items : List Item) : (ofItems items).Valid := by
  refine ⟨rfl, ?_⟩
  cases items with
  | nil => exact .inr ⟨rfl, rfl⟩
  | cons item rest => exact .inl (Nat.zero_lt_succ _)

theorem Valid.advance (valid : o.Valid) : o.advance.Valid := by
  by_cases empty : o.items = []
  · simpa [Offers.advance, empty] using valid
  · have positive : 0 < o.items.length := List.length_pos_iff.mpr empty
    simp only [Offers.advance, List.isEmpty_iff, empty, ↓reduceIte]
    exact ⟨rfl, .inl (Nat.mod_lt _ positive)⟩

/-- A single item is followed by itself. -/
theorem Valid.advance_single (valid : o.Valid) (single : o.items.length ≤ 1) : o.advance = o := by
  obtain ⟨items, index, text⟩ := o
  obtain ⟨shown, within⟩ := valid
  dsimp only at single shown within
  subst shown
  match items with
  | [] => rfl
  | [item] =>
    obtain rfl : index = 0 := by simpa using within
    simp [Offers.advance]

@[simp] theorem advance_items (o : Offers) : o.advance.items = o.items := by
  unfold Offers.advance
  split <;> rfl

theorem advance_empty (nothing : o.items = []) : o.advance = o := by
  simp [Offers.advance, nothing]

theorem advance?_empty (nothing : o.items = []) : o.advance? = (.none, o) := by
  simp [advance?, nothing]

theorem advance?_offered (offered : o.items ≠ []) :
    o.advance? = (some o.advance.index, o.advance) := by
  simp [advance?, offered]

@[simp] theorem advance?_snd (o : Offers) : o.advance?.2 = o.advance := by
  by_cases nothing : o.items = []
  · rw [advance?_empty nothing, advance_empty nothing]
  · rw [advance?_offered nothing]

/-- A text is shown only while something is on offer. -/
theorem Valid.items_ne_nil (valid : o.Valid) (shown : o.activeText = some text) :
    o.items ≠ [] := by
  intro empty
  rw [valid.text, empty] at shown
  simp [shownText] at shown

end InlineCompletion.Ghost.Offers
