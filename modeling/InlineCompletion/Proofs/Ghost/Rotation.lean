import Mathlib.Order.Interval.Finset.Nat
import InlineCompletion.Proofs.Ghost.Calls

/-!
Going through what is on offer. However items are replaced, gone through and taken off offer, the
index names an item as long as there is one, and the text shown is the text of that item. The steps go
round: as many steps as there are items come to every item once and end where they began. The views of
a session say the same of its items and its cycle commands, in whatever order it is called.
-/
namespace InlineCompletion.Ghost
variable {σ : Type}

/-- The index names an item, or it is zero and there are none. The text shown is that of the item it
names, unless that text is empty. -/
structure Displays (items : List Item) (index : Nat) (shown : Option String) : Prop where
  within : index < items.length ∨ items.length = 0 ∧ index = 0
  text : ∀ item, items[index]? = some item → shown = if item.text = "" then none else some item.text
  blank : items = [] → shown = none

/-- Of `size` steps around `size` places exactly one comes to a given place. -/
theorem existsUnique_turn {size place : Nat} (start : Nat) (within : place < size) :
    ∃! k, k < size ∧ (start + (k + 1)) % size = place := by
  -- `size` numbers in a row leave every remainder, and each of them once.
  have reached : place ∈ (Finset.Ico (start + 1) (start + 1 + size)).image (· % size) := by
    rw [Nat.image_Ico_mod]
    exact Finset.mem_range.mpr within
  obtain ⟨turn, between, lands⟩ := Finset.mem_image.mp reached
  obtain ⟨after, before⟩ := Finset.mem_Ico.mp between
  obtain ⟨k, rfl⟩ := Nat.exists_eq_add_of_le after
  refine ⟨k, ⟨by omega, by rwa [← Nat.add_right_comm, Nat.add_assoc] at lands⟩, ?_⟩
  rintro other ⟨early, same⟩
  have inside : start + (other + 1) ∈ Finset.Ico (start + 1) (start + 1 + size) :=
    Finset.mem_Ico.mpr ⟨by omega, by omega⟩
  have meets := Nat.mod_injOn_Ico (start + 1) size inside between (same.trans lands.symm)
  omega

/-! ### The items on offer -/

namespace Offers
variable {o : Offers}

theorem Valid.index_lt (valid : o.Valid) (offered : o.items ≠ []) : o.index < o.items.length :=
  valid.index.resolve_right fun nothing => offered nothing.1

theorem Valid.displays (valid : o.Valid) : Displays o.items o.index o.activeText where
  within := valid.index.imp_right fun ⟨nothing, first⟩ => ⟨List.length_eq_zero_iff.mpr nothing, first⟩
  text item found := by
    rw [valid.text, shownText, found]
    simp [nonempty?]
  blank nothing := by
    rw [valid.text, shownText, nothing]
    rfl

/-- The index and the items tell all the rest. -/
theorem Valid.ext {other : Offers} (valid : o.Valid) (otherValid : other.Valid)
    (items : o.items = other.items) (index : o.index = other.index) : o = other := by
  have text : o.activeText = other.activeText := by
    rw [valid.text, otherValid.text, items, index]
  cases o
  cases other
  rw [mk.injEq]
  exact ⟨items, index, text⟩

theorem Valid.apply (valid : o.Valid) (change : OffersChange) : (change.apply o).Valid := by
  cases change with
  | replace items => exact ofItems_valid items
  | advance =>
    rw [OffersChange.apply, advance?_snd]
    exact valid.advance
  | clear => exact none_valid

theorem Valid.run (valid : o.Valid) (changes : List OffersChange) : (o.run changes).Valid := by
  induction changes generalizing o with
  | nil => exact valid
  | cons change rest ih => exact ih (valid.apply change)

/-- What is on offer after so many steps to the next item. -/
def advanced (o : Offers) (steps : Nat) : Offers :=
  o.run (List.replicate steps .advance)

theorem advanced_succ (o : Offers) (k : Nat) : o.advanced (k + 1) = (o.advanced k).advance := by
  -- A run begins with its first change, so the last step has to be split off at the other end.
  rw [advanced, List.replicate_succ', Offers.run, List.foldl_append]
  exact advance?_snd _

@[simp] theorem advanced_items (o : Offers) (k : Nat) : (o.advanced k).items = o.items := by
  induction k with
  | zero => rfl
  | succ k ih => rw [advanced_succ, advance_items, ih]

theorem Valid.advanced_index (valid : o.Valid) (offered : o.items ≠ []) (k : Nat) :
    (o.advanced k).index = (o.index + k) % o.items.length := by
  induction k with
  | zero => exact (Nat.mod_eq_of_lt (valid.index_lt offered)).symm
  | succ k ih =>
    have step : (o.advanced k).advance.index = ((o.advanced k).index + 1) % o.items.length := by
      simp [Offers.advance, offered]
    rw [advanced_succ, step, ih, Nat.mod_add_mod, Nat.add_assoc]

theorem Valid.advanced_length (valid : o.Valid) : o.advanced o.items.length = o := by
  by_cases nothing : o.items = []
  · rw [nothing]
    rfl
  · refine (valid.run _).ext valid (advanced_items o _) ?_
    rw [← advanced, valid.advanced_index nothing, Nat.add_mod_right]
    exact Nat.mod_eq_of_lt (valid.index_lt nothing)

theorem Valid.advanced_answer (valid : o.Valid) (offered : o.items ≠ []) (k : Nat) :
    (o.advanced k).advance?.1 = some ((o.index + (k + 1)) % o.items.length) := by
  rw [advance?_offered (by rwa [advanced_items]), ← advanced_succ, valid.advanced_index offered]

/-- What is on offer is shown as it should be, and steps go round it. -/
structure Rotates (o : Offers) : Prop where
  displays : Displays o.items o.index o.activeText
  items : ∀ k, (o.advanced k).items = o.items
  index : o.items ≠ [] → ∀ k, (o.advanced k).index = (o.index + k) % o.items.length
  /-- Each step tells the index it comes to. -/
  answer : o.items ≠ [] → ∀ k,
    (o.advanced k).advance?.1 = some ((o.index + (k + 1)) % o.items.length)
  restored : o.advanced o.items.length = o
  visited : ∀ place < o.items.length,
    ∃! k, k < o.items.length ∧ (o.advanced (k + 1)).index = place
  nothing : o.items = [] → o.advance? = (.none, o)

theorem Valid.rotates (valid : o.Valid) : o.Rotates where
  displays := valid.displays
  items := advanced_items o
  index := valid.advanced_index
  answer := valid.advanced_answer
  restored := valid.advanced_length
  visited place within := by
    have offered : o.items ≠ [] := List.length_pos_iff.mp (Nat.zero_lt_of_lt within)
    simp only [valid.advanced_index offered]
    exact existsUnique_turn o.index within
  nothing := advance?_empty

end Offers

/-! ### The views of a session -/

namespace Session
variable {s : Session σ}

theorem phase_showing_iff {index : Nat} :
    s.phase = .showing index ↔ s.offers.items ≠ [] ∧ s.offers.index = index := by
  constructor
  · intro showing
    have offered := items_ne_nil_of_showing showing
    exact ⟨offered, Phase.showing.inj ((phase_offered offered).symm.trans showing)⟩
  · rintro ⟨offered, rfl⟩
    exact phase_offered offered

/-- A session after so many cycle commands. -/
def cycled (s : Session σ) (times : Nat) : Session σ :=
  s.run (List.replicate times .cycle)

theorem cycled_succ (s : Session σ) (k : Nat) : s.cycled (k + 1) = (s.cycled k).cycle.2 := by
  rw [cycled, List.replicate_succ', run_append]
  rfl

/-- Cycle commands go through the items. Beside that they change only the sink and the decoration. -/
theorem cycled_frame (s : Session σ) (k : Nat) :
    ∃ sink decoration,
      s.cycled k = { s with offers := s.offers.advanced k, sink, decoration } := by
  induction k with
  | zero => exact ⟨_, _, rfl⟩
  | succ k ih =>
    obtain ⟨_, _, before⟩ := ih
    obtain ⟨sink, decoration, cycle⟩ := cycle_frame (s.cycled k)
    refine ⟨sink, decoration, ?_⟩
    rw [cycled_succ, cycle, before, Offers.advanced_succ]

theorem cycled_offers (s : Session σ) (k : Nat) :
    (s.cycled k).offers = s.offers.advanced k := by
  obtain ⟨_, _, cycled⟩ := s.cycled_frame k
  rw [cycled]

theorem cycled_items (s : Session σ) (k : Nat) :
    (s.cycled k).snapshot.items = s.snapshot.items := by
  change (s.cycled k).offers.items = s.offers.items
  rw [cycled_offers, Offers.advanced_items]

theorem cycled_phase (valid : s.offers.Valid) (offered : s.offers.items ≠ []) (k : Nat) :
    (s.cycled k).phase = .showing ((s.offers.index + k) % s.offers.items.length) := by
  rw [phase_showing_iff, cycled_offers, Offers.advanced_items]
  exact ⟨offered, valid.advanced_index offered k⟩

/-- A session whose items have come round gives the view that it gave before. -/
theorem cycled_snapshot {k : Nat} (round : s.offers.advanced k = s.offers) :
    (s.cycled k).snapshot = s.snapshot := by
  obtain ⟨_, _, cycled⟩ := s.cycled_frame k
  rw [cycled, round]
  rfl

/-- The view of a session shows what is on offer as it should, and cycle commands go round it. -/
structure Rotates (s : Session σ) : Prop where
  displays : ∀ index, s.snapshot.phase = .showing index →
    s.snapshot.items ≠ [] ∧ Displays s.snapshot.items index s.snapshot.activeText
  blank : (∀ index, s.snapshot.phase ≠ .showing index) →
    s.snapshot.items = [] ∧ s.snapshot.activeText = none
  items : ∀ k, (s.cycled k).snapshot.items = s.snapshot.items
  index : ∀ index, s.snapshot.phase = .showing index → ∀ k,
    (s.cycled k).snapshot.phase = .showing ((index + k) % s.snapshot.items.length)
  /-- Each command tells the index it comes to. -/
  answer : ∀ index, s.snapshot.phase = .showing index → ∀ k,
    (s.cycled k).cycle.1 = some ((index + (k + 1)) % s.snapshot.items.length)
  restored : (s.cycled s.snapshot.items.length).snapshot = s.snapshot
  visited : ∀ place < s.snapshot.items.length,
    ∃! k, k < s.snapshot.items.length ∧ (s.cycled (k + 1)).snapshot.phase = .showing place
  nothing : s.snapshot.items = [] → s.cycle.1 = none ∧ s.cycle.2.snapshot = s.snapshot

theorem rotates (valid : s.offers.Valid) : s.Rotates where
  displays index showing := by
    obtain ⟨offered, rfl⟩ := phase_showing_iff.mp showing
    exact ⟨offered, valid.displays⟩
  blank hidden := by
    have nothing : s.offers.items = [] := by
      by_contra offered
      exact hidden _ (phase_offered offered)
    exact ⟨nothing, valid.displays.blank nothing⟩
  items := cycled_items s
  index index showing k := by
    obtain ⟨offered, rfl⟩ := phase_showing_iff.mp showing
    exact cycled_phase valid offered k
  answer index showing k := by
    obtain ⟨offered, rfl⟩ := phase_showing_iff.mp showing
    have still : (s.cycled k).offers.items ≠ [] := by rwa [cycled_offers, Offers.advanced_items]
    have further := valid.advanced_index offered (k + 1)
    rw [cycle_showing still, cycled_offers, ← Offers.advanced_succ, further]
    rfl
  restored := cycled_snapshot valid.advanced_length
  visited place within := by
    have offered : s.offers.items ≠ [] := List.length_pos_iff.mp (Nat.zero_lt_of_lt within)
    simp only [snapshot, cycled_phase valid offered, Phase.showing.injEq]
    exact existsUnique_turn s.offers.index within
  nothing empty := by
    have stays : s.offers.advanced 1 = s.offers := by
      rw [Offers.advanced_succ]
      exact Offers.advance_empty empty
    refine ⟨?_, cycled_snapshot (k := 1) stays⟩
    rcases cycle_empty empty with same | said
    · rw [same]
    · rw [said]

end Session

/-- Whatever is put on offer, gone through and taken off offer again, the text shown is that of the
current item, and steps go round the items. The same holds for every view that a session gives, in
whatever order it is called. -/
theorem items_rotate (changes : List OffersChange) (sink : Sink σ) (config : Config)
    (calls : List (SessionCall σ)) :
    (Offers.none.run changes).Rotates ∧ ((Session.start sink config).run calls).Rotates := by
  constructor
  · exact (Offers.none_valid.run changes).rotates
  · exact Session.rotates (Session.run_valid sink config calls)

/-- An item with an empty text is gone through like the others, but it is not shown. -/
theorem items_rotate_emptyText :
    let found : List Candidate := [⟨"int", 2, "00000"⟩, ⟨"", 1, "00001"⟩, ⟨"for", 1, "00002"⟩]
    let o := Offers.none.run [.replace (found.map .candidate), .advance]
    let editor : Sink MemoryEditor := ⟨MemoryEditor.host, ⟨some ⟨"", 0⟩, none, 0⟩, []⟩
    let s := (Session.start editor .standard).run
      [.restartDebounce, .timerFired 1, .fetchResolved ⟨1, 0⟩ (.ok found), .cycle]
    o.activeText = none ∧ (o.advanced 4).index = 2 ∧ o.advanced 3 = o ∧
      s.snapshot.phase = .showing 1 ∧ s.snapshot.activeText = none ∧
      (s.cycled 5).snapshot.phase = .showing 0 ∧ (s.cycled 3).snapshot = s.snapshot := by
  intro found o editor s
  obtain ⟨offers, views⟩ : o.Rotates ∧ s.Rotates := items_rotate _ editor .standard _
  have showing : s.snapshot.phase = .showing 1 := rfl
  obtain ⟨-, displays⟩ := views.displays 1 showing
  refine ⟨offers.displays.text (.candidate ⟨"", 1, "00001"⟩) rfl, ?_, offers.restored, showing,
    displays.text (.candidate ⟨"", 1, "00001"⟩) rfl, ?_, views.restored⟩
  · have size : o.items.length = 3 := rfl
    have place : o.index = 1 := rfl
    rw [offers.index nofun 4, place, size]
  · have size : s.snapshot.items.length = 3 := rfl
    rw [views.index 1 showing 5, size]

end InlineCompletion.Ghost
