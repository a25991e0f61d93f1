import InlineCompletion.Proofs.Candidate.Delivery
import InlineCompletion.Proofs.Text.Digits

/-!
The sort keys that places stand in for. A host compares them as texts. Between keys of one width
that is the order of the places; between keys of different widths the shorter key is compared with
the first digits of the longer one. All places below 100000 have keys of five digits, so up to that
many candidates keep their order, and one more overtakes most of them.
-/
namespace InlineCompletion
open Json

/-! ### Texts of digits -/

section
variable {x y : Char} {digits others : List Char}

/-- Where two numbers are made of a part below `unit` and of units, the units decide, and where they
are equal the parts. -/
theorem unit_add_lt_iff {unit first second part other : Nat} (below : part < unit)
    (below' : other < unit) :
    unit * first + part < unit * second + other ↔
      first < second ∨ first = second ∧ part < other := by
  rcases Nat.lt_trichotomy first second with less | rfl | more
  case inl =>
    have := Nat.mul_le_mul_left unit less
    rw [Nat.mul_succ] at this
    omega
  case inr.inl => omega
  case inr.inr =>
    have := Nat.mul_le_mul_left unit more
    rw [Nat.mul_succ] at this
    omega

/-- A text of digits stands before one that is as long or shorter exactly if its first digits, as many
as the other has, stand for a smaller number. -/
theorem digits_lt_iff (all : ∀ c ∈ digits, c.isDigit = true)
    (all' : ∀ c ∈ others, c.isDigit = true) (shorter : digits.length ≤ others.length) :
    others < digits ↔ Nat.ofDigitChars 10 others 0 / 10 ^ (others.length - digits.length) <
      Nat.ofDigitChars 10 digits 0 := by
  induction digits generalizing others with
  | nil => exact iff_of_false (List.not_lt_nil _) (Nat.not_lt_zero _)
  | cons x rest ih =>
    cases others with
    | nil => exact absurd shorter (Nat.not_succ_le_zero _)
    | cons y others =>
      obtain ⟨first, all⟩ := List.forall_mem_cons.mp all
      obtain ⟨first', all'⟩ := List.forall_mem_cons.mp all'
      have bounds := digit_bounds first
      have bounds' := digit_bounds first'
      have shorter : rest.length ≤ others.length := Nat.le_of_succ_le_succ shorter
      have units : 10 ^ others.length =
          10 ^ (others.length - rest.length) * 10 ^ rest.length := by
        rw [← Nat.pow_add, Nat.sub_add_cancel shorter]
      have below : Nat.ofDigitChars 10 others 0 / 10 ^ (others.length - rest.length) <
          10 ^ rest.length := by
        rw [Nat.div_lt_iff_lt_mul (Nat.pow_pos (by decide)), Nat.mul_comm, ← units]
        exact ofDigitChars_lt all'
      have order : y < x ↔ y.toNat - 48 < x.toNat - 48 := by
        have codes : y < x ↔ y.toNat < x.toNat := UInt32.lt_iff_toNat_lt
        rw [codes]
        omega
      have equal : y = x ↔ y.toNat - 48 = x.toNat - 48 := by
        rw [← Char.toNat_inj]
        omega
      rw [List.cons_lt_cons_iff, ih all all' shorter, order, equal, ofDigitChars_cons_zero,
        ofDigitChars_cons_zero, List.length_cons, List.length_cons, Nat.add_sub_add_right, units,
        Nat.mul_assoc, Nat.mul_add_div (Nat.pow_pos (by decide)),
        unit_add_lt_iff below (ofDigitChars_lt all)]

end

/-! ### Sort keys -/

section
variable {i j : Nat}

theorem sortKey_toList (i : Nat) :
    (sortKey i).toList =
      List.replicate (5 - (Nat.toDigits 10 i).length) '0' ++ Nat.toDigits 10 i := by
  rw [sortKey, String.toList_ofList]
  rfl

theorem isDigit_sortKey (i : Nat) : ∀ c ∈ (sortKey i).toList, c.isDigit = true := by
  rw [sortKey_toList, List.forall_mem_append]
  constructor
  · intro c zero
    rw [List.eq_of_mem_replicate zero]
    rfl
  · exact isDigit_toDigits i

/-- A sort key stands for its place. -/
theorem ofDigitChars_sortKey (i : Nat) : Nat.ofDigitChars 10 (sortKey i).toList 0 = i := by
  rw [sortKey_toList, Nat.ofDigitChars_append, Nat.ofDigitChars_replicate_zero, Nat.mul_zero,
    Nat.ofDigitChars_toDigits (by decide) (by decide)]

theorem length_sortKey (i : Nat) : (sortKey i).length = max 5 (Nat.toDigits 10 i).length := by
  rw [← String.length_toList, sortKey_toList, List.length_append, List.length_replicate]
  omega

/-- Later places have keys that are as long or longer. -/
theorem length_sortKey_le (later : i ≤ j) : (sortKey i).length ≤ (sortKey j).length := by
  have fits : j < 10 ^ (Nat.toDigits 10 j).length :=
    (Nat.length_toDigits_le_iff (by decide) Nat.length_toDigits_pos).mp (Nat.le_refl _)
  have digits : (Nat.toDigits 10 i).length ≤ (Nat.toDigits 10 j).length :=
    (Nat.length_toDigits_le_iff (by decide) Nat.length_toDigits_pos).mpr
      (Nat.lt_of_le_of_lt later fits)
  rw [length_sortKey, length_sortKey]
  omega

theorem length_sortKey_eq (narrow : i < 100000) : (sortKey i).length = 5 := by
  have digits : (Nat.toDigits 10 i).length ≤ 5 :=
    (Nat.length_toDigits_le_iff (by decide) (by decide)).mpr narrow
  rw [length_sortKey]
  omega

/-- The key of a place stands before that of a later one exactly if the place is not above the
number that as many digits of the later key stand for. -/
theorem sortKey_lt_iff (later : i < j) :
    sortKey i < sortKey j ↔ i ≤ j / 10 ^ ((sortKey j).length - (sortKey i).length) := by
  have differs : sortKey i ≠ sortKey j := by
    intro same
    have places := congrArg (fun key => Nat.ofDigitChars 10 key.toList 0) same
    simp only [ofDigitChars_sortKey] at places
    omega
  have order := digits_lt_iff (isDigit_sortKey i) (isDigit_sortKey j)
    (length_sortKey_le (Nat.le_of_lt later))
  rw [ofDigitChars_sortKey, ofDigitChars_sortKey, String.length_toList, String.length_toList,
    ← String.lt_iff] at order
  rw [← Nat.not_lt, ← order, String.not_lt]
  exact ⟨Std.le_of_lt, fun before => Std.lt_of_le_of_ne before differs⟩

/-- As long as keys have five digits, later places have greater keys. -/
theorem sortKey_lt (later : i < j) (narrow : j < 100000) : sortKey i < sortKey j := by
  rw [sortKey_lt_iff later, length_sortKey_eq narrow, length_sortKey_eq (Nat.lt_trans later narrow),
    Nat.sub_self, Nat.pow_zero, Nat.div_one]
  exact Nat.le_of_lt later

end

/-! ### Deliveries without sort keys -/

/-- An item that sends no sort key: it is absent or null, by name or by place. -/
def Unkeyed : Json → Prop
  | .object members => SendsSortText ((Json.object members).member? "sortText") none
  | .array items => SendsSortText items[2]? none
  | _ => True

/-- How the sort keys of candidates follow from their places. -/
structure Ranked (candidates : List Candidate) : Prop where
  keys : ∀ (i : Nat) (inside : i < candidates.length), candidates[i].sortText = sortKey i
  /-- The key of a candidate is below that of a later one exactly if its place is not above the
  number that as many digits of the later key stand for. -/
  order : ∀ (i j : Nat) (later : i < j) (inside : j < candidates.length),
    candidates[i].sortText < candidates[j].sortText ↔
      i ≤ j / 10 ^ (candidates[j].sortText.length - candidates[i].sortText.length)
  increasing : candidates.Pairwise (fun c later => c.sortText < later.sortText) ↔
    candidates.length ≤ 100000
  /-- A host that sorts by these keys shows the candidates as they were delivered. -/
  shown : candidates.length ≤ 100000 → ∀ sorted : List Candidate, sorted.Perm candidates →
    sorted.Pairwise (fun c later => c.sortText ≤ later.sortText) → sorted = candidates

section
variable {item : Json} {items : List Json} {sent : Delivered} {index : Nat} {candidate : Candidate}
  {candidates : List Candidate}

theorem SendsSortText.unique {found : Option Json} {sortText other : Option String}
    (sends : SendsSortText found sortText) (sends' : SendsSortText found other) :
    sortText = other := by
  cases sends <;> cases sends' <;> rfl

theorem Unkeyed.sortText (unkeyed : Unkeyed item) (read : Delivered.read item = .ok sent) :
    sent.sortText = none := by
  cases item with
  | object members => exact (Delivered.read_object_iff.mp read).2.sortText.unique unkeyed
  | array items => exact (Delivered.read_array_iff.mp read).2.sortText.unique unkeyed
  | _ => exact absurd read (RecordShape.read_other nofun nofun)

/-- A candidate without a sort key of its own gets that of its place. -/
theorem ofDelivery_sortText (unkeyed : Unkeyed item)
    (made : Candidate.ofDelivery item index = .ok candidate) :
    candidate.sortText = sortKey index := by
  obtain ⟨sent, ⟨read, -⟩, rfl⟩ := ofDelivery_eq_ok_iff.mp made
  rw [Delivered.at, unkeyed.sortText read]
  rfl

theorem candidatesFrom_sortText (unkeyed : ∀ item ∈ items, Unkeyed item)
    (accepted : candidatesFrom index items = .ok candidates) :
    candidates.map Candidate.sortText = (List.range' index items.length).map sortKey := by
  induction items generalizing index candidates with
  | nil =>
    cases accepted
    rfl
  | cons first rest ih =>
    obtain ⟨unkeyedFirst, unkeyedRest⟩ := List.forall_mem_cons.mp unkeyed
    obtain ⟨candidate, made, accepted⟩ := bind_eq_ok_iff.mp accepted
    obtain ⟨others, acceptedOthers, done⟩ := bind_eq_ok_iff.mp accepted
    cases done
    rw [List.map_cons, ofDelivery_sortText unkeyedFirst made, ih unkeyedRest acceptedOthers,
      List.length_cons, List.range'_succ, List.map_cons]

/-- Each candidate of a delivery without sort keys has the key of its place. -/
theorem sortText_of_parseCandidates (unkeyed : ∀ item ∈ items, Unkeyed item)
    (accepted : parseCandidates (.array items) = .ok candidates) :
    candidates.length = items.length ∧
      ∀ (i : Nat) (inside : i < candidates.length), candidates[i].sortText = sortKey i := by
  have keys := candidatesFrom_sortText unkeyed accepted
  have length : candidates.length = items.length := by
    simpa using congrArg List.length keys
  refine ⟨length, fun i inside => ?_⟩
  have same := congrArg (·[i]?) keys
  simpa [inside, ← length] using same

/-- An item that fits may be delivered any number of times. -/
theorem parseCandidates_replicate (sound : item.WellFormed) (sends : Sends item sent) (count : Nat) :
    parseCandidates (.array (List.replicate count item)) =
      .ok ((List.replicate count sent).mapIdx Delivered.at) := by
  have each : List.Forall₂ Sends (List.replicate count item) (List.replicate count sent) := by
    induction count with
    | zero => exact .nil
    | succ count ih => exact .cons sends ih
  refine (parseCandidates_eq_ok_iff (.array fun other inside => ?_)).mpr (.items each)
  rw [List.eq_of_mem_replicate inside]
  exact sound

/-- Of candidates with increasing keys no two have one key. -/
theorem eq_of_increasing {c d : Candidate}
    (increasing : candidates.Pairwise fun c later => c.sortText < later.sortText)
    (inside : c ∈ candidates) (inside' : d ∈ candidates) (same : c.sortText = d.sortText) : c = d := by
  rw [List.pairwise_iff_getElem] at increasing
  obtain ⟨i, bound, rfl⟩ := List.getElem_of_mem inside
  obtain ⟨j, bound', rfl⟩ := List.getElem_of_mem inside'
  rcases Nat.lt_trichotomy i j with earlier | rfl | later
  case inl => exact absurd (same ▸ increasing i j bound bound' earlier) (String.lt_irrefl _)
  case inr.inl => rfl
  case inr.inr => exact absurd (same ▸ increasing j i bound' bound later) (String.lt_irrefl _)

/-- Candidates with the keys of their places. -/
theorem ranked_of_keys
    (keys : ∀ (i : Nat) (inside : i < candidates.length), candidates[i].sortText = sortKey i) :
    Ranked candidates := by
  have upward (short : candidates.length ≤ 100000) :
      candidates.Pairwise fun c later => c.sortText < later.sortText := by
    refine List.pairwise_iff_getElem.mpr fun i j bound inside later => ?_
    rw [keys i bound, keys j inside]
    exact sortKey_lt later (by omega)
  constructor
  case keys => exact keys
  case order =>
    intro i j later inside
    rw [keys i (by omega), keys j inside]
    exact sortKey_lt_iff later
  case increasing =>
    refine ⟨fun increasing => Nat.le_of_not_lt fun long => ?_, upward⟩
    -- The first key of six digits is below the last of five.
    have before := List.pairwise_iff_getElem.mp increasing 99999 100000 (by omega) long (by decide)
    rw [keys, keys] at before
    exact absurd before (by decide +kernel)
  case shown =>
    intro short sorted same ascending
    have increasing := upward short
    refine List.Perm.eq_of_pairwise (fun c d inside inside' below above => ?_) ascending
      (increasing.imp fun before => Std.le_of_lt before) same
    exact eq_of_increasing increasing (same.subset inside) inside' (String.le_antisymm below above)

end

/-- Candidates that are delivered without sort keys get keys that keep their order as long as they
have one width, which is so up to 100000 candidates. -/
theorem deliveries_ranked {items : List Json} {candidates : List Candidate}
    (unkeyed : ∀ item ∈ items, Unkeyed item)
    (accepted : parseCandidates (.array items) = .ok candidates) :
    candidates.length = items.length ∧ Ranked candidates := by
  obtain ⟨length, keys⟩ := sortText_of_parseCandidates unkeyed accepted
  exact ⟨length, ranked_of_keys keys⟩

/-- Two items without sort keys, one by name with null and one by place. -/
theorem deliveries_ranked_pair :
    ∃ items candidates, parseCandidates (.array items) = .ok candidates ∧
      candidates.map Candidate.sortText = ["00000", "00001"] ∧
      candidates.length = items.length ∧ Ranked candidates := by
  refine ⟨[.object [("key", .string "if ("), ("sortText", .null), ("value", .integer 4)],
    .array [.string "int x", .integer 7]], _, rfl, rfl, deliveries_ranked ?_ rfl⟩
  exact List.forall_mem_cons.mpr ⟨.null, List.forall_mem_singleton.mpr .absent⟩

/-- Of 100001 candidates that are delivered without sort keys the last is sorted before the one in
front of it. -/
theorem deliveries_ranked_overtaken :
    ∃ candidates before last,
      parseCandidates (.array (List.replicate 100001 (.array [.string "x", .integer 0]))) =
        .ok candidates ∧
      candidates[99999]? = some before ∧ candidates[100000]? = some last ∧
      last.sortText < before.sortText := by
  have sound : (Json.array [.string "x", .integer 0]).WellFormed := by
    refine .array ?_
    simp only [List.forall_mem_cons]
    exact ⟨.string _, .integer (by decide) (by decide), nofun⟩
  have sends : Sends (.array [.string "x", .integer 0]) ⟨"x", UInt64.toFloat 0, none⟩ :=
    .placed (.whole 0) .absent
  have unkeyed : ∀ item ∈ List.replicate 100001 (.array [.string "x", .integer 0]), Unkeyed item := by
    intro item inside
    rw [List.eq_of_mem_replicate inside]
    exact .absent
  have accepted := parseCandidates_replicate sound sends 100001
  obtain ⟨length, keys⟩ := sortText_of_parseCandidates unkeyed accepted
  generalize (List.replicate 100001 _).mapIdx Delivered.at = candidates at accepted length keys
  rw [List.length_replicate] at length
  refine ⟨candidates, candidates[99999], candidates[100000], accepted, List.getElem?_eq_getElem _,
    List.getElem?_eq_getElem _, ?_⟩
  rw [keys 99999 (by omega), keys 100000 (by omega)]
  decide +kernel

end InlineCompletion
