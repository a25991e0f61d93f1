import InlineCompletion.Candidate
import InlineCompletion.Proofs.Decimal.WholeDouble
import InlineCompletion.Proofs.Json.Record
import InlineCompletion.Proofs.Json.WellFormed

/-!
Which deliveries are accepted. The grammar of a delivery is stated on the values that are sent,
apart from the way they are read: null, or an array of items that each send a key, a number not
below zero and perhaps a sort key, by name or by place. Reading accepts exactly these deliveries,
keeps the order of their items, and names the first item that does not fit.
-/
namespace InlineCompletion
open Json

/-! ### The grammar -/

/-- A number that can be a frequency, and the double that it stands for. -/
inductive SendsFrequency : Json → Float → Prop where
  | whole (n : Nat) : SendsFrequency (.integer n) n.toUInt64.toFloat
  | double {x : Float} (finite : x.isFinite = true) (sign : ¬ x < 0) :
      SendsFrequency (.double x) x

/-- What is sent as a sort key: a text, or none if it is absent or null. -/
inductive SendsSortText : Option Json → Option String → Prop where
  | absent : SendsSortText none none
  | null : SendsSortText (some .null) none
  | own (text : String) : SendsSortText (some (.string text)) (some text)

/-- An item of a delivery, and what it sends. -/
inductive Sends : Json → Delivered → Prop where
  /-- An object with no other members. -/
  | named {members : List (String × Json)} {key : String} {amount : Json} {frequency : Float}
      {sortText : Option String}
      (known : ∀ member ∈ members, member.1 ∈ ["key", "value", "sortText"])
      (hasKey : (Json.object members).member? "key" = some (.string key))
      (hasValue : (Json.object members).member? "value" = some amount)
      (number : SendsFrequency amount frequency)
      (sorted : SendsSortText ((Json.object members).member? "sortText") sortText) :
      Sends (.object members) ⟨key, frequency, sortText⟩
  /-- An array of the same, with or without an item for the sort key. -/
  | placed {key : String} {amount : Json} {frequency : Float} {last : Option Json}
      {sortText : Option String} (number : SendsFrequency amount frequency)
      (sorted : SendsSortText last sortText) :
      Sends (.array (.string key :: amount :: last.toList)) ⟨key, frequency, sortText⟩

/-- The candidate that is made of what an item sends. Its place stands in for a sort key that was
not sent. -/
def Delivered.at (index : Nat) (sent : Delivered) : Candidate :=
  ⟨sent.key, sent.value, sent.sortText.getD (sortKey index)⟩

/-- A delivery that fits, and its candidates. -/
inductive Delivers : Json → List Candidate → Prop where
  | nothing : Delivers .null []
  | items {items : List Json} {sent : List Delivered} (each : List.Forall₂ Sends items sent) :
      Delivers (.array items) (sent.mapIdx Delivered.at)

/-- A delivery that does not fit, and how it is refused. -/
inductive Refused : Json → CompletionError → Prop where
  | noArray {payload : Json} (noNull : payload ≠ .null) (noArray : ∀ items, payload ≠ .array items)
      (reason : String) : Refused payload (.invalidCandidate reason)
  /-- The first item that sends nothing. -/
  | item {before after : List Json} {item : Json}
      (earlier : ∀ other ∈ before, ∃ sent, Sends other sent) (unfit : ∀ sent, ¬ Sends item sent)
      (reason : String) :
      Refused (.array (before ++ item :: after))
        (.invalidCandidate ("#" ++ before.length.repr ++ ": " ++ reason))

/-! ### Frequencies -/

theorem SendsFrequency.spec {value : Json} {x : Float} (sends : SendsFrequency value x) :
    x.isFinite = true ∧ ¬ x < 0 := by
  cases sends with
  | whole n => exact ⟨Decimal.isFinite_toFloat _, Decimal.toFloat_not_lt_zero _⟩
  | double finite sign => exact ⟨finite, sign⟩

theorem isFrequency_iff {x : Float} : isFrequency x = true ↔ x.isFinite = true ∧ ¬ x < 0 := by
  simp [isFrequency]

/-- A number sends a frequency exactly if it is read as one. -/
theorem sendsFrequency_iff {value : Json} {x : Float} (sound : value.WellFormed) :
    SendsFrequency value x ↔ asFloat value = .ok x ∧ isFrequency x = true := by
  constructor
  case mp =>
    intro sends
    refine ⟨?_, isFrequency_iff.mpr sends.spec⟩
    cases sends with
    | whole n => exact congrArg Except.ok (if_neg (Int.not_lt.mpr (Int.natCast_nonneg n)))
    | double finite sign => rfl
  case mpr =>
    rintro ⟨read, frequency⟩
    obtain ⟨finite, sign⟩ := isFrequency_iff.mp frequency
    cases value with
    | double y =>
      cases read
      exact .double finite sign
    | integer n =>
      obtain ⟨low, high⟩ := sound
      simp only [asFloat, Except.ok.injEq] at read
      split at read
      case isTrue negative =>
        have present : n.natAbs.toUInt64 ≠ 0 := by
          intro zero
          have := congrArg UInt64.toNat zero
          simp at this
          omega
        exact absurd (read ▸ Decimal.neg_toFloat_lt_zero present) sign
      case isFalse positive =>
        obtain ⟨whole, rfl⟩ := Int.eq_ofNat_of_zero_le (Int.not_lt.mp positive)
        subst read
        exact .whole whole
    | _ => exact nomatch read

/-! ### Items -/

theorem sendsSortText_iff {source : FieldSource} {sortText : Option String} :
    source.optional 2 "sortText" asOptionalString none = .ok sortText ↔
      SendsSortText (source.value? 2 "sortText") sortText := by
  rw [FieldSource.optional_eq_ok_iff]
  constructor
  case mp =>
    rintro (⟨absent, rfl⟩ | ⟨value, found, read⟩)
    · rw [absent]
      exact .absent
    · rw [found]
      rcases asOptionalString_eq_ok_iff.mp read with ⟨rfl, rfl⟩ | ⟨own, rfl, rfl⟩
      · exact .null
      · exact .own own
  case mpr =>
    intro sends
    generalize source.value? 2 "sortText" = found at sends
    cases sends with
    | absent => exact .inl ⟨rfl, rfl⟩
    | null => exact .inr ⟨.null, rfl, rfl⟩
    | own text => exact .inr ⟨.string text, rfl, rfl⟩

/-- The fields of a delivered candidate, by their places and names. -/
structure Delivered.Fields (value? : Nat → String → Option Json) (sent : Delivered) : Prop where
  key : value? 0 "key" = some (.string sent.key)
  value : ∃ amount, value? 1 "value" = some amount ∧ asFloat amount = .ok sent.value
  sortText : SendsSortText (value? 2 "sortText") sent.sortText

theorem Delivered.fields_iff {source : FieldSource} {sent : Delivered} :
    (do
      let key ← source.required 0 "key" asString
      let value ← source.required 1 "value" asFloat
      let sortText ← source.optional 2 "sortText" asOptionalString none
      return ⟨key, value, sortText⟩ : Decoded Delivered) = .ok sent ↔
    Delivered.Fields source.value? sent := by
  constructor
  case mp =>
    intro read
    obtain ⟨key, readKey, read⟩ := bind_eq_ok_iff.mp read
    obtain ⟨value, readValue, read⟩ := bind_eq_ok_iff.mp read
    obtain ⟨sortText, readSortText, read⟩ := bind_eq_ok_iff.mp read
    cases read
    obtain ⟨item, foundKey, isKey⟩ := FieldSource.required_eq_ok_iff.mp readKey
    rw [asString_eq_ok_iff.mp isKey] at foundKey
    exact ⟨foundKey, FieldSource.required_eq_ok_iff.mp readValue,
      sendsSortText_iff.mp readSortText⟩
  case mpr =>
    rintro ⟨key, value, sortText⟩
    refine bind_eq_ok_iff.mpr ⟨sent.key, FieldSource.required_eq_ok_iff.mpr ⟨_, key, rfl⟩, ?_⟩
    refine bind_eq_ok_iff.mpr ⟨sent.value, FieldSource.required_eq_ok_iff.mpr value, ?_⟩
    exact bind_eq_ok_iff.mpr ⟨sent.sortText, sendsSortText_iff.mpr sortText, rfl⟩

/-- The members that may stand in a delivered candidate. -/
theorem Delivered.admits_iff {member : String × Json} :
    Delivered.shape.Admits member ↔
      (member.1 = "key" ∧ ∃ text, asString member.2 = .ok text) ∨
      (member.1 = "value" ∧ ∃ x, asFloat member.2 = .ok x) ∨
      (member.1 = "sortText" ∧ ∃ own, asOptionalString member.2 = .ok own) := by
  obtain ⟨name, value⟩ := member
  simp only [← checking_eq_ok_iff]
  by_cases isKey : name = "key"
  · subst isKey
    simp [RecordShape.Admits, Delivered.shape]
  by_cases isValue : name = "value"
  · subst isValue
    simp [RecordShape.Admits, Delivered.shape]
  by_cases isSortText : name = "sortText"
  · subst isSortText
    simp [RecordShape.Admits, Delivered.shape]
  · simp [RecordShape.Admits, Delivered.shape, isKey, isValue, isSortText, Ne.symm isKey,
      Ne.symm isValue, Ne.symm isSortText]

theorem Delivered.read_object_iff {members : List (String × Json)} {sent : Delivered} :
    Delivered.read (.object members) = .ok sent ↔
      (∀ member ∈ members, Delivered.shape.Admits member) ∧
      Delivered.Fields (fun _ name => (Json.object members).member? name) sent :=
  RecordShape.read_object_eq_ok_iff.trans (and_congr_right' Delivered.fields_iff)

theorem Delivered.read_array_iff {items : List Json} {sent : Delivered} :
    Delivered.read (.array items) = .ok sent ↔
      items.length ≤ 3 ∧ Delivered.Fields (fun place _ => items[place]?) sent :=
  RecordShape.read_array_eq_ok_iff.trans (and_congr_right' Delivered.fields_iff)

section
variable {members : List (String × Json)} {items : List Json} {key : String} {amount : Json}
  {frequency : Float} {last : Option Json} {sortText : Option String} {sent : Delivered}

/-- What is sent by name can be read. -/
theorem read_named (sound : (Json.object members).WellFormed)
    (known : ∀ member ∈ members, member.1 ∈ ["key", "value", "sortText"])
    (hasKey : (Json.object members).member? "key" = some (.string key))
    (hasValue : (Json.object members).member? "value" = some amount)
    (number : asFloat amount = .ok frequency)
    (sorted : SendsSortText ((Json.object members).member? "sortText") sortText) :
    Delivered.read (.object members) = .ok ⟨key, frequency, sortText⟩ := by
  obtain ⟨once, -⟩ := wellFormed_object_iff.mp sound
  refine Delivered.read_object_iff.mpr ⟨fun member inside => ?_, hasKey, ⟨amount, hasValue, number⟩,
    sorted⟩
  obtain ⟨name, value⟩ := member
  have found := (member?_eq_some_iff once).mpr inside
  have place := known _ inside
  rw [Delivered.admits_iff]
  simp only [List.mem_cons, List.not_mem_nil, or_false] at place
  rcases place with rfl | rfl | rfl
  case inl =>
    cases hasKey.symm.trans found
    exact .inl ⟨rfl, key, rfl⟩
  case inr.inl =>
    cases hasValue.symm.trans found
    exact .inr (.inl ⟨rfl, frequency, number⟩)
  case inr.inr =>
    rw [found] at sorted
    refine .inr (.inr ⟨rfl, sortText, ?_⟩)
    cases sorted <;> rfl

/-- What is sent by place can be read. -/
theorem read_placed (number : asFloat amount = .ok frequency) (sorted : SendsSortText last sortText) :
    Delivered.read (.array (.string key :: amount :: last.toList)) =
      .ok ⟨key, frequency, sortText⟩ := by
  refine Delivered.read_array_iff.mpr ⟨?_, rfl, ⟨amount, rfl, number⟩, ?_⟩
  · cases last <;> exact Nat.le_of_ble_eq_true rfl
  · cases last <;> exact sorted

/-- An object that is read sends what is read, by name. -/
theorem sends_of_read_object (sound : (Json.object members).WellFormed)
    (read : Delivered.read (.object members) = .ok sent) (frequency : isFrequency sent.value = true) :
    Sends (.object members) sent := by
  obtain ⟨once, all⟩ := wellFormed_object_iff.mp sound
  obtain ⟨admitted, hasKey, ⟨amount, hasValue, number⟩, sorted⟩ := Delivered.read_object_iff.mp read
  have amountSound : amount.WellFormed := all _ ((member?_eq_some_iff once).mp hasValue)
  refine .named (fun member inside => ?_) hasKey hasValue
    ((sendsFrequency_iff amountSound).mpr ⟨number, frequency⟩) sorted
  rcases Delivered.admits_iff.mp (admitted member inside) with
    ⟨name, -⟩ | ⟨name, -⟩ | ⟨name, -⟩ <;> simp [name]

/-- An array that is read sends what is read, by place. -/
theorem sends_of_read_array (sound : (Json.array items).WellFormed)
    (read : Delivered.read (.array items) = .ok sent) (frequency : isFrequency sent.value = true) :
    Sends (.array items) sent := by
  have all := wellFormed_array_iff.mp sound
  obtain ⟨short, hasKey, ⟨amount, hasValue, number⟩, sorted⟩ := Delivered.read_array_iff.mp read
  have sends : SendsFrequency amount sent.value :=
    (sendsFrequency_iff (all _ (List.mem_of_getElem? hasValue))).mpr ⟨number, frequency⟩
  match items with
  | [] => exact nomatch hasKey
  | [_] => exact nomatch hasValue
  | first :: second :: rest =>
    cases hasKey
    cases hasValue
    match rest with
    | [] => exact .placed sends sorted
    | [third] => exact .placed sends sorted
    | _ :: _ :: _ => exact absurd short (by simp)

/-- An item sends a candidate exactly if it is read as one, with a number that can be a
frequency. -/
theorem sends_iff {item : Json} (sound : item.WellFormed) :
    Sends item sent ↔ Delivered.read item = .ok sent ∧ isFrequency sent.value = true := by
  constructor
  case mp =>
    intro sends
    cases sends with
    | named known hasKey hasValue number sorted =>
      obtain ⟨once, all⟩ := wellFormed_object_iff.mp sound
      have amountSound := all _ ((member?_eq_some_iff once).mp hasValue)
      obtain ⟨read, frequency⟩ := (sendsFrequency_iff amountSound).mp number
      exact ⟨read_named (.object once all) known hasKey hasValue read sorted, frequency⟩
    | placed number sorted =>
      have amountSound := wellFormed_array_iff.mp sound _ (List.mem_cons_of_mem _ List.mem_cons_self)
      obtain ⟨read, frequency⟩ := (sendsFrequency_iff amountSound).mp number
      exact ⟨read_placed read sorted, frequency⟩
  case mpr =>
    rintro ⟨read, frequency⟩
    cases item with
    | object members => exact sends_of_read_object sound read frequency
    | array items => exact sends_of_read_array sound read frequency
    | _ => exact absurd read (RecordShape.read_other nofun nofun)

end

/-! ### Deliveries -/

section
variable {item : Json} {items : List Json} {index : Nat} {candidate : Candidate}
  {candidates : List Candidate} {error : CompletionError} {payload : Json}

/-- A candidate is made of an item that is read with a number that can be a frequency. -/
theorem ofDelivery_eq_ok_iff :
    Candidate.ofDelivery item index = .ok candidate ↔
      ∃ sent, (Delivered.read item = .ok sent ∧ isFrequency sent.value = true) ∧
        sent.at index = candidate := by
  rw [Candidate.ofDelivery]
  cases Delivered.read item with
  | error failure => exact iff_of_false nofun fun ⟨_, ⟨read, _⟩, _⟩ => nomatch read
  | ok sent =>
    cases frequency : isFrequency sent.value <;> simp [frequency, Delivered.at]

theorem ofDelivery_eq_ok_iff_sends (sound : item.WellFormed) :
    Candidate.ofDelivery item index = .ok candidate ↔
      ∃ sent, Sends item sent ∧ sent.at index = candidate := by
  simp only [sends_iff sound]
  exact ofDelivery_eq_ok_iff

/-- An item that is refused is named by its place. -/
theorem ofDelivery_error (refused : Candidate.ofDelivery item index = .error error) :
    ∃ reason, error = .invalidCandidate ("#" ++ index.repr ++ ": " ++ reason) := by
  rw [Candidate.ofDelivery] at refused
  split at refused
  · cases refused
    exact ⟨_, rfl⟩
  · split at refused
    · cases refused
    · cases refused
      have parted : ": frequency must be a non-negative number, got " =
          ": " ++ "frequency must be a non-negative number, got " := rfl
      exact ⟨_, by rw [parted, ← String.append_assoc, String.append_assoc]⟩

/-- Every item sends one candidate, and their places are counted from `index` on. -/
theorem candidatesFrom_eq_ok_iff (sound : ∀ item ∈ items, item.WellFormed) :
    candidatesFrom index items = .ok candidates ↔
      ∃ sent, List.Forall₂ Sends items sent ∧
        sent.mapIdx (fun place => Delivered.at (index + place)) = candidates := by
  induction items generalizing index candidates with
  | nil => simp [candidatesFrom]
  | cons first rest ih =>
    obtain ⟨soundFirst, soundRest⟩ := List.forall_mem_cons.mp sound
    have shifted (sent : List Delivered) :
        (sent.mapIdx fun place => Delivered.at (index + 1 + place)) =
          sent.mapIdx fun place => Delivered.at (index + (place + 1)) := by
      simp only [Nat.add_comm, Nat.add_left_comm]
    rw [candidatesFrom, bind_eq_ok_iff]
    constructor
    case mp =>
      rintro ⟨candidate, made, done⟩
      obtain ⟨others, madeOthers, done⟩ := bind_eq_ok_iff.mp done
      cases done
      obtain ⟨sent, sends, rfl⟩ := (ofDelivery_eq_ok_iff_sends soundFirst).mp made
      obtain ⟨sentOthers, each, rfl⟩ := (ih soundRest).mp madeOthers
      exact ⟨sent :: sentOthers, .cons sends each, by rw [List.mapIdx_cons, shifted]; rfl⟩
    case mpr =>
      rintro ⟨_, _ | ⟨sends, each⟩, rfl⟩
      refine ⟨_, (ofDelivery_eq_ok_iff_sends soundFirst).mpr ⟨_, sends, rfl⟩, ?_⟩
      refine bind_eq_ok_iff.mpr ⟨_, (ih soundRest).mpr ⟨_, each, rfl⟩, ?_⟩
      rw [List.mapIdx_cons, shifted]
      rfl

/-- The item that is refused is the first that sends nothing. -/
theorem candidatesFrom_error (sound : ∀ item ∈ items, item.WellFormed)
    (refused : candidatesFrom index items = .error error) :
    ∃ before item after reason, items = before ++ item :: after ∧
      (∀ other ∈ before, ∃ sent, Sends other sent) ∧ (∀ sent, ¬ Sends item sent) ∧
      error = .invalidCandidate ("#" ++ (index + before.length).repr ++ ": " ++ reason) := by
  induction items generalizing index with
  | nil => exact nomatch refused
  | cons first rest ih =>
    obtain ⟨soundFirst, soundRest⟩ := List.forall_mem_cons.mp sound
    rw [candidatesFrom] at refused
    cases made : Candidate.ofDelivery first index with
    | error failure =>
      rw [made] at refused
      cases refused
      obtain ⟨reason, rfl⟩ := ofDelivery_error made
      refine ⟨[], first, rest, reason, rfl, nofun, fun sent sends => ?_, rfl⟩
      exact nomatch made.symm.trans ((ofDelivery_eq_ok_iff_sends soundFirst).mpr ⟨sent, sends, rfl⟩)
    | ok candidate =>
      obtain ⟨sent, sends, -⟩ := (ofDelivery_eq_ok_iff_sends soundFirst).mp made
      have later : candidatesFrom (index + 1) rest = .error error := by
        rw [made] at refused
        cases others : candidatesFrom (index + 1) rest with
        | error failure =>
          rw [others] at refused
          exact refused
        | ok candidates =>
          rw [others] at refused
          exact nomatch refused
      obtain ⟨before, item, after, reason, split, earlier, unfit, named⟩ := ih soundRest later
      refine ⟨first :: before, item, after, reason, by rw [split]; rfl, ?_, unfit, ?_⟩
      · exact List.forall_mem_cons.mpr ⟨⟨sent, sends⟩, earlier⟩
      · rw [named, List.length_cons, Nat.add_assoc, Nat.add_comm 1]

/-- A delivery is accepted exactly if it fits. -/
theorem parseCandidates_eq_ok_iff (sound : payload.WellFormed) :
    parseCandidates payload = .ok candidates ↔ Delivers payload candidates := by
  cases payload with
  | null =>
    constructor
    · intro accepted
      cases accepted
      exact .nothing
    · intro delivers
      cases delivers
      rfl
  | array items =>
    rw [parseCandidates, candidatesFrom_eq_ok_iff (wellFormed_array_iff.mp sound)]
    simp only [Nat.zero_add]
    constructor
    · rintro ⟨sent, each, rfl⟩
      exact .items each
    · intro delivers
      cases delivers with
      | items each => exact ⟨_, each, rfl⟩
  | _ => exact iff_of_false nofun nofun

/-- A delivery that is not accepted is refused as the first misfit asks for. -/
theorem refused_of_parseCandidates (sound : payload.WellFormed)
    (failed : parseCandidates payload = .error error) : Refused payload error := by
  cases payload with
  | null => exact nomatch failed
  | array items =>
    obtain ⟨before, item, after, reason, rfl, earlier, unfit, rfl⟩ :=
      candidatesFrom_error (wellFormed_array_iff.mp sound) failed
    rw [Nat.zero_add]
    exact .item earlier unfit reason
  | _ =>
    cases failed
    refine .noArray ?_ ?_ _ <;> exact nofun

theorem Sends.frequency {sent : Delivered} (sends : Sends item sent) :
    sent.value.isFinite = true ∧ ¬ sent.value < 0 := by
  cases sends with
  | named known hasKey hasValue number sorted => exact number.spec
  | placed number sorted => exact number.spec

/-- The frequencies of a delivery are finite and not below zero. -/
theorem Delivers.frequencies (delivers : Delivers payload candidates) :
    ∀ candidate ∈ candidates, candidate.value.isFinite = true ∧ ¬ candidate.value < 0 := by
  cases delivers with
  | nothing => exact nofun
  | items each =>
    intro candidate inside
    obtain ⟨place, bound, rfl⟩ := List.mem_mapIdx.mp inside
    obtain ⟨-, pointwise⟩ := List.forall₂_iff_get.mp each
    exact (pointwise place (each.length_eq ▸ bound) bound).frequency

/-! ### Writing candidates -/

/-- What a candidate sends when it is written as a value. -/
def Candidate.delivered (c : Candidate) : Delivered :=
  ⟨c.key, c.value, some c.sortText⟩

theorem Candidate.wellFormed_toJson (c : Candidate) : c.toJson.WellFormed := by
  refine .object (by simp) fun member inside => ?_
  simp only [List.mem_cons, List.not_mem_nil, or_false] at inside
  rcases inside with rfl | rfl | rfl
  · exact .string c.key
  · exact .double c.value
  · exact .string c.sortText

theorem Candidate.sends_toJson {c : Candidate}
    (frequency : c.value.isFinite = true ∧ ¬ c.value < 0) : Sends c.toJson c.delivered := by
  refine .named ?_ rfl rfl (.double frequency.1 frequency.2) (.own c.sortText)
  intro member inside
  exact List.mem_map_of_mem (f := Prod.fst) inside

/-- Candidates that are written as a value are delivered as they were. -/
theorem delivers_toJson
    (frequencies : ∀ c ∈ candidates, c.value.isFinite = true ∧ ¬ c.value < 0) :
    Delivers (.array (candidates.map Candidate.toJson)) candidates := by
  have each : List.Forall₂ Sends (candidates.map Candidate.toJson)
      (candidates.map Candidate.delivered) := by
    rw [List.forall₂_map_left_iff, List.forall₂_map_right_iff, List.forall₂_same]
    exact fun c inside => c.sends_toJson (frequencies c inside)
  have same : (candidates.map Candidate.delivered).mapIdx Delivered.at = candidates := by
    refine List.ext_getElem (by simp) fun place _ _ => ?_
    rw [List.getElem_mapIdx, List.getElem_map]
    rfl
  have delivers := Delivers.items each
  rwa [same] at delivers

/-! ### Reading by the grammar -/

/-- How a delivery is read. -/
structure ReadByGrammar (payload : Json) : Prop where
  accepted : ∀ candidates, parseCandidates payload = .ok candidates ↔ Delivers payload candidates
  frequencies : ∀ candidates, parseCandidates payload = .ok candidates →
    ∀ c ∈ candidates, c.value.isFinite = true ∧ ¬ c.value < 0
  refused : ∀ error, parseCandidates payload = .error error → Refused payload error

theorem readByGrammar_of_wellFormed (sound : payload.WellFormed) : ReadByGrammar payload := by
  constructor
  case accepted => exact fun candidates => parseCandidates_eq_ok_iff sound
  case frequencies =>
    intro candidates accepted
    exact ((parseCandidates_eq_ok_iff sound).mp accepted).frequencies
  case refused => exact fun error => refused_of_parseCandidates sound

/-- Every delivery that comes as a text is read by the grammar. -/
theorem readByGrammar_of_parse? {text : String} (read : parse? text = some payload) :
    ReadByGrammar payload :=
  readByGrammar_of_wellFormed (wellFormed_of_parse? read)

end

/-- A delivery is accepted exactly if it fits the grammar, and candidates that are written as a
value are read back as they were. -/
theorem deliveries_grammar {payload : Json} (sound : payload.WellFormed)
    {candidates : List Candidate}
    (frequencies : ∀ c ∈ candidates, c.value.isFinite = true ∧ ¬ c.value < 0) :
    ReadByGrammar payload ∧
      parseCandidates (.array (candidates.map Candidate.toJson)) = .ok candidates := by
  have written : (Json.array (candidates.map Candidate.toJson)).WellFormed := by
    refine .array fun item inside => ?_
    obtain ⟨c, -, rfl⟩ := List.mem_map.mp inside
    exact c.wellFormed_toJson
  exact ⟨readByGrammar_of_wellFormed sound,
    (parseCandidates_eq_ok_iff written).mpr (delivers_toJson frequencies)⟩

/-- A delivery whose first item sends its fields by name, with null for the sort key, and whose
second sends them by place. -/
theorem deliveries_grammar_mixed :
    ∃ payload candidates, parseCandidates payload = .ok candidates ∧
      candidates.map Candidate.sortText = ["00000", "a"] ∧ ReadByGrammar payload ∧
      parseCandidates (.array (candidates.map Candidate.toJson)) = .ok candidates := by
  let named := Json.object [("key", .string "if ("), ("sortText", .null), ("value", .integer 4)]
  let placed := Json.array [.string "int x", .integer 0, .string "a"]
  refine ⟨.array [named, placed],
    [⟨"if (", UInt64.toFloat 4, "00000"⟩, ⟨"int x", UInt64.toFloat 0, "a"⟩], rfl, rfl,
    deliveries_grammar ?_ (by decide +kernel)⟩
  have soundNamed : named.WellFormed := by
    refine .object (by decide) ?_
    simp only [List.forall_mem_cons]
    exact ⟨.string _, .null, .integer (by decide) (by decide), nofun⟩
  have soundPlaced : placed.WellFormed := by
    refine .array ?_
    simp only [List.forall_mem_cons]
    exact ⟨.string _, .integer (by decide) (by decide), .string _, nofun⟩
  exact .array (List.forall_mem_cons.mpr ⟨soundNamed, List.forall_mem_singleton.mpr soundPlaced⟩)

end InlineCompletion
