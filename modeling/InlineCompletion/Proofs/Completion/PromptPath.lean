import Mathlib.Data.List.Infix
import InlineCompletion.Completion

/-!
The prompt path, candidate by candidate. One generator call is made for each candidate within the
cap, in their order, and one entry comes of each, whatever the generator answers. What an entry says
depends on its own candidate and on its own body alone, so a failure stays where it is and a larger
cap only adds entries behind the others.
-/
namespace InlineCompletion

attribute [ext] Traced

namespace Traced
variable {α β : Type}

@[simp] theorem bind_value (first : Traced α) (next : α → Traced β) :
    (first >>= next).value = (next first.value).value := rfl

@[simp] theorem bind_calls (first : Traced α) (next : α → Traced β) :
    (first >>= next).calls = first.calls ++ (next first.value).calls := rfl

@[simp] theorem map_value (f : α → β) (first : Traced α) : (f <$> first).value = f first.value :=
  rfl

@[simp] theorem map_calls (f : α → β) (first : Traced α) : (f <$> first).calls = first.calls :=
  List.append_nil _

instance : LawfulMonad Traced :=
  LawfulMonad.mk' Traced
    (fun _ => Traced.ext rfl (List.append_nil _))
    (fun _ _ => rfl)
    (fun _ _ _ => Traced.ext rfl (List.append_assoc _ _ _))

/-- What is done for each item of a list gives the values of the items, and their calls in the same
order. -/
theorem mapM_eq (f : α → Traced β) (items : List α) :
    items.mapM f =
      ⟨items.map fun item => (f item).value, items.flatMap fun item => (f item).calls⟩ := by
  induction items with
  | nil => rfl
  | cons item rest ih =>
    rw [List.mapM_cons, ih]
    ext1 <;> simp

end Traced

/-- A cap keeps the first candidates. -/
theorem select_limited (candidates : List Candidate) (count : Nat) :
    select candidates (.limited count) = candidates.take count := by
  rw [select, Cap.apply, List.take_eq_take_iff]
  omega

/-- The entry of a candidate, by what the generator has for it. -/
structure EntryOf (config : Config) (generator : BodyGenerator) (typed : Typed)
    (candidate : Candidate) (entry : Entry) : Prop where
  sortText : entry.sortText = candidate.sortText
  documentation : entry.documentation = Text.trimmed candidate.key
  filterText : entry.filterText = typed.line
  shown : entry.displayLabel = entry.insertText
  reconciled : ∀ body, generator (Text.trimmed candidate.key) typed.resolved = .ok (some body) →
    ∃ r, reconcile config.sentinelMarker (Text.trimmed candidate.key) (some body) typed = .ok r ∧
      entry.insertText = r.insertText
  bodiless :
    (∀ body, generator (Text.trimmed candidate.key) typed.resolved ≠ .ok (some body)) →
      entry.insertText = ""

section
variable {config : Config} {generator : BodyGenerator} {typed : Typed}

theorem reconcileCandidate_entry (candidate : Candidate) :
    EntryOf config generator typed candidate
      (reconcileCandidate config generator typed candidate).value := by
  constructor
  case sortText => rfl
  case documentation => rfl
  case filterText => rfl
  case shown => rfl
  case reconciled =>
    intro body generated
    refine ⟨reconcileBody config.sentinelMarker (Text.trimmed candidate.key) body typed, rfl, ?_⟩
    simp [reconcileCandidate, generateBody, promptEntry, Candidate.label, generated, reconcile]
  case bodiless =>
    intro missing
    simp only [reconcileCandidate, generateBody, Traced.bind_value, Candidate.label]
    cases answer : generator (Text.trimmed candidate.key) typed.resolved with
    | error error => rfl
    | ok body =>
      cases body with
      | none => rfl
      | some body => exact absurd answer (missing body)

/-- Two generators that agree on a candidate make the same entry of it. -/
theorem reconcileCandidate_congr {other : BodyGenerator} {candidate : Candidate}
    (same : other candidate.label typed.resolved = generator candidate.label typed.resolved) :
    reconcileCandidate config other typed candidate =
      reconcileCandidate config generator typed candidate := by
  rw [reconcileCandidate, generateBody, same]
  rfl

theorem reconcileCandidates_eq (candidates : List Candidate) :
    reconcileCandidates config generator typed candidates =
      ⟨(candidates.take config.promptCap).map fun candidate =>
          (reconcileCandidate config generator typed candidate).value,
        (candidates.take config.promptCap).map fun candidate =>
          ⟨candidate.label, typed.resolved⟩⟩ := by
  rw [reconcileCandidates, Traced.mapM_eq, select_limited]
  congr 1
  exact List.map_eq_flatMap.symm

/-- The entry at a place is that of the candidate at the same place, if the cap reaches so far. -/
theorem reconcileCandidates_getElem? (candidates : List Candidate) (k : Nat) :
    (reconcileCandidates config generator typed candidates).value[k]? =
      if k < config.promptCap then
        candidates[k]?.map fun candidate =>
          (reconcileCandidate config generator typed candidate).value
      else none := by
  rw [reconcileCandidates_eq, List.getElem?_map, List.getElem?_take]
  split <;> rfl

end

/-- The calls and the entries of the prompt path, and where each entry comes from. -/
structure Pointwise (config : Config) (generator : BodyGenerator) (typed : Typed)
    (candidates : List Candidate) (made : Traced (List Entry)) : Prop where
  calls : made.calls = (candidates.take config.promptCap).map fun candidate =>
    ⟨Text.trimmed candidate.key, typed.resolved⟩
  callCount : made.calls.length = min config.promptCap candidates.length
  entryCount : made.value.length = min config.promptCap candidates.length
  entries : ∀ (k : Nat) (entry : Entry), made.value[k]? = some entry →
    ∃ candidate, candidates[k]? = some candidate ∧ EntryOf config generator typed candidate entry
  /-- No other candidate and no other body has a part in an entry, and neither has the cap. -/
  alone : ∀ (cap : Nat) (others : List Candidate) (other : BodyGenerator) (k : Nat),
    k < config.promptCap → k < cap → others[k]? = candidates[k]? →
    (∀ candidate, candidates[k]? = some candidate →
      other (Text.trimmed candidate.key) typed.resolved =
        generator (Text.trimmed candidate.key) typed.resolved) →
    (reconcileCandidates { config with promptCap := cap } other typed others).value[k]? =
      made.value[k]?
  raised : ∀ cap, config.promptCap ≤ cap →
    made.value <+:
        (reconcileCandidates { config with promptCap := cap } generator typed candidates).value ∧
      made.calls <+:
        (reconcileCandidates { config with promptCap := cap } generator typed candidates).calls

/-- The prompt path is made of one call and one entry for each candidate within the cap. -/
theorem reconcileCandidates_pointwise (config : Config) (generator : BodyGenerator) (typed : Typed)
    (candidates : List Candidate) :
    Pointwise config generator typed candidates
      (reconcileCandidates config generator typed candidates) := by
  constructor
  case calls => rw [reconcileCandidates_eq]; rfl
  case callCount => simp [reconcileCandidates_eq]
  case entryCount => simp [reconcileCandidates_eq]
  case entries =>
    intro k entry found
    rw [reconcileCandidates_getElem?] at found
    split at found
    · obtain ⟨candidate, place, rfl⟩ := Option.map_eq_some_iff.mp found
      exact ⟨candidate, place, reconcileCandidate_entry candidate⟩
    · cases found
  case alone =>
    intro cap others other k within reached place agree
    rw [reconcileCandidates_getElem?, reconcileCandidates_getElem?, if_pos within, place]
    dsimp only
    rw [if_pos reached]
    cases found : candidates[k]? with
    | none => rfl
    | some candidate =>
      exact congrArg (some ·.value) (reconcileCandidate_congr (agree candidate found))
  case raised =>
    intro cap more
    rw [reconcileCandidates_eq, reconcileCandidates_eq]
    have kept := List.take_isPrefix_take (l := candidates).mpr (.inl more)
    exact ⟨kept.map _, kept.map _⟩

/-- A generator without a body for one label, and with a failure for another. -/
def patchy : BodyGenerator := fun label _ =>
  if label = "b" then .ok none
  else if label = "c" then .error (.noUsableResponse label)
  else .ok (some (label ++ "();"))

example :
    let made := reconcileCandidates { Config.standard with promptCap := 4 } patchy ⟨"", ""⟩
      [⟨"a", 3, "0"⟩, ⟨"b", 2, "1"⟩, ⟨"c", 1, "2"⟩, ⟨" d ", 0, "3"⟩, ⟨"e", 0, "4"⟩]
    made.value.map Entry.insertText = ["();", "", "", "();"] := by
  rfl

end InlineCompletion
