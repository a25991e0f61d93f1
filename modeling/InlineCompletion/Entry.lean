import InlineCompletion.Candidate

/-!
Entries of a completion list. The order of a list is the order of the suggestion source; a cap only
shortens it.
-/
namespace InlineCompletion

/-- How many candidates a completion path keeps. -/
inductive Cap where
  | limited (count : Nat)
  | unbounded
deriving Repr, DecidableEq

/-- How many of `available` candidates a cap keeps. -/
def Cap.apply : Cap → Nat → Nat
  | .limited count, available => min count available
  | .unbounded, available => available

/-- The candidates that a cap keeps: the first ones, in their order. -/
def select (candidates : List Candidate) (cap : Cap) : List Candidate :=
  candidates.take (cap.apply candidates.length)

/-- An entry of the list that the host shows. -/
structure Entry where
  /-- The text shown in the list. -/
  displayLabel : String
  /-- The text inserted when the entry is chosen. -/
  insertText : String
  sortText : String
  /-- What is shown next to the entry. -/
  documentation : String
  /-- The text the host filters by: the line, so that no entry is filtered out. -/
  filterText : String
deriving Repr, DecidableEq

/-- An entry of the plain path. Its text is filled in when the host resolves it. -/
def plainEntry (candidate : Candidate) (line : String) : Entry :=
  ⟨candidate.label, "", candidate.sortText,
    "Frequency : " ++ Decimal.writeFloat .plain candidate.value, line⟩

/-- An entry of the prompt path: the same text is shown and inserted, and the phrase that led to it
is its documentation. -/
def promptEntry (candidate : Candidate) (insertText line : String) : Entry :=
  ⟨insertText, insertText, candidate.sortText, candidate.label, line⟩

end InlineCompletion
