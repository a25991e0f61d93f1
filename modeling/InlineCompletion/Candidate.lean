import InlineCompletion.Error
import InlineCompletion.Json.Decode
import InlineCompletion.Json.Writer
import InlineCompletion.Text.Trim

/-!
Phrase candidates, and reading them from what a suggestion source delivers. A delivery is accepted
as a whole or refused with the first candidate that does not fit.
-/
namespace InlineCompletion
open Json

/-- A phrase that a suggestion source offers. -/
structure Candidate where
  /-- The phrase itself. -/
  key : String
  /-- How often the phrase is used; never negative in a delivery that was accepted. -/
  value : Float
  /-- The key by which the host sorts its list. -/
  sortText : String
deriving Inhabited

/-- The label that is shown for a candidate. -/
def Candidate.label (c : Candidate) : String :=
  Text.trimmed c.key

/-- A number with zeros in front, at least five digits wide. -/
def sortKey (index : Nat) : String :=
  .ofList (Decimal.zeros (5 - (Nat.toDigits 10 index).length) ++ Nat.toDigits 10 index)

/-- A candidate as it is delivered, before its frequency is checked. -/
structure Delivered where
  key : String
  value : Float
  sortText : Option String

/-- A delivered candidate has no members but these; the sort key may be absent or null. -/
def Delivered.shape : RecordShape :=
  ⟨"RawCandidate",
    [("key", checking asString), ("value", checking asFloat),
     ("sortText", checking asOptionalString)],
    true⟩

/-- A candidate as it is delivered. -/
def Delivered.read : Json → Decoded Delivered :=
  shape.read fun source => do
    let key ← source.required 0 "key" asString
    let value ← source.required 1 "value" asFloat
    let sortText ← source.optional 2 "sortText" asOptionalString none
    return ⟨key, value, sortText⟩

/-- Whether a number can be a frequency. -/
def isFrequency (x : Float) : Bool :=
  x.isFinite && !(x < 0)

/-- The candidate at `index` of a delivery. Without a sort key of its own it gets one from its
place. -/
def Candidate.ofDelivery (value : Json) (index : Nat) : Except CompletionError Candidate :=
  match Delivered.read value with
  | .error e => .error (.invalidCandidate ("#" ++ index.repr ++ ": " ++ e.message))
  | .ok delivered =>
    if isFrequency delivered.value then
      .ok ⟨delivered.key, delivered.value, delivered.sortText.getD (sortKey index)⟩
    else
      .error (.invalidCandidate ("#" ++ index.repr ++
        ": frequency must be a non-negative number, got " ++
        Decimal.writeFloat .plain delivered.value))

/-- The candidates of a delivery from the one at `index` on. -/
def candidatesFrom (index : Nat) : List Json → Except CompletionError (List Candidate)
  | [] => .ok []
  | item :: rest => do
    let candidate ← Candidate.ofDelivery item index
    let others ← candidatesFrom (index + 1) rest
    return candidate :: others

/-- The candidates of a delivery: none for null, and one for each item of an array. -/
def parseCandidates : Json → Except CompletionError (List Candidate)
  | .null => .ok []
  | .array items => candidatesFrom 0 items
  | other => .error (.invalidCandidate ("expected a list of candidates, got " ++ render other))

/-- A candidate in full has all three members; others are ignored. -/
def Candidate.shape : RecordShape :=
  ⟨"Candidate",
    [("key", checking asString), ("value", checking asFloat), ("sortText", checking asString)],
    false⟩

/-- A candidate in full. -/
def Candidate.read : Json → Decoded Candidate :=
  shape.read fun source => do
    let key ← source.required 0 "key" asString
    let value ← source.required 1 "value" asFloat
    let sortText ← source.required 2 "sortText" asString
    return ⟨key, value, sortText⟩

/-- The members of a candidate. -/
def Candidate.toJson (c : Candidate) : Json :=
  .object [("key", .string c.key), ("value", .double c.value), ("sortText", .string c.sortText)]

end InlineCompletion
