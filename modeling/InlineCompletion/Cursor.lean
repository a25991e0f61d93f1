import InlineCompletion.Echo
import InlineCompletion.Text.Bytes

/-!
Splitting a document at the cursor. A cursor counts characters and a document is cut by bytes, so
the cursor is turned into an offset in bytes first. A cursor behind the end of the document is
refused, and all functions of this module refuse the same cursors with the same failure.
-/
namespace InlineCompletion
open Text

/-- The offset in bytes of the character with this index, or of the end of the document. -/
def byteOffset? (document : String) (offset : Nat) : Option Nat :=
  if offset = 0 then some 0
  else
    match (placedFrom 0 document.toList)[offset]? with
    | some (byte, _) => some byte
    | none => if document.length = offset then some document.utf8ByteSize else none

/-- The characters before and after the cursor. -/
def splitAtCursor (document : String) (cursor : Nat) :
    Except CompletionError (List Char × List Char) :=
  match byteOffset? document cursor with
  | some byte => .ok (splitAtByte byte document.toList)
  | none => .error (.offsetOutOfRange cursor document.length)

/-- What a suggestion source is told about the document. -/
structure Context where
  beforeCursor : String
  afterCursor : String
  /-- Number of characters of the document, a blank and the marker. -/
  lengthTag : String
deriving Repr, DecidableEq

/-- The context at the cursor. -/
def extractContext (document : String) (cursor : Nat) (marker : String) :
    Except CompletionError Context := do
  let (before, after) ← splitAtCursor document cursor
  return ⟨.ofList before, .ofList after, document.length.repr ++ " " ++ marker⟩

/-- The last line of a text: what follows the byte of its last newline. -/
def lineAtEnd (text : List Char) : List Char :=
  let start := match lastByte? '\n' text with
    | some byte => byte + 1
    | none => 0
  (splitAtByte start text).2

/-- The current line up to the cursor. -/
def lineAtCursor (document : String) (cursor : Nat) : Except CompletionError String := do
  let (before, _) ← splitAtCursor document cursor
  return .ofList (lineAtEnd before)

/-- Everything up to the cursor, and the part of it on the current line. -/
def typedAtCursor (document : String) (cursor : Nat) : Except CompletionError Typed := do
  let (before, _) ← splitAtCursor document cursor
  return ⟨.ofList before, .ofList (lineAtEnd before)⟩

end InlineCompletion
