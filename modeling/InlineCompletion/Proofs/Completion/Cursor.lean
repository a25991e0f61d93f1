import InlineCompletion.Cursor
import InlineCompletion.Proofs.Text.Bytes

/-!
The cursor in a document. An offset in characters becomes the number of bytes that the characters
take, which is always a place between two characters; so the parts of a document at its cursor are
whole, and all that is read off at the cursor is read off the same parts. What is typed on the
current line is the longest end of the text before the cursor without a newline.
-/
namespace InlineCompletion
open Text

/-- The part of a text behind its last mark: the longest end of the text without a mark. -/
structure LastPiece (mark : Char) (text piece : List Char) : Prop where
  ends : piece <:+ text
  unmarked : mark ∉ piece
  longest : ∀ other, other <:+ text → mark ∉ other → other <:+ piece

section
variable {document : String} {cursor : Nat}

/-! ### Offsets -/

/-- The byte of an offset is the number of bytes in front of it. -/
theorem byteOffset?_eq (document : String) (offset : Nat) :
    byteOffset? document offset =
      if offset ≤ document.length then some (byteLength (document.toList.take offset))
      else none := by
  rw [byteOffset?, placedFrom_getElem?, ← String.length_toList]
  by_cases start : offset = 0
  case pos => simp [start]
  case neg =>
    rw [if_neg start]
    rcases Nat.lt_trichotomy offset document.toList.length with inside | atEnd | beyond
    case inl => simp [List.getElem?_eq_getElem inside, Nat.le_of_lt inside]
    case inr.inl =>
      have whole : document.utf8ByteSize = byteLength document.toList := by
        rw [← utf8ByteSize_ofList, String.ofList_toList]
      simp [atEnd, whole]
    case inr.inr =>
      simp [List.getElem?_eq_none (Nat.le_of_lt beyond), Nat.not_le.mpr beyond, Nat.ne_of_lt beyond]

/-- A cursor within the document splits its characters. -/
theorem splitAtCursor_within (within : cursor ≤ document.length) :
    splitAtCursor document cursor =
      .ok (document.toList.take cursor, document.toList.drop cursor) := by
  rw [splitAtCursor, byteOffset?_eq, if_pos within]
  have cut := splitAtByte_append (document.toList.take cursor) (document.toList.drop cursor)
  rw [List.take_append_drop] at cut
  exact congrArg Except.ok cut

/-- A cursor behind the end of the document is refused. -/
theorem splitAtCursor_beyond (beyond : document.length < cursor) :
    splitAtCursor document cursor = .error (.offsetOutOfRange cursor document.length) := by
  rw [splitAtCursor, byteOffset?_eq, if_neg (Nat.not_le.mpr beyond)]

/-! ### Lines -/

/-- The line at the end of a text is what follows its last newline. -/
theorem lineAtEnd_lastPiece (text : List Char) : LastPiece '\n' text (lineAtEnd text) := by
  cases found : afterLast? '\n' text with
  | none =>
    have unmarked := afterLast?_eq_none_iff.mp found
    have line : lineAtEnd text = text := by
      rw [lineAtEnd, lastByte?_unmarked unmarked]
      exact congrArg Prod.snd (splitAtByte_append [] text)
    rw [line]
    exact ⟨List.suffix_refl text, unmarked, fun other ends _ => ends⟩
  | some rest =>
    obtain ⟨front, rfl, unmarked⟩ := afterLast?_eq_some_iff.mp found
    have behind : byteLength front + 1 = byteLength (front ++ ['\n']) := by
      rw [byteLength_append]
      rfl
    have line : lineAtEnd (front ++ '\n' :: rest) = rest := by
      rw [lineAtEnd, lastByte?_marked front unmarked, List.append_cons]
      dsimp only
      rw [behind, splitAtByte_append]
    rw [line]
    exact ⟨(List.suffix_cons '\n' rest).trans (List.suffix_append front _), unmarked,
      fun other ends lone => (suffix_behind_mark lone front rest).mp ends⟩

/-! ### At the cursor -/

/-- Whatever is read off at the cursor, a cursor behind the end is refused in the same way. -/
theorem refused_beyond (beyond : document.length < cursor) (marker : String) :
    extractContext document cursor marker = .error (.offsetOutOfRange cursor document.length) ∧
      lineAtCursor document cursor = .error (.offsetOutOfRange cursor document.length) ∧
      typedAtCursor document cursor = .error (.offsetOutOfRange cursor document.length) := by
  rw [extractContext, lineAtCursor, typedAtCursor, splitAtCursor_beyond beyond]
  exact ⟨rfl, rfl, rfl⟩

/-- What is read off a document at its cursor. -/
structure ReadAt (document : String) (cursor : Nat) (marker : String) (context : Context)
    (line : String) (typed : Typed) : Prop where
  whole : context.beforeCursor ++ context.afterCursor = document
  characters : context.beforeCursor.length = cursor
  bytes : byteOffset? document cursor = some context.beforeCursor.utf8ByteSize
  lengthTag : context.lengthTag = document.length.repr ++ " " ++ marker
  resolved : typed.resolved = context.beforeCursor
  sameLine : typed.line = line
  lastLine : LastPiece '\n' context.beforeCursor.toList line.toList

theorem readAt_within (within : cursor ≤ document.length) (marker : String) :
    ∃ context line typed, extractContext document cursor marker = .ok context ∧
      lineAtCursor document cursor = .ok line ∧ typedAtCursor document cursor = .ok typed ∧
      ReadAt document cursor marker context line typed := by
  have split := splitAtCursor_within within
  refine ⟨_, _, _, by rw [extractContext, split]; rfl, by rw [lineAtCursor, split]; rfl,
    by rw [typedAtCursor, split]; rfl, ?_⟩
  constructor
  case whole => rw [← String.ofList_append, List.take_append_drop, String.ofList_toList]
  case characters =>
    rw [String.length_ofList, List.length_take, String.length_toList, Nat.min_eq_left within]
  case bytes => rw [byteOffset?_eq, if_pos within, utf8ByteSize_ofList]
  case lengthTag => rfl
  case resolved => rfl
  case sameLine => rfl
  case lastLine =>
    rw [String.toList_ofList, String.toList_ofList]
    exact lineAtEnd_lastPiece _

end

/-- How a document is split at any cursor. -/
structure CursorSplit (document : String) (cursor : Nat) (marker : String) : Prop where
  offsets : ∀ n, byteOffset? document n =
    if n ≤ document.length then some (String.ofList (document.toList.take n)).utf8ByteSize
    else none
  increasing : ∀ {m n byte later}, m < n → byteOffset? document m = some byte →
    byteOffset? document n = some later → byte < later
  /-- The offsets in bytes are just the places between characters. -/
  places : ∀ byte, (∃ n, byteOffset? document n = some byte) ↔
    (⟨byte⟩ : String.Pos.Raw).IsValid document
  refused : document.length < cursor →
    extractContext document cursor marker = .error (.offsetOutOfRange cursor document.length) ∧
    lineAtCursor document cursor = .error (.offsetOutOfRange cursor document.length) ∧
    typedAtCursor document cursor = .error (.offsetOutOfRange cursor document.length)
  read : cursor ≤ document.length →
    ∃ context line typed, extractContext document cursor marker = .ok context ∧
      lineAtCursor document cursor = .ok line ∧ typedAtCursor document cursor = .ok typed ∧
      ReadAt document cursor marker context line typed

/-- Offsets in characters and in bytes agree, and every way of splitting a document at its cursor
gives the same parts or is refused alike. -/
theorem cursor_split_exact (document : String) (cursor : Nat) (marker : String) :
    CursorSplit document cursor marker := by
  constructor
  case offsets =>
    intro n
    rw [byteOffset?_eq, utf8ByteSize_ofList]
  case increasing =>
    intro m n byte later less found foundLater
    rw [byteOffset?_eq, Option.ite_none_right_eq_some, Option.some.injEq] at found foundLater
    obtain ⟨-, rfl⟩ := found
    obtain ⟨within, rfl⟩ := foundLater
    exact byteLength_take_lt less (String.length_toList ▸ within)
  case places =>
    intro byte
    rw [String.Pos.Raw.isValid_iff_exists_take_toList]
    constructor
    · rintro ⟨n, found⟩
      rw [byteOffset?_eq, Option.ite_none_right_eq_some, Option.some.injEq] at found
      exact ⟨n, by rw [utf8ByteSize_ofList, found.2]⟩
    · rintro ⟨n, same⟩
      refine ⟨min n document.length, ?_⟩
      rw [byteOffset?_eq, if_pos (Nat.min_le_right ..), ← String.length_toList,
        ← List.take_eq_take_min]
      exact congrArg some ((utf8ByteSize_ofList _).symm.trans same.symm)
  case refused => exact fun beyond => refused_beyond beyond marker
  case read => exact fun within => readAt_within within marker

/-- Characters of four, two and one bytes before the cursor, and a newline behind the first. -/
example : byteOffset? "😀\né1" 4 = some 8 ∧ lineAtCursor "😀\né1;" 4 = .ok "é1" := by
  decide +kernel

end InlineCompletion
