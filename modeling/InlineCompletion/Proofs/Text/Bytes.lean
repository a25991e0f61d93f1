import InlineCompletion.Proofs.Text.Marks
import InlineCompletion.Text.Bytes

/-!
Cutting a text by bytes. The place behind some characters is the number of bytes that they take, and
cutting a text there gives back these characters, however many bytes each of them takes.
-/
namespace InlineCompletion.Text
variable {mark c : Char} {text front rest before after : List Char} {byte : Nat}

/-- The bytes that characters take. -/
def byteLength : List Char → Nat
  | [] => 0
  | c :: rest => c.utf8Size + byteLength rest

@[simp] theorem byteLength_nil : byteLength [] = 0 := rfl

@[simp] theorem byteLength_cons (c : Char) (rest : List Char) :
    byteLength (c :: rest) = c.utf8Size + byteLength rest := rfl

@[simp] theorem byteLength_append (front rest : List Char) :
    byteLength (front ++ rest) = byteLength front + byteLength rest := by
  induction front with
  | nil => simp
  | cons c front ih => rw [List.cons_append, byteLength_cons, byteLength_cons, ih, Nat.add_assoc]

theorem byteLength_pos (present : text ≠ []) : 0 < byteLength text := by
  cases text with
  | nil => exact absurd rfl present
  | cons c rest =>
    have := c.utf8Size_pos
    rw [byteLength_cons]
    omega

theorem utf8ByteSize_ofList (text : List Char) :
    (String.ofList text).utf8ByteSize = byteLength text := by
  induction text with
  | nil => rfl
  | cons c rest ih =>
    rw [← List.singleton_append, String.ofList_append, String.utf8ByteSize_append, ih,
      ← String.singleton_eq_ofList, String.utf8ByteSize_singleton, List.singleton_append,
      byteLength_cons]

/-- More characters take more bytes. -/
theorem byteLength_take_lt {m n : Nat} (less : m < n) (within : n ≤ text.length) :
    byteLength (text.take m) < byteLength (text.take n) := by
  have present : (text.drop m).take (n - m) ≠ [] := by
    rw [← List.length_pos_iff, List.length_take, List.length_drop]
    omega
  have more := byteLength_pos present
  have split : text.take n = text.take m ++ (text.drop m).take (n - m) := by
    rw [← List.take_add, Nat.add_sub_cancel' (Nat.le_of_lt less)]
  rw [split, byteLength_append]
  omega

/-! ### Places -/

theorem placedFrom_append (byte : Nat) (front rest : List Char) :
    placedFrom byte (front ++ rest) =
      placedFrom byte front ++ placedFrom (byte + byteLength front) rest := by
  induction front generalizing byte with
  | nil => rfl
  | cons c front ih =>
    rw [List.cons_append, placedFrom, placedFrom, ih, byteLength_cons, Nat.add_assoc,
      List.cons_append]

theorem map_snd_placedFrom (byte : Nat) (text : List Char) :
    (placedFrom byte text).map Prod.snd = text := by
  induction text generalizing byte with
  | nil => rfl
  | cons c rest ih => rw [placedFrom, List.map_cons, ih]

/-- A character starts behind the bytes of the characters in front of it. -/
theorem placedFrom_getElem? (byte : Nat) (text : List Char) (n : Nat) :
    (placedFrom byte text)[n]? =
      text[n]?.map fun c => (byte + byteLength (text.take n), c) := by
  induction text generalizing byte n with
  | nil => rfl
  | cons c rest ih =>
    cases n with
    | zero => rfl
    | succ n => simp [placedFrom, ih, Nat.add_assoc]

theorem find?_placedFrom_unmarked (byte : Nat) (unmarked : mark ∉ text) :
    (placedFrom byte text).reverse.find? (fun place => place.2 == mark) = none := by
  rw [List.find?_eq_none]
  intro place inside found
  have same : place.2 = mark := by simpa using found
  refine unmarked (same ▸ ?_)
  rw [← map_snd_placedFrom byte text]
  exact List.mem_map_of_mem (List.mem_reverse.mp inside)

theorem lastByte?_unmarked (unmarked : mark ∉ text) : lastByte? mark text = none := by
  rw [lastByte?, find?_placedFrom_unmarked 0 unmarked, Option.map_none]

/-- The last mark of a text starts behind the bytes of all that is in front of it. -/
theorem lastByte?_marked (front : List Char) (unmarked : mark ∉ rest) :
    lastByte? mark (front ++ mark :: rest) = some (byteLength front) := by
  rw [lastByte?, placedFrom_append, placedFrom, List.reverse_append, List.reverse_cons,
    List.append_assoc, List.find?_append, find?_placedFrom_unmarked _ unmarked]
  simp

/-- A text is cut behind its first characters at the byte behind them. -/
theorem splitAtByte_append (before after : List Char) :
    splitAtByte (byteLength before) (before ++ after) = (before, after) := by
  induction before with
  | nil => cases after <;> rfl
  | cons c before ih =>
    have present : byteLength (c :: before) ≠ 0 := Nat.ne_of_gt (byteLength_pos (by simp))
    rw [List.cons_append, splitAtByte, if_neg present, byteLength_cons, Nat.add_sub_cancel_left, ih]

end InlineCompletion.Text
