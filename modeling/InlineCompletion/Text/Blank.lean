import InlineCompletion.Text.CodePoints

/-!
Blank characters: the Unicode property White_Space, twenty-five characters in ten ranges. Every rule
of this library that speaks of blanks, of trimming or of spacing means this set.
-/
namespace InlineCompletion.Text

/-- The characters of the Unicode property White_Space. -/
def blanks : CodePoints :=
  [(0x09, 0x0D), (0x20, 0x20), (0x85, 0x85), (0xA0, 0xA0), (0x1680, 0x1680), (0x2000, 0x200A),
   (0x2028, 0x2029), (0x202F, 0x202F), (0x205F, 0x205F), (0x3000, 0x3000)]

example : blanks.foldl (fun size range => size + (range.2 + 1 - range.1)) 0 = 25 := by decide

/-- Whether a character is blank. -/
def isBlank (c : Char) : Bool :=
  blanks.contains c

/-- A text without its blanks. -/
def ink (text : List Char) : List Char :=
  text.filter fun c => !isBlank c

end InlineCompletion.Text
