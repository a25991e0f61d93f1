/-!
Places of a text counted in bytes. A text is stored in UTF-8, where a character takes one to four
bytes, so a number of bytes is a place of a text only if a character starts there or the text ends
there.
-/
namespace InlineCompletion.Text

/-- The characters of a text that starts at a byte, each with the byte at which it starts itself. -/
def placedFrom (byte : Nat) : List Char → List (Nat × Char)
  | [] => []
  | c :: rest => (byte, c) :: placedFrom (byte + c.utf8Size) rest

/-- The byte at which the last `mark` of a text starts, if it has one. -/
def lastByte? (mark : Char) (text : List Char) : Option Nat :=
  ((placedFrom 0 text).reverse.find? fun place => place.2 == mark).map Prod.fst

/-- The parts of a text before a byte and from there on. The byte has to be a place of the text. -/
def splitAtByte (byte : Nat) : List Char → List Char × List Char
  | [] => ([], [])
  | c :: rest =>
    if byte = 0 then ([], c :: rest)
    else
      let (before, after) := splitAtByte (byte - c.utf8Size) rest
      (c :: before, after)

end InlineCompletion.Text
