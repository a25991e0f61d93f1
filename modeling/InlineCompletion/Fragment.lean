import InlineCompletion.Text.Search
import InlineCompletion.Text.Trim

/-!
The fragment of the line that an inserted text continues. The host replaces the word under the
cursor, so the part of the line that belongs to that word is carried over into the inserted text.
-/
namespace InlineCompletion
open Text

/-- The part of a line after its last dot, trimmed; the whole line when it has no dot. -/
def wordAtEnd (line : List Char) : List Char :=
  match afterLast? '.' line with
  | some word => trim word
  | none => line

/-- The text to insert for a plain entry. After a blank the body stands alone; otherwise the word
before the cursor is kept in front of it. A missing body is empty. -/
def plainInsertText (line : String) (body : Option String) : String :=
  let line := line.toList
  let body := (body.getD "").toList
  .ofList (trim (if line.getLast? = some ' ' then body else wordAtEnd line ++ body))

/-- The fragment of the line that a prompt entry continues: the word at the end of the line, nothing
when it opens a call, and only the value when it is an assignment. -/
def fragmentAtEnd (line : List Char) : List Char :=
  let word := wordAtEnd line
  if word.contains '(' then []
  else if word.contains '=' then trim (afterFirst '=' word)
  else word

/-- The fragment of a line as a string. -/
def reduceLine (line : String) : String :=
  .ofList (fragmentAtEnd line.toList)

/-- The text to insert for a prompt entry with this label. After a blank the label stands alone. -/
def promptInsertText (line label : String) : String :=
  let fragment := fragmentAtEnd line.toList
  if fragment.getLast? = some ' ' then label else .ofList (fragment ++ label.toList)

end InlineCompletion
