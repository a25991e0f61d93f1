import InlineCompletion.Text.Search

/-!
Lines of a text. A newline ends a line; a text that ends in a newline has no further, empty line.
-/
namespace InlineCompletion.Text

/-- The part of a text after its last newline: the line that its end stands on. -/
def lastLine (text : List Char) : List Char :=
  (afterLast? '\n' text).getD text

/-- Number of lines of a text: one for each newline, and one for what follows the last of them. -/
def countLines (text : List Char) : Nat :=
  text.count '\n' + (if (lastLine text).isEmpty then 0 else 1)

end InlineCompletion.Text
