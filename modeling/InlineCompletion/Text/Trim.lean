import InlineCompletion.Text.Blank

/-!
Trimming removes the blanks at the ends of a text and leaves the blanks inside it alone.
-/
namespace InlineCompletion.Text

/-- A text without its leading blanks. -/
def trimStart (text : List Char) : List Char :=
  text.dropWhile isBlank

/-- A text without its trailing blanks. -/
def trimEnd : List Char → List Char
  | [] => []
  | c :: rest =>
    match trimEnd rest with
    | [] => if isBlank c then [] else [c]
    | kept :: others => c :: kept :: others

/-- A text without the blanks at either end. -/
def trim (text : List Char) : List Char :=
  trimEnd (trimStart text)

/-- A string without the blanks at either end. -/
def trimmed (text : String) : String :=
  .ofList (trim text.toList)

/-- Whether a string holds nothing but blanks. -/
def isBlankText (text : String) : Bool :=
  text.toList.all isBlank

end InlineCompletion.Text
