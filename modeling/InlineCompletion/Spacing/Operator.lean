import InlineCompletion.Text.Trim

/-!
Operators and the spacing around them. A text is read once, from left to right, into operators and
single characters; it is written again with one blank on each side of every operator. The member
arrow is the one operator that stands without blanks.
-/
namespace InlineCompletion.Spacing
open Text

/-- The characters whose longest runs are operators: `=`, `<`, `>`, `==`, `<=`, `<<`. -/
def isComparison (c : Char) : Bool :=
  c == '=' || c == '<' || c == '>'

/-- The characters that form an operator with a `=` after them. -/
def isCompound (c : Char) : Bool :=
  c == '-' || c == '+' || c == '*' || c == '/' || c == '%' || c == '&' || c == '|' || c == '^' ||
    c == '!'

/-- What a text is read into. -/
inductive Lexeme where
  /-- The member arrow, a compound assignment or a run of comparison characters. -/
  | operator (text : List Char)
  /-- Any other character. -/
  | plain (c : Char)
deriving Repr, DecidableEq

/-- A finished run of comparison characters, which are kept in reverse. -/
def endRun (run : List Char) (rest : List Lexeme) : List Lexeme :=
  match run with
  | [] => rest
  | _ :: _ => .operator run.reverse :: rest

/-- Reading with a run of comparison characters, in reverse, just before the text. The member arrow
is tried first, then a compound assignment, then the run. -/
def lexemesAfter (run : List Char) : List Char → List Lexeme
  | [] => endRun run []
  | [c] => if isComparison c then endRun (c :: run) [] else endRun run [.plain c]
  | c :: next :: rest =>
    if c = '-' ∧ next = '>' then endRun run (.operator [c, next] :: lexemesAfter [] rest)
    else if isCompound c ∧ next = '=' then endRun run (.operator [c, next] :: lexemesAfter [] rest)
    else if isComparison c then lexemesAfter (c :: run) (next :: rest)
    else endRun run (.plain c :: lexemesAfter [] (next :: rest))

/-- A text as operators and single characters, from left to right. -/
def lexemes (text : List Char) : List Lexeme :=
  lexemesAfter [] text

/-- The operators of a text, in order. -/
def operators (text : List Char) : List (List Char) :=
  (lexemes text).filterMap fun
    | .operator op => some op
    | .plain _ => none

/-- Whether a list of lexemes starts with an operator. -/
def startsWithOperator : List Lexeme → Bool
  | .operator _ :: _ => true
  | _ => false

/-- Lexemes without the blanks at the start. -/
def dropBlanks : List Lexeme → List Lexeme
  | .plain c :: rest => if isBlank c then dropBlanks rest else .plain c :: rest
  | rest => rest

/-- A lexeme in front of lexemes that have no blanks next to operators. An operator drops the blanks
it comes to stand before, and a blank before an operator is dropped itself. -/
def prependBare (lexeme : Lexeme) (rest : List Lexeme) : List Lexeme :=
  match lexeme with
  | .operator op => .operator op :: dropBlanks rest
  | .plain c => if isBlank c && startsWithOperator rest then rest else .plain c :: rest

/-- Lexemes without the blanks next to operators. -/
def bareOperators : List Lexeme → List Lexeme
  | [] => []
  | lexeme :: rest => prependBare lexeme (bareOperators rest)

/-- A lexeme in writing: an operator between two blanks, the member arrow and all else as it is. -/
def Lexeme.spaced : Lexeme → List Char
  | .operator op => if op = ['-', '>'] then op else ' ' :: op ++ [' ']
  | .plain c => [c]

/-- A text with one blank on each side of its operators and none at its ends. -/
def respaced (text : List Char) : List Char :=
  trim ((bareOperators (lexemes text)).flatMap Lexeme.spaced)

/-- A string with one blank on each side of its operators and none at its ends. -/
def respaceOperators (text : String) : String :=
  .ofList (respaced text.toList)

end InlineCompletion.Spacing
