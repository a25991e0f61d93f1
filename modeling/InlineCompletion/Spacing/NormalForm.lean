import InlineCompletion.Text.Trim

/-!
The normal form of a text under irrelevant spacing. Blanks next to a parenthesis or a comparison
character carry no meaning, nor do blanks at the ends of a text. Two fragments of code are compared
by their normal forms. An echo is also taken out of the normal form of a body, and what is left of it
is respaced and inserted; so of the blanks that the normal form drops only those reach the editor that
respacing puts back around an operator.
-/
namespace InlineCompletion.Spacing
open Text

/-- The characters around which blanks carry no meaning. -/
def isTight (c : Char) : Bool :=
  c == '(' || c == ')' || c == '=' || c == '<' || c == '>'

/-- Whether a text starts with a tight character. -/
def startsTight : List Char → Bool
  | [] => false
  | c :: _ => isTight c

/-- A character in front of a text that has no blanks next to its tight characters. A tight
character drops the blanks it comes to stand before, and a blank before a tight character is dropped
itself. -/
def prependTight (c : Char) (text : List Char) : List Char :=
  if isTight c then c :: trimStart text
  else if isBlank c && startsTight text then text
  else c :: text

/-- A text without the blanks next to its tight characters. A run of blanks goes as a whole. -/
def tighten : List Char → List Char
  | [] => []
  | c :: rest => prependTight c (tighten rest)

/-- The normal form: no blank next to a tight character and none at the ends. -/
def normalForm (text : List Char) : List Char :=
  trim (tighten text)

/-- The normal form of a string. -/
def normalize (text : String) : String :=
  .ofList (normalForm text.toList)

/-- One change of irrelevant spacing: a single blank is inserted next to a tight character or at an
end of the text. Read backwards it is the deletion of such a blank. -/
inductive Loosens : List Char → List Char → Prop where
  | afterTight (before after : List Char) (mark blank : Char) (tight : isTight mark = true)
      (space : isBlank blank = true) :
      Loosens (before ++ mark :: after) (before ++ mark :: blank :: after)
  | beforeTight (before after : List Char) (mark blank : Char) (tight : isTight mark = true)
      (space : isBlank blank = true) :
      Loosens (before ++ mark :: after) (before ++ blank :: mark :: after)
  | atStart (text : List Char) (blank : Char) (space : isBlank blank = true) :
      Loosens text (blank :: text)
  | atEnd (text : List Char) (blank : Char) (space : isBlank blank = true) :
      Loosens text (text ++ [blank])

/-- Texts that finitely many changes of irrelevant spacing turn into one another. -/
inductive SpacingEquivalent : List Char → List Char → Prop where
  | refl (text : List Char) : SpacingEquivalent text text
  | loosen {text looser other : List Char} (step : Loosens text looser)
      (rest : SpacingEquivalent looser other) : SpacingEquivalent text other
  | tighten {looser text other : List Char} (step : Loosens text looser)
      (rest : SpacingEquivalent text other) : SpacingEquivalent looser other

end InlineCompletion.Spacing
