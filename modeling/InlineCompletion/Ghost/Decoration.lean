import InlineCompletion.Settings.Basic
import InlineCompletion.Text.Lines

/-!
Ghost text: a suggestion shown behind the cursor before it is accepted, and how it is drawn.
-/
namespace InlineCompletion.Ghost
open Json

/-- A text to show, and the offset it is attached to. -/
structure GhostText where
  text : String
  anchor : Nat
deriving Repr, DecidableEq

/-- Number of lines a ghost text takes: at least one. -/
def GhostText.lineCount (g : GhostText) : Nat :=
  max (Text.countLines g.text.toList) 1

/-- How a text is slanted. -/
inductive FontStyle where
  | normal
  | italic
deriving Repr, DecidableEq

/-- The font styles by their names. -/
def FontStyle.variants : List (String × FontStyle) :=
  [("normal", .normal), ("italic", .italic)]

/-- The name of a font style. -/
def FontStyle.name : FontStyle → String
  | .normal => "normal"
  | .italic => "italic"

/-- What the host needs to draw a ghost text. -/
structure DecorationSpec where
  contentText : String
  color : String
  fontStyle : FontStyle
deriving Repr, DecidableEq

/-- The color and slant of a style. -/
def styleLook : GhostStyle → String × FontStyle
  | .italic => ("rgba(128, 128, 128, 0.7)", .italic)
  | .faded => ("rgba(128, 128, 128, 0.7)", .normal)
  | .dimmed => ("rgba(128, 128, 128, 0.4)", .normal)

/-- The decoration that shows a ghost text in a style. -/
def decorationFor (ghost : GhostText) (style : GhostStyle) : DecorationSpec :=
  ⟨ghost.text, (styleLook style).1, (styleLook style).2⟩

end InlineCompletion.Ghost
