import InlineCompletion.Error
import InlineCompletion.Spacing.NormalForm
import InlineCompletion.Spacing.Operator
import InlineCompletion.Text.Search

/-!
Removing the echo of what is already typed from a generated body. A generator tends to repeat the
label of its candidate, and sometimes the whole program so far. The echo is looked for in the normal
form of the body, one rule after the other, each rule on what the one before it left; what remains
is spaced again and cut down to its first statement.
-/
namespace InlineCompletion
open Text Spacing

/-- The rules that remove an echo. -/
inductive EchoRule where
  /-- What is typed is just the object marker, with or without a dot after it. -/
  | sentinelMarker
  /-- The label of the candidate. -/
  | labelEcho
  /-- Everything typed up to the cursor. -/
  | fullPrefix
  /-- The current line up to the cursor. -/
  | linePrefix
deriving Repr, DecidableEq

/-- The name of a rule. -/
def EchoRule.name : EchoRule → String
  | .sentinelMarker => "SentinelMarker"
  | .labelEcho => "LabelEcho"
  | .fullPrefix => "FullPrefix"
  | .linePrefix => "LinePrefix"

/-- What is typed before the cursor: all of it, and the part on the current line. -/
structure Typed where
  resolved : String
  line : String
deriving Repr, DecidableEq

/-- A body without its echo. -/
structure Reconciled where
  /-- The text to insert: at most one statement. -/
  insertText : String
  /-- The rules that removed something, in the order in which they ran. -/
  rules : List EchoRule
  /-- Whether something after the first statement was cut off. -/
  truncated : Bool
deriving Repr, DecidableEq

/-- Whether no rule removed anything. -/
def Reconciled.isUnmodified (r : Reconciled) : Bool :=
  r.rules.isEmpty

/-- A text up to and including its first semicolon, and whether anything follows that. -/
def cutStatement : List Char → List Char × Bool
  | [] => ([], false)
  | c :: rest =>
    if c = ';' then ([c], !rest.isEmpty)
    else
      let (statement, truncated) := cutStatement rest
      (c :: statement, truncated)

/-- Whether a text is the marker, with or without a dot after it. The empty marker is never met. -/
def isSentinel (marker text : List Char) : Bool :=
  !marker.isEmpty && (text == marker || text == marker ++ ['.'])

/-- A text on its way through the rules, with the rules that have removed something so far. -/
structure Stripped where
  text : List Char
  rules : List EchoRule

/-- One rule: the first occurrence of `echo` is removed and the rule is recorded, or else nothing
changes. -/
def Stripped.strip (rule : EchoRule) (echo : List Char) (s : Stripped) : Stripped :=
  match removeFirst? echo s.text with
  | some rest => ⟨rest, s.rules ++ [rule]⟩
  | none => s

/-- The object marker is removed when it is all that is typed. -/
def Stripped.stripSentinel (marker resolved : List Char) (s : Stripped) : Stripped :=
  if isSentinel marker resolved then s.strip .sentinelMarker resolved else s

/-- The label is removed together with the blanks that this leaves at the start. -/
def Stripped.stripLabel (label : List Char) (s : Stripped) : Stripped :=
  match removeFirst? label s.text with
  | some rest => ⟨trimStart rest, s.rules ++ [.labelEcho]⟩
  | none => s

/-- What is typed is removed; only if it does not occur, the line is. -/
def Stripped.stripTyped (resolved line : List Char) (s : Stripped) : Stripped :=
  match removeFirst? resolved s.text with
  | some rest => ⟨rest, s.rules ++ [.fullPrefix]⟩
  | none => s.strip .linePrefix line

/-- All rules in their order, on normal forms. -/
def stripEcho (marker label resolved line body : List Char) : Stripped :=
  (((Stripped.mk body []).stripSentinel marker resolved).stripLabel label).stripTyped resolved line

/-- The text to insert for a body and what the rules removed from it. -/
def reconcileBody (marker label body : String) (typed : Typed) : Reconciled :=
  let stripped :=
    stripEcho marker.toList (normalForm label.toList) (normalForm typed.resolved.toList)
      (normalForm typed.line.toList) (normalForm body.toList)
  let statement := cutStatement (respaced stripped.text)
  ⟨.ofList statement.1, stripped.rules, statement.2⟩

/-- Reconciliation fails for a candidate without a body, and only then. -/
def reconcile (marker label : String) (body : Option String) (typed : Typed) :
    Except CompletionError Reconciled :=
  match body with
  | none => .error (.noUsableResponse label)
  | some body => .ok (reconcileBody marker label body typed)

end InlineCompletion
