import InlineCompletion.Text.Unprintable

/-!
Text in quotes for a message. A quote, a backslash and the common controls are written with a
backslash; any other character that does not print on its own is written by its code point.
-/
namespace InlineCompletion.Text

/-- The digits of a number in base sixteen, lower case and without leading zeros. -/
def hexDigits (n : Nat) : List Char :=
  Nat.toDigits 16 n

/-- One character as it is written between quotes. -/
def quotedChar (c : Char) : List Char :=
  if c = '\x00' then ['\\', '0']
  else if c = '\t' then ['\\', 't']
  else if c = '\r' then ['\\', 'r']
  else if c = '\n' then ['\\', 'n']
  else if c = '\\' then ['\\', '\\']
  else if c = '\x22' then ['\\', '\x22']
  else if unprintable.contains c then ['\\', 'u', '\x7b'] ++ hexDigits c.toNat ++ ['\x7d']
  else [c]

/-- A string in quotes. -/
def quoted (text : String) : String :=
  .ofList ('\x22' :: text.toList.flatMap quotedChar ++ ['\x22'])

end InlineCompletion.Text
