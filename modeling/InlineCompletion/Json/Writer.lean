import InlineCompletion.Decimal.Layout
import InlineCompletion.Json.Basic

/-!
Writing a JSON value without blanks. Of the characters of a string only the quote, the backslash and
the controls are escaped.
-/
namespace InlineCompletion.Json
open Decimal

/-- A character as it is written inside a string. -/
def writeChar (c : Char) : List Char :=
  if c = '\x22' then ['\\', '\x22']
  else if c = '\\' then ['\\', '\\']
  else if c = '\x08' then ['\\', 'b']
  else if c = '\t' then ['\\', 't']
  else if c = '\n' then ['\\', 'n']
  else if c = '\x0c' then ['\\', 'f']
  else if c = '\r' then ['\\', 'r']
  else if c.toNat < 0x20 then
    ['\\', 'u', '0', '0', Nat.digitChar (c.toNat / 16), Nat.digitChar (c.toNat % 16)]
  else [c]

/-- A string in writing. -/
def writeString (text : String) : List Char :=
  '\x22' :: text.toList.flatMap writeChar ++ ['\x22']

/-- An integer in writing. -/
def writeInteger (n : Int) : List Char :=
  if n < 0 then '-' :: Nat.toDigits 10 n.natAbs else Nat.toDigits 10 n.natAbs

mutual

/-- A value in writing. A double that is no number is written as null. -/
def write : Json → List Char
  | .null => "null".toList
  | .bool true => "true".toList
  | .bool false => "false".toList
  | .integer n => writeInteger n
  | .double x => if x.isFinite then (writeFloat .data x).toList else "null".toList
  | .string text => writeString text
  | .array [] => ['[', ']']
  | .array (item :: rest) => '[' :: write item ++ writeItems rest
  | .object [] => ['\x7b', '\x7d']
  | .object ((name, value) :: rest) =>
    '\x7b' :: writeString name ++ ':' :: write value ++ writeMembers rest

/-- The remaining items of an array. -/
def writeItems : List Json → List Char
  | [] => [']']
  | item :: rest => ',' :: write item ++ writeItems rest

/-- The remaining members of an object. -/
def writeMembers : List (String × Json) → List Char
  | [] => ['\x7d']
  | (name, value) :: rest => ',' :: writeString name ++ ':' :: write value ++ writeMembers rest

end

/-- The text of a value. -/
def render (value : Json) : String :=
  .ofList (write value)

end InlineCompletion.Json
