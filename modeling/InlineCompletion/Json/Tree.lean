import InlineCompletion.Json.Basic
import InlineCompletion.Json.Numeral

/-!
Reading a JSON text. A text is first read into a tree that keeps what is written: all members in
their order, numbers as numerals, and strings even when they hold half of a surrogate pair. Whoever
needs values asks for them; parts of a text that nobody asks for only have to be well formed.
-/
namespace InlineCompletion.Json

/-- A JSON text as it is written. -/
inductive Tree where
  | null
  | bool (value : Bool)
  | number (numeral : Numeral)
  /-- A string, or nothing if it holds half of a surrogate pair. -/
  | string (value : Option String)
  | array (items : List Tree)
  /-- All members in the order of the text, each with its name. -/
  | object (members : List (Option String × Tree))
deriving Inhabited

/-- Blanks between the parts of a JSON text. -/
def isGap (c : Char) : Bool :=
  c == ' ' || c == '\t' || c == '\n' || c == '\r'

/-- A text without the blanks at its start. -/
def skipGaps (text : List Char) : List Char :=
  text.dropWhile isGap

/-- The longest run of decimal digits at the start of a text, and what follows it. -/
def readDigits : List Char → List Nat × List Char
  | [] => ([], [])
  | c :: rest =>
    match Text.decimalDigit? c with
    | some digit =>
      let (digits, after) := readDigits rest
      (digit :: digits, after)
    | none => ([], c :: rest)

/-- A run of digits that is not empty. -/
def readSomeDigits (text : List Char) : Option (List Nat × List Char) :=
  match readDigits text with
  | ([], _) => none
  | read => some read

/-- The whole part of a number: a single zero, or digits that do not start with one. -/
def readWhole (text : List Char) : Option (List Nat × List Char) :=
  match readDigits text with
  | ([], _) => none
  | (0 :: _ :: _, _) => none
  | read => some read

/-- The fraction of a number, if there is one. -/
def readFraction : List Char → Option (Option (List Nat) × List Char)
  | '.' :: rest => (readSomeDigits rest).map fun read => (some read.1, read.2)
  | text => some (none, text)

/-- The sign of an exponent: whether it is negative. -/
def readSign : List Char → Bool × List Char
  | '-' :: rest => (true, rest)
  | '+' :: rest => (false, rest)
  | text => (false, text)

/-- The exponent of a number, if there is one. -/
def readExponent : List Char → Option (Option (Bool × List Nat) × List Char)
  | c :: rest =>
    if c = 'e' ∨ c = 'E' then
      let (negative, digits) := readSign rest
      (readSomeDigits digits).map fun read => (some (negative, read.1), read.2)
    else some (none, c :: rest)
  | [] => some (none, [])

/-- A number behind its sign. -/
def readMagnitude (negative : Bool) (text : List Char) : Option (Numeral × List Char) := do
  let (whole, rest) ← readWhole text
  let (fraction, rest) ← readFraction rest
  let (exponent, rest) ← readExponent rest
  return (⟨negative, whole, fraction, exponent⟩, rest)

/-- A number. -/
def readNumeral : List Char → Option (Numeral × List Char)
  | '-' :: rest => readMagnitude true rest
  | text => readMagnitude false text

/-- The character that a backslash and this character stand for. -/
def escaped? (c : Char) : Option Char :=
  if c = '\x22' ∨ c = '\\' ∨ c = '/' then some c
  else if c = 'b' then some '\x08'
  else if c = 'f' then some '\x0c'
  else if c = 'n' then some '\n'
  else if c = 'r' then some '\r'
  else if c = 't' then some '\t'
  else none

/-- The rest of a string behind its opening quote, as numbers: code points, or halves of surrogate
pairs where they are written as such. -/
def readUnits : List Char → Option (List Nat × List Char)
  | [] => none
  | '\\' :: 'u' :: a :: b :: c :: d :: rest => do
    let unit ← Text.number? 16 [a, b, c, d]
    let (units, rest) ← readUnits rest
    return (unit :: units, rest)
  | '\\' :: c :: rest => do
    let char ← escaped? c
    let (units, rest) ← readUnits rest
    return (char.toNat :: units, rest)
  | c :: rest =>
    if c = '\x22' then some ([], rest)
    else if c.toNat < 0x20 ∨ c = '\\' then none
    else do
      let (units, rest) ← readUnits rest
      return (c.toNat :: units, rest)

/-- Whether a number is the first half of a surrogate pair. -/
def isFirstHalf (unit : Nat) : Bool :=
  0xD800 ≤ unit && unit < 0xDC00

/-- Whether a number is the second half of a surrogate pair. -/
def isSecondHalf (unit : Nat) : Bool :=
  0xDC00 ≤ unit && unit < 0xE000

/-- The text of code points and surrogate pairs. A half without its other half has no text. -/
def joinUnits : List Nat → Option (List Char)
  | [] => some []
  | [unit] => if isFirstHalf unit || isSecondHalf unit then none else some [Char.ofNat unit]
  | first :: second :: rest =>
    if isFirstHalf first then
      if isSecondHalf second then
        (joinUnits rest).map fun text =>
          Char.ofNat (0x10000 + (first - 0xD800) * 0x400 + (second - 0xDC00)) :: text
      else none
    else if isSecondHalf first then none
    else (joinUnits (second :: rest)).map fun text => Char.ofNat first :: text

/-- The rest of a string behind its opening quote. -/
def readString (text : List Char) : Option (Option String × List Char) :=
  (readUnits text).map fun read => ((joinUnits read.1).map String.ofList, read.2)

mutual

/-- A value at the start of a text. `fuel` bounds the nesting. -/
def readTree : Nat → List Char → Option (Tree × List Char)
  | 0, _ => none
  | fuel + 1, text =>
    match text with
    | 'n' :: 'u' :: 'l' :: 'l' :: rest => some (.null, rest)
    | 't' :: 'r' :: 'u' :: 'e' :: rest => some (.bool true, rest)
    | 'f' :: 'a' :: 'l' :: 's' :: 'e' :: rest => some (.bool false, rest)
    | c :: rest =>
      if c = '\x22' then (readString rest).map fun read => (.string read.1, read.2)
      else if c = '[' then
        match skipGaps rest with
        | ']' :: rest => some (.array [], rest)
        | rest => (readItems fuel rest).map fun read => (.array read.1, read.2)
      else if c = '\x7b' then
        match skipGaps rest with
        | '\x7d' :: rest => some (.object [], rest)
        | rest => (readMembers fuel rest).map fun read => (.object read.1, read.2)
      else (readNumeral (c :: rest)).map fun read => (.number read.1, read.2)
    | [] => none

/-- The items of an array from one of them on. -/
def readItems : Nat → List Char → Option (List Tree × List Char)
  | 0, _ => none
  | fuel + 1, text => do
    let (item, rest) ← readTree fuel (skipGaps text)
    match skipGaps rest with
    | ',' :: rest => do
      let (items, rest) ← readItems fuel rest
      return (item :: items, rest)
    | ']' :: rest => return ([item], rest)
    | _ => none

/-- The members of an object from one of them on. -/
def readMembers : Nat → List Char → Option (List (Option String × Tree) × List Char)
  | 0, _ => none
  | fuel + 1, text =>
    match skipGaps text with
    | '\x22' :: rest => do
      let (name, rest) ← readString rest
      match skipGaps rest with
      | ':' :: rest => do
        let (value, rest) ← readTree fuel (skipGaps rest)
        match skipGaps rest with
        | ',' :: rest => do
          let (members, rest) ← readMembers fuel rest
          return ((name, value) :: members, rest)
        | '\x7d' :: rest => return ([(name, value)], rest)
        | _ => none
      | _ => none
    | _ => none

end

/-- The tree of a whole text: one value with nothing but blanks around it. Each level of nesting,
item and member takes at least one character, so the length of the text bounds them. -/
def parseTree? (text : String) : Option Tree := do
  let (tree, rest) ← readTree (text.toList.length + 1) (skipGaps text.toList)
  if (skipGaps rest).isEmpty then some tree else none

mutual

/-- The value of a tree, unless it holds a number beyond the doubles or half of a surrogate pair.
Its objects are sorted by name, and of members with one name the last is kept. -/
def Tree.value? : Tree → Option Json
  | .null => some .null
  | .bool value => some (.bool value)
  | .number numeral =>
    numeral.value?.map fun
      | .integer value => .integer value
      | .double value => .double value
  | .string value => value.map .string
  | .array items => (itemValues? items).map .array
  | .object members => (memberValues? members).map .ofMembers

/-- The values of items, in order. -/
def itemValues? : List Tree → Option (List Json)
  | [] => some []
  | item :: rest => do
    let value ← item.value?
    let values ← itemValues? rest
    return value :: values

/-- The names and values of members, in order. -/
def memberValues? : List (Option String × Tree) → Option (List (String × Json))
  | [] => some []
  | (name, item) :: rest => do
    let name ← name
    let value ← item.value?
    let values ← memberValues? rest
    return (name, value) :: values

end

/-- The value of a JSON text. -/
def parse? (text : String) : Option Json := do
  (← parseTree? text).value?

end InlineCompletion.Json
