import InlineCompletion.Yaml.Scalar

/-!
YAML texts as tokens. Besides the marks that are written, the tokens hold the starts and ends of
block collections, which are read off the indentation, and the mark of each key: a key on one line
is only known for one when the colon behind it is met, so its marks are put in front of it then.
-/
namespace InlineCompletion.Yaml

/-- A tag: the handle that stands for its first part, and the rest as bytes. -/
structure Tag where
  handle : List Char
  suffix : List UInt8
deriving Repr, DecidableEq

/-- The parts of a YAML text. -/
inductive Token where
  | version (major minor : Nat)
  | tagHandle (handle : List Char) (meaning : List UInt8)
  | documentStart
  | documentEnd
  | blockSequenceStart
  | blockMappingStart
  | blockEnd
  | flowSequenceStart
  | flowSequenceEnd
  | flowMappingStart
  | flowMappingEnd
  | blockEntry
  | flowEntry
  | key
  | value
  | alias (name : List Char)
  | anchor (name : List Char)
  | tag (tag : Tag)
  | scalar (isPlain : Bool) (text : List Char)
deriving Repr, DecidableEq

/-- A place where a key on one line may have started. -/
structure KeyStart where
  /-- Number of tokens before it. -/
  tokens : Nat
  /-- Whether only a key can stand there: it is the first on its line, at the column of its
  mapping. -/
  required : Bool
  index : Nat
  line : Nat
  column : Nat
deriving Repr

/-- Reading on its way. -/
structure Scan where
  place : Place
  /-- The column of the innermost block collection, if any. -/
  indent : Option Nat
  /-- Those of the collections around it, from the inside. -/
  outer : List (Option Nat)
  /-- Whether a key on one line may start here. -/
  keyAllowed : Bool
  /-- The possible start of a key outside of all flow collections and then in each of them, from the
  inside. -/
  keys : List (Option KeyStart)
  /-- The tokens so far, in reverse. -/
  tokens : List Token

/-- Before the first token. -/
def Scan.start (text : List Char) : Scan :=
  ⟨.start text, none, [], true, [none], []⟩

/-- Number of flow collections around the place. -/
def Scan.flowDepth (s : Scan) : Nat :=
  s.keys.length - 1

/-- Whether the place is inside a flow collection. -/
def Scan.inFlow (s : Scan) : Bool :=
  s.flowDepth != 0

/-- What a scalar at this place has to know. -/
def Scan.surroundings (s : Scan) : Surroundings :=
  ⟨s.indent, s.inFlow⟩

/-- One more token. -/
def Scan.emit (token : Token) (s : Scan) : Scan :=
  { s with tokens := token :: s.tokens }

/-- A token in front of all but the first `count` tokens. -/
def Scan.insertAt (count : Nat) (token : Token) (s : Scan) : Scan :=
  let later := s.tokens.length - count
  { s with tokens := s.tokens.take later ++ token :: s.tokens.drop later }

/-- Whether a column lies inside a collection's. Without a collection every column does. -/
def isInside (column : Nat) : Option Nat → Bool
  | none => true
  | some indent => indent < column

/-- Ends the block collections from the inside as long as their column is greater than `column`; all
of them if no column is given. -/
def closeBlocks (column : Option Nat) : List (Option Nat) → Option Nat → List Token →
    Option Nat × List (Option Nat) × List Token
  | outer, none, tokens => (none, outer, tokens)
  | [], some indent, tokens => (some indent, [], tokens)
  | around :: outer, some indent, tokens =>
    if isInside indent column then closeBlocks column outer around (.blockEnd :: tokens)
    else (some indent, around :: outer, tokens)

/-- Ends the block collections that do not reach this column. Inside a flow collection the
indentation does not count. -/
def Scan.unroll (column : Option Nat) (s : Scan) : Scan :=
  if s.inFlow then s
  else
    let (indent, outer, tokens) := closeBlocks column s.outer s.indent s.tokens
    { s with indent, outer, tokens }

/-- Starts a block collection at a column inside of the present one; its token goes in front of all
but the first `count` tokens. -/
def Scan.roll (column count : Nat) (token : Token) (s : Scan) : Scan :=
  if s.inFlow || !isInside column s.indent then s
  else { s.insertAt count token with indent := some column, outer := s.indent :: s.outer }

/-- The possible start of a key at this level. -/
def Scan.key? (s : Scan) : Option KeyStart :=
  s.keys.head?.join

/-- The possible start of a key at this level replaced. -/
def Scan.setKey (key : Option KeyStart) (s : Scan) : Scan :=
  { s with keys := key :: s.keys.drop 1 }

/-- Gives up the possible start of a key at this level, unless a key is required there. -/
def Scan.dropKey (s : Scan) : Option Scan :=
  match s.key? with
  | some key => if key.required then none else some (s.setKey none)
  | none => some s

/-- Notes this place as the possible start of a key, if one may start here. -/
def Scan.noteKey (s : Scan) : Option Scan :=
  if s.keyAllowed then do
    let required := !s.inFlow && s.indent == some s.place.column
    let dropped ← s.dropKey
    let start : KeyStart :=
      ⟨s.tokens.length, required, s.place.index, s.place.line, s.place.column⟩
    return dropped.setKey (some start)
  else some s

/-- Gives up the possible starts of keys that are on an earlier line, or more than 1024 characters
back. A required one among them is an error. -/
def Scan.dropStaleKeys (s : Scan) : Option Scan := do
  let keys ← s.keys.mapM fun key =>
    match key with
    | none => some none
    | some start =>
      if start.line < s.place.line || start.index + 1024 < s.place.index then
        if start.required then none else some none
      else some (some start)
  return { s with keys }

/-- Spaces, comments and line ends up to the next token. A byte order mark at the start of a line is
skipped. Tabs count as spaces where no key can start, and a new line outside of flow collections
lets a key start. -/
def skipToToken (inFlow : Bool) : Nat → Bool → Place → Bool × Place
  | 0, keyAllowed, p => (keyAllowed, p)
  | fuel + 1, keyAllowed, p =>
    let p := if p.column == 0 && startsWith (· == '\ufeff') p.rest then p.next else p
    let p := p.skipWhile fun c => c == ' ' || (inFlow || !keyAllowed) && c == '\t'
    let p := if startsWith (· == '#') p.rest then p.skipToLineEnd else p
    if startsWith isBreak p.rest then
      skipToToken inFlow fuel (keyAllowed || !inFlow) p.readBreak.2
    else (keyAllowed, p)

/-- A letter, a digit, a dash or an underscore. -/
def isWordChar (c : Char) : Bool :=
  c.isAlphanum || c == '-' || c == '_'

/-- The word at a place, and the place behind it. -/
def readWord (p : Place) : List Char × Place :=
  let word := p.rest.takeWhile isWordChar
  (word, p.skip word.length)

/-- A tag handle: an exclamation mark, a word, and another exclamation mark if there is one. -/
def readHandle (p : Place) : Option (List Char × Place) :=
  if startsWith (· == '!') p.rest then
    let (word, after) := readWord p.next
    if startsWith (· == '!') after.rest then some ('!' :: word ++ ['!'], after.next)
    else some ('!' :: word, after)
  else none

/-- The characters of a tag besides letters, digits, dashes and underscores. -/
def tagMarks : List Char :=
  [';', '/', '?', ':', '@', '&', '=', '+', '$', '.', '%', '!', '~', '*', '\x27', '(', ')']

/-- Whether a character may stand in a tag; brackets and commas only in a full one. -/
def isTagChar (full : Bool) (c : Char) : Bool :=
  isWordChar c || tagMarks.contains c || full && (c == ',' || c == '[' || c == ']')

/-- The byte of a percent sign and two hexadecimal digits. -/
def readOctet? : List Char → Option Nat
  | '%' :: a :: b :: _ => Text.number? 16 [a, b]
  | _ => none

/-- How many bytes a character takes whose first byte is given. -/
def octetWidth? (first : Nat) : Option Nat :=
  if first < 0x80 then some 1
  else if first / 32 = 6 then some 2
  else if first / 16 = 14 then some 3
  else if first / 8 = 30 then some 4
  else none

/-- The bytes that continue a character, each written with a percent sign. -/
def readOctets : Nat → Place → Option (List UInt8 × Place)
  | 0, p => some ([], p)
  | count + 1, p => do
    let octet ← readOctet? p.rest
    if octet / 64 ≠ 2 then none
    let (octets, p) ← readOctets count (p.skip 3)
    return (octet.toUInt8 :: octets, p)

/-- A character written by its bytes, each with a percent sign. -/
def readEscapedChar (p : Place) : Option (List UInt8 × Place) := do
  let first ← readOctet? p.rest
  let width ← octetWidth? first
  let (others, p) ← readOctets (width - 1) (p.skip 3)
  return (first.toUInt8 :: others, p)

/-- The characters of a tag as bytes. -/
def readTagChars (full : Bool) : Nat → Place → Option (List UInt8 × Place)
  | 0, p => some ([], p)
  | fuel + 1, p =>
    match p.rest with
    | [] => some ([], p)
    | c :: _ =>
      if !isTagChar full c then some ([], p)
      else do
        let (octets, p) ← if c == '%' then readEscapedChar p else some ([c.toNat.toUInt8], p.next)
        let (others, p) ← readTagChars full fuel p
        return (octets ++ others, p)

/-- The bytes of characters that all are ASCII. -/
def asciiOctets (text : List Char) : List UInt8 :=
  text.map fun c => c.toNat.toUInt8

/-- A tag: in full between angle brackets, with a handle, or on its own behind an exclamation mark.
A gap has to follow, or a comma in a flow collection. -/
def readTag (inFlow : Bool) (p : Place) : Option (Tag × Place) := do
  let fuel := p.rest.length + 1
  let (tag, p) ←
    match p.rest with
    | '!' :: '<' :: _ => do
      let (suffix, p) ← readTagChars true fuel (p.skip 2)
      if suffix.isEmpty || !startsWith (· == '>') p.rest then none
      some (Tag.mk [] suffix, p.next)
    | _ => do
      let (handle, after) ← readHandle p
      if 2 ≤ handle.length && handle.getLast? == some '!' then
        let (suffix, p) ← readTagChars false fuel after
        if suffix.isEmpty then none
        some (Tag.mk handle suffix, p)
      else
        let (others, p) ← readTagChars false fuel after
        let suffix := asciiOctets (handle.drop 1) ++ others
        if suffix.isEmpty then some (Tag.mk [] (asciiOctets ['!']), p)
        else some (Tag.mk ['!'] suffix, p)
  if atGap p.rest || inFlow && startsWith (· == ',') p.rest then some (tag, p) else none

/-- The marks that may follow the name of an anchor or alias without a gap. -/
def nameEnds : List Char :=
  ['?', ':', ',', ']', '\x7d', '%', '@', '\x60']

/-- The name of an anchor or alias, from its mark on. A gap or one of a few marks has to follow. -/
def readName (p : Place) : Option (List Char × Place) :=
  let (name, after) := readWord p.next
  if !name.isEmpty && (atGap after.rest || startsWith nameEnds.contains after.rest) then
    some (name, after)
  else none

/-- A number of a version: one to nine digits. -/
def readVersionNumber (p : Place) : Option (Nat × Place) :=
  let digits := p.rest.takeWhile Char.isDigit
  if digits.isEmpty || 9 < digits.length then none
  else (Text.number? 10 digits).map fun number => (number, p.skip digits.length)

/-- A directive, from its percent sign to the end of its line. -/
def readDirective (p : Place) : Option (Token × Place) := do
  let (name, p) := readWord p.next
  if name.isEmpty || !atGap p.rest then none
  let p := p.skipWhile isSpace
  let (token, p) ←
    if name == "YAML".toList then do
      let (major, p) ← readVersionNumber p
      if !startsWith (· == '.') p.rest then none
      let (minor, p) ← readVersionNumber p.next
      some (Token.version major minor, p)
    else if name == "TAG".toList then do
      let (handle, p) ← readHandle p
      if handle ≠ ['!'] ∧ handle.getLast? ≠ some '!' then none
      if !startsWith isSpace p.rest then none
      let p := p.skipWhile isSpace
      let (meaning, p) ← readTagChars true (p.rest.length + 1) p
      if meaning.isEmpty || !atGap p.rest then none
      some (Token.tagHandle handle meaning, p)
    else none
  let p := p.skipWhile isSpace
  let p := if startsWith (· == '#') p.rest then p.skipToLineEnd else p
  if !atLineEnd p.rest then none
  return (token, p.readBreak.2)

/-- A token of `n` characters. -/
def Scan.take (n : Nat) (token : Token) (s : Scan) : Scan :=
  { s.emit token with place := s.place.skip n }

/-- The start of a document or its end, or a directive: all block collections end before it. -/
def Scan.atDocumentLevel (s : Scan) : Option Scan := do
  let s ← (s.unroll none).dropKey
  return { s with keyAllowed := false }

/-- An opening bracket or brace. -/
def Scan.openFlow (token : Token) (s : Scan) : Option Scan := do
  let s ← s.noteKey
  return { s.take 1 token with keyAllowed := true, keys := none :: s.keys }

/-- A closing bracket or brace. -/
def Scan.closeFlow (token : Token) (s : Scan) : Option Scan := do
  let s ← s.dropKey
  let keys := if s.inFlow then s.keys.drop 1 else s.keys
  return { s.take 1 token with keyAllowed := false, keys }

/-- A comma in a flow collection. -/
def Scan.separateFlow (s : Scan) : Option Scan := do
  let s ← s.dropKey
  return { s.take 1 .flowEntry with keyAllowed := true }

/-- The dash of a block sequence. -/
def Scan.startEntry (s : Scan) : Option Scan := do
  if !s.inFlow && !s.keyAllowed then none
  let s ← (s.roll s.place.column s.tokens.length .blockSequenceStart).dropKey
  return { s.take 1 .blockEntry with keyAllowed := true }

/-- The question mark of a key that may take several lines. -/
def Scan.startKey (s : Scan) : Option Scan := do
  if !s.inFlow && !s.keyAllowed then none
  let s ← (s.roll s.place.column s.tokens.length .blockMappingStart).dropKey
  return { s.take 1 .key with keyAllowed := !s.inFlow }

/-- The colon before a value. If a key may have started at this level, it has. -/
def Scan.startValue (s : Scan) : Option Scan :=
  match s.key? with
  | some key =>
    let s := (s.insertAt key.tokens .key).roll key.column key.tokens .blockMappingStart
    some { (s.setKey none).take 1 .value with keyAllowed := false }
  | none => do
    if !s.inFlow && !s.keyAllowed then none
    let s := s.roll s.place.column s.tokens.length .blockMappingStart
    return { s.take 1 .value with keyAllowed := !s.inFlow }

/-- A token that may start a key, read by `read`. -/
def Scan.content (read : Place → Option (Token × Place)) (s : Scan) : Option Scan := do
  let s ← s.noteKey
  let (token, place) ← read s.place
  return { s.emit token with place, keyAllowed := false }

/-- A plain scalar. If a line ends behind it, a key may start there. -/
def Scan.plainScalar (s : Scan) : Option Scan := do
  let s ← s.noteKey
  let scalar ← readPlain s.surroundings s.place
  return { s.emit (.scalar true scalar.text) with
    place := scalar.after, keyAllowed := scalar.lineEnded }

/-- A block scalar. -/
def Scan.blockScalar (folds : Bool) (s : Scan) : Option Scan := do
  let s ← s.dropKey
  let (text, place) ← readBlock folds s.surroundings s.place
  return { s.emit (.scalar false text) with place, keyAllowed := true }

/-- The marks that no plain scalar starts with, save for some of them in certain places. -/
def indicators : List Char :=
  ['-', '?', ':', ',', '[', ']', '\x7b', '\x7d', '#', '&', '*', '!', '|', '>', '\x27', '\x22', '%',
   '@', '\x60']

/-- Whether a plain scalar may start with this character wherever it stands. -/
def startsPlain (c : Char) : Bool :=
  !(isSpace c || isBreak c || indicators.contains c)

/-- The next token, at a place where one starts. -/
def Scan.token (s : Scan) (c : Char) (rest : List Char) : Option Scan :=
  let beforeGap := atGap rest
  if s.place.column == 0 && c == '%' then do
    let s ← s.atDocumentLevel
    let (token, place) ← readDirective s.place
    return { s.emit token with place }
  else if s.place.atDocumentMarker then
    s.atDocumentLevel.map (Scan.take 3 (if c == '-' then .documentStart else .documentEnd))
  else if c == '[' then s.openFlow .flowSequenceStart
  else if c == '\x7b' then s.openFlow .flowMappingStart
  else if c == ']' then s.closeFlow .flowSequenceEnd
  else if c == '\x7d' then s.closeFlow .flowMappingEnd
  else if c == ',' then s.separateFlow
  else if c == '-' && beforeGap then s.startEntry
  else if c == '?' && (s.inFlow || beforeGap) then s.startKey
  else if c == ':' && (s.inFlow || beforeGap) then s.startValue
  else if c == '*' then
    s.content fun p => (readName p).map fun read => (.alias read.1, read.2)
  else if c == '&' then
    s.content fun p => (readName p).map fun read => (.anchor read.1, read.2)
  else if c == '!' then
    s.content fun p => (readTag s.inFlow p).map fun read => (.tag read.1, read.2)
  else if (c == '|' || c == '>') && !s.inFlow then s.blockScalar (c == '>')
  else if c == '\x27' || c == '\x22' then
    s.content fun p => (readQuoted (c == '\x27') p).map fun read => (.scalar false read.1, read.2)
  else if startsPlain c || c == '-' && !startsWith isSpace rest ||
      !s.inFlow && (c == '?' || c == ':') && !beforeGap then
    s.plainScalar
  else none

/-- The tokens of a text, in reverse, from a place on. Every round takes at least one character. -/
def Scan.run : Nat → Scan → Option (List Token)
  | 0, _ => none
  | fuel + 1, s => do
    let (keyAllowed, place) := skipToToken s.inFlow (s.place.rest.length + 1) s.keyAllowed s.place
    let s ← { s with keyAllowed, place }.dropStaleKeys
    let s := s.unroll (some s.place.column)
    match s.place.rest with
    | [] =>
      let s ← (s.unroll none).dropKey
      return s.tokens
    | c :: rest =>
      let s ← s.token c rest
      s.run fuel

/-- The tokens of a text, unless it holds a character that may not stand in it or is not well
formed. -/
def tokens? (text : List Char) : Option (List Token) :=
  if text.all isAllowed then
    (Scan.run (text.length + 1) (.start text)).map List.reverse
  else none

end InlineCompletion.Yaml
