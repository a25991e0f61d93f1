/-!
A place in a YAML text: what is still to be read, and where that starts. Lines end at a carriage
return, a newline, both together, a next-line character, or a line or paragraph separator.
-/
namespace InlineCompletion.Yaml

/-- Where reading stands. -/
structure Place where
  rest : List Char
  /-- Number of characters before this place. -/
  index : Nat
  /-- Number of line ends before this place. -/
  line : Nat
  /-- Number of characters before this place on its line. -/
  column : Nat
deriving Repr

/-- The start of a text. -/
def Place.start (text : List Char) : Place :=
  ⟨text, 0, 0, 0⟩

/-- Whether a character may stand in a YAML text at all: no control except the tab, the line ends
and the next-line character. -/
def isAllowed (c : Char) : Bool :=
  let n := c.toNat
  n == 0x09 || n == 0x0A || n == 0x0D || 0x20 ≤ n && n ≤ 0x7E || n == 0x85 ||
    0xA0 ≤ n && n ≤ 0xD7FF || 0xE000 ≤ n && n ≤ 0xFFFD || 0x10000 ≤ n

/-- Whether a character ends a line. -/
def isBreak (c : Char) : Bool :=
  c == '\r' || c == '\n' || c == '\x85' || c == '\u2028' || c == '\u2029'

/-- A space or a tab. -/
def isSpace (c : Char) : Bool :=
  c == ' ' || c == '\t'

/-- Whether a text starts with a character of a kind. -/
def startsWith (kind : Char → Bool) : List Char → Bool
  | [] => false
  | c :: _ => kind c

/-- Whether a text starts with a space, a tab or a line end, or is at its end. -/
def atGap : List Char → Bool
  | [] => true
  | c :: _ => isSpace c || isBreak c

/-- Whether a text starts with a line end or is at its end. -/
def atLineEnd : List Char → Bool
  | [] => true
  | c :: _ => isBreak c

/-- The place behind one character that does not end a line. -/
def Place.next (p : Place) : Place :=
  ⟨p.rest.drop 1, p.index + 1, p.line, p.column + 1⟩

/-- The place behind `n` characters that do not end a line. -/
def Place.skip (p : Place) (n : Nat) : Place :=
  ⟨p.rest.drop n, p.index + n, p.line, p.column + n⟩

/-- What a line end is read as, and the place behind it. A carriage return and a next-line character
are read as a newline, separators as they are; where no line ends nothing is read. -/
def Place.readBreak (p : Place) : List Char × Place :=
  match p.rest with
  | '\r' :: '\n' :: rest => (['\n'], ⟨rest, p.index + 2, p.line + 1, 0⟩)
  | c :: rest =>
    if c == '\r' || c == '\n' || c == '\x85' then (['\n'], ⟨rest, p.index + 1, p.line + 1, 0⟩)
    else if isBreak c then ([c], ⟨rest, p.index + 1, p.line + 1, 0⟩)
    else ([], p)
  | [] => ([], p)

/-- The place behind the characters of a kind that holds no line ends. -/
def Place.skipWhile (kind : Char → Bool) (p : Place) : Place :=
  p.skip (p.rest.takeWhile kind).length

/-- The place at the end of the line. -/
def Place.skipToLineEnd (p : Place) : Place :=
  p.skipWhile fun c => !isBreak c

/-- Whether a marker of a document's start or end stands here: three dashes or dots at the start of
a line, with a gap behind them. -/
def Place.atDocumentMarker (p : Place) : Bool :=
  p.column == 0 &&
    match p.rest with
    | '-' :: '-' :: '-' :: rest => atGap rest
    | '.' :: '.' :: '.' :: rest => atGap rest
    | _ => false

end InlineCompletion.Yaml
