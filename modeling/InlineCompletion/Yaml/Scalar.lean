import InlineCompletion.Text.Digit
import InlineCompletion.Yaml.Gap

/-!
The texts of YAML scalars: plain, in single or double quotes, and as a block. Each reader returns
the text and the place behind the scalar, or nothing if the scalar is not well formed.
-/
namespace InlineCompletion.Yaml

/-- Where a scalar stands. -/
structure Surroundings where
  /-- The column of the block collection around the scalar, if any. -/
  indent : Option Nat
  /-- Whether the scalar stands inside brackets or braces. -/
  inFlow : Bool
deriving Repr

/-- The first column of what belongs to the collection around a scalar. -/
def Surroundings.inner (s : Surroundings) : Nat :=
  match s.indent with
  | some column => column + 1
  | none => 0

/-- The characters that delimit flow collections. -/
def isFlowMark (c : Char) : Bool :=
  c == ',' || c == '[' || c == ']' || c == '\x7b' || c == '\x7d'

/-- A word of a plain scalar: everything up to a gap, to a colon before a gap, or in a flow
collection to one of its marks. In a flow collection a colon just before a mark is refused. -/
def readPlainWord (inFlow : Bool) : List Char → Option (List Char)
  | [] => some []
  | c :: rest =>
    if isSpace c || isBreak c then some []
    else if inFlow && c == ':' && startsWith (fun d => isFlowMark d || d == '?') rest then none
    else if c == ':' && atGap rest || inFlow && isFlowMark c then some []
    else (readPlainWord inFlow rest).map (c :: ·)

/-- A plain scalar as far as it is read, and whether a line has ended behind its last word. -/
structure PlainScalar where
  text : List Char
  lineEnded : Bool
  after : Place

/-- The words of a plain scalar and the gaps between them. -/
def readPlainWords (s : Surroundings) : Nat → List Char → Gap → Place → Option PlainScalar
  | 0, text, gap, p => some ⟨text, gap.broken, p⟩
  | fuel + 1, text, gap, p =>
    if p.atDocumentMarker || startsWith (· == '#') p.rest then some ⟨text, gap.broken, p⟩
    else
      match readPlainWord s.inFlow p.rest with
      | none => none
      | some [] => some ⟨text, gap.broken, p⟩
      | some word =>
        let text := text ++ gap.folded ++ word
        let p := p.skip word.length
        if !startsWith (fun c => isSpace c || isBreak c) p.rest then some ⟨text, false, p⟩
        else
          match readGap s.inner (p.rest.length + 1) (Gap.empty false) p with
          | none => none
          | some (gap, p) =>
            if !s.inFlow && p.column < s.inner then some ⟨text, gap.broken, p⟩
            else readPlainWords s fuel text gap p

/-- A plain scalar. It ends before a less indented line, a comment or a document marker. -/
def readPlain (s : Surroundings) (p : Place) : Option PlainScalar :=
  readPlainWords s (p.rest.length + 1) [] (Gap.empty false) p

/-- The characters that a backslash and a single character stand for. -/
def escapes : List (Char × Char) :=
  [('0', '\x00'), ('a', '\x07'), ('b', '\x08'), ('t', '\t'), ('\t', '\t'), ('n', '\n'),
   ('v', '\x0b'), ('f', '\x0c'), ('r', '\r'), ('e', '\x1b'), (' ', ' '), ('\x22', '\x22'),
   ('/', '/'), ('\\', '\\'), ('N', '\x85'), ('_', '\xa0'), ('L', '\u2028'), ('P', '\u2029')]

/-- How many hexadecimal digits follow a backslash and this character. -/
def escapeWidth? (c : Char) : Option Nat :=
  if c = 'x' then some 2 else if c = 'u' then some 4 else if c = 'U' then some 8 else none

/-- The character of an escape and the number of characters it takes behind the backslash. -/
def readEscape : List Char → Option (Char × Nat)
  | [] => none
  | c :: rest =>
    match (escapes.find? fun escape => escape.1 == c), escapeWidth? c with
    | some escape, _ => some (escape.2, 1)
    | none, none => none
    | none, some width =>
      if rest.length < width then none
      else
        match Text.number? 16 (rest.take width) with
        | none => none
        | some n => if h : n.isValidChar then some (Char.ofNatAux n h, width + 1) else none

/-- What ends a run of characters inside quotes. -/
inductive QuotedStop where
  /-- A gap, the closing quote or the end of the text. -/
  | natural
  /-- A backslash at the end of a line, which takes the line end with it. -/
  | joined
deriving Repr, DecidableEq

/-- A run of characters inside quotes. -/
def readQuotedRun (single : Bool) : Nat → List Char → Place →
    Option (List Char × QuotedStop × Place)
  | 0, text, p => some (text, .natural, p)
  | fuel + 1, text, p =>
    match p.rest with
    | [] => some (text, .natural, p)
    | c :: rest =>
      if isSpace c || isBreak c then some (text, .natural, p)
      else if single then
        if c == '\x27' then
          if startsWith (· == '\x27') rest then readQuotedRun single fuel (text ++ [c]) (p.skip 2)
          else some (text, .natural, p)
        else readQuotedRun single fuel (text ++ [c]) p.next
      else if c == '\x22' then some (text, .natural, p)
      else if c == '\\' then
        if startsWith isBreak rest then some (text, .joined, p.next.readBreak.2)
        else
          match readEscape rest with
          | none => none
          | some (escaped, width) =>
            readQuotedRun single fuel (text ++ [escaped]) (p.skip (width + 1))
      else readQuotedRun single fuel (text ++ [c]) p.next

/-- The rest of a quoted scalar behind its opening quote. -/
def readQuotedRest (single : Bool) : Nat → List Char → Place → Option (List Char × Place)
  | 0, _, _ => none
  | fuel + 1, text, p =>
    if p.atDocumentMarker || p.rest.isEmpty then none
    else
      match readQuotedRun single (p.rest.length + 1) text p with
      | none => none
      | some (text, stop, p) =>
        if startsWith (· == if single then '\x27' else '\x22') p.rest then some (text, p.next)
        else
          match readGap 0 (p.rest.length + 1) (Gap.empty (stop == .joined)) p with
          | none => none
          | some (gap, p) => readQuotedRest single fuel (text ++ gap.folded) p

/-- A quoted scalar, from its opening quote on. -/
def readQuoted (single : Bool) (p : Place) : Option (List Char × Place) :=
  readQuotedRest single (p.rest.length + 1) [] p.next

/-- What happens to the line ends behind a block. -/
inductive Chomping where
  | strip
  | clip
  | keep
deriving Repr, DecidableEq

/-- The mark of a chomping. -/
def chomping? (c : Char) : Option Chomping :=
  if c = '+' then some .keep else if c = '-' then some .strip else none

/-- The first line of a block: the chomping, the indentation that is asked for, and the place behind
the marks, which come in either order. An indentation of zero is refused. -/
def readBlockHeader (p : Place) : Option (Chomping × Option Nat × Place) :=
  let result (chomping : Chomping) (indent : Option Nat) (p : Place) :=
    if indent = some 0 then none else some (chomping, indent, p)
  match p.rest with
  | [] => some (.clip, none, p)
  | c :: rest =>
    let second := rest.head?
    match chomping? c, Text.decimalDigit? c with
    | some chomping, _ =>
      match second.bind Text.decimalDigit? with
      | some digit => result chomping (some digit) (p.skip 2)
      | none => result chomping none p.next
    | none, some digit =>
      match second.bind chomping? with
      | some chomping => result chomping (some digit) (p.skip 2)
      | none => result .clip (some digit) p.next
    | none, none => some (.clip, none, p)

/-- Indentation and line ends before a line of a block. -/
structure BlockMargin where
  breaks : List Char
  /-- The widest indentation met. -/
  widest : Nat
  after : Place

/-- The margin before a line of a block whose indentation is `indent`, or not yet known. A tab in
place of indentation is refused. -/
def readMargin (indent : Option Nat) : Nat → List Char → Nat → Place → Option BlockMargin
  | 0, breaks, widest, p => some ⟨breaks, widest, p⟩
  | fuel + 1, breaks, widest, p =>
    let spaces := (p.rest.takeWhile fun c => c == ' ').length
    let p := p.skip (match indent with
      | none => spaces
      | some n => min spaces (n - p.column))
    let widest := max widest p.column
    let inMargin := match indent with
      | none => true
      | some n => decide (p.column < n)
    if inMargin && startsWith (· == '\t') p.rest then none
    else if startsWith isBreak p.rest then
      let (lineEnd, after) := p.readBreak
      readMargin indent fuel (breaks ++ lineEnd) widest after
    else some ⟨breaks, widest, p⟩

/-- The lines of a block, each behind its margin. `lead` is the line end before the line,
`blankLead` says whether the line before started with a blank. -/
def readBlockLines (folds : Bool) (indent : Nat) : Nat → List Char → List Char → List Char → Bool →
    Place → Option (List Char × List Char × List Char × Place)
  | 0, text, lead, breaks, _, p => some (text, lead, breaks, p)
  | fuel + 1, text, lead, breaks, blankLead, p =>
    if p.column != indent || p.rest.isEmpty then some (text, lead, breaks, p)
    else
      let blank := startsWith isSpace p.rest
      let joint :=
        if folds && lead == ['\n'] && !blankLead && !blank then
          (if breaks.isEmpty then [' '] else breaks)
        else lead ++ breaks
      let line := p.rest.takeWhile fun c => !isBreak c
      let (lead, after) := (p.skip line.length).readBreak
      match readMargin (some indent) (p.rest.length + 1) [] 0 after with
      | none => none
      | some margin =>
        readBlockLines folds indent fuel (text ++ joint ++ line) lead margin.breaks blank
          margin.after

/-- A block scalar, from its mark on. Its indentation is the one its first line asks for, counted
from the collection around it, or else that of its first line that is not empty. -/
def readBlock (folds : Bool) (s : Surroundings) (p : Place) : Option (List Char × Place) := do
  let (chomping, asked, p) ← readBlockHeader p.next
  let p := p.skipWhile isSpace
  let p := if startsWith (· == '#') p.rest then p.skipToLineEnd else p
  if !atLineEnd p.rest then none
  let start := p.readBreak.2
  let wanted := asked.map fun n => s.indent.getD 0 + n
  let margin ← readMargin wanted (start.rest.length + 1) [] 0 start
  let indent := wanted.getD (max (max margin.widest s.inner) 1)
  let (text, lead, breaks, p) ←
    readBlockLines folds indent (margin.after.rest.length + 1) [] [] margin.breaks false
      margin.after
  let tail := match chomping with
    | .strip => []
    | .clip => lead
    | .keep => lead ++ breaks
  return (text ++ tail, p)

end InlineCompletion.Yaml
