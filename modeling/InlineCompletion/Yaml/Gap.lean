import InlineCompletion.Yaml.Place

/-!
The gaps inside a scalar that runs over several lines. Spaces within a line are kept, a single line
end is folded into a space, and of several line ends all but the first are kept.
-/
namespace InlineCompletion.Yaml

/-- What stands between two words of a scalar. -/
structure Gap where
  /-- Spaces before the first line end. -/
  spaces : List Char
  /-- Whether a line has ended. -/
  broken : Bool
  /-- The first line end. -/
  first : List Char
  /-- The further line ends. -/
  others : List Char
deriving Repr

/-- Nothing yet; `broken` says whether the line counts as ended already. -/
def Gap.empty (broken : Bool) : Gap :=
  ⟨[], broken, [], []⟩

/-- What a gap contributes to the text of its scalar. -/
def Gap.folded (g : Gap) : List Char :=
  if !g.broken then g.spaces
  else if g.first == ['\n'] then (if g.others.isEmpty then [' '] else g.others)
  else g.first ++ g.others

/-- A gap with one more line end. The spaces before the first one are dropped. -/
def Gap.addBreak (g : Gap) (lineEnd : List Char) : Gap :=
  if g.broken then { g with others := g.others ++ lineEnd }
  else { g with spaces := [], broken := true, first := lineEnd }

/-- A gap with one more space or tab, which counts only before the first line end. -/
def Gap.addSpace (g : Gap) (c : Char) : Gap :=
  if g.broken then g else { g with spaces := g.spaces ++ [c] }

/-- Spaces, tabs and line ends up to the next word. Behind a line end a tab is refused in a column
before `indent`. `fuel` bounds the number of characters. -/
def readGap (indent : Nat) : Nat → Gap → Place → Option (Gap × Place)
  | 0, gap, p => some (gap, p)
  | fuel + 1, gap, p =>
    match p.rest with
    | [] => some (gap, p)
    | c :: _ =>
      if isSpace c then
        if gap.broken && p.column < indent && c == '\t' then none
        else readGap indent fuel (gap.addSpace c) p.next
      else if isBreak c then
        let (lineEnd, after) := p.readBreak
        readGap indent fuel (gap.addBreak lineEnd) after
      else some (gap, p)

end InlineCompletion.Yaml
