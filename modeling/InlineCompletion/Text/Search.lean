/-!
Finding one text inside another. The first occurrence is always the leftmost one, and the empty text
occurs at the start of every text.
-/
namespace InlineCompletion.Text

/-- The parts before and after the first occurrence of `needle`. -/
def splitAtFirst? (needle : List Char) : List Char → Option (List Char × List Char)
  | [] => if needle.isEmpty then some ([], []) else none
  | c :: rest =>
    if needle.isPrefixOf (c :: rest) then
      some ([], (c :: rest).drop needle.length)
    else
      (splitAtFirst? needle rest).map fun parts => (c :: parts.1, parts.2)

/-- Whether `needle` occurs in a text. -/
def occursIn (needle text : List Char) : Bool :=
  (splitAtFirst? needle text).isSome

/-- A text without its first occurrence of `needle`. Nothing is removed for an empty needle. -/
def removeFirst? (needle text : List Char) : Option (List Char) :=
  if needle.isEmpty then none
  else (splitAtFirst? needle text).map fun parts => parts.1 ++ parts.2

/-- The part of a text after its last `mark`, if it has one. -/
def afterLast? (mark : Char) : List Char → Option (List Char)
  | [] => none
  | c :: rest => (afterLast? mark rest).or (if c = mark then some rest else none)

/-- The part of a text between its first `mark` and its second, or its end. -/
def afterFirst (mark : Char) (text : List Char) : List Char :=
  ((text.dropWhile fun c => c != mark).drop 1).takeWhile fun c => c != mark

end InlineCompletion.Text
