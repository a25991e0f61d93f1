import InlineCompletion.Candidate

/-!
The texts on offer and the one of them that is current. The text to show is kept with them: it is
that of the current item unless that is empty, so an item with an empty text is on offer but not
shown.
-/
namespace InlineCompletion.Ghost

/-- The phases that a user can tell apart. -/
inductive Phase where
  /-- Nothing is scheduled and nothing is on offer. -/
  | idle
  /-- Input has to come to rest. -/
  | debouncing
  /-- Candidates are being fetched. -/
  | fetching
  /-- The item with this index is current. -/
  | showing (index : Nat)
deriving Repr, DecidableEq

/-- Something on offer. -/
inductive Item where
  /-- A candidate of the suggestion source. -/
  | candidate (candidate : Candidate)
  /-- Code from the text service. -/
  | escalated (text : String)

/-- The text of an item. -/
def Item.text : Item → String
  | .candidate c => c.key
  | .escalated text => text

/-- The frequency of an item. One that came from the service counts as one. -/
def Item.value : Item → Float
  | .candidate c => c.value
  | .escalated _ => 1.0

/-- The sort key of an item. One that came from the service is sorted first. -/
def Item.sortText : Item → String
  | .candidate c => c.sortText
  | .escalated _ => "0"

/-- Whether an item came from the service. -/
def Item.isEscalated : Item → Bool
  | .candidate _ => false
  | .escalated _ => true

/-- What is on offer. -/
structure Offers where
  items : List Item
  /-- The index of the current item; zero if there is none. -/
  index : Nat
  /-- The text to show, if there is one. -/
  activeText : Option String

/-- A text, unless it is empty. -/
def nonempty? (text : String) : Option String :=
  if text.isEmpty then none else some text

/-- The text of the item with this index, unless it is empty. -/
def shownText (items : List Item) (index : Nat) : Option String :=
  items[index]?.bind fun item => nonempty? item.text

/-- Nothing on offer. -/
def Offers.none : Offers :=
  ⟨[], 0, .none⟩

/-- Items on offer, the first of them current. -/
def Offers.ofItems (items : List Item) : Offers :=
  ⟨items, 0, shownText items 0⟩

/-- The next item, behind the last one the first again. With nothing on offer nothing changes. -/
def Offers.advance (o : Offers) : Offers :=
  if o.items.isEmpty then o
  else
    let index := (o.index + 1) % o.items.length
    ⟨o.items, index, shownText o.items index⟩

/-- Goes on to the next item and tells its index. With nothing on offer there is none to go on to. -/
def Offers.advance? (o : Offers) : Option Nat × Offers :=
  if o.items.isEmpty then (.none, o) else (some o.advance.index, o.advance)

/-- Whether a text is shown. -/
def Offers.isShowing (o : Offers) : Bool :=
  o.activeText.isSome

end InlineCompletion.Ghost
