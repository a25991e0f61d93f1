/-!
JSON values. A number without fraction and exponent that fits 64 bits is an integer, any other
number is a double, so `1` and `1.0` are different values. The members of an object have an order,
in which they are read and written; an object that comes from a text has its names in ascending
order, each name once.
-/
namespace InlineCompletion

/-- A JSON value. -/
inductive Json where
  | null
  | bool (value : Bool)
  /-- A whole number from `-2^63` to `2^64 - 1`. -/
  | integer (value : Int)
  | double (value : Float)
  | string (value : String)
  | array (items : List Json)
  /-- Members, each a name and a value. -/
  | object (members : List (String × Json))
deriving Inhabited

namespace Json

/-- A member put into its place among members in ascending order of their names, which are compared
by code points. It replaces one of its name. -/
def insertMember (name : String) (value : Json) : List (String × Json) → List (String × Json)
  | [] => [(name, value)]
  | member :: rest =>
    if name = member.1 then (name, value) :: rest
    else if name < member.1 then (name, value) :: member :: rest
    else member :: insertMember name value rest

/-- Members in ascending order of their names. Of members with one name the last is kept. -/
def sortMembers (members : List (String × Json)) : List (String × Json) :=
  members.foldl (fun sorted member => insertMember member.1 member.2 sorted) []

/-- The object with these members. -/
def ofMembers (members : List (String × Json)) : Json :=
  .object (sortMembers members)

/-- The member of an object with this name. -/
def member? (name : String) : Json → Option Json
  | .object members => (members.find? fun member => member.1 == name).map Prod.snd
  | _ => none

end Json
end InlineCompletion
