namespace Testbed

/-!
Documents of the JSON data format. Whole numbers and numbers with a fraction or an exponent are kept
apart, because readers of records accept `80` where they refuse `80.0`. An object is a list of
members; readers decide what a repeated name means.
-/

/-- A number that is no integer: `coefficient` times ten to the `exponent`, with its sign. -/
structure Decimal where
  negative : Bool
  coefficient : Nat
  exponent : Int
  deriving DecidableEq, Repr

/-- A document. -/
inductive Json where
  | null
  | bool (value : Bool)
  | integer (value : Int)
  | decimal (value : Decimal)
  | string (text : String)
  | array (items : List Json)
  | object (members : List (String × Json))
  deriving Inhabited

namespace Json

/-- The members of an object, and none of anything else. -/
def members : Json → List (String × Json)
  | object members => members
  | _ => []

/-- The items of an array, and none of anything else. -/
def items : Json → List Json
  | array items => items
  | _ => []

/-- The member of an object with this name. -/
def member? (document : Json) (name : String) : Option Json :=
  document.members.lookup name

/-- An array of texts. -/
def strings (texts : List String) : Json :=
  array (texts.map string)

/-- A natural number. -/
def natural (value : Nat) : Json :=
  integer value

/-- An object of the members that are present, in the order given. -/
def record (members : List (String × Option Json)) : Json :=
  object (members.filterMap fun entry => entry.2.map fun value => (entry.1, value))

/-- Puts a member in order, in place of one with the same name. -/
def insertMember (name : String) (value : Json) : List (String × Json) → List (String × Json)
  | [] => [(name, value)]
  | first :: rest =>
    if name < first.1 then (name, value) :: first :: rest
    else if first.1 < name then first :: insertMember name value rest
    else (name, value) :: rest

/-- The members in order of their names, the last of each name. -/
def sortMembers (members : List (String × Json)) : List (String × Json) :=
  members.foldl (fun sorted entry => insertMember entry.1 entry.2 sorted) []

mutual

/-- A document with all members in order of their names, at every depth. -/
def sorted : Json → Json
  | array items => array (sortedItems items)
  | object members => object (sortMembers (sortedMembers members))
  | null => null
  | bool value => bool value
  | integer value => integer value
  | decimal value => decimal value
  | string text => string text

/-- Items, sorted inside. -/
def sortedItems : List Json → List Json
  | [] => []
  | item :: rest => item.sorted :: sortedItems rest

/-- Members in their order, sorted inside. -/
def sortedMembers : List (String × Json) → List (String × Json)
  | [] => []
  | (name, value) :: rest => (name, value.sorted) :: sortedMembers rest

end

end Json
end Testbed
