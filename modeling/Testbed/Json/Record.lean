import Testbed.Json.Basic
import Testbed.StringMap

namespace Testbed
namespace Json

/-!
Reading records from documents. A record is given as an object, whose other members are ignored, or as
an array of its fields in their order, from which trailing fields may be missing. A field is required,
or may be absent or null, or has a default that stands in when it is absent; a null is a value of the
second kind only.
-/

/-- The values given for the fields of a record, in the order of their names. -/
def fields? (names : List String) : Json → Option (List (Option Json))
  | object members => some (names.map fun name => members.lookup name)
  | array items =>
    if items.length ≤ names.length then
      some (items.map some ++ List.replicate (names.length - items.length) none)
    else none
  | _ => none

/-- A field that must be given. -/
def required (read : β → Option α) : Option β → Option α
  | some value => read value
  | none => none

/-- A field that may be absent or null. -/
def optional (read : Json → Option α) : Option Json → Option (Option α)
  | none => some none
  | some null => some none
  | some value => (read value).map some

/-- A field with a default. -/
def defaulted (fallback : α) (read : β → Option α) : Option β → Option α
  | none => some fallback
  | some value => read value

def toString? : Json → Option String
  | string text => some text
  | _ => none

def toBool? : Json → Option Bool
  | bool value => some value
  | _ => none

/-- A natural number below a bound. -/
def toNatBelow? (bound : Nat) : Json → Option Nat
  | integer (Int.ofNat value) => if value < bound then some value else none
  | _ => none

def toUInt8? (document : Json) : Option UInt8 :=
  (document.toNatBelow? UInt8.size).map UInt8.ofNat

def toUInt16? (document : Json) : Option UInt16 :=
  (document.toNatBelow? UInt16.size).map UInt16.ofNat

def toUInt32? (document : Json) : Option UInt32 :=
  (document.toNatBelow? UInt32.size).map UInt32.ofNat

def toUInt64? (document : Json) : Option UInt64 :=
  (document.toNatBelow? UInt64.size).map UInt64.ofNat

/-- An integer from `-bound` to below `bound`. -/
def toIntWithin? (bound : Nat) : Json → Option Int
  | integer value => if -(bound : Int) ≤ value ∧ value < bound then some value else none
  | _ => none

def toInt32? (document : Json) : Option Int32 :=
  (document.toIntWithin? (Nat.pow 2 31)).map Int32.ofInt

def toInt64? (document : Json) : Option Int64 :=
  (document.toIntWithin? (Nat.pow 2 63)).map Int64.ofInt

/-- An array all of whose items can be read. -/
def toListOf? (read : Json → Option α) : Json → Option (List α)
  | array items => items.mapM read
  | _ => none

def toStrings? : Json → Option (List String) :=
  toListOf? toString?

/-- An object all of whose members are texts. -/
def toStringMap? : Json → Option StringMap
  | object members =>
    (members.mapM fun entry => (toString? entry.2).map fun value => (entry.1, value)).map
      StringMap.ofList
  | _ => none

/-- A map as an object. -/
def ofStringMap (map : StringMap) : Json :=
  object (map.entries.map fun entry => (entry.1, string entry.2))

/-- A list of values as an array. -/
def ofList (write : α → Json) (values : List α) : Json :=
  array (values.map write)

/-- A member that is written only when there is something in it. -/
def unlessEmpty (isEmpty : Bool) (value : Json) : Option Json :=
  if isEmpty then none else some value

/-- Whether a value says nothing. -/
def isVoid : Json → Bool
  | null | bool false | array [] | object [] => true
  | _ => false

/-- An object of the members that say something. -/
def substance (members : List (String × Json)) : Json :=
  object (members.filter fun entry => !entry.2.isVoid)

/-- A value that may be absent. -/
def orNull (value : Option Json) : Json :=
  value.getD null

/-- A text that may be absent. -/
def textOrNull (text : Option String) : Json :=
  orNull (text.map string)

end Json
end Testbed
