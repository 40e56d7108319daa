import Testbed.Yaml.Value

namespace Testbed
namespace Yaml
namespace Value

/-!
Reading records from what documents say. Tags do not matter, except where a value may be anything. A record is
a mapping, whose other members are ignored, or a sequence of its fields in their order; nothing stands
for an empty record, list or map.
-/

/-- A value without the tags before it. -/
def untagged : Value → Value
  | tagged _ value => untagged value
  | value => value

def toString? (value : Value) : Option String :=
  match value.untagged with
  | string text => some text
  | _ => none

def toBool? (value : Value) : Option Bool :=
  match value.untagged with
  | bool flag => some flag
  | _ => none

/-- A list of items of a kind. -/
def toList? (read : Value → Option α) (value : Value) : Option (List α) :=
  match value.untagged with
  | sequence items => items.mapM read
  | null => some []
  | _ => none

/-- The members of a mapping that has only texts for names. -/
def toMembers? (value : Value) : Option (List (String × Value)) :=
  match value.untagged with
  | mapping members => members.mapM fun (name, value) => name.toString?.map fun text => (text, value)
  | null => some []
  | _ => none

/-- A map of texts. -/
def toTexts? (value : Value) : Option (List (String × String)) := do
  (← value.toMembers?).mapM fun (name, value) => value.toString?.map fun text => (name, text)

mutual

/-- Whether a value is made of nothing, truth values, numbers, texts, sequences and mappings with texts for
names. -/
def isPlain : Value → Bool
  | null | bool _ | integer _ | floating _ | string _ => true
  | sequence items => arePlain items
  | mapping members => membersArePlain members
  | tagged .. => false

/-- Whether items are plain. -/
def arePlain : List Value → Bool
  | [] => true
  | item :: rest => isPlain item && arePlain rest

/-- Whether members are plain. -/
def membersArePlain : List (Value × Value) → Bool
  | [] => true
  | (name, value) :: rest => name.toString?.isSome && isPlain value && membersArePlain rest

end

/-- The value given under a name, if there is no more than one. -/
def unique? (members : List (String × Value)) (name : String) : Option (Option Value) :=
  match members.filter fun entry => entry.1 == name with
  | [] => some none
  | [entry] => some (some entry.2)
  | _ => none

/-- The values given for the fields of a record, in the order of their names. So many of the last fields may be
missing from a sequence. -/
def fields? (names : List String) (spare : Nat) (value : Value) : Option (List (Option Value)) :=
  match value.untagged with
  | sequence items =>
    if items.length ≤ names.length ∧ names.length ≤ items.length + spare then
      some (items.map some ++ List.replicate (names.length - items.length) none)
    else none
  | other => do
    let members ← other.toMembers?
    names.mapM (unique? members)

/-- A field that may be absent or nothing. -/
def optional (read : Value → Option α) : Option Value → Option (Option α)
  | none | some null => some none
  | some value => (read value).map some

/-- A list that may be absent or nothing. -/
def listOf (read : Value → Option α) (field : Option Value) : Option (List α) :=
  (optional (toList? read) field).map fun found => found.getD []

/-- A field with a value of its own when it is absent. -/
def defaulted (fallback : α) (read : Value → Option α) : Option Value → Option α
  | none => some fallback
  | some value => read value

end Value
end Yaml
end Testbed
