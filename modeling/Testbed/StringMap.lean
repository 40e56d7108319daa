namespace Testbed

/-!
Finite maps from text to text. A map lists its entries in strictly increasing order of their keys,
so two maps with the same content are equal, and listing one is already the canonical order.
-/

/-- A finite map from text to text. The order of the entries is part of the type. -/
structure StringMap where
  entries : List (String × String)
  sorted : entries.Pairwise (fun earlier later => earlier.1 < later.1)
  deriving DecidableEq

namespace StringMap

/-- Puts an entry where its key belongs, in place of an entry with the same key. -/
def insertEntry (key value : String) : List (String × String) → List (String × String)
  | [] => [(key, value)]
  | entry :: rest =>
    if key < entry.1 then (key, value) :: entry :: rest
    else if entry.1 < key then entry :: insertEntry key value rest
    else (key, value) :: rest

theorem mem_insertEntry {key value : String} {entry : String × String} :
    ∀ {entries : List (String × String)},
      entry ∈ insertEntry key value entries → entry = (key, value) ∨ entry ∈ entries
  | [], member => by simpa [insertEntry] using member
  | first :: rest, member => by
    unfold insertEntry at member
    split at member
    · simpa using member
    · split at member
      · rcases List.mem_cons.1 member with here | later
        · exact Or.inr (by simp [here])
        · rcases mem_insertEntry later with new | old
          · exact Or.inl new
          · exact Or.inr (by simp [old])
      · rcases List.mem_cons.1 member with here | later
        · exact Or.inl here
        · exact Or.inr (by simp [later])

theorem sorted_insertEntry (key value : String) :
    ∀ {entries : List (String × String)},
      entries.Pairwise (fun earlier later => earlier.1 < later.1) →
        (insertEntry key value entries).Pairwise (fun earlier later => earlier.1 < later.1)
  | [], _ => by simp [insertEntry]
  | first :: rest, order => by
    have firstBelow := List.pairwise_cons.1 order
    unfold insertEntry
    split
    · rename_i below
      refine List.pairwise_cons.2 ⟨?_, order⟩
      intro entry member
      rcases List.mem_cons.1 member with here | later
      · simpa [here] using below
      · exact String.lt_trans below (firstBelow.1 entry later)
    · rename_i notBelow
      split
      · rename_i above
        refine List.pairwise_cons.2 ⟨?_, sorted_insertEntry key value firstBelow.2⟩
        intro entry member
        rcases mem_insertEntry member with new | old
        · simpa [new] using above
        · exact firstBelow.1 entry old
      · rename_i notAbove
        have same : key = first.1 :=
          String.le_antisymm (String.not_lt.1 notAbove) (String.not_lt.1 notBelow)
        refine List.pairwise_cons.2 ⟨?_, firstBelow.2⟩
        intro entry member
        simpa [same] using firstBelow.1 entry member

/-- The map without entries. -/
def empty : StringMap :=
  ⟨[], List.Pairwise.nil⟩

/-- The map that binds `key` to `value`, whatever it bound `key` to before, and else agrees. -/
def insert (map : StringMap) (key value : String) : StringMap :=
  ⟨insertEntry key value map.entries, sorted_insertEntry key value map.sorted⟩

/-- The map with one entry. -/
def single (key value : String) : StringMap :=
  empty.insert key value

/-- Adds pairs from left to right; of two with the same key the later one stays. -/
def insertAll (map : StringMap) (pairs : List (String × String)) : StringMap :=
  pairs.foldl (fun filled pair => filled.insert pair.1 pair.2) map

/-- The map of a list of pairs. -/
def ofList (pairs : List (String × String)) : StringMap :=
  empty.insertAll pairs

/-- What a key is bound to. -/
def get? (map : StringMap) (key : String) : Option String :=
  map.entries.lookup key

def isEmpty (map : StringMap) : Bool :=
  map.entries.isEmpty

def size (map : StringMap) : Nat :=
  map.entries.length

instance : Inhabited StringMap := ⟨empty⟩

end StringMap
end Testbed
