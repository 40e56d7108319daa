import Testbed.Json.Record

namespace Testbed

/-!
# Documents with their members in another order

A record is written with its members in the order of its fields, while documents are kept and sent with all
members in the order of their names.  Readers look members up by name, so neither order matters to them.
`Rearranges` says of a function on documents that it changes nothing but such orders, at whatever depth;
what is proved of every such function holds of a document as it is written and as it is sent.
-/

/-- What is inserted under a new key is added to the entries. -/
theorem StringMap.perm_insertEntry {key value : String} {entries : List (String × String)}
    (fresh : ∀ entry ∈ entries, entry.1 ≠ key) :
    (insertEntry key value entries).Perm ((key, value) :: entries) := by
  induction entries with
  | nil => exact .refl _
  | cons first rest inductionHypothesis =>
      rcases List.forall_mem_cons.mp fresh with ⟨apart, others⟩
      rw [insertEntry]
      split
      · exact .refl _
      · rename_i notBelow
        split
        · exact ((inductionHypothesis others).cons first).trans (.swap _ _ _)
        · rename_i notAbove
          exact absurd (String.le_antisymm (String.not_lt.1 notBelow) (String.not_lt.1 notAbove)) apart

namespace Json

/-! ## Members with distinct names -/

/-- Whether no two members have the same name. -/
def HaveDistinctNames (members : List (String × β)) : Prop :=
  members.Pairwise fun first second => first.1 ≠ second.1

theorem HaveDistinctNames.perm {members arranged : List (String × β)} (distinct : HaveDistinctNames members)
    (same : members.Perm arranged) : HaveDistinctNames arranged :=
  (same.pairwise_iff fun apart => apart.symm).mp distinct

/-- Another value under each name leaves the names distinct. -/
theorem HaveDistinctNames.map {members : List (String × β)} {value : String × β → γ}
    (distinct : HaveDistinctNames members) :
    HaveDistinctNames (members.map fun entry => (entry.1, value entry)) :=
  List.pairwise_map.mpr distinct

theorem haveDistinctNames_entries (map : StringMap) : HaveDistinctNames map.entries := by
  refine map.sorted.imp fun {first second} below same => ?_
  rw [same] at below
  exact String.lt_irrefl _ below

/-- Where names are distinct, a look-up finds what there is, in whatever order. -/
theorem HaveDistinctNames.lookup_eq_some_iff {members : List (String × β)} {name : String} {value : β}
    (distinct : HaveDistinctNames members) :
    members.lookup name = some value ↔ (name, value) ∈ members := by
  induction members with
  | nil => simp only [List.lookup_nil, reduceCtorEq, List.not_mem_nil]
  | cons first rest inductionHypothesis =>
      rcases List.pairwise_cons.mp distinct with ⟨apart, others⟩
      rw [List.lookup_cons, List.mem_cons]
      cases here : name == first.1 with
      | true =>
          obtain rfl : name = first.1 := eq_of_beq here
          constructor
          · intro found
            exact Or.inl (Prod.ext rfl (Option.some.inj found).symm)
          · rintro (same | later)
            · exact congrArg (fun entry => some entry.2) same.symm
            · exact (apart _ later rfl).elim
      | false =>
          have other : name ≠ first.1 := ne_of_beq_false here
          dsimp only
          rw [inductionHypothesis others]
          exact ⟨Or.inr, fun listed => listed.resolve_left fun same => other (congrArg Prod.fst same)⟩

/-- What is inserted under a new name is added to the members. -/
theorem perm_insertMember {name : String} {value : Json} {members : List (String × Json)}
    (fresh : ∀ entry ∈ members, entry.1 ≠ name) :
    (insertMember name value members).Perm ((name, value) :: members) := by
  induction members with
  | nil => exact .refl _
  | cons first rest inductionHypothesis =>
      rcases List.forall_mem_cons.mp fresh with ⟨apart, others⟩
      rw [insertMember]
      split
      · exact .refl _
      · rename_i notBelow
        split
        · exact ((inductionHypothesis others).cons first).trans (.swap _ _ _)
        · rename_i notAbove
          exact absurd (String.le_antisymm (String.not_lt.1 notBelow) (String.not_lt.1 notAbove)) apart

/-- Insertions one after another lose nothing, as long as each adds what is new. -/
theorem perm_foldl_insert {insert : String × β → List (String × β) → List (String × β)}
    (inserts : ∀ entry placed, (∀ other ∈ placed, other.1 ≠ entry.1) →
      (insert entry placed).Perm (entry :: placed))
    {rest placed : List (String × β)} (distinct : HaveDistinctNames (rest ++ placed)) :
    (rest.foldl (fun placed entry => insert entry placed) placed).Perm (rest ++ placed) := by
  induction rest generalizing placed with
  | nil => exact .refl _
  | cons first rest inductionHypothesis =>
      rcases List.pairwise_cons.mp distinct with ⟨apart, _⟩
      have fresh : ∀ entry ∈ placed, entry.1 ≠ first.1 := fun entry listed =>
        (apart entry (List.mem_append_right rest listed)).symm
      have grown : (rest ++ insert first placed).Perm (first :: (rest ++ placed)) :=
        ((inserts first placed fresh).append_left rest).trans List.perm_middle
      exact (inductionHypothesis (distinct.perm grown.symm)).trans grown

/-- Sorting members with distinct names loses none of them. -/
theorem perm_sortMembers {members : List (String × Json)} (distinct : HaveDistinctNames members) :
    (sortMembers members).Perm members := by
  have whole : HaveDistinctNames (members ++ []) := by rwa [List.append_nil]
  have sorted : (sortMembers members).Perm (members ++ []) :=
    perm_foldl_insert (fun _ _ => perm_insertMember) whole
  rwa [List.append_nil] at sorted

theorem entries_insertAll {pairs : List (String × String)} {map : StringMap} :
    (map.insertAll pairs).entries =
      pairs.foldl (fun placed entry => StringMap.insertEntry entry.1 entry.2 placed) map.entries := by
  induction pairs generalizing map with
  | nil => rfl
  | cons first rest inductionHypothesis => exact inductionHypothesis

/-- The map of pairs with distinct names has the pairs for its entries. -/
theorem perm_ofList {pairs : List (String × String)} (distinct : HaveDistinctNames pairs) :
    (StringMap.ofList pairs).entries.Perm pairs := by
  have whole : HaveDistinctNames (pairs ++ []) := by rwa [List.append_nil]
  have filled : (StringMap.ofList pairs).entries.Perm (pairs ++ []) := by
    rw [StringMap.ofList, entries_insertAll]
    exact perm_foldl_insert (fun _ _ => StringMap.perm_insertEntry) whole
  rwa [List.append_nil] at filled

/-- The entries of a map, in any order, make the map. -/
theorem ofList_eq_of_perm {pairs : List (String × String)} {map : StringMap}
    (same : pairs.Perm map.entries) : StringMap.ofList pairs = map := by
  have filled := perm_ofList ((haveDistinctNames_entries map).perm same.symm)
  -- Both lists are sorted, so they are equal and not only rearranged.
  have equal := (filled.trans same).eq_of_pairwise
    (fun _ _ _ _ below above => absurd above (String.lt_asymm below)) (StringMap.sorted _) map.sorted
  cases map
  rw [StringMap.mk.injEq]
  exact equal

/-! ## Rearrangements -/

/-- Whether a function on documents changes nothing but the order of members. -/
structure Rearranges (present : Json → Json) : Prop where
  null : present null = null
  bool (value : Bool) : present (bool value) = .bool value
  integer (value : Int) : present (integer value) = .integer value
  string (text : String) : present (string text) = .string text
  array (items : List Json) : present (array items) = .array (items.map present)
  object {members : List (String × Json)} (distinct : HaveDistinctNames members) :
    ∃ arranged, present (object members) = .object arranged ∧
      arranged.Perm (members.map fun entry => (entry.1, present entry.2))

theorem rearranges_id : Rearranges id where
  null := rfl
  bool _ := rfl
  integer _ := rfl
  string _ := rfl
  array items := by rw [List.map_id, id]
  object {members} _ := ⟨members, rfl, .of_eq (List.map_id members).symm⟩

theorem sortedItems_eq (items : List Json) : sortedItems items = items.map sorted := by
  induction items with
  | nil => rfl
  | cons first rest inductionHypothesis => rw [sortedItems, inductionHypothesis, List.map_cons]

theorem sortedMembers_eq (members : List (String × Json)) :
    sortedMembers members = members.map fun entry => (entry.1, entry.2.sorted) := by
  induction members with
  | nil => rfl
  | cons first rest inductionHypothesis => rw [sortedMembers, inductionHypothesis, List.map_cons]

theorem rearranges_sorted : Rearranges sorted where
  null := by rw [sorted]
  bool _ := by rw [sorted]
  integer _ := by rw [sorted]
  string _ := by rw [sorted]
  array items := by rw [sorted, sortedItems_eq]
  object {members} distinct := by
    rw [sorted, sortedMembers_eq]
    exact ⟨_, rfl, perm_sortMembers distinct.map⟩

/-! ## What readers find -/

variable {present : Json → Json}

/-- The fields of a record are found under their names, whatever their order. -/
theorem Rearranges.fields?_record (arranges : Rearranges present) {names : List String}
    {members : List (String × Option Json)} (named : members.map Prod.fst = names)
    (distinct : names.Nodup) :
    fields? names (present (record members)) = some (members.map fun entry => entry.2.map present) := by
  subst named
  have apart : HaveDistinctNames members := List.pairwise_map.mp distinct
  have given : HaveDistinctNames
      (members.filterMap fun entry => entry.2.map fun value => (entry.1, value)) := by
    refine List.pairwise_filterMap.mpr (apart.imp fun {first second} apart => ?_)
    intro _ left _ right
    rcases Option.map_eq_some_iff.mp left with ⟨_, _, rfl⟩
    rcases Option.map_eq_some_iff.mp right with ⟨_, _, rfl⟩
    exact apart
  rcases arranges.object given with ⟨arranged, same, listed⟩
  have unique : HaveDistinctNames arranged := given.map.perm listed.symm
  rw [record, same, fields?, List.map_map]
  refine congrArg some (List.map_congr_left fun entry member => Option.ext fun value => ?_)
  rw [Function.comp_apply, unique.lookup_eq_some_iff, listed.mem_iff, List.mem_map]
  constructor
  · rintro ⟨found, kept, shown⟩
    rcases List.mem_filterMap.mp kept with ⟨other, there, written⟩
    rcases Option.map_eq_some_iff.mp written with ⟨content, full, rfl⟩
    rcases Prod.mk.inj shown with ⟨name, rfl⟩
    -- Of one name there is one field, so this is the field that was looked for.
    have found : members.lookup entry.1 = some other.2 :=
      apart.lookup_eq_some_iff.mpr (name ▸ there)
    have sought : members.lookup entry.1 = some entry.2 := apart.lookup_eq_some_iff.mpr member
    rw [Option.some.inj (sought.symm.trans found), full, Option.map_some]
  · intro shown
    rcases Option.map_eq_some_iff.mp shown with ⟨content, full, rfl⟩
    refine ⟨(entry.1, content), List.mem_filterMap.mpr ⟨entry, member, ?_⟩, rfl⟩
    rw [full, Option.map_some]

/-- Reading goes item by item, so what can be read of each can be read of all. -/
theorem mapM_eq_some_map {read : α → Option β} {value : α → β} {items : List α}
    (readable : ∀ item ∈ items, read item = some (value item)) :
    items.mapM read = some (items.map value) := by
  induction items with
  | nil => rfl
  | cons first rest inductionHypothesis =>
      rcases List.forall_mem_cons.mp readable with ⟨head, tail⟩
      rw [List.mapM_cons, head, inductionHypothesis tail]
      rfl

theorem Rearranges.toStringMap?_ofStringMap (arranges : Rearranges present) (map : StringMap) :
    toStringMap? (present (ofStringMap map)) = some map := by
  have distinct : HaveDistinctNames (map.entries.map fun entry => (entry.1, Json.string entry.2)) :=
    (haveDistinctNames_entries map).map
  rcases arranges.object distinct with ⟨arranged, same, listed⟩
  have texts : (map.entries.map fun entry => (entry.1, Json.string entry.2)).map
      (fun entry => (entry.1, present entry.2)) =
        map.entries.map fun entry => (entry.1, Json.string entry.2) := by
    rw [List.map_map]
    refine List.map_congr_left fun entry _ => ?_
    rw [Function.comp_apply, arranges.string]
  rw [texts] at listed
  have readable : ∀ entry ∈ arranged, (toString? entry.2).map (fun value => (entry.1, value)) =
      some (entry.1, (toString? entry.2).getD "") := by
    intro entry member
    rcases List.mem_map.mp (listed.mem_iff.mp member) with ⟨original, _, rfl⟩
    rfl
  have restored : (arranged.map fun entry => (entry.1, (toString? entry.2).getD "")).Perm map.entries := by
    have back := listed.map fun entry : String × Json => (entry.1, (toString? entry.2).getD "")
    rw [List.map_map] at back
    exact back.trans (.of_eq (List.map_id' _))
  rw [ofStringMap, same, toStringMap?, mapM_eq_some_map readable, Option.map_some,
    ofList_eq_of_perm restored]

end Json
end Testbed
