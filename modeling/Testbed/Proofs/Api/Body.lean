import Testbed.Api.Client
import Testbed.Proofs.Api.Nesting
import Testbed.Proofs.Serial.Rearrangement

namespace Testbed

/-!
# What is sent of a resource, and what comes back

An application sends the document of a resource with its metadata read once, which brings their members into
the order of their names and changes nothing else.  When such a document comes back from the cluster, it is
accepted: as an object, and as what is going when it is deleted.  The latter needs a look at documents which
call themselves a report, as a resource may be of any name.
-/

namespace Json

/-! ## Members in order -/

/-- Whether members stand in the order of their names, and none is repeated. -/
def AreInOrder (members : List (String × Json)) : Prop :=
  members.Pairwise fun earlier later => earlier.1 < later.1

theorem AreInOrder.haveDistinctNames {members : List (String × Json)} (inOrder : AreInOrder members) :
    HaveDistinctNames members := by
  refine List.Pairwise.imp (fun {first second} below same => ?_) inOrder
  rw [same] at below
  exact String.lt_irrefl _ below

theorem mem_insertMember {name : String} {value : Json} {members : List (String × Json)}
    {entry : String × Json} (member : entry ∈ insertMember name value members) :
    entry = (name, value) ∨ entry ∈ members := by
  induction members with
  | nil => exact Or.inl (List.mem_singleton.mp member)
  | cons first rest inductionHypothesis =>
      rw [insertMember] at member
      split at member
      · exact List.mem_cons.mp member
      · split at member
        · rcases List.mem_cons.mp member with rfl | later
          · exact Or.inr List.mem_cons_self
          · exact (inductionHypothesis later).imp_right (List.mem_cons_of_mem first)
        · exact (List.mem_cons.mp member).imp_right (List.mem_cons_of_mem first)

theorem AreInOrder.insertMember {name : String} {value : Json} {members : List (String × Json)}
    (inOrder : AreInOrder members) : AreInOrder (insertMember name value members) := by
  induction members with
  | nil => exact List.pairwise_singleton _ _
  | cons first rest inductionHypothesis =>
      rcases List.pairwise_cons.mp inOrder with ⟨below, others⟩
      rw [Json.insertMember]
      split
      · rename_i before
        refine List.pairwise_cons.mpr ⟨fun entry member => ?_, inOrder⟩
        rcases List.mem_cons.mp member with rfl | later
        · exact before
        · exact String.lt_trans before (below entry later)
      · rename_i notBefore
        split
        · rename_i after
          refine List.pairwise_cons.mpr ⟨fun entry member => ?_, inductionHypothesis others⟩
          rcases mem_insertMember member with rfl | old
          · exact after
          · exact below entry old
        · rename_i notAfter
          have same : name = first.1 :=
            String.le_antisymm (String.not_lt.1 notAfter) (String.not_lt.1 notBefore)
          rw [same]
          exact List.pairwise_cons.mpr ⟨below, others⟩

/-- What is inserted one after another is in order, and comes from what there was. -/
theorem foldl_insertMember {members placed : List (String × Json)} (inOrder : AreInOrder placed) :
    AreInOrder (members.foldl (fun sorted entry => insertMember entry.1 entry.2 sorted) placed) ∧
      ∀ entry ∈ members.foldl (fun sorted entry => insertMember entry.1 entry.2 sorted) placed,
        entry ∈ members ∨ entry ∈ placed := by
  induction members generalizing placed with
  | nil => exact ⟨inOrder, fun _ member => Or.inr member⟩
  | cons first rest inductionHypothesis =>
      have grown : AreInOrder (insertMember first.1 first.2 placed) := inOrder.insertMember
      rcases inductionHypothesis grown with ⟨whole, origin⟩
      refine ⟨whole, fun entry member => ?_⟩
      rcases origin entry member with later | earlier
      · exact Or.inl (List.mem_cons_of_mem first later)
      · rcases mem_insertMember earlier with rfl | old
        · exact Or.inl List.mem_cons_self
        · exact Or.inr old

theorem areInOrder_sortMembers (members : List (String × Json)) : AreInOrder (sortMembers members) :=
  (foldl_insertMember List.Pairwise.nil).1

theorem mem_of_mem_sortMembers {members : List (String × Json)} {entry : String × Json}
    (member : entry ∈ sortMembers members) : entry ∈ members :=
  ((foldl_insertMember List.Pairwise.nil).2 entry member).resolve_right fun none => nomatch none

/-- What is in order stays as it is. -/
theorem sortMembers_of_areInOrder {members : List (String × Json)} (inOrder : AreInOrder members) :
    sortMembers members = members :=
  (perm_sortMembers inOrder.haveDistinctNames).eq_of_pairwise
    (fun _ _ _ _ below above => absurd above (String.lt_asymm below))
    (areInOrder_sortMembers members) inOrder

theorem sorted_ofStringMap (map : StringMap) : (ofStringMap map).sorted = ofStringMap map := by
  have inOrder : AreInOrder (map.entries.map fun entry => (entry.1, string entry.2)) :=
    List.pairwise_map.mpr map.sorted
  have same : (map.entries.map fun entry => (entry.1, string entry.2)).map
      (fun entry => (entry.1, entry.2.sorted)) = map.entries.map fun entry => (entry.1, string entry.2) := by
    rw [List.map_map]
    refine List.map_congr_left fun entry _ => ?_
    rw [Function.comp_apply, sorted]
  rw [ofStringMap, sorted, sortedMembers_eq, same, sortMembers_of_areInOrder inOrder]

end Json

/-! ## Reading metadata -/

/-- Members that are read as they are can be read one by one, which puts them in order. -/
theorem Shape.readMembers_ofMembers {read : String → RawJson → Except String (Option (Option Json))}
    {members seen : List (String × Json)}
    (reads : ∀ entry ∈ members, read entry.1 (.ofJson entry.2) = .ok (some (some entry.2))) :
    readMembers read seen (RawJson.ofMembers members) =
      .ok (members.foldl (fun placed entry => Json.insertMember entry.1 entry.2 placed) seen) := by
  induction members generalizing seen with
  | nil => rfl
  | cons first rest inductionHypothesis =>
      rcases List.forall_mem_cons.mp reads with ⟨head, tail⟩
      rw [RawJson.ofMembers, readMembers, head]
      exact inductionHypothesis tail

theorem Shape.readWithin_stringMap {depth inner : Option Nat} (roomy : RawJson.enter? depth = some inner)
    (map : StringMap) :
    Schema.stringMap.readWithin depth (.ofJson (Json.ofStringMap map)) = .ok (Json.ofStringMap map) := by
  have inOrder : Json.AreInOrder (map.entries.map fun entry => (entry.1, Json.string entry.2)) :=
    List.pairwise_map.mpr map.sorted
  have sorted := Json.sortMembers_of_areInOrder inOrder
  rw [Schema.stringMap, Json.ofStringMap, RawJson.ofJson, readWithin, inside, roomy]
  dsimp only
  rw [readMembers_ofMembers]
  · exact congrArg (fun members => Except.ok (Json.object members)) sorted
  · intro entry member
    rcases List.mem_map.mp member with ⟨original, _, rfl⟩
    rfl

namespace Metadata

variable {depth inner innermost : Option Nat}

/-- The fields of metadata that are written. -/
theorem mem_members {value : Metadata} {entry : String × Json} (member : entry ∈ value.toJson.members) :
    entry = ("name", .string value.name) ∨ entry = ("namespace", .string value.space) ∨
      entry = ("labels", .ofStringMap value.labels) ∨
      entry = ("annotations", .ofStringMap value.annotations) := by
  rcases List.mem_filterMap.mp member with ⟨field, listed, written⟩
  rcases Option.map_eq_some_iff.mp written with ⟨content, full, rfl⟩
  simp only [List.mem_cons, List.not_mem_nil, or_false] at listed
  rcases listed with rfl | rfl | rfl | rfl
  · cases full
    exact Or.inl rfl
  · cases full
    exact Or.inr (Or.inl rfl)
  · rw [Json.unlessEmpty] at full
    split at full <;> cases full
    exact Or.inr (Or.inr (Or.inl rfl))
  · rw [Json.unlessEmpty] at full
    split at full <;> cases full
    exact Or.inr (Or.inr (Or.inr rfl))

theorem sorted_toJson (value : Metadata) :
    value.toJson.sorted = .object (Json.sortMembers value.toJson.members) := by
  have same : value.toJson.members.map (fun entry => (entry.1, entry.2.sorted)) = value.toJson.members := by
    refine (List.map_congr_left fun entry member => ?_).trans (List.map_id _)
    rcases mem_members member with rfl | rfl | rfl | rfl
    · rw [Json.sorted, id]
    · rw [Json.sorted, id]
    · rw [Json.sorted_ofStringMap, id]
    · rw [Json.sorted_ofStringMap, id]
  change (Json.object value.toJson.members).sorted = _
  rw [Json.sorted, Json.sortedMembers_eq, same]

/-- Metadata in order are read as they are, where there is room for the maps in them. -/
theorem readWithin_sorted (value : Metadata) (roomy : RawJson.enter? depth = some inner)
    (roomier : RawJson.enter? inner = some innermost) :
    Schema.objectMetadata.readWithin depth (.ofJson value.toJson.sorted) = .ok value.toJson.sorted := by
  have inOrder := Json.areInOrder_sortMembers value.toJson.members
  have sorted := Json.sortMembers_of_areInOrder inOrder
  rw [sorted_toJson, Schema.objectMetadata, RawJson.ofJson, Shape.readWithin, Shape.inside, roomy]
  dsimp only
  rw [Shape.readMembers_ofMembers]
  · -- No field of metadata is required, so nothing is added to what has been read.
    change Except.ok (Json.object (Json.sortMembers (Json.sortMembers (Json.sortMembers _)))) = _
    rw [sorted, sorted]
  · intro entry member
    rcases mem_members (Json.mem_of_mem_sortMembers member) with rfl | rfl | rfl | rfl
    · rfl
    · rfl
    · change (Schema.stringMap.readWithin inner _).map (fun seen => some (some seen)) = _
      rw [Shape.readWithin_stringMap roomier]
      rfl
    · change (Schema.stringMap.readWithin inner _).map (fun seen => some (some seen)) = _
      rw [Shape.readWithin_stringMap roomier]
      rfl

theorem read_toJson (value : Metadata) :
    Schema.objectMetadata.read value.toJson = .ok value.toJson.sorted :=
  value.readWithin_sorted rfl rfl

theorem fitsPart_sorted (value : Metadata) :
    Schema.objectMetadata.fitsPart (.ofJson value.toJson.sorted) = true := by
  rw [Shape.fitsPart, value.readWithin_sorted rfl rfl]
  rfl

end Metadata

/-! ## Bodies -/

namespace Resource

/-- What is sent of a resource: its document, with the members of its metadata in order. -/
def body (resource : Resource) : Json :=
  .object (resource.toJson.members.map fun entry =>
    if entry.1 == "metadata" then (entry.1, resource.metadata.toJson.sorted) else entry)

/-- The names of what documents of resources consist of, apart from their heads. -/
def partNames : List String :=
  ["data", "binaryData", "rules", "roleRef", "subjects", "spec"]

/-- The fields of a resource: a head, and parts. -/
theorem exists_fields (resource : Resource) :
    ∃ apiVersion kind fields, (∀ field ∈ fields, field.1 ∈ partNames) ∧
      resource.toJson = .record (("apiVersion", some (.string apiVersion)) :: ("kind", some (.string kind)) ::
        ("metadata", some resource.metadata.toJson) :: fields) := by
  cases resource <;> exact ⟨_, _, _, by simp [partNames], rfl⟩

/-- The document of a resource consists of a head and parts, and so does what is sent of it. -/
theorem exists_parts (resource : Resource) :
    ∃ apiVersion kind parts, (∀ entry ∈ parts, entry.1 ∈ partNames) ∧
      (∀ depth, ∀ entry ∈ parts, entry.2.NestsWithin (depth + 8)) ∧
      resource.toJson = .object (("apiVersion", .string apiVersion) :: ("kind", .string kind) ::
        ("metadata", resource.metadata.toJson) :: parts) ∧
      resource.body = .object (("apiVersion", .string apiVersion) :: ("kind", .string kind) ::
        ("metadata", resource.metadata.toJson.sorted) :: parts) := by
  rcases resource.exists_fields with ⟨apiVersion, kind, fields, named, document⟩
  have parts : ∀ entry ∈ fields.filterMap (fun field => field.2.map fun value => (field.1, value)),
      entry.1 ∈ partNames := by
    intro entry member
    rcases List.mem_filterMap.mp member with ⟨field, listed, written⟩
    rcases Option.map_eq_some_iff.mp written with ⟨value, _, rfl⟩
    exact named field listed
  have unchanged : (fields.filterMap fun field => field.2.map fun value => (field.1, value)).map
      (fun entry => if entry.1 == "metadata" then (entry.1, resource.metadata.toJson.sorted) else entry) =
        fields.filterMap fun field => field.2.map fun value => (field.1, value) := by
    refine (List.map_congr_left fun entry member => if_neg fun same => ?_).trans (List.map_id _)
    have listed := parts entry member
    rw [eq_of_beq same] at listed
    exact absurd listed (by decide)
  refine ⟨apiVersion, kind, _, parts, fun depth entry member => ?_, document, ?_⟩
  · have nested : resource.toJson.NestsWithin (depth + 9) := resource.nestsWithin
    rw [document, Json.record, Json.nestsWithin_object] at nested
    exact nested entry (List.mem_cons_of_mem _ (List.mem_cons_of_mem _ (List.mem_cons_of_mem _ member)))
  · rw [body, document]
    exact congrArg (fun rest => Json.object (_ :: _ :: _ :: rest)) unchanged

/-- An application of a resource is never refused for its metadata. -/
theorem applyBody_toJson (resource : Resource) (subject : String) :
    Api.applyBody subject resource.toJson = .ok resource.body := by
  rcases resource.exists_parts with ⟨apiVersion, kind, parts, _, _, document, _⟩
  have metadata : resource.toJson.member? "metadata" = some resource.metadata.toJson := by
    rw [document]
    rfl
  rw [Api.applyBody, metadata, Option.map_some, resource.metadata.read_toJson]
  rfl

end Resource

/-! ## What comes back -/

namespace RawJson

theorem isSome_name_ofMembers (members : List (String × Json)) :
    (ofMembers members).all (fun entry => entry.1.isSome) = true := by
  induction members with
  | nil => rfl
  | cons first rest inductionHypothesis => exact inductionHypothesis

theorem occurrences_ofMembers {name : String} {members : List (String × Json)}
    (absent : ∀ entry ∈ members, entry.1 ≠ name) : occurrences name (ofMembers members) = [] := by
  induction members with
  | nil => rfl
  | cons first rest inductionHypothesis =>
      rcases List.forall_mem_cons.mp absent with ⟨apart, others⟩
      have other : (some first.1 == some name) = false := by
        rw [Option.some_beq_some]
        exact beq_false_of_ne apart
      rw [ofMembers, occurrences, List.filter_cons, other, if_neg Bool.false_ne_true]
      exact inductionHypothesis others

theorem openFields?_ofJson {names : List String} {members : List (String × Json)}
    (nested : ∀ entry ∈ members, entry.2.NestsWithin 126) :
    openFields? names (.ofJson (.object members)) = names.mapM (unique? (ofMembers members)) := by
  have valued : (ofMembers members).all (fun entry =>
      entry.1.any names.contains || (entry.2.value? (some 126)).isSome) = true := by
    induction members with
    | nil => rfl
    | cons first rest inductionHypothesis =>
        rcases List.forall_mem_cons.mp nested with ⟨head, tail⟩
        rw [ofMembers, List.all_cons, inductionHypothesis tail, Bool.and_true, Bool.or_eq_true]
        exact Or.inr head
  rw [ofJson, openFields?, if_pos valued, fields?, if_pos (isSome_name_ofMembers members)]

/-- Fields that are not there are absent. -/
theorem fields?_of_absent {names : List String} {members : List (String × Json)}
    (absent : ∀ name ∈ names, ∀ entry ∈ members, entry.1 ≠ name) :
    fields? names (.ofJson (.object members)) = some (names.map fun _ => none) := by
  rw [ofJson, fields?, if_pos (isSome_name_ofMembers members)]
  refine Json.mapM_eq_some_map fun name listed => ?_
  rw [unique?, occurrences_ofMembers (absent name listed)]

end RawJson

namespace Resource

theorem sorted_metadata_nestsWithin (resource : Resource) (depth : Nat) :
    resource.metadata.toJson.sorted.NestsWithin (depth + 2) := by
  rw [resource.metadata.sorted_toJson, Json.nestsWithin_object]
  intro entry member
  rcases resource.metadata.mem_members (Json.mem_of_mem_sortMembers member) with rfl | rfl | rfl | rfl <;> simp

/-- What is sent of a resource has members of few names, which are nested to little depth; one of them is its
metadata. -/
theorem exists_members (resource : Resource) :
    ∃ members, resource.body = .object members ∧
      (∀ entry ∈ members, entry.1 ∈ ["apiVersion", "kind", "metadata"] ++ partNames) ∧
      (∀ depth, ∀ entry ∈ members, entry.2.NestsWithin (depth + 8)) ∧
      RawJson.occurrences "metadata" (RawJson.ofMembers members) =
        [.ofJson resource.metadata.toJson.sorted] := by
  rcases resource.exists_parts with ⟨apiVersion, kind, parts, named, nested, _, body⟩
  refine ⟨_, body, ?_, fun depth => ?_, ?_⟩
  · simp only [List.forall_mem_cons]
    refine ⟨by decide, by decide, by decide, fun entry member => ?_⟩
    exact List.mem_append_right _ (named entry member)
  · simp only [List.forall_mem_cons, Json.nestsWithin_string, true_and]
    exact ⟨resource.sorted_metadata_nestsWithin (depth + 6), nested depth⟩
  · have absent : ∀ entry ∈ parts, entry.1 ≠ "metadata" := fun entry member same =>
      absurd (same ▸ named entry member) (by decide)
    change _ :: RawJson.occurrences "metadata" (RawJson.ofMembers parts) = _
    rw [RawJson.occurrences_ofMembers absent]

/-- What is sent of a resource is an object when it comes back. -/
theorem isObject_body (resource : Resource) : Api.isObject (.ofJson resource.body) = true := by
  rcases resource.exists_members with ⟨members, body, _, nested, metadata⟩
  have found : ["metadata"].mapM (RawJson.unique? (RawJson.ofMembers members)) =
      some [some (.ofJson resource.metadata.toJson.sorted)] := by
    rw [List.mapM_cons, RawJson.unique?, metadata]
    rfl
  rw [body, Api.isObject, RawJson.openFields?_ofJson (nested 118), found]
  exact resource.metadata.fitsPart_sorted

/-- What is sent of a resource is accepted when it comes back from a deletion, even if it calls itself a
report: then it is an empty one. -/
theorem isFarewell_body (resource : Resource) : Api.isFarewell (.ofJson resource.body) = true := by
  rcases resource.exists_members with ⟨members, body, named, nested, _⟩
  have shallow : resource.body.NestsWithin 127 := by
    rw [body, Json.nestsWithin_object]
    exact nested 118
  rcases Option.isSome_iff_exists.mp shallow with ⟨value, read⟩
  rw [Api.isFarewell, RawJson.maxDepth, read]
  dsimp only
  split
  · have absent : ∀ name ∈ ["status", "code", "message", "reason", "details"], ∀ entry ∈ members,
        entry.1 ≠ name := by
      rintro name listed entry member rfl
      have both : ∀ other ∈ ["apiVersion", "kind", "metadata"] ++ partNames,
          other ∉ ["status", "code", "message", "reason", "details"] := by decide
      exact both entry.1 (named entry member) listed
    rw [body, Api.readReport, RawJson.fields?_of_absent absent]
    rfl
  · exact resource.isObject_body

end Resource
end Testbed
