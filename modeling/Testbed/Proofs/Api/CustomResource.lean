import Testbed.Proofs.Api.Address

namespace Testbed

/-!
# What is sent of a custom resource

A custom resource is any document a caller hands over.  Of an object, the API gets the type, the name and the
namespace that are asked for, whatever the object says of them, and every other field as it is.  That is so as
long as name and namespace can be put into its metadata, that is, if these are an object, null or absent.
Other metadata end the program, and nothing comes of the run that the custom resource belongs to.
-/

namespace Json

/-! ## Looking up members -/

/-- What an object says under a name: of members with one name the last counts. -/
def said? (document : Json) (name : String) : Option Json :=
  document.members.reverse.lookup name

theorem lookup_cons_eq (first : String × Json) (rest : List (String × Json)) (field : String) :
    (first :: rest).lookup field = if field = first.1 then some first.2 else rest.lookup field := by
  rw [List.lookup_cons]
  by_cases same : field = first.1
  · rw [if_pos same, beq_iff_eq.mpr same]
  · rw [if_neg same, beq_false_of_ne same]

theorem lookup_insertMember (name : String) (value : Json) (members : List (String × Json)) (field : String) :
    (insertMember name value members).lookup field =
      if field = name then some value else members.lookup field := by
  induction members with
  | nil => exact lookup_cons_eq (name, value) [] field
  | cons first rest inductionHypothesis =>
      rw [insertMember]
      split
      · exact lookup_cons_eq (name, value) (first :: rest) field
      · rename_i notBelow
        split
        · rename_i above
          rw [lookup_cons_eq, lookup_cons_eq, inductionHypothesis]
          by_cases here : field = name
          · rw [if_pos here, if_pos here, if_neg fun same => String.ne_of_lt above (same.symm.trans here)]
          · rw [if_neg here, if_neg here]
        · rename_i notAbove
          have replaced : name = first.1 :=
            String.le_antisymm (String.not_lt.1 notAbove) (String.not_lt.1 notBelow)
          rw [lookup_cons_eq, lookup_cons_eq, ← replaced]
          by_cases here : field = name
          · rw [if_pos here, if_pos here]
          · rw [if_neg here, if_neg here, if_neg here]

/-- Sorting members keeps, of those with one name, the last. -/
theorem lookup_sortMembers (members : List (String × Json)) (field : String) :
    (sortMembers members).lookup field = members.reverse.lookup field := by
  have placing (placed : List (String × Json)) :
      (members.foldl (fun sorted entry => insertMember entry.1 entry.2 sorted) placed).lookup field =
        (members.reverse ++ placed).lookup field := by
    induction members generalizing placed with
    | nil => rfl
    | cons first rest inductionHypothesis =>
        rw [List.foldl_cons, inductionHypothesis, List.reverse_cons, List.append_assoc, List.lookup_append,
          List.lookup_append, lookup_insertMember, List.singleton_append, lookup_cons_eq]
  rw [sortMembers, placing, List.append_nil]

theorem lookup_filter_ne {name field : String} (apart : field ≠ name) (members : List (String × Json)) :
    (members.filter fun entry => entry.1 != name).lookup field = members.lookup field := by
  induction members with
  | nil => rfl
  | cons first rest inductionHypothesis =>
      rw [List.filter_cons, lookup_cons_eq]
      split
      · rw [lookup_cons_eq, inductionHypothesis]
      · rename_i dropped
        have same : first.1 = name := by simpa using dropped
        rw [inductionHypothesis, if_neg (same ▸ apart)]

/-- Where no name is repeated, the last member of a name is the one there is. -/
theorem AreInOrder.lookup_reverse {members : List (String × Json)} (inOrder : AreInOrder members)
    (field : String) : members.reverse.lookup field = members.lookup field := by
  rw [← lookup_sortMembers, sortMembers_of_areInOrder inOrder]

end Json

/-! ## Members read one by one -/

theorem RawJson.ofMembers_eq (members : List (String × Json)) :
    ofMembers members = members.map fun entry => (some entry.1, ofJson entry.2) := by
  induction members with
  | nil => rfl
  | cons first rest inductionHypothesis => rw [ofMembers, inductionHypothesis, List.map_cons]

namespace Shape

variable {read : String → RawJson → Except String (Option (Option Json))} {seen found : List (String × Json)}
  {members : List (Option String × RawJson)}

theorem areInOrder_readMembers (inOrder : Json.AreInOrder seen)
    (result : readMembers read seen members = .ok found) : Json.AreInOrder found := by
  induction members generalizing seen with
  | nil =>
      cases result
      exact inOrder
  | cons first rest inductionHypothesis =>
      rcases first with ⟨name | name, value⟩
      · cases result
      · cases reading : read name value with
        | error message =>
            rw [readMembers, reading] at result
            cases result
        | ok outcome =>
            rw [readMembers, reading] at result
            rcases outcome with _ | _ | content
            · exact inductionHypothesis inOrder result
            · exact inductionHypothesis (inOrder.filter _) result
            · exact inductionHypothesis inOrder.insertMember result

/-- What every member of a name is read as is what is found under it. -/
theorem lookup_readMembers {field : String} {content : Json}
    (result : readMembers read seen members = .ok found)
    (reads : ∀ entry ∈ members, entry.1 = some field → read field entry.2 = .ok (some (some content)))
    (known : seen.lookup field = some content ∨ ∃ entry ∈ members, entry.1 = some field) :
    found.lookup field = some content := by
  induction members generalizing seen with
  | nil =>
      cases result
      rcases known with seen | ⟨entry, listed, _⟩
      · exact seen
      · cases listed
  | cons first rest inductionHypothesis =>
      rcases List.forall_mem_cons.mp reads with ⟨head, tail⟩
      rcases first with ⟨name | name, value⟩
      · cases result
      · rw [readMembers] at result
        by_cases here : name = field
        · subst here
          rw [head rfl] at result
          exact inductionHypothesis result tail (Or.inl ((Json.lookup_insertMember _ _ _ _).trans (if_pos rfl)))
        · have later (kept : List (String × Json)) (same : kept.lookup field = seen.lookup field) :
              kept.lookup field = some content ∨ ∃ entry ∈ rest, entry.1 = some field := by
            rcases known with known | ⟨entry, listed, named⟩
            · exact Or.inl (same.trans known)
            · refine Or.inr ⟨entry, (List.mem_cons.mp listed).resolve_left fun first => here ?_, named⟩
              rw [first] at named
              exact Option.some.inj named
          cases reading : read name value with
          | error message =>
              rw [reading] at result
              cases result
          | ok outcome =>
              rw [reading] at result
              rcases outcome with _ | _ | other
              · exact inductionHypothesis result tail (later seen rfl)
              · refine inductionHypothesis result tail (later _ ?_)
                exact Json.lookup_filter_ne (Ne.symm here) seen
              · refine inductionHypothesis result tail (later _ ?_)
                rw [Json.lookup_insertMember, if_neg (Ne.symm here)]

/-- A text in a document is there when the document has been read, if the record has a field for it and
requires none. -/
theorem member?_of_read {name field text : String} {fields : List (String × Option Json × Shape)}
    {members : List (String × Json)} {seen : Json} (optional : fields.all (fun listed => listed.2.1.isNone) = true)
    (texts : readField none fields field (.string (some text)) = .ok (some (some (.string text))))
    (inOrder : Json.AreInOrder members) (given : members.lookup field = some (.string text))
    (result : (record name fields).read (.object members) = .ok seen) :
    seen.member? field = some (.string text) := by
  have sortedInOrder : Json.AreInOrder (members.map fun entry => (entry.1, entry.2.sorted)) :=
    List.pairwise_map.mpr inOrder
  rw [read, Json.sorted, Json.sortedMembers_eq, Json.sortMembers_of_areInOrder sortedInOrder, RawJson.ofJson,
    readWithin, inside, RawJson.enter?] at result
  dsimp only at result
  cases reading : readMembers (readField none fields) []
      (RawJson.ofMembers (members.map fun entry => (entry.1, entry.2.sorted))) with
  | error message =>
      rw [reading] at result
      cases result
  | ok found =>
      rw [reading] at result
      cases result
      have nothing : fields.filterMap (fun listed => listed.2.1.map fun value => (listed.1, value)) = [] :=
        List.filterMap_eq_nil_iff.mpr fun listed member => by
          rw [Option.isNone_iff_eq_none.mp (List.all_eq_true.mp optional listed member), Option.map_none]
      have filled : fillIn fields found = Json.sortMembers found :=
        congrArg (fun empty => Json.sortMembers (empty ++ found)) nothing
      rw [Json.member?, Json.members, filled, Json.lookup_sortMembers,
        (areInOrder_readMembers List.Pairwise.nil reading).lookup_reverse]
      have listed : (field, Json.string text) ∈ members :=
        inOrder.haveDistinctNames.lookup_eq_some_iff.mp given
      rw [RawJson.ofMembers_eq, List.map_map] at reading
      refine lookup_readMembers reading (fun entry member named => ?_) (Or.inr ?_)
      · rcases List.mem_map.mp member with ⟨original, origin, rfl⟩
        have same : original.1 = field := Option.some.inj named
        have value : original.2 = .string text := by
          have found := inOrder.haveDistinctNames.lookup_eq_some_iff.mpr origin
          rw [same, given] at found
          exact (Option.some.inj found).symm
        rw [Function.comp_apply, value, Json.sorted]
        exact texts
      · exact ⟨_, List.mem_map.mpr ⟨_, listed, rfl⟩, rfl⟩

end Shape

namespace Api

variable {client : Client} {name : String} {type : CustomType}

namespace Client

/-! ## Bodies -/

theorem member?_customMetadata (client : Client) (name : String) (given : List (String × Json)) (field : String) :
    (client.customMetadata name given).member? field =
      if field = "namespace" then some (.string client.space)
      else if field = "name" then some (.string name) else given.reverse.lookup field := by
  rw [customMetadata, Json.member?, Json.members, Json.lookup_insertMember, Json.lookup_insertMember,
    Json.lookup_sortMembers]

theorem member?_customObject (type : CustomType) (members : List (String × Json)) (metadata : Json)
    (field : String) :
    (customObject type members metadata).member? field =
      if field = "metadata" then some metadata
      else if field = "kind" then some (.string type.kind)
      else if field = "apiVersion" then some (.string type.apiVersion)
      else (Json.object members).said? field := by
  rw [customObject, Json.member?, Json.members, Json.lookup_insertMember, Json.lookup_insertMember,
    Json.lookup_insertMember, Json.lookup_sortMembers]
  rfl

/-- Metadata keep the name and the namespace that are put into them when they are read. -/
theorem member?_of_read_customMetadata {given : List (String × Json)} {metadata : Json}
    (readable : Schema.objectMetadata.read (client.customMetadata name given) = .ok metadata) :
    metadata.member? "name" = some (.string name) ∧
      metadata.member? "namespace" = some (.string client.space) := by
  have inOrder : Json.AreInOrder (Json.insertMember "namespace" (.string client.space)
      (Json.insertMember "name" (.string name) (Json.sortMembers given))) :=
    (Json.areInOrder_sortMembers given).insertMember.insertMember
  have put := member?_customMetadata client name given
  exact ⟨Shape.member?_of_read rfl rfl inOrder (put "name") readable,
    Shape.member?_of_read rfl rfl inOrder (put "namespace") readable⟩

/-- Metadata that say nothing can be read with a name and a namespace. -/
theorem exists_read_customMetadata_nil (client : Client) (name : String) :
    ∃ metadata, Schema.objectMetadata.read (client.customMetadata name []) = .ok metadata := by
  have below : "name" < "namespace" := by decide
  have plain : client.customMetadata name [] = Metadata.toJson { name, space := client.space } := by
    rw [customMetadata, Json.sortMembers, List.foldl_nil, Json.insertMember, Json.insertMember,
      if_neg (String.lt_asymm below), if_pos below]
    rfl
  exact ⟨_, plain ▸ Metadata.read_toJson _⟩

/-- What the API gets of a custom resource: the type, the name and the namespace that are asked for, and
everything else as the object says it. -/
structure IsCustomBody (client : Client) (name : String) (type : CustomType) (object metadata body : Json) :
    Prop where
  inOrder : Json.AreInOrder body.members
  apiVersion : body.member? "apiVersion" = some (.string type.apiVersion)
  kind : body.member? "kind" = some (.string type.kind)
  described : body.member? "metadata" = some metadata
  named : metadata.member? "name" = some (.string name)
  spaced : metadata.member? "namespace" = some (.string client.space)
  others (field : String) (apart : field ∉ ["apiVersion", "kind", "metadata"]) :
    body.member? field = object.said? field

theorem lookup_map_metadata (metadata : Json) (members : List (String × Json)) (field : String) :
    (members.map fun entry => if entry.1 == "metadata" then (entry.1, metadata) else entry).lookup field =
      if field = "metadata" then (members.lookup field).map fun _ => metadata else members.lookup field := by
  induction members with
  | nil => rw [List.map_nil, List.lookup_nil, Option.map_none, ite_self]
  | cons first rest inductionHypothesis =>
      rw [List.map_cons, Json.lookup_cons_eq, Json.lookup_cons_eq, inductionHypothesis]
      by_cases replaced : first.1 = "metadata"
      · rw [if_pos (beq_iff_eq.mpr replaced)]
        by_cases here : field = first.1
        · rw [if_pos here, if_pos (here.trans replaced), if_pos here, Option.map_some]
        · rw [if_neg here, if_neg here]
      · rw [if_neg fun same => replaced (eq_of_beq same)]
        by_cases here : field = first.1
        · rw [if_pos here, if_neg fun same => replaced (here.symm.trans same), if_pos here]
        · rw [if_neg here, if_neg here]

/-- An application of a custom resource is prepared exactly when its metadata can be read. -/
theorem exists_applyBody_customObject (type : CustomType) (members : List (String × Json))
    {given : List (String × Json)} {metadata : Json}
    (readable : Schema.objectMetadata.read (client.customMetadata name given) = .ok metadata) :
    ∃ body, applyBody type.kind (customObject type members (client.customMetadata name given)) = .ok body ∧
      IsCustomBody client name type (.object members) metadata body := by
  have put := member?_customObject type members (client.customMetadata name given)
  let body : Json := .object ((customObject type members (client.customMetadata name given)).members.map
    fun entry => if entry.1 == "metadata" then (entry.1, metadata) else entry)
  have sent (field : String) : body.member? field = if field = "metadata" then some metadata
      else (customObject type members (client.customMetadata name given)).member? field := by
    rw [Json.member?, Json.members, lookup_map_metadata]
    split
    · rename_i here
      rw [here, ← Json.member?, put, if_pos rfl, Option.map_some]
    · rfl
  have names := member?_of_read_customMetadata readable
  refine ⟨body, ?_, ?inOrder, ?apiVersion, ?kind, ?described, names.1, names.2, ?others⟩
  · rw [applyBody, put, if_pos rfl, Option.map_some, readable]
  case inOrder =>
    have inOrder : Json.AreInOrder (customObject type members (client.customMetadata name given)).members :=
      (Json.areInOrder_sortMembers members).insertMember.insertMember.insertMember
    refine List.pairwise_map.mpr (inOrder.imp fun {first second} before => ?_)
    have kept (entry : String × Json) :
        (if entry.1 == "metadata" then (entry.1, metadata) else entry).1 = entry.1 := by
      split <;> rfl
    rw [kept, kept]
    exact before
  case apiVersion => exact (sent "apiVersion").trans (put "apiVersion")
  case kind => exact (sent "kind").trans (put "kind")
  case described => exact sent "metadata"
  case others =>
    intro field apart
    simp only [List.mem_cons, List.not_mem_nil, or_false, not_or] at apart
    rw [sent, put, if_neg apart.2.2, if_neg apart.2.2, if_neg apart.2.1, if_neg apart.1]

/-! ## Requests -/

/-- Where a custom resource is applied. -/
def customTarget (client : Client) (name : String) (type : CustomType) : String :=
  Web.Target.question (client.path type.resourceType name) applyParameters

/-- What is sent of a body: one application, if its text is that of a target.  Where the path has only plain
characters and is not too long, the target is what the path says. -/
structure IsApplied (client : Client) (name : String) (type : CustomType) (body : Json) (sending : Sending) :
    Prop where
  sent {target : Web.Target} (named : name ≠ "")
    (there : Web.Target.read? (client.customTarget name type) = some target) :
    sending = .sends ⟨.patch, target, some ⟨"application/apply-patch+yaml", body⟩⟩
  placed (named : name ≠ "") (plain : Web.Target.IsPlain (client.path type.resourceType name))
    (short : (client.customTarget name type).utf8ByteSize ≤ Web.Target.maxLength) :
    ∃ parameters, sending = .sends ⟨.patch, ⟨client.path type.resourceType name, parameters⟩,
      some ⟨"application/apply-patch+yaml", body⟩⟩
  nowhere (nowhere : name = "" ∨ Web.Target.read? (client.customTarget name type) = none) :
    sending = .refuses .unusableAnswer

/-- A prepared body is applied as soon as there is a target for it. -/
theorem isApplied_of_body {document body : Json} (prepared : applyBody type.kind document = .ok body) :
    client.IsApplied name type body (.ofExcept (client.patch type.resourceType name document)) := by
  have patched : client.patch type.resourceType name document =
      Api.request .patch name (client.customTarget name type) (some ⟨"application/apply-patch+yaml", body⟩) := by
    have kind : type.resourceType.kind = type.kind := rfl
    rw [patch, kind, prepared, customTarget]
    dsimp only [bind, Except.bind]
  have sent {target : Web.Target} (named : name ≠ "")
      (there : Web.Target.read? (client.customTarget name type) = some target) :
      Sending.ofExcept (Api.request .patch name (client.customTarget name type)
        (some ⟨"application/apply-patch+yaml", body⟩)) =
          .sends ⟨.patch, target, some ⟨"application/apply-patch+yaml", body⟩⟩ := by
    have full : name.isEmpty = false := Bool.eq_false_iff.mpr fun empty => named (String.isEmpty_iff.mp empty)
    rw [Api.request, there]
    dsimp only
    rw [full, if_neg Bool.false_ne_true, Sending.ofExcept]
  rw [patched]
  refine ⟨sent, fun named plain short => ?_, fun nowhere => ?_⟩
  · have marks : (applyParameters.flatMap Web.Form.append).all Web.Target.isQueryChar = true := by decide
    rcases Web.Target.exists_read?_question plain (List.all_eq_true.mp marks) short with ⟨parameters, there⟩
    exact ⟨parameters, sent named there⟩
  · cases there : Web.Target.read? (client.customTarget name type) with
    | none =>
        rw [Api.request, there]
        rfl
    | some target =>
        have empty : name = "" := nowhere.resolve_right fun none => Option.some_ne_none _ (there.symm.trans none)
        rw [Api.request, there, empty]
        rfl

/-! ## Runs -/

variable {request : ClusterRequest} {requests : List ClusterRequest} {exchanges : List Exchange}
  {answers : Nat → HttpAnswer} {asked : Nat}

theorem ofExcept_ne_aborts (request : Except Error HttpRequest) : Sending.ofExcept request ≠ .aborts := by
  cases request with
  | error error => exact nofun
  | ok request => exact nofun

/-- Only a custom resource can end the program. -/
theorem exists_createCustom_of_aborts (aborts : client.send request = .aborts) :
    ∃ name type object, request = .createCustom name type object := by
  cases request with
  | createCustom name type object => exact ⟨name, type, object, rfl⟩
  | _ =>
      rw [send] at aborts
      exact absurd aborts (ofExcept_ne_aborts _)

theorem exchange_eq_none_iff {answer : HttpAnswer} :
    client.exchange answer request = none ↔ client.send request = .aborts := by
  rw [exchange]
  cases client.send request with
  | sends sent => exact ⟨nofun, nofun⟩
  | refuses error => exact ⟨nofun, nofun⟩
  | aborts => exact ⟨fun _ => rfl, fun _ => rfl⟩

theorem request_of_exchange {answer : HttpAnswer} {exchanged : Exchange}
    (dealt : client.exchange answer request = some exchanged) : exchanged.request = request := by
  rw [exchange] at dealt
  cases sending : client.send request with
  | sends sent | refuses error =>
      rw [sending] at dealt
      obtain rfl := Option.some.inj dealt
      rfl
  | aborts =>
      rw [sending] at dealt
      cases dealt

theorem converse_cons_of_none (ends : client.exchange (answers asked) request = none) :
    client.converse answers asked (request :: requests) = none := by
  rw [converse, ends]
  rfl

theorem converse_cons_of_some {exchanged : Exchange}
    (dealt : client.exchange (answers asked) request = some exchanged) :
    client.converse answers asked (request :: requests) =
      (client.converse answers (if exchanged.sent.isSome then asked + 1 else asked) requests).map
        (exchanged :: ·) := by
  rw [converse, dealt, Option.map_eq_bind]
  rfl

/-- A run comes to nothing if one of its requests ends the program, wherever it stands and whatever is answered to
the others. -/
theorem converse_eq_none_iff :
    client.converse answers asked requests = none ↔ ∃ request ∈ requests, client.send request = .aborts := by
  induction requests generalizing asked with
  | nil => exact ⟨nofun, fun ⟨_, listed, _⟩ => nomatch listed⟩
  | cons first rest inductionHypothesis =>
      simp only [List.mem_cons, exists_eq_or_imp]
      rw [← exchange_eq_none_iff]
      cases dealt : client.exchange (answers asked) first with
      | none => exact iff_of_true (converse_cons_of_none dealt) (Or.inl rfl)
      | some exchanged =>
          rw [converse_cons_of_some dealt, Option.map_eq_none_iff, inductionHypothesis]
          exact (or_iff_right fun impossible => nomatch impossible).symm

/-- A run that comes to its end has dealt with its requests one by one, in their order. -/
theorem requests_of_converse (ended : client.converse answers asked requests = some exchanges) :
    exchanges.map Exchange.request = requests := by
  induction requests generalizing asked exchanges with
  | nil =>
      obtain rfl := Option.some.inj ended
      rfl
  | cons first rest inductionHypothesis =>
      cases dealt : client.exchange (answers asked) first with
      | none =>
          rw [converse_cons_of_none dealt] at ended
          cases ended
      | some exchanged =>
          rw [converse_cons_of_some dealt] at ended
          rcases Option.map_eq_some_iff.mp ended with ⟨later, followed, rfl⟩
          rw [List.map_cons, request_of_exchange dealt, inductionHypothesis followed]

/-! ## Every document -/

/-- The members that metadata has already, where a name and a namespace can be put into it. -/
inductive TakesMembers : Option Json → List (String × Json) → Prop where
  | absent : TakesMembers none []
  | null : TakesMembers (some .null) []
  | object (members : List (String × Json)) : TakesMembers (some (.object members)) members

/-- What becomes of a custom resource.  What is no object is refused.  If the metadata of an object take a name and
a namespace, the object is refused when they cannot be read, and otherwise sent; metadata that say nothing can
always be read.  Other metadata end the program and every run that the resource is in. -/
structure HandlesCustom (client : Client) (name : String) (type : CustomType) (object : Json) : Prop where
  noObject (apart : ∀ members, object ≠ .object members) :
    client.send (.createCustom name type object) = .refuses (.validation name .notAnObject)
  unreadable {members given : List (String × Json)} {message : String} (isObject : object = .object members)
    (takes : TakesMembers (object.said? "metadata") given)
    (unreadable : Schema.objectMetadata.read (client.customMetadata name given) = .error message) :
    client.send (.createCustom name type object) = .refuses (.serialization type.kind message)
  readable {members given : List (String × Json)} {metadata : Json} (isObject : object = .object members)
    (takes : TakesMembers (object.said? "metadata") given)
    (readable : Schema.objectMetadata.read (client.customMetadata name given) = .ok metadata) :
    ∃ body, IsCustomBody client name type object metadata body ∧
      IsApplied client name type body (client.send (.createCustom name type object))
  silent {members : List (String × Json)} (isObject : object = .object members)
    (silent : object.said? "metadata" = none ∨ object.said? "metadata" = some .null) :
    ∃ metadata body, IsCustomBody client name type object metadata body ∧
      IsApplied client name type body (client.send (.createCustom name type object))
  aborts_iff : client.send (.createCustom name type object) = .aborts ↔
    (∃ members, object = .object members) ∧ ∀ given, ¬ TakesMembers (object.said? "metadata") given
  ends {requests : List ClusterRequest} (listed : .createCustom name type object ∈ requests)
    (aborts : client.send (.createCustom name type object) = .aborts) (answers : Nat → HttpAnswer) (asked : Nat) :
    client.converse answers asked requests = none

theorem refuses_of_noObject {object : Json} (apart : ∀ members, object ≠ .object members) :
    client.send (.createCustom name type object) = .refuses (.validation name .notAnObject) := by
  cases object with
  | object members => exact absurd rfl (apart members)
  | _ => rfl

/-- Metadata that take members are sent with them. -/
theorem send_of_takesMembers {members given : List (String × Json)}
    (takes : TakesMembers ((Json.object members).said? "metadata") given) :
    client.send (.createCustom name type (.object members)) =
      .ofExcept (client.patch type.resourceType name
        (customObject type members (client.customMetadata name given))) := by
  have said : (Json.sortMembers members).lookup "metadata" = (Json.object members).said? "metadata" :=
    Json.lookup_sortMembers members "metadata"
  rw [send, sendCustom]
  dsimp only
  rw [said]
  generalize (Json.object members).said? "metadata" = described at takes ⊢
  cases takes <;> rfl

/-- Metadata that take no members end the program. -/
theorem send_of_not_takesMembers {members : List (String × Json)}
    (refuses : ∀ given, ¬ TakesMembers ((Json.object members).said? "metadata") given) :
    client.send (.createCustom name type (.object members)) = .aborts := by
  have said : (Json.sortMembers members).lookup "metadata" = (Json.object members).said? "metadata" :=
    Json.lookup_sortMembers members "metadata"
  rw [send, sendCustom]
  dsimp only
  rw [said]
  generalize (Json.object members).said? "metadata" = described at refuses ⊢
  rcases described with _ | described
  · exact absurd .absent (refuses [])
  · cases described with
    | null => exact absurd .null (refuses [])
    | object given => exact absurd (.object given) (refuses given)
    | _ => rfl

/-- The program ends over an object whose metadata take no members, and over nothing else. -/
theorem send_eq_aborts_iff {object : Json} :
    client.send (.createCustom name type object) = .aborts ↔
      (∃ members, object = .object members) ∧ ∀ given, ¬ TakesMembers (object.said? "metadata") given := by
  constructor
  · intro aborted
    by_cases isObject : ∃ members, object = .object members
    · refine ⟨isObject, fun given takes => ?_⟩
      rcases isObject with ⟨members, rfl⟩
      rw [send_of_takesMembers takes] at aborted
      exact ofExcept_ne_aborts _ aborted
    · rw [refuses_of_noObject (not_exists.mp isObject)] at aborted
      cases aborted
  · rintro ⟨⟨members, rfl⟩, refuses⟩
    exact send_of_not_takesMembers refuses

/-- The runs that come to nothing are those that are asked for such an object. -/
theorem converse_eq_none_iff_createCustom :
    client.converse answers asked requests = none ↔
      ∃ name type members, .createCustom name type (.object members) ∈ requests ∧
        ∀ given, ¬ TakesMembers ((Json.object members).said? "metadata") given := by
  rw [converse_eq_none_iff]
  constructor
  · rintro ⟨request, listed, aborts⟩
    rcases exists_createCustom_of_aborts aborts with ⟨name, type, object, rfl⟩
    rcases send_eq_aborts_iff.mp aborts with ⟨⟨members, rfl⟩, refuses⟩
    exact ⟨name, type, members, listed, refuses⟩
  · rintro ⟨name, type, members, listed, refuses⟩
    exact ⟨_, listed, send_eq_aborts_iff.mpr ⟨⟨members, rfl⟩, refuses⟩⟩

theorem exists_isApplied {members given : List (String × Json)} {metadata : Json}
    (takes : TakesMembers ((Json.object members).said? "metadata") given)
    (readable : Schema.objectMetadata.read (client.customMetadata name given) = .ok metadata) :
    ∃ body, IsCustomBody client name type (.object members) metadata body ∧
      IsApplied client name type body (client.send (.createCustom name type (.object members))) := by
  rcases exists_applyBody_customObject type members readable with ⟨body, prepared, complete⟩
  rw [send_of_takesMembers takes]
  exact ⟨body, complete, isApplied_of_body prepared⟩

/-- Every custom resource is refused or sent, except that metadata which are neither an object, nor null, nor
absent end the program. -/
theorem handlesCustom (client : Client) (name : String) (type : CustomType) (object : Json) :
    HandlesCustom client name type object where
  noObject := refuses_of_noObject
  unreadable := by
    rintro members given message rfl takes unreadable
    have refused : client.patch type.resourceType name
        (customObject type members (client.customMetadata name given)) =
          .error (.serialization type.kind message) := by
      have kind : type.resourceType.kind = type.kind := rfl
      rw [patch, kind, applyBody, member?_customObject, if_pos rfl, Option.map_some, unreadable]
      rfl
    rw [send_of_takesMembers takes, refused]
    rfl
  readable := by
    rintro members given metadata rfl takes readable
    exact exists_isApplied takes readable
  silent := by
    rintro members rfl silent
    have takes : TakesMembers ((Json.object members).said? "metadata") [] := by
      rcases silent with absent | null
      · exact absent ▸ .absent
      · exact null ▸ .null
    rcases exists_read_customMetadata_nil client name with ⟨metadata, readable⟩
    exact ⟨metadata, exists_isApplied takes readable⟩
  aborts_iff := send_eq_aborts_iff
  ends := fun listed aborts _ _ => converse_eq_none_iff.mpr ⟨_, listed, aborts⟩

/-- A type of disturbances. -/
def networkChaos : CustomType :=
  ⟨"chaos-mesh.org", "v1alpha1", "NetworkChaos", "networkchaos"⟩

/-- A number in the place of metadata ends the program, so that nothing comes of a run, whatever it is answered;
there is no refusal. -/
theorem numericMetadata_aborts :
    (∀ answers, (⟨"tidepool"⟩ : Client).converse answers 0
      [.createCustom "web" networkChaos (.object [("metadata", .integer 5)])] = none) ∧
    ¬ ∃ error, (⟨"tidepool"⟩ : Client).send
      (.createCustom "web" networkChaos (.object [("metadata", .integer 5)])) = .refuses error := by
  have aborts : (⟨"tidepool"⟩ : Client).send
      (.createCustom "web" networkChaos (.object [("metadata", .integer 5)])) = .aborts := rfl
  refine ⟨fun answers => converse_eq_none_iff.mpr ⟨_, List.mem_singleton_self _, aborts⟩, ?_⟩
  rintro ⟨error, refused⟩
  rw [aborts] at refused
  cases refused

end Client
end Api
end Testbed
