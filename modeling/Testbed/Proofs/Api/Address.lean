import Testbed.Proofs.Api.Body
import Testbed.Proofs.Naming

namespace Testbed

/-!
# Where the client finds objects

The client inserts its namespace, the plural of a kind and the name of an object into the text of a target.
What the text stands for has the path that was meant, as long as every character of it may stand in a path and
the text is not too long.  Names are labels, so only the namespace can be at fault.  Within one namespace,
objects of different kinds or names have different paths: neither plurals nor names contain a slash, so both
can be read off the end of a path.
-/

namespace Naming

variable {name : String} {character : Char}

/-- A character of labels is none of those that end a path or divide it. -/
theorem ne_of_isLabelChar {other : Char} (plain : isLabelChar character = true)
    (special : other.toNat ∈ [35, 47, 60, 62, 63]) : character ≠ other := by
  rintro rfl
  have code := toNat_of_isLabelChar plain
  simp only [List.mem_cons, List.not_mem_nil, or_false] at special
  omega

theorem isPathChar_of_isLabelChar (plain : isLabelChar character = true) :
    Web.Target.isPathChar character = true := by
  have code := toNat_of_isLabelChar plain
  simp only [Web.Target.isPathChar, Bool.and_eq_true, decide_eq_true_eq, bne_iff_ne]
  refine ⟨⟨⟨⟨⟨⟨?_, ?_⟩, ?_⟩, ?_⟩, ?_⟩, ?_⟩, ?_⟩
  · omega
  · omega
  · exact ne_of_isLabelChar plain (by decide)
  · exact ne_of_isLabelChar plain (by decide)
  · exact ne_of_isLabelChar plain (by decide)
  · exact ne_of_isLabelChar plain (by decide)
  · omega

/-- No slash is in a label. -/
theorem isLabel_not_slash (label : isLabel name = true) : '/' ∉ name.toList := fun member =>
  ne_of_isLabelChar (isLabel_all label '/' member) (by decide) rfl

end Naming

namespace Web.Target

/-- Whether every character of a text may stand in a path. -/
def IsPlain (text : String) : Prop :=
  ∀ character ∈ text.toList, isPathChar character = true

variable {path : String}

theorem IsPlain.append {first second : String} (plain : IsPlain first) (also : IsPlain second) :
    IsPlain (first ++ second) := by
  intro character member
  rw [String.toList_append, List.mem_append] at member
  exact member.elim (plain character) (also character)

theorem staysInPath_of_isPathChar {character : Char} (plain : isPathChar character = true) :
    staysInPath character = true := by
  simp only [isPathChar, Bool.and_eq_true] at plain
  rw [staysInPath, Bool.and_eq_true]
  exact ⟨plain.1.2, plain.1.1.1.1.2⟩

theorem takeWhile_staysInPath (plain : IsPlain path) (rest : List Char) :
    (path.toList ++ rest).takeWhile staysInPath = path.toList ++ rest.takeWhile staysInPath :=
  List.takeWhile_append_of_pos fun character member => staysInPath_of_isPathChar (plain character member)

theorem dropWhile_staysInPath (plain : IsPlain path) (rest : List Char) :
    (path.toList ++ rest).dropWhile staysInPath = rest.dropWhile staysInPath :=
  List.dropWhile_append_of_pos fun character member => staysInPath_of_isPathChar (plain character member)

/-- A path that is not too long stands for itself. -/
theorem read?_path (plain : IsPlain path) (short : path.utf8ByteSize ≤ maxLength) :
    read? path = some ⟨path, []⟩ := by
  have taken := takeWhile_staysInPath plain []
  have dropped := dropWhile_staysInPath plain []
  rw [List.append_nil, List.takeWhile_nil, List.append_nil] at taken
  rw [List.append_nil, List.dropWhile_nil] at dropped
  have fine : (decide (maxLength < path.utf8ByteSize) || !path.toList.all isPathChar) = false := by
    rw [Bool.or_eq_false_iff, Bool.not_eq_false', List.all_eq_true]
    exact ⟨decide_eq_false (Nat.not_lt.mpr short), plain⟩
  rw [read?, taken, dropped, fine, if_neg Bool.false_ne_true, String.ofList_toList]

/-- A question about a path stands for this path and some parameters. -/
theorem exists_read?_question {parameters : List (String × String)} (plain : IsPlain path)
    (marks : ∀ character ∈ parameters.flatMap Form.append, isQueryChar character = true)
    (short : (question path parameters).utf8ByteSize ≤ maxLength) :
    ∃ sent, read? (question path parameters) = some ⟨path, sent⟩ := by
  have listed : (question path parameters).toList =
      path.toList ++ '?' :: parameters.flatMap Form.append := by
    simp only [question, String.toList_append, String.toList_ofList, List.append_assoc]
    rfl
  have taken : (question path parameters).toList.takeWhile staysInPath = path.toList := by
    rw [listed, takeWhile_staysInPath plain]
    exact List.append_nil _
  have dropped : (question path parameters).toList.dropWhile staysInPath =
      '?' :: parameters.flatMap Form.append := by
    rw [listed, dropWhile_staysInPath plain]
    rfl
  have fine : (decide (maxLength < (question path parameters).utf8ByteSize) ||
      !path.toList.all isPathChar) = false := by
    rw [Bool.or_eq_false_iff, Bool.not_eq_false', List.all_eq_true]
    exact ⟨decide_eq_false (Nat.not_lt.mpr short), plain⟩
  have sent : ((parameters.flatMap Form.append).takeWhile (· != '#')).all isQueryChar = true := by
    rw [List.all_eq_true]
    exact fun character member => marks character ((List.takeWhile_sublist _).subset member)
  have answer : read? (question path parameters) = some ⟨String.ofList path.toList,
      inOrder (Form.read ((parameters.flatMap Form.append).takeWhile (· != '#')))⟩ := by
    rw [read?, taken, dropped, fine, if_neg Bool.false_ne_true]
    exact if_pos sent
  rw [String.ofList_toList] at answer
  exact ⟨_, answer⟩

end Web.Target

namespace Api

variable {kind otherKind : ResourceKind} {name otherName : String} {client : Client}

/-! ## Paths -/

/-- The kinds that are read as such are found where they are written. -/
theorem builtIn_service : builtIn .service = services := by
  decide

theorem builtIn_replicaSet : builtIn .replicaSet = replicaSets := by
  decide

theorem isPlain_builtIn (kind : ResourceKind) :
    Web.Target.IsPlain (builtIn kind).apiVersion ∧ Web.Target.IsPlain (builtIn kind).plural := by
  have version : (builtIn kind).apiVersion.toList.all Web.Target.isPathChar = true := by
    cases kind <;> decide
  have plural : (builtIn kind).plural.toList.all Web.Target.isPathChar = true := by
    cases kind <;> decide
  exact ⟨List.all_eq_true.mp version, List.all_eq_true.mp plural⟩

theorem plural_not_slash (kind : ResourceKind) : '/' ∉ (builtIn kind).plural.toList := by
  cases kind <;> decide

/-- No two kinds have the same plural. -/
theorem plural_inj (same : (builtIn kind).plural = (builtIn otherKind).plural) : kind = otherKind := by
  revert same
  cases kind <;> cases otherKind <;> decide

namespace Client

/-- A path ends with a plural and a name. -/
theorem exists_path_eq (client : Client) (type : ResourceType) :
    ∃ root : List Char, ∀ name, (client.path type name).toList =
      (root ++ '/' :: type.plural.toList) ++ '/' :: name.toList := by
  refine ⟨((if type.group.isEmpty then "/api/" else "/apis/") ++ type.apiVersion ++ "/namespaces/" ++
    client.space).toList, fun name => ?_⟩
  simp only [path, objectPath, collectionPath, Option.map_some, Option.getD_some, String.toList_append,
    List.append_assoc]
  rfl

/-- Objects of different kinds or names are found at different places. -/
theorem path_inj (label : Naming.isLabel name = true) (otherLabel : Naming.isLabel otherName = true)
    (same : client.path (builtIn kind) name = client.path (builtIn otherKind) otherName) :
    kind = otherKind ∧ name = otherName := by
  rcases client.exists_path_eq (builtIn kind) with ⟨root, path⟩
  rcases client.exists_path_eq (builtIn otherKind) with ⟨otherRoot, otherPath⟩
  have equal := congrArg String.toList same
  rw [path, otherPath] at equal
  rcases Text.append_separator_inj (Naming.isLabel_not_slash label) (Naming.isLabel_not_slash otherLabel) equal with
    ⟨collections, names⟩
  have plurals := (Text.append_separator_inj (plural_not_slash kind) (plural_not_slash otherKind) collections).2
  exact ⟨plural_inj (String.toList_inj.mp plurals), String.toList_inj.mp names⟩

/-- Whether the namespace of a client fits into targets: its characters may stand in a path, and the text of a
target is not too long with it. -/
structure IsAddressable (client : Client) : Prop where
  plain : Web.Target.IsPlain client.space
  short (kind : ResourceKind) (name : String) (label : Naming.isLabel name = true) :
    (Web.Target.question (client.path (builtIn kind) name) applyParameters).utf8ByteSize ≤
      Web.Target.maxLength

theorem isPlain_path (plain : Web.Target.IsPlain client.space) (kind : ResourceKind)
    (label : Naming.isLabel name = true) : Web.Target.IsPlain (client.path (builtIn kind) name) := by
  have named : Web.Target.IsPlain name := fun character member =>
    Naming.isPathChar_of_isLabelChar (Naming.isLabel_all label character member)
  have constant {text : String} (plain : text.toList.all Web.Target.isPathChar = true) :
      Web.Target.IsPlain text := List.all_eq_true.mp plain
  rcases isPlain_builtIn kind with ⟨version, plural⟩
  have root : Web.Target.IsPlain (if (builtIn kind).group.isEmpty then "/api/" else "/apis/") := by
    split
    · exact constant (by decide)
    · exact constant (by decide)
  have space : Web.Target.IsPlain ("namespaces/" ++ client.space ++ "/") :=
    ((constant (by decide)).append plain).append (constant (by decide))
  rw [path, objectPath, collectionPath, Option.map_some, Option.getD_some]
  exact (((((root.append version).append (constant (by decide))).append space).append plural).append
    (constant (by decide))).append named

/-- A request under a name is made if its text is a target. -/
theorem request_eq {method : Method} {text : String} {target : Web.Target} {content : Option Content}
    (label : Naming.isLabel name = true) (read : Web.Target.read? text = some target) :
    Api.request method name text content = .ok ⟨method, target, content⟩ := by
  rw [Api.request, read]
  dsimp only
  rw [Naming.isLabel_isEmpty label, if_neg Bool.false_ne_true]

theorem utf8ByteSize_question (path : String) (parameters : List (String × String)) :
    (Web.Target.question path parameters).utf8ByteSize =
      path.utf8ByteSize + 1 + (String.ofList (parameters.flatMap Web.Form.append)).utf8ByteSize := by
  rw [Web.Target.question, String.utf8ByteSize_append, String.utf8ByteSize_append]
  rfl

/-- A resource is applied where its kind and name belong. -/
theorem exists_send_apply (addressable : client.IsAddressable) (resource : Resource)
    (label : Naming.isLabel resource.name = true) :
    ∃ parameters, client.send (.apply resource) = .sends
      ⟨.patch, ⟨client.path (builtIn resource.resourceKind) resource.name, parameters⟩,
        some ⟨"application/apply-patch+yaml", resource.body⟩⟩ := by
  have plain := isPlain_path addressable.plain resource.resourceKind label
  have marks : (applyParameters.flatMap Web.Form.append).all Web.Target.isQueryChar = true := by decide
  rcases Web.Target.exists_read?_question plain (List.all_eq_true.mp marks) (addressable.short _ _ label) with
    ⟨parameters, read⟩
  have prepared : client.patch (builtIn resource.resourceKind) resource.name resource.toJson = .ok
      ⟨.patch, ⟨client.path (builtIn resource.resourceKind) resource.name, parameters⟩,
        some ⟨"application/apply-patch+yaml", resource.body⟩⟩ := by
    rw [patch, resource.applyBody_toJson]
    dsimp only [bind, Except.bind]
    rw [request_eq label read]
  have sent : client.send (.apply resource) =
      .ofExcept (client.patch (builtIn resource.resourceKind) resource.name resource.toJson) := rfl
  rw [sent, prepared]
  exact ⟨parameters, rfl⟩

/-- What is of a kind and a name is deleted there. -/
theorem exists_send_delete (addressable : client.IsAddressable) (kind : ResourceKind) (grace : Option UInt32)
    (label : Naming.isLabel name = true) :
    ∃ parameters, client.send (.delete kind name grace) = .sends
      ⟨.delete, ⟨client.path (builtIn kind) name, parameters⟩, some ⟨"application/json", deletion grace⟩⟩ := by
  have short : (Web.Target.question (client.path (builtIn kind) name) []).utf8ByteSize ≤
      Web.Target.maxLength := by
    have longer := addressable.short kind name label
    have none : (String.ofList ([].flatMap Web.Form.append)).utf8ByteSize = 0 := String.utf8ByteSize_empty
    rw [utf8ByteSize_question] at longer ⊢
    omega
  have plain := isPlain_path addressable.plain kind label
  rcases Web.Target.exists_read?_question plain (List.forall_mem_nil _) short with ⟨parameters, read⟩
  have sent : client.send (.delete kind name grace) =
      .ofExcept (Api.request .delete name (Web.Target.question (client.path (builtIn kind) name) [])
        (some ⟨"application/json", deletion grace⟩)) := rfl
  rw [sent, request_eq label read]
  exact ⟨parameters, rfl⟩

theorem ofExcept_get (addressable : client.IsAddressable) (kind : ResourceKind) (label : Naming.isLabel name = true) :
    Sending.ofExcept (get (client.path (builtIn kind) name) name) =
      .sends ⟨.get, ⟨client.path (builtIn kind) name, []⟩, none⟩ := by
  have short : (client.path (builtIn kind) name).utf8ByteSize ≤ Web.Target.maxLength := by
    have longer := addressable.short kind name label
    rw [utf8ByteSize_question] at longer
    omega
  have plain := isPlain_path addressable.plain kind label
  rw [get, request_eq label (Web.Target.read?_path plain short)]
  rfl

/-- What is of a kind and a name is looked for there. -/
theorem send_present (addressable : client.IsAddressable) (kind : ResourceKind)
    (label : Naming.isLabel name = true) :
    client.send (.present kind name) = .sends ⟨.get, ⟨client.path (builtIn kind) name, []⟩, none⟩ := by
  have sent : client.send (.present kind name) =
      .ofExcept (get (client.path (builtIn kind) name) name) := rfl
  rw [sent, ofExcept_get addressable kind label]

/-- A service is read where services are applied. -/
theorem send_serviceAddress (addressable : client.IsAddressable) (label : Naming.isLabel name = true) :
    client.send (.serviceAddress name) =
      .sends ⟨.get, ⟨client.path (builtIn .service) name, []⟩, none⟩ := by
  have sent : client.send (.serviceAddress name) = .ofExcept (get (client.path services name) name) := rfl
  rw [sent, ← builtIn_service, ofExcept_get addressable .service label]

/-- A replica set is read where replica sets are applied. -/
theorem send_ready (addressable : client.IsAddressable) (label : Naming.isLabel name = true) :
    client.send (.ready name) = .sends ⟨.get, ⟨client.path (builtIn .replicaSet) name, []⟩, none⟩ := by
  have sent : client.send (.ready name) = .ofExcept (get (client.path replicaSets name) name) := rfl
  rw [sent, ← builtIn_replicaSet, ofExcept_get addressable .replicaSet label]

end Client
end Api
end Testbed
