import Testbed.Json.Raw
import Testbed.Resource.Basic

namespace Testbed

/-!
# How deep documents are nested

What comes back from the cluster is read only if it is not nested too deep.  The documents of resources are far
from that: every kind of record bounds how deep its fields are nested, and so do the lists and maps in it.
-/

namespace Json

/-- Whether arrays and objects are nested no deeper than so many times. -/
def NestsWithin (depth : Nat) (document : Json) : Prop :=
  ((RawJson.ofJson document).value? (some depth)).isSome = true

/-- Whether this holds of a field, if there is one. -/
def FieldNestsWithin (depth : Nat) (field : Option Json) : Prop :=
  ∀ value ∈ field, value.NestsWithin depth

variable {depth : Nat}

/-! ## Values -/

@[simp]
theorem nestsWithin_string (text : String) : (string text).NestsWithin depth := by
  rw [NestsWithin, RawJson.ofJson, RawJson.value?]
  rfl

@[simp]
theorem nestsWithin_bool (value : Bool) : (bool value).NestsWithin depth := by
  rw [NestsWithin, RawJson.ofJson, RawJson.value?]
  rfl

@[simp]
theorem nestsWithin_integer (value : Int) : (integer value).NestsWithin depth := by
  rw [NestsWithin, RawJson.ofJson, RawJson.value?]
  rfl

@[simp]
theorem nestsWithin_natural (value : Nat) : (natural value).NestsWithin depth :=
  nestsWithin_integer value

theorem isSome_itemValues?_iff {items : List Json} :
    (RawJson.itemValues? (some depth) (RawJson.ofItems items)).isSome = true ↔
      ∀ item ∈ items, item.NestsWithin depth := by
  induction items with
  | nil => simp [RawJson.ofItems, RawJson.itemValues?]
  | cons first rest inductionHypothesis =>
      rw [List.forall_mem_cons, ← inductionHypothesis, NestsWithin, RawJson.ofItems, RawJson.itemValues?]
      cases (RawJson.ofJson first).value? (some depth) <;>
        cases RawJson.itemValues? (some depth) (RawJson.ofItems rest) <;> simp

theorem isSome_memberValues?_iff {members : List (String × Json)} :
    (RawJson.memberValues? (some depth) (RawJson.ofMembers members)).isSome = true ↔
      ∀ entry ∈ members, entry.2.NestsWithin depth := by
  induction members with
  | nil => simp [RawJson.ofMembers, RawJson.memberValues?]
  | cons first rest inductionHypothesis =>
      rw [List.forall_mem_cons, ← inductionHypothesis, NestsWithin, RawJson.ofMembers, RawJson.memberValues?]
      cases (RawJson.ofJson first.2).value? (some depth) <;>
        cases RawJson.memberValues? (some depth) (RawJson.ofMembers rest) <;> simp

@[simp]
theorem nestsWithin_array {items : List Json} :
    (array items).NestsWithin (depth + 1) ↔ ∀ item ∈ items, item.NestsWithin depth := by
  rw [← isSome_itemValues?_iff, NestsWithin, RawJson.ofJson, RawJson.value?, RawJson.enter?,
    Option.bind_eq_bind, Option.bind_some]
  cases RawJson.itemValues? (some depth) (RawJson.ofItems items) <;> rfl

@[simp]
theorem nestsWithin_object {members : List (String × Json)} :
    (object members).NestsWithin (depth + 1) ↔ ∀ entry ∈ members, entry.2.NestsWithin depth := by
  rw [← isSome_memberValues?_iff, NestsWithin, RawJson.ofJson, RawJson.value?, RawJson.enter?,
    Option.bind_eq_bind, Option.bind_some]
  cases RawJson.memberValues? (some depth) (RawJson.ofMembers members) <;> rfl

@[simp]
theorem nestsWithin_ofList {write : α → Json} {values : List α} :
    (ofList write values).NestsWithin (depth + 1) ↔ ∀ value ∈ values, (write value).NestsWithin depth := by
  rw [ofList, nestsWithin_array, List.forall_mem_map]

@[simp]
theorem nestsWithin_strings (texts : List String) : (strings texts).NestsWithin (depth + 1) :=
  nestsWithin_ofList.mpr fun text _ => nestsWithin_string text

@[simp]
theorem nestsWithin_ofStringMap (map : StringMap) : (ofStringMap map).NestsWithin (depth + 1) := by
  rw [ofStringMap, nestsWithin_object, List.forall_mem_map]
  exact fun entry _ => nestsWithin_string entry.2

@[simp]
theorem nestsWithin_record {members : List (String × Option Json)} :
    (record members).NestsWithin (depth + 1) ↔ ∀ entry ∈ members, FieldNestsWithin depth entry.2 := by
  rw [record, nestsWithin_object]
  constructor
  · intro inner field listed value full
    have full : field.2 = some value := full
    refine inner (field.1, value) (List.mem_filterMap.mpr ⟨field, listed, ?_⟩)
    rw [full, Option.map_some]
  · intro inner entry listed
    rcases List.mem_filterMap.mp listed with ⟨field, member, written⟩
    rcases Option.map_eq_some_iff.mp written with ⟨value, full, rfl⟩
    exact inner field member value full

/-! ## Fields -/

@[simp]
theorem fieldNestsWithin_some {value : Json} :
    FieldNestsWithin depth (some value) ↔ value.NestsWithin depth := by
  simp only [FieldNestsWithin, Option.mem_def, Option.some.injEq, forall_eq']

@[simp]
theorem fieldNestsWithin_map {write : α → Json} {value : Option α} :
    FieldNestsWithin depth (value.map write) ↔ ∀ part ∈ value, (write part).NestsWithin depth := by
  simp only [FieldNestsWithin, Option.mem_def, Option.map_eq_some_iff, forall_exists_index, and_imp,
    forall_apply_eq_imp_iff₂]

@[simp]
theorem fieldNestsWithin_unlessEmpty {isEmpty : Bool} {value : Json} :
    FieldNestsWithin depth (unlessEmpty isEmpty value) ↔ (isEmpty = false → value.NestsWithin depth) := by
  cases isEmpty <;> simp [unlessEmpty, FieldNestsWithin]

end Json

/-! ## Resources -/

variable {depth : Nat}

@[simp]
theorem Metadata.nestsWithin (value : Metadata) : value.toJson.NestsWithin (depth + 2) := by
  simp [toJson]

@[simp]
theorem Probe.nestsWithin (value : Probe) : value.toJson.NestsWithin (depth + 3) := by
  simp [toJson, HttpGet.toJson, TcpSocket.toJson, Command.toJson]

@[simp]
theorem Container.nestsWithin (value : Container) : value.toJson.NestsWithin (depth + 4) := by
  simp [toJson, EnvVar.toJson, ContainerPort.toJson, ResourceRequirements.toJson, VolumeMount.toJson,
    SecurityContext.toJson, Capabilities.toJson]

@[simp]
theorem Volume.nestsWithin (value : Volume) : value.toJson.NestsWithin (depth + 2) := by
  simp [toJson, ConfigMapSource.toJson, ClaimSource.toJson]

@[simp]
theorem LabelSelector.nestsWithin (value : LabelSelector) : value.toJson.NestsWithin (depth + 2) := by
  simp [toJson]

@[simp]
theorem PodTemplate.nestsWithin (value : PodTemplate) : value.toJson.NestsWithin (depth + 7) := by
  simp [toJson, PodMetadata.toJson, PodSpec.toJson, PodSecurityContext.toJson]

theorem Resource.nestsWithin (resource : Resource) : resource.toJson.NestsWithin (depth + 9) := by
  cases resource with
  | configMap value => simp [toJson, ConfigMap.toJson]
  | storageClaim value => simp [toJson, StorageClaim.toJson, StorageClaim.Spec.toJson, StorageRequest.toJson]
  | serviceAccount value => simp [toJson, ServiceAccount.toJson]
  | role value => simp [toJson, Role.toJson, PolicyRule.toJson]
  | roleBinding value => simp [toJson, RoleBinding.toJson, RoleReference.toJson, Subject.toJson]
  | service value => simp [toJson, Service.toJson, Service.Spec.toJson, ServicePort.toJson]
  | replicaSet value => simp [toJson, ReplicaSet.toJson, ReplicaSet.Spec.toJson]
  | networkPolicy value =>
      simp [toJson, NetworkPolicy.toJson, NetworkPolicy.Spec.toJson, IngressRule.toJson, EgressRule.toJson,
        Peer.toJson]

end Testbed
