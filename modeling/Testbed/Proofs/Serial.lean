import Testbed.Proofs.Serial.Pod
import Testbed.Resource.Basic

namespace Testbed

/-!
# Serial forms of resources

What a resource of any kind is written as is read back as that resource, whichever of its parts are empty or
absent.  It does not matter whether its members stand in the order of the fields or in that of their names.
So two resources of one kind that are written alike are equal, and what has been read and written once is
not changed by doing so again.

Kinds must agree: a config map without files and a service account can be written alike, if they call
themselves alike.
-/

namespace Json

variable {present : Json → Json}

/-! ## Storage -/

theorem inverts_configMap (arranges : Rearranges present) :
    Inverts present ConfigMap.toJson ConfigMap.ofJson := by
  refine inverts_record arranges (fun _ => rfl) (by decide) fun value => ?_
  simp only [List.map_cons, List.map_nil, (inverts_string arranges).required,
    (inverts_metadata arranges).required, Inverts.defaulted_map arranges, Option.bind_eq_bind,
    Option.bind_some]
  rfl

theorem inverts_storageRequest (arranges : Rearranges present) :
    Inverts present StorageRequest.toJson StorageRequest.ofJson := by
  refine inverts_record arranges (fun _ => rfl) (by decide) fun value => ?_
  simp only [List.map_cons, List.map_nil, (inverts_map arranges).required, Option.bind_eq_bind,
    Option.bind_some]
  rfl

theorem inverts_storageClaimSpec (arranges : Rearranges present) :
    Inverts present StorageClaim.Spec.toJson StorageClaim.Spec.ofJson := by
  refine inverts_record arranges (fun _ => rfl) (by decide) fun value => ?_
  simp only [List.map_cons, List.map_nil, (inverts_strings arranges).required,
    (inverts_storageRequest arranges).required, Option.bind_eq_bind, Option.bind_some]
  rfl

theorem inverts_storageClaim (arranges : Rearranges present) :
    Inverts present StorageClaim.toJson StorageClaim.ofJson := by
  refine inverts_record arranges (fun _ => rfl) (by decide) fun value => ?_
  simp only [List.map_cons, List.map_nil, (inverts_string arranges).required,
    (inverts_metadata arranges).required, (inverts_storageClaimSpec arranges).required,
    Option.bind_eq_bind, Option.bind_some]
  rfl

/-! ## Access -/

theorem inverts_serviceAccount (arranges : Rearranges present) :
    Inverts present ServiceAccount.toJson ServiceAccount.ofJson := by
  refine inverts_record arranges (fun _ => rfl) (by decide) fun value => ?_
  simp only [List.map_cons, List.map_nil, (inverts_string arranges).required,
    (inverts_metadata arranges).required, Option.bind_eq_bind, Option.bind_some]
  rfl

theorem inverts_policyRule (arranges : Rearranges present) :
    Inverts present PolicyRule.toJson PolicyRule.ofJson := by
  refine inverts_record arranges (fun _ => rfl) (by decide) fun value => ?_
  simp only [List.map_cons, List.map_nil, (inverts_strings arranges).defaulted,
    (inverts_strings arranges).required, (inverts_strings arranges).defaulted_list,
    Option.bind_eq_bind, Option.bind_some]
  rfl

theorem inverts_role (arranges : Rearranges present) :
    Inverts present Role.toJson Role.ofJson := by
  refine inverts_record arranges (fun _ => rfl) (by decide) fun value => ?_
  simp only [List.map_cons, List.map_nil, (inverts_string arranges).required,
    (inverts_metadata arranges).required,
    (inverts_list arranges (inverts_policyRule arranges)).required, Option.bind_eq_bind,
    Option.bind_some]
  rfl

theorem inverts_roleReference (arranges : Rearranges present) :
    Inverts present RoleReference.toJson RoleReference.ofJson := by
  refine inverts_record arranges (fun _ => rfl) (by decide) fun value => ?_
  simp only [List.map_cons, List.map_nil, (inverts_string arranges).required, Option.bind_eq_bind,
    Option.bind_some]
  rfl

theorem inverts_subject (arranges : Rearranges present) :
    Inverts present Subject.toJson Subject.ofJson := by
  refine inverts_record arranges (fun _ => rfl) (by decide) fun value => ?_
  simp only [List.map_cons, List.map_nil, (inverts_string arranges).required, Option.bind_eq_bind,
    Option.bind_some]
  rfl

theorem inverts_roleBinding (arranges : Rearranges present) :
    Inverts present RoleBinding.toJson RoleBinding.ofJson := by
  refine inverts_record arranges (fun _ => rfl) (by decide) fun value => ?_
  simp only [List.map_cons, List.map_nil, (inverts_string arranges).required,
    (inverts_metadata arranges).required, (inverts_roleReference arranges).required,
    (inverts_list arranges (inverts_subject arranges)).required, Option.bind_eq_bind, Option.bind_some]
  rfl

/-! ## Services -/

theorem inverts_servicePort (arranges : Rearranges present) :
    Inverts present ServicePort.toJson ServicePort.ofJson := by
  refine inverts_record arranges (fun _ => rfl) (by decide) fun value => ?_
  simp only [List.map_cons, List.map_nil, (inverts_string arranges).required,
    (inverts_port arranges).required, Option.bind_eq_bind, Option.bind_some]
  rfl

theorem inverts_serviceSpec (arranges : Rearranges present) :
    Inverts present Service.Spec.toJson Service.Spec.ofJson := by
  refine inverts_record arranges (fun _ => rfl) (by decide) fun value => ?_
  simp only [List.map_cons, List.map_nil, (inverts_map arranges).required,
    (inverts_list arranges (inverts_servicePort arranges)).required,
    (inverts_string arranges).optional, Option.bind_eq_bind, Option.bind_some]
  rfl

theorem inverts_service (arranges : Rearranges present) :
    Inverts present Service.toJson Service.ofJson := by
  refine inverts_record arranges (fun _ => rfl) (by decide) fun value => ?_
  simp only [List.map_cons, List.map_nil, (inverts_string arranges).required,
    (inverts_metadata arranges).required, (inverts_serviceSpec arranges).required, Option.bind_eq_bind,
    Option.bind_some]
  rfl

/-! ## Policies -/

theorem inverts_peer (arranges : Rearranges present) :
    Inverts present Peer.toJson Peer.ofJson := by
  refine inverts_record arranges (fun _ => rfl) (by decide) fun value => ?_
  simp only [List.map_cons, List.map_nil, (inverts_labelSelector arranges).required,
    Option.bind_eq_bind, Option.bind_some]
  rfl

theorem inverts_ingressRule (arranges : Rearranges present) :
    Inverts present IngressRule.toJson IngressRule.ofJson := by
  refine inverts_record arranges (fun _ => rfl) (by decide) fun value => ?_
  simp only [List.map_cons, List.map_nil, (inverts_list arranges (inverts_peer arranges)).required,
    Option.bind_eq_bind, Option.bind_some]
  rfl

theorem inverts_egressRule (arranges : Rearranges present) :
    Inverts present EgressRule.toJson EgressRule.ofJson := by
  refine inverts_record arranges (fun _ => rfl) (by decide) fun value => ?_
  simp only [List.map_cons, List.map_nil, (inverts_list arranges (inverts_peer arranges)).required,
    Option.bind_eq_bind, Option.bind_some]
  rfl

theorem inverts_networkPolicySpec (arranges : Rearranges present) :
    Inverts present NetworkPolicy.Spec.toJson NetworkPolicy.Spec.ofJson := by
  refine inverts_record arranges (fun _ => rfl) (by decide) fun value => ?_
  simp only [List.map_cons, List.map_nil, (inverts_labelSelector arranges).required,
    (inverts_strings arranges).required,
    (inverts_list arranges (inverts_ingressRule arranges)).defaulted,
    (inverts_list arranges (inverts_egressRule arranges)).defaulted, Option.bind_eq_bind,
    Option.bind_some]
  rfl

theorem inverts_networkPolicy (arranges : Rearranges present) :
    Inverts present NetworkPolicy.toJson NetworkPolicy.ofJson := by
  refine inverts_record arranges (fun _ => rfl) (by decide) fun value => ?_
  simp only [List.map_cons, List.map_nil, (inverts_string arranges).required,
    (inverts_metadata arranges).required, (inverts_networkPolicySpec arranges).required,
    Option.bind_eq_bind, Option.bind_some]
  rfl

end Json

open Json in
/-- A resource is read back as it was written, or with its members in another order. -/
theorem Resource.ofJson_present {present : Json → Json} (arranges : Rearranges present)
    (resource : Resource) :
    ofJson resource.resourceKind (present resource.toJson) = some resource := by
  cases resource with
  | configMap value => exact congrArg (Option.map configMap) ((inverts_configMap arranges).reads value)
  | storageClaim value =>
      exact congrArg (Option.map storageClaim) ((inverts_storageClaim arranges).reads value)
  | serviceAccount value =>
      exact congrArg (Option.map serviceAccount) ((inverts_serviceAccount arranges).reads value)
  | role value => exact congrArg (Option.map role) ((inverts_role arranges).reads value)
  | roleBinding value =>
      exact congrArg (Option.map roleBinding) ((inverts_roleBinding arranges).reads value)
  | service value => exact congrArg (Option.map service) ((inverts_service arranges).reads value)
  | replicaSet value => exact congrArg (Option.map replicaSet) ((inverts_replicaSet arranges).reads value)
  | networkPolicy value =>
      exact congrArg (Option.map networkPolicy) ((inverts_networkPolicy arranges).reads value)

/-- What is read as a resource of a kind is of this kind. -/
theorem Resource.resourceKind_of_ofJson {kind : ResourceKind} {document : Json} {resource : Resource}
    (read : ofJson kind document = some resource) : resource.resourceKind = kind := by
  cases kind <;>
    · rcases Option.map_eq_some_iff.mp read with ⟨value, _, rfl⟩
      rfl

/-- A resource of any kind is read back from what it is written as, with its members in the order of the
fields or in that of their names.  Hence two resources of one kind that are written with the same members
are equal; and whatever is read as a resource, from whatever document, and then written is not changed when
it is read and written again. -/
theorem roundTrip_of_resource :
    (∀ resource : Resource,
      Resource.ofJson resource.resourceKind resource.toJson = some resource ∧
      Resource.ofJson resource.resourceKind resource.toJson.sorted = some resource) ∧
    (∀ first second : Resource, first.resourceKind = second.resourceKind →
      first.toJson.sorted = second.toJson.sorted → first = second) ∧
    ∀ kind document written, (Resource.ofJson kind document).map Resource.toJson = some written →
      (Resource.ofJson kind written).map Resource.toJson = some written := by
  have plain : ∀ resource : Resource, Resource.ofJson resource.resourceKind resource.toJson = some resource :=
    Resource.ofJson_present Json.rearranges_id
  have sorted : ∀ resource : Resource,
      Resource.ofJson resource.resourceKind resource.toJson.sorted = some resource :=
    Resource.ofJson_present Json.rearranges_sorted
  refine ⟨fun resource => ⟨plain resource, sorted resource⟩, ?_, ?_⟩
  · intro first second kinds alike
    have read := sorted first
    rw [kinds, alike, sorted second] at read
    exact (Option.some.inj read).symm
  · intro kind document written same
    rcases Option.map_eq_some_iff.mp same with ⟨resource, read, rfl⟩
    rw [← Resource.resourceKind_of_ofJson read, plain resource, Option.map_some]

/-- An account that is given with its members in another order, one that is empty and one that is unknown. -/
def Json.looseAccount : Json :=
  .object
    [("metadata", .object [("namespace", .string "tests"), ("labels", .object []), ("name", .string "main")]),
      ("secrets", .array []), ("kind", .string "ServiceAccount"), ("apiVersion", .string "v1")]

/-- It is written without the empty member and the unknown one, and stays as it is from then on. -/
theorem roundTrip_of_looseAccount :
    let written : Json := .object
      [("apiVersion", .string "v1"), ("kind", .string "ServiceAccount"),
        ("metadata", .object [("name", .string "main"), ("namespace", .string "tests")])]
    (Resource.ofJson .serviceAccount Json.looseAccount).map Resource.toJson = some written ∧
      (Resource.ofJson .serviceAccount written).map Resource.toJson = some written := by
  intro written
  have read : (Resource.ofJson .serviceAccount Json.looseAccount).map Resource.toJson = some written := rfl
  exact ⟨read, roundTrip_of_resource.2.2 _ _ _ read⟩

end Testbed
