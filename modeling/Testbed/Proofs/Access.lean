import Testbed.Proofs.Contents
import Testbed.Proofs.Heredity

namespace Testbed

/-!
# What a pod may do

The rules of a member are granted in three steps: a role has the rules, a binding refers to the role by name,
and the binding has the account as its subject under which the pod acts.  The account is that of the parent,
while each role is named after the member whose rules it has.  Followed from the account, the names lead to the
rules of all members, each member's once, and to nothing else.
-/

namespace Resource

/-- A resource as a role, if it is one. -/
def role? : Resource → Option Role
  | role found => some found
  | _ => none

/-- A resource as a binding, if it is one. -/
def roleBinding? : Resource → Option RoleBinding
  | roleBinding binding => some binding
  | _ => none

theorem role?_eq_some_iff {resource : Resource} {found : Role} :
    resource.role? = some found ↔ resource = .role found := by
  cases resource <;> simp [role?]

theorem roleBinding?_eq_some_iff {resource : Resource} {found : RoleBinding} :
    resource.roleBinding? = some found ↔ resource = .roleBinding found := by
  cases resource <;> simp [roleBinding?]

end Resource

/-- Whether a binding refers to a role.  It can only refer to roles in its own space. -/
def RoleBinding.RefersTo (binding : RoleBinding) (role : Role) : Prop :=
  role.apiVersion = binding.roleRef.apiGroup ++ "/v1" ∧ role.kind = binding.roleRef.kind ∧
    role.metadata.name = binding.roleRef.name ∧ role.metadata.space = binding.metadata.space

instance {binding : RoleBinding} {role : Role} : Decidable (binding.RefersTo role) :=
  inferInstanceAs (Decidable (_ ∧ _ ∧ _ ∧ _))

/-- The account of a name as the subject of a binding. -/
def Subject.ofAccount (account space : String) : Subject :=
  ⟨"ServiceAccount", account, space⟩

/-- The roles that resources grant to a subject, binding by binding. -/
def grantedRoles (resources : List Resource) (subject : Subject) : List Role :=
  ((resources.filterMap Resource.roleBinding?).filter fun binding => subject ∈ binding.subjects).flatMap
    fun binding => (resources.filterMap Resource.role?).filter fun role => binding.RefersTo role

/-- The rules that resources grant to a subject. -/
def grantedRules (resources : List Resource) (subject : Subject) : List PolicyRule :=
  (grantedRoles resources subject).flatMap Role.rules

/-- Whether an instance has rules. -/
def Instance.IsEntitled (workload : Instance) : Prop :=
  workload.policyRules ≠ []

instance {workload : Instance} : Decidable workload.IsEntitled :=
  inferInstanceAs (Decidable (_ ≠ _))

/-- Whether resources give an account the access that members ask for, and no one any other. -/
structure GrantsExactly (resources : List Resource) (account space : String) (members : List Instance) :
    Prop where
  /-- The only account that there may be is there if it is needed. -/
  accounts : ∀ found, .serviceAccount found ∈ resources ↔
    found = .fresh account space ∧ ∃ member ∈ members, member.IsEntitled
  /-- The account is granted a role for each member with rules. -/
  roles : (grantedRoles resources (.ofAccount account space)).map
      (fun role => (role.metadata.name, role.rules)) =
    (members.filter fun member => member.IsEntitled).map fun member =>
      (member.clusterName, member.policyRules)
  rules : grantedRules resources (.ofAccount account space) = members.flatMap Instance.policyRules
  /-- No binding is there for anyone else, and none leads nowhere. -/
  bindings : ∀ binding, .roleBinding binding ∈ resources →
    binding.subjects = [.ofAccount account space] ∧ binding.metadata.space = space ∧
      ∃ role, .role role ∈ resources ∧ binding.RefersTo role
  /-- No role is there in vain. -/
  bound : ∀ role, .role role ∈ resources →
    ∃ binding, .roleBinding binding ∈ resources ∧ binding.RefersTo role

/-- What has a key is alone in a list whose items have keys of their own. -/
theorem filter_key_eq_singleton [DecidableEq β] {items : List α} {item : α} {key : α → β}
    (apart : (items.map key).Nodup) (listed : item ∈ items) :
    items.filter (fun other => key other = key item) = [item] := by
  induction items with
  | nil => cases listed
  | cons first rest inductionHypothesis =>
      rcases List.nodup_cons.mp apart with ⟨fresh, others⟩
      rcases List.mem_cons.mp listed with rfl | later
      · have none : rest.filter (fun other => key other = key item) = [] := by
          rw [List.filter_eq_nil_iff]
          intro other there same
          exact fresh (List.mem_map.mpr ⟨other, there, of_decide_eq_true same⟩)
        rw [List.filter_cons_of_pos (by simp), none]
      · have different : ¬ key first = key item := fun same =>
          fresh (same ▸ List.mem_map_of_mem later)
        rw [List.filter_cons_of_neg (by simpa using different), inductionHypothesis others later]

/-- Items that do not fit may as well be kept if nothing is made of them. -/
theorem flatMap_filter {items : List α} {fits : α → Prop} [DecidablePred fits] {make : α → List β} :
    (items.filter fun item => fits item).flatMap make =
      items.flatMap fun item => if fits item then make item else [] := by
  induction items with
  | nil => rfl
  | cons first rest inductionHypothesis =>
      by_cases here : fits first
      · simp [here, inductionHypothesis]
      · simp [here, inductionHypothesis]

namespace Pod

variable {pod : Pod} {member : Instance}

/-- The role of a member. -/
def roleOf (pod : Pod) (member : Instance) : Role :=
  .ofRules member.clusterName pod.space member.policyRules

/-- The binding of a member's role. -/
def bindingOf (pod : Pod) (member : Instance) : RoleBinding :=
  .grant member.clusterName pod.space pod.parent.clusterName

/-- The members that have rules. -/
def entitled (pod : Pod) : List Instance :=
  pod.members.filter fun member => member.IsEntitled

/-- A pod acts under the account of its parent if some member has rules, and under none otherwise. -/
theorem account_eq_some_iff {account : String} :
    pod.account = some account ↔
      account = pod.parent.clusterName ∧ ∃ member ∈ pod.members, member.IsEntitled := by
  have asked : (pod.members.any fun member => !member.policyRules.isEmpty) = true ↔
      ∃ member ∈ pod.members, member.IsEntitled := by
    simp [Instance.IsEntitled]
  rw [Pod.account]
  split
  · rename_i some
    simp [asked.mp some, eq_comm]
  · rename_i none
    simp [mt asked.mpr none]

theorem serviceAccountName_of_compile {compiled : CompiledPod} (made : pod.compile = .ok compiled) :
    compiled.podSpec.serviceAccountName = pod.account := by
  rcases parts_of_replicaSet (compile_eq_ok_iff.mp made).1 with ⟨_, _, _, spec⟩
  rw [CompiledPod.podSpec, spec]

/-- What gives a member its access. -/
theorem access_eq (listed : member ∈ pod.members) :
    pod.access member =
      if member.IsEntitled then [.role (pod.roleOf member), .roleBinding (pod.bindingOf member)] else [] := by
  rw [access]
  by_cases asks : member.IsEntitled
  · have acts := account_eq_some_iff.mpr ⟨rfl, member, listed, asks⟩
    rw [if_neg (by simpa [Instance.IsEntitled] using asks), if_pos asks, acts]
    rfl
  · rw [if_pos (by simpa [Instance.IsEntitled] using asks), if_neg asks]

/-- What roles and bindings there are can be read off the members with rules. -/
theorem filterMap_supporting {project : Resource → Option β}
    (other : ∀ resource, resource.resourceKind ≠ .role → resource.resourceKind ≠ .roleBinding →
      project resource = none) :
    pod.supporting.filterMap project = pod.entitled.flatMap fun member =>
      [.role (pod.roleOf member), .roleBinding (pod.bindingOf member)].filterMap project := by
  have skipped {γ : Type} {items : List γ} {make : γ → Resource} (kind : ResourceKind)
      (made : ∀ item, (make item).resourceKind = kind) (apart : kind ≠ .role ∧ kind ≠ .roleBinding) :
      (items.map make).filterMap project = [] := by
    rw [List.filterMap_eq_nil_iff]
    intro resource listed
    rcases List.mem_map.mp listed with ⟨item, _, rfl⟩
    exact other _ (made item ▸ apart.1) (made item ▸ apart.2)
  have own (member : Instance) :
      (pod.memberResources member).filterMap project = (pod.access member).filterMap project := by
    simp only [memberResources, List.filterMap_append]
    rw [skipped .storageClaim (fun _ => rfl) (by decide), skipped .configMap (fun _ => rfl) (by decide),
      skipped .service (fun _ => rfl) (by decide), List.nil_append, List.nil_append, List.append_nil]
  rw [supporting, List.filterMap_append, skipped .serviceAccount (fun _ => rfl) (by decide),
    List.nil_append, List.filterMap_flatMap]
  rw [entitled, flatMap_filter]
  refine List.flatMap_congr fun member listed => ?_
  rw [own, access_eq listed]
  split
  · rfl
  · rfl

theorem roles_of_supporting : pod.supporting.filterMap Resource.role? = pod.entitled.map pod.roleOf := by
  rw [filterMap_supporting]
  · exact List.map_eq_flatMap.symm
  · intro resource noRole _
    cases resource with
    | role found => exact absurd rfl noRole
    | _ => rfl

theorem bindings_of_supporting :
    pod.supporting.filterMap Resource.roleBinding? = pod.entitled.map pod.bindingOf := by
  rw [filterMap_supporting]
  · exact List.map_eq_flatMap.symm
  · intro resource _ noBinding
    cases resource with
    | roleBinding found => exact absurd rfl noBinding
    | _ => rfl

theorem role_mem_supporting_iff {role : Role} :
    .role role ∈ pod.supporting ↔ ∃ member ∈ pod.entitled, pod.roleOf member = role := by
  rw [← List.mem_map, ← roles_of_supporting, List.mem_filterMap]
  simp only [Resource.role?_eq_some_iff, exists_eq_right]

theorem binding_mem_supporting_iff {binding : RoleBinding} :
    .roleBinding binding ∈ pod.supporting ↔ ∃ member ∈ pod.entitled, pod.bindingOf member = binding := by
  rw [← List.mem_map, ← bindings_of_supporting, List.mem_filterMap]
  simp only [Resource.roleBinding?_eq_some_iff, exists_eq_right]

/-- A member's binding refers to the role that is named like it, in the same space. -/
theorem refersTo_iff {other : Instance} :
    (pod.bindingOf member).RefersTo (pod.roleOf other) ↔ other.clusterName = member.clusterName :=
  ⟨fun refers => refers.2.2.1, fun same => ⟨rfl, rfl, same, rfl⟩⟩

/-- The account of the parent is granted the role of each member with rules. -/
theorem grantedRoles_of_supporting (named : (pod.members.map Instance.clusterName).Nodup) :
    grantedRoles pod.supporting (.ofAccount pod.parent.clusterName pod.space) =
      pod.entitled.map pod.roleOf := by
  have apart : (pod.entitled.map Instance.clusterName).Nodup :=
    named.sublist (List.filter_sublist.map _)
  have all : (pod.entitled.map pod.bindingOf).filter (fun binding =>
      Subject.ofAccount pod.parent.clusterName pod.space ∈ binding.subjects) =
        pod.entitled.map pod.bindingOf := by
    rw [List.filter_eq_self]
    intro binding listed
    rcases List.mem_map.mp listed with ⟨member, _, rfl⟩
    exact decide_eq_true (List.mem_singleton_self _)
  have single (member : Instance) (listed : member ∈ pod.entitled) :
      (pod.entitled.map pod.roleOf).filter (fun role => (pod.bindingOf member).RefersTo role) =
        [pod.roleOf member] := by
    simp only [List.filter_map, Function.comp_def, refersTo_iff, filter_key_eq_singleton apart listed,
      List.map_singleton]
  rw [grantedRoles, bindings_of_supporting, roles_of_supporting, all, List.flatMap_map]
  exact (List.flatMap_congr single).trans List.map_eq_flatMap.symm

/-- The rules of the members are those of the members that have some. -/
theorem flatMap_policyRules :
    pod.entitled.flatMap Instance.policyRules = pod.members.flatMap Instance.policyRules := by
  rw [entitled, flatMap_filter]
  refine List.flatMap_congr fun member _ => ?_
  split
  · rfl
  · rename_i none
    exact (Decidable.not_not.mp none).symm

theorem grantsExactly_of_supporting (named : (pod.members.map Instance.clusterName).Nodup) :
    GrantsExactly pod.supporting pod.parent.clusterName pod.space pod.members where
  accounts found := by
    constructor
    · intro listed
      rcases supports_of_mem listed with ⟨member, _, supports⟩
      cases supports with
      | account acts =>
          rcases account_eq_some_iff.mp acts with ⟨rfl, asked⟩
          exact ⟨rfl, asked⟩
    · rintro ⟨rfl, asked⟩
      rw [supporting, account_eq_some_iff.mpr ⟨rfl, asked⟩]
      exact List.mem_cons_self
  roles := by
    rw [grantedRoles_of_supporting named, List.map_map]
    rfl
  rules := by
    rw [grantedRules, grantedRoles_of_supporting named, List.flatMap_map]
    exact flatMap_policyRules
  bindings := by
    intro binding listed
    rcases binding_mem_supporting_iff.mp listed with ⟨member, asks, rfl⟩
    exact ⟨rfl, rfl, pod.roleOf member, role_mem_supporting_iff.mpr ⟨member, asks, rfl⟩, refersTo_iff.mpr rfl⟩
  bound := by
    intro role listed
    rcases role_mem_supporting_iff.mp listed with ⟨member, asks, rfl⟩
    exact ⟨pod.bindingOf member, binding_mem_supporting_iff.mpr ⟨member, asks, rfl⟩, refersTo_iff.mpr rfl⟩

end Pod

/-- The access of a pod is exact, if its members have names of their own.  What supports it grants the account
of the parent the rules of all members, and no other rules.  Once the pod is compiled, it acts under this
account if some member has rules, and under none otherwise.  It is compiled if all members have images. -/
theorem access_of_members {pod : Pod} (named : (pod.members.map Instance.clusterName).Nodup) :
    GrantsExactly pod.supporting pod.parent.clusterName pod.space pod.members ∧
      (∀ compiled, pod.compile = .ok compiled → compiled.supporting = pod.supporting ∧
        ∀ account, compiled.podSpec.serviceAccountName = some account ↔
          account = pod.parent.clusterName ∧ ∃ member ∈ pod.members, member.IsEntitled) ∧
      ((∀ member ∈ pod.members, member.image ≠ none) → ∃ compiled, pod.compile = .ok compiled) := by
  refine ⟨Pod.grantsExactly_of_supporting named, ?_, Pod.exists_compile⟩
  intro compiled made
  refine ⟨(Pod.parts_of_compile made).1, fun account => ?_⟩
  rw [Pod.serviceAccountName_of_compile made]
  exact Pod.account_eq_some_iff

/-- A pod whose sidecars have rules, but not its parent. -/
def entitledPod : Pod where
  parent := { id := ⟨0⟩, name := "main", clusterName := "main-a", image := some "busybox" }
  sidecars :=
    [{ id := ⟨1⟩, name := "reader", clusterName := "reader-b", image := some "busybox"
       policyRules := [{ resources := ["pods"], verbs := ["get", "list"] }] },
     { id := ⟨2⟩, name := "idle", clusterName := "idle-c", image := some "busybox" },
     { id := ⟨3⟩, name := "writer", clusterName := "writer-d", image := some "busybox"
       policyRules := [{ resources := ["leases"], verbs := ["update"] }, { verbs := ["*"] }] }]
  space := "tidepool"
  initImage := "busybox"

/-- The rules of both sidecars are granted to the account of the parent, and the pod acts under it. -/
theorem access_of_entitledPod :
    (entitledPod.members.map Instance.clusterName).Nodup ∧
      grantedRules entitledPod.supporting (.ofAccount "main-a" "tidepool") =
        [{ resources := ["pods"], verbs := ["get", "list"] }, { resources := ["leases"], verbs := ["update"] },
          { verbs := ["*"] }] ∧
      ∃ compiled, entitledPod.compile = .ok compiled ∧
        compiled.podSpec.serviceAccountName = some "main-a" := by
  have named : (entitledPod.members.map Instance.clusterName).Nodup := by decide
  rcases access_of_members named with ⟨grants, acts, compiles⟩
  rcases compiles (by decide) with ⟨compiled, made⟩
  have account := (acts compiled made).2 "main-a"
  refine ⟨named, grants.rules, compiled, made, account.mpr ⟨rfl, ?_⟩⟩
  exact ⟨_, List.mem_cons_of_mem _ List.mem_cons_self, by decide⟩

end Testbed
