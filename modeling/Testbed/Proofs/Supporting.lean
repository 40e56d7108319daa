import Testbed.Compile

namespace Testbed

/-!
# What supports a pod

Each resource that supports a pod is there for one of its members, and its name comes from the
member's.  There is no more than one of a kind for a member.  Pods without a common member have
therefore no supporting resource in common, and within a pod no two share a kind and a name, as long
as the members have names of their own.  The compute unit that is supported is named after the parent.
-/

/-- A service is named after its instance. -/
theorem Instance.name_of_service {workload : Instance} {podOwner space : String} {service : Service}
    (offers : workload.service podOwner space = some service) :
    (Resource.service service).name = workload.clusterName := by
  rw [Instance.service] at offers
  split at offers
  · cases offers
  · cases offers
    rfl

namespace Pod

/-- The name of what is of a kind and is there for the instance of a cluster name. -/
def supportName : ResourceKind → String → String
  | .storageClaim, clusterName => Naming.volume clusterName
  | .configMap, clusterName => Naming.config clusterName
  | _, clusterName => clusterName

theorem supportName_injective {kind : ResourceKind} {first last : String}
    (same : supportName kind first = supportName kind last) : first = last := by
  cases kind with
  | storageClaim | configMap => exact (String.append_left_inj _).mp same
  | _ => exact same

/-- What is there for which member of a pod. -/
inductive Supports (pod : Pod) : Instance → Resource → Prop where
  | account {account : String} (acts : pod.account = some account) :
      Supports pod pod.parent (.serviceAccount (.fresh account pod.space))
  | claim {member : Instance} {volume : VolumeDescription} (mounts : member.volume = some volume) :
      Supports pod member
        (.storageClaim (.ofSize (Naming.volume member.clusterName) pod.space volume.size))
  | files {member : Instance} {files : ConfigMap} (carries : member.configMap pod.space = some files) :
      Supports pod member (.configMap files)
  | role {member : Instance} :
      Supports pod member (.role (.ofRules member.clusterName pod.space member.policyRules))
  | binding {member : Instance} {account : String} (acts : pod.account = some account) :
      Supports pod member (.roleBinding (.grant member.clusterName pod.space account))
  | service {member : Instance} {service : Service}
      (offers : member.service pod.parent.clusterName pod.space = some service) :
      Supports pod member (.service service)

variable {pod : Pod} {member : Instance} {resource second : Resource}

theorem account_eq {account : String} (acts : pod.account = some account) :
    account = pod.parent.clusterName := by
  rw [Pod.account] at acts
  split at acts
  · exact (Option.some.inj acts).symm
  · cases acts

theorem supports_of_mem_memberResources (listed : resource ∈ pod.memberResources member) :
    pod.Supports member resource := by
  simp only [memberResources, List.mem_append, List.mem_map, Option.mem_toList] at listed
  rcases listed with ((⟨volume, mounts, rfl⟩ | ⟨files, carries, rfl⟩) | access) | ⟨service, offers, rfl⟩
  · exact .claim mounts
  · exact .files carries
  · rw [Pod.access] at access
    split at access
    · cases access
    · rcases List.mem_flatMap.mp access with ⟨account, acts, either⟩
      rw [Option.mem_toList] at acts
      rcases either with _ | ⟨_, _ | ⟨_, ⟨⟩⟩⟩
      · exact .role
      · exact .binding acts
  · exact .service offers

theorem supports_of_mem (listed : resource ∈ pod.supporting) :
    ∃ member ∈ pod.members, pod.Supports member resource := by
  rcases List.mem_append.mp listed with account | shared
  · rcases List.mem_map.mp account with ⟨account, acts, rfl⟩
    exact ⟨pod.parent, List.mem_cons_self, .account (Option.mem_toList.mp acts)⟩
  · rcases List.mem_flatMap.mp shared with ⟨member, there, own⟩
    exact ⟨member, there, supports_of_mem_memberResources own⟩

namespace Supports

theorem name_eq (supports : pod.Supports member resource) :
    resource.name = supportName resource.resourceKind member.clusterName := by
  cases supports with
  | account acts => exact account_eq acts
  | claim | role | binding => rfl
  | files carries =>
      rw [Instance.configMap] at carries
      split at carries
      · cases carries
      · cases carries
        rfl
  | service offers => exact Instance.name_of_service offers

/-- What supports a pod is neither its compute unit nor its isolation. -/
theorem resourceKind_ne (supports : pod.Supports member resource) :
    resource.resourceKind ≠ .replicaSet ∧ resource.resourceKind ≠ .networkPolicy := by
  cases supports with
  | _ => exact ⟨nofun, nofun⟩

/-- No two resources of a kind are there for the same member. -/
theorem unique (supports : pod.Supports member resource) (again : pod.Supports member second)
    (sameKind : second.resourceKind = resource.resourceKind) : second = resource := by
  cases supports with
  | account acts =>
      cases again with
      | account alike => rw [Option.some.inj (alike.symm.trans acts)]
      | _ => cases sameKind
  | claim mounts =>
      cases again with
      | claim alike => rw [Option.some.inj (alike.symm.trans mounts)]
      | _ => cases sameKind
  | files carries =>
      cases again with
      | files alike => rw [Option.some.inj (alike.symm.trans carries)]
      | _ => cases sameKind
  | role =>
      cases again with
      | role => rfl
      | _ => cases sameKind
  | binding acts =>
      cases again with
      | binding alike => rw [Option.some.inj (alike.symm.trans acts)]
      | _ => cases sameKind
  | service offers =>
      cases again with
      | service alike => rw [Option.some.inj (alike.symm.trans offers)]
      | _ => cases sameKind

end Supports

/-- The compute unit of a pod, part by part. -/
theorem parts_of_replicaSet {unit : ReplicaSet} (made : pod.replicaSet = .ok unit) :
    ∃ containers, pod.members.mapM Instance.container = .ok containers ∧
      unit.metadata = (Metadata.fresh pod.parent.clusterName pod.space).withLabels pod.parent.podLabels ∧
      unit.spec =
        { replicas := 1
          selector := .single Label.app pod.parent.clusterName
          template :=
            { metadata := ⟨pod.parent.podLabels⟩
              spec :=
                { serviceAccountName := pod.account
                  containers
                  initContainers := pod.members.flatMap fun member => member.ownerContainers pod.initImage
                  volumes := pod.members.flatMap Instance.volumes
                  securityContext := pod.parent.fsGroup.map fun group => ⟨some group⟩ } } } := by
  rw [replicaSet] at made
  cases containers : pod.members.mapM Instance.container with
  | error error =>
      rw [containers] at made
      cases made
  | ok listed =>
      rw [containers] at made
      cases made
      exact ⟨listed, rfl, rfl, rfl⟩

/-- A compute unit is named after the parent of its pod. -/
theorem name_of_replicaSet {unit : ReplicaSet} (made : pod.replicaSet = .ok unit) :
    (Resource.replicaSet unit).name = pod.parent.clusterName := by
  rcases parts_of_replicaSet made with ⟨_, _, metadata, _⟩
  exact congrArg Metadata.name metadata

theorem compile_eq_ok_iff {compiled : CompiledPod} :
    pod.compile = .ok compiled ↔
      pod.replicaSet = .ok compiled.replicaSet ∧ compiled.supporting = pod.supporting := by
  rw [compile]
  cases pod.replicaSet with
  | error error => simp only [bind, Except.bind, reduceCtorEq, false_and]
  | ok replicaSet =>
      simp only [bind, Except.bind, pure, Except.pure, Except.ok.injEq]
      constructor
      · rintro rfl
        exact ⟨rfl, rfl⟩
      · rintro ⟨rfl, same⟩
        rw [← same]

end Pod
end Testbed
