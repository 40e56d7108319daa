import Testbed.Proofs.Cache
import Testbed.Proofs.Blueprint
import Testbed.Proofs.Supporting

namespace Testbed

/-!
# What network policies mean

A selector picks the pods that carry each of its labels.  A policy governs the pods of its own namespace
that its selector picks, and a policy on one direction of traffic admits, of the pods of its namespace,
those that some peer of some rule picks; a rule without peers admits everybody.

Every pod carries the cluster name of its owner as a label, and the owner's kind as another.  No two
instances share a cluster name, so the policy that isolates an owner governs the owner's pod and no other,
and it admits the pods of executors in both directions.
-/

/-- Whether a selector picks pods that carry these labels. -/
def LabelSelector.Selects (selector : LabelSelector) (labels : StringMap) : Prop :=
  ∀ key value, selector.matchLabels.get? key = some value → labels.get? key = some value

namespace NetworkPolicy

/-- Whether a policy is about the pods of a compute unit. -/
def Governs (policy : NetworkPolicy) (unit : ReplicaSet) : Prop :=
  unit.metadata.space = policy.metadata.space ∧
    policy.spec.podSelector.Selects unit.spec.template.metadata.labels

/-- Whether a rule of a policy with these peers is for the pods of a compute unit. -/
def Allows (policy : NetworkPolicy) (peers : List Peer) (unit : ReplicaSet) : Prop :=
  peers = [] ∨ ∃ peer ∈ peers, unit.metadata.space = policy.metadata.space ∧
    peer.podSelector.Selects unit.spec.template.metadata.labels

/-- Whether the pods that a policy governs may be reached from those of a compute unit. -/
def AdmitsFrom (policy : NetworkPolicy) (unit : ReplicaSet) : Prop :=
  "Ingress" ∈ policy.spec.policyTypes → ∃ rule ∈ policy.spec.ingress, policy.Allows rule.peers unit

/-- Whether the pods that a policy governs may reach those of a compute unit. -/
def AdmitsTo (policy : NetworkPolicy) (unit : ReplicaSet) : Prop :=
  "Egress" ∈ policy.spec.policyTypes → ∃ rule ∈ policy.spec.egress, policy.Allows rule.peers unit

end NetworkPolicy

/-! ## Labels -/

namespace StringMap

variable {key other value : String}

theorem get?_single : (single key value).get? other = if other = key then some value else none :=
  get?_insert

end StringMap

/-- A selector with one label picks the pods that carry it. -/
theorem LabelSelector.selects_single_iff {key value : String} {labels : StringMap} :
    (single key value).Selects labels ↔ labels.get? key = some value := by
  constructor
  · intro selects
    exact selects key value (StringMap.get?_single.trans (if_pos rfl))
  · intro carried other wanted same
    rw [single, StringMap.get?_single] at same
    split at same
    · rename_i here
      rw [here, carried]
      exact same
    · cases same

/-- The kinds of instances are told apart by their labels. -/
theorem InstanceKind.text_injective {first second : InstanceKind} (same : first.text = second.text) :
    first = second := by
  cases first <;> cases second <;> first | rfl | exact absurd same (by decide)

namespace Instance

variable {workload : Instance}

theorem get?_podLabels_app : workload.podLabels.get? Label.app = some workload.clusterName := by
  have apart : Label.app ≠ Label.type ∧ Label.app ≠ Label.name := by decide
  simp only [podLabels, StringMap.ofList, StringMap.insertAll, List.foldl_cons, List.foldl_nil,
    StringMap.get?_insert, if_neg apart.1, if_neg apart.2, if_true]

theorem get?_podLabels_type : workload.podLabels.get? Label.type = some workload.kind.text := by
  simp only [podLabels, StringMap.ofList, StringMap.insertAll, List.foldl_cons, List.foldl_nil,
    StringMap.get?_insert, if_true]

end Instance

/-- The pods of a compute unit are in the namespace of the settings and carry the labels of their owner. -/
theorem Pod.labels_of_replicaSet {pod : Pod} {replicaSet : ReplicaSet}
    (made : pod.replicaSet = .ok replicaSet) :
    replicaSet.metadata.space = pod.space ∧
      replicaSet.spec.template.metadata.labels = pod.parent.podLabels := by
  rcases parts_of_replicaSet made with ⟨_, _, metadata, spec⟩
  rw [spec]
  exact ⟨congrArg Metadata.space metadata, rfl⟩

theorem Registry.labels_of_compile {registry : Registry} {settings : Settings} {workload : Instance}
    {compiled : CompiledPod} (compiles : registry.compile settings workload = .ok compiled) :
    compiled.replicaSet.metadata.space = settings.space ∧
      compiled.replicaSet.spec.template.metadata.labels = workload.podLabels := by
  rcases compile_eq_ok_iff.mp compiles with ⟨pod, assembled, made, _⟩
  rcases pod_eq_ok_iff.mp assembled with ⟨_, rfl, space, _⟩
  rw [← space]
  exact Pod.labels_of_replicaSet made

/-! ## The policy of an owner -/

section

variable {registry : Registry} {settings : Settings} {id other : InstanceId} {owner : String}
  {leader another : Instance} {compiled : CompiledPod}

/-- The policy that isolates a pod governs it and no other pod of the registry. -/
theorem governs_isolationPolicy_iff (linked : registry.WellLinked) (found : registry.get? id = some leader)
    (there : registry.get? other = some another)
    (compiles : registry.compile settings another = .ok compiled) :
    (isolationPolicy leader.clusterName settings.space).Governs compiled.replicaSet ↔ other = id := by
  rcases Registry.labels_of_compile compiles with ⟨space, labels⟩
  have picks : (isolationPolicy leader.clusterName settings.space).Governs compiled.replicaSet ↔
      another.clusterName = leader.clusterName := by
    rw [NetworkPolicy.Governs, labels]
    refine (and_iff_right space).trans (LabelSelector.selects_single_iff.trans ?_)
    rw [Instance.get?_podLabels_app, Option.some.injEq]
  refine picks.trans ⟨linked.distinct there found, ?_⟩
  rintro rfl
  rw [Option.some.inj (there.symm.trans found)]

/-- A rule of the policy that isolates a pod is for the pods of executors. -/
theorem allows_isolationPolicy_iff (compiles : registry.compile settings another = .ok compiled) :
    (isolationPolicy owner settings.space).Allows
      [⟨.single Label.type InstanceKind.executor.text⟩] compiled.replicaSet ↔
      another.kind = .executor := by
  rcases Registry.labels_of_compile compiles with ⟨space, labels⟩
  rw [NetworkPolicy.Allows, labels]
  refine (or_iff_right (List.cons_ne_nil _ _)).trans ?_
  constructor
  · rintro ⟨peer, listed, _, selects⟩
    rw [List.mem_singleton.mp listed, LabelSelector.selects_single_iff] at selects
    rw [Instance.get?_podLabels_type] at selects
    exact InstanceKind.text_injective (Option.some.inj selects)
  · intro executor
    refine ⟨_, List.mem_singleton_self _, space, LabelSelector.selects_single_iff.mpr ?_⟩
    rw [Instance.get?_podLabels_type, executor]

theorem admitsFrom_isolationPolicy_iff (compiles : registry.compile settings another = .ok compiled) :
    (isolationPolicy owner settings.space).AdmitsFrom compiled.replicaSet ↔ another.kind = .executor := by
  rw [← allows_isolationPolicy_iff compiles]
  constructor
  · intro admits
    rcases admits List.mem_cons_self with ⟨rule, listed, allows⟩
    exact List.mem_singleton.mp listed ▸ allows
  · exact fun allows _ => ⟨_, List.mem_singleton_self _, allows⟩

theorem admitsTo_isolationPolicy_iff (compiles : registry.compile settings another = .ok compiled) :
    (isolationPolicy owner settings.space).AdmitsTo compiled.replicaSet ↔ another.kind = .executor := by
  rw [← allows_isolationPolicy_iff compiles]
  constructor
  · intro admits
    rcases admits (List.mem_cons_of_mem _ List.mem_cons_self) with ⟨rule, listed, allows⟩
    exact List.mem_singleton.mp listed ▸ allows
  · exact fun allows _ => ⟨_, List.mem_singleton_self _, allows⟩

end
end Testbed
