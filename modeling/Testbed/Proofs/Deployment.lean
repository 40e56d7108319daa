import Testbed.Proofs.Blueprint

namespace Testbed

/-!
# Deployments

A deployment is what the cluster has to know of a settled pod: its name and state, its compute unit
and what supports it, all compiled from the registry as it is now.  Seen in this way an operation does
one of three things.  It leaves all deployments as they are, or it deploys one pod, or it halts one;
what it does to descriptions, files, addresses or shaping cannot be seen.
-/

/-- What the cluster has to know of a pod. -/
structure Deployment where
  clusterName : String
  state : State
  replicaSet : Except Error ReplicaSet
  supporting : List Resource

namespace Pod

def deployment (pod : Pod) : Deployment :=
  ⟨pod.parent.clusterName, pod.parent.state, pod.replicaSet, pod.supporting⟩

/-- The deployment of a pod depends on the blueprints of its members and the state of its parent. -/
theorem deployment_of_blueprint {pod other : Pod} (same : other.blueprint = pod.blueprint) :
    other.deployment = { pod.deployment with state := other.parent.state } := by
  have parents := congrArg Pod.parent same
  have names := congrArg Links.clusterName (Instance.links_of_blueprint_eq parents)
  change other.parent.clusterName = pod.parent.clusterName at names
  rw [deployment, deployment, names, ← replicaSet_blueprint, ← supporting_blueprint, same,
    replicaSet_blueprint, supporting_blueprint]

/-- A pod with another image for its parent. -/
def withImage (pod : Pod) (reference : String) : Pod :=
  { pod with parent := { pod.parent with image := some reference } }

/-- No image is named in what supports a pod. -/
theorem supporting_withImage (pod : Pod) (reference : String) :
    (pod.withImage reference).supporting = pod.supporting :=
  rfl

end Pod

namespace Registry

variable {settings : Settings} {registry before after : Registry} {id : InstanceId}
  {workload moved : Instance} {pod : Pod} {deployment other : Deployment}

/-- Whether a handle's instance is no sidecar and has this pod. -/
def HasPod (settings : Settings) (registry : Registry) (id : InstanceId) (pod : Pod) : Prop :=
  registry.get? id = some pod.parent ∧ pod.parent.parent = none ∧
    registry.pod settings pod.parent = .ok pod

/-- Whether a handle's instance leads a settled pod that is deployed in this way. -/
def Deploys (settings : Settings) (registry : Registry) (id : InstanceId) (deployment : Deployment) :
    Prop :=
  ∃ pod, registry.HasPod settings id pod ∧ pod.parent.state.IsSettled ∧ pod.deployment = deployment

theorem hasPod_of_pod (found : registry.get? id = some workload) (leads : workload.parent = none)
    (assembled : registry.pod settings workload = .ok pod) : registry.HasPod settings id pod := by
  rcases pod_eq_ok_iff.mp assembled with ⟨_, rfl, _, _⟩
  exact ⟨found, leads, assembled⟩

theorem exists_hasPod (linked : registry.WellLinked) (found : registry.get? id = some workload)
    (leads : workload.parent = none) (settings : Settings) :
    ∃ pod, registry.HasPod settings id pod ∧ pod.parent = workload := by
  rcases exists_pod linked found settings with ⟨pod, assembled⟩
  exact ⟨pod, hasPod_of_pod found leads assembled, (pod_eq_ok_iff.mp assembled).2.1⟩

/-- What is compiled of an instance that is no sidecar is compiled of its pod. -/
theorem exists_hasPod_of_compile (found : registry.get? id = some workload)
    (leads : workload.parent = none) {compiled : CompiledPod}
    (compiles : registry.compile settings workload = .ok compiled) :
    ∃ pod, registry.HasPod settings id pod ∧ pod.parent = workload ∧
      pod.replicaSet = .ok compiled.replicaSet ∧ compiled.supporting = pod.supporting := by
  rcases compile_eq_ok_iff.mp compiles with ⟨pod, assembled, replicaSet, supporting⟩
  have parent := (pod_eq_ok_iff.mp assembled).2.1
  exact ⟨pod, hasPod_of_pod found leads assembled, parent, replicaSet, supporting⟩

theorem HasPod.unique {first second : Pod} (one : registry.HasPod settings id first)
    (another : registry.HasPod settings id second) : first = second := by
  have parents := Option.some.inj (one.1.symm.trans another.1)
  have assembled := one.2.2
  rw [parents, another.2.2] at assembled
  exact (Except.ok.inj assembled).symm

theorem Deploys.unique (one : registry.Deploys settings id deployment)
    (another : registry.Deploys settings id other) : deployment = other := by
  rcases one with ⟨pod, has, _, rfl⟩
  rcases another with ⟨same, hasToo, _, rfl⟩
  rw [has.unique hasToo]

/-- A pod whose members keep their blueprints keeps its own. -/
theorem HasPod.transport (has : before.HasPod settings id pod)
    (keeps : ∀ handle ∈ before.podHandles id, ∀ member, before.get? handle = some member →
      ∃ later, after.get? handle = some later ∧ later.blueprint = member.blueprint) :
    ∃ later, after.HasPod settings id later ∧ later.blueprint = pod.blueprint := by
  rcases has with ⟨found, leads, assembled⟩
  rcases keeps id (mem_podHandles_iff.mpr (Or.inl rfl)) _ found with ⟨moved, there, same⟩
  have links := Instance.links_of_blueprint_eq same
  have sidecars : moved.sidecars = pod.parent.sidecars := congrArg Links.sidecars links
  have parent : moved.parent = pod.parent.parent := congrArg Links.parent links
  have members : ∀ sidecar ∈ pod.parent.sidecars, ∀ member, before.get? sidecar = some member →
      ∃ later, after.get? sidecar = some later ∧ later.blueprint = member.blueprint := by
    intro sidecar listed
    rw [← sidecarsOf_eq found] at listed
    exact keeps sidecar (mem_podHandles_iff.mpr (Or.inr listed))
  rcases pod_of_blueprint sidecars members assembled with ⟨later, reassembled, alike⟩
  rcases pod_eq_ok_iff.mp reassembled with ⟨_, rfl, _, _⟩
  refine ⟨later, ⟨there, parent.trans leads, reassembled⟩, alike.trans ?_⟩
  rw [same]
  rfl

/-! ## Changes that deployments do not see -/

/-- Whether settled instances keep state and blueprint, and none becomes settled. -/
structure Calm (before after : Registry) : Prop where
  goes : ∀ {id workload}, before.get? id = some workload → workload.state.IsSettled →
    ∃ moved, after.get? id = some moved ∧ moved.blueprint = workload.blueprint ∧
      moved.state = workload.state
  comes : ∀ {id moved}, after.get? id = some moved → moved.state.IsSettled →
    ∃ workload, before.get? id = some workload ∧ workload.state.IsSettled

/-- All members of a settled pod are settled. -/
theorem settled_of_mem_podHandles (lockstep : registry.InLockstep)
    (found : registry.get? id = some workload) (settled : workload.state.IsSettled)
    {handle : InstanceId} (member : handle ∈ registry.podHandles id)
    (there : registry.get? handle = some moved) : moved.state.IsSettled := by
  have united : ∀ driven, workload.state.Accords driven → driven = workload.state := by
    intro driven accord
    rcases State.isSettled_iff.mp settled with started | stopped
    · rw [started] at accord ⊢
      exact accord
    · rw [stopped] at accord ⊢
      exact accord
  have state := lockstep.stateOf_of_mem_podHandles found member united
  rw [stateOf_eq there, Option.some.injEq] at state
  exact state ▸ settled

theorem Calm.deploys_iff (calm : before.Calm after) (linked : before.WellLinked)
    (lockstep : before.InLockstep) :
    after.Deploys settings id deployment ↔ before.Deploys settings id deployment := by
  have onward {deployment : Deployment} (deploys : before.Deploys settings id deployment) :
      after.Deploys settings id deployment := by
    rcases deploys with ⟨pod, has, settled, rfl⟩
    rcases calm.goes has.1 settled with ⟨moved, there, same, state⟩
    obtain ⟨later, hasLater, alike⟩ := has.transport fun handle member workload found =>
      have ⟨moved, there, same, _⟩ := calm.goes found
        (settled_of_mem_podHandles lockstep has.1 settled member found)
      ⟨moved, there, same⟩
    rcases Option.some.inj (hasLater.1.symm.trans there) with rfl
    refine ⟨later, hasLater, state ▸ settled, ?_⟩
    rw [Pod.deployment_of_blueprint alike, state]
    rfl
  constructor
  · rintro ⟨later, has, settled, rfl⟩
    rcases calm.comes has.1 settled with ⟨workload, found, early⟩
    rcases calm.goes found early with ⟨moved, there, same, state⟩
    rcases Option.some.inj (has.1.symm.trans there) with rfl
    have parents := congrArg Links.parent (Instance.links_of_blueprint_eq same)
    have leads : workload.parent = none := parents.symm.trans has.2.1
    rcases exists_hasPod linked found leads settings with ⟨pod, hasPod, rfl⟩
    have deploys : before.Deploys settings id pod.deployment := ⟨pod, hasPod, early, rfl⟩
    rwa [(onward deploys).unique ⟨later, has, settled, rfl⟩] at deploys
  · exact onward

/-! ## Changes that deployments see -/

/-- When one pod gets another deployment, and every other pod keeps its own, so do the settled pods. -/
theorem deploys_of_change {target : Deployment} (settled : target.state.IsSettled)
    (here : ∃ later, after.HasPod settings id later ∧ later.deployment = target)
    (elsewhere : ∀ {handle plan}, handle ≠ id → before.HasPod settings handle plan →
      ∃ later, after.HasPod settings handle later ∧ later.deployment = plan.deployment)
    (back : ∀ {handle later}, after.HasPod settings handle later →
      ∃ plan, before.HasPod settings handle plan) {handle : InstanceId} :
    after.Deploys settings handle deployment ↔
      if handle = id then deployment = target else before.Deploys settings handle deployment := by
  constructor
  · rintro ⟨later, hasLater, lateSettled, rfl⟩
    split
    · rename_i same
      subst same
      rcases here with ⟨again, hasAgain, becomes⟩
      rw [hasLater.unique hasAgain, becomes]
    · rename_i apart
      rcases back hasLater with ⟨plan, known⟩
      rcases elsewhere apart known with ⟨again, hasAgain, becomes⟩
      rcases hasLater.unique hasAgain with rfl
      have state : later.parent.state = plan.parent.state := congrArg Deployment.state becomes
      exact ⟨plan, known, state ▸ lateSettled, becomes.symm⟩
  · split
    · rename_i same
      subst same
      rintro rfl
      rcases here with ⟨later, hasLater, rfl⟩
      exact ⟨later, hasLater, settled, rfl⟩
    · rename_i apart
      rintro ⟨plan, known, early, rfl⟩
      rcases elsewhere apart known with ⟨later, hasLater, becomes⟩
      have state : later.parent.state = plan.parent.state := congrArg Deployment.state becomes
      exact ⟨later, hasLater, state ▸ early, becomes⟩

/-- When a pod moves to a settled state, its deployment gets that state and nothing else changes. -/
theorem deploys_of_move (linked : before.WellLinked) {next : State} (settled : next.IsSettled)
    (goes : ∀ {handle member}, before.get? handle = some member →
      ∃ later, after.get? handle = some later ∧ later.blueprint = member.blueprint ∧
        later.state = if handle ∈ before.podHandles id then next else member.state)
    (comes : ∀ {handle later}, after.get? handle = some later →
      ∃ member, before.get? handle = some member)
    (has : before.HasPod settings id pod) {handle : InstanceId} :
    after.Deploys settings handle deployment ↔
      if handle = id then deployment = { pod.deployment with state := next }
      else before.Deploys settings handle deployment := by
  have onward {handle : InstanceId} {plan : Pod} (known : before.HasPod settings handle plan) :
      ∃ later, after.HasPod settings handle later ∧
        later.deployment =
          { plan.deployment with state := if handle = id then next else plan.parent.state } := by
    obtain ⟨later, hasLater, alike⟩ := known.transport fun handle _ member found =>
      have ⟨later, there, same, _⟩ := goes found
      ⟨later, there, same⟩
    rcases goes known.1 with ⟨moved, there, _, state⟩
    rcases Option.some.inj (hasLater.1.symm.trans there) with rfl
    simp only [linked.mem_podHandles_iff_of_leads known.1 known.2.1] at state
    exact ⟨later, hasLater, by rw [Pod.deployment_of_blueprint alike, state]⟩
  refine deploys_of_change settled ?_ ?_ ?_
  · rcases onward has with ⟨later, hasLater, becomes⟩
    rw [if_pos rfl] at becomes
    exact ⟨later, hasLater, becomes⟩
  · intro handle plan apart known
    rcases onward known with ⟨later, hasLater, becomes⟩
    rw [if_neg apart] at becomes
    exact ⟨later, hasLater, becomes⟩
  · intro handle later hasLater
    rcases comes hasLater.1 with ⟨member, found⟩
    rcases goes found with ⟨moved, there, same, _⟩
    rcases Option.some.inj (hasLater.1.symm.trans there) with rfl
    have parents := congrArg Links.parent (Instance.links_of_blueprint_eq same)
    have leads : member.parent = none := parents.symm.trans hasLater.2.1
    rcases exists_hasPod linked found leads settings with ⟨plan, known, _⟩
    exact ⟨plan, known⟩

/-! ## Images -/

variable {reference : String}

theorem get?_setImage_of_ne {handle : InstanceId} (apart : handle ≠ id) :
    (before.setImage id reference).get? handle = before.get? handle := by
  rw [setImage, get?_update_of_ne apart]

/-- A pod whose parent gets another image is the same with that image. -/
theorem HasPod.setImage_self (has : before.HasPod settings id pod) (linked : before.WellLinked) :
    ∃ later, (before.setImage id reference).HasPod settings id later ∧
      later.deployment = (pod.withImage reference).deployment := by
  have there : (before.setImage id reference).get? id = some (pod.withImage reference).parent := by
    rw [setImage, get?_update_self, has.1]
    rfl
  have members : ∀ sidecar ∈ pod.parent.sidecars, ∀ member, before.get? sidecar = some member →
      ∃ later, (before.setImage id reference).get? sidecar = some later ∧
        later.blueprint = member.blueprint := by
    intro sidecar listed member found
    rw [← sidecarsOf_eq has.1] at listed
    have elsewhere : sidecar ≠ id := fun same => linked.not_mem_own (same ▸ listed)
    exact ⟨member, (get?_setImage_of_ne elsewhere).trans found, rfl⟩
  have sidecars : (pod.withImage reference).parent.sidecars = pod.parent.sidecars := rfl
  rcases pod_of_blueprint sidecars members has.2.2 with ⟨later, reassembled, alike⟩
  have parent := (pod_eq_ok_iff.mp reassembled).2.1
  rw [← parent] at there reassembled
  have leads : later.parent.parent = none := parent ▸ has.2.1
  refine ⟨later, ⟨there, leads, reassembled⟩, ?_⟩
  have same : later.blueprint = (pod.withImage reference).blueprint := alike
  rw [Pod.deployment_of_blueprint same, parent]
  rfl

/-- A pod of which no member gets another image keeps its deployment. -/
theorem HasPod.setImage_of_not_mem (has : before.HasPod settings id pod) {changed : InstanceId}
    (outside : changed ∉ before.podHandles id) :
    ∃ later, (before.setImage changed reference).HasPod settings id later ∧
      later.deployment = pod.deployment := by
  have stays {handle : InstanceId} (member : handle ∈ before.podHandles id) :
      (before.setImage changed reference).get? handle = before.get? handle :=
    get?_setImage_of_ne fun same => outside (same ▸ member)
  obtain ⟨later, hasLater, alike⟩ := has.transport fun handle listed member found =>
    ⟨member, (stays listed).trans found, rfl⟩
  have found := (stays (mem_podHandles_iff.mpr (Or.inl rfl))).trans has.1
  have parent := Option.some.inj (hasLater.1.symm.trans found)
  refine ⟨later, hasLater, ?_⟩
  rw [Pod.deployment_of_blueprint alike, parent]
  rfl

/-- When the image of a pod's parent is replaced, its deployment gets another compute unit and nothing
else changes. -/
theorem deploys_setImage (linked : before.WellLinked) (has : before.HasPod settings id pod)
    (settled : pod.parent.state.IsSettled) {handle : InstanceId} :
    (before.setImage id reference).Deploys settings handle deployment ↔
      if handle = id then deployment = (pod.withImage reference).deployment
      else before.Deploys settings handle deployment := by
  refine deploys_of_change settled (has.setImage_self linked) ?_ ?_
  · intro handle plan elsewhere known
    have outside : id ∉ before.podHandles handle := fun member =>
      elsewhere ((linked.mem_podHandles_iff_of_leads has.1 has.2.1).mp member).symm
    exact known.setImage_of_not_mem outside
  · intro handle later hasLater
    by_cases here : handle = id
    · exact ⟨pod, here ▸ has⟩
    · have found := (get?_setImage_of_ne here).symm.trans hasLater.1
      rcases exists_hasPod linked found hasLater.2.1 settings with ⟨plan, known, _⟩
      exact ⟨plan, known⟩

end Registry
end Testbed
