import Testbed.Proofs.ComputeUnit

namespace Testbed

/-!
# What supports a pod in the cluster

What supports a pod is applied at its first start only, and every later start relies on it.  It is
there because nothing ever tells the cluster anything else.  Every resource that is applied, apart from
compute units and isolations, is what the registry would compile at that time for the instance of its
name: names are distinct, there is one resource of a kind for each member, and an early service is
compiled in the same way as that of a first start.  From then on the description is frozen.
-/

namespace Registry

variable {settings : Settings} {registry : Registry} {id other handle : InstanceId}
  {pod plan : Pod} {workload member : Instance} {resource second : Resource} {event : Event}

/-- Whether a cluster holds everything that supports the settled pods, as it would be compiled now. -/
def SupportedIn (settings : Settings) (registry : Registry) (cluster : Cluster) : Prop :=
  ∀ id deployment, registry.Deploys settings id deployment → ∀ resource ∈ deployment.supporting,
    cluster resource.resourceKind resource.name = some resource

/-- Whether an event that is about something that supports a pod applies it as it would be compiled
now. -/
def Endorses (settings : Settings) (registry : Registry) (event : Event) : Prop :=
  ∀ id pod, registry.HasPod settings id pod → ∀ resource ∈ pod.supporting,
    event.Touches resource.resourceKind resource.name → event = .applied resource

/-! ## Members -/

/-- No instance is a member of two pods. -/
theorem WellLinked.leader_unique (linked : registry.WellLinked) (has : registry.HasPod settings id pod)
    (another : registry.HasPod settings other plan) (member : handle ∈ registry.podHandles id)
    (shared : handle ∈ registry.podHandles other) : id = other := by
  rcases mem_podHandles_iff.mp member with rfl | listed
  · exact (linked.mem_podHandles_iff_of_leads has.1 has.2.1).mp shared
  · rcases mem_podHandles_iff.mp shared with rfl | alsoListed
    · exact ((linked.mem_podHandles_iff_of_leads another.1 another.2.1).mp member).symm
    · exact linked.parent_unique listed alsoListed

/-- The owner of a member's pod is its parent. -/
theorem WellLinked.podOwner_eq (linked : registry.WellLinked) (has : registry.HasPod settings id pod)
    (member : handle ∈ registry.podHandles id) (found : registry.get? handle = some workload) :
    registry.podOwner workload = .ok pod.parent.clusterName := by
  rcases mem_podHandles_iff.mp member with rfl | listed
  · rcases Option.some.inj (found.symm.trans has.1) with rfl
    rw [podOwner, has.2.1]
  · have parent := linked.linked.mpr listed
    rw [parentOf_eq found] at parent
    rw [podOwner, parent]
    change (registry.find id).map Instance.clusterName = _
    rw [find_eq_ok_iff.mpr has.1]
    rfl

/-- What is of one kind and has one name is the same, whatever pods and members it is there for. -/
theorem WellLinked.supports_unique (linked : registry.WellLinked) {first last : Instance}
    (has : registry.HasPod settings id pod) (listed : first ∈ pod.members)
    (supports : pod.Supports first resource)
    (another : registry.HasPod settings other plan) (alsoListed : last ∈ plan.members)
    (again : plan.Supports last second) (sameKind : second.resourceKind = resource.resourceKind)
    (sameName : second.name = resource.name) : second = resource := by
  rcases (mem_members_iff has.2.2 has.1).mp listed with ⟨handle, member, found⟩
  rcases (mem_members_iff another.2.2 another.1).mp alsoListed with ⟨place, alsoMember, there⟩
  rw [supports.name_eq, again.name_eq, sameKind] at sameName
  rcases linked.distinct there found (Pod.supportName_injective sameName) with rfl
  rcases Option.some.inj (found.symm.trans there) with rfl
  rcases linked.leader_unique has another member alsoMember with rfl
  rcases has.unique another with rfl
  exact supports.unique again sameKind

/-! ## Endorsed events -/

/-- What is said of compute units and isolations concerns nothing that supports a pod. -/
theorem endorses_of_kind (elsewhere : ∀ kind name, event.Touches kind name →
    kind = .replicaSet ∨ kind = .networkPolicy) : registry.Endorses settings event := by
  intro id pod _ resource listed touches
  rcases Pod.supports_of_mem listed with ⟨member, _, supports⟩
  rcases elsewhere _ _ touches with unit | isolation
  · exact absurd unit supports.resourceKind_ne.1
  · exact absurd isolation supports.resourceKind_ne.2

theorem endorses_of_isQuiet (quiet : event.IsQuiet) : registry.Endorses settings event :=
  endorses_of_kind fun _ _ touches => absurd touches quiet.not_touches

/-- Endorsed events leave the support of the settled pods as it is. -/
theorem SupportedIn.after {cluster : Cluster} {events : List Event}
    (supported : registry.SupportedIn settings cluster)
    (endorsed : ∀ event ∈ events, registry.Endorses settings event) :
    registry.SupportedIn settings (cluster.after events) := by
  intro id deployment deploys resource listed
  have held := supported id deployment deploys resource listed
  rcases deploys with ⟨pod, has, _, rfl⟩
  exact Cluster.after_of_coherent (fun event said => endorsed event said id pod has resource listed)
    (Or.inl held)

/-- What supports a pod can be applied at any time. -/
theorem WellLinked.endorses_applied (linked : registry.WellLinked)
    (another : registry.HasPod settings other plan) (compiled : second ∈ plan.supporting) :
    registry.Endorses settings (.applied second) := by
  rintro id pod has resource listed ⟨sameKind, sameName⟩
  rcases Pod.supports_of_mem listed with ⟨first, inPod, supports⟩
  rcases Pod.supports_of_mem compiled with ⟨last, inPlan, again⟩
  rw [linked.supports_unique has inPod supports another inPlan again sameKind sameName]

/-- A service that is applied early is that of a first start. -/
theorem WellLinked.endorses_service (linked : registry.WellLinked)
    (found : registry.get? handle = some workload) {owner : String} {service : Service}
    (owned : registry.podOwner workload = .ok owner)
    (offered : workload.service owner settings.space = some service) :
    registry.Endorses settings (.applied (.service service)) := by
  rintro id pod has resource listed ⟨sameKind, sameName⟩
  rcases Pod.supports_of_mem listed with ⟨member, inPod, supports⟩
  rcases (mem_members_iff has.2.2 has.1).mp inPod with ⟨place, inHandles, there⟩
  -- The service has the instance's name, so the instance is the member the resource is there for.
  have names : workload.clusterName = member.clusterName := by
    rw [Instance.name_of_service offered, supports.name_eq, ← sameKind] at sameName
    exact sameName
  rcases linked.distinct found there names with rfl
  rcases Option.some.inj (found.symm.trans there) with rfl
  rw [linked.podOwner_eq has inHandles found] at owned
  rcases Except.ok.inj owned with rfl
  rw [← (pod_eq_ok_iff.mp has.2.2).2.2.1] at offered
  rw [supports.unique (.service offered) sameKind]

end Registry

/-! ## Shifts, moves and calls -/

namespace Shift

variable {settings : Settings} {before after : Registry} {events : List Event} {cluster : Cluster}
  {id : InstanceId} {deployment : Deployment}

/-- A settled pod had the same support before, and was settled as well or is applied all of it now. -/
theorem source (shift : Shift settings before events after)
    (deploys : after.Deploys settings id deployment) :
    ∃ pod, before.HasPod settings id pod ∧ deployment.supporting = pod.supporting ∧
      (pod.parent.state.IsSettled ∨ ∀ resource ∈ pod.supporting, .applied resource ∈ events) := by
  have unmoved (early : before.Deploys settings id deployment) :
      ∃ pod, before.HasPod settings id pod ∧ deployment.supporting = pod.supporting ∧
        (pod.parent.state.IsSettled ∨ ∀ resource ∈ pod.supporting, .applied resource ∈ events) := by
    rcases early with ⟨pod, has, settled, rfl⟩
    exact ⟨pod, has, rfl, Or.inl settled⟩
  cases shift with
  | stays same _ => exact unmoved (same.mp deploys)
  | deploys has _ _ _ supports backed _ _ becomes =>
      rw [becomes] at deploys
      split at deploys
      · rename_i here
        subst here deploys
        exact ⟨_, has, supports, backed⟩
      · exact unmoved deploys
  | halts has settled _ supports _ _ becomes =>
      rw [becomes] at deploys
      split at deploys
      · rename_i here
        subst here deploys
        exact ⟨_, has, supports, Or.inl settled⟩
      · exact unmoved deploys

theorem supportedIn (shift : Shift settings before events after)
    (endorsed : ∀ event ∈ events, before.Endorses settings event)
    (supported : before.SupportedIn settings cluster) :
    after.SupportedIn settings (cluster.after events) := by
  intro id deployment deploys resource listed
  rcases shift.source deploys with ⟨pod, has, same, either⟩
  rw [same] at listed
  refine Cluster.after_of_coherent (fun event said => endorsed event said id pod has resource listed) ?_
  rcases either with settled | applied
  · exact Or.inl (supported id pod.deployment ⟨pod, has, settled, rfl⟩ resource listed)
  · exact Or.inr (applied resource listed)

end Shift

namespace Move

variable {setup : Setup} {touched : List InstanceId} {before after : Registry} {events : List Event}

/-- No move says anything else of what supports a pod. -/
theorem endorses (move : Move setup touched before events after) (linked : before.WellLinked) :
    ∀ event ∈ events, before.Endorses setup.settings event := by
  have single {event : Event} (endorsed : before.Endorses setup.settings event) :
      ∀ other ∈ [event], before.Endorses setup.settings other :=
    List.forall_mem_singleton.mpr endorsed
  have unit {replicaSet : ReplicaSet} :
      before.Endorses setup.settings (.applied (.replicaSet replicaSet)) :=
    Registry.endorses_of_kind fun _ _ touches => Or.inl touches.1.symm
  cases move with
  | talk quiet => exact single (Registry.endorses_of_isQuiet quiet)
  | resolve => exact single (Registry.endorses_of_isQuiet trivial)
  | create | copy | copySidecar | attach | amend | prepare | commit =>
      exact fun _ impossible => absurd impossible List.not_mem_nil
  | support found leads _ assembled listed =>
      exact single (linked.endorses_applied (Registry.hasPod_of_pod found leads assembled) listed)
  | serve found _ owned offered => exact single (linked.endorses_service found owned offered)
  | isolate | rejoin =>
      exact single (Registry.endorses_of_kind fun _ _ touches => Or.inr touches.1.symm)
  | launch found leads _ compiles =>
      rcases Registry.exists_hasPod_of_compile found leads compiles with ⟨pod, has, _, _, supporting⟩
      refine List.forall_mem_append.mpr ⟨?_, single unit⟩
      intro event said
      rcases List.mem_map.mp said with ⟨resource, listed, rfl⟩
      exact linked.endorses_applied has (supporting ▸ listed)
  | relaunch => exact single unit
  | halt => exact single (Registry.endorses_of_kind fun _ _ touches => Or.inl touches.1.symm)

end Move

theorem Moves.supportedIn {setup : Setup} {floor count : Nat} {before after : Registry}
    {events : List Event} {cluster : Cluster} (moves : Moves setup floor count before events after)
    (linked : before.WellLinked) (lockstep : before.InLockstep)
    (supported : before.SupportedIn setup.settings cluster) :
    after.SupportedIn setup.settings (cluster.after events) := by
  induction moves generalizing cluster with
  | none => exact supported
  | free move _ _ inductionHypothesis | counted move _ inductionHypothesis =>
      rw [Cluster.after_append]
      exact inductionHypothesis (move.wellLinked linked) (move.inLockstep linked lockstep)
        ((move.shift linked lockstep).supportedIn (move.endorses linked) supported)

theorem Conduct.supportedIn {setup : Setup} {before after : Registry} {call : Call}
    {events : List Event} {succeeded : Bool} {cluster : Cluster}
    (conduct : Conduct setup before call events succeeded after)
    (linked : before.WellLinked) (lockstep : before.InLockstep)
    (supported : before.SupportedIn setup.settings cluster) :
    after.SupportedIn setup.settings (cluster.after events) := by
  have unit {event : Event} (of : ∀ kind name, event.Touches kind name → kind = .replicaSet) :
      before.Endorses setup.settings event :=
    Registry.endorses_of_kind fun kind name touches => Or.inl (of kind name touches)
  have talking {talk : List Event} (quiet : ∀ event ∈ talk, event.IsQuiet) :
      ∀ event ∈ talk, before.Endorses setup.settings event :=
    fun event said => Registry.endorses_of_isQuiet (quiet event said)
  cases conduct with
  | moves moves _ _ => exact moves.supportedIn linked lockstep supported
  | strands _ _ _ _ quiet =>
      exact supported.after
        (List.forall_mem_cons.mpr ⟨unit fun _ _ touches => touches.1.symm, talking quiet⟩)
  | replaces _ found leads started compiles quiet =>
      refine (shift_of_replaced linked found leads started compiles quiet _).supportedIn ?_ supported
      refine List.forall_mem_cons.mpr ⟨unit fun _ _ touches => touches.1.symm, ?_⟩
      exact List.forall_mem_append.mpr
        ⟨talking quiet, List.forall_mem_singleton.mpr (unit fun _ _ touches => touches.1.symm)⟩

/-! ## Histories -/

/-- The cluster holds what supports the settled pods after any history. -/
theorem Reaches.supported {setup : Setup} {history : List Record} {registry : Registry}
    (reached : Reaches setup history registry) :
    registry.SupportedIn setup.settings (clusterOf history) := by
  induction reached with
  | empty =>
      rintro id _ ⟨pod, ⟨found, _⟩, _⟩
      cases found
  | call earlier course inductionHypothesis =>
      rcases earlier.invariant with ⟨linked, lockstep⟩
      rw [clusterOf_append]
      exact (Call.conduct linked course).supportedIn linked lockstep inductionHypothesis

/-- Whatever is done with a testbed, and whatever fails: when the cluster holds a compute unit of an
instance's name, or the instance is no sidecar and has been started before, the cluster holds
everything that supports the instance's pod, exactly as the registry would now compile it. -/
theorem support_of_reaches {setup : Setup} {history : List Record} {registry : Registry}
    (reached : Reaches setup history registry) (id : InstanceId) (workload : Instance)
    (found : registry.get? id = some workload)
    (deployed : clusterOf history .replicaSet workload.clusterName ≠ none ∨
      workload.parent = none ∧ workload.state.IsSettled) :
    ∃ pod, registry.pod setup.settings workload = .ok pod ∧ ∀ resource ∈ pod.supporting,
      clusterOf history resource.resourceKind resource.name = some resource := by
  rcases reached.invariant with ⟨linked, _⟩
  rcases reached.computeUnits with ⟨mirrored, _⟩
  have deploys : ∃ deployment, registry.Deploys setup.settings id deployment := by
    rcases deployed with present | ⟨leads, settled⟩
    · rcases Option.ne_none_iff_exists'.mp present with ⟨resource, held⟩
      rcases mirrored _ resource held with ⟨handle, deployment, _, deploys, _, named, _⟩
      have same : handle = id := by
        rcases deploys with ⟨pod, has, _, rfl⟩
        exact linked.distinct has.1 found named
      exact ⟨deployment, same ▸ deploys⟩
    · rcases Registry.exists_hasPod linked found leads setup.settings with ⟨pod, has, rfl⟩
      exact ⟨pod.deployment, pod, has, settled, rfl⟩
  rcases deploys with ⟨deployment, deploys⟩
  have supported := reached.supported id deployment deploys
  rcases deploys with ⟨pod, has, _, rfl⟩
  rcases Option.some.inj (has.1.symm.trans found) with rfl
  exact ⟨pod, has.2.2, supported⟩

/-- Once a pod is started, the cluster holds the service of its sidecar, which alone supports it. -/
theorem support_of_podStart :
    let ended := trial .plain .agreeable Call.podStart
    Reaches .plain ended.1 ended.2 ∧ clusterOf ended.1 .replicaSet "main" ≠ none ∧
      ∃ workload pod service, ended.2.get? ⟨0⟩ = some workload ∧
        ended.2.pod Setup.plain.settings workload = .ok pod ∧ pod.supporting = [.service service] ∧
        clusterOf ended.1 .service "side" = some (.service service) := by
  have reached := reaches_trial .plain .agreeable Call.podStart
  have present : clusterOf (trial .plain .agreeable Call.podStart).1 .replicaSet "main" ≠ none := by
    decide
  rcases support_of_reaches reached ⟨0⟩ _ rfl (Or.inl present) with ⟨pod, assembled, held⟩
  obtain ⟨service, single, named⟩ :
      ∃ service, pod.supporting = [.service service] ∧ (Resource.service service).name = "side" := by
    cases assembled
    exact ⟨_, rfl, rfl⟩
  have there := held (.service service) (single ▸ List.mem_cons_self)
  rw [named] at there
  exact ⟨reached, present, _, pod, service, rfl, assembled, single, there⟩

end Testbed
