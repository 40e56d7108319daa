import Testbed.Proofs.Deployment
import Testbed.Proofs.Supporting

namespace Testbed

/-!
# Shifts of deployments

Most moves leave all deployments as they are, and say nothing of compute units to the cluster.  Two
moves deploy a pod and one halts it; each of these tells the cluster so, and tells it nothing of the
compute units of others.  What supports the pod is applied along with its first compute unit.  An
argument about deployments has therefore three cases where one about moves has fifteen.
-/

/-- What is done to the deployments of a registry and to the compute units of the cluster. -/
inductive Shift (settings : Settings) (before : Registry) (events : List Event) (after : Registry) :
    Prop where
  | stays (same : ∀ {id deployment},
      after.Deploys settings id deployment ↔ before.Deploys settings id deployment)
      (silent : ∀ event ∈ events, ∀ name, ¬ event.Touches .replicaSet name)
  /-- A pod is started, or is started anew. -/
  | deploys {id : InstanceId} {pod : Pod} {target : Deployment} {replicaSet : ReplicaSet}
      (has : before.HasPod settings id pod) (named : target.clusterName = pod.parent.clusterName)
      (started : target.state = .started) (compiles : target.replicaSet = .ok replicaSet)
      (supports : target.supporting = pod.supporting)
      (backed : pod.parent.state.IsSettled ∨ ∀ resource ∈ pod.supporting, .applied resource ∈ events)
      (silent : ∀ event ∈ events, ∀ name ≠ pod.parent.clusterName, ¬ event.Touches .replicaSet name)
      (puts : ∀ cluster : Cluster,
        cluster.after events .replicaSet pod.parent.clusterName = some (.replicaSet replicaSet))
      (becomes : ∀ {handle deployment}, after.Deploys settings handle deployment ↔
        if handle = id then deployment = target else before.Deploys settings handle deployment)
  | halts {id : InstanceId} {pod : Pod} {target : Deployment} (has : before.HasPod settings id pod)
      (settled : pod.parent.state.IsSettled) (stopped : target.state = .stopped)
      (supports : target.supporting = pod.supporting)
      (silent : ∀ event ∈ events, ∀ name ≠ pod.parent.clusterName, ¬ event.Touches .replicaSet name)
      (clears : ∀ cluster : Cluster,
        cluster.after events .replicaSet pod.parent.clusterName = none)
      (becomes : ∀ {handle deployment}, after.Deploys settings handle deployment ↔
        if handle = id then deployment = target else before.Deploys settings handle deployment)

/-! ## Compute units -/

/-- Whatever is said before, a pod's compute unit is held under its name once it is applied. -/
theorem Cluster.after_applied_replicaSet {pod : Pod} {replicaSet : ReplicaSet} {talk : List Event}
    (cluster : Cluster) (compiles : pod.replicaSet = .ok replicaSet) :
    cluster.after (talk ++ [.applied (.replicaSet replicaSet)]) .replicaSet pod.parent.clusterName =
      some (.replicaSet replicaSet) := by
  rw [Cluster.after_append, ← Pod.name_of_replicaSet compiles]
  exact Cluster.set_self

/-- What ends with the application of a pod's compute unit, and touches no other before, deploys the
pod. -/
theorem Shift.of_applied {settings : Settings} {before after : Registry} {id : InstanceId}
    {pod planned : Pod} {replicaSet : ReplicaSet} {talk : List Event}
    (has : before.HasPod settings id pod)
    (named : planned.parent.clusterName = pod.parent.clusterName)
    (compiles : planned.replicaSet = .ok replicaSet)
    (supports : planned.supporting = pod.supporting)
    (backed : pod.parent.state.IsSettled ∨ ∀ resource ∈ pod.supporting, .applied resource ∈ talk)
    (silent : ∀ event ∈ talk, ∀ name ≠ pod.parent.clusterName, ¬ event.Touches .replicaSet name)
    (becomes : ∀ {handle deployment}, after.Deploys settings handle deployment ↔
      if handle = id then deployment = { planned.deployment with state := .started }
      else before.Deploys settings handle deployment) :
    Shift settings before (talk ++ [.applied (.replicaSet replicaSet)]) after := by
  have told := backed.imp_right fun early resource listed =>
    List.mem_append_left [.applied (.replicaSet replicaSet)] (early resource listed)
  refine .deploys has named rfl compiles supports told ?_ ?_ becomes
  · intro event said name apart
    rcases List.mem_append.mp said with earlier | last
    · exact silent event earlier name apart
    · rw [List.mem_singleton.mp last]
      rintro ⟨_, same⟩
      exact apart (same.symm.trans ((Pod.name_of_replicaSet compiles).trans named))
  · intro cluster
    rw [← named]
    exact cluster.after_applied_replicaSet compiles

namespace Move

open Registry

variable {setup : Setup} {touched : List InstanceId} {before after : Registry} {events : List Event}
  {id : InstanceId} {workload : Instance} {pod : Pod} {deployment : Deployment}

/-- A move is calm if those whose states it changes are not settled, neither before nor after it. -/
theorem calm (move : Move setup touched before events after)
    (early : ∀ id ∈ touched, ∃ state next, before.stateOf id = some state ∧ ¬ state.IsSettled ∧
      after.stateOf id = some next ∧ ¬ next.IsSettled) : before.Calm after := by
  have settles {id : InstanceId} {workload moved : Instance} (found : before.get? id = some workload)
      (there : after.get? id = some moved)
      (either : workload.state.IsSettled ∨ moved.state.IsSettled) : moved.state = workload.state := by
    by_cases member : id ∈ touched
    · rcases early id member with ⟨state, next, known, unsettled, reached, still⟩
      rcases Option.some.inj ((Registry.stateOf_eq found).symm.trans known) with rfl
      rcases Option.some.inj ((Registry.stateOf_eq there).symm.trans reached) with rfl
      rcases either with settled | settled
      · exact absurd settled unsettled
      · exact absurd settled still
    · rcases move.kept found with ⟨kept, known, _, _, same⟩
      rcases Option.some.inj (there.symm.trans known) with rfl
      exact (same member).1
  constructor
  · intro id workload found settled
    rcases move.blueprint_eq found settled with ⟨moved, there, blueprint⟩
    exact ⟨moved, there, blueprint, settles found there (Or.inl settled)⟩
  · intro id moved there settled
    rcases move.source_or_unsettled there with ⟨workload, found⟩ | unsettled
    · exact ⟨workload, found, settles found there (Or.inr settled) ▸ settled⟩
    · exact absurd settled unsettled

/-- A pod that moves as a whole gets the state it moves to and keeps the rest of its deployment. -/
theorem deploys_setPodState (linked : before.WellLinked) {next : State} (settled : next.IsSettled)
    (has : before.HasPod setup.settings id pod) {handle : InstanceId} :
    (before.setPodState id next).Deploys setup.settings handle deployment ↔
      if handle = id then deployment = { pod.deployment with state := next }
      else before.Deploys setup.settings handle deployment := by
  refine deploys_of_move linked settled ?_ ?_ has
  · intro handle member found
    refine ⟨_, reworked_setPodState.found found, ?_⟩
    split
    · exact ⟨rfl, rfl⟩
    · exact ⟨rfl, rfl⟩
  · intro handle later there
    rcases reworked_setPodState.source there with ⟨member, found, _⟩
    exact ⟨member, found⟩

/-- Every move shifts the deployments of a registry in one of three ways. -/
theorem shift (move : Move setup touched before events after) (linked : before.WellLinked)
    (lockstep : before.InLockstep) : Shift setup.settings before events after := by
  have single {event : Event} (silent : ∀ name, ¬ event.Touches .replicaSet name) :
      ∀ other ∈ [event], ∀ name, ¬ other.Touches .replicaSet name :=
    fun other member => List.mem_singleton.mp member ▸ silent
  have settle
      (early : ∀ id ∈ touched, ∃ state next, before.stateOf id = some state ∧ ¬ state.IsSettled ∧
        after.stateOf id = some next ∧ ¬ next.IsSettled)
      (silent : ∀ event ∈ events, ∀ name, ¬ event.Touches .replicaSet name) :
      Shift setup.settings before events after :=
    .stays ((move.calm early).deploys_iff linked lockstep) silent
  have none : ∀ event ∈ ([] : List Event), ∀ name, ¬ event.Touches .replicaSet name :=
    fun _ impossible => absurd impossible List.not_mem_nil
  have alone {target : InstanceId} {change : Instance → Instance} {state next : State}
      (known : before.stateOf target = some state) (sets : ∀ workload, (change workload).state = next) :
      (before.update target change).stateOf target = some next := by
    rw [stateOf_update_of_const sets, if_pos rfl, known]
    rfl
  have starts : State.started.IsSettled := trivial
  have stops : State.stopped.IsSettled := trivial
  cases move with
  | talk quiet => exact settle nofun (single fun _ => quiet.not_touches)
  | resolve => exact settle nofun (single fun _ => Event.IsQuiet.not_touches trivial)
  | create | copy | copySidecar | amend => exact settle nofun none
  | attach leading describable apart joining fit =>
      rcases Action.attachmentFault?_eq_none_iff.mp fit with ⟨committed, _⟩
      refine settle (List.forall_mem_singleton.mpr ?_) none
      refine ⟨.committed, .committed, ?_, nofun, ?_, nofun⟩
      · rw [Registry.stateOf_eq joining, committed]
      · rw [stateOf_attach, Registry.stateOf_eq joining, committed]
  | prepare context created =>
      refine settle (List.forall_mem_singleton.mpr ?_) none
      exact ⟨.created, .preparing, created, nofun, alone created fun _ => rfl, nofun⟩
  | commit reference preparing =>
      refine settle (List.forall_mem_singleton.mpr ?_) none
      exact ⟨.preparing, .committed, preparing, nofun, alone preparing fun _ => rfl, nofun⟩
  | support _ _ _ _ listed =>
      rcases Pod.supports_of_mem listed with ⟨member, _, supports⟩
      exact settle nofun (single fun _ touches => supports.resourceKind_ne.1 touches.1)
  | serve | isolate | rejoin => exact settle nofun (single fun _ touches => nomatch touches.1)
  | launch found leads committed compiles =>
      rcases exists_hasPod_of_compile found leads compiles with ⟨pod, has, rfl, replicaSet, supporting⟩
      refine .of_applied has rfl replicaSet rfl (Or.inr ?_) ?_ (deploys_setPodState linked starts has)
      · exact fun resource listed => List.mem_map_of_mem (supporting ▸ listed)
      · intro event said name _
        rcases List.mem_map.mp said with ⟨resource, listed, rfl⟩
        rcases Pod.supports_of_mem (supporting ▸ listed) with ⟨member, _, supports⟩
        exact fun touches => supports.resourceKind_ne.1 touches.1
  | relaunch found leads stopped compiles =>
      rcases exists_hasPod_of_compile found leads compiles with ⟨pod, has, rfl, replicaSet, _⟩
      have silent : ∀ event ∈ ([] : List Event), ∀ name ≠ pod.parent.clusterName,
          ¬ event.Touches .replicaSet name := fun event said name _ => none event said name
      have settled : pod.parent.state.IsSettled := State.isSettled_iff.mpr (Or.inr stopped)
      exact .of_applied has rfl replicaSet rfl (Or.inl settled) silent
        (deploys_setPodState linked starts has)
  | halt found leads started =>
      rcases exists_hasPod linked found leads setup.settings with ⟨pod, has, rfl⟩
      have settled : pod.parent.state.IsSettled := State.isSettled_iff.mpr (Or.inl started)
      refine .halts has settled rfl rfl ?_ ?_ (deploys_of_move linked stops ?_ ?_ has)
      · intro event said name apart touches
        rw [List.mem_singleton.mp said] at touches
        exact apart touches.2.symm
      · exact fun cluster => Cluster.set_self
      · intro handle member known
        refine ⟨_, (reworked_setPodState.trans reworked_update).found known, ?_⟩
        split
        · split
          · exact ⟨rfl, rfl⟩
          · exact ⟨rfl, rfl⟩
        · split
          · exact ⟨rfl, rfl⟩
          · exact ⟨rfl, rfl⟩
      · intro handle later there
        rcases (reworked_setPodState.trans reworked_update).source there with ⟨member, known, _⟩
        exact ⟨member, known⟩

end Move
end Testbed
