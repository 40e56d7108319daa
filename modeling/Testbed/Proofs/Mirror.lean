import Testbed.Proofs.Conduct
import Testbed.Proofs.Shift

namespace Testbed

/-!
# The cluster as a mirror of the registry

The cluster mirrors a registry if it holds no compute unit but those of started pods, each as it would
be compiled now.  Every call keeps it so.  In the other direction a started pod can be without its unit
in one case only, after the replacement of an image that failed between deletion and application.  A
call applies a pod's unit, or leaves a started pod and its unit as they were, or is such a failure.
-/

/-! ## Agreement -/

namespace Deployment

variable {deployment : Deployment} {cluster : Cluster} {events : List Event}

/-- Whether the cluster holds a deployment's compute unit as it would be compiled now. -/
def HeldIn (deployment : Deployment) (cluster : Cluster) : Prop :=
  ∃ replicaSet, deployment.replicaSet = .ok replicaSet ∧
    cluster .replicaSet deployment.clusterName = some (.replicaSet replicaSet)

theorem HeldIn.after (held : deployment.HeldIn cluster)
    (untouched : ∀ event ∈ events, ¬ event.Touches .replicaSet deployment.clusterName) :
    deployment.HeldIn (cluster.after events) := by
  rcases held with ⟨replicaSet, compiles, there⟩
  exact ⟨replicaSet, compiles, (Cluster.after_of_not_touches untouched).trans there⟩

end Deployment

namespace Registry

variable {settings : Settings} {registry before after : Registry} {cluster : Cluster}
  {id other : InstanceId} {workload : Instance} {deployment : Deployment}

/-- Whether a cluster holds no compute unit but those of started pods, each as it would be compiled
now. -/
def MirroredIn (settings : Settings) (registry : Registry) (cluster : Cluster) : Prop :=
  ∀ name resource, cluster .replicaSet name = some resource →
    ∃ id deployment replicaSet, registry.Deploys settings id deployment ∧
      deployment.state = .started ∧ deployment.clusterName = name ∧
      deployment.replicaSet = .ok replicaSet ∧ resource = .replicaSet replicaSet

namespace Deploys

theorem stateOf_eq (deploys : registry.Deploys settings id deployment) :
    registry.stateOf id = some deployment.state := by
  rcases deploys with ⟨pod, has, _, rfl⟩
  exact Registry.stateOf_eq has.1

theorem clusterName_eq (deploys : registry.Deploys settings id deployment)
    (found : registry.get? id = some workload) : deployment.clusterName = workload.clusterName := by
  rcases deploys with ⟨pod, has, _, rfl⟩
  exact congrArg Instance.clusterName (Option.some.inj (has.1.symm.trans found))

/-- Different pods have different names. -/
theorem clusterName_ne (linked : registry.WellLinked)
    (deploys : registry.Deploys settings id deployment) (found : registry.get? other = some workload)
    (apart : id ≠ other) : deployment.clusterName ≠ workload.clusterName := by
  rcases deploys with ⟨pod, has, _, rfl⟩
  exact fun same => apart (linked.distinct has.1 found same)

end Deploys

/-- A compute unit of another name is that of another instance. -/
theorem MirroredIn.elsewhere (mirrored : registry.MirroredIn settings cluster)
    (found : registry.get? id = some workload) {name : String} {resource : Resource}
    (apart : name ≠ workload.clusterName) (held : cluster .replicaSet name = some resource) :
    ∃ handle deployment replicaSet, handle ≠ id ∧ registry.Deploys settings handle deployment ∧
      deployment.state = .started ∧ deployment.clusterName = name ∧
      deployment.replicaSet = .ok replicaSet ∧ resource = .replicaSet replicaSet := by
  rcases mirrored name resource held with
      ⟨handle, deployment, replicaSet, deploys, state, named, rest⟩
  refine ⟨handle, deployment, replicaSet, ?_, deploys, state, named, rest⟩
  rintro rfl
  exact apart (named.symm.trans (deploys.clusterName_eq found))

end Registry

/-! ## Shifts -/

namespace Shift

variable {settings : Settings} {before after : Registry} {events : List Event} {cluster : Cluster}
  {id : InstanceId} {deployment : Deployment}

theorem mirroredIn (shift : Shift settings before events after)
    (mirrored : before.MirroredIn settings cluster) :
    after.MirroredIn settings (cluster.after events) := by
  intro name resource held
  cases shift with
  | stays same silent =>
      rw [Cluster.after_of_not_touches fun event said => silent event said name] at held
      rcases mirrored name resource held with ⟨handle, deployment, replicaSet, deploys, rest⟩
      exact ⟨handle, deployment, replicaSet, same.mpr deploys, rest⟩
  | @deploys target pod plan replicaSet has named started compiles _ _ silent puts becomes =>
      by_cases here : name = pod.parent.clusterName
      · rw [here, puts] at held
        refine ⟨target, plan, replicaSet, becomes.mpr ?_, started, named.trans here.symm, compiles,
          (Option.some.inj held).symm⟩
        rw [if_pos rfl]
      · rw [Cluster.after_of_not_touches fun event said => silent event said name here] at held
        rcases mirrored.elsewhere has.1 here held with
            ⟨handle, deployment, unit, elsewhere, deploys, rest⟩
        refine ⟨handle, deployment, unit, becomes.mpr ?_, rest⟩
        rw [if_neg elsewhere]
        exact deploys
  | @halts target pod plan has _ _ _ silent clears becomes =>
      by_cases here : name = pod.parent.clusterName
      · rw [here, clears] at held
        cases held
      · rw [Cluster.after_of_not_touches fun event said => silent event said name here] at held
        rcases mirrored.elsewhere has.1 here held with
            ⟨handle, deployment, unit, elsewhere, deploys, rest⟩
        refine ⟨handle, deployment, unit, becomes.mpr ?_, rest⟩
        rw [if_neg elsewhere]
        exact deploys

/-- The compute unit of a started pod has just been applied, or the pod was started before and its
compute unit has not been touched. -/
theorem held_or_kept (shift : Shift settings before events after) (linked : before.WellLinked)
    (deploys : after.Deploys settings id deployment) (started : deployment.state = .started) :
    deployment.HeldIn (cluster.after events) ∨
      before.Deploys settings id deployment ∧
        ∀ event ∈ events, ¬ event.Touches .replicaSet deployment.clusterName := by
  cases shift with
  | stays same silent => exact Or.inr ⟨same.mp deploys, fun event said => silent event said _⟩
  | deploys has named _ compiles _ _ silent puts becomes =>
      rw [becomes] at deploys
      split at deploys
      · subst deploys
        refine Or.inl ⟨_, compiles, ?_⟩
        rw [named]
        exact puts cluster
      · rename_i elsewhere
        exact Or.inr ⟨deploys, fun event said =>
          silent event said _ (deploys.clusterName_ne linked has.1 elsewhere)⟩
  | halts has _ stopped _ silent _ becomes =>
      rw [becomes] at deploys
      split at deploys
      · rw [deploys, stopped] at started
        cases started
      · rename_i elsewhere
        exact Or.inr ⟨deploys, fun event said =>
          silent event said _ (deploys.clusterName_ne linked has.1 elsewhere)⟩

end Shift

/-! ## Moves -/

namespace Moves

variable {setup : Setup} {floor count : Nat} {before after : Registry} {events : List Event}
  {cluster : Cluster} {id : InstanceId} {deployment : Deployment}

theorem mirroredIn (moves : Moves setup floor count before events after) (linked : before.WellLinked)
    (lockstep : before.InLockstep) (mirrored : before.MirroredIn setup.settings cluster) :
    after.MirroredIn setup.settings (cluster.after events) := by
  induction moves generalizing cluster with
  | none => exact mirrored
  | free move _ _ inductionHypothesis | counted move _ inductionHypothesis =>
      rw [Cluster.after_append]
      exact inductionHypothesis (move.wellLinked linked) (move.inLockstep linked lockstep)
        ((move.shift linked lockstep).mirroredIn mirrored)

theorem held_or_kept (moves : Moves setup floor count before events after)
    (linked : before.WellLinked) (lockstep : before.InLockstep)
    (deploys : after.Deploys setup.settings id deployment) (started : deployment.state = .started) :
    deployment.HeldIn (cluster.after events) ∨
      before.Deploys setup.settings id deployment ∧
        ∀ event ∈ events, ¬ event.Touches .replicaSet deployment.clusterName := by
  induction moves generalizing cluster with
  | none => exact Or.inr ⟨deploys, fun _ impossible => absurd impossible List.not_mem_nil⟩
  | free move _ _ inductionHypothesis | counted move _ inductionHypothesis =>
      rw [Cluster.after_append]
      rcases inductionHypothesis (move.wellLinked linked) (move.inLockstep linked lockstep) deploys with
        held | ⟨between, untouched⟩
      · exact Or.inl held
      · rcases (move.shift linked lockstep).held_or_kept linked between started with
          held | ⟨early, silent⟩
        · exact Or.inl (held.after untouched)
        · exact Or.inr ⟨early, List.forall_mem_append.mpr ⟨silent, untouched⟩⟩

end Moves

/-! ## Calls -/

/-- A pod is compiled with another image from the same members. -/
theorem Registry.pod_withImage {registry : Registry} {settings : Settings} {pod : Pod}
    {reference : String} (assembled : registry.pod settings pod.parent = .ok pod) :
    registry.pod settings (pod.withImage reference).parent = .ok (pod.withImage reference) := by
  rcases pod_eq_ok_iff.mp assembled with ⟨collected, _, space, initImage⟩
  exact pod_eq_ok_iff.mpr ⟨collected, rfl, space, initImage⟩

namespace Conduct

variable {setup : Setup} {before after : Registry} {call : Call} {events : List Event}
  {succeeded : Bool} {cluster : Cluster} {id : InstanceId} {workload : Instance}
  {deployment : Deployment}

/-- What a replacement tells the cluster before the application concerns one compute unit only. -/
theorem not_touches_of_deleted {grace : Option UInt32} {talk : List Event} {name : String}
    (quiet : ∀ event ∈ talk, event.IsQuiet) (apart : name ≠ workload.clusterName) :
    ∀ event ∈ .deleted .replicaSet workload.clusterName grace :: talk,
      ¬ event.Touches .replicaSet name :=
  List.forall_mem_cons.mpr ⟨fun touches => apart touches.2.symm,
    fun event said => (quiet event said).not_touches⟩

/-- The replacement of an image deploys the pod anew. -/
theorem shift_of_replaced {settings : Settings} {reference : String} {compiled : CompiledPod}
    {talk : List Event} (linked : before.WellLinked)
    (found : before.get? id = some workload) (leads : workload.parent = none)
    (started : workload.state = .started)
    (compiles : before.compile settings { workload with image := some reference } = .ok compiled)
    (quiet : ∀ event ∈ talk, event.IsQuiet) (grace : Option UInt32) :
    Shift settings before
      (.deleted .replicaSet workload.clusterName grace ::
        (talk ++ [.applied (.replicaSet compiled.replicaSet)]))
      (before.setImage id reference) := by
  rcases Registry.exists_hasPod linked found leads settings with ⟨pod, has, rfl⟩
  have replicaSet : (pod.withImage reference).replicaSet = .ok compiled.replicaSet := by
    rcases Registry.compile_eq_ok_iff.mp compiles with ⟨planned, assembled, unit, _⟩
    rw [Except.ok.inj (assembled.symm.trans (Registry.pod_withImage has.2.2))] at unit
    exact unit
  have settled : pod.parent.state.IsSettled := State.isSettled_iff.mpr (Or.inl started)
  have running : (pod.withImage reference).deployment =
      { (pod.withImage reference).deployment with state := .started } := by
    rw [← started]
    rfl
  have named : (pod.withImage reference).parent.clusterName = pod.parent.clusterName := rfl
  refine Shift.of_applied has named replicaSet (pod.supporting_withImage reference) (Or.inl settled)
    (fun event said name apart => not_touches_of_deleted quiet apart event said) ?_
  rw [← running]
  exact Registry.deploys_setImage linked has settled

theorem mirroredIn (conduct : Conduct setup before call events succeeded after)
    (linked : before.WellLinked) (lockstep : before.InLockstep)
    (mirrored : before.MirroredIn setup.settings cluster) :
    after.MirroredIn setup.settings (cluster.after events) := by
  cases conduct with
  | moves moves _ _ => exact moves.mirroredIn linked lockstep mirrored
  | @strands workload talk grace target sets found leads started quiet =>
      intro name resource held
      by_cases here : name = workload.clusterName
      · subst here
        have gone : cluster.after (.deleted .replicaSet workload.clusterName grace :: talk) .replicaSet
            workload.clusterName = none := by
          exact (Cluster.after_of_not_touches fun event said => (quiet event said).not_touches).trans
            Cluster.set_self
        rw [gone] at held
        cases held
      · rw [Cluster.after_of_not_touches (not_touches_of_deleted quiet here)] at held
        exact mirrored name resource held
  | replaces _ found leads started compiles quiet =>
      exact (shift_of_replaced linked found leads started compiles quiet _).mirroredIn mirrored

/-- After a call a started pod's compute unit is there, or the call has done nothing to either, or it
has stranded the pod. -/
theorem held_or_kept_or_stranded (conduct : Conduct setup before call events succeeded after)
    (linked : before.WellLinked) (lockstep : before.InLockstep)
    (deploys : after.Deploys setup.settings id deployment) (started : deployment.state = .started) :
    deployment.HeldIn (cluster.after events) ∨
      (before.Deploys setup.settings id deployment ∧
        (∀ event ∈ events, ¬ event.Touches .replicaSet deployment.clusterName) ∧
        ¬ (succeeded = true ∧ (call.startOf? = some id ∨ call.imageOf? = some id))) ∨
      call.imageOf? = some id ∧ succeeded = false ∧
        ∃ grace, .deleted .replicaSet deployment.clusterName grace ∈ events := by
  cases conduct with
  | moves moves few ends =>
      rcases moves.held_or_kept linked lockstep deploys started with held | ⟨early, untouched⟩
      · exact Or.inl held
      · refine Or.inr (Or.inl ⟨early, untouched, ?_⟩)
        have state := early.stateOf_eq
        rw [started] at state
        rintro ⟨done, starts | sets⟩
        · exact ((ends done id).2 starts).1 state
        · rw [(ends done id).1 sets] at state
          cases state
  | @strands workload talk grace target sets found leads _ quiet =>
      by_cases here : id = target
      · subst here
        refine Or.inr (Or.inr ⟨sets, rfl, grace, ?_⟩)
        rw [deploys.clusterName_eq found]
        exact List.mem_cons_self
      · refine Or.inr (Or.inl ⟨deploys, ?_, fun impossible => nomatch impossible.1⟩)
        exact not_touches_of_deleted quiet (deploys.clusterName_ne linked found here)
  | @replaces workload reference compiled talk grace target sets found leads running compiles quiet =>
      have shift := shift_of_replaced linked found leads running compiles quiet grace
      rcases shift.held_or_kept linked deploys started with held | ⟨early, untouched⟩
      · exact Or.inl held
      · refine Or.inr (Or.inl ⟨early, untouched, ?_⟩)
        have elsewhere : id ≠ target := by
          rintro rfl
          exact untouched _ List.mem_cons_self ⟨rfl, (early.clusterName_eq found).symm⟩
        rintro ⟨_, starts | same⟩
        · rw [Call.startOf?_eq_none sets] at starts
          cases starts
        · exact elsewhere (Option.some.inj (same.symm.trans sets))

end Conduct
end Testbed
