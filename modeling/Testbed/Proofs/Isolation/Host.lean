import Testbed.Proofs.Blueprint
import Testbed.Proofs.Reachable

namespace Testbed

/-!
# Who runs in whose pod

An instance runs in the pod of its parent, or in its own if it has none.  Once it has been deployed this
does not change any more: a sidecar is attached to an instance that is still described, nothing detaches
it, and nobody gets another name in the cluster.
-/

namespace Registry

variable {registry : Registry} {id other : InstanceId} {workload : Instance} {owner : String}

/-- The handle of the instance in whose pod an instance runs. -/
def leaderOf (registry : Registry) (id : InstanceId) : InstanceId :=
  (registry.parentOf id).getD id

/-- The cluster name of the instance in whose pod an instance runs. -/
def hostOf (registry : Registry) (id : InstanceId) : Option String :=
  (registry.get? (registry.leaderOf id)).map Instance.clusterName

/-- The handles of the pod in which an instance runs: its parent or itself, and all sidecars. -/
def podOf (registry : Registry) (id : InstanceId) : List InstanceId :=
  registry.podHandles (registry.leaderOf id)

theorem hostOf_of_leader {leader : Instance} (there : registry.get? (registry.leaderOf id) = some leader) :
    registry.hostOf id = some leader.clusterName := by
  rw [hostOf, there]
  rfl

theorem hostOf_eq_some_iff (found : registry.get? id = some workload) :
    registry.hostOf id = some owner ↔ registry.podOwner workload = .ok owner := by
  rw [hostOf, leaderOf, parentOf_eq found, podOwner]
  cases workload.parent with
  | none => simp only [Option.getD_none, found, Option.map_some, Option.some.injEq, Except.ok.injEq]
  | some parent =>
      change (registry.get? parent).map Instance.clusterName = some owner ↔
        (registry.find parent).map Instance.clusterName = .ok owner
      rw [find]
      cases registry.get? parent with
      | none => simp only [Option.map_none, Except.map, reduceCtorEq]
      | some leader => simp only [Option.map_some, Except.map, Option.some.injEq, Except.ok.injEq]

namespace WellLinked

/-- The instance in whose pod an instance runs is registered and is no sidecar. -/
theorem exists_leader (linked : registry.WellLinked) (found : registry.get? id = some workload) :
    ∃ leader, registry.get? (registry.leaderOf id) = some leader ∧ leader.parent = none := by
  rw [leaderOf]
  cases attached : registry.parentOf id with
  | none => exact ⟨workload, found, (parentOf_eq found).symm.trans attached⟩
  | some parent =>
      have listed := linked.linked.mp attached
      rcases mem_sidecarsOf_iff.mp listed with ⟨leader, there, _⟩
      refine ⟨leader, there, ?_⟩
      cases above : leader.parent with
      | none => rfl
      | some further =>
          rw [linked.shallow ((parentOf_eq there).trans above)] at listed
          cases listed

/-- The members of a pod are those who run in it. -/
theorem leaderOf_eq_iff (linked : registry.WellLinked) {leader : InstanceId}
    (leads : registry.parentOf leader = none) :
    registry.leaderOf id = leader ↔ id ∈ registry.podHandles leader := by
  rw [mem_podHandles_iff, ← linked.linked, leaderOf]
  cases attached : registry.parentOf id with
  | none =>
      rw [Option.getD_none]
      exact (or_iff_left nofun).symm
  | some parent =>
      rw [Option.getD_some, Option.some.injEq]
      refine (or_iff_right ?_).symm
      rintro rfl
      rw [attached] at leads
      cases leads

/-- Cluster names tell pods apart. -/
theorem hostOf_eq_iff (linked : registry.WellLinked) {leader : InstanceId}
    (found : registry.get? leader = some workload) (leads : workload.parent = none) :
    registry.hostOf id = some workload.clusterName ↔ id ∈ registry.podHandles leader := by
  rw [← linked.leaderOf_eq_iff ((parentOf_eq found).trans leads), hostOf]
  constructor
  · intro named
    rcases Option.map_eq_some_iff.mp named with ⟨host, there, same⟩
    exact linked.distinct there found same
  · rintro rfl
    rw [found]
    rfl

end WellLinked
end Registry

/-! ## Instances that have been deployed -/

theorem State.Leads.isSettled {state next : State} (leads : state.Leads next)
    (settled : state.IsSettled) : next.IsSettled := by
  cases leads with
  | prepare | commit => exact settled
  | launch | halt | relaunch => trivial

/-- A pod is deployed as a whole. -/
theorem State.Accords.isSettled {parent sidecar : State} (accord : parent.Accords sidecar)
    (settled : sidecar.IsSettled) : parent.IsSettled := by
  cases parent with
  | created => exact accord
  | preparing | committed =>
      obtain rfl : sidecar = .committed := accord
      exact settled
  | started | stopped => trivial

/-- The pod of whoever has been deployed is led by somebody who has been deployed. -/
theorem Registry.exists_settled_leader {registry : Registry} {id : InstanceId} {workload : Instance}
    (linked : registry.WellLinked) (lockstep : registry.InLockstep)
    (found : registry.get? id = some workload) (settled : workload.state.IsSettled) :
    ∃ leader, registry.get? (registry.leaderOf id) = some leader ∧ leader.parent = none ∧
      leader.state.IsSettled := by
  rcases linked.exists_leader found with ⟨leader, there, leads⟩
  refine ⟨leader, there, leads, ?_⟩
  have member : id ∈ registry.podHandles (registry.leaderOf id) :=
    (linked.leaderOf_eq_iff ((parentOf_eq there).trans leads)).mp rfl
  rcases mem_podHandles_iff.mp member with alone | listed
  · rw [← alone, found] at there
    exact Option.some.inj there ▸ settled
  · rcases lockstep _ _ listed with ⟨driving, driven, drives, follows, accord⟩
    obtain rfl := Option.some.inj ((stateOf_eq there).symm.trans drives)
    obtain rfl := Option.some.inj ((stateOf_eq found).symm.trans follows)
    exact accord.isSettled settled

variable {setup : Setup} {before after : Registry} {events : List Event} {id : InstanceId}
  {workload : Instance}

theorem Move.stays_settled {touched : List InstanceId} (move : Move setup touched before events after)
    (lockstep : before.InLockstep) (found : before.get? id = some workload)
    (settled : workload.state.IsSettled) :
    ∃ left, after.get? id = some left ∧ left.links = workload.links ∧ left.state.IsSettled := by
  rcases move.blueprint_eq found settled with ⟨left, there, same⟩
  rcases move.leads lockstep (Registry.stateOf_eq found) with ⟨next, known, edge⟩
  obtain rfl := Option.some.inj ((Registry.stateOf_eq there).symm.trans known)
  refine ⟨left, there, Instance.links_of_blueprint_eq same, ?_⟩
  rcases edge with stays | leads
  · exact stays ▸ settled
  · exact leads.isSettled settled

theorem Moves.stays_settled {floor count : Nat} (moves : Moves setup floor count before events after)
    (linked : before.WellLinked) (lockstep : before.InLockstep)
    (found : before.get? id = some workload) (settled : workload.state.IsSettled) :
    ∃ left, after.get? id = some left ∧ left.links = workload.links ∧ left.state.IsSettled := by
  induction moves generalizing workload with
  | none => exact ⟨workload, found, rfl, settled⟩
  | free move _ _ inductionHypothesis | counted move _ inductionHypothesis =>
      rcases move.stays_settled lockstep found settled with ⟨middle, known, sameLinks, still⟩
      rcases inductionHypothesis (move.wellLinked linked) (move.inLockstep linked lockstep) known still with
        ⟨left, there, links, settledThen⟩
      exact ⟨left, there, links.trans sameLinks, settledThen⟩

namespace Conduct

variable {call : Call} {succeeded : Bool}

/-- No call takes a registered instance away or gives it another name in the cluster. -/
theorem stays (conduct : Conduct setup before call events succeeded after)
    (found : before.get? id = some workload) :
    ∃ left, after.get? id = some left ∧ left.clusterName = workload.clusterName := by
  cases conduct with
  | moves moves _ _ => exact moves.exists_of_get? found
  | strands => exact ⟨workload, found, rfl⟩
  | replaces =>
      refine ⟨_, Registry.reworked_update.found found, ?_⟩
      split
      · rfl
      · rfl

/-- What has been deployed stays deployed, and keeps its parent and its sidecars. -/
theorem stays_settled (conduct : Conduct setup before call events succeeded after)
    (linked : before.WellLinked) (lockstep : before.InLockstep)
    (found : before.get? id = some workload) (settled : workload.state.IsSettled) :
    ∃ left, after.get? id = some left ∧ left.links = workload.links ∧ left.state.IsSettled := by
  cases conduct with
  | moves moves _ _ => exact moves.stays_settled linked lockstep found settled
  | strands => exact ⟨workload, found, rfl, settled⟩
  | replaces =>
      refine ⟨_, Registry.reworked_update.found found, ?_⟩
      split
      · exact ⟨rfl, settled⟩
      · exact ⟨rfl, settled⟩

/-- What has been deployed runs in the pod that it ran in. -/
theorem hostOf_eq (conduct : Conduct setup before call events succeeded after)
    (linked : before.WellLinked) (lockstep : before.InLockstep)
    (found : before.get? id = some workload) (settled : workload.state.IsSettled) :
    after.hostOf id = before.hostOf id := by
  rcases conduct.stays_settled linked lockstep found settled with ⟨left, there, links, _⟩
  have parent : left.parent = workload.parent := congrArg Links.parent links
  have same : after.leaderOf id = before.leaderOf id := by
    rw [Registry.leaderOf, Registry.leaderOf, Registry.parentOf_eq there, Registry.parentOf_eq found,
      parent]
  rcases linked.exists_leader found with ⟨leader, known, _⟩
  rcases conduct.stays known with ⟨leaderThen, thereThen, named⟩
  rw [Registry.hostOf_of_leader known, Registry.hostOf_of_leader (same ▸ thereThen), named]

end Conduct
end Testbed
