import Testbed.Proofs.Lockstep

namespace Testbed

/-!
# What a pod is compiled from

Compilation reads the blueprints of a pod's members and nothing else of them, so pods whose members
have the same blueprints compile to the same resources.  A move leaves the blueprint of every settled
instance as it is, whatever it is a move of.  Hence what has been compiled of a settled pod is what
would be compiled of it at any later time, as long as no image is replaced.
-/

/-! ## Compilation -/

namespace Pod

/-- A pod with the blueprints of its members in their place. -/
def blueprint (pod : Pod) : Pod :=
  { pod with parent := pod.parent.blueprint, sidecars := pod.sidecars.map Instance.blueprint }

theorem members_blueprint (pod : Pod) : pod.blueprint.members = pod.members.map Instance.blueprint :=
  rfl

theorem account_blueprint (pod : Pod) : pod.blueprint.account = pod.account := by
  rw [account, members_blueprint, List.any_map]
  rfl

theorem access_blueprint (pod : Pod) (member : Instance) :
    pod.blueprint.access member.blueprint = pod.access member := by
  rw [access, account_blueprint]
  rfl

theorem memberResources_blueprint (pod : Pod) (member : Instance) :
    pod.blueprint.memberResources member.blueprint = pod.memberResources member := by
  rw [memberResources, access_blueprint]
  rfl

theorem supporting_blueprint (pod : Pod) : pod.blueprint.supporting = pod.supporting := by
  rw [supporting, members_blueprint, account_blueprint, List.flatMap_map]
  simp only [memberResources_blueprint]
  rfl

theorem replicaSet_blueprint (pod : Pod) : pod.blueprint.replicaSet = pod.replicaSet := by
  have containers : pod.blueprint.members.mapM Instance.container =
      pod.members.mapM Instance.container := by
    rw [members_blueprint, List.mapM_map]
    rfl
  rw [replicaSet, containers, members_blueprint, account_blueprint, List.flatMap_map, List.flatMap_map]
  rfl

end Pod
/-! ## Pods of a registry -/

namespace Registry

variable {registry before after : Registry} {id : InstanceId} {workload : Instance}
  {ids : List InstanceId} {members : List Instance} {settings : Settings} {pod : Pod}

theorem mapM_find_cons {first : InstanceId} :
    (first :: ids).mapM registry.find = .ok members ↔
      ∃ head tail, registry.get? first = some head ∧ ids.mapM registry.find = .ok tail ∧
        members = head :: tail := by
  rw [List.mapM_cons]
  constructor
  · intro collected
    cases known : registry.find first with
    | error error =>
        rw [known] at collected
        cases collected
    | ok head =>
        cases rest : ids.mapM registry.find with
        | error error =>
            rw [known, rest] at collected
            cases collected
        | ok tail =>
            rw [known, rest] at collected
            cases collected
            exact ⟨head, tail, find_eq_ok_iff.mp known, rfl, rfl⟩
  · rintro ⟨head, tail, known, rest, rfl⟩
    rw [find_eq_ok_iff.mpr known, rest]
    rfl

theorem exists_mapM_find (known : ∀ id ∈ ids, ∃ workload, registry.get? id = some workload) :
    ∃ members, ids.mapM registry.find = .ok members := by
  induction ids with
  | nil => exact ⟨[], rfl⟩
  | cons first rest inductionHypothesis =>
      rcases known first List.mem_cons_self with ⟨head, found⟩
      rcases inductionHypothesis fun id member => known id (List.mem_cons_of_mem first member) with
          ⟨tail, collected⟩
      exact ⟨head :: tail, mapM_find_cons.mpr ⟨head, tail, found, collected, rfl⟩⟩

theorem mem_of_mapM_find (collected : ids.mapM registry.find = .ok members) :
    workload ∈ members ↔ ∃ id ∈ ids, registry.get? id = some workload := by
  induction ids generalizing members with
  | nil =>
      obtain rfl : [] = members := Except.ok.inj collected
      simp only [List.not_mem_nil, false_and, exists_false]
  | cons first rest inductionHypothesis =>
      rcases mapM_find_cons.mp collected with ⟨head, tail, found, gathered, rfl⟩
      rw [List.mem_cons, inductionHypothesis gathered]
      simp only [List.mem_cons, exists_eq_or_imp, found, Option.some.injEq]
      exact or_congr_left eq_comm

/-- Members that keep their blueprints are collected with the same blueprints. -/
theorem mapM_find_of_blueprint
    (keeps : ∀ id ∈ ids, ∀ workload, before.get? id = some workload →
      ∃ moved, after.get? id = some moved ∧ moved.blueprint = workload.blueprint)
    (collected : ids.mapM before.find = .ok members) :
    ∃ moved, ids.mapM after.find = .ok moved ∧
      moved.map Instance.blueprint = members.map Instance.blueprint := by
  induction ids generalizing members with
  | nil =>
      cases collected
      exact ⟨[], rfl, rfl⟩
  | cons first rest inductionHypothesis =>
      rcases mapM_find_cons.mp collected with ⟨head, tail, found, gathered, rfl⟩
      rcases keeps first List.mem_cons_self head found with ⟨movedHead, there, sameHead⟩
      obtain ⟨movedTail, recollected, sameTail⟩ :=
        inductionHypothesis (fun id member => keeps id (List.mem_cons_of_mem first member)) gathered
      refine ⟨movedHead :: movedTail,
        mapM_find_cons.mpr ⟨movedHead, movedTail, there, recollected, rfl⟩, ?_⟩
      rw [List.map_cons, List.map_cons, sameHead, sameTail]

theorem pod_eq_ok_iff :
    registry.pod settings workload = .ok pod ↔
      workload.sidecars.mapM registry.find = .ok pod.sidecars ∧ pod.parent = workload ∧
        pod.space = settings.space ∧ pod.initImage = settings.initImage := by
  rw [Registry.pod]
  cases workload.sidecars.mapM registry.find with
  | error error => simp only [bind, Except.bind, reduceCtorEq, false_and]
  | ok sidecars =>
      simp only [bind, Except.bind, pure, Except.pure, Except.ok.injEq]
      constructor
      · rintro rfl
        exact ⟨rfl, rfl, rfl, rfl⟩
      · rcases pod with ⟨parent, others, space, initImage⟩
        rintro ⟨rfl, rfl, rfl, rfl⟩
        rfl

/-- Every instance of a well linked registry has a pod. -/
theorem exists_pod (linked : registry.WellLinked) (found : registry.get? id = some workload)
    (settings : Settings) : ∃ pod, registry.pod settings workload = .ok pod := by
  have known : ∀ sidecar ∈ workload.sidecars, ∃ member, registry.get? sidecar = some member := by
    intro sidecar listed
    rw [← sidecarsOf_eq found] at listed
    rcases linked.registered listed with ⟨member, there, _⟩
    exact ⟨member, there⟩
  rcases exists_mapM_find known with ⟨sidecars, collected⟩
  exact ⟨⟨workload, sidecars, settings.space, settings.initImage⟩,
    pod_eq_ok_iff.mpr ⟨collected, rfl, rfl, rfl⟩⟩

/-- Different handles lead to instances with different cluster names. -/
theorem WellLinked.nodup_clusterNames (linked : registry.WellLinked) (distinct : ids.Nodup)
    (collected : ids.mapM registry.find = .ok members) :
    (members.map Instance.clusterName).Nodup := by
  induction ids generalizing members with
  | nil =>
      obtain rfl : [] = members := Except.ok.inj collected
      exact List.nodup_nil
  | cons first rest inductionHypothesis =>
      rcases mapM_find_cons.mp collected with ⟨head, tail, found, gathered, rfl⟩
      rw [List.nodup_cons] at distinct
      rw [List.map_cons, List.nodup_cons]
      refine ⟨?_, inductionHypothesis distinct.2 gathered⟩
      intro shared
      rcases List.mem_map.mp shared with ⟨other, member, same⟩
      rcases (mem_of_mapM_find gathered).mp member with ⟨handle, listed, there⟩
      exact distinct.1 (linked.distinct there found same ▸ listed)

/-- The members of a pod have different names in the cluster. -/
theorem WellLinked.nodup_members (linked : registry.WellLinked) (found : registry.get? id = some workload)
    (collected : workload.sidecars.mapM registry.find = .ok members) :
    ((workload :: members).map Instance.clusterName).Nodup := by
  have apart : (id :: workload.sidecars).Nodup := by
    rw [← sidecarsOf_eq found]
    exact List.nodup_cons.mpr ⟨linked.not_mem_own, linked.nodup id⟩
  exact linked.nodup_clusterNames apart (mapM_find_cons.mpr ⟨workload, members, found, collected, rfl⟩)

/-- The members of a pod are the instances of its handles. -/
theorem mem_members_iff (assembled : registry.pod settings workload = .ok pod)
    (found : registry.get? id = some workload) {member : Instance} :
    member ∈ pod.members ↔ ∃ handle ∈ registry.podHandles id, registry.get? handle = some member := by
  rcases pod_eq_ok_iff.mp assembled with ⟨collected, rfl, _, _⟩
  rw [Pod.members, List.mem_cons, mem_of_mapM_find collected, ← sidecarsOf_eq found]
  constructor
  · rintro (rfl | ⟨sidecar, listed, there⟩)
    · exact ⟨id, mem_podHandles_iff.mpr (Or.inl rfl), found⟩
    · exact ⟨sidecar, mem_podHandles_iff.mpr (Or.inr listed), there⟩
  · rintro ⟨handle, listed, there⟩
    rcases mem_podHandles_iff.mp listed with rfl | sidecar
    · exact Or.inl (Option.some.inj (there.symm.trans found))
    · exact Or.inr ⟨handle, sidecar, there⟩

/-- A pod of members that keep their blueprints keeps its own. -/
theorem pod_of_blueprint {moved : Instance}
    (sidecars : moved.sidecars = workload.sidecars)
    (keeps : ∀ sidecar ∈ workload.sidecars, ∀ member, before.get? sidecar = some member →
      ∃ later, after.get? sidecar = some later ∧ later.blueprint = member.blueprint)
    (assembled : before.pod settings workload = .ok pod) :
    ∃ later, after.pod settings moved = .ok later ∧
      later.blueprint = { pod.blueprint with parent := moved.blueprint } := by
  rcases pod_eq_ok_iff.mp assembled with ⟨collected, rfl, space, initImage⟩
  rcases mapM_find_of_blueprint keeps collected with ⟨others, recollected, same⟩
  rw [← sidecars] at recollected
  refine ⟨⟨moved, others, settings.space, settings.initImage⟩,
    pod_eq_ok_iff.mpr ⟨recollected, rfl, rfl, rfl⟩, ?_⟩
  rw [Pod.blueprint, Pod.blueprint, same, space, initImage]

end Registry

/-! ## Moves -/

namespace Move

open Registry

variable {setup : Setup} {touched : List InstanceId} {before after : Registry} {events : List Event}
  {id : InstanceId} {workload : Instance}

/-- A move leaves the blueprint of a settled instance as it is. -/
theorem blueprint_eq (move : Move setup touched before events after)
    (found : before.get? id = some workload) (settled : workload.state.IsSettled) :
    ∃ moved, after.get? id = some moved ∧ moved.blueprint = workload.blueprint := by
  have unsettled {other : InstanceId} {state : State} (known : before.stateOf other = some state)
      (early : ¬ state.IsSettled) : id ≠ other := by
    rintro rfl
    rw [Registry.stateOf_eq found, Option.some.injEq] at known
    exact early (known ▸ settled)
  cases move with
  | talk | support | serve | isolate | rejoin => exact ⟨workload, found, rfl⟩
  | create joined | copy _ _ joined => exact ⟨workload, found_add joined found, rfl⟩
  | copySidecar _ _ led _ frozen joined =>
      refine ⟨_, reworked_attach.found (found_add joined found), ?_⟩
      have early : ¬ (State.committed).IsSettled := fun impossible => impossible
      have elsewhere := unsettled (Registry.stateOf_eq led) (frozen ▸ early)
      rw [if_neg elsewhere, if_neg (ne_nextId found)]
  | attach leading describable _ joining fit =>
      rcases Action.attachmentFault?_eq_none_iff.mp fit with ⟨committed, _⟩
      have early : ¬ (State.committed).IsSettled := fun impossible => impossible
      have notParent := unsettled (Registry.stateOf_eq leading)
        (State.not_isSettled_of_mem (List.mem_cons_of_mem _ describable))
      have notSidecar := unsettled (Registry.stateOf_eq joining) (committed ▸ early)
      refine ⟨_, reworked_attach.found found, ?_⟩
      rw [if_neg notParent, if_neg notSidecar]
  | amend amends =>
      refine ⟨_, reworked_update.found found, ?_⟩
      split
      · rename_i here
        exact (amends workload (here ▸ found)).blueprint_eq settled
      · rfl
  | resolve =>
      refine ⟨_, reworked_update.found found, ?_⟩
      split
      · rfl
      · rfl
  | prepare context created =>
      refine ⟨_, reworked_update.found found, ?_⟩
      rw [if_neg (unsettled created (fun impossible => impossible))]
  | commit reference preparing =>
      refine ⟨_, reworked_update.found found, ?_⟩
      rw [if_neg (unsettled preparing (fun impossible => impossible))]
  | launch | relaunch =>
      refine ⟨_, reworked_setPodState.found found, ?_⟩
      split
      · rfl
      · rfl
  | halt =>
      refine ⟨_, (reworked_setPodState.trans reworked_update).found found, ?_⟩
      split
      · split
        · rfl
        · rfl
      · split
        · rfl
        · rfl

end Move
end Testbed
