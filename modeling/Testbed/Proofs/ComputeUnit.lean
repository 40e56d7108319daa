import Testbed.Proofs.Mirror
import Testbed.Proofs.Reachable

namespace Testbed

/-!
# Compute units after any history

Mirroring is an invariant, so no history leaves a compute unit that is not that of a started pod.  That
a started pod has its unit is none: a replacement that fails after the deletion leaves the pod without.
What holds is that this is the only way, and that it lasts no longer than until the next call that
starts the instance or sets its image with success.
-/

/-- What the cluster holds after a history, from an empty cluster on. -/
def clusterOf (history : List Record) : Cluster :=
  Cluster.empty.after (eventsOf history)

theorem clusterOf_append (earlier : List Record) (record : Record) :
    clusterOf (earlier ++ [record]) = (clusterOf earlier).after record.events := by
  rw [clusterOf, eventsOf_concat, Cluster.after_append]
  rfl

namespace Record

/-- Whether a call has succeeded in starting an instance or in setting its image. -/
def Renews (record : Record) (id : InstanceId) : Prop :=
  record.result.isOk = true ∧ (record.call.startOf? = some id ∨ record.call.imageOf? = some id)

/-- Whether a call that sets an instance's image has deleted the compute unit of a name, and has failed
after that. -/
def Strands (record : Record) (id : InstanceId) (name : String) : Prop :=
  record.call.imageOf? = some id ∧ record.result.isOk = false ∧
    ∃ grace, .deleted .replicaSet name grace ∈ record.events

end Record

/-- Whether a replacement has stranded an instance, and nothing since has renewed the instance or has
touched the compute unit of its name. -/
def Stranded (history : List Record) (id : InstanceId) (name : String) : Prop :=
  ∃ earlier record later, history = earlier ++ record :: later ∧ record.Strands id name ∧
    ∀ further ∈ later, ¬ further.Renews id ∧
      ∀ event ∈ further.events, ¬ event.Touches .replicaSet name

theorem Stranded.append {history : List Record} {record : Record} {id : InstanceId} {name : String}
    (stranded : Stranded history id name) (stale : ¬ record.Renews id)
    (untouched : ∀ event ∈ record.events, ¬ event.Touches .replicaSet name) :
    Stranded (history ++ [record]) id name := by
  rcases stranded with ⟨earlier, cause, later, rfl, strands, since⟩
  refine ⟨earlier, cause, later ++ [record], by rw [List.append_assoc, List.cons_append], strands, ?_⟩
  exact List.forall_mem_append.mpr ⟨since, List.forall_mem_singleton.mpr ⟨stale, untouched⟩⟩

namespace Registry

variable {settings : Settings} {registry : Registry} {cluster : Cluster} {id : InstanceId}
  {workload : Instance} {deployment : Deployment}

/-- Whether a cluster holds the compute unit of an instance as it would be compiled now. -/
def UnitIn (settings : Settings) (registry : Registry) (cluster : Cluster) (workload : Instance) :
    Prop :=
  ∃ compiled, registry.compile settings workload = .ok compiled ∧
    cluster .replicaSet workload.clusterName = some (.replicaSet compiled.replicaSet)

theorem Deploys.unitIn (deploys : registry.Deploys settings id deployment)
    (held : deployment.HeldIn cluster) (found : registry.get? id = some workload) :
    registry.UnitIn settings cluster workload := by
  rcases deploys with ⟨pod, has, _, rfl⟩
  rcases held with ⟨replicaSet, compiles, there⟩
  rcases Option.some.inj (has.1.symm.trans found) with rfl
  exact ⟨⟨pod.supporting, replicaSet⟩, compile_eq_ok_iff.mpr ⟨pod, has.2.2, compiles, rfl⟩, there⟩

/-- A started instance that is no sidecar is deployed as started. -/
theorem exists_deploys (linked : registry.WellLinked) (found : registry.get? id = some workload)
    (leads : workload.parent = none) (started : workload.state = .started) (settings : Settings) :
    ∃ deployment, registry.Deploys settings id deployment ∧ deployment.state = .started := by
  rcases exists_hasPod linked found leads settings with ⟨pod, has, rfl⟩
  exact ⟨pod.deployment, ⟨pod, has, State.isSettled_iff.mpr (Or.inl started), rfl⟩, started⟩

end Registry

/-- The last call of a history went in one of the ways of a call, from where the others led. -/
theorem Reaches.last {setup : Setup} {earlier : List Record} {record : Record} {registry : Registry}
    (reached : Reaches setup (earlier ++ [record]) registry) :
    ∃ before, Reaches setup earlier before ∧
      Conduct setup before record.call record.events record.result.isOk registry := by
  rcases reached.last_course with ⟨before, former, course⟩
  exact ⟨before, former, Call.conduct former.invariant.1 course⟩

/-- The cluster mirrors any registry that is reached, and a started pod has its compute unit or is
stranded. -/
theorem Reaches.computeUnits {setup : Setup} {history : List Record} {registry : Registry}
    (reached : Reaches setup history registry) :
    registry.MirroredIn setup.settings (clusterOf history) ∧
      ∀ id deployment, registry.Deploys setup.settings id deployment → deployment.state = .started →
        deployment.HeldIn (clusterOf history) ∨ Stranded history id deployment.clusterName := by
  induction reached with
  | empty =>
      refine ⟨fun _ _ impossible => (nomatch impossible), ?_⟩
      rintro id _ ⟨pod, ⟨found, _⟩, _⟩
      cases found
  | @call history before events after call result earlier course inductionHypothesis =>
      rcases earlier.invariant with ⟨linked, lockstep⟩
      rcases inductionHypothesis with ⟨mirrored, held⟩
      have conduct := Call.conduct linked course
      rw [clusterOf_append]
      refine ⟨conduct.mirroredIn linked lockstep mirrored, fun id deployment deploys started => ?_⟩
      rcases conduct.held_or_kept_or_stranded linked lockstep deploys started with
        now | ⟨early, untouched, stale⟩ | ⟨sets, failed, deleted⟩
      · exact Or.inl now
      · rcases held id deployment early started with there | stranded
        · exact Or.inl (there.after untouched)
        · exact Or.inr (stranded.append stale untouched)
      · exact Or.inr ⟨history, ⟨call, events, result⟩, [], rfl, ⟨sets, failed, deleted⟩,
          fun _ impossible => absurd impossible List.not_mem_nil⟩

/-- Whatever is done with a testbed, and whatever fails: every compute unit in the cluster is that of
exactly one instance, which is started and no sidecar, and is what the registry would now compile of
it; every started instance that is no sidecar has its compute unit, or has been stranded by the
replacement of its image and not been renewed since; and a call that starts it, or sets its image, with
success leaves it with its compute unit. -/
theorem computeUnits_of_reaches {setup : Setup} {history : List Record} {registry : Registry}
    (reached : Reaches setup history registry) :
    (∀ name resource, clusterOf history .replicaSet name = some resource →
      ∃ id workload, registry.get? id = some workload ∧ workload.clusterName = name ∧
        (∀ other another, registry.get? other = some another → another.clusterName = name →
          other = id) ∧
        workload.parent = none ∧ workload.state = .started ∧
        registry.UnitIn setup.settings (clusterOf history) workload) ∧
    (∀ id workload, registry.get? id = some workload → workload.parent = none →
      workload.state = .started →
      registry.UnitIn setup.settings (clusterOf history) workload ∨
        Stranded history id workload.clusterName) ∧
    ∀ earlier record id, history = earlier ++ [record] → record.Renews id →
      (record.call.startOf? = some id → registry.HasStarted id) ∧
        ∀ workload, registry.get? id = some workload → workload.parent = none →
          workload.state = .started → registry.UnitIn setup.settings (clusterOf history) workload := by
  rcases reached.invariant with ⟨linked, _⟩
  rcases reached.computeUnits with ⟨mirrored, held⟩
  refine ⟨?_, ?_, ?_⟩
  · intro name resource there
    rcases mirrored name resource there with
        ⟨id, deployment, replicaSet, deploys, started, rfl, compiles, rfl⟩
    have unit : deployment.HeldIn (clusterOf history) := ⟨replicaSet, compiles, there⟩
    have whose := deploys
    rcases whose with ⟨pod, has, _, rfl⟩
    refine ⟨id, pod.parent, has.1, rfl, ?_, has.2.1, started, deploys.unitIn unit has.1⟩
    exact fun other another found same => linked.distinct found has.1 same
  · intro id workload found leads started
    rcases Registry.exists_deploys linked found leads started setup.settings with
        ⟨deployment, deploys, state⟩
    rw [← deploys.clusterName_eq found]
    exact (held id deployment deploys state).imp_left fun unit => deploys.unitIn unit found
  · rintro earlier record id rfl ⟨done, renews⟩
    rcases reached.last with ⟨before, former, conduct⟩
    rcases former.invariant with ⟨linkedBefore, lockstepBefore⟩
    refine ⟨conduct.hasStarted done, fun workload found leads started => ?_⟩
    rcases Registry.exists_deploys linked found leads started setup.settings with
        ⟨deployment, deploys, state⟩
    rw [clusterOf_append]
    rcases conduct.held_or_kept_or_stranded linkedBefore lockstepBefore deploys state with
      unit | ⟨_, _, stale⟩ | ⟨_, failed, _⟩
    · exact deploys.unitIn unit found
    · exact absurd ⟨done, renews⟩ stale
    · rw [done] at failed
      cases failed

-- A replacement that fails after the deletion does leave a started pod without its compute unit.
example :
    let ended := trial .plain (.refusing "faulty") (Call.podStart ++ [.setImageInstant ⟨0⟩ "faulty"])
    ended.2.stateOf ⟨0⟩ = some .started ∧ clusterOf ended.1 .replicaSet "main" = none := by
  decide

/-- Once a pod is started, the cluster holds its compute unit as it would be compiled now. -/
theorem computeUnits_of_podStart :
    let ended := trial .plain .agreeable Call.podStart
    Reaches .plain ended.1 ended.2 ∧ ended.2.HasStarted ⟨0⟩ ∧
      ∃ workload, ended.2.get? ⟨0⟩ = some workload ∧ workload.clusterName = "main" ∧
        workload.sidecars = [⟨1⟩] ∧
        ended.2.UnitIn Setup.plain.settings (clusterOf ended.1) workload := by
  have reached := reaches_trial .plain .agreeable Call.podStart
  rcases computeUnits_of_reaches reached with ⟨_, _, renewed⟩
  have ended : (trial .plain .agreeable Call.podStart).1 =
      (trial .plain .agreeable (Call.podStart.take 8)).1 ++
        [⟨.startWithoutWait ⟨0⟩, _, .ok ()⟩] := rfl
  rcases renewed _ _ ⟨0⟩ ended ⟨rfl, Or.inl rfl⟩ with ⟨started, unit⟩
  exact ⟨reached, started rfl, _, rfl, by decide, by decide, unit _ rfl (by decide) (by decide)⟩

end Testbed
