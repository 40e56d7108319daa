import Testbed.Proofs.ShapingRecord
import Testbed.Proofs.Trial

namespace Testbed

/-!
# What is noted is what runs

The pod of an instance may have several sidecars, attached and injected, and any of them could shape its
traffic.  But only the one that is noted has ever been talked to.  So what runs in the pod is what runs
in that one, and the note of shaping is right about the pod.  After a change of shaping that succeeds,
it is exact.
-/

namespace Registry

variable {registry : Registry} {past events : List Event} {id handle : InstanceId}
  {workload sidecar : Instance}

/-- What runs in the pod of an instance after some events: what runs in any of its sidecars. -/
def runningIn (registry : Registry) (workload : Instance) (events : List Event) : Running :=
  fun kind => ∃ handle sidecar, handle ∈ workload.sidecars ∧ registry.get? handle = some sidecar ∧
    Running.none.after workload.clusterName sidecar.clusterName events kind

/-- Whether the sidecars of an instance say that there is nothing to stop only where nothing runs. -/
def IsTruthfulIn (registry : Registry) (workload : Instance) (events : List Event) : Prop :=
  ∀ handle sidecar, handle ∈ workload.sidecars → registry.get? handle = some sidecar →
    Running.Truthful workload.clusterName sidecar.clusterName .none events

/-- Nobody has talked to a sidecar that is not noted. -/
theorem Records.silent (records : registry.Records past) (linked : registry.WellLinked)
    (found : registry.get? id = some workload) (listed : handle ∈ workload.sidecars)
    (located : registry.get? handle = some sidecar)
    (unnoted : workload.fault.sidecar ≠ some sidecar.clusterName) :
    ∀ event ∈ past, event.shaper? ≠ some sidecar.clusterName := by
  intro event member talked
  rcases records.known member talked with ⟨other, host, known, hosts⟩
  rcases records.hosted known hosts with ⟨place, attendant, lists, here, named⟩
  rcases linked.distinct here located named with rfl
  rcases linked.parent_unique (sidecarsOf_eq known ▸ lists) (sidecarsOf_eq found ▸ listed) with rfl
  rcases Option.some.inj (found.symm.trans known) with rfl
  exact unnoted hosts

/-- Whatever runs in a pod runs in the sidecar that is noted. -/
theorem Records.target_of_runningIn {kind : ShapingKind} (records : registry.Records past)
    (linked : registry.WellLinked) (found : registry.get? id = some workload) (leads : events <+: past)
    (runs : registry.runningIn workload events kind) :
    ∃ target, workload.fault.sidecar = some target ∧
      Running.none.after workload.clusterName target events kind := by
  rcases runs with ⟨handle, sidecar, listed, located, runs⟩
  by_cases noted : workload.fault.sidecar = some sidecar.clusterName
  · exact ⟨sidecar.clusterName, noted, runs⟩
  · have silent := records.silent linked found listed located noted
    rw [Running.after_none fun event member => silent event (leads.subset member)] at runs
    exact runs.elim

theorem Records.runningIn_eq {target : String} (records : registry.Records past)
    (linked : registry.WellLinked) (found : registry.get? id = some workload) (leads : events <+: past)
    (hosted : workload.fault.sidecar = some target) :
    registry.runningIn workload events = Running.none.after workload.clusterName target events := by
  funext kind
  refine propext ⟨fun runs => ?_, fun runs => ?_⟩
  · rcases records.target_of_runningIn linked found leads runs with ⟨noted, same, runs⟩
    rcases Option.some.inj (hosted.symm.trans same) with rfl
    exact runs
  · rcases records.hosted found hosted with ⟨handle, sidecar, listed, located, rfl⟩
    exact ⟨handle, sidecar, listed, located, runs⟩

theorem Records.truthful {target : String} (records : registry.Records past)
    (found : registry.get? id = some workload) (hosted : workload.fault.sidecar = some target)
    (truthful : registry.IsTruthfulIn workload events) :
    Running.Truthful workload.clusterName target .none events := by
  rcases records.hosted found hosted with ⟨handle, sidecar, listed, located, rfl⟩
  exact truthful handle sidecar listed located

end Registry

/-- A change of shaping that succeeds is made as `Shapes` has it. -/
theorem Turn.shapes_of_succeeded {setup : Setup} {before after : Registry} {call : Call}
    {events : List Event} {id : InstanceId} {shaping : Option Shaping}
    (turn : Turn setup before call events true after) (asks : call.shapingOf? = some (id, shaping)) :
    ∃ workload target mode, before.get? id = some workload ∧ workload.fault.sidecar = some target ∧
      Shapes target workload.fault.port workload.fault.activeMode shaping events true mode ∧
      after = before.setMode id mode := by
  cases turn with
  | steps _ idle =>
      rw [idle rfl] at asks
      cases asks
  | shapes asked found hosted shapes =>
      cases asked.symm.trans asks
      exact ⟨_, _, _, found, hosted, shapes, rfl⟩
  | halts stops =>
      subst stops
      cases asks
  | replaces sets =>
      cases call with
      | setImage | setImageInstant => cases asks
      | _ => cases sets

/-- Whatever is done with a testbed, and whatever fails: as long as its sidecars are truthful, all that
runs in the pod of an instance is the shaping that is noted of it, and never did two kinds run at once.
After a change of shaping that has succeeded, what was asked for is noted, and exactly that runs. -/
theorem shaping_of_reaches {setup : Setup} {history : List Record} {registry : Registry}
    {id : InstanceId} {workload : Instance} (reached : Reaches setup history registry)
    (found : registry.get? id = some workload)
    (truthful : registry.IsTruthfulIn workload (eventsOf history)) :
    (∀ kind, registry.runningIn workload (eventsOf history) kind →
      workload.fault.activeMode = some kind) ∧
    (∀ past, past <+: eventsOf history → (registry.runningIn workload past).IsSingle) ∧
    ∀ earlier record shaping, history = earlier ++ [record] →
      record.call.shapingOf? = some (id, shaping) → record.result.isOk = true →
      workload.fault.activeMode = shaping.map Shaping.kind ∧
        ∀ kind, registry.runningIn workload (eventsOf history) kind ↔
          workload.fault.activeMode = some kind := by
  have records := reached.records
  have linked := reached.invariant.1
  have covered {target : String} (hosted : workload.fault.sidecar = some target) :=
    records.recorded found target hosted (records.truthful found hosted truthful)
  refine ⟨?_, ?_, ?_⟩
  · intro kind runs
    rcases records.target_of_runningIn linked found (List.prefix_refl _) runs with
      ⟨target, hosted, runs⟩
    exact (covered hosted).1 kind runs
  · intro past leads kind other runs also
    rcases records.target_of_runningIn linked found leads runs with ⟨target, hosted, _⟩
    rw [records.runningIn_eq linked found leads hosted] at runs also
    exact (covered hosted).2 past leads kind other runs also
  · rintro earlier record shaping rfl asks succeeded
    rcases reached.last_course with ⟨before, former, course⟩
    have turn := Call.turn former.invariant.1 course
    rw [succeeded] at turn
    rcases turn.shapes_of_succeeded asks with ⟨left, target, mode, known, hosted, shapes, rfl⟩
    have there : (before.setMode id mode).get? id = _ := Registry.reworked_update.found known
    rw [if_pos rfl] at there
    rcases Option.some.inj (found.symm.trans there) with rfl
    have heard := records.truthful found hosted truthful
    rw [records.runningIn_eq linked found (List.prefix_refl _) hosted]
    rw [eventsOf_concat] at heard ⊢
    rw [Running.after_append]
    have before := (former.records.recorded known target hosted heard.append.1).1
    exact (Running.after_shapes shapes heard.append.2 before).2.2 rfl

/-- When the bandwidth of a pod is limited and then its traffic is delayed instead, nothing but the
latency is in force. -/
theorem shaping_of_shapedPod :
    let ended := trial .shaping .agreeable
      (Call.shapedPod ++
        [.startWithoutWait ⟨0⟩, .setBandwidthLimit ⟨0⟩ 1000000, .setLatencyAndJitter ⟨0⟩ 50 5])
    ∃ workload, Reaches .shaping ended.1 ended.2 ∧ ended.2.get? ⟨0⟩ = some workload ∧
      ended.2.IsTruthfulIn workload (eventsOf ended.1) ∧
      workload.fault.activeMode = some .latency ∧
      ended.2.runningIn workload (eventsOf ended.1) .latency ∧
      ¬ ended.2.runningIn workload (eventsOf ended.1) .bandwidth := by
  intro ended
  have reached : Reaches .shaping ended.1 ended.2 := reaches_trial .shaping .agreeable _
  have busy : ∀ event ∈ eventsOf ended.1, event.idle? = none := by decide
  have truthful (workload : Instance) : ended.2.IsTruthfulIn workload (eventsOf ended.1) :=
    fun _ _ _ _ => .of_idle?_eq busy
  have found : ended.2.get? ⟨0⟩ = some _ := rfl
  rcases shaping_of_reaches reached found (truthful _) with ⟨covers, _, settled⟩
  rcases settled _ ⟨.setLatencyAndJitter ⟨0⟩ 50 5, _, .ok ()⟩ _ rfl rfl rfl with ⟨noted, exact⟩
  refine ⟨_, reached, found, truthful _, noted, (exact _).mpr noted, fun runs => ?_⟩
  cases noted.symm.trans (covers _ runs)

end Testbed
