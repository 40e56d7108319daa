import Testbed.Proofs.Shaping

namespace Testbed

/-!
# Shaping dies with the pod

When the compute unit of an instance is removed, its shaping sidecar goes with it, and so does all that
ran there.  There are two ways to come to that.  A stop notes that no shaping is in force any more.  A
replacement of the image does not: whatever was noted before is noted still, of a pod in which nothing
runs.
-/

namespace Turn

variable {setup : Setup} {before after : Registry} {call : Call} {events : List Event}
  {succeeded : Bool} {id : InstanceId} {workload : Instance} {grace : Option UInt32}

/-- A compute unit is removed first of all, by a stop or by a replacement of the image of its instance;
what is noted of shaping is forgotten in the first case and kept in the second. -/
theorem removed (turn : Turn setup before call events succeeded after) (linked : before.WellLinked)
    (found : before.get? id = some workload) (gone : .removed workload.clusterName grace ∈ events) :
    ∃ left talk, after.get? id = some left ∧ left.clusterName = workload.clusterName ∧
      events = .removed workload.clusterName grace :: talk ∧ (∀ event ∈ talk, event.IsPlain) ∧
      (call = .stop id ∧ left.fault.activeMode = none ∨
        call.imageOf? = some id ∧ left.fault.activeMode = workload.fault.activeMode) := by
  have parts {name : String} {other : Option UInt32}
      (same : Event.removed workload.clusterName grace = .removed name other) :
      workload.clusterName = name ∧ other = grace := by
    cases same
    exact ⟨rfl, rfl⟩
  -- The removed unit has the name of the instance, so the turn was about that one.
  have first {target : InstanceId} {member : Instance} {other : Option UInt32} {talk : List Event}
      (known : before.get? target = some member) (plain : ∀ event ∈ talk, event.IsPlain)
      (said : .removed workload.clusterName grace ∈ .removed member.clusterName other :: talk) :
      target = id ∧ member = workload ∧ other = grace := by
    rcases List.mem_cons.mp said with same | later
    · rcases parts same with ⟨named, graces⟩
      rcases linked.distinct found known named with rfl
      exact ⟨rfl, Option.some.inj (known.symm.trans found), graces⟩
    · exact absurd rfl ((plain _ later).2 _ grace)
  have remains {mode : Option ShapingKind} (renoted : before.Renoted id mode after) :
      ∃ left, after.get? id = some left ∧ left.clusterName = workload.clusterName ∧
        left.fault.activeMode = mode := by
    rcases renoted.found found with ⟨left, there, bonds⟩
    exact ⟨left, there, congrArg (fun bonds => bonds.links.clusterName) bonds,
      (congrArg Bonds.mode bonds).trans (if_pos rfl)⟩
  cases turn with
  | steps steps => exact absurd rfl ((steps.plain _ gone).2 _ grace)
  | shapes _ _ _ shapes => cases shapes.shaper?_eq _ gone
  | halts stops known =>
      have plain : ∀ event ∈ ([] : List Event), event.IsPlain := fun _ impossible => nomatch impossible
      rcases first known plain gone with ⟨rfl, rfl, rfl⟩
      rcases remains Registry.renoted_halted with ⟨left, there, named, unnoted⟩
      exact ⟨left, [], there, named, rfl, plain, Or.inl ⟨stops, unnoted⟩⟩
  | replaces sets known plain replaced =>
      rcases first known plain gone with ⟨rfl, rfl, rfl⟩
      rcases remains (Registry.renoted_of_replaced found replaced) with ⟨left, there, named, kept⟩
      exact ⟨left, _, there, named, rfl, plain, Or.inr ⟨sets, kept⟩⟩

end Turn

/-- Nothing runs in a pod whose compute unit has just been removed. -/
theorem Registry.runningIn_of_removed {registry : Registry} {workload : Instance}
    {past talk : List Event} {grace : Option UInt32} (plain : ∀ event ∈ talk, event.IsPlain) :
    registry.runningIn workload (past ++ .removed workload.clusterName grace :: talk) = .none := by
  funext kind
  refine propext ⟨?_, False.elim⟩
  rintro ⟨handle, sidecar, _, _, runs⟩
  rw [Running.after_append, Running.after, List.foldl_cons, Running.step_removed] at runs
  have silent : ∀ event ∈ talk, event.shaper? ≠ some sidecar.clusterName := by
    intro event member
    rw [(plain event member).1]
    exact (Option.some_ne_none _).symm
  rw [← Running.after, Running.after_none silent] at runs
  exact runs

/-- Whenever a call has removed the compute unit of an instance, whether or not it succeeds otherwise,
nothing runs in the instance's pod.  If the call was a stop, no shaping is noted any more; if it was to
replace the image, what was noted before is noted still. -/
theorem removal_of_reaches {setup : Setup} {history : List Record} {before after : Registry}
    {call : Call} {events : List Event} {result : Except Error call.Value} {id : InstanceId}
    {workload : Instance} {grace : Option UInt32} (reached : Reaches setup history before)
    (course : Action.Course setup call.perform before events result after)
    (found : before.get? id = some workload) (gone : .removed workload.clusterName grace ∈ events) :
    ∃ left, after.get? id = some left ∧
      after.runningIn left (eventsOf history ++ events) = .none ∧
      (call = .stop id ∧ left.fault.activeMode = none ∨
        call.imageOf? = some id ∧ left.fault.activeMode = workload.fault.activeMode) := by
  have linked := reached.invariant.1
  rcases (Call.turn linked course).removed linked found gone with
    ⟨left, talk, there, named, rfl, plain, note⟩
  refine ⟨left, there, ?_, note⟩
  rw [← named]
  exact Registry.runningIn_of_removed plain

/-- When an instance whose bandwidth is limited is stopped, no shaping is noted any more. -/
theorem removal_of_shapedPod :
    let started := trial .shaping .agreeable
      (Call.shapedPod ++ [.startWithoutWait ⟨0⟩, .setBandwidthLimit ⟨0⟩ 1000000])
    let stopped := Call.tried .shaping .agreeable started (.stop ⟨0⟩)
    (∃ workload, started.2.get? ⟨0⟩ = some workload ∧
      workload.fault.activeMode = some .bandwidth) ∧
    ∃ left, stopped.2.get? ⟨0⟩ = some left ∧ left.fault.activeMode = none ∧
      stopped.2.runningIn left (eventsOf stopped.1) = .none := by
  intro started stopped
  have reached : Reaches .shaping started.1 started.2 := reaches_trial .shaping .agreeable _
  have course := Program.course_follow .agreeable ((Call.stop ⟨0⟩).perform .shaping started.2)
  have found : started.2.get? ⟨0⟩ = some _ := rfl
  rcases removal_of_reaches reached course found (List.mem_singleton.mpr rfl) with
    ⟨left, there, empty, ⟨_, unnoted⟩ | ⟨sets, _⟩⟩
  · refine ⟨⟨_, found, rfl⟩, left, there, unnoted, ?_⟩
    exact empty
  · cases sets

/-- When the image of an instance whose bandwidth is limited is replaced, the limit dies with the pod
and is noted still. -/
theorem mode_outlives_pod :
    ¬ ∀ (setup : Setup) (history : List Record) (record : Record) (registry : Registry)
      (id : InstanceId) (workload : Instance) (grace : Option UInt32),
      Reaches setup (history ++ [record]) registry → registry.get? id = some workload →
      record.result.isOk = true → .removed workload.clusterName grace ∈ record.events →
      workload.fault.activeMode = none := by
  intro claim
  have reached := reaches_trial .shaping .agreeable
    (Call.shapedPod ++ [.startWithoutWait ⟨0⟩, .setBandwidthLimit ⟨0⟩ 1000000, .setImage ⟨0⟩ "busybox:2"])
  have gone := claim .shaping _ ⟨.setImage ⟨0⟩ "busybox:2", _, .ok ()⟩ _ ⟨0⟩ _ none reached rfl rfl
    List.mem_cons_self
  cases gone

end Testbed
