import Testbed.Proofs.Shaping

namespace Testbed

/-!
# Changes of shaping that fail

A change of shaping makes up to two stops and then a start, and any of them can be refused.  What is noted
afterwards is written down in two places only: once all stops are made, nothing is noted, and once the
start is made, what was started is.  So a refused first stop leaves note and shaping as they were, and a
refused start leaves neither.

Between the two stops, however, nothing is written down.  If the shaping in force has been stopped, and
the other kind, which is about to start, cannot be, then the note goes on naming what runs no more.  It is
the only way in which a failure makes a note wrong that was right.
-/

/-- Whether the shaping in force has been stopped to make room for another kind, and stopping that kind
has failed. -/
def StopsHalfway (target : String) (port : UInt16) (active : Option ShapingKind)
    (shaping : Option Shaping) (events : List Event) : Prop :=
  ∃ current asked failure, active = some current ∧ shaping = some asked ∧ asked.kind ≠ current ∧
    failure.isIdle = false ∧
    events = [.asked (.unshape target port current) (.ok ()),
      .asked (.unshape target port asked.kind) (.error failure)]

/-- The first stop is about the shaping in force, if there is any, and a second one about another kind. -/
theorem Action.eq_nil_or_single_of_kindsToStop {active : Option ShapingKind} {shaping : Option Shaping}
    {kinds : List ShapingKind} {kind : ShapingKind}
    (leads : kinds ++ [kind] <+: kindsToStop active shaping) :
    kinds = [] ∨ ∃ current asked, active = some current ∧ shaping = some asked ∧
      asked.kind ≠ current ∧ kinds = [current] ∧ kind = asked.kind := by
  rcases kinds with _ | ⟨first, rest⟩
  · exact Or.inl rfl
  apply Or.inr
  cases active with
  | none =>
      -- Without shaping in force, the list has at most one kind, so nothing precedes the last.
      have short := leads.length_le
      cases shaping <;> simp [kindsToStop] at short
  | some current =>
      cases shaping with
      | none => simp [kindsToStop] at leads
      | some asked =>
          by_cases same : current = asked.kind
          · simp [kindsToStop, same] at leads
          · have apart : asked.kind ≠ current := fun equal => same equal.symm
            have two : kindsToStop (some current) (some asked) = [current, asked.kind] := by
              simp [kindsToStop, same]
            rw [two, List.cons_append, List.cons_prefix_cons] at leads
            rcases leads with ⟨rfl, onward⟩
            cases rest with
            | nil =>
                rw [List.nil_append, List.cons_prefix_cons] at onward
                exact ⟨first, asked, rfl, rfl, apart, rfl, onward.1⟩
            | cons second others =>
                have short := onward.length_le
                simp at short

namespace Running

variable {owner target : String} {running : Running} {events : List Event} {port : UInt16}
  {active mode : Option ShapingKind} {shaping : Option Shaping} {kind : ShapingKind}

/-- What runs is stopped with a yes, because the shaping service says only of what does not run that
there is nothing to stop. -/
theorem granted_of_stops (stops : Stops target port [kind] events)
    (truthful : Truthful owner target running events) (runs : running kind) :
    events = [.asked (.unshape target port kind) (.ok ())] := by
  cases stops with
  | next calm rest =>
      rename_i reply
      cases rest
      cases reply with
      | ok granted => rfl
      | error failure => exact absurd runs (truthful.cons.1 kind (if_pos (calm failure rfl)))

/-- After a change of shaping that fails, a note that was exact is exact unless the change has stopped
halfway; then nothing runs, and the note is what it was. -/
theorem after_failed_shapes (shapes : Shapes target port active shaping events false mode)
    (truthful : Truthful owner target running events)
    (exact : ∀ kind, running kind ↔ active = some kind) :
    (StopsHalfway target port active shaping events →
      mode = active ∧ running.after owner target events = none) ∧
    (¬ StopsHalfway target port active shaping events →
      ∀ kind, running.after owner target events kind ↔ mode = some kind) := by
  have noted : ∀ kind, running kind → active = some kind := fun kind => (exact kind).mp
  cases shapes with
  | unstarted asks stops =>
      have halted := after_kindsToStop noted stops truthful.append.1
      rw [after_append, halted]
      refine ⟨?_, fun _ kind => ⟨False.elim, nofun⟩⟩
      -- A start that has been tried is not an answer to a stop.
      rintro ⟨current, asked, failure, _, _, _, _, same⟩
      have last := congrArg List.getLast? same
      simp at last
  | aborted stops grave leads =>
      rcases Action.eq_nil_or_single_of_kindsToStop leads with
        rfl | ⟨current, asked, inForce, asks, apart, rfl, rfl⟩
      · cases stops
        constructor
        · rintro ⟨current, asked, failure, _, _, _, _, same⟩
          have short := congrArg List.length same
          simp at short
        · exact fun _ kind => exact kind
      · have granted := granted_of_stops stops truthful.append.1 ((exact current).mpr inForce)
        subst granted
        have halfway : StopsHalfway target port active shaping
            ([.asked (.unshape target port current) (.ok ())] ++
              [.asked (.unshape target port asked.kind) (.error _)]) :=
          ⟨current, asked, _, inForce, asks, apart, grave, rfl⟩
        refine ⟨fun _ => ⟨rfl, ?_⟩, fun whole => absurd halfway whole⟩
        funext kind
        apply propext
        refine ⟨fun runs => ?_, False.elim⟩
        rw [after_append, after_singleton] at runs
        rcases (after_stops stops truthful.append.1 kind).mp (of_step_unshape runs) with ⟨ran, absent⟩
        rw [inForce] at noted
        exact absent (List.mem_singleton.mpr (Option.some.inj (noted kind ran)).symm)

end Running

/-- A call that shapes traffic and fails changes nothing but the note of shaping.  Whatever the reason and
whatever runs: if the note said exactly what ran in the pod, it says so afterwards, unless the call has
stopped halfway.  Then nothing runs any more, and the note is what it was. -/
theorem noted_of_failedShaping {setup : Setup} {before after : Registry} {call : Call}
    {events : List Event} {error : Error} {id : InstanceId} {shaping : Option Shaping}
    {workload : Instance} {target : String} {running : Running}
    (course : Action.Course setup call.perform before events (.error error) after)
    (asks : call.shapingOf? = some (id, shaping)) (found : before.get? id = some workload)
    (hosted : ∀ host, workload.fault.sidecar = some host → host = target)
    (exact : ∀ kind, running kind ↔ workload.fault.activeMode = some kind)
    (truthful : Running.Truthful workload.clusterName target running events) :
    ∃ mode, after = before.setMode id mode ∧
      (StopsHalfway target workload.fault.port workload.fault.activeMode shaping events →
        mode = workload.fault.activeMode ∧
          running.after workload.clusterName target events = .none) ∧
      (¬ StopsHalfway target workload.fault.port workload.fault.activeMode shaping events →
        ∀ kind, running.after workload.clusterName target events kind ↔ mode = some kind) := by
  rcases Call.course_of_shapingOf? asks course with
    ⟨_, rfl, rfl⟩ | ⟨known, host, mode, there, noted, shapes, rfl⟩
  · refine ⟨workload.fault.activeMode, (Registry.setMode_eq_self found).symm, ?_, fun _ => exact⟩
    rintro ⟨current, asked, failure, _, _, _, _, impossible⟩
    cases impossible
  · rcases Option.some.inj (found.symm.trans there) with rfl
    rcases hosted host noted with rfl
    exact ⟨mode, rfl, Running.after_failed_shapes shapes truthful exact⟩

/-! ## Trials -/

/-- Collaborators that grant everything but to stop shaping of one kind. -/
def Replies.holding (kind : ShapingKind) : Replies
  | .unshape _ _ stopped =>
    if stopped = kind then .error (.request "connection refused") else .ok ()
  | request => agreeable request

/-- The bandwidth of an instance is limited. -/
def limitedPod : List Record × Registry :=
  trial .shaping .agreeable
    (Call.shapedPod ++ [.startWithoutWait ⟨0⟩, .setBandwidthLimit ⟨0⟩ 1000000])

/-- What runs in the pod of an instance whose bandwidth is limited is noted. -/
theorem limitedPod_noted (kind : ShapingKind) :
    Running.none.after "main" "main-fault" (eventsOf limitedPod.1) kind ↔
      some ShapingKind.bandwidth = some kind := by
  have runs : Running.none.after "main" "main-fault" (eventsOf limitedPod.1) =
      fun kind => (False ∧ kind ≠ .bandwidth) ∨ kind = .bandwidth := rfl
  simp only [runs, false_and, false_or, Option.some.injEq, eq_comm]

/-- The answer to a stop that is held. -/
def Event.heldStop (kind : ShapingKind) : Event :=
  .asked (.unshape "main-fault" 9007 kind) (.error (.request "connection refused"))

/-- When a bandwidth limit cannot be lifted, it goes on running and being noted. -/
theorem noted_of_heldLimit :
    let cleared := (Call.clearShaping ⟨0⟩).tried .shaping (.holding .bandwidth) limitedPod
    ∃ left, cleared.2.get? ⟨0⟩ = some left ∧ left.fault.activeMode = some .bandwidth ∧
      ∀ kind, Running.none.after "main" "main-fault" (eventsOf cleared.1) kind ↔
        left.fault.activeMode = some kind := by
  intro cleared
  have failed : (((Call.clearShaping ⟨0⟩).perform .shaping limitedPod.2).follow
      (.holding .bandwidth)).2.1.isOk = false := rfl
  have ended : ∃ error, Action.Course .shaping (Call.clearShaping ⟨0⟩).perform limitedPod.2
      [.heldStop .bandwidth] (.error error) cleared.2 := course_of_failed_trial failed
  rcases ended with ⟨error, course⟩
  have busy : ∀ event ∈ [Event.heldStop .bandwidth], event.idle? = none :=
    List.forall_mem_singleton.mpr rfl
  have found : limitedPod.2.get? ⟨0⟩ = some _ := rfl
  rcases noted_of_failedShaping course rfl found (fun _ same => (Option.some.inj same).symm)
    limitedPod_noted (.of_idle?_eq busy) with ⟨mode, same, _, whole⟩
  have known : some (some ShapingKind.bandwidth) = some mode :=
    congrArg (fun registry => (registry.get? ⟨0⟩).map fun left => left.fault.activeMode) same
  have single : ¬ StopsHalfway "main-fault" 9007 (some .bandwidth) none [.heldStop .bandwidth] := by
    rintro ⟨current, asked, failure, _, impossible, _⟩
    cases impossible
  refine ⟨_, rfl, rfl, fun kind => ?_⟩
  have ends : eventsOf cleared.1 = eventsOf limitedPod.1 ++ [.heldStop .bandwidth] := rfl
  rw [ends, Running.after_append]
  rw [← Option.some.inj known] at whole
  exact whole single kind

/-- When the bandwidth of an instance is limited and its traffic is to be delayed instead, a delay that
cannot be stopped ends the call with the limit lifted and noted still. -/
theorem mode_outlives_limit :
    ¬ ∀ (setup : Setup) (history : List Record) (before after : Registry) (call : Call)
      (events : List Event) (error : Error) (id : InstanceId) (shaping : Option Shaping)
      (workload left : Instance) (target : String),
      Reaches setup history before →
      Action.Course setup call.perform before events (.error error) after →
      call.shapingOf? = some (id, shaping) → before.get? id = some workload →
      workload.state = .started → workload.fault.sidecar = some target → after.get? id = some left →
      (∀ kind, Running.none.after workload.clusterName target (eventsOf history) kind ↔
        workload.fault.activeMode = some kind) →
      Running.Truthful workload.clusterName target .none (eventsOf history ++ events) →
      ∀ kind, Running.none.after workload.clusterName target (eventsOf history ++ events) kind ↔
        left.fault.activeMode = some kind := by
  intro claim
  let talk : List Event := [.asked (.unshape "main-fault" 9007 .bandwidth) (.ok ()), .heldStop .latency]
  have failed : (((Call.setLatencyAndJitter ⟨0⟩ 50 5).perform .shaping limitedPod.2).follow
      (.holding .latency)).2.1.isOk = false := rfl
  have ended : ∃ error, Action.Course .shaping (Call.setLatencyAndJitter ⟨0⟩ 50 5).perform limitedPod.2
      talk (.error error)
      ((Call.setLatencyAndJitter ⟨0⟩ 50 5).tried .shaping (.holding .latency) limitedPod).2 :=
    course_of_failed_trial failed
  rcases ended with ⟨error, course⟩
  have reached : Reaches .shaping limitedPod.1 limitedPod.2 := reaches_trial .shaping .agreeable _
  have busy : ∀ event ∈ eventsOf limitedPod.1 ++ talk, event.idle? = none := by decide
  have stale := (claim .shaping limitedPod.1 limitedPod.2 _ _ talk error ⟨0⟩ _ _ _ "main-fault" reached
    course rfl rfl rfl rfl rfl limitedPod_noted (.of_idle?_eq busy) .bandwidth).mpr rfl
  rw [Running.after_append] at stale
  exact stale.2 rfl

end Testbed
