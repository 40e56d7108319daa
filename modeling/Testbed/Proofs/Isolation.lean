import Testbed.Proofs.ComputeUnit
import Testbed.Proofs.Footprint
import Testbed.Proofs.Isolation.Host
import Testbed.Proofs.Isolation.Policy
import Testbed.Proofs.Supply.Basic

namespace Testbed

/-!
# Isolation of pods

A pod is cut off from the others by a network policy under the name of its owner, and it is let back when
that policy is deleted.  Any member of the pod can be asked to do so, and can be asked how things stand.

No call but these two touches a policy, so what the cluster holds of policies is determined by the calls
that have cut off or let back, and of those about one pod the last decides.  A member that could be asked
was started, and from then on it belongs to its pod for good; so it makes no difference that pods stop,
start again and change their images in between.
-/

/-- The instance whose pod a call cuts off or lets back, and whether it cuts off. -/
def Call.isolationOf? : Call → Option (InstanceId × Bool)
  | disableNetwork id => some (id, true)
  | enableNetwork id => some (id, false)
  | _ => none

/-- The instance whose pod a call has succeeded in cutting off or in letting back, and whether it has cut
it off. -/
def Record.isolation? (record : Record) : Option (InstanceId × Bool) :=
  if record.result.isOk then record.call.isolationOf? else none

/-- What a call has done to the pod of one of some instances: `true` if it has succeeded in cutting it off,
`false` if it has succeeded in letting it back. -/
def Record.wordOn? (record : Record) (concerned : InstanceId → Prop) [DecidablePred concerned] :
    Option Bool :=
  (record.isolation?.filter fun said => concerned said.1).map Prod.snd

/-- Whether of the calls that have succeeded in cutting off the pod of one of some instances, or in letting
it back, the last one has cut it off. -/
def isCutOff (history : List Record) (concerned : InstanceId → Prop) [DecidablePred concerned] : Bool :=
  (history.filterMap fun record => record.wordOn? concerned).getLast?.getD false

section

variable {history : List Record} {record : Record} {id : InstanceId} {cut : Bool}
  {concerned other : InstanceId → Prop} [DecidablePred concerned] [DecidablePred other]

theorem Record.wordOn?_of_silent (silent : record.isolation? = none) : record.wordOn? concerned = none := by
  simp [wordOn?, silent]

theorem Record.wordOn?_of_speaks (speaks : record.isolation? = some (id, cut)) :
    record.wordOn? concerned = if concerned id then some cut else none := by
  by_cases about : concerned id
  · simp [wordOn?, speaks, about]
  · simp [wordOn?, speaks, about]

theorem isCutOff_concat_of_silent (silent : record.isolation? = none) :
    isCutOff (history ++ [record]) concerned = isCutOff history concerned := by
  simp [isCutOff, Record.wordOn?_of_silent silent]

/-- The last word about a pod decides. -/
theorem isCutOff_concat (speaks : record.isolation? = some (id, cut)) :
    isCutOff (history ++ [record]) concerned =
      if concerned id then cut else isCutOff history concerned := by
  by_cases about : concerned id
  · simp [isCutOff, Record.wordOn?_of_speaks speaks, about]
  · simp [isCutOff, Record.wordOn?_of_speaks speaks, about]

/-- A pod is cut off if some call has cut it off and no later one has said anything about it. -/
theorem isCutOff_eq_true_iff :
    isCutOff history concerned = true ↔
      ∃ earlier record later, history = earlier ++ record :: later ∧
        record.wordOn? concerned = some true ∧ ∀ further ∈ later, further.wordOn? concerned = none := by
  have last : isCutOff history concerned = true ↔
      (history.filterMap fun record => record.wordOn? concerned).getLast? = some true := by
    rw [isCutOff]
    cases (history.filterMap fun record => record.wordOn? concerned).getLast? with
    | none => simp
    | some word => simp
  rw [last, List.getLast?_eq_some_iff]
  constructor
  · rintro ⟨words, said⟩
    rcases List.filterMap_eq_append_iff.mp said with ⟨first, rest, rfl, _, spoken⟩
    rcases List.filterMap_eq_cons_iff.mp spoken with ⟨between, record, later, rfl, _, word, silent⟩
    refine ⟨first ++ between, record, later, by simp, word, ?_⟩
    exact fun further member => List.filterMap_eq_nil_iff.mp silent further member
  · rintro ⟨earlier, record, later, rfl, word, silent⟩
    refine ⟨earlier.filterMap fun record => record.wordOn? concerned, ?_⟩
    rw [List.filterMap_append, List.filterMap_cons, word, List.filterMap_eq_nil_iff.mpr silent]

/-- It matters only which of the instances that have been spoken of are concerned. -/
theorem isCutOff_congr
    (same : ∀ record ∈ history, ∀ id cut, record.isolation? = some (id, cut) →
      (concerned id ↔ other id)) :
    isCutOff history concerned = isCutOff history other := by
  have alike {record : Record} (agree : ∀ id cut, record.isolation? = some (id, cut) →
      (concerned id ↔ other id)) : record.wordOn? concerned = record.wordOn? other := by
    cases word : record.isolation? with
    | none => rw [Record.wordOn?_of_silent word, Record.wordOn?_of_silent word]
    | some said =>
        rw [Record.wordOn?_of_speaks word, Record.wordOn?_of_speaks word]
        simp only [agree said.1 said.2 word]
  have words : history.filterMap (fun record => record.wordOn? concerned) =
      history.filterMap fun record => record.wordOn? other := by
    induction history with
    | nil => rfl
    | cons first rest inductionHypothesis =>
        rcases List.forall_mem_cons.mp same with ⟨here, others⟩
        rw [List.filterMap_cons, List.filterMap_cons, alike here, inductionHypothesis others]
  rw [isCutOff, isCutOff, words]

end

/-! ## The calls -/

/-- What happens when the pod of an owner is cut off or let back. -/
def Event.isolation (settings : Settings) (owner : String) : Bool → Event
  | true => .applied (.networkPolicy (isolationPolicy owner settings.space))
  | false => .deleted .networkPolicy owner none

theorem Cluster.step_isolation {cluster : Cluster} {settings : Settings} {owner : String} {cut : Bool} :
    cluster.step (.isolation settings owner cut) =
      cluster.set .networkPolicy owner
        (if cut then some (.networkPolicy (isolationPolicy owner settings.space)) else none) := by
  cases cut with
  | true => rfl
  | false => rfl

/-- Whether the reply to a question about a resource is that of a cluster with these resources. -/
def Cluster.Answers (cluster : Cluster) : Event → Prop
  | .asked (.cluster (.present kind name)) reply => reply = .ok (cluster kind name).isSome
  | _ => True

namespace Action

variable {setup : Setup} {before after : Registry} {events : List Event} {id : InstanceId}

/-- A call about the pod of an instance is refused at once, or goes on with the pod's owner. -/
theorem course_hosted_bind (linked : before.WellLinked) {operation : Operation}
    {next : Instance → String → Action β} {result : Except Error β} :
    Course setup (guarded id operation >>= fun workload => podOwner workload >>= next workload) before
        events result after ↔
      (∃ error, before.guarded id operation = .error error ∧
        events = [] ∧ result = .error error ∧ after = before) ∨
      ∃ workload owner, (before.get? id = some workload ∧ workload.state ∈ operation.allowedStates) ∧
        before.hostOf id = some owner ∧ Course setup (next workload owner) before events result after := by
  have onward {workload : Instance} {owner : String} (found : before.get? id = some workload)
      (hosted : before.hostOf id = some owner) :
      Course setup (podOwner workload >>= next workload) before events result after ↔
        Course setup (next workload owner) before events result after := by
    have ended : podOwner workload setup before = .done (.ok owner, before) := by
      rw [podOwner_eq, (Registry.hostOf_eq_some_iff found).mp hosted]
    rw [Course, bind_of_done ended]
    rfl
  rw [course_guarded_bind]
  apply or_congr_right
  constructor
  · rintro ⟨workload, permitted, course⟩
    rcases linked.exists_leader permitted.1 with ⟨leader, there, _⟩
    have hosted := Registry.hostOf_of_leader there
    exact ⟨workload, leader.clusterName, permitted, hosted, (onward permitted.1 hosted).mp course⟩
  · rintro ⟨workload, owner, permitted, hosted, course⟩
    exact ⟨workload, permitted, (onward permitted.1 hosted).mpr course⟩

/-- A started instance that is asked whether its network is disabled looks whether there is a policy under
the name of its pod's owner. -/
theorem course_networkIsDisabled {workload : Instance} {owner : String} (linked : before.WellLinked)
    (found : before.get? id = some workload) (started : workload.state = .started)
    (hosted : before.hostOf id = some owner) {result : Except Error Bool} :
    Course setup (networkIsDisabled id) before events result after ↔
      ∃ reply, events = [.asked (.cluster (.present .networkPolicy owner)) reply] ∧
        result = reply.mapError (Error.relayed workload.name Operation.networkIsDisabled.text) ∧
        after = before := by
  have permitted : workload.state ∈ Operation.networkIsDisabled.allowedStates :=
    List.mem_singleton.mpr started
  refine (course_hosted_bind linked).trans ?_
  constructor
  · rintro (⟨error, refused, _⟩ | ⟨other, name, ⟨known, _⟩, same, asking⟩)
    · rw [Registry.guarded_eq_ok_iff.mpr ⟨found, permitted⟩] at refused
      cases refused
    · obtain rfl := Option.some.inj (known.symm.trans found)
      obtain rfl := Option.some.inj (same.symm.trans hosted)
      exact course_cluster.mp asking
  · intro asking
    exact Or.inr ⟨workload, owner, ⟨found, permitted⟩, hosted, course_cluster.mpr asking⟩

end Action

/-- What a call does to the isolation of pods: nothing, or it cuts one off or lets it back, as it says. -/
inductive Isolating (setup : Setup) (before : Registry) (record : Record) (after : Registry) : Prop where
  | silent (mute : record.isolation? = none)
      (spares : ∀ event ∈ record.events, ∀ name, ¬ event.Touches .networkPolicy name)
  | isolates {id : InstanceId} (speaks : record.isolation? = some (id, cut))
      (found : before.get? id = some workload) (started : workload.state = .started)
      (hosted : before.hostOf id = some owner)
      (happens : record.events = [.isolation setup.settings owner cut]) (stays : after = before)

/-- Calls that isolate nobody leave policies alone. -/
theorem Call.networkPolicy_not_mem_touchedKinds {call : Call} (plain : call.isolationOf? = none) :
    .networkPolicy ∉ call.touchedKinds := by
  cases call with
  | disableNetwork | enableNetwork => cases plain
  | _ => simp [touchedKinds, ResourceKind.all]

theorem Call.isolating {setup : Setup} {before after : Registry} {events : List Event} {call : Call}
    {result : Except Error call.Value} (linked : before.WellLinked)
    (course : Action.Course setup call.perform before events result after) :
    Isolating setup before ⟨call, events, result⟩ after := by
  have refused {event : Event} (quiet : event.IsQuiet) :
      ∀ other ∈ [event], ∀ name, ¬ other.Touches .networkPolicy name :=
    List.forall_mem_singleton.mpr fun _ => quiet.not_touches
  cases plain : call.isolationOf? with
  | none =>
      refine .silent (by simp [Record.isolation?, plain]) fun event member name touches => ?_
      exact networkPolicy_not_mem_touchedKinds plain (actsOn_perform call course event member _ name touches)
  | some said =>
      cases call with
      | disableNetwork id | enableNetwork id =>
          rcases (Action.course_hosted_bind linked).mp course with
            ⟨error, _, rfl, rfl, rfl⟩ | ⟨workload, owner, ⟨found, permitted⟩, hosted, asking⟩
          · exact .silent rfl fun _ impossible => nomatch impossible
          have started : workload.state = .started := List.mem_singleton.mp permitted
          rcases Action.course_cluster.mp asking with ⟨reply, rfl, rfl, rfl⟩
          cases reply with
          | error error => exact .silent rfl (refused ⟨error, rfl⟩)
          | ok _ => exact .isolates rfl found started hosted rfl rfl
      | _ => cases plain

/-! ## Policies after any history -/

/-- What is known of isolation after a history. -/
structure Registry.AccountsForIsolation (setup : Setup) (history : List Record) (registry : Registry) :
    Prop where
  /-- A call that has isolated nobody has left policies alone. -/
  silent : ∀ {record}, record ∈ history → record.isolation? = none →
    ∀ event ∈ record.events, ∀ name, ¬ event.Touches .networkPolicy name
  /-- A call that has cut off a pod or has let it back was about somebody who has been deployed, and did
  this to the pod that this instance still runs in. -/
  speaks : ∀ {record id cut}, record ∈ history → record.isolation? = some (id, cut) →
    ∃ workload owner, registry.get? id = some workload ∧ workload.state.IsSettled ∧
      registry.hostOf id = some owner ∧ record.events = [.isolation setup.settings owner cut]
  /-- The cluster holds the policy of a pod exactly if the last word about the pod was to cut it off. -/
  held : ∀ name, clusterOf history .networkPolicy name =
    if isCutOff history fun id => registry.hostOf id = some name then
      some (.networkPolicy (isolationPolicy name setup.settings.space))
    else none

namespace Registry.AccountsForIsolation

variable {setup : Setup} {history : List Record} {before after : Registry} {record : Record}
  {id : InstanceId} {cut : Bool}

theorem empty : ({} : Registry).AccountsForIsolation setup [] where
  silent impossible := nomatch impossible
  speaks impossible := nomatch impossible
  held _ := rfl

section

variable {call : Call} {events : List Event} {succeeded : Bool}

/-- What a record says of isolation stays true of it, because nobody who has been deployed moves to another
pod. -/
theorem speaks_of_conduct (accounts : before.AccountsForIsolation setup history) (linked : before.WellLinked)
    (lockstep : before.InLockstep) (conduct : Conduct setup before call events succeeded after)
    (member : record ∈ history) (said : record.isolation? = some (id, cut)) :
    ∃ workload owner, after.get? id = some workload ∧ workload.state.IsSettled ∧
      after.hostOf id = some owner ∧ record.events = [.isolation setup.settings owner cut] := by
  rcases accounts.speaks member said with ⟨workload, owner, found, settled, hosted, happened⟩
  rcases conduct.stays_settled linked lockstep found settled with ⟨left, there, _, still⟩
  have same := conduct.hostOf_eq linked lockstep found settled
  exact ⟨left, owner, there, still, same.trans hosted, happened⟩

/-- So the earlier words about a pod are still about that pod. -/
theorem isCutOff_of_conduct (accounts : before.AccountsForIsolation setup history)
    (linked : before.WellLinked) (lockstep : before.InLockstep)
    (conduct : Conduct setup before call events succeeded after) (name : String) :
    isCutOff history (fun id => after.hostOf id = some name) =
      isCutOff history fun id => before.hostOf id = some name := by
  apply isCutOff_congr
  intro earlier member id cut said
  rcases accounts.speaks member said with ⟨workload, _, found, settled, _⟩
  rw [conduct.hostOf_eq linked lockstep found settled]

end

/-- What the cluster holds of policies follows the last word about each pod. -/
theorem held_step (accounts : before.AccountsForIsolation setup history) (linked : before.WellLinked)
    (lockstep : before.InLockstep)
    (conduct : Conduct setup before record.call record.events record.result.isOk after)
    (isolating : Isolating setup before record after) (name : String) :
    clusterOf (history ++ [record]) .networkPolicy name =
      if isCutOff (history ++ [record]) fun id => after.hostOf id = some name then
        some (.networkPolicy (isolationPolicy name setup.settings.space))
      else none := by
  rw [clusterOf_append]
  cases isolating with
  | silent mute spares =>
      rw [isCutOff_concat_of_silent mute, accounts.isCutOff_of_conduct linked lockstep conduct,
        ← accounts.held]
      exact Cluster.after_of_not_touches fun event member => spares event member name
  | @isolates cut _ owner id speaks _ _ hosted happens stays =>
      subst stays
      rw [isCutOff_concat speaks, hosted, happens]
      change (clusterOf history).step _ .networkPolicy name = _
      rw [Cluster.step_isolation]
      by_cases here : name = owner
      · subst here
        rw [Cluster.set_self, if_pos rfl]
      · have elsewhere : ¬ some owner = some name := fun same => here (Option.some.inj same).symm
        rw [Cluster.set_of_ne fun same => here same.2, if_neg elsewhere, accounts.held]

/-- A call leaves the account true. -/
theorem step (accounts : before.AccountsForIsolation setup history) (linked : before.WellLinked)
    (lockstep : before.InLockstep)
    (conduct : Conduct setup before record.call record.events record.result.isOk after)
    (isolating : Isolating setup before record after) :
    after.AccountsForIsolation setup (history ++ [record]) := by
  constructor
  · intro other member mute
    rcases List.mem_append.mp member with earlier | now
    · exact accounts.silent earlier mute
    · obtain rfl := List.mem_singleton.mp now
      cases isolating with
      | silent _ spares => exact spares
      | isolates speaks => cases mute.symm.trans speaks
  · intro other id cut member said
    rcases List.mem_append.mp member with earlier | now
    · exact accounts.speaks_of_conduct linked lockstep conduct earlier said
    · obtain rfl := List.mem_singleton.mp now
      cases isolating with
      | silent mute => cases said.symm.trans mute
      | isolates speaks found started hosted happens stays =>
          obtain ⟨rfl, rfl⟩ := Prod.mk.inj (Option.some.inj (speaks.symm.trans said))
          subst stays
          exact ⟨_, _, found, State.isSettled_iff.mpr (Or.inl started), hosted, happens⟩
  · exact accounts.held_step linked lockstep conduct isolating

theorem of_reaches {registry : Registry} (reached : Reaches setup history registry) :
    registry.AccountsForIsolation setup history := by
  induction reached with
  | empty => exact .empty
  | call earlier course inductionHypothesis =>
      rcases earlier.invariant with ⟨linked, lockstep⟩
      exact inductionHypothesis.step linked lockstep (Call.conduct linked course)
        (Call.isolating linked course)

variable {registry : Registry}

/-- Policies have been applied by calls that cut off, and each for the pod that was cut off. -/
theorem exists_of_applied (accounts : registry.AccountsForIsolation setup history)
    (member : record ∈ history) {policy : NetworkPolicy}
    (listed : .applied (.networkPolicy policy) ∈ record.events) :
    ∃ id workload owner, record.isolation? = some (id, true) ∧ registry.get? id = some workload ∧
      workload.state.IsSettled ∧ registry.hostOf id = some owner ∧
      policy = isolationPolicy owner setup.settings.space := by
  cases said : record.isolation? with
  | none => exact absurd ⟨rfl, rfl⟩ (accounts.silent member said _ listed policy.metadata.name)
  | some word =>
      rcases word with ⟨id, cut⟩
      rcases accounts.speaks member said with ⟨workload, owner, found, settled, hosted, happened⟩
      rw [happened] at listed
      have same := List.mem_singleton.mp listed
      cases cut with
      | false => cases same
      | true =>
          cases same
          exact ⟨id, workload, owner, rfl, found, settled, hosted, rfl⟩

/-- There is a policy for a pod exactly if the last word about one of its members was to cut it off. -/
theorem isSome_held {leader : Instance} (accounts : registry.AccountsForIsolation setup history)
    (linked : registry.WellLinked)
    (there : registry.get? (registry.leaderOf id) = some leader) (leads : leader.parent = none) :
    (clusterOf history .networkPolicy leader.clusterName).isSome =
      isCutOff history (· ∈ registry.podOf id) := by
  have members : isCutOff history (· ∈ registry.podOf id) =
      isCutOff history fun other => registry.hostOf other = some leader.clusterName :=
    isCutOff_congr fun _ _ _ _ _ => (linked.hostOf_eq_iff there leads).symm
  rw [accounts.held, members]
  cases isCutOff history fun other => registry.hostOf other = some leader.clusterName with
  | true => rfl
  | false => rfl

end Registry.AccountsForIsolation

/-! ## The answers and the policies -/

theorem Record.call_of_isolation? {record : Record} {id : InstanceId}
    (said : record.isolation? = some (id, true)) : record.call = .disableNetwork id := by
  rw [isolation?] at said
  split at said
  · cases asked : record.call with
    | disableNetwork other =>
        rw [asked] at said
        cases said
        rfl
    | _ =>
        rw [asked] at said
        cases said
  · cases said

/-- Whoever leads the pod of an instance that has been deployed can be compiled. -/
theorem Registry.IsSupplied.exists_compiled_leader {registry : Registry} {id : InstanceId}
    {workload : Instance} (supplied : registry.IsSupplied) (found : registry.get? id = some workload)
    (settled : workload.state.IsSettled) (settings : Settings) :
    ∃ leader compiled, registry.get? (registry.leaderOf id) = some leader ∧
      registry.compile settings leader = .ok compiled := by
  rcases exists_settled_leader supplied.linked supplied.lockstep found settled with
    ⟨leader, there, _, deployed⟩
  rcases exists_compile supplied.linked supplied.lockstep supplied.imaged there deployed.late settings with
    ⟨compiled, made⟩
  exact ⟨leader, compiled, there, made⟩

/-- Whatever is done with a testbed, and whatever fails.  A started instance that is asked whether its
network is disabled says so, if the cluster answers as a map does, exactly if some call has cut off a member
of its pod and no later one has let a member back.  And every policy that has been applied was applied to
cut off the pod of an instance; it governs that pod and no other of the registry, and it admits the pods of
executors, and no others, in both directions. -/
theorem isolation_of_reaches {setup : Setup} {history : List Record} {registry : Registry}
    (reached : Reaches setup history registry) :
    (∀ id workload, registry.get? id = some workload → workload.state = .started →
      ∃ disabled : Bool,
        (disabled = true ↔ ∃ earlier record later, history = earlier ++ record :: later ∧
          record.wordOn? (· ∈ registry.podOf id) = some true ∧
          ∀ further ∈ later, further.wordOn? (· ∈ registry.podOf id) = none) ∧
        (∃ events,
          Action.Course setup (Action.networkIsDisabled id) registry events (.ok disabled) registry ∧
          ∀ event ∈ events, (clusterOf history).Answers event) ∧
        ∀ events result after,
          Action.Course setup (Action.networkIsDisabled id) registry events result after →
          (∀ event ∈ events, (clusterOf history).Answers event) →
          result = .ok disabled ∧ after = registry) ∧
    ∀ record ∈ history, ∀ policy, .applied (.networkPolicy policy) ∈ record.events →
      ∃ id leader compiled, record.call = .disableNetwork id ∧
        registry.get? (registry.leaderOf id) = some leader ∧
        registry.compile setup.settings leader = .ok compiled ∧
        policy.Governs compiled.replicaSet ∧
        ∀ other another unit, registry.get? other = some another →
          registry.compile setup.settings another = .ok unit →
          (policy.Governs unit.replicaSet ↔ other = registry.leaderOf id) ∧
          (policy.AdmitsFrom unit.replicaSet ↔ another.kind = .executor) ∧
          (policy.AdmitsTo unit.replicaSet ↔ another.kind = .executor) := by
  have accounts := Registry.AccountsForIsolation.of_reaches reached
  have supplied := Registry.IsSupplied.of_reaches reached
  have linked := supplied.linked
  constructor
  · intro id workload found started
    rcases linked.exists_leader found with ⟨leader, there, leads⟩
    have hosted := Registry.hostOf_of_leader there
    have held := accounts.isSome_held linked there leads
    refine ⟨isCutOff history (· ∈ registry.podOf id), isCutOff_eq_true_iff, ?_, ?_⟩
    · have asking : Action.Course setup (Action.networkIsDisabled id) registry _
          (.ok (isCutOff history (· ∈ registry.podOf id))) registry :=
        (Action.course_networkIsDisabled linked found started hosted).mpr ⟨.ok _, rfl, rfl, rfl⟩
      exact ⟨_, asking, List.forall_mem_singleton.mpr (congrArg Except.ok held.symm)⟩
    · intro events result after course answers
      rcases (Action.course_networkIsDisabled linked found started hosted).mp course with
        ⟨reply, rfl, rfl, rfl⟩
      have replied : reply = .ok (clusterOf history .networkPolicy leader.clusterName).isSome :=
        answers _ (List.mem_singleton_self _)
      rw [replied, held]
      exact ⟨rfl, rfl⟩
  · intro record member policy listed
    rcases accounts.exists_of_applied member listed with
      ⟨id, workload, owner, said, found, settled, hosted, rfl⟩
    rcases supplied.exists_compiled_leader found settled setup.settings with
      ⟨leader, compiled, there, compiles⟩
    obtain rfl := Option.some.inj ((Registry.hostOf_of_leader there).symm.trans hosted)
    refine ⟨id, leader, compiled, Record.call_of_isolation? said, there, compiles, ?_, ?_⟩
    · exact (governs_isolationPolicy_iff linked there there compiles).mpr rfl
    · intro other another unit known made
      exact ⟨governs_isolationPolicy_iff linked there known made, admitsFrom_isolationPolicy_iff made,
        admitsTo_isolationPolicy_iff made⟩

/-- The sidecar of a started pod is asked to cut the pod off, and the pod is stopped and started again.  The
owner still says that its network is disabled, and the policy that has been applied governs its compute
unit. -/
theorem isolation_of_podStart :
    let ended := trial .plain .agreeable
      (Call.podStart ++ [.disableNetwork ⟨1⟩, .stop ⟨0⟩, .startWithoutWait ⟨0⟩])
    let policy := isolationPolicy "main" Setup.plain.settings.space
    Reaches .plain ended.1 ended.2 ∧
      (∃ events,
        Action.Course .plain (Action.networkIsDisabled ⟨0⟩) ended.2 events (.ok true) ended.2 ∧
        ∀ event ∈ events, (clusterOf ended.1).Answers event) ∧
      ∃ leader compiled, ended.2.get? ⟨0⟩ = some leader ∧
        ended.2.compile Setup.plain.settings leader = .ok compiled ∧
        policy.Governs compiled.replicaSet ∧ ¬ policy.AdmitsFrom compiled.replicaSet := by
  intro ended policy
  have reached : Reaches .plain ended.1 ended.2 := reaches_trial .plain .agreeable _
  have started : (ended.2.get? ⟨0⟩).map Instance.state = some .started := by decide +kernel
  have kind : (ended.2.get? ⟨0⟩).map Instance.kind = some .basic := by decide +kernel
  have leads : ended.2.leaderOf ⟨1⟩ = ⟨0⟩ := by decide +kernel
  have last : isCutOff ended.1 (· ∈ ended.2.podOf ⟨0⟩) = true := by decide +kernel
  have said : ⟨.disableNetwork ⟨1⟩, [.applied (.networkPolicy policy)], .ok ()⟩ ∈ ended.1 :=
    List.mem_of_getElem? (rfl : ended.1[9]? = some _)
  rcases isolation_of_reaches reached with ⟨answers, policies⟩
  rcases Option.map_eq_some_iff.mp started with ⟨workload, found, now⟩
  rcases answers ⟨0⟩ workload found now with ⟨disabled, word, answer, _⟩
  obtain rfl : disabled = true := word.mpr (isCutOff_eq_true_iff.mp last)
  rcases policies _ said policy (List.mem_singleton_self _) with
    ⟨id, leader, compiled, same, there, compiles, governs, limits⟩
  obtain rfl : ⟨1⟩ = id := Call.disableNetwork.inj same
  rw [leads] at there
  refine ⟨reached, answer, leader, compiled, there, compiles, governs, fun admits => ?_⟩
  have executor := (limits ⟨0⟩ leader compiled there compiles).2.1.mp admits
  rw [there, Option.map_some, executor] at kind
  cases kind

end Testbed
