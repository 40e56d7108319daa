import Testbed.Proofs.Footprint
import Testbed.Proofs.Launch

namespace Testbed

/-!
# What a failed start leaves behind

A start that fails gives back nothing of what it has done.  It may have given its instance a collector, and
then a shaping sidecar, and it may have applied some of what supports the pod; but no instance has moved,
nobody else has changed, and there is no compute unit.

All failures before the first application look alike: what matters is only which attendants have joined.
`Welcomes` says so of one injection and of both.  From there on nothing happens to the registry, and the
resources are applied in their order, so what has been applied is a beginning of what was to be.
-/

/-! ## Attendants that have joined -/

/-- Who has joined an instance in which role, with the name in the cluster. -/
abbrev Newcomers : Type :=
  Attendant → Option (InstanceId × String)

/-- A collector and a shaping sidecar, as far as there are any. -/
def Newcomers.both (collector shaper : Option (InstanceId × String)) : Newcomers
  | .collector => collector
  | .shaper => shaper

/-- Nobody but, perhaps, an attendant in one role. -/
def Newcomers.only (newcomer : Option (InstanceId × String)) : Attendant → Newcomers
  | .collector => both newcomer none
  | .shaper => both none newcomer

theorem Newcomers.only_eq_some_iff {role other : Attendant} {newcomer : Option (InstanceId × String)}
    {joined : InstanceId × String} :
    only newcomer role other = some joined ↔ other = role ∧ newcomer = some joined := by
  cases role <;> cases other <;> simp [only, both]

/-- An instance that attendants have joined: they are the last of its sidecars, the collector before the
shaping sidecar, and each of them is noted in its role.  Nothing else is different. -/
def Instance.joinedBy (workload : Instance) (newcomers : Newcomers) : Instance :=
  { workload with
    sidecars := workload.sidecars ++
      ((newcomers .collector).toList ++ (newcomers .shaper).toList).map Prod.fst
    collector := ((newcomers .collector).map Prod.fst).or workload.collector
    fault := { workload.fault with
      sidecar := ((newcomers .shaper).map Prod.snd).or workload.fault.sidecar } }

namespace Instance

variable {workload : Instance} {role : Attendant} {handle : InstanceId} {clusterName : String}

theorem joinedBy_none : workload.joinedBy (.only none role) = workload := by
  cases role <;> simp [joinedBy, Newcomers.only, Newcomers.both]

theorem joinedBy_some :
    workload.joinedBy (.only (some (handle, clusterName)) role) =
      role.note handle clusterName { workload with sidecars := workload.sidecars ++ [handle] } := by
  cases role <;> rfl

theorem joinedBy_joinedBy {collector shaper : Option (InstanceId × String)} :
    (workload.joinedBy (.only collector .collector)).joinedBy (.only shaper .shaper) =
      workload.joinedBy (.both collector shaper) := by
  simp [joinedBy, Newcomers.only, Newcomers.both]

end Instance

namespace Registry

variable {before middle after : Registry} {call : Call} {id : InstanceId} {workload : Instance}
  {role : Attendant} {newcomers : Newcomers}

/-- Whether nothing has happened to the instances of a registry but that one of them has been joined by new
attendants, in roles that nobody was noted in. -/
structure Welcomes (before : Registry) (id : InstanceId) (workload : Instance) (newcomers : Newcomers)
    (after : Registry) : Prop where
  others : ∀ other known, other ≠ id → before.get? other = some known → after.get? other = some known
  parent : after.get? id = some (workload.joinedBy newcomers)
  attendant : ∀ role handle clusterName, newcomers role = some (handle, clusterName) →
    role.isNoted workload = false ∧ before.get? handle = none ∧ after.HasAttendant role id handle

namespace Welcomes

/-- Nobody has joined an instance if all instances are what they were. -/
theorem of_kept (found : before.get? id = some workload)
    (kept : ∀ other known, before.get? other = some known → after.get? other = some known) :
    before.Welcomes id workload (.only none role) after where
  others other known _ there := kept other known there
  parent := by
    rw [Instance.joinedBy_none]
    exact kept id workload found
  attendant other handle clusterName joined := by
    cases (Newcomers.only_eq_some_iff.mp joined).2

theorem refl (found : before.get? id = some workload) :
    before.Welcomes id workload (.only none role) before :=
  of_kept found fun _ _ known => known

/-- An attendant that is enlisted joins its parent. -/
theorem of_enlist {grown : Registry} {clusterName image : String} {context : ContextId}
    (found : before.get? id = some workload) (unnoted : role.isNoted workload = false)
    (joined : before.add (role.made workload before.nextId clusterName image context) = .ok grown) :
    before.Welcomes id workload (.only (some (before.nextId, clusterName)) role)
      (grown.enlist role id before.nextId clusterName) where
  others other known apart there := by
    rw [get?_enlist_of_ne apart, found_add joined there, Option.map_some, if_neg (ne_nextId there)]
  parent := by
    rw [Instance.joinedBy_some]
    exact get?_enlist_self (found_add joined found) (ne_nextId found)
  attendant other handle otherName newcomer := by
    rcases Newcomers.only_eq_some_iff.mp newcomer with ⟨rfl, same⟩
    cases same
    exact ⟨unnoted, get?_nextId, hasAttendant_enlist found joined⟩

/-- A collector joins, if any, and then a shaping sidecar, if any. -/
theorem trans {collector shaper : Option (InstanceId × String)}
    (first : before.Welcomes id workload (.only collector .collector) middle)
    (second : middle.Welcomes id (workload.joinedBy (.only collector .collector)) (.only shaper .shaper)
      after)
    (early : before.Lasts call middle) (late : middle.Lasts call after) :
    before.Welcomes id workload (.both collector shaper) after where
  others other known apart there := second.others other known apart (first.others other known apart there)
  parent := by
    rw [← Instance.joinedBy_joinedBy]
    exact second.parent
  attendant role handle clusterName joined := by
    cases role with
    | collector =>
        rcases first.attendant .collector handle clusterName joined with ⟨unnoted, new, attendant⟩
        exact ⟨unnoted, new, attendant.lasts late⟩
    | shaper =>
        rcases second.attendant .shaper handle clusterName joined with ⟨unnoted, new, attendant⟩
        exact ⟨unnoted, early.absent new, attendant⟩

/-- Who welcomes attendants does not move, and neither does anybody else. -/
theorem stateOf_eq (welcomes : before.Welcomes id workload newcomers after)
    (found : before.get? id = some workload) {other : InstanceId} {known : Instance}
    (there : before.get? other = some known) : after.stateOf other = some known.state := by
  by_cases here : other = id
  · subst here
    rcases Option.some.inj (found.symm.trans there) with rfl
    rw [Registry.stateOf_eq welcomes.parent]
    rfl
  · exact Registry.stateOf_eq (welcomes.others other known here there)

end Welcomes
end Registry

/-! ## Resources that have been applied -/

/-- The resource that has been applied in an event. -/
def Event.applied? : Event → Option Resource
  | asked (.cluster (.apply resource)) (.ok _) => some resource
  | _ => none

/-- The resources that have been applied, in their order. -/
def appliedIn (events : List Event) : List Resource :=
  events.filterMap Event.applied?

section Applied

variable {earlier later : List Event} {resources : List Resource}

theorem Event.applied?_eq_some_iff {event : Event} {resource : Resource} :
    event.applied? = some resource ↔ event = .applied resource := by
  constructor
  · intro applied
    unfold applied? at applied
    split at applied
    · rw [Option.some.inj applied]
    · cases applied
  · rintro rfl
    rfl

theorem appliedIn_append : appliedIn (earlier ++ later) = appliedIn earlier ++ appliedIn later :=
  List.filterMap_append

theorem appliedIn_map_applied : appliedIn (resources.map Event.applied) = resources := by
  induction resources with
  | nil => rfl
  | cons first rest inductionHypothesis => exact congrArg (first :: ·) inductionHypothesis

theorem appliedIn_refused {request : ClusterRequest} {cause : Error} :
    appliedIn [.asked (.cluster request) (.error cause)] = [] := by
  cases request <;> rfl

/-- Where nothing of the cluster is touched, nothing is applied. -/
theorem appliedIn_of_untouched {events : List Event}
    (untouched : ∀ event ∈ events, ∀ kind name, event.Touches kind name → kind ∈ []) :
    appliedIn events = [] := by
  refine List.filterMap_eq_nil_iff.mpr fun event member => ?_
  cases applied : event.applied? with
  | none => rfl
  | some resource =>
      rcases Event.applied?_eq_some_iff.mp applied with rfl
      cases untouched _ member resource.resourceKind resource.name ⟨rfl, rfl⟩

end Applied

namespace Action

variable {setup : Setup} {call : Call} {before after : Registry} {events : List Event}
  {id : InstanceId} {parent current workload : Instance} {role : Attendant} {error : Error}

/-! ## Injections -/

/-- At most the attendant joins in an injection, whether it succeeds or not. -/
theorem Injects.welcomes {succeeded : Bool}
    (injects : Injects setup role id current before events succeeded after)
    (found : before.get? id = some current) (unnoted : role.isNoted current = false) :
    ∃ newcomer, before.Welcomes id current (.only newcomer role) after := by
  cases injects with
  | refused plain => exact ⟨none, .refl found⟩
  | orphaned plain fresh joined =>
      exact ⟨none, .of_kept found fun _ _ known => Registry.found_add joined known⟩
  | enlisted plain built joined => exact ⟨_, .of_enlist found unnoted joined⟩

theorem welcomes_of_injectIf {wants : Bool} {result : Except Error Unit}
    (found : before.get? parent.id = some current) (name : current.name = parent.name)
    (wishes : current.wishes = parent.wishes)
    (needed : wants = (role.isWanted current.wishes && !role.isNoted current))
    (course : Course setup (if wants = true then inject role parent else pure ()) before events result
      after) :
    ∃ newcomer, before.Welcomes parent.id current (.only newcomer role) after := by
  rcases idle_or_injects name wishes needed course with ⟨_, rfl, rfl⟩ | ⟨⟨_, unnoted⟩, injects⟩
  · exact ⟨none, .refl found⟩
  · exact injects.welcomes found unnoted

/-- At most a collector and a shaping sidecar join in the injections of a start, wherever they end. -/
theorem welcomes_of_injectSidecars {result : Except Error Unit}
    (found : before.get? parent.id = some parent)
    (course : Course setup (injectSidecars parent) before events result after) :
    ∃ newcomers, before.Welcomes parent.id parent newcomers after := by
  rw [injectSidecars_eq] at course
  rcases course_bind.mp course with
    ⟨error, rfl, stopped⟩ | ⟨_, middle, earlier, later, rfl, collected, shaped⟩
  · rcases welcomes_of_injectIf found rfl rfl wantsCollector_eq stopped with ⟨newcomer, welcomes⟩
    exact ⟨_, welcomes⟩
  have starts : (Call.startWithoutWait parent.id).startOf? = some parent.id := rfl
  rcases welcomes_of_injectIf found rfl rfl wantsCollector_eq collected with ⟨collector, first⟩
  have early := (passes_injectIf .collector starts found rfl rfl wantsCollector_eq _ _ _ collected).1
  -- A collector changes nothing that the shaping sidecar depends on.
  have needed : wantsShapingSidecar parent =
      (Attendant.shaper.isWanted (parent.joinedBy (.only collector .collector)).wishes &&
        !Attendant.shaper.isNoted (parent.joinedBy (.only collector .collector))) :=
    wantsShapingSidecar_eq
  rcases welcomes_of_injectIf first.parent rfl rfl needed shaped with ⟨shaper, second⟩
  have late := (passes_injectIf .shaper starts first.parent rfl rfl needed _ _ _ shaped).1
  exact ⟨_, first.trans second early.lasts late.lasts⟩

/-! ## Applications -/

/-- What is done with the compiled pod of an instance is not done, or done with the pod as it compiles. -/
theorem course_compile_bind {next : CompiledPod → Action β}
    (course : Course setup (find id >>= fun again => compile again >>= next) before events (.error error)
      after) :
    events = [] ∧ after = before ∨
      ∃ left compiled, before.get? id = some left ∧ before.compile setup.settings left = .ok compiled ∧
        Course setup (next compiled) before events (.error error) after := by
  rcases course_bind.mp course with
    ⟨_, _, stopped⟩ | ⟨left, middle, earlier, later, rfl, located, onward⟩
  · rcases (course_of_done (find_eq id)).mp stopped with ⟨rfl, _, rfl⟩
    exact Or.inl ⟨rfl, rfl⟩
  rcases (course_of_done (find_eq id)).mp located with ⟨rfl, found, rfl⟩
  rcases course_bind.mp onward with
    ⟨_, _, stopped⟩ | ⟨compiled, middle, earlier, later, rfl, made, ended⟩
  · rcases (course_of_done (compile_eq left)).mp stopped with ⟨rfl, _, rfl⟩
    exact Or.inl ⟨rfl, rfl⟩
  · rcases (course_of_done (compile_eq left)).mp made with ⟨rfl, compiles, rfl⟩
    exact Or.inr ⟨left, compiled, Registry.find_eq_ok_iff.mp found.symm, compiles.symm, ended⟩

/-- A compute unit that is not applied moves nobody. -/
theorem course_settle_failed {name : String} {replicaSet : ReplicaSet}
    (course : Course setup
      (cluster name .start (.apply (.replicaSet replicaSet)) >>= fun _ => setPodState id .started)
      before events (.error error) after) :
    appliedIn events = [] ∧ after = before := by
  rcases course_cluster_bind.mp course with ⟨cause, rfl, _, rfl⟩ | ⟨_, later, rfl, moved⟩
  · exact ⟨rfl, rfl⟩
  · rcases course_setPodState.mp moved with ⟨_, impossible, _⟩
    cases impossible

/-- A launch that fails has applied a beginning of what supports the pod. -/
theorem course_launch_failed {name : String} {compiled : CompiledPod}
    (course : Course setup (launch id name compiled) before events (.error error) after) :
    appliedIn events <+: compiled.supporting ∧ after = before := by
  rcases course_bind.mp course with
    ⟨_, _, stopped⟩ | ⟨_, middle, earlier, later, rfl, applied, onward⟩
  · rcases course_applyAll stopped with ⟨rfl, ⟨impossible, _⟩ | ⟨_, applied, refused, cause, leads, rfl⟩⟩
    · cases impossible
    · rw [appliedIn_append, appliedIn_map_applied, appliedIn_refused, List.append_nil]
      exact ⟨(List.prefix_append applied [refused]).trans leads, rfl⟩
  · rcases course_applyAll applied with ⟨rfl, ⟨_, rfl⟩ | ⟨⟨_, impossible⟩, _⟩⟩
    · rcases course_settle_failed onward with ⟨unapplied, rfl⟩
      rw [appliedIn_append, appliedIn_map_applied, unapplied, List.append_nil]
      exact ⟨List.prefix_refl _, rfl⟩
    · cases impossible

/-! ## Starts -/

/-- A start that fails is refused at once, or goes on with its instance: the first one injects attendants and
launches the pod, and any other applies the compute unit alone. -/
theorem course_startWithoutWait
    (course : Course setup (startWithoutWait id) before events (.error error) after) :
    events = [] ∧ after = before ∨
      ∃ workload, before.get? id = some workload ∧
        (workload.state = .committed ∧
            Course setup (injectSidecars workload >>= fun _ => find id >>= fun again =>
              compile again >>= launch id workload.name) before events (.error error) after ∨
          workload.state ≠ .committed ∧
            Course setup (find id >>= fun again => compile again >>= fun compiled =>
              cluster workload.name .start (.apply (.replicaSet compiled.replicaSet)) >>= fun _ =>
                setPodState id .started) before events (.error error) after) := by
  rcases course_guarded_bind.mp course with ⟨_, _, rfl, _, rfl⟩ | ⟨workload, ⟨found, _⟩, passed⟩
  · exact Or.inl ⟨rfl, rfl⟩
  rcases course_ensureNoSidecar_bind.mp passed with ⟨_, rfl, _, rfl⟩ | ⟨_, followed⟩
  · exact Or.inl ⟨rfl, rfl⟩
  rcases course_bind.mp followed with
    ⟨_, _, refused⟩ | ⟨_, middle, earlier, later, rfl, followers, going⟩
  · rcases (course_of_done (guardSidecars_eq _ _)).mp refused with ⟨rfl, _, rfl⟩
    exact Or.inl ⟨rfl, rfl⟩
  rcases (course_of_done (guardSidecars_eq _ _)).mp followers with ⟨rfl, _, rfl⟩
  refine Or.inr ⟨workload, found, ?_⟩
  dsimp only at going
  by_cases committed : workload.state = .committed
  · simp only [if_pos committed] at going
    exact Or.inl ⟨committed, going⟩
  · simp only [if_neg committed] at going
    exact Or.inr ⟨committed, going⟩

end Action

/-- What a start that has failed leaves behind.  No instance has moved, no other instance has changed, and
the instance itself has at most been joined by attendants.  What has been applied is not the compute unit,
and it is a beginning of what supports the pod, as it compiles now; it is nothing unless the instance was
committed. -/
structure Residue (setup : Setup) (before : Registry) (id : InstanceId) (events : List Event)
    (after : Registry) : Prop where
  states : ∀ other known, before.get? other = some known → after.stateOf other = some known.state
  others : ∀ other known, other ≠ id → before.get? other = some known → after.get? other = some known
  welcomes : ∀ workload, before.get? id = some workload →
    ∃ newcomers, before.Welcomes id workload newcomers after
  unitless : ∀ unit, .replicaSet unit ∉ appliedIn events
  supporting : appliedIn events = [] ∨
    ∃ workload left compiled, before.get? id = some workload ∧ workload.state = .committed ∧
      after.get? id = some left ∧ after.compile setup.settings left = .ok compiled ∧
      appliedIn events <+: compiled.supporting

namespace Residue

variable {setup : Setup} {before after : Registry} {events : List Event} {id : InstanceId}
  {workload : Instance} {newcomers : Newcomers}

/-- Nothing is left behind where nobody has joined and nothing has been applied. -/
theorem of_unapplied (unapplied : appliedIn events = []) : Residue setup before id events before where
  states _ _ known := Registry.stateOf_eq known
  others _ _ _ known := known
  welcomes _ found := ⟨.only none .collector, .refl found⟩
  unitless unit := by
    rw [unapplied]
    exact List.not_mem_nil
  supporting := Or.inl unapplied

/-- Besides the attendants that have joined, there is a beginning of what supports the pod, which has no
compute unit in it. -/
theorem of_welcomes (found : before.get? id = some workload)
    (welcomes : before.Welcomes id workload newcomers after)
    (supporting : appliedIn events = [] ∨ ∃ left compiled, workload.state = .committed ∧
      after.get? id = some left ∧ after.compile setup.settings left = .ok compiled ∧
      appliedIn events <+: compiled.supporting) : Residue setup before id events after where
  states _ _ known := welcomes.stateOf_eq found known
  others := welcomes.others
  welcomes other known := by
    rcases Option.some.inj (found.symm.trans known) with rfl
    exact ⟨newcomers, welcomes⟩
  unitless unit member := by
    rcases supporting with unapplied | ⟨left, compiled, _, _, compiles, leads⟩
    · rw [unapplied] at member
      cases member
    · rcases Registry.compile_eq_ok_iff.mp compiles with ⟨pod, _, _, supporting⟩
      have listed := leads.subset member
      rw [supporting] at listed
      rcases Pod.supports_of_mem listed with ⟨_, _, supports⟩
      exact supports.resourceKind_ne.1 rfl
  supporting := by
    refine supporting.imp_right fun beginning => ?_
    rcases beginning with ⟨left, compiled, committed, there, compiles, leads⟩
    exact ⟨workload, left, compiled, found, committed, there, compiles, leads⟩

end Residue

open Testbed.Action in
/-- Whatever fails in a start, and however far the start has got: no instance has moved, nobody else has
changed, its instance has been joined at most by a collector and a shaping sidecar, no compute unit has been
applied, and of what supports the pod a beginning has. -/
theorem residue_of_failedStart {setup : Setup} {history : List Record} {before after : Registry}
    {id : InstanceId} {events : List Event} {error : Error} (reached : Reaches setup history before)
    (course : Course setup (Call.startWithoutWait id).perform before events (.error error) after) :
    Residue setup before id events after := by
  rcases course_startWithoutWait course with
    ⟨rfl, rfl⟩ | ⟨workload, found, ⟨committed, first⟩ | ⟨_, again⟩⟩
  · exact .of_unapplied rfl
  · have handle : workload.id = id := reached.invariant.1.handle found
    subst handle
    rcases course_bind.mp first with
      ⟨_, _, stopped⟩ | ⟨_, middle, earlier, later, rfl, injected, onward⟩
    · rcases welcomes_of_injectSidecars found stopped with ⟨newcomers, welcomes⟩
      exact .of_welcomes found welcomes
        (Or.inl (appliedIn_of_untouched (actsOn_injectSidecars stopped)))
    rcases welcomes_of_injectSidecars found injected with ⟨newcomers, welcomes⟩
    have quiet : appliedIn earlier = [] := appliedIn_of_untouched (actsOn_injectSidecars injected)
    rcases course_compile_bind onward with ⟨rfl, rfl⟩ | ⟨left, compiled, there, compiles, launched⟩
    · rw [List.append_nil]
      exact .of_welcomes found welcomes (Or.inl quiet)
    · rcases course_launch_failed launched with ⟨applied, rfl⟩
      refine .of_welcomes found welcomes (Or.inr ⟨left, compiled, committed, there, compiles, ?_⟩)
      rw [appliedIn_append, quiet]
      exact applied
  · rcases course_compile_bind again with ⟨rfl, rfl⟩ | ⟨left, compiled, there, compiles, settled⟩
    · exact .of_unapplied rfl
    · rcases course_settle_failed settled with ⟨unapplied, rfl⟩
      exact .of_unapplied unapplied

/-! ## Trials -/

/-- Collaborators that grant everything but the application of services. -/
def Replies.withoutServices : Replies
  | .cluster (.apply (.service _)) => .error .unusableAnswer
  | request => agreeable request

/-- Without services, the start of an instance that is observed and shaped ends after both attendants have
joined, and after the configuration of the collector has been applied. -/
theorem residue_of_observedStart :
    let described := trial .shaping .agreeable Call.observedPod
    let failed := (Call.startWithoutWait ⟨0⟩).tried .shaping .withoutServices described
    Reaches .shaping described.1 described.2 ∧
      ∃ events error,
        Action.Course .shaping (Call.startWithoutWait ⟨0⟩).perform described.2 events (.error error)
          failed.2 ∧
        Residue .shaping described.2 ⟨0⟩ events failed.2 ∧
        (appliedIn events).map Resource.name = ["main-otel-collector-config"] ∧
        failed.2.sidecarsOf ⟨0⟩ = [⟨1⟩, ⟨2⟩] := by
  intro described failed
  have reached : Reaches .shaping described.1 described.2 := reaches_trial _ _ _
  have refused : (((Call.startWithoutWait ⟨0⟩).perform .shaping described.2).follow
      .withoutServices).2.1.isOk = false := by decide +kernel
  have applied : (appliedIn (((Call.startWithoutWait ⟨0⟩).perform .shaping described.2).follow
      .withoutServices).1).map Resource.name = ["main-otel-collector-config"] := by decide +kernel
  have joined : failed.2.sidecarsOf ⟨0⟩ = [⟨1⟩, ⟨2⟩] := by decide +kernel
  rcases course_of_failed_trial refused with ⟨error, course⟩
  exact ⟨reached, _, error, course, residue_of_failedStart reached course, applied, joined⟩

end Testbed
