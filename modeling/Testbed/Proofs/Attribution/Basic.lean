import Testbed.Proofs.Blueprint
import Testbed.Proofs.Discretion
import Testbed.Proofs.Forest
import Testbed.Proofs.Refusal
import Testbed.Proofs.Turn.Inject

namespace Testbed

/-!
# Errors and the instances that they name

An error is of use to a reader if it names an instance that is registered.  Nearly all errors do, because
whoever raises one has an instance at hand.  There are two exceptions.  A wait ends with the failure of
its last look as that is, and the cluster that was looked at knows nothing of instances.  And an instance
for which a name in the cluster is asked is not registered yet, whatever the answer.

`Attributes` says of an action, in a registry, that all its errors are accounted for in this way.  Since
the instance at hand was found at some earlier point, it says in addition that nobody is lost or renamed
on the way.
-/

/-- What is made of a result fails if the result is an error, or with an error of its own. -/
theorem bind_eq_error_iff {first : Except ε α} {next : α → Except ε β} {error : ε} :
    (first >>= next) = .error error ↔
      first = .error error ∨ ∃ value, first = .ok value ∧ next value = .error error := by
  cases first with
  | error cause => simp [bind, Except.bind]
  | ok value => simp [bind, Except.bind]

/-- Whether an event is that a name in the cluster is asked for. -/
def Event.asksName : Event → Bool
  | asked (.clusterName _) _ => true
  | _ => false

namespace Registry

variable {registry before middle after : Registry} {events earlier : List Event} {id : InstanceId}
  {workload : Instance} {error : Error} {name : String}

/-- Whether a handle is that of an instance. -/
def Has (registry : Registry) (id : InstanceId) : Prop :=
  ∃ workload, registry.get? id = some workload

/-- Whether an instance of this name is registered. -/
def Knows (registry : Registry) (name : String) : Prop :=
  ∃ id workload, registry.get? id = some workload ∧ workload.name = name

/-- Whether an error names an instance that is registered. -/
def Names (registry : Registry) (error : Error) : Prop :=
  ∃ name, error.instance? = some name ∧ registry.Knows name

/-- Whether an error names an instance that is registered, or the last event was that a look has failed
with it, or that a name was asked for. -/
def Accounts (registry : Registry) (events : List Event) (error : Error) : Prop :=
  registry.Names error ∨ ∃ earlier last, events = earlier ++ [last] ∧
    (last.asksName = true ∨ ∃ condition, last = .awaited condition (.failed error))

/-- Whether everybody is still registered, under the same name. -/
def Keeps (before after : Registry) : Prop :=
  ∀ id workload, before.get? id = some workload →
    ∃ left, after.get? id = some left ∧ left.name = workload.name

/-- Whether the parent and the sidecars of an instance are registered. -/
def HasKin (registry : Registry) (workload : Instance) : Prop :=
  (∀ parent, workload.parent = some parent → registry.Has parent) ∧
    ∀ sidecar ∈ workload.sidecars, registry.Has sidecar

/-- What has come before does not matter to an account. -/
theorem Accounts.prepend (accounts : registry.Accounts events error) :
    registry.Accounts (earlier ++ events) error := by
  rcases accounts with names | ⟨former, last, rfl, anonymous⟩
  · exact Or.inl names
  · exact Or.inr ⟨earlier ++ former, last, (List.append_assoc _ _ _).symm, anonymous⟩

theorem knows_of_found (found : registry.get? id = some workload) : registry.Knows workload.name :=
  ⟨id, workload, found, rfl⟩

theorem hasKin_of_alone (leads : workload.parent = none) (single : workload.sidecars = []) :
    registry.HasKin workload := by
  constructor
  · intro parent attached
    rw [leads] at attached
    cases attached
  · intro sidecar listed
    rw [single] at listed
    cases listed

theorem WellLinked.hasKin (linked : registry.WellLinked) (found : registry.get? id = some workload) :
    registry.HasKin workload := by
  constructor
  · intro parent attached
    have followed : registry.parentOf id = some parent := (parentOf_eq found).trans attached
    rcases mem_sidecarsOf_iff.mp (linked.linked.mp followed) with ⟨leader, there, _⟩
    exact ⟨leader, there⟩
  · intro sidecar listed
    rw [← sidecarsOf_eq found] at listed
    rcases linked.registered listed with ⟨follower, there, _⟩
    exact ⟨follower, there⟩

/-! ## Keeping everybody -/

namespace Keeps

theorem refl : before.Keeps before :=
  fun _ workload found => ⟨workload, found, rfl⟩

theorem trans (first : before.Keeps middle) (second : middle.Keeps after) : before.Keeps after := by
  intro id workload found
  rcases first id workload found with ⟨current, there, same⟩
  rcases second id current there with ⟨left, known, still⟩
  exact ⟨left, known, still.trans same⟩

theorem has (keeps : before.Keeps after) (has : before.Has id) : after.Has id := by
  rcases has with ⟨workload, found⟩
  rcases keeps id workload found with ⟨left, there, _⟩
  exact ⟨left, there⟩

theorem knows (keeps : before.Keeps after) (knows : before.Knows name) : after.Knows name := by
  rcases knows with ⟨id, workload, found, rfl⟩
  rcases keeps id workload found with ⟨left, there, same⟩
  exact ⟨id, left, there, same⟩

theorem add {added : Instance} (joined : before.add added = .ok after) : before.Keeps after :=
  fun _ workload found => ⟨workload, found_add joined found, rfl⟩

theorem update {change : Instance → Instance}
    (named : ∀ workload, before.get? id = some workload → (change workload).name = workload.name) :
    before.Keeps (before.update id change) := by
  intro other workload found
  refine ⟨_, reworked_update.found found, ?_⟩
  split
  · rename_i here
    subst here
    exact named workload found
  · rfl

theorem setPodState {state : State} : before.Keeps (before.setPodState id state) := by
  intro other workload found
  refine ⟨_, reworked_setPodState.found found, ?_⟩
  split
  · rfl
  · rfl

end Keeps

/-! ## What is read off a registry -/

theorem names_of_permits {operation : Operation} {ids : List InstanceId}
    (known : ∀ id ∈ ids, registry.Has id) (refused : registry.permits operation ids = .error error) :
    registry.Names error := by
  induction ids with
  | nil => cases refused
  | cons first rest inductionHypothesis =>
      rcases List.forall_mem_cons.mp known with ⟨⟨workload, found⟩, others⟩
      by_cases permitted : workload.state ∈ operation.allowedStates
      · rw [permits, guarded_eq_ok_iff.mpr ⟨found, permitted⟩] at refused
        exact inductionHypothesis others refused
      · rw [permits, guarded_of_forbidden found permitted] at refused
        obtain rfl : workload.forbid operation = error := Except.error.inj refused
        exact ⟨_, rfl, knows_of_found found⟩

end Registry

theorem Instance.bare_of_container {workload : Instance} {error : Error}
    (failed : workload.container = .error error) : error = workload.violate .withoutImage := by
  rw [container] at failed
  split at failed
  · exact (Except.error.inj failed).symm
  · cases failed

/-- A pod that cannot be compiled has a member without an image. -/
theorem Pod.bare_of_compile {pod : Pod} {error : Error} (failed : pod.compile = .error error) :
    ∃ member ∈ pod.members, error = member.violate .withoutImage := by
  have containers {members : List Instance} (failed : members.mapM Instance.container = .error error) :
      ∃ member ∈ members, error = member.violate .withoutImage := by
    induction members with
    | nil => cases failed
    | cons first rest inductionHypothesis =>
        rw [List.mapM_cons] at failed
        rcases bind_eq_error_iff.mp failed with bare | ⟨_, _, onward⟩
        · exact ⟨first, List.mem_cons_self, Instance.bare_of_container bare⟩
        rcases bind_eq_error_iff.mp onward with others | ⟨_, _, impossible⟩
        · rcases inductionHypothesis others with ⟨member, listed, same⟩
          exact ⟨member, List.mem_cons_of_mem first listed, same⟩
        · cases impossible
  rcases bind_eq_error_iff.mp failed with unmade | ⟨_, _, impossible⟩
  · rcases bind_eq_error_iff.mp unmade with unmade | ⟨_, _, impossible⟩
    · exact containers unmade
    · cases impossible
  · cases impossible

theorem Registry.names_of_compile {registry : Registry} {settings : Settings} {parent : Instance}
    {error : Error} (known : registry.Knows parent.name) (kin : registry.HasKin parent)
    (failed : registry.compile settings parent = .error error) : registry.Names error := by
  rcases exists_mapM_find kin.2 with ⟨members, collected⟩
  rw [compile, pod, collected] at failed
  rcases Pod.bare_of_compile failed with ⟨member, listed, rfl⟩
  rcases List.mem_cons.mp listed with rfl | follows
  · exact ⟨_, rfl, known⟩
  · rcases (mem_of_mapM_find collected).mp follows with ⟨handle, _, found⟩
    exact ⟨_, rfl, knows_of_found found⟩

theorem Registry.names_of_podOwner {registry : Registry} {workload : Instance} {error : Error}
    (kin : registry.HasKin workload) (failed : registry.podOwner workload = .error error) :
    registry.Names error := by
  rw [podOwner] at failed
  cases attached : workload.parent with
  | none =>
      rw [attached] at failed
      cases failed
  | some parent =>
      rcases kin.1 parent attached with ⟨leader, found⟩
      rw [attached] at failed
      change (registry.find parent).map Instance.clusterName = .error error at failed
      rw [find_eq_ok_iff.mpr found] at failed
      cases failed

theorem Failure.instance?_of_during {failure : Failure} {name operation : String} :
    (failure.during name operation).instance? = some name := by
  cases failure with
  | words _ | error _ => rfl

/-- An error that has been told in the name of an instance names it. -/
theorem Error.instance?_of_mapError {relay : ε → Error} {reply : Except ε α} {error : Error}
    {name : String} (tells : ∀ cause, (relay cause).instance? = some name)
    (failed : reply.mapError relay = .error error) : error.instance? = some name := by
  cases reply with
  | error cause =>
      obtain rfl : relay cause = error := Except.error.inj failed
      exact tells cause
  | ok value => cases failed

namespace Action

variable {setup : Setup} {before middle after : Registry} {id : InstanceId} {workload : Instance}
  {name : String} {operation : Operation}

/-- Every course of an action keeps everybody, and if it fails, its error is accounted for. -/
def Attributes (setup : Setup) (before : Registry) (action : Action α) : Prop :=
  ∀ events result after, Course setup action before events result after →
    before.Keeps after ∧ ∀ error, result = .error error → after.Accounts events error

namespace Attributes

/-! ## Ends -/

/-- What is done at once and changes nothing names an instance if it fails. -/
theorem of_done {action : Action α} {value : Except Error α}
    (ended : action setup before = .done (value, before))
    (names : ∀ error, value = .error error → before.Names error) : Attributes setup before action := by
  intro events result after course
  rcases (course_of_done ended).mp course with ⟨rfl, rfl, rfl⟩
  exact ⟨.refl, fun error failed => Or.inl (names error failed)⟩

theorem of_pure {value : α} : Attributes setup before (pure value) :=
  of_done rfl fun _ impossible => nomatch impossible

theorem of_fail {error : Error} (known : before.Knows name) (about : error.instance? = some name) :
    Attributes setup before (fail error : Action α) := by
  refine of_done rfl fun _ failed => ?_
  obtain rfl := Except.error.inj failed
  exact ⟨name, about, known⟩

/-- A change of the registry is no failure. -/
theorem of_sure {action : Action α} {value : α}
    (ended : action setup before = .done (.ok value, middle)) (keeps : before.Keeps middle) :
    Attributes setup before action := by
  intro events result after course
  rcases (course_of_done ended).mp course with ⟨rfl, rfl, rfl⟩
  exact ⟨keeps, fun _ impossible => nomatch impossible⟩

theorem of_update {change : Instance → Instance}
    (named : ∀ workload, before.get? id = some workload → (change workload).name = workload.name) :
    Attributes setup before (update id change) :=
  of_sure rfl (.update named)

/-! ## Sequences -/

variable {next : α → Action β}

theorem bind {action : Action α} (first : Attributes setup before action)
    (rest : ∀ {value middle events}, Course setup action before events (.ok value) middle →
      before.Keeps middle → Attributes setup middle (next value)) :
    Attributes setup before (action >>= next) := by
  intro events result after course
  rcases course_bind.mp course with
    ⟨error, rfl, stopped⟩ | ⟨value, middle, earlier, later, rfl, started, ended⟩
  · rcases first _ _ _ stopped with ⟨keeps, accounts⟩
    refine ⟨keeps, fun other same => ?_⟩
    obtain rfl := Except.error.inj same
    exact accounts _ rfl
  · have kept := (first _ _ _ started).1
    rcases rest started kept _ _ _ ended with ⟨keeps, accounts⟩
    exact ⟨kept.trans keeps, fun error failed => (accounts error failed).prepend⟩

/-- An action that is done at once and changes nothing leaves the rest. -/
theorem done_bind {action : Action α} {value : Except Error α}
    (ended : action setup before = .done (value, before))
    (names : ∀ error, value = .error error → before.Names error)
    (rest : ∀ found, value = .ok found → Attributes setup before (next found)) :
    Attributes setup before (action >>= next) := by
  refine (of_done ended names).bind fun {found middle events} course _ => ?_
  rcases (course_of_done ended).mp course with ⟨_, same, rfl⟩
  exact rest found same.symm

theorem ofExcept_bind {found : Except Error α} (known : before.Knows name)
    (about : ∀ error, found = .error error → error.instance? = some name)
    (rest : ∀ value, found = .ok value → Attributes setup before (next value)) :
    Attributes setup before (ofExcept found >>= next) :=
  done_bind (ofExcept_eq found) (fun error failed => ⟨name, about error failed, known⟩) rest

theorem find_bind {next : Instance → Action β} (found : before.get? id = some workload)
    (rest : Attributes setup before (next workload)) :
    Attributes setup before (find id >>= next) := by
  have ended : find id setup before = .done (.ok workload, before) := by
    rw [find_eq, Registry.find_eq_ok_iff.mpr found]
  refine done_bind ended (fun _ impossible => nomatch impossible) fun value same => ?_
  exact Except.ok.inj same ▸ rest

theorem guarded_bind {next : Instance → Action β} (found : before.get? id = some workload)
    (rest : Attributes setup before (next workload)) :
    Attributes setup before (guarded id operation >>= next) := by
  by_cases permitted : workload.state ∈ operation.allowedStates
  · refine done_bind (guarded_eq id operation) ?_ ?_
    · rw [Registry.guarded_eq_ok_iff.mpr ⟨found, permitted⟩]
      exact fun _ impossible => nomatch impossible
    · rw [Registry.guarded_eq_ok_iff.mpr ⟨found, permitted⟩]
      exact fun value same => Except.ok.inj same ▸ rest
  · refine of_done (guarded_bind_of_forbidden found permitted) fun error same => ?_
    obtain rfl := Except.error.inj same
    exact ⟨_, rfl, Registry.knows_of_found found⟩

theorem ensureNoSidecar_bind {next : Unit → Action β} (known : before.Knows workload.name)
    (rest : Attributes setup before (next ())) :
    Attributes setup before (ensureNoSidecar workload operation >>= next) := by
  refine bind ?_ fun course _ => ?_
  · unfold ensureNoSidecar
    split
    · exact of_fail known rfl
    · exact of_pure
  · rcases reads_ensureNoSidecar _ _ course with ⟨rfl, _⟩
    exact rest

theorem guardSidecars_bind {next : Unit → Action β} {ids : List InstanceId}
    (known : ∀ id ∈ ids, before.Has id) (rest : Attributes setup before (next ())) :
    Attributes setup before (guardSidecars operation ids >>= next) :=
  done_bind (guardSidecars_eq operation ids) (fun _ => Registry.names_of_permits known) fun _ _ => rest

theorem podOwner_bind {next : String → Action β} (kin : before.HasKin workload)
    (rest : ∀ owner, Attributes setup before (next owner)) :
    Attributes setup before (podOwner workload >>= next) :=
  done_bind (podOwner_eq workload) (fun _ => Registry.names_of_podOwner kin) fun owner _ => rest owner

theorem compile_bind {next : CompiledPod → Action β} (known : before.Knows workload.name)
    (kin : before.HasKin workload) (rest : ∀ compiled, Attributes setup before (next compiled)) :
    Attributes setup before (compile workload >>= next) :=
  done_bind (compile_eq workload) (fun _ => Registry.names_of_compile known kin)
    fun compiled _ => rest compiled

theorem settings_bind {next : Settings → Action β}
    (rest : Attributes setup before (next setup.settings)) :
    Attributes setup before (settings >>= next) :=
  rest

theorem registry_bind {next : Registry → Action β} (rest : Attributes setup before (next before)) :
    Attributes setup before (registry >>= next) :=
  rest

theorem setup_bind {next : Setup → Action β} (rest : Attributes setup before (next setup)) :
    Attributes setup before (Action.setup >>= next) :=
  rest

/-! ## Requests and waits -/

theorem of_ask {request : Request} : Attributes setup before (ask request) := by
  intro events result after course
  rcases course_ask.mp course with ⟨reply, rfl, rfl, rfl⟩
  exact ⟨.refl, fun _ impossible => nomatch impossible⟩

theorem ask_bind {request : Request} {next : request.Reply → Action β}
    (rest : ∀ reply, Attributes setup before (next reply)) :
    Attributes setup before (ask request >>= next) := by
  refine of_ask.bind fun course _ => ?_
  rcases course_ask.mp course with ⟨reply, _, _, rfl⟩
  exact rest _

theorem of_cluster {request : ClusterRequest} (known : before.Knows name) :
    Attributes setup before (cluster name operation request) := by
  refine ask_bind fun reply => of_done (ofExcept_eq _) fun error failed => ?_
  exact ⟨name, Error.instance?_of_mapError (fun _ => rfl) failed, known⟩

theorem cluster_bind {request : ClusterRequest} {next : request.Value → Action β}
    (known : before.Knows name) (rest : ∀ value, Attributes setup before (next value)) :
    Attributes setup before (cluster name operation request >>= next) := by
  refine (of_cluster known).bind fun course _ => ?_
  rcases course_cluster.mp course with ⟨reply, _, _, rfl⟩
  exact rest _

theorem of_image {request : ImageRequest} (known : before.Knows name) :
    Attributes setup before (image name operation request) := by
  refine ask_bind fun reply => of_done (ofExcept_eq _) fun error failed => ?_
  exact ⟨name, Error.instance?_of_mapError (fun _ => Failure.instance?_of_during) failed, known⟩

theorem image_bind {request : ImageRequest} {next : request.Value → Action β}
    (known : before.Knows name) (rest : ∀ value, Attributes setup before (next value)) :
    Attributes setup before (image name operation request >>= next) := by
  refine (of_image known).bind fun course _ => ?_
  rcases course_image.mp course with ⟨reply, _, _, rfl⟩
  exact rest _

/-- A wait runs out of time in the name of its instance, and fails with the failure of a look. -/
theorem of_await {condition : Condition} {timeout : Option Duration} (known : before.Knows name) :
    Attributes setup before (await name operation condition timeout) := by
  intro events result after course
  rcases course_await.mp course with ⟨outcome, elapsed, rfl, rfl, rfl⟩
  refine ⟨.refl, fun error failed => ?_⟩
  cases outcome with
  | met => cases failed
  | expired =>
      obtain rfl := Except.error.inj failed
      exact Or.inl ⟨name, rfl, known⟩
  | failed cause =>
      obtain rfl := Except.error.inj failed
      exact Or.inr ⟨[], _, rfl, Or.inr ⟨condition, rfl⟩⟩

theorem await_bind {condition : Condition} {timeout : Option Duration} {next : Unit → Action β}
    (known : before.Knows name) (rest : ∀ value, Attributes setup before (next value)) :
    Attributes setup before (await name operation condition timeout >>= next) := by
  refine (of_await known).bind fun course _ => ?_
  rcases course_await.mp course with ⟨_, _, _, _, rfl⟩
  exact rest _

theorem of_connect {pod : String} {localPort remotePort : UInt16} {policy : RetryPolicy}
    {value : RetryOutcome Error Unit → Duration → α} :
    Attributes setup before (lift (.connect pod localPort remotePort policy fun outcome elapsed =>
      .done (value outcome elapsed))) := by
  intro events result after course
  rcases Program.course_bind.mp course with ⟨ended, earlier, later, rfl, tried, rest⟩
  rcases Program.course_done.mp rest with ⟨rfl, same⟩
  cases same
  exact ⟨.refl, fun _ impossible => nomatch impossible⟩

/-- Whoever asks for a name in the cluster is refused, or joins. -/
theorem register_bind {next : InstanceId → Action β} (make : InstanceId → String → Instance)
    (rest : ∀ {clusterName grown}, before.add (make before.nextId clusterName) = .ok grown →
      Attributes setup grown (next before.nextId)) :
    Attributes setup before
      ((do
        let clusterName ← ofExcept (← ask (.clusterName name))
        let registry ← registry
        setRegistry (← registry.add (make registry.nextId clusterName))
        return registry.nextId) >>= next) := by
  intro events result after course
  rcases course_register_bind make course with
    ⟨error, reply, rfl, rfl, rfl, _⟩ | ⟨clusterName, grown, later, rfl, joined, onward⟩
  · refine ⟨.refl, fun other same => ?_⟩
    exact Or.inr ⟨[], _, rfl, Or.inl rfl⟩
  · rcases rest joined _ _ _ onward with ⟨keeps, accounts⟩
    refine ⟨(Registry.Keeps.add joined).trans keeps, fun error failed => ?_⟩
    have last := accounts error failed
    exact (last.prepend : after.Accounts ([_] ++ later) error)

end Attributes
end Action
end Testbed
