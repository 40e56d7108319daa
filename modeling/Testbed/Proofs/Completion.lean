import Testbed.Proofs.Turn.Inject

namespace Testbed

/-!
# Injections that are completed

Once the instance of an injection has been registered, the builder of images is all that can still fail:
what is asked of the new instance is in order, whatever its parent wishes for, and it fits its parent.
So if nothing about images fails, an injection either leaves the registry as it was, because no name was
given, or it enlists an attendant.
-/

/-- Whether an event is that something about an image has failed. -/
def Event.failsToBuild : Event → Bool
  | asked (.image _) (.error _) => true
  | _ => false

/-- Whether a cluster name is the first thing that was given. -/
def Event.Names (clusterName : String) (events : List Event) : Prop :=
  ∃ name later, events = .asked (.clusterName name) (.ok clusterName) :: later

/-- Whether only a name was asked for, and none was given that is free. -/
def Registry.LacksName (registry : Registry) (events : List Event) : Prop :=
  ∃ name reply, events = [.asked (.clusterName name) reply] ∧
    ∀ clusterName, reply = .ok clusterName → registry.hasClusterName clusterName = true

/-! ## Edits that can be made -/

/-- Whether each of some edits can be made after those before it. -/
def Instance.Bears (workload : Instance) : List Edit → Prop
  | [] => True
  | first :: rest =>
    workload.edit first = .ok (first.change workload) ∧ (first.change workload).Bears rest

namespace Instance

variable {workload : Instance} {earlier later : List Edit}

theorem bears_append :
    workload.Bears (earlier ++ later) ↔
      workload.Bears earlier ∧ (earlier.foldl Edit.change workload).Bears later := by
  induction earlier generalizing workload with
  | nil => exact (and_iff_right trivial).symm
  | cons first rest inductionHypothesis =>
      rw [List.cons_append, Bears, Bears, inductionHypothesis, and_assoc]
      rfl

theorem state_foldl_change (edits : List Edit) :
    (edits.foldl Edit.change workload).state = workload.state :=
  Attendant.foldl_change Instance.state edits workload fun edit _ workload =>
    (edit.change_keeps workload).1

/-- A committed instance bears an edit that breaks no rule. -/
theorem edit_of_committed {edit : Edit} (committed : workload.state = .committed)
    (describes : edit.operation.allowedStates = Operation.descriptive)
    (sound : edit.fault? workload = none) : workload.edit edit = .ok (edit.change workload) := by
  refine edit_eq_ok_iff.mpr ⟨?_, sound, rfl⟩
  rw [committed, describes]
  decide

/-- Ports can be added once each if they are ports and none of them is taken. -/
theorem bears_ports (add : UInt16 → Edit) (ports : Instance → List UInt16)
    (describes : ∀ {port}, (add port).operation.allowedStates = Operation.descriptive)
    (accepts : ∀ {workload : Instance} {port}, port ≠ 0 → port ∉ ports workload →
      (add port).fault? workload = none)
    (appends : ∀ {workload : Instance} {port},
      ports ((add port).change workload) = ports workload ++ [port])
    {workload : Instance} (committed : workload.state = .committed) (listed : List UInt16)
    (sound : ∀ port ∈ listed, port ≠ 0) (free : ∀ port ∈ listed, port ∉ ports workload) :
    workload.Bears (listed.eraseDups.map add) := by
  match listed, sound, free with
  | [], _, _ => exact trivial
  | first :: rest, sound, free =>
      rw [List.eraseDups_cons, List.map_cons]
      have single := accepts (sound _ (.head _)) (free _ (.head _))
      have stays := ((add first).change_keeps workload).1.trans committed
      refine ⟨edit_of_committed committed describes single, ?_⟩
      refine bears_ports add ports describes accepts appends stays _ ?_ ?_
      · intro port member
        exact sound port (.tail _ (List.mem_filter.mp member).1)
      · intro port member taken
        rcases List.mem_filter.mp member with ⟨later, other⟩
        rw [appends] at taken
        rcases List.mem_append.mp taken with taken | same
        · exact free port (.tail _ later) taken
        · rw [List.mem_singleton.mp same, beq_self_eq_true] at other
          cases other
termination_by listed.length
decreasing_by exact Nat.lt_succ_of_le (List.length_filter_le _ _)

theorem bears_collectorEdits {config : Observability} (committed : workload.state = .committed)
    (tcpFree : workload.tcpPorts = []) (udpFree : workload.udpPorts = []) :
    workload.Bears (Action.collectorEdits config) := by
  have sound {ports : List UInt16} : ∀ port ∈ ports.filter (· != 0), port ≠ 0 :=
    fun port member => bne_iff_ne.mp (List.mem_filter.mp member).2
  refine ⟨edit_of_committed committed rfl rfl, bears_append.mpr ⟨?_, ?_⟩⟩
  · refine bears_ports .addTcpPort Instance.tcpPorts rfl ?_ rfl ?_ _ sound fun port _ taken => ?_
    · intro workload port nonzero free
      simp [Edit.fault?, nonzero, free]
    · exact committed
    · exact List.not_mem_nil (tcpFree ▸ taken)
  · refine bears_ports .addUdpPort Instance.udpPorts rfl ?_ rfl ?_ _ sound fun port _ taken => ?_
    · intro workload port nonzero free
      simp [Edit.fault?, nonzero, free]
    · exact (state_foldl_change _).trans committed
    · rw [Attendant.foldl_change Instance.udpPorts] at taken
      · exact List.not_mem_nil (udpFree ▸ taken)
      · intro edit member workload
        rcases List.mem_map.mp member with ⟨port, _, rfl⟩
        rfl

theorem bears_shapingEdits {port : UInt16} (committed : workload.state = .committed)
    (free : workload.tcpPorts = []) (nonzero : port ≠ 0) :
    workload.Bears (Action.shapingEdits port) := by
  refine ⟨edit_of_committed committed rfl rfl, edit_of_committed committed rfl rfl,
    edit_of_committed committed rfl ?_, edit_of_committed committed rfl ?_, trivial⟩
  · simp [Edit.fault?, Edit.change, nonzero, free]
  · rw [Edit.fault?]
    rfl

/-- Whether an instance is what a start has found it to be, but for attendants that it has since got. -/
structure StandsFor (current parent : Instance) : Prop where
  name : current.name = parent.name
  wishes : current.wishes = parent.wishes
  leads : current.parent = none
  describable : current.state ∈ Operation.descriptive
  port : current.fault.port ≠ 0

/-- An instance that gets an attendant goes on to stand for what it was. -/
theorem StandsFor.note {role : Attendant} {current parent : Instance} {sidecars : List InstanceId}
    {handle : InstanceId} {clusterName : String} (stands : current.StandsFor parent) :
    StandsFor (role.note handle clusterName { current with sidecars }) parent := by
  rcases stands with ⟨name, wishes, leads, describable, port⟩
  cases role with
  | collector | shaper => exact ⟨name, wishes, leads, describable, port⟩

end Instance

namespace Action

variable {setup : Setup} {before : Registry} {made : Instance} {ended : Registry → Prop}

/-! ## Actions that are completed -/

/-- Every course of an action in which nothing about images fails, in a registry that an instance has
joined last, succeeds and leaves a registry with a property. -/
def Completes (setup : Setup) (before : Registry) (made : Instance) (action : Action β)
    (ended : Registry → Prop) : Prop :=
  ∀ grown events result after, before.add made = .ok grown →
    Course setup action grown events result after → (∀ event ∈ events, event.failsToBuild = false) →
    (∃ value, result = .ok value) ∧ ended after

/-- What an action makes of the last instance is said by `Forms`; here it is only added that it does. -/
theorem Completes.bind {action : Action α} {next : α → Action β}
    {between : List Event → Instance → Prop} (sure : Completes setup before made action fun _ => True)
    (first : Forms setup before made action between)
    (rest : ∀ {formed events value}, between events formed →
      Completes setup before formed (next value) ended) :
    Completes setup before made (action >>= next) ended := by
  intro grown events result after joined course built
  rcases course_bind.mp course with
    ⟨error, rfl, stopped⟩ | ⟨value, middle, earlier, later, rfl, started, onward⟩
  · rcases sure _ _ _ _ joined stopped built with ⟨⟨_, impossible⟩, _⟩
    cases impossible
  · rcases List.forall_mem_append.mp built with ⟨_, late⟩
    rcases first _ _ _ _ joined started with ⟨_, formed, stays, _, holds⟩
    exact rest (holds value rfl) _ _ _ _ stays onward late

theorem Completes.done_bind {action : Action α} {next : α → Action β} {value : α}
    (ends : ∀ {grown}, before.add made = .ok grown → action setup grown = .done (.ok value, grown))
    (rest : Completes setup before made (next value) ended) :
    Completes setup before made (action >>= next) ended := by
  intro grown events result after joined course built
  rw [Course, bind_of_done (ends joined)] at course
  exact rest _ _ _ _ joined course built

theorem Completes.ofExcept_bind {found : Except Error α} {next : α → Action β} {value : α}
    (known : found = .ok value) (rest : Completes setup before made (next value) ended) :
    Completes setup before made (Action.ofExcept found >>= next) ended :=
  .done_bind (fun _ => (ofExcept_eq found).trans (by rw [known])) rest

theorem Completes.find_bind {next : Instance → Action β}
    (rest : Completes setup before made (next made) ended) :
    Completes setup before made (find before.nextId >>= next) ended := by
  refine .done_bind (fun joined => (find_eq _).trans ?_) rest
  rw [Registry.find_eq_ok_iff.mpr (found_last joined)]

theorem Completes.guarded_bind {operation : Operation} {next : Instance → Action β}
    (permitted : made.state ∈ operation.allowedStates)
    (rest : Completes setup before made (next made) ended) :
    Completes setup before made (guarded before.nextId operation >>= next) ended := by
  refine .done_bind (fun joined => (guarded_eq _ _).trans ?_) rest
  rw [Registry.guarded_eq_ok_iff.mpr ⟨found_last joined, permitted⟩]

theorem Completes.ask_bind {request : Request} {next : request.Reply → Action β}
    (rest : ∀ reply, Completes setup before made (next reply) ended) :
    Completes setup before made (ask request >>= next) ended := by
  intro grown events result after joined course built
  rcases course_ask_bind.mp course with ⟨reply, later, rfl, onward⟩
  exact rest reply _ _ _ _ joined onward (List.forall_mem_cons.mp built).2

theorem Completes.image_bind {name : String} {operation : Operation} {request : ImageRequest}
    {next : request.Value → Action β}
    (rest : ∀ value, Completes setup before made (next value) ended) :
    Completes setup before made (image name operation request >>= next) ended := by
  intro grown events result after joined course built
  rcases course_image_bind.mp course with ⟨failure, rfl, _, _⟩ | ⟨value, later, rfl, onward⟩
  · cases built _ (.head _)
  · exact rest value _ _ _ _ joined onward (List.forall_mem_cons.mp built).2

theorem completes_pure {value : β} : Completes setup before made (pure value) fun _ => True := by
  intro grown events result after joined course built
  rcases course_pure.mp course with ⟨_, rfl, _⟩
  exact ⟨⟨value, rfl⟩, trivial⟩

theorem completes_ask {request : Request} :
    Completes setup before made (ask request) fun _ => True := by
  intro grown events result after joined course built
  rcases course_ask.mp course with ⟨reply, _, rfl, _⟩
  exact ⟨⟨reply, rfl⟩, trivial⟩

theorem completes_update {id : InstanceId} {change : Instance → Instance} :
    Completes setup before made (update id change) fun _ => True := by
  intro grown events result after joined course built
  rcases course_update.mp course with ⟨_, rfl, _⟩
  exact ⟨⟨(), rfl⟩, trivial⟩

/-! ## What is asked of the last instance -/

theorem completes_setImage {reference : String} (created : made.state = .created) :
    Completes setup before made (setImage before.nextId reference) fun _ => True := by
  refine .guarded_bind ?_ ?_
  · rw [created]
    exact .head _
  · rw [if_neg (by rw [created]; exact nofun)]
    exact .image_bind fun context => completes_update

theorem completes_pushedImage {name : String} {context : ContextId} :
    Completes setup before made (pushedImage name context) fun _ => True := by
  refine .image_bind fun hash => .ask_bind fun recorded => ?_
  cases recorded with
  | some recorded => exact completes_pure
  | none =>
      refine .done_bind (fun _ => rfl) (.ask_bind fun tag => ?_)
      exact .image_bind fun _ => completes_ask

theorem completes_commit {context : ContextId} (preparing : made.state = .preparing)
    (prepared : made.context = some context) :
    Completes setup before made (commit before.nextId) fun _ => True := by
  refine .guarded_bind ?_ ?_
  · rw [preparing]
    exact .head _
  rw [prepared]
  refine .ask_bind fun changed => ?_
  cases changed with
  | true => exact .bind completes_pushedImage forms_pushedImage fun _ => completes_update
  | false => exact .ask_bind fun reference => completes_update

theorem completes_addFileBytes {contents : List UInt8} {destination owner : String} {group : Int64}
    (committed : made.state = .committed) (checked : made.checkFile destination owner = .ok group) :
    Completes setup before made (addFileBytes before.nextId contents destination owner)
      fun _ => True := by
  refine .guarded_bind ?_ (.find_bind (.ofExcept_bind checked ?_))
  · rw [committed]
    exact .tail _ (.head _)
  · rw [if_neg (by rw [committed]; exact nofun)]
    exact completes_update

theorem completes_editAll {edits : List Edit} (bears : made.Bears edits) :
    Completes setup before made (editAll before.nextId edits) fun _ => True := by
  induction edits generalizing made with
  | nil => exact completes_pure
  | cons first rest inductionHypothesis =>
      rcases bears with ⟨edited, onward⟩
      have single : Completes setup before made (edit before.nextId first) fun _ => True :=
        .find_bind (.ofExcept_bind edited completes_update)
      refine .bind single forms_edit fun same => ?_
      rcases same with ⟨_, rfl⟩
      exact inductionHypothesis onward

/-! ## Injections -/

section Injections

variable {role : Attendant} {current parent : Instance} {id : InstanceId} {after : Registry}
  {events : List Event}

/-- What an injection can have become: an attendant is made, joins under a name and is enlisted. -/
def Joins (role : Attendant) (id : InstanceId) (current : Instance) (clusterName : String)
    (before after : Registry) : Prop :=
  ∃ grown image context,
    before.add (role.made current before.nextId clusterName image context) = .ok grown ∧
      after = grown.enlist role id before.nextId clusterName

/-- A parent that gets an attendant goes on to stand for what it was, and no other attendant is noted. -/
theorem Joins.stands {clusterName : String} (joins : Joins role id current clusterName before after)
    (found : before.get? id = some current) (stands : current.StandsFor parent) :
    ∃ left, after.get? id = some left ∧ left.StandsFor parent ∧
      ∀ other ≠ role, other.isNoted left = other.isNoted current := by
  rcases joins with ⟨grown, image, context, joined, rfl⟩
  refine ⟨_, Registry.get?_enlist_self (Registry.found_add joined found) (Registry.ne_nextId found),
    stands.note, fun other apart => ?_⟩
  rw [Attendant.isNoted_note apart]
  exact Attendant.isNoted_congr rfl rfl rfl

/-- An attachment that nothing speaks against is made. -/
theorem addSidecar_eq {registry : Registry} {sidecar : InstanceId} {candidate : Instance}
    (found : registry.get? id = some parent) (describable : parent.state ∈ Operation.descriptive)
    (apart : sidecar ≠ id) (joining : registry.get? sidecar = some candidate)
    (fit : attachmentFault? parent candidate = none) :
    addSidecar id sidecar setup registry = .done (.ok (), registry.attach id sidecar) := by
  have permitted : parent.state ∈ Operation.addSidecar.allowedStates := describable
  have passes : guarded id .addSidecar setup registry = .done (.ok parent, registry) := by
    rw [guarded_eq, Registry.guarded_eq_ok_iff.mpr ⟨found, permitted⟩]
  rw [addSidecar, bind_of_done passes, bind_of_done rfl, joining]
  dsimp only
  rw [if_neg apart, fit]
  rfl

theorem state_made {clusterName image : String} {context : ContextId} :
    (role.made current id clusterName image context).state = .committed := by
  cases role with
  | collector => exact Instance.state_foldl_change _
  | shaper => rfl

theorem completes_enlist {clusterName image : String} {context : ContextId}
    (found : before.get? id = some current) (stands : current.StandsFor parent) :
    Completes setup before (role.made current before.nextId clusterName image context)
      (addSidecar id before.nextId >>= fun _ =>
        update id fun current => role.note before.nextId clusterName current)
      (Joins role id current clusterName before) := by
  intro grown events result after joined course built
  have links : (role.made current before.nextId clusterName image context).links = _ :=
    congrArg Bonds.links Attendant.bonds_made
  have fit : attachmentFault? current (role.made current before.nextId clusterName image context) =
      none :=
    attachmentFault?_eq_none_iff.mpr
      ⟨state_made, stands.leads, congrArg Links.parent links, congrArg Links.sidecars links⟩
  have attached : addSidecar id before.nextId setup grown =
      .done (.ok (), grown.attach id before.nextId) :=
    addSidecar_eq (Registry.found_add joined found) stands.describable
      (Registry.ne_nextId found).symm (found_last joined) fit
  rw [Course, bind_of_done attached] at course
  rcases course_update.mp course with ⟨_, rfl, rfl⟩
  exact ⟨⟨(), rfl⟩, grown, image, context, joined, rfl⟩

/-- A creation is refused before anything has joined, for want of a free name, or it succeeds. -/
theorem course_createCommitted_bind {name reference : String} {next : InstanceId → Action β}
    {result : Except Error β} {ended : String → Registry → Prop}
    (rest : ∀ {clusterName image context}, Completes setup before
      { id := before.nextId, name, clusterName, state := .committed, image := some image,
        context := some context } (next before.nextId) (ended clusterName))
    (course : Course setup (createCommitted name reference >>= next) before events result after)
    (built : ∀ event ∈ events, event.failsToBuild = false) :
    (after = before ∧ before.LacksName events) ∨
      ∃ clusterName, Event.Names clusterName events ∧ (∃ value, result = .ok value) ∧
        ended clusterName after := by
  rw [createCommitted, bind_assoc] at course
  rcases course_register_bind (fun id clusterName => { id, name, clusterName }) course with
    ⟨_, reply, _, rfl, same, taken⟩ | ⟨clusterName, grown, later, rfl, joined, onward⟩
  · exact Or.inl ⟨same, name, reply, rfl, taken⟩
  have completes : Completes setup before { id := before.nextId, name, clusterName }
      ((do
        setImage before.nextId reference
        commit before.nextId
        return before.nextId) >>= next) (ended clusterName) := by
    rw [bind_assoc]
    refine .bind (completes_setImage rfl) (forms_setImage rfl) fun opened => ?_
    rcases opened with ⟨context, _, rfl⟩
    rw [bind_assoc]
    refine .bind (completes_commit rfl rfl) (forms_commit rfl) fun committed => ?_
    rcases committed with ⟨changed, image, talk, _, _, rfl⟩
    exact rest
  have ending := completes _ _ _ _ joined onward (List.forall_mem_cons.mp built).2
  exact Or.inr ⟨clusterName, ⟨name, later, rfl⟩, ending⟩

/-- If nothing about images fails, an injection leaves the registry as it was for want of a free name, or
succeeds and enlists an attendant. -/
theorem course_inject {result : Except Error Unit} (found : before.get? parent.id = some current)
    (stands : current.StandsFor parent)
    (course : Course setup (inject role parent) before events result after)
    (built : ∀ event ∈ events, event.failsToBuild = false) :
    (after = before ∧ before.LacksName events) ∨
      ∃ clusterName, Event.Names clusterName events ∧ (∃ value, result = .ok value) ∧
        Joins role parent.id current clusterName before after := by
  have ending {clusterName image : String} {context : ContextId} :
      Completes setup before (role.made parent before.nextId clusterName image context)
        (addSidecar parent.id before.nextId >>= fun _ =>
          update parent.id fun current => role.note before.nextId clusterName current)
        (Joins role parent.id current clusterName before) := by
    have made : role.made parent before.nextId clusterName image context =
        role.made current before.nextId clusterName image context := by
      rw [Attendant.made, Attendant.made, stands.name, stands.wishes]
    rw [made]
    exact completes_enlist found stands
  cases role with
  | collector =>
      refine course_createCommitted_bind ?_ (course_settings_bind.mp course) built
      intro clusterName image context
      refine .bind (completes_addFileBytes rfl rfl) (forms_addFileBytes rfl) fun filed => ?_
      rcases filed with ⟨_, group, checked, rfl⟩
      obtain rfl : 0 = group := Except.ok.inj checked
      refine .bind (completes_editAll (Instance.bears_collectorEdits rfl rfl rfl)) (forms_editAll _)
        fun edited => ?_
      rcases edited with ⟨_, rfl⟩
      exact ending
  | shaper =>
      refine course_createCommitted_bind ?_ (course_settings_bind.mp course) built
      intro clusterName image context
      have same : current.fault.port = parent.fault.port := congrArg Wishes.port stands.wishes
      have nonzero : parent.fault.port ≠ 0 := same ▸ stands.port
      refine .bind (completes_editAll (Instance.bears_shapingEdits rfl rfl nonzero)) (forms_editAll _)
        fun edited => ?_
      rcases edited with ⟨_, rfl⟩
      exact .find_bind ending

end Injections
end Action
end Testbed
