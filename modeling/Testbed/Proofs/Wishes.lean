import Testbed.Proofs.Attendance

namespace Testbed

/-!
# Whether wishes are served

A first start reads the wishes of its instance and injects what is wanted.  If it fails later on, the
attendants are there and the instance can still be edited; the start that is tried again does not look
at the attendants a second time.  So what they serve are the wishes at the time of their injection.
These are the wishes of the instance that is started in the end if nobody has edited them since, and
nobody has described the attendants themselves.
-/

/-- Whether every call that is made once an attendant has been enlisted for an instance is of some kind,
which may depend on the attendant. -/
def OnceEnlisted (setup : Setup) (role : Attendant) (id : InstanceId)
    (what : InstanceId → Call → Prop) (history : List Record) : Prop :=
  ∀ earlier record before handle, earlier ++ [record] <+: history →
    Enlisted setup role id handle earlier before → what handle record.call

namespace OnceEnlisted

variable {setup : Setup} {role : Attendant} {id : InstanceId} {what : InstanceId → Call → Prop}
  {history : List Record}

theorem of_append {later : List Record}
    (once : OnceEnlisted setup role id what (history ++ later)) :
    OnceEnlisted setup role id what history :=
  fun earlier record before handle leads =>
    once earlier record before handle (leads.trans (List.prefix_append _ _))

theorem concat (once : OnceEnlisted setup role id what history) (record : Record)
    (last : ∀ before handle, Enlisted setup role id handle history before → what handle record.call) :
    OnceEnlisted setup role id what (history ++ [record]) := by
  intro earlier next before handle leads enlisted
  rcases List.prefix_concat_iff.mp leads with whole | shorter
  · rcases List.append_inj' whole rfl with ⟨rfl, same⟩
    rcases List.singleton_inj.mp same with rfl
    exact last before handle enlisted
  · exact once earlier next before handle shorter enlisted

/-- No call is made once an attendant has been enlisted if the instance is not started before the last
of all calls. -/
theorem of_unstarted (unstarted : ∀ record ∈ history.dropLast, record.call.startOf? ≠ some id) :
    OnceEnlisted setup role id what history := by
  intro earlier record before handle leads enlisted
  rcases enlisted.exists_record with ⟨start, member, _, _, ⟨starts, _⟩, _⟩
  have within : earlier <+: history.dropLast := by
    rcases leads with ⟨later, rfl⟩
    rw [List.append_assoc, List.singleton_append,
      List.dropLast_append_of_ne_nil (List.cons_ne_nil record later)]
    exact List.prefix_append _ _
  exact absurd starts (unstarted start (within.subset member))

end OnceEnlisted

/-- A call that does not describe an instance. -/
def Call.Spares (handle : InstanceId) (call : Call) : Prop :=
  call.describes? ≠ some handle

/-- A call that does not edit the wishes of an instance. -/
def Call.KeepsWishes (id : InstanceId) (call : Call) : Prop :=
  ∀ change, call = .edit id change → ¬ change.IsWish

variable {setup : Setup} {history : List Record} {before after registry : Registry} {call : Call}
  {events : List Event} {result : Except Error call.Value} {role : Attendant} {id handle : InstanceId}
  {workload : Instance}

/-- As long as its parent's wishes are kept and nobody describes it, an attendant serves the wishes. -/
theorem Enlisted.isServed (enlisted : Enlisted setup role id handle history registry)
    (spared : OnceEnlisted setup role id Call.Spares history)
    (kept : OnceEnlisted setup role id (fun _ => Call.KeepsWishes id) history) :
    registry.IsServed setup.settings (Event.Genuine (eventsOf history)) role id handle := by
  induction enlisted with
  | now reached course enlisting =>
      have linked := reached.invariant.1
      have enlists := ((Call.turn linked course).enlists linked enlisting.1 enlisting.2).2
      refine enlists.served.mono fun genuine => ?_
      rw [eventsOf_concat] at genuine
      exact genuine.of_append.2
  | earlier enlisted course inductionHypothesis =>
      have served := inductionHypothesis spared.of_append kept.of_append
      have lasts := (Call.turn enlisted.reached.invariant.1 course).lasts
      have sparing := spared _ _ _ _ (List.prefix_refl _) enlisted
      have keeping := kept _ _ _ _ (List.prefix_refl _) enlisted
      refine (served.lasts lasts sparing keeping).mono fun genuine => ?_
      rw [eventsOf_concat] at genuine
      exact genuine.of_append.1

/-- A start describes nobody and edits nothing. -/
theorem Call.spares_of_start (starts : call.startOf? = some id) (handle : InstanceId) :
    call.Spares handle ∧ call.KeepsWishes handle := by
  constructor
  · cases call with
    | start | startWithoutWait => exact fun impossible => nomatch impossible
    | _ => cases starts
  · rintro change rfl
    cases starts

/-- Whenever a start succeeds with a committed instance, the instance has an attendant in a role if and
only if it wants one, and the attendant serves its wishes: provided that since an attendant was enlisted
nobody has described it, and nobody has edited the wishes.  If images are found to be what they are
opened as, the attendant has the image that it is to have. -/
theorem wishes_of_start (reached : Reaches setup history before)
    (course : Action.Course setup call.perform before events result after)
    (starts : call.startOf? = some id) (succeeded : result.isOk = true)
    (found : before.get? id = some workload) (committed : workload.state = .committed)
    (spared : OnceEnlisted setup role id Call.Spares history)
    (kept : OnceEnlisted setup role id (fun _ => Call.KeepsWishes id) history) :
    ∃ left, after.get? id = some left ∧ left.wishes = workload.wishes ∧
      ((∃ handle, Enlisted setup role id handle (history ++ [⟨call, events, result⟩]) after) ↔
        role.isWanted left.wishes = true) ∧
      ∀ handle, Enlisted setup role id handle (history ++ [⟨call, events, result⟩]) after →
        ∃ sidecar, after.get? handle = some sidecar ∧ handle ∈ left.sidecars ∧
          role.Serves left.wishes sidecar ∧
          (Event.Genuine (eventsOf history ++ events) →
            sidecar.image = some (role.imageFor setup.settings left.wishes)) := by
  have turn := Call.turn reached.invariant.1 course
  rcases turn.lasts id workload found with ⟨left, there, later⟩
  have wishes : left.wishes = workload.wishes := later.wishes (Call.spares_of_start starts id).2
  have served {handle : InstanceId}
      (enlisted : Enlisted setup role id handle (history ++ [⟨call, events, result⟩]) after) :
      role.isWanted left.wishes = true ∧ ∃ sidecar, after.get? handle = some sidecar ∧
        handle ∈ left.sidecars ∧ role.Serves left.wishes sidecar ∧
        (Event.Genuine (eventsOf history ++ events) →
          sidecar.image = some (role.imageFor setup.settings left.wishes)) := by
    have sparing := spared.concat ⟨call, events, result⟩ fun _ handle _ =>
      (Call.spares_of_start starts handle).1
    have keeping := kept.concat ⟨call, events, result⟩ fun _ _ _ =>
      (Call.spares_of_start starts id).2
    rcases enlisted.isServed sparing keeping with
      ⟨parent, sidecar, known, located, wanted, serves, image⟩
    rcases Option.some.inj (there.symm.trans known) with rfl
    rcases enlisted.hasAttendant with ⟨same, _, again, _, listed, _⟩
    rcases Option.some.inj (there.symm.trans again) with rfl
    rw [eventsOf_concat] at image
    exact ⟨wanted, sidecar, located, listed, serves, image⟩
  refine ⟨left, there, wishes, ⟨fun ⟨handle, enlisted⟩ => (served enlisted).1, fun wanted => ?_⟩,
    fun handle enlisted => (served enlisted).2⟩
  rcases (turn.steps_of_start starts).2 succeeded workload found committed with ⟨same, known, attended⟩
  rcases Option.some.inj (there.symm.trans known) with rfl
  exact Enlisted.exists_of_isNoted (reached.call course) there (attended role (wishes ▸ wanted))

/-! ## Trials -/

private theorem unstarted_refusedStart :
    ∀ record ∈ refusedStart.1.dropLast, record.call.startOf? ≠ some ⟨0⟩ := by
  decide +kernel

/-- When a first start fails and is tried again, its shaping sidecar listens where the instance says. -/
theorem wishes_of_retry :
    ∃ left sidecar, retriedStart.2.get? ⟨0⟩ = some left ∧ retriedStart.2.get? ⟨1⟩ = some sidecar ∧
      ⟨1⟩ ∈ left.sidecars ∧ Attendant.shaper.Serves left.wishes sidecar := by
  have state : refusedStart.2.stateOf ⟨0⟩ = some .committed := by decide +kernel
  rcases Option.map_eq_some_iff.mp state with ⟨workload, found, committed⟩
  have reached := enlisted_refusedStart.reached
  rcases exists_course_tried .shaping .agreeable refusedStart (.startWithoutWait ⟨0⟩) with
    ⟨events, result, course, whole⟩
  have succeeded : retriedStart.1.getLast?.map (fun record => record.result.isOk) = some true := by
    decide +kernel
  rw [retriedStart, whole, List.getLast?_concat] at succeeded
  rcases wishes_of_start reached course rfl (Option.some.inj succeeded) found committed
    (.of_unstarted unstarted_refusedStart) (.of_unstarted unstarted_refusedStart) with
    ⟨left, there, _, _, serves⟩
  rcases serves ⟨1⟩ (enlisted_refusedStart.earlier course) with ⟨sidecar, located, listed, serves, _⟩
  exact ⟨left, sidecar, there, located, listed, serves⟩

/-- When a first start fails, the port is edited and the start is tried again, the shaping sidecar listens
where the instance said before. -/
theorem wishes_stale_after_retry :
    ¬ ∀ (setup : Setup) (history : List Record) (before after : Registry) (call : Call)
      (events : List Event) (result : Except Error call.Value) (role : Attendant)
      (id handle : InstanceId) (workload : Instance), Reaches setup history before →
      Action.Course setup call.perform before events result after → call.startOf? = some id →
      result.isOk = true → before.get? id = some workload → workload.state = .committed →
      OnceEnlisted setup role id Call.Spares history →
      Enlisted setup role id handle (history ++ [⟨call, events, result⟩]) after →
      ∃ left sidecar, after.get? id = some left ∧ after.get? handle = some sidecar ∧
        role.Serves left.wishes sidecar := by
  intro claim
  have state : refusedPort.2.stateOf ⟨0⟩ = some .committed := by decide +kernel
  rcases Option.map_eq_some_iff.mp state with ⟨workload, found, committed⟩
  have enlisted : Enlisted .shaping .shaper ⟨0⟩ ⟨1⟩ refusedPort.1 refusedPort.2 :=
    Happened.earlier_tried enlisted_refusedStart
  rcases exists_course_tried .shaping .agreeable refusedStart (.edit ⟨0⟩ (.setFaultPort 9100)) with
    ⟨_, _, _, edits⟩
  have spared : OnceEnlisted .shaping .shaper ⟨0⟩ Call.Spares refusedPort.1 := by
    rw [refusedPort, edits]
    refine (OnceEnlisted.of_unstarted unstarted_refusedStart).concat _ ?_
    rintro before handle noted same
    rcases Option.some.inj same with rfl
    rcases noted.hasAttendant with ⟨parent, _, known, _, listed, _⟩
    exact noted.reached.invariant.1.not_mem_own
      (Registry.mem_sidecarsOf_iff.mpr ⟨parent, known, listed⟩)
  rcases exists_course_tried .shaping .agreeable refusedPort (.startWithoutWait ⟨0⟩) with
    ⟨events, result, course, whole⟩
  have succeeded : changedStart.1.getLast?.map (fun record => record.result.isOk) = some true := by
    decide +kernel
  rw [changedStart, whole, List.getLast?_concat] at succeeded
  rcases claim _ _ _ _ _ _ _ _ _ _ _ enlisted.reached course rfl (Option.some.inj succeeded) found
    committed spared (enlisted.earlier course) with ⟨left, sidecar, there, located, listens, _⟩
  have port : (changedStart.2.get? ⟨0⟩).map (fun left => left.wishes.port) = some 9100 := by
    decide +kernel
  have ports : (changedStart.2.get? ⟨1⟩).map Instance.tcpPorts = some [9007] := by decide +kernel
  rw [changedStart, there] at port
  rw [changedStart, located] at ports
  have asked : left.wishes.port = 9100 := Option.some.inj port
  have served : sidecar.tcpPorts = [9007] := Option.some.inj ports
  rw [asked, served] at listens
  exact absurd listens (by decide)

end Testbed
