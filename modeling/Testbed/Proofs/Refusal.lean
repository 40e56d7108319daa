import Testbed.Proofs.Trial

namespace Testbed

/-!
# Refused calls

Every call but the one that makes an instance is about an instance that is there, and goes by one line
of the table that says which operation is legal when.  The table is consulted before anything else is
done.  So a call that comes in a state which forbids it is over at once: its program makes no request
and does not wait, and therefore nobody learns of it, the cache of images included, whoever the
collaborators are.

One call looks at its argument before it looks at the state.  A share of lost packets above a hundred
percent is refused as such in every state; that refusal, too, comes before anything is done.
-/

/-- The instance that a call is about and the operation that guards it. -/
def Call.guard? : Call → Option (InstanceId × Operation)
  | create _ => none
  | setImage id _ => some (id, .setImage)
  | setImageInstant id _ => some (id, .setImageInstant)
  | setGitRepo id _ => some (id, .setGitRepo)
  | commit id => some (id, .commit)
  | edit id change => some (id, change.operation)
  | addFileBytes id _ _ _ | addFile id _ _ _ => some (id, .addFile)
  | addFolder id _ _ _ => some (id, .addFolder)
  | setUser id _ => some (id, .setUser)
  | addSidecar id _ => some (id, .addSidecar)
  | clone id | cloneWithName id _ => some (id, .clone)
  | start id | startWithoutWait id => some (id, .start)
  | stop id => some (id, .stop)
  | isRunning id => some (id, .isRunning)
  | waitRunning id => some (id, .waitRunning)
  | waitStopped id => some (id, .waitStopped)
  | createCustomResource id _ _ => some (id, .createCustomResource)
  | address id => some (id, .address)
  | addHost id _ => some (id, .addHost)
  | executeCommand id _ => some (id, .executeCommand)
  | fetchFile id _ => some (id, .fetchFile)
  | forwardPort id _ => some (id, .portForward)
  | setBandwidthLimit id _ => some (id, .setBandwidthLimit)
  | setLatencyAndJitter id _ _ => some (id, .setLatencyAndJitter)
  | setPacketLoss id _ => some (id, .setPacketLoss)
  | clearShaping id => some (id, .clearShaping)
  | disableNetwork id => some (id, .disableNetwork)
  | enableNetwork id => some (id, .enableNetwork)
  | networkIsDisabled id => some (id, .networkIsDisabled)

/-- Only the making of an instance goes unguarded. -/
theorem Call.guard?_eq_none_iff {call : Call} :
    call.guard? = none ↔ ∃ name, call = .create name := by
  constructor
  · intro unguarded
    cases call with
    | create name => exact ⟨name, rfl⟩
    | _ => cases unguarded
  · rintro ⟨name, rfl⟩
    rfl

variable {setup : Setup} {registry : Registry} {id : InstanceId} {operation : Operation}
  {workload : Instance}

/-- The error of an operation that the state of an instance forbids. -/
def Instance.forbid (workload : Instance) (operation : Operation) : Error :=
  .stateViolation workload.name operation.text workload.state.text

theorem Instance.guard_of_forbidden (forbidden : workload.state ∉ operation.allowedStates) :
    workload.guard operation = .error (workload.forbid operation) := by
  rw [Instance.guard, ensureAllowed, Operation.isAllowedIn, List.contains_eq_mem,
    decide_eq_false forbidden]
  rfl

theorem Registry.guarded_of_forbidden (found : registry.get? id = some workload)
    (forbidden : workload.state ∉ operation.allowedStates) :
    registry.guarded id operation = .error (workload.forbid operation) := by
  rw [Registry.guarded, Registry.find_eq_ok_iff.mpr found]
  change (workload.guard operation >>= fun _ => pure workload : Except Error Instance) = _
  rw [Instance.guard_of_forbidden forbidden]
  rfl

namespace Action

/-- A guarded action is over at once where the state forbids it. -/
theorem guarded_bind_of_forbidden {next : Instance → Action α}
    (found : registry.get? id = some workload)
    (forbidden : workload.state ∉ operation.allowedStates) :
    (guarded id operation >>= next) setup registry =
      .done (.error (workload.forbid operation), registry) :=
  bind_of_failed (by rw [guarded_eq, Registry.guarded_of_forbidden found forbidden])

theorem edit_of_forbidden {change : Edit} (found : registry.get? id = some workload)
    (forbidden : workload.state ∉ change.operation.allowedStates) :
    edit id change setup registry =
      .done (.error (workload.forbid change.operation), registry) := by
  have located : find id setup registry = .done (.ok workload, registry) := by
    rw [find_eq, Registry.find_eq_ok_iff.mpr found]
  have refused : workload.edit change = .error (workload.forbid change.operation) := by
    rw [Instance.edit, Instance.guard_of_forbidden forbidden]
    rfl
  rw [edit, bind_of_done located, liftM_eq]
  exact bind_of_failed (by rw [ofExcept_eq, refused])

theorem clone_of_forbidden (found : registry.get? id = some workload)
    (forbidden : workload.state ∉ Operation.clone.allowedStates) :
    clone id setup registry = .done (.error (workload.forbid .clone), registry) := by
  have located : find id setup registry = .done (.ok workload, registry) := by
    rw [find_eq, Registry.find_eq_ok_iff.mpr found]
  rw [clone, bind_of_done located]
  exact guarded_bind_of_forbidden found forbidden

/-- A share of lost packets is refused by its size or, in a state that forbids it, by the state. -/
theorem setPacketLoss_of_forbidden {percent : UInt8} (found : registry.get? id = some workload)
    (forbidden : workload.state ∉ Operation.setPacketLoss.allowedStates) :
    setPacketLoss id percent setup registry =
      .done (.error (if 100 < percent then workload.refuse (.lossOutOfRange percent)
        else workload.forbid .setPacketLoss), registry) := by
  have located : find id setup registry = .done (.ok workload, registry) := by
    rw [find_eq, Registry.find_eq_ok_iff.mpr found]
  rw [setPacketLoss]
  by_cases above : 100 < percent
  · rw [if_pos above, if_pos above, bind_of_done located]
    rfl
  · rw [if_neg above, if_neg above]
    exact guarded_bind_of_forbidden found forbidden

end Action

open Testbed.Action in
/-- A call in a state that forbids it is over at once, with an error that names the instance, the
operation and the state. -/
theorem Call.perform_of_forbidden {call : Call} (guarded : call.guard? = some (id, operation))
    (found : registry.get? id = some workload)
    (forbidden : workload.state ∉ operation.allowedStates) :
    ∃ error, call.perform setup registry = .done (.error error, registry) ∧
      (error = workload.forbid operation ∨
        ∃ percent, call = .setPacketLoss id percent ∧ 100 < percent ∧
          error = workload.refuse (.lossOutOfRange percent)) := by
  cases call with
  | create => cases guarded
  | edit =>
      cases guarded
      exact ⟨_, edit_of_forbidden found forbidden, Or.inl rfl⟩
  | clone =>
      cases guarded
      exact ⟨_, clone_of_forbidden found forbidden, Or.inl rfl⟩
  | start =>
      cases guarded
      exact ⟨_, bind_of_failed (guarded_bind_of_forbidden found forbidden), Or.inl rfl⟩
  | setPacketLoss _ percent =>
      cases guarded
      refine ⟨_, setPacketLoss_of_forbidden found forbidden, ?_⟩
      by_cases above : 100 < percent
      · exact Or.inr ⟨percent, rfl, above, if_pos above⟩
      · exact Or.inl (if_neg above)
  | _ =>
      cases guarded
      exact ⟨_, guarded_bind_of_forbidden found forbidden, Or.inl rfl⟩

/-- Whatever a registry is like, a call that the state of its instance forbids fails with the refusal
of that state.  Nothing is asked of anybody, no time passes, and the registry and the collaborators,
whoever they are, stay as they were. -/
theorem refused_of_forbidden {call : Call} (guarded : call.guard? = some (id, operation))
    (found : registry.get? id = some workload)
    (forbidden : workload.state ∉ operation.allowedStates) :
    ∃ error,
      (∀ events result after, Action.Course setup call.perform registry events result after →
        events = [] ∧ result = .error error ∧ after = registry) ∧
      (∀ (σ : Type) (others : Collaborators σ) (looks now : Nat) (state : σ),
        (call.perform setup registry).run others looks now state =
          some ⟨(.error error, registry), now, state⟩) ∧
      (error = .stateViolation workload.name operation.text workload.state.text ∨
        ∃ percent, call = .setPacketLoss id percent ∧ 100 < percent ∧
          error = .validation workload.name (.lossOutOfRange percent)) := by
  rcases Call.perform_of_forbidden guarded found forbidden with ⟨error, ended, refusal⟩
  refine ⟨error, fun _ _ _ => (Action.course_of_done ended).mp, ?_, refusal⟩
  intro σ others looks now state
  rw [ended]
  rfl

/-- In the registry that a started pod leaves, the pod cannot be committed again. -/
theorem refused_of_podStart :
    let ended := trial .plain .agreeable Call.podStart
    Reaches .plain ended.1 ended.2 ∧ ended.2.stateOf ⟨0⟩ = some .started ∧
      ∀ events result after,
        Action.Course .plain (Call.commit ⟨0⟩).perform ended.2 events result after →
        events = [] ∧ result = .error (.stateViolation "main" "commit" "Started") ∧
          after = ended.2 := by
  refine ⟨reaches_trial .plain .agreeable Call.podStart, rfl, ?_⟩
  intro events result after course
  have guarded : (Call.commit ⟨0⟩).guard? = some (⟨0⟩, .commit) := rfl
  rcases found : (trial .plain .agreeable Call.podStart).2.get? ⟨0⟩ with _ | workload
  · cases found
  have named : workload.name = "main" := by cases found; rfl
  have started : workload.state = .started := by cases found; rfl
  have forbidden : workload.state ∉ Operation.commit.allowedStates := by rw [started]; decide
  rcases refused_of_forbidden guarded found forbidden with ⟨error, only, _, refusal⟩
  rcases refusal with rfl | ⟨_, impossible, _⟩
  · rw [named, started] at only
    exact only events result after course
  · cases impossible

end Testbed
