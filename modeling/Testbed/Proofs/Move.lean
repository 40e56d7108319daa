import Testbed.Action.Sidecar
import Testbed.Proofs.Amendment
import Testbed.Proofs.Course.Address

namespace Testbed

/-!
# Moves

A move is the smallest thing an operation does between two points at which it can fail: at most one
exchange with a collaborator that can succeed or fail, together with what is done to the registry
because of it.  A start that reaches its end is one move, because nothing that precedes the compute
unit's application changes an instance.  Every operation but one is a series of moves, whether it
succeeds or not; the exception, which replaces a compute unit, is not described here.

A move is labelled with the handles whose state or parent it may change.  Its conditions are what the
operation has checked, or has seen in the registry, before it does the move.
-/

/-- What an operation does in one go, and to what. -/
inductive Move (setup : Setup) : List InstanceId → Registry → List Event → Registry → Prop where
  /-- An exchange that changes neither the registry nor the resources of the cluster. -/
  | talk (quiet : event.IsQuiet) : Move setup [] before [event] before
  | create (joined : before.add { id := before.nextId, name, clusterName } = .ok after) :
      Move setup [] before [] after
  | copy {id : InstanceId} (found : before.get? id = some source)
      (committed : source.state = .committed)
      (joined : before.add (source.duplicate before.nextId name clusterName) = .ok after) :
      Move setup [] before [] after
  /-- A copy of a sidecar joins a copy of its parent. -/
  | copySidecar {id leader : InstanceId} (found : before.get? id = some source)
      (committed : source.state = .committed)
      (led : before.get? leader = some parent) (leads : parent.parent = none)
      (frozen : parent.state = .committed)
      (joined : before.add (source.duplicate before.nextId name clusterName) = .ok grown) :
      Move setup [] before [] (grown.attach leader before.nextId)
  | attach {id sidecar : InstanceId} (found : before.get? id = some parent)
      (describable : parent.state ∈ Operation.descriptive)
      (apart : sidecar ≠ id) (joining : before.get? sidecar = some candidate)
      (fit : Action.attachmentFault? parent candidate = none) :
      Move setup [sidecar] before [] (before.attach id sidecar)
  | amend {id : InstanceId}
      (amends : ∀ workload, before.get? id = some workload → Amendment workload (change workload)) :
      Move setup [] before [] (before.update id change)
  | prepare {id : InstanceId} (context : ContextId) (created : before.stateOf id = some .created) :
      Move setup [id] before [] (before.update id fun workload =>
        { workload with context := some context, state := .preparing })
  | commit {id : InstanceId} (reference : String) (preparing : before.stateOf id = some .preparing) :
      Move setup [id] before [] (before.update id fun current =>
        { current with image := some reference, state := .committed })
  /-- A first start applies something that supports the pod. -/
  | support {id : InstanceId} (found : before.get? id = some workload) (leads : workload.parent = none)
      (committed : workload.state = .committed)
      (assembled : before.pod setup.settings workload = .ok pod) (listed : resource ∈ pod.supporting) :
      Move setup [] before [.applied resource] before
  /-- A service is applied so that its address can be looked up. -/
  | serve {id : InstanceId} (found : before.get? id = some workload)
      (permitted : workload.state ∈ Operation.address.allowedStates)
      (owned : before.podOwner workload = .ok owner)
      (offered : workload.service owner setup.settings.space = some service) :
      Move setup [] before [.applied (.service service)] before
  /-- An address is answered, and noted. -/
  | resolve {id : InstanceId} (found : before.get? id = some workload)
      (unresolved : workload.serviceAddress = none) (given : address ≠ "") :
      Move setup [] before [.located workload.clusterName (some address)] (before.noteAddress id address)
  | isolate (policy : NetworkPolicy) : Move setup [] before [.applied (.networkPolicy policy)] before
  | rejoin (name : String) (grace : Option UInt32) :
      Move setup [] before [.deleted .networkPolicy name grace] before
  /-- A first start reaches its end. -/
  | launch {id : InstanceId} (found : before.get? id = some workload) (leads : workload.parent = none)
      (committed : workload.state = .committed)
      (compiles : before.compile setup.settings workload = .ok compiled) :
      Move setup (before.podHandles id) before
        (compiled.supporting.map Event.applied ++ [.applied (.replicaSet compiled.replicaSet)])
        (before.setPodState id .started)
  | relaunch {id : InstanceId} (found : before.get? id = some workload) (leads : workload.parent = none)
      (stopped : workload.state = .stopped)
      (compiles : before.compile setup.settings workload = .ok compiled) :
      Move setup (before.podHandles id) before [.applied (.replicaSet compiled.replicaSet)]
        (before.setPodState id .started)
  | halt {id : InstanceId} (found : before.get? id = some workload) (leads : workload.parent = none)
      (started : workload.state = .started) :
      Move setup (before.podHandles id) before [.deleted .replicaSet workload.clusterName none]
        ((before.setPodState id .stopped).update id fun current =>
          { current with fault := { current.fault with activeMode := none } })

/-- A series of moves, some of which count.  A move is free if the handles of its label are not below
the floor, so that their instances were not there when the series began. -/
inductive Moves (setup : Setup) (floor : Nat) : Nat → Registry → List Event → Registry → Prop where
  | none : Moves setup floor 0 registry [] registry
  | free (move : Move setup touched before events middle)
      (young : ∀ id ∈ touched, floor ≤ id.index)
      (rest : Moves setup floor count middle later after) :
      Moves setup floor count before (events ++ later) after
  | counted (move : Move setup touched before events middle)
      (rest : Moves setup floor count middle later after) :
      Moves setup floor (count + 1) before (events ++ later) after

namespace Moves

variable {setup : Setup} {floor : Nat} {before middle after : Registry} {events earlier later : List Event}

theorem trans {first second : Nat} (start : Moves setup floor first before earlier middle)
    (rest : Moves setup floor second middle later after) :
    Moves setup floor (first + second) before (earlier ++ later) after := by
  induction start with
  | none =>
      rw [Nat.zero_add]
      exact rest
  | free move young _ inductionHypothesis =>
      rw [List.append_assoc]
      exact .free move young (inductionHypothesis rest)
  | counted move _ inductionHypothesis =>
      rw [List.append_assoc, Nat.add_right_comm]
      exact .counted move (inductionHypothesis rest)

/-- Talk alone, whatever it is about. -/
theorem talk (quiet : ∀ event ∈ events, event.IsQuiet) : Moves setup floor 0 before events before := by
  induction events with
  | nil => exact .none
  | cons first rest inductionHypothesis =>
      have onward := inductionHypothesis fun event member => quiet event (List.mem_cons_of_mem first member)
      exact .free (.talk (quiet first List.mem_cons_self)) (fun _ member => nomatch member) onward

theorem free_single {touched : List InstanceId} (move : Move setup touched before events after)
    (young : ∀ id ∈ touched, floor ≤ id.index) : Moves setup floor 0 before events after := by
  have moves : Moves setup floor 0 before (events ++ []) after := .free move young .none
  rw [List.append_nil] at moves
  exact moves

theorem counted_single {touched : List InstanceId} (move : Move setup touched before events after) :
    Moves setup floor 1 before events after := by
  have moves : Moves setup floor 1 before (events ++ []) after := .counted move .none
  rw [List.append_nil] at moves
  exact moves

end Moves

namespace Move

variable {setup : Setup} {touched : List InstanceId} {before after : Registry} {events : List Event}
  {id : InstanceId} {workload : Instance}

/-- A move keeps every instance with its name, and changes the state and the parent of those in its
label only. -/
theorem kept (move : Move setup touched before events after) (found : before.get? id = some workload) :
    ∃ moved, after.get? id = some moved ∧ moved.id = workload.id ∧
      moved.clusterName = workload.clusterName ∧
      (id ∉ touched → moved.state = workload.state ∧ moved.parent = workload.parent) := by
  cases move with
  | talk | support | serve | isolate | rejoin => exact ⟨workload, found, rfl, rfl, fun _ => ⟨rfl, rfl⟩⟩
  | create joined | copy _ _ joined =>
      exact ⟨workload, Registry.found_add joined found, rfl, rfl, fun _ => ⟨rfl, rfl⟩⟩
  | copySidecar _ _ _ _ _ joined =>
      have known := Registry.found_add joined found
      refine ⟨_, Registry.reworked_attach.found known, rfl, rfl, fun _ => ⟨rfl, ?_⟩⟩
      exact if_neg (Registry.ne_nextId found)
  | attach =>
      refine ⟨_, Registry.reworked_attach.found found, rfl, rfl, fun outside => ⟨rfl, ?_⟩⟩
      exact if_neg fun joins => outside (List.mem_singleton.mpr joins)
  | amend amends =>
      refine ⟨_, Registry.reworked_update.found found, ?_⟩
      split
      · rename_i here
        rcases (amends workload (here ▸ found)).keeps with ⟨state, links⟩
        exact ⟨congrArg Links.id links, congrArg Links.clusterName links,
          fun _ => ⟨state, congrArg Links.parent links⟩⟩
      · exact ⟨rfl, rfl, fun _ => ⟨rfl, rfl⟩⟩
  | resolve =>
      refine ⟨_, Registry.reworked_update.found found, ?_⟩
      split
      · exact ⟨rfl, rfl, fun _ => ⟨rfl, rfl⟩⟩
      · exact ⟨rfl, rfl, fun _ => ⟨rfl, rfl⟩⟩
  | prepare | commit =>
      refine ⟨_, Registry.reworked_update.found found, ?_⟩
      split
      · rename_i here
        exact ⟨rfl, rfl, fun absent => absurd (List.mem_singleton.mpr here) absent⟩
      · exact ⟨rfl, rfl, fun _ => ⟨rfl, rfl⟩⟩
  | launch | relaunch =>
      refine ⟨_, Registry.reworked_setPodState.found found, ?_⟩
      split
      · rename_i member
        exact ⟨rfl, rfl, fun absent => absurd member absent⟩
      · exact ⟨rfl, rfl, fun _ => ⟨rfl, rfl⟩⟩
  | halt =>
      refine ⟨_, (Registry.reworked_setPodState.trans Registry.reworked_update).found found, ?_⟩
      split
      · split
        · rename_i member
          exact ⟨rfl, rfl, fun absent => absurd member absent⟩
        · exact ⟨rfl, rfl, fun _ => ⟨rfl, rfl⟩⟩
      · split
        · rename_i member
          exact ⟨rfl, rfl, fun absent => absurd member absent⟩
        · exact ⟨rfl, rfl, fun _ => ⟨rfl, rfl⟩⟩

theorem stateOf_eq {state : State} (move : Move setup touched before events after) (outside : id ∉ touched)
    (known : before.stateOf id = some state) : after.stateOf id = some state := by
  rcases Option.map_eq_some_iff.mp known with ⟨workload, found, rfl⟩
  rcases move.kept found with ⟨moved, there, _, _, same⟩
  exact (Registry.stateOf_eq there).trans (congrArg some (same outside).1)

/-- An instance that a move adds has not been deployed. -/
theorem source_or_unsettled (move : Move setup touched before events after) {moved : Instance}
    (found : after.get? id = some moved) :
    (∃ workload, before.get? id = some workload) ∨ ¬ moved.state.IsSettled := by
  cases move with
  | talk | support | serve | isolate | rejoin => exact Or.inl ⟨moved, found⟩
  | create joined =>
      rw [Registry.get?_add joined] at found
      split at found
      · cases found
        exact Or.inr fun settled => settled
      · exact Or.inl ⟨moved, found⟩
  | copy _ committed joined =>
      rw [Registry.get?_add joined] at found
      split at found
      · cases found
        exact Or.inr (by rw [Instance.duplicate, committed]; exact fun settled => settled)
      · exact Or.inl ⟨moved, found⟩
  | copySidecar _ committed _ _ _ joined =>
      rcases Registry.reworked_attach.source found with ⟨grown, known, rfl⟩
      rw [Registry.get?_add joined] at known
      split at known
      · cases known
        exact Or.inr (by rw [Instance.duplicate, committed]; exact fun settled => settled)
      · exact Or.inl ⟨grown, known⟩
  | attach =>
      rcases Registry.reworked_attach.source found with ⟨workload, known, _⟩
      exact Or.inl ⟨workload, known⟩
  | amend | resolve | prepare | commit =>
      rcases Registry.reworked_update.source found with ⟨workload, known, _⟩
      exact Or.inl ⟨workload, known⟩
  | launch | relaunch =>
      rcases Registry.reworked_setPodState.source found with ⟨workload, known, _⟩
      exact Or.inl ⟨workload, known⟩
  | halt =>
      rcases (Registry.reworked_setPodState.trans Registry.reworked_update).source found with
          ⟨workload, known, _⟩
      exact Or.inl ⟨workload, known⟩

end Move

namespace Moves

variable {setup : Setup} {floor : Nat} {before after : Registry} {events : List Event}
  {id : InstanceId} {workload : Instance}

/-- As long as no move counts, the instances below the floor keep their states and parents. -/
theorem kept (moves : Moves setup floor 0 before events after) (old : id.index < floor)
    (found : before.get? id = some workload) :
    ∃ moved, after.get? id = some moved ∧ moved.id = workload.id ∧ moved.state = workload.state ∧
      moved.parent = workload.parent := by
  generalize none : 0 = count at moves
  induction moves generalizing workload with
  | none => exact ⟨workload, found, rfl, rfl, rfl⟩
  | free move young _ inductionHypothesis =>
      rcases move.kept found with ⟨middle, known, sameId, _, same⟩
      have outside : id ∉ _ := fun member => Nat.not_le_of_lt old (young id member)
      rcases inductionHypothesis known none with ⟨moved, later, laterId, state, parent⟩
      exact ⟨moved, later, laterId.trans sameId, state.trans (same outside).1,
        parent.trans (same outside).2⟩
  | counted => cases none

theorem stateOf_eq {state : State} (moves : Moves setup floor 0 before events after)
    (old : id.index < floor) (known : before.stateOf id = some state) : after.stateOf id = some state := by
  rcases Option.map_eq_some_iff.mp known with ⟨workload, found, rfl⟩
  rcases moves.kept old found with ⟨moved, there, _, same, _⟩
  exact (Registry.stateOf_eq there).trans (congrArg some same)

/-- No move removes an instance. -/
theorem exists_of_get? {count : Nat} (moves : Moves setup floor count before events after)
    (found : before.get? id = some workload) :
    ∃ moved, after.get? id = some moved ∧ moved.clusterName = workload.clusterName := by
  induction moves generalizing workload with
  | none => exact ⟨workload, found, rfl⟩
  | free move _ _ inductionHypothesis | counted move _ inductionHypothesis =>
      rcases move.kept found with ⟨middle, known, _, name, _⟩
      rcases inductionHypothesis known with ⟨moved, there, same⟩
      exact ⟨moved, there, same.trans name⟩

theorem length_le {count : Nat} (moves : Moves setup floor count before events after) :
    before.instances.length ≤ after.instances.length := by
  cases length : before.instances.length with
  | zero => exact Nat.zero_le _
  | succ last =>
      have found : before.get? ⟨last⟩ = some before.instances[last] := List.getElem?_eq_getElem _
      rcases moves.exists_of_get? found with ⟨moved, there, _⟩
      exact Registry.lt_of_get? there

end Moves
end Testbed
