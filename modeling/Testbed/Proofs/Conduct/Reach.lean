import Testbed.Action.Reach
import Testbed.Action.Shape
import Testbed.Proofs.Forest
import Testbed.Proofs.Proceeds

namespace Testbed
namespace Action

/-!
# How instances are reached and disturbed

None of these operations moves an instance.  An address is noted once it is known, and so is the way
of shaping in force; a service may be applied early, and a network policy comes and goes.
-/

open Proceeds

variable {setup : Setup} {floor budget : Nat} {before : Registry} {id : InstanceId}
  {workload : Instance}

/-! ## Reaching -/

theorem proceeds_createCustomResource {type : CustomType} {object : Json} :
    Proceeds setup floor budget (createCustomResource id type object) before fun _ _ => True := by
  refine guarded_bind fun _ _ => ?_
  refine cluster_bind (fun _ => .talk trivial) fun isDeclared => ?_
  split
  · exact of_bind_pure (cluster_bind (fun _ => .talk trivial) fun _ => of_pure trivial)
  · exact of_fail

/-- A service may be applied before an address is answered, and an answer that gives one is noted. -/
theorem moves_of_lookup {events : List Event} {result : Except Error String}
    (found : before.get? id = some workload) (permitted : workload.state ∈ Operation.address.allowedStates)
    (unresolved : workload.serviceAddress = none) (lookup : Lookup setup before workload events result) :
    ((∃ error, result = .error error) → Moves setup floor 0 before events before) ∧
      ∀ address, result = .ok address → Moves setup floor 0 before events (before.noteAddress id address) := by
  rcases lookup.parts with ⟨earlier, last, rfl, quiet, opening, closing⟩
  have opened : Moves setup floor 0 before earlier before := by
    clear lookup
    induction earlier with
    | nil => exact .none
    | cons first rest inductionHypothesis =>
        rcases List.forall_mem_cons.mp opening with ⟨head, tail⟩
        have onward := inductionHypothesis tail
        rcases head with talk | ⟨owner, service, owned, offered, rfl⟩
        · exact .free (.talk talk) (List.forall_mem_nil _) onward
        · exact .free (.serve found permitted owned offered) (List.forall_mem_nil _) onward
  constructor
  · exact fun _ => opened.trans (.free_single (.talk quiet) (List.forall_mem_nil _))
  · intro address same
    rcases closing address same with ⟨rfl, given⟩
    exact opened.trans (.free_single (.resolve found unresolved given) (List.forall_mem_nil _))

theorem proceeds_address (linked : before.WellLinked) :
    Proceeds setup floor budget (address id) before fun _ _ => True := by
  intro events result after course
  refine ⟨0, Nat.zero_le _, ?_, fun _ _ => trivial⟩
  rcases course_address course with
    ⟨error, _, rfl, rfl, rfl⟩ | ⟨workload, ⟨found, permitted⟩, ⟨_, _, rfl, _, rfl⟩ | ⟨unresolved, lookup, noted⟩⟩
  · exact .none
  · exact .none
  rcases noted with ⟨failed, rfl⟩ | ⟨address, same, rfl⟩
  · exact (moves_of_lookup found permitted unresolved lookup).1 failed
  · rw [linked.handle found]
    exact (moves_of_lookup found permitted unresolved lookup).2 address same

theorem proceeds_addHost {port : UInt16} :
    Proceeds setup floor budget (addHost id port) before fun _ _ => True := by
  refine guarded_bind fun _ _ => ?_
  refine setup_bind ?_
  split
  · refine ask_bind (fun _ => trivial) fun _ => ?_
    refine ofExcept_bind fun _ => ?_
    refine ask_bind (fun _ => trivial) fun _ => ?_
    exact of_done (ofExcept_eq _) fun _ _ => trivial
  · exact of_fail

theorem proceeds_runInContainer {command : List String} :
    Proceeds setup floor budget (runInContainer workload command) before fun _ _ => True := by
  refine done_bind (podOwner_eq workload) fun _ => ?_
  refine cluster_bind (fun _ => .talk trivial) fun _ => ?_
  exact of_bind_pure (cluster_bind (fun _ => .talk trivial) fun _ => of_pure trivial)

theorem proceeds_executeCommand {command : List String} :
    Proceeds setup floor budget (executeCommand id command) before fun _ _ => True := by
  refine guarded_bind fun _ _ => ?_
  split
  · refine ofExcept_bind fun _ => ?_
    exact of_bind_pure (image_bind fun _ => of_pure trivial)
  · exact proceeds_runInContainer

theorem proceeds_fetchFile {path : String} :
    Proceeds setup floor budget (fetchFile id path) before fun _ _ => True := by
  refine guarded_bind fun _ _ => ?_
  split
  · exact proceeds_runInContainer.bind_free fun _ _ => of_pure trivial
  · refine ofExcept_bind fun _ => ?_
    exact of_bind_pure (image_bind fun _ => of_pure trivial)

theorem proceeds_forwardPort {port : UInt16} :
    Proceeds setup floor budget (forwardPort id port) before fun _ _ => True := by
  refine guarded_bind fun {workload} _ _ => ?_
  dsimp only
  split
  · refine settings_bind ?_
    refine ask_bind (fun _ => trivial) fun _ => ?_
    refine ofExcept_bind fun _ => ?_
    refine done_bind (podOwner_eq workload) fun _ => ?_
    refine cluster_bind (fun _ => .talk trivial) fun _ => ?_
    refine talk_bind (fun course => ?_) fun ended => ?_
    · rcases Program.course_bind.mp course with ⟨_, earlier, later, rfl, tried, rest⟩
      rcases Program.course_done.mp rest with ⟨rfl, same⟩
      cases same
      cases tried with
      | connect outcome elapsed rest =>
          rcases Program.course_done.mp rest with ⟨rfl, _⟩
          exact ⟨rfl, fun event member => List.mem_singleton.mp member ▸ trivial⟩
    · rcases ended with ⟨outcome, elapsed⟩
      cases outcome with
      | succeeded _ => exact of_pure trivial
      | exhausted error => exact of_fail
      | cancelled => exact of_fail
  · exact of_fail

/-! ## Disturbing -/

theorem proceeds_stopShaping {name target : String} {operation : Operation} {port : UInt16}
    (kinds : List ShapingKind) :
    Proceeds setup floor budget (stopShaping name operation target port kinds) before
      fun _ after => after = before := by
  induction kinds with
  | nil => exact of_pure rfl
  | cons kind rest inductionHypothesis =>
      refine ask_bind (fun _ => trivial) fun reply => ?_
      cases reply with
      | ok _ => exact inductionHypothesis
      | error failure =>
          dsimp only
          split
          · exact inductionHypothesis
          · exact of_fail

theorem proceeds_shape {operation : Operation} {shaping : Option Shaping} :
    Proceeds setup floor budget (shape id operation shaping) before fun _ _ => True := by
  refine guarded_bind fun {workload} _ _ => ?_
  dsimp only
  split
  · exact of_fail
  · cases workload.fault.sidecar with
    | none => exact of_fail
    | some target =>
        refine setup_bind ?_
        split
        · exact of_fail
        · refine (proceeds_stopShaping _).bind_free fun _ same => ?_
          refine amend_bind (fun _ _ => .switched none) ?_
          cases shaping with
          | none => exact of_pure trivial
          | some shaping =>
              refine ask_bind (fun _ => trivial) fun reply => ?_
              cases reply with
              | error failure => exact of_fail
              | ok _ =>
                  exact of_bind_pure
                    (amend_bind (fun _ _ => .switched (some shaping.kind)) (of_pure trivial))

theorem proceeds_setPacketLoss {percent : UInt8} :
    Proceeds setup floor budget (setPacketLoss id percent) before fun _ _ => True := by
  rw [setPacketLoss]
  split
  · exact find_bind fun _ => of_fail
  · exact proceeds_shape

theorem proceeds_disableNetwork :
    Proceeds setup floor budget (disableNetwork id) before fun _ _ => True := by
  refine guarded_bind fun {workload} _ _ => ?_
  refine settings_bind ?_
  refine done_bind (podOwner_eq workload) fun _ => ?_
  exact of_bind_pure (cluster_bind (fun _ => .isolate _) fun _ => of_pure trivial)

theorem proceeds_enableNetwork :
    Proceeds setup floor budget (enableNetwork id) before fun _ _ => True := by
  refine guarded_bind fun {workload} _ _ => ?_
  refine done_bind (podOwner_eq workload) fun _ => ?_
  exact of_bind_pure (cluster_bind (fun _ => .rejoin _ none) fun _ => of_pure trivial)

theorem proceeds_networkIsDisabled :
    Proceeds setup floor budget (networkIsDisabled id) before fun _ _ => True := by
  refine guarded_bind fun {workload} _ _ => ?_
  refine done_bind (podOwner_eq workload) fun _ => ?_
  exact of_bind_pure (cluster_bind (fun _ => .talk trivial) fun _ => of_pure trivial)

end Action
end Testbed
