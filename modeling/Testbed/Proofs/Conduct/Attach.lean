import Testbed.Action.Clone
import Testbed.Proofs.Conduct.Describe

namespace Testbed
namespace Action

/-!
# How sidecars are attached, injected and copied

An injected sidecar is a new instance, so what happens to it does not count, and neither does its
attachment: the label of an attachment names the sidecar and not the parent.  What is said here of an
injection therefore holds within any budget.
-/

open Proceeds

variable {setup : Setup} {floor budget : Nat} {before : Registry} {id : InstanceId}

theorem proceeds_addSidecar {sidecar : InstanceId} (affordable : floor ≤ sidecar.index ∨ 0 < budget) :
    Proceeds setup floor budget (addSidecar id sidecar) before fun _ _ => True := by
  refine guarded_bind fun {parent} found describable => ?_
  refine registry_bind ?_
  cases joining : before.get? sidecar with
  | none => exact of_fail
  | some candidate =>
      dsimp only
      split
      · exact of_fail
      · rename_i apart
        split
        · exact of_fail
        · rename_i fit
          intro events result after course
          rcases course_update.mp (course_update_bind.mp course) with ⟨rfl, rfl, rfl⟩
          have move : Move setup [sidecar] before [] (before.attach id sidecar) :=
            .attach found describable apart joining fit
          rcases affordable with young | paid
          · exact ⟨0, Nat.zero_le _,
              .free_single move fun _ member => List.mem_singleton.mp member ▸ young,
              fun _ _ => trivial⟩
          · exact ⟨1, paid, .counted_single move, fun _ _ => trivial⟩

/-! ## Injections -/

theorem proceeds_createCommitted {name reference : String}
    (young : floor ≤ before.instances.length) :
    Proceeds setup floor budget (createCommitted name reference) before
      fun made _ => floor ≤ made.index := by
  refine proceeds_create.bind_free fun {made middle events} _ => ?_
  rintro ⟨rfl, created⟩
  have affordable : floor ≤ before.nextId.index ∨ 0 < 0 := Or.inl young
  refine (proceeds_setImage created affordable).bind_free fun _ _ => ?_
  refine (proceeds_commit affordable).bind_free fun _ _ => ?_
  exact of_pure young

/-- What an injection notes of its sidecar it notes of a parent that is still committed. -/
private theorem amends_of_committed {change : Instance → Instance}
    (committed : before.stateOf id = some .committed)
    (amends : ∀ workload, workload.state = .committed → Amendment workload (change workload))
    (workload : Instance) (found : before.get? id = some workload) :
    Amendment workload (change workload) := by
  rw [Registry.stateOf_eq found, Option.some.injEq] at committed
  exact amends workload committed

theorem proceeds_injectCollector {parent : Instance} (young : floor ≤ before.instances.length)
    (old : parent.id.index < floor) (committed : before.stateOf parent.id = some .committed) :
    Proceeds setup floor budget (injectCollector parent) before fun _ _ => True := by
  refine settings_bind ?_
  refine (proceeds_createCommitted young).bind_free fun moves made => ?_
  have committed := moves.stateOf_eq old committed
  refine proceeds_addFileBytes.bind_free fun moves _ => ?_
  have committed := moves.stateOf_eq old committed
  refine (proceeds_editAll _).bind_free fun moves _ => ?_
  have committed := moves.stateOf_eq old committed
  refine (proceeds_addSidecar (Or.inl made)).bind_free fun moves _ => ?_
  have committed := moves.stateOf_eq old committed
  refine of_bind_pure (amend_bind (amends_of_committed committed ?_) (of_pure trivial))
  exact fun _ committed => .collected _ committed

theorem proceeds_injectShapingSidecar {parent : Instance} (young : floor ≤ before.instances.length)
    (old : parent.id.index < floor) (committed : before.stateOf parent.id = some .committed) :
    Proceeds setup floor budget (injectShapingSidecar parent) before fun _ _ => True := by
  refine settings_bind ?_
  refine (proceeds_createCommitted young).bind_free fun moves made => ?_
  have committed := moves.stateOf_eq old committed
  refine (proceeds_editAll _).bind_free fun moves _ => ?_
  have committed := moves.stateOf_eq old committed
  refine find_bind fun _ => ?_
  refine (proceeds_addSidecar (Or.inl made)).bind_free fun moves _ => ?_
  have committed := moves.stateOf_eq old committed
  refine of_bind_pure (amend_bind (amends_of_committed committed ?_) (of_pure trivial))
  exact fun _ committed => .shaped _ committed

theorem proceeds_injectSidecars {parent : Instance} (young : floor ≤ before.instances.length)
    (old : parent.id.index < floor) (committed : before.stateOf parent.id = some .committed) :
    Proceeds setup floor budget (injectSidecars parent) before fun _ _ => True := by
  have shaping {middle : Registry} (young : floor ≤ middle.instances.length)
      (committed : middle.stateOf parent.id = some .committed) :
      Proceeds setup floor budget
        (if wantsShapingSidecar parent then injectShapingSidecar parent else pure ())
        middle fun _ _ => True := by
    split
    · exact proceeds_injectShapingSidecar young old committed
    · exact of_pure trivial
  rw [injectSidecars]
  dsimp only
  split
  · refine (proceeds_injectCollector young old committed).bind_free fun moves _ => ?_
    exact shaping (Nat.le_trans young moves.length_le) (moves.stateOf_eq old committed)
  · exact shaping young committed

/-! ## Copies -/

private theorem course_addCopy {source : Instance} {name : String} {parent : Option InstanceId}
    {events : List Event} {result : Except Error InstanceId} {after : Registry}
    (course : Course setup (addCopy source name parent) before events result after) :
    (∀ event ∈ events, event.IsQuiet) ∧
      ((∃ error, result = .error error ∧ after = before) ∨
        result = .ok before.nextId ∧ ∃ clusterName,
          before.add { source.duplicate before.nextId name clusterName with parent } = .ok after) := by
  rcases course_ask_bind.mp course with ⟨reply, later, rfl, named⟩
  have quiet : ∀ event ∈ [Event.asked (.clusterName name) reply], event.IsQuiet :=
    fun event member => List.mem_singleton.mp member ▸ trivial
  rcases course_ofExcept_bind.mp named with ⟨error, _, rfl, rfl, rfl⟩ | ⟨clusterName, _, added⟩
  · exact ⟨quiet, Or.inl ⟨error, rfl, rfl⟩⟩
  · rcases course_ofExcept_bind.mp (course_registry_bind.mp added) with
      ⟨error, _, rfl, rfl, rfl⟩ | ⟨grown, joined, ended⟩
    · exact ⟨quiet, Or.inl ⟨error, rfl, rfl⟩⟩
    · have stored := course_setRegistry_bind.mp ended
      rcases course_pure.mp stored with ⟨rfl, rfl, rfl⟩
      exact ⟨quiet, Or.inr ⟨rfl, clusterName, joined⟩⟩

/-- A copy is registered without anything else being done; what comes next decides which move this
is part of. -/
private theorem addCopy_bind {source : Instance} {name : String} {parent : Option InstanceId}
    {next : InstanceId → Action β} {reached : β → Registry → Prop}
    (rest : ∀ {clusterName grown},
      before.add { source.duplicate before.nextId name clusterName with parent } = .ok grown →
      ∀ events result after, Course setup (next before.nextId) grown events result after →
        ∃ count, count ≤ budget ∧ Moves setup floor count before events after ∧
          ∀ value, result = .ok value → reached value after) :
    Proceeds setup floor budget (addCopy source name parent >>= next) before reached := by
  intro events result after course
  rcases course_bind.mp course with
    ⟨error, rfl, stopped⟩ | ⟨copy, grown, earlier, later, rfl, started, ended⟩
  · rcases course_addCopy stopped with ⟨quiet, ⟨_, _, rfl⟩ | ⟨impossible, _⟩⟩
    · exact ⟨0, Nat.zero_le _, .talk quiet, fun _ impossible => nomatch impossible⟩
    · cases impossible
  · rcases course_addCopy started with ⟨quiet, ⟨_, impossible, _⟩ | ⟨same, clusterName, joined⟩⟩
    · cases impossible
    · cases same
      rcases rest joined _ _ _ ended with ⟨count, within, moves, holds⟩
      have talked : Moves setup floor 0 before earlier before := .talk quiet
      have onward := talked.trans moves
      rw [Nat.zero_add] at onward
      exact ⟨count, within, onward, holds⟩

theorem proceeds_copySidecars {leader : InstanceId} {parent : Instance} (sources : List InstanceId)
    (led : before.get? leader = some parent) (leads : parent.parent = none)
    (frozen : parent.state = .committed)
    (committed : ∀ source ∈ sources, before.stateOf source = some .committed) :
    Proceeds setup floor budget (copySidecars leader sources) before fun _ _ => True := by
  induction sources generalizing before parent with
  | nil => exact of_pure trivial
  | cons first rest inductionHypothesis =>
      refine find_bind fun {source} found => ?_
      have copied := committed first List.mem_cons_self
      rw [Registry.stateOf_eq found, Option.some.injEq] at copied
      refine addCopy_bind fun joined events result after course => ?_
      have onward := course_update_bind.mp course
      have apart := (Registry.ne_nextId led).symm
      rcases Registry.add_under apart joined with ⟨alone, stood, same⟩
      rw [same] at onward
      have move : Move setup [] before [] (alone.attach leader before.nextId) :=
        .copySidecar found copied led leads frozen stood
      rcases move.kept led with ⟨moved, there, _, _, kept⟩
      rcases kept fun member => nomatch member with ⟨state, parent⟩
      obtain ⟨count, within, moves, holds⟩ := inductionHypothesis there (parent.trans leads)
        (state.trans frozen)
        (fun source member => move.stateOf_eq (fun impossible => nomatch impossible)
          (committed source (List.mem_cons_of_mem first member))) _ _ _ onward
      exact ⟨count, within, .free move (fun _ member => nomatch member) moves, holds⟩

theorem proceeds_cloneWithName {name : String} :
    Proceeds setup floor budget (cloneWithName id name) before fun _ _ => True := by
  refine guarded_bind fun {workload} found permitted => ?_
  have committed : workload.state = .committed := List.mem_singleton.mp permitted
  refine done_bind (guardSidecars_eq .clone workload.sidecars) fun passed => ?_
  have sources := Registry.permits_eq_ok_iff.mp passed
  have old {sidecar : InstanceId} (listed : sidecar ∈ workload.sidecars) :
      before.stateOf sidecar = some .committed := by
    rcases sources sidecar listed with ⟨follower, there, permitted⟩
    exact (Registry.stateOf_eq there).trans (congrArg some (List.mem_singleton.mp permitted))
  refine addCopy_bind fun joined events result after course => ?_
  have move : Move setup [] before [] _ := .copy found committed joined
  have led := (Registry.get?_add joined).trans (if_pos rfl)
  have copying : Proceeds setup floor budget
      (copySidecars before.nextId workload.sidecars >>= fun _ => pure before.nextId) _
      fun _ _ => True :=
    (proceeds_copySidecars _ led rfl committed fun _ listed =>
      Registry.stateOf_add joined (old listed)).bind_free fun _ _ => of_pure trivial
  rcases copying _ _ _ course with ⟨count, within, moves, holds⟩
  exact ⟨count, within, .free move (fun _ member => nomatch member) moves, holds⟩

theorem proceeds_clone : Proceeds setup floor budget (clone id) before fun _ _ => True :=
  find_bind fun _ => proceeds_cloneWithName

end Action
end Testbed
