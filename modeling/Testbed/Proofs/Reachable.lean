import Testbed.Proofs.Conduct
import Testbed.Proofs.Lockstep
import Testbed.Proofs.Trial

namespace Testbed

/-!
# What holds of every reachable registry

The forest of instances and the lockstep of pods are invariants of the registry alone: nothing in them
depends on what the cluster holds, on the names that are given or on what fails.  Both hold after any
history, and between two registries in a row every instance is where it was or one edge further.
-/

namespace Conduct

variable {setup : Setup} {before after : Registry} {call : Call} {events : List Event}
  {succeeded : Bool} {id : InstanceId} {state : State}

theorem wellLinked (conduct : Conduct setup before call events succeeded after)
    (linked : before.WellLinked) : after.WellLinked := by
  cases conduct with
  | moves moves _ _ => exact moves.wellLinked linked
  | strands => exact linked
  | replaces => exact linked.of_linksOf_eq fun _ => Registry.linksOf_setImage

theorem inLockstep (conduct : Conduct setup before call events succeeded after)
    (linked : before.WellLinked) (lockstep : before.InLockstep) : after.InLockstep := by
  cases conduct with
  | moves moves _ _ => exact moves.inLockstep linked lockstep
  | strands => exact lockstep
  | replaces =>
      exact lockstep.of_eq (fun _ => Registry.linksOf_setImage) fun _ => Registry.stateOf_setImage

/-- A call takes an instance along one edge of its life at most. -/
theorem leads (conduct : Conduct setup before call events succeeded after)
    (linked : before.WellLinked) (lockstep : before.InLockstep) (known : before.stateOf id = some state) :
    ∃ next, after.stateOf id = some next ∧ (next = state ∨ state.Leads next) := by
  cases conduct with
  | moves moves few _ =>
      rcases Option.map_eq_some_iff.mp known with ⟨workload, found, _⟩
      exact moves.leads few (Registry.lt_of_get? found) linked lockstep known
  | strands => exact ⟨state, known, Or.inl rfl⟩
  | replaces =>
      exact ⟨state, Registry.stateOf_setImage.trans known, Or.inl rfl⟩

end Conduct

/-- Both invariants hold after any history. -/
theorem Reaches.invariant {setup : Setup} {history : List Record} {registry : Registry}
    (reached : Reaches setup history registry) : registry.WellLinked ∧ registry.InLockstep := by
  induction reached with
  | empty => exact ⟨.empty, .empty⟩
  | call _ course inductionHypothesis =>
      rcases inductionHypothesis with ⟨linked, lockstep⟩
      have conduct := Call.conduct linked course
      exact ⟨conduct.wellLinked linked, conduct.inLockstep linked lockstep⟩

/-! ## The forest -/

/-- Whatever is done with a testbed, and whatever fails, its instances are a forest of depth one at
most: handles are places, cluster names are distinct, and the references of parents and sidecars
agree. -/
theorem forest_of_reaches {setup : Setup} {history : List Record} {registry : Registry}
    (reached : Reaches setup history registry) :
    (∀ id workload, registry.get? id = some workload → workload.id = id) ∧
    (∀ first second workload other, registry.get? first = some workload →
      registry.get? second = some other → first ≠ second →
      workload.clusterName ≠ other.clusterName) ∧
    (∀ parent sidecar,
      registry.parentOf sidecar = some parent ↔ sidecar ∈ registry.sidecarsOf parent) ∧
    (∀ parent, (registry.sidecarsOf parent).Nodup) ∧
    (∀ parent, ∀ sidecar ∈ registry.sidecarsOf parent,
      ∃ workload, registry.get? sidecar = some workload) ∧
    (∀ id, id ∉ registry.sidecarsOf id) ∧
    ∀ parent sidecar, registry.parentOf sidecar = some parent → registry.sidecarsOf sidecar = [] := by
  rcases reached.invariant with ⟨linked, _⟩
  refine ⟨fun _ _ => linked.handle, ?_, fun _ _ => linked.linked, linked.nodup, ?_,
    fun _ => linked.not_mem_own, fun _ _ => linked.shallow⟩
  · exact fun _ _ _ _ found located apart same => apart (linked.distinct found located same)
  · intro parent sidecar listed
    rcases linked.registered listed with ⟨workload, found, _⟩
    exact ⟨workload, found⟩

/-- In the registry that a started pod leaves, the sidecar refers to the parent and to nothing else. -/
theorem forest_of_podStart :
    let ended := trial .plain .agreeable Call.podStart
    Reaches .plain ended.1 ended.2 ∧ ended.2.sidecarsOf ⟨0⟩ = [⟨1⟩] ∧
      ended.2.parentOf ⟨1⟩ = some ⟨0⟩ ∧ ended.2.sidecarsOf ⟨1⟩ = [] := by
  have reached := reaches_trial .plain .agreeable Call.podStart
  rcases forest_of_reaches reached with ⟨_, _, linked, _, _, _, shallow⟩
  have listed : (trial .plain .agreeable Call.podStart).2.sidecarsOf ⟨0⟩ = [⟨1⟩] := rfl
  have parent := (linked ⟨0⟩ ⟨1⟩).mpr (listed ▸ List.mem_singleton.mpr rfl)
  exact ⟨reached, listed, parent, shallow ⟨0⟩ ⟨1⟩ parent⟩

/-! ## The lockstep of pods -/

/-- Whatever is done with a testbed, and whatever fails: the state of a sidecar accords with its
parent's; so the operations that look at the states of sidecars never refuse a call on account of
them; and no call takes an instance further than one edge of its life. -/
theorem lockstep_of_reaches {setup : Setup} {history : List Record} {registry : Registry}
    (reached : Reaches setup history registry) :
    (∀ parent, ∀ sidecar ∈ registry.sidecarsOf parent,
      ∃ driving driven, registry.stateOf parent = some driving ∧
        registry.stateOf sidecar = some driven ∧ driving.Accords driven) ∧
    (∀ operation ∈ [Operation.start, .stop, .clone], ∀ id workload,
      registry.get? id = some workload → workload.state ∈ operation.allowedStates →
      Action.guardSidecars operation workload.sidecars setup registry = .done (.ok (), registry)) ∧
    ∀ (call : Call) events result after,
      Action.Course setup call.perform registry events result after →
      ∀ id state, registry.stateOf id = some state →
        ∃ next, after.stateOf id = some next ∧ (next = state ∨ state.Leads next) := by
  rcases reached.invariant with ⟨linked, lockstep⟩
  refine ⟨fun _ _ => lockstep _ _, ?_, ?_⟩
  · intro operation shared id workload found permitted
    rw [Action.guardSidecars_eq, lockstep.permits found shared permitted]
  · intro call events result after course id state known
    exact (Call.conduct linked course).leads linked lockstep known

/-- In the registry that a started pod leaves, the sidecar has started with the parent, and a stop is
not refused on account of it. -/
theorem lockstep_of_podStart :
    let ended := trial .plain .agreeable Call.podStart
    Reaches .plain ended.1 ended.2 ∧ ended.2.stateOf ⟨0⟩ = some .started ∧
      ended.2.stateOf ⟨1⟩ = some .started ∧
      Action.guardSidecars .stop [⟨1⟩] .plain ended.2 = .done (.ok (), ended.2) := by
  have reached := reaches_trial .plain .agreeable Call.podStart
  rcases lockstep_of_reaches reached with ⟨accords, permits, _⟩
  have listed : (trial .plain .agreeable Call.podStart).2.sidecarsOf ⟨0⟩ = [⟨1⟩] := rfl
  have started : (trial .plain .agreeable Call.podStart).2.stateOf ⟨0⟩ = some .started := rfl
  rcases accords ⟨0⟩ ⟨1⟩ (listed ▸ List.mem_singleton.mpr rfl) with
      ⟨driving, driven, drives, follows, accord⟩
  rcases Option.some.inj (started.symm.trans drives) with rfl
  obtain rfl : driven = .started := accord
  exact ⟨reached, started, follows, permits .stop (by decide) ⟨0⟩ _ rfl (by decide)⟩

end Testbed
