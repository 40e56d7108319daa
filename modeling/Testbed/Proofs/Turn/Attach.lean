import Testbed.Action.Clone
import Testbed.Proofs.Turn.Inject
import Testbed.Proofs.Turn.Reach

namespace Testbed
namespace Action

/-!
# How instances are attached, copied and started, step by step

A clone copies an instance with its sidecars.  A first start looks after its instance before it applies
anything, so a start that succeeds has left a note of every attendant that was wanted.
-/

open Passes

variable {setup : Setup} {call : Call} {before : Registry} {id : InstanceId} {parent : Instance}

/-! ## Copies -/

/-- A copy is fresh, whatever was noted of its source. -/
theorem isFresh_duplicate {source : Instance} {id : InstanceId} {name clusterName : String} :
    (source.duplicate id name clusterName).IsFresh where
  leads := rfl
  single := rfl
  unnoted role := by cases role <;> rfl
  unshaped := rfl

theorem passes_copySidecars {leader : InstanceId} (sources : List InstanceId)
    (clones : call.cloneOf?.isSome = true) (led : before.get? leader = some parent) :
    Passes setup call (copySidecars leader sources) before fun _ _ => True := by
  induction sources generalizing before parent with
  | nil => exact of_pure trivial
  | cons first rest inductionHypothesis =>
      refine find_bind fun {source} found => ?_
      refine passes_addCopy_bind fun joined events result after course => ?_
      have onward := course_update_bind.mp course
      rcases Registry.add_under (Registry.ne_nextId led).symm joined with ⟨alone, stood, same⟩
      rw [same] at onward
      have there : (alone.attach leader before.nextId).get? leader = some _ :=
        Registry.reworked_attach.found (Registry.found_add stood led)
      rcases inductionHypothesis there _ _ _ onward with ⟨steps, holds⟩
      exact ⟨.next (.follow clones led isFresh_duplicate stood) steps, holds⟩

theorem passes_cloneWithName {name : String} (clones : call.cloneOf?.isSome = true) :
    Passes setup call (cloneWithName id name) before fun _ _ => True := by
  refine guarded_bind fun {workload} found _ => ?_
  refine done_bind (guardSidecars_eq .clone workload.sidecars) fun _ => ?_
  refine passes_addCopy_bind fun {clusterName grown} joined events result after course => ?_
  have led := (Registry.get?_add joined).trans (if_pos rfl)
  have copying : Passes setup call
      (copySidecars before.nextId workload.sidecars >>= fun _ => pure before.nextId) grown
      fun _ _ => True :=
    (passes_copySidecars _ clones led).bind fun _ _ => of_pure trivial
  rcases copying _ _ _ course with ⟨steps, holds⟩
  exact ⟨.next (.join isFresh_duplicate joined) steps, holds⟩

theorem passes_clone (clones : call.cloneOf?.isSome = true) :
    Passes setup call (clone id) before fun _ _ => True :=
  find_bind fun _ => passes_cloneWithName clones

theorem passes_addSidecar {sidecar : InstanceId} :
    Passes setup (.addSidecar id sidecar) (addSidecar id sidecar) before fun _ _ => True := by
  intro events result after course
  rcases course_addSidecar course with ⟨rfl, ⟨_, rfl⟩ | ⟨_, rfl, parent, found⟩⟩
  · exact ⟨.none, fun _ _ => trivial⟩
  · exact ⟨.single (.attach rfl found), fun _ _ => trivial⟩

/-! ## Starts -/

theorem passes_applyAll {name : String} {operation : Operation} (resources : List Resource) :
    Passes setup call (applyAll name operation resources) before fun _ after => after = before := by
  induction resources with
  | nil => exact of_pure rfl
  | cons first rest inductionHypothesis =>
      exact cluster_bind (fun _ => ⟨rfl, nofun⟩) fun _ => inductionHypothesis

/-- Whether a start has left its instance with a note of every attendant that was wanted. -/
def IsAttended (workload : Instance) (id : InstanceId) (after : Registry) : Prop :=
  ∃ left, after.get? id = some left ∧
    ∀ role : Attendant, role.isWanted workload.wishes = true → role.isNoted left = true

private theorem passes_settle {name : String} {replicaSet : ReplicaSet} {workload : Instance}
    (starts : call.startOf? = some id) (attended : IsAttended workload id before) :
    Passes setup call
      (cluster name .start (.apply (.replicaSet replicaSet)) >>= fun _ => setPodState id .started)
      before fun _ after => IsAttended workload id after := by
  refine cluster_bind (fun _ => ⟨rfl, nofun⟩) fun _ => ?_
  refine registry_bind (of_setRegistry (.settle starts) ?_)
  rcases attended with ⟨left, there, noted⟩
  refine ⟨_, Registry.reworked_setPodState.found there, fun role wanted => ?_⟩
  split
  · exact Attendant.isNoted_congr (noted role wanted) rfl rfl
  · exact noted role wanted

/-- A first start that succeeds has looked after its instance. -/
theorem passes_startWithoutWait (linked : before.WellLinked) (starts : call.startOf? = some id) :
    Passes setup call (startWithoutWait id) before fun _ after =>
      ∀ workload, before.get? id = some workload → workload.state = .committed →
        IsAttended workload id after := by
  refine guarded_bind fun {workload} found _ => ?_
  refine ensureNoSidecar_bind fun leads => ?_
  refine done_bind (guardSidecars_eq .start workload.sidecars) fun passed => ?_
  dsimp only
  by_cases committed : workload.state = .committed
  · simp only [if_pos committed]
    have handle := linked.handle found
    subst handle
    refine (passes_injectSidecars starts found).bind fun _ attended => ?_
    refine find_bind fun {again} located => ?_
    refine done_bind (compile_eq again) fun {compiled} _ => ?_
    refine (passes_applyAll _).bind fun _ same => ?_
    subst same
    refine (passes_settle starts attended).mono fun _ _ attended other known _ => ?_
    rcases Option.some.inj (found.symm.trans known) with rfl
    exact attended
  · simp only [if_neg committed]
    refine find_bind fun {again} located => ?_
    refine done_bind (compile_eq again) fun {compiled} _ => ?_
    refine cluster_bind (fun _ => ⟨rfl, nofun⟩) fun _ => ?_
    refine registry_bind (of_setRegistry (.settle starts) fun other known state => ?_)
    rcases Option.some.inj (found.symm.trans known) with rfl
    exact absurd state committed

theorem passes_start (linked : before.WellLinked) (starts : call.startOf? = some id) :
    Passes setup call (start id) before fun _ after =>
      ∀ workload, before.get? id = some workload → workload.state = .committed →
        IsAttended workload id after := by
  refine (passes_startWithoutWait linked starts).bind fun _ attended => ?_
  exact passes_waitRunning.mono fun _ _ same => same ▸ attended

end Action
end Testbed
