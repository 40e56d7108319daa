import Testbed.Proofs.Supporting
import Testbed.Registry

namespace Testbed

/-- Who an instance is and how it is related to others. -/
structure Links where
  id : InstanceId
  clusterName : String
  parent : Option InstanceId
  sidecars : List InstanceId

def Instance.links (workload : Instance) : Links :=
  ⟨workload.id, workload.clusterName, workload.parent, workload.sidecars⟩

namespace Registry

/-!
# Looking at a changed registry

A registry is seen through `get?`.  Every change of a registry in this library either changes the
instances of some handles in place or adds one instance at the end, and the lemmas here say what
`get?` gives after each of them.  The views `stateOf`, `parentOf` and `sidecarsOf` are total: of a
handle without an instance there is no state, no parent and no sidecar.
-/

variable {registry : Registry} {id other : InstanceId} {workload added : Instance}
  {change : Instance → Instance}

/-! ## Views -/

/-- The state of a handle's instance, if there is one. -/
def stateOf (registry : Registry) (id : InstanceId) : Option State :=
  (registry.get? id).map Instance.state

/-- The parent of a handle's instance, if it has one. -/
def parentOf (registry : Registry) (id : InstanceId) : Option InstanceId :=
  (registry.get? id).bind Instance.parent

/-- The sidecars of a handle's instance in the order of their containers. -/
def sidecarsOf (registry : Registry) (id : InstanceId) : List InstanceId :=
  ((registry.get? id).map Instance.sidecars).getD []

/-- The links of a handle's instance, if there is one. -/
def linksOf (registry : Registry) (id : InstanceId) : Option Links :=
  (registry.get? id).map Instance.links

theorem stateOf_eq (found : registry.get? id = some workload) :
    registry.stateOf id = some workload.state := by
  rw [stateOf, found]
  rfl

theorem parentOf_eq (found : registry.get? id = some workload) :
    registry.parentOf id = workload.parent := by
  rw [parentOf, found]
  rfl

theorem sidecarsOf_eq (found : registry.get? id = some workload) :
    registry.sidecarsOf id = workload.sidecars := by
  rw [sidecarsOf, found]
  rfl

theorem mem_sidecarsOf_iff :
    other ∈ registry.sidecarsOf id ↔
      ∃ workload, registry.get? id = some workload ∧ other ∈ workload.sidecars := by
  constructor
  · intro listed
    rcases found : registry.get? id with _ | workload
    · rw [sidecarsOf, found] at listed
      cases listed
    · exact ⟨workload, rfl, sidecarsOf_eq found ▸ listed⟩
  · rintro ⟨workload, found, listed⟩
    exact sidecarsOf_eq found ▸ listed

theorem parentOf_eq_some_iff {parent : InstanceId} :
    registry.parentOf id = some parent ↔
      ∃ workload, registry.get? id = some workload ∧ workload.parent = some parent :=
  Option.bind_eq_some_iff

theorem linksOf_eq (found : registry.get? id = some workload) :
    registry.linksOf id = some workload.links := by
  rw [linksOf, found]
  rfl

theorem parentOf_of_linksOf_eq {after : Registry} (same : after.linksOf id = registry.linksOf id) :
    after.parentOf id = registry.parentOf id := by
  have view (registry : Registry) : registry.parentOf id = (registry.linksOf id).bind Links.parent := by
    rw [parentOf, linksOf, Option.bind_map]
    rfl
  rw [view, view, same]

theorem sidecarsOf_of_linksOf_eq {after : Registry} (same : after.linksOf id = registry.linksOf id) :
    after.sidecarsOf id = registry.sidecarsOf id := by
  have view (registry : Registry) :
      registry.sidecarsOf id = ((registry.linksOf id).map Links.sidecars).getD [] := by
    rw [sidecarsOf, linksOf, Option.map_map]
    rfl
  rw [view, view, same]

/-! ## Handles -/

@[ext]
theorem id_ext {first second : InstanceId} (same : first.index = second.index) : first = second := by
  cases first
  cases second
  cases same
  rfl

theorem find_eq_ok_iff : registry.find id = .ok workload ↔ registry.get? id = some workload := by
  rw [find]
  cases registry.get? id with
  | none => simp only [reduceCtorEq]
  | some found => simp only [Except.ok.injEq, Option.some.injEq]

theorem lt_of_get? (found : registry.get? id = some workload) :
    id.index < registry.instances.length :=
  (List.getElem?_eq_some_iff.mp found).choose

theorem get?_nextId : registry.get? registry.nextId = none :=
  List.getElem?_eq_none (Nat.le_refl _)

/-- A handle with an instance is not the next one. -/
theorem ne_nextId (found : registry.get? id = some workload) : id ≠ registry.nextId := by
  rintro rfl
  rw [get?_nextId] at found
  cases found

/-! ## Guards -/

theorem guard_eq_ok_iff {operation : Operation} :
    workload.guard operation = .ok () ↔ workload.state ∈ operation.allowedStates := by
  rw [Instance.guard, ensureAllowed, Operation.isAllowedIn]
  by_cases permitted : workload.state ∈ operation.allowedStates
  · simp only [List.contains_eq_mem, permitted, decide_true, if_true]
  · simp only [List.contains_eq_mem, permitted, decide_false, Bool.false_eq_true, if_false,
      reduceCtorEq]

/-- The instance of a handle, if its state permits an operation. -/
def guarded (registry : Registry) (id : InstanceId) (operation : Operation) :
    Except Error Instance := do
  let workload ← registry.find id
  workload.guard operation
  return workload

theorem guarded_eq_ok_iff {operation : Operation} :
    registry.guarded id operation = .ok workload ↔
      registry.get? id = some workload ∧ workload.state ∈ operation.allowedStates := by
  rw [← guard_eq_ok_iff, ← find_eq_ok_iff, guarded]
  cases registry.find id with
  | error error => simp only [bind, Except.bind, reduceCtorEq, false_and]
  | ok found =>
      simp only [bind, Except.bind, pure, Except.pure, Except.ok.injEq]
      constructor
      · intro passed
        split at passed
        · cases passed
        · rename_i permitted
          cases passed
          exact ⟨rfl, permitted⟩
      · rintro ⟨rfl, permitted⟩
        rw [permitted]

/-- Whether the states of all of some instances permit an operation, or the first refusal. -/
def permits (registry : Registry) (operation : Operation) : List InstanceId → Except Error Unit
  | [] => .ok ()
  | id :: rest => do
    let _ ← registry.guarded id operation
    registry.permits operation rest

theorem permits_eq_ok_iff {operation : Operation} {ids : List InstanceId} :
    registry.permits operation ids = .ok () ↔
      ∀ id ∈ ids, ∃ workload, registry.get? id = some workload ∧
        workload.state ∈ operation.allowedStates := by
  induction ids with
  | nil => simp only [permits, List.not_mem_nil, false_implies, implies_true]
  | cons first rest inductionHypothesis =>
      rw [permits, List.forall_mem_cons, ← inductionHypothesis]
      cases checked : registry.guarded first operation with
      | error error =>
          simp only [bind, Except.bind, reduceCtorEq, false_iff, not_and]
          rintro ⟨workload, found⟩
          rw [guarded_eq_ok_iff.mpr found] at checked
          cases checked
      | ok workload =>
          have found := guarded_eq_ok_iff.mp checked
          exact ⟨fun permitted => ⟨⟨workload, found⟩, permitted⟩, fun both => both.2⟩

/-- The resources of the pod of an instance, as the registry now has it. -/
def compile (registry : Registry) (settings : Settings) (parent : Instance) :
    Except Error CompiledPod := do
  let pod ← registry.pod settings parent
  pod.compile

theorem compile_eq_ok_iff {settings : Settings} {compiled : CompiledPod} :
    registry.compile settings workload = .ok compiled ↔
      ∃ pod, registry.pod settings workload = .ok pod ∧ pod.replicaSet = .ok compiled.replicaSet ∧
        compiled.supporting = pod.supporting := by
  rw [compile]
  cases registry.pod settings workload with
  | error error =>
      simp only [bind, Except.bind, reduceCtorEq, false_and, exists_false]
  | ok pod =>
      simp only [bind, Except.bind, Except.ok.injEq, exists_eq_left', Pod.compile_eq_ok_iff]

/-! ## Changes in place -/

theorem get?_update :
    (registry.update id change).get? other =
      if other = id then (registry.get? other).map change else registry.get? other := by
  rw [update, get?, List.getElem?_modify]
  by_cases same : other = id
  · subst same
    simp only [if_true, Option.map_eq_map]
    rfl
  · have apart : id.index ≠ other.index := fun equal => same (id_ext equal.symm)
    simp only [same, apart, if_false, Option.map_eq_map, Option.map_id']
    rfl

theorem get?_update_self :
    (registry.update id change).get? id = (registry.get? id).map change := by
  rw [get?_update, if_pos rfl]

theorem get?_update_of_ne (apart : other ≠ id) :
    (registry.update id change).get? other = registry.get? other := by
  rw [get?_update, if_neg apart]

/-- Whether each instance of a registry is the instance of the same handle of another one, changed in a
way that may depend on the handle. -/
def Reworked (before after : Registry) (change : InstanceId → Instance → Instance) : Prop :=
  ∀ id, after.get? id = (before.get? id).map (change id)

theorem reworked_update :
    registry.Reworked (registry.update id change) fun other workload =>
      if other = id then change workload else workload := by
  intro other
  rw [get?_update]
  by_cases same : other = id
  · simp only [same, if_true]
  · simp only [same, if_false, Option.map_id']

namespace Reworked

variable {after later : Registry} {rework further : InstanceId → Instance → Instance}

theorem trans (first : registry.Reworked after rework) (second : after.Reworked later further) :
    registry.Reworked later fun id workload => further id (rework id workload) := by
  intro id
  rw [second id, first id, Option.map_map]
  rfl

theorem found (reworked : registry.Reworked after rework) (found : registry.get? id = some workload) :
    after.get? id = some (rework id workload) := by
  rw [reworked id, found]
  rfl

theorem source (reworked : registry.Reworked after rework) (found : after.get? id = some workload) :
    ∃ source, registry.get? id = some source ∧ workload = rework id source := by
  rw [reworked id] at found
  rcases Option.map_eq_some_iff.mp found with ⟨source, known, same⟩
  exact ⟨source, known, same.symm⟩

theorem stateOf_eq (reworked : registry.Reworked after rework)
    (keeps : ∀ id workload, registry.get? id = some workload →
      (rework id workload).state = workload.state) (id : InstanceId) :
    after.stateOf id = registry.stateOf id := by
  rw [stateOf, stateOf, reworked id]
  cases found : registry.get? id with
  | none => rfl
  | some workload => exact congrArg some (keeps id workload found)

theorem linksOf_eq (reworked : registry.Reworked after rework)
    (keeps : ∀ id workload, registry.get? id = some workload →
      (rework id workload).links = workload.links) (id : InstanceId) :
    after.linksOf id = registry.linksOf id := by
  rw [linksOf, linksOf, reworked id]
  cases found : registry.get? id with
  | none => rfl
  | some workload => exact congrArg some (keeps id workload found)

end Reworked

theorem stateOf_update_of_const {state : State} (sets : ∀ workload, (change workload).state = state) :
    (registry.update id change).stateOf other =
      if other = id then (registry.stateOf other).map fun _ => state else registry.stateOf other := by
  rw [stateOf, stateOf, get?_update]
  split
  · rw [Option.map_map, Option.map_map]
    exact congrArg (Option.map · _) (funext sets)
  · rfl

/-- Gives an instance an image and changes nothing else. -/
def setImage (registry : Registry) (id : InstanceId) (reference : String) : Registry :=
  registry.update id fun current => { current with image := some reference }

theorem stateOf_setImage {reference : String} :
    (registry.setImage id reference).stateOf other = registry.stateOf other := by
  refine reworked_update.stateOf_eq (fun handle workload _ => ?_) other
  split
  · rfl
  · rfl

theorem linksOf_setImage {reference : String} :
    (registry.setImage id reference).linksOf other = registry.linksOf other := by
  refine reworked_update.linksOf_eq (fun handle workload _ => ?_) other
  split
  · rfl
  · rfl

/-- Makes an instance the last sidecar of another. -/
def attach (registry : Registry) (id sidecar : InstanceId) : Registry :=
  (registry.update sidecar fun current => { current with parent := some id }).update id
    fun current => { current with sidecars := current.sidecars ++ [sidecar] }

variable {sidecar : InstanceId}

theorem reworked_attach :
    registry.Reworked (registry.attach id sidecar) fun other workload =>
      { workload with
        parent := if other = sidecar then some id else workload.parent
        sidecars := if other = id then workload.sidecars ++ [sidecar] else workload.sidecars } := by
  intro other
  refine ((reworked_update.trans reworked_update) other).trans ?_
  apply congrArg (Option.map · _)
  funext workload
  by_cases here : other = id
  · by_cases joins : other = sidecar
    · simp only [if_pos here, if_pos joins]
    · simp only [if_pos here, if_neg joins]
  · by_cases joins : other = sidecar
    · simp only [if_neg here, if_pos joins]
    · simp only [if_neg here, if_neg joins]

theorem stateOf_attach : (registry.attach id sidecar).stateOf other = registry.stateOf other := by
  rw [stateOf, reworked_attach, Option.map_map]
  rfl

theorem parentOf_attach (joining : registry.get? sidecar = some workload) :
    (registry.attach id sidecar).parentOf other =
      if other = sidecar then some id else registry.parentOf other := by
  rw [parentOf, reworked_attach, Option.bind_map]
  split
  · rename_i joins
    rw [joins, joining]
    exact if_pos rfl
  · rename_i stays
    apply congrArg (Option.bind _)
    funext workload
    exact if_neg stays

theorem sidecarsOf_attach (found : registry.get? id = some workload) :
    (registry.attach id sidecar).sidecarsOf other =
      if other = id then registry.sidecarsOf id ++ [sidecar] else registry.sidecarsOf other := by
  rw [sidecarsOf, reworked_attach, Option.map_map]
  split
  · rename_i here
    rw [here, sidecarsOf_eq found, found]
    exact if_pos rfl
  · rename_i elsewhere
    apply congrArg fun view => (Option.map view _).getD []
    funext workload
    exact if_neg elsewhere

/-- The handles whose instances move when a pod moves. -/
def podHandles (registry : Registry) (id : InstanceId) : List InstanceId :=
  registry.sidecarsOf id ++ [id]

theorem mem_podHandles_iff :
    other ∈ registry.podHandles id ↔ other = id ∨ other ∈ registry.sidecarsOf id := by
  rw [podHandles, List.mem_append, List.mem_singleton]
  exact or_comm

private theorem get?_foldl_update (handles : List InstanceId) (idempotent : change ∘ change = change) :
    ∀ registry : Registry,
      (handles.foldl (fun moved handle => moved.update handle change) registry).get? other =
        if other ∈ handles then (registry.get? other).map change else registry.get? other := by
  induction handles with
  | nil => intro registry; rfl
  | cons first rest inductionHypothesis =>
      intro registry
      rw [List.foldl_cons, inductionHypothesis, get?_update]
      by_cases here : other = first
      · subst here
        by_cases later : other ∈ rest
        · rw [if_pos later, if_pos rfl, if_pos List.mem_cons_self, Option.map_map, idempotent]
        · rw [if_neg later, if_pos rfl, if_pos List.mem_cons_self]
      · simp only [List.mem_cons, here, if_false, false_or]

/-- Moving a pod moves the instance and its sidecars, and no others. -/
theorem get?_setPodState {state : State} :
    (registry.setPodState id state).get? other =
      if other ∈ registry.podHandles id then
        (registry.get? other).map fun workload => { workload with state }
      else registry.get? other := by
  let move (workload : Instance) : Instance := { workload with state }
  have moved : registry.setPodState id state =
      (registry.podHandles id).foldl (fun moved handle => moved.update handle move) registry := by
    rw [podHandles, List.foldl_append]
    rfl
  rw [moved]
  exact get?_foldl_update (registry.podHandles id) rfl registry

theorem reworked_setPodState {state : State} :
    registry.Reworked (registry.setPodState id state) fun other workload =>
      if other ∈ registry.podHandles id then { workload with state } else workload := by
  intro other
  rw [get?_setPodState]
  by_cases member : other ∈ registry.podHandles id
  · simp only [member, if_true]
  · simp only [member, if_false, Option.map_id']

theorem stateOf_setPodState {state : State} :
    (registry.setPodState id state).stateOf other =
      if other ∈ registry.podHandles id then (registry.stateOf other).map fun _ => state
      else registry.stateOf other := by
  rw [stateOf, stateOf, get?_setPodState]
  split
  · rw [Option.map_map, Option.map_map]
    rfl
  · rfl

theorem linksOf_setPodState {state : State} :
    (registry.setPodState id state).linksOf other = registry.linksOf other := by
  refine reworked_setPodState.linksOf_eq (fun handle workload _ => ?_) other
  split
  · rfl
  · rfl

/-- Whether a handle's instance is started and is no sidecar. -/
def HasStarted (registry : Registry) (id : InstanceId) : Prop :=
  registry.stateOf id = some .started ∧ registry.parentOf id = none

theorem hasStarted_setPodState (found : registry.get? id = some workload)
    (leads : workload.parent = none) : (registry.setPodState id .started).HasStarted id := by
  constructor
  · rw [stateOf_setPodState, if_pos (mem_podHandles_iff.mpr (Or.inl rfl)), stateOf_eq found]
    rfl
  · rw [parentOf_of_linksOf_eq linksOf_setPodState, parentOf_eq found, leads]

/-! ## Growth -/

theorem add_eq_ok_iff {grown : Registry} :
    registry.add added = .ok grown ↔
      registry.hasClusterName added.clusterName = false ∧
        grown = ⟨registry.instances ++ [added]⟩ := by
  rw [add]
  cases registry.hasClusterName added.clusterName with
  | true => simp only [if_true, reduceCtorEq, Bool.true_eq_false, false_and]
  | false =>
      simp only [Bool.false_eq_true, if_false, Except.ok.injEq, true_and]
      exact eq_comm

theorem hasClusterName_eq_false_iff {name : String} :
    registry.hasClusterName name = false ↔
      ∀ id workload, registry.get? id = some workload → workload.clusterName ≠ name := by
  simp only [hasClusterName, List.any_eq_false, beq_iff_eq]
  constructor
  · intro free id workload found
    exact free workload (List.mem_of_getElem? found)
  · intro free workload member
    rcases List.getElem?_of_mem member with ⟨index, found⟩
    exact free ⟨index⟩ workload found

/-- An added instance has the next handle, and those before it keep theirs. -/
theorem get?_append :
    (Registry.mk (registry.instances ++ [added])).get? other =
      if other = registry.nextId then some added else registry.get? other := by
  by_cases same : other = registry.nextId
  · rw [if_pos same, same]
    exact List.getElem?_concat_length
  · have apart : other.index ≠ registry.instances.length := fun equal => same (id_ext equal)
    rw [if_neg same, get?, get?, List.getElem?_append]
    by_cases below : other.index < registry.instances.length
    · rw [if_pos below]
    · have beyond : registry.instances.length < other.index := by omega
      rw [if_neg below, List.getElem?_eq_none (Nat.le_of_lt beyond)]
      apply List.getElem?_eq_none
      rw [List.length_singleton]
      omega

theorem get?_add {grown : Registry} (joined : registry.add added = .ok grown) :
    grown.get? other = if other = registry.nextId then some added else registry.get? other := by
  rcases add_eq_ok_iff.mp joined with ⟨_, rfl⟩
  exact get?_append

/-- The instances of before are the same in a registry that has grown. -/
theorem found_add {grown : Registry} (joined : registry.add added = .ok grown)
    (found : registry.get? id = some workload) : grown.get? id = some workload := by
  rw [get?_add joined, if_neg (ne_nextId found)]
  exact found

/-- The next handle has no links before its instance joins, and none after it joined alone. -/
theorem parentOf_add {grown : Registry} (joined : registry.add added = .ok grown)
    (alone : added.parent = none) : grown.parentOf other = registry.parentOf other := by
  rw [parentOf, parentOf, get?_add joined]
  split
  · rename_i same
    rw [same, get?_nextId]
    exact alone
  · rfl

theorem sidecarsOf_add {grown : Registry} (joined : registry.add added = .ok grown)
    (single : added.sidecars = []) : grown.sidecarsOf other = registry.sidecarsOf other := by
  rw [sidecarsOf, sidecarsOf, get?_add joined]
  split
  · rename_i same
    rw [same, get?_nextId]
    exact single
  · rfl

theorem stateOf_add {grown : Registry} (joined : registry.add added = .ok grown) {state : State}
    (known : registry.stateOf other = some state) : grown.stateOf other = some state := by
  rcases Option.map_eq_some_iff.mp known with ⟨workload, found, same⟩
  rw [Registry.stateOf_eq (found_add joined found), same]

theorem eq_of_get?_eq {first second : Registry} (same : ∀ id, first.get? id = second.get? id) :
    first = second := by
  cases first
  cases second
  exact congrArg Registry.mk (List.ext_getElem? fun index => same ⟨index⟩)

/-- To join under a parent and be listed there is to join alone and be attached. -/
theorem add_under {grown : Registry} (apart : registry.nextId ≠ id)
    (joined : registry.add { added with parent := some id } = .ok grown) :
    ∃ alone, registry.add { added with parent := none } = .ok alone ∧
      grown.update id (fun current =>
        { current with sidecars := current.sidecars ++ [registry.nextId] }) =
        alone.attach id registry.nextId := by
  have stood : registry.add { added with parent := none } = .ok _ :=
    add_eq_ok_iff.mpr ⟨(add_eq_ok_iff.mp joined).1, rfl⟩
  refine ⟨_, stood, eq_of_get?_eq fun other => ?_⟩
  rw [get?_update, reworked_attach, get?_add joined, get?_add stood]
  by_cases new : other = registry.nextId
  · subst new
    simp only [if_pos, if_neg apart, Option.map_some]
  · by_cases here : other = id
    · subst here
      simp only [if_pos, if_neg new]
    · simp only [if_neg new, if_neg here, Option.map_id']

end Registry
end Testbed
