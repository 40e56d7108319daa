import Testbed.Proofs.Attribution.Describe
import Testbed.Proofs.Supply.Basic

namespace Testbed

/-!
# What descriptions lack

A file is given to an instance that is prepared, and then there is a context to put it in; a commit and
the choice of a user find a context for the same reason.  A replacement compiles a pod that is started, so
everybody in it has an image.  Nothing else in a description can be missed.
-/

variable {workload : Instance} {error : Error}

theorem Instance.reportsLack_of_edit {edit : Edit} (failed : workload.edit edit = .error error) :
    error.reportsLack = false := by
  rcases bind_eq_error_iff.mp failed with forbidden | ⟨_, _, faulty⟩
  · by_cases permitted : workload.state ∈ edit.operation.allowedStates
    · rw [Registry.guard_eq_ok_iff.mpr permitted] at forbidden
      cases forbidden
    · rw [guard_of_forbidden permitted] at forbidden
      obtain rfl := Except.error.inj forbidden
      rfl
  split at faulty
  · obtain rfl := Except.error.inj faulty
    rfl
  · cases faulty

theorem Instance.reportsLack_of_checkFile {destination owner : String}
    (failed : workload.checkFile destination owner = .error error) : error.reportsLack = false := by
  unfold checkFile at failed
  split at failed
  · obtain rfl := Except.error.inj failed
    rfl
  split at failed
  · obtain rfl := Except.error.inj failed
    rfl
  rcases bind_eq_error_iff.mp failed with unowned | ⟨⟨_, group⟩, _, mixed⟩
  · rw [parseOwner] at unowned
    split at unowned
    · cases unowned
    · obtain rfl := Except.error.inj unowned
      rfl
  dsimp only at mixed
  split at mixed
  · split at mixed
    · obtain rfl := Except.error.inj mixed
      rfl
    · cases mixed
  · cases mixed

theorem Action.reportsLack_of_checkFolder {path destination owner : String} {files : List SourceFile}
    (failed : checkFolder workload path destination owner files = .error error) :
    error.reportsLack = false := by
  induction files with
  | nil => cases failed
  | cons first rest inductionHypothesis =>
      rw [checkFolder] at failed
      split at failed
      · obtain rfl := Except.error.inj failed
        rfl
      rcases bind_eq_error_iff.mp failed with unfit | ⟨_, _, onward⟩
      · exact Instance.reportsLack_of_checkFile unfit
      rcases bind_eq_error_iff.mp onward with others | ⟨_, _, impossible⟩
      · exact inductionHypothesis others
      · cases impossible

namespace Action

open LacksNothing

variable {setup : Setup} {before : Registry} {id : InstanceId}

/-! ## Images -/

theorem lacksNothing_create {name : String} : LacksNothing setup before (create name) := by
  refine named_bind fun clusterName => registry_bind ?_
  exact ofExcept_bind (fun _ => Registry.reportsLack_of_add) fun grown _ => of_done rfl fun _ => nofun

theorem lacksNothing_exchange {unit : ReplicaSet} {grace : Option UInt32} :
    LacksNothing setup before (exchange workload unit grace) :=
  settings_bind (cluster_bind fun _ => await_bind fun _ => of_cluster)

theorem lacksNothing_replace {reference : String} {grace : Option UInt32}
    (supplied : before.IsSupplied) (found : before.get? id = some workload)
    (started : workload.state = .started) :
    LacksNothing setup before (replace id reference grace) := by
  intro events error after course
  have late : workload.state ≠ .created ∧ workload.state ≠ .preparing := by
    rw [started]
    exact ⟨nofun, nofun⟩
  have outside : id ∉ workload.sidecars := Registry.sidecarsOf_eq found ▸ supplied.linked.not_mem_own
  rcases Registry.exists_compile_as supplied.linked supplied.lockstep supplied.imaged found
    { workload with image := some reference } late rfl (Option.some_ne_none reference) setup.settings with
      ⟨compiled, compiles⟩
  rcases (course_replace_iff_of_outside found outside).mp course with
    ⟨_, failed, _⟩ | ⟨_, _, exchanged, _⟩
  · rw [compiles] at failed
    cases failed
  · exact lacksNothing_exchange _ _ _ exchanged

theorem lacksNothing_setImage {reference : String} (supplied : before.IsSupplied) :
    LacksNothing setup before (setImage id reference) := by
  refine guarded_bind fun workload found permitted => ?_
  by_cases started : workload.state = .started
  · rw [if_pos started]
    exact ensureNoSidecar_bind (lacksNothing_replace supplied found started)
  · rw [if_neg started]
    exact image_bind fun context => of_update

theorem lacksNothing_setImageInstant {reference : String} (supplied : before.IsSupplied) :
    LacksNothing setup before (setImageInstant id reference) := by
  refine guarded_bind fun workload found permitted => ensureNoSidecar_bind ?_
  exact lacksNothing_replace supplied found (List.mem_singleton.mp permitted)

theorem lacksNothing_setGitRepo {source : GitSource} :
    LacksNothing setup before (setGitRepo id source) :=
  guarded_bind fun _ _ _ => settings_bind (image_bind fun _ => of_update)

theorem lacksNothing_pushedImage {name : String} {context : ContextId} :
    LacksNothing setup before (pushedImage name context) := by
  refine image_bind fun hash => ask_bind fun recorded => ?_
  cases recorded with
  | some recorded => exact of_pure
  | none => exact settings_bind (ask_bind fun tag => image_bind fun _ => of_ask)

theorem lacksNothing_commit (supplied : before.IsSupplied) : LacksNothing setup before (commit id) := by
  refine guarded_bind fun workload found permitted => ?_
  have preparing : workload.state = .preparing := List.mem_singleton.mp permitted
  have begun : workload.state ≠ .created := by
    rw [preparing]
    exact nofun
  rcases supplied.exists_context found begun with ⟨context, known⟩
  rw [known]
  refine ask_bind fun isChanged => ?_
  dsimp only
  split
  · exact lacksNothing_pushedImage.bind fun _ => of_update
  · exact ask_bind fun reference => of_update

/-! ## Edits and files -/

theorem lacksNothing_edit {change : Edit} : LacksNothing setup before (edit id change) := by
  refine find_bind fun workload _ => ?_
  exact ofExcept_bind (fun _ => Instance.reportsLack_of_edit) fun edited _ => of_update

theorem lacksNothing_editAll {edits : List Edit} : LacksNothing setup before (editAll id edits) := by
  induction edits generalizing before with
  | nil => exact of_pure
  | cons first rest inductionHypothesis => exact lacksNothing_edit.bind fun _ => inductionHypothesis

theorem lacksNothing_insertFile {contents : List UInt8} {destination owner : String}
    (supplied : before.IsSupplied) :
    LacksNothing setup before (insertFile id contents destination owner) := by
  refine find_bind fun workload found => ?_
  refine ofExcept_bind (fun _ => Instance.reportsLack_of_checkFile) fun group _ => ?_
  by_cases preparing : workload.state = .preparing
  · have begun : workload.state ≠ .created := by
      rw [preparing]
      exact nofun
    rcases supplied.exists_context found begun with ⟨context, known⟩
    rw [if_pos preparing, known]
    exact image_bind fun _ => of_update
  · rw [if_neg preparing]
    exact of_update

theorem lacksNothing_insertFiles {owner : String} {files : List (String × List UInt8)}
    (supplied : before.IsSupplied)
    (describable : ∀ state, before.stateOf id = some state → state ∈ Operation.descriptive) :
    LacksNothing setup before (insertFiles id owner files) := by
  induction files generalizing before with
  | nil => exact of_pure
  | cons first rest inductionHypothesis =>
      have inserts : Proceeds setup 0 0 (insertFile id first.2 first.1 owner) before _ :=
        proceeds_insertFile describable
      refine bind_moves supplied (lacksNothing_insertFile supplied) inserts fun supplied same => ?_
      exact inductionHypothesis supplied (same ▸ describable)

theorem lacksNothing_addFileBytes {contents : List UInt8} {destination owner : String}
    (supplied : before.IsSupplied) :
    LacksNothing setup before (addFileBytes id contents destination owner) :=
  guarded_bind fun _ _ _ => lacksNothing_insertFile supplied

theorem lacksNothing_addFile {path destination owner : String} (supplied : before.IsSupplied) :
    LacksNothing setup before (addFile id path destination owner) := by
  refine guarded_bind fun workload _ _ => ask_bind fun reply => ?_
  cases reply with
  | error cause => exact of_fail rfl
  | ok contents => exact lacksNothing_insertFile supplied

theorem lacksNothing_addFolder {path destination owner : String} (supplied : before.IsSupplied) :
    LacksNothing setup before (addFolder id path destination owner) := by
  refine guarded_bind fun workload found permitted => ask_bind fun reply => ?_
  cases reply with
  | error cause => exact of_fail rfl
  | ok entries =>
      dsimp only
      split
      · exact of_fail rfl
      · refine ofExcept_bind (fun _ => reportsLack_of_checkFolder) fun files _ => ?_
        refine lacksNothing_insertFiles supplied fun state known => ?_
        rw [Registry.stateOf_eq found, Option.some.injEq] at known
        exact known ▸ permitted

theorem lacksNothing_setUser {user : String} (supplied : before.IsSupplied) :
    LacksNothing setup before (setUser id user) := by
  refine guarded_bind fun workload found permitted => ?_
  have begun : workload.state ≠ .created := by
    rw [List.mem_singleton.mp permitted]
    exact nofun
  rcases supplied.exists_context found begun with ⟨context, known⟩
  rw [known]
  exact of_image

/-! ## Copies -/

theorem lacksNothing_addCopy {source : Instance} {name : String} {parent : Option InstanceId} :
    LacksNothing setup before (addCopy source name parent) := by
  refine named_bind fun clusterName => registry_bind ?_
  exact ofExcept_bind (fun _ => Registry.reportsLack_of_add) fun grown _ => of_done rfl fun _ => nofun

theorem lacksNothing_copySidecars {copy : InstanceId} {ids : List InstanceId} :
    LacksNothing setup before (copySidecars copy ids) := by
  induction ids generalizing before with
  | nil => exact of_pure
  | cons first rest inductionHypothesis =>
      refine find_bind fun source _ => lacksNothing_addCopy.bind fun _ => ?_
      exact bind of_update fun _ => inductionHypothesis

theorem lacksNothing_cloneWithName {name : String} :
    LacksNothing setup before (cloneWithName id name) := by
  refine guarded_bind fun workload _ _ => guardSidecars_bind (lacksNothing_addCopy.bind fun _ => ?_)
  exact lacksNothing_copySidecars.bind fun _ => of_pure

theorem lacksNothing_clone : LacksNothing setup before (clone id) :=
  find_bind fun _ _ => lacksNothing_cloneWithName

/-! ## Sidecars -/

theorem reportsLack_of_attachmentFault {parent candidate : Instance} {error : Error}
    (unfit : attachmentFault? parent candidate = some error) : error.reportsLack = false := by
  unfold attachmentFault? at unfit
  split at unfit
  · obtain rfl := Option.some.inj unfit
    rfl
  split at unfit
  · obtain rfl := Option.some.inj unfit
    rfl
  split at unfit
  · obtain rfl := Option.some.inj unfit
    rfl
  split at unfit
  · obtain rfl := Option.some.inj unfit
    rfl
  · cases unfit

theorem lacksNothing_addSidecar {sidecar : InstanceId} :
    LacksNothing setup before (addSidecar id sidecar) := by
  refine guarded_bind fun workload _ _ => registry_bind ?_
  cases before.get? sidecar with
  | none => exact of_fail rfl
  | some candidate =>
      dsimp only
      split
      · exact of_fail rfl
      · cases unfit : attachmentFault? workload candidate with
        | none => exact bind of_update fun _ => of_update
        | some error => exact of_fail (reportsLack_of_attachmentFault unfit)

/-- What a commit needs is there because a first image has been chosen. -/
theorem lacksNothing_createCommitted {name reference : String} (supplied : before.IsSupplied) :
    LacksNothing setup before (createCommitted name reference) := by
  have creates : Proceeds setup before.instances.length 0 (create name) before _ := proceeds_create
  refine bind_moves supplied lacksNothing_create creates fun {made middle} supplied created => ?_
  rcases created with ⟨rfl, created⟩
  have young : before.instances.length ≤ before.nextId.index ∨ 0 < 0 := Or.inl (Nat.le_refl _)
  have chooses : Proceeds setup before.instances.length 0 (setImage before.nextId reference) middle _ :=
    proceeds_setImage created young
  refine bind_moves supplied (lacksNothing_setImage supplied) chooses fun supplied _ => ?_
  exact (lacksNothing_commit supplied).bind fun _ => of_pure

theorem lacksNothing_inject {role : Attendant} {parent : Instance} (supplied : before.IsSupplied) :
    LacksNothing setup before (inject role parent) := by
  have makes {name reference : String} : Proceeds setup before.instances.length 0
      (createCommitted name reference) before _ := proceeds_createCommitted (Nat.le_refl _)
  have attaching {middle : Registry} {sidecar : InstanceId} {change : Instance → Instance} :
      LacksNothing setup middle (addSidecar parent.id sidecar >>= fun _ => update parent.id change) :=
    lacksNothing_addSidecar.bind fun _ => of_update
  cases role with
  | collector =>
      refine settings_bind ?_
      refine bind_moves supplied (lacksNothing_createCommitted supplied) makes fun supplied _ => ?_
      refine (lacksNothing_addFileBytes supplied).bind fun _ => ?_
      exact lacksNothing_editAll.bind fun _ => attaching
  | shaper =>
      refine settings_bind ((lacksNothing_createCommitted supplied).bind fun _ => ?_)
      exact lacksNothing_editAll.bind fun _ => find_bind fun _ _ => attaching

theorem lacksNothing_injectSidecars {parent : Instance} (supplied : before.IsSupplied)
    (found : before.get? parent.id = some parent) (committed : parent.state = .committed) :
    LacksNothing setup before (injectSidecars parent) := by
  have known := (Registry.stateOf_eq found).trans (congrArg some committed)
  have ifWanted {role : Attendant} {wants : Bool} {middle : Registry} (supplied : middle.IsSupplied) :
      LacksNothing setup middle (if wants = true then inject role parent else pure ()) := by
    split
    · exact lacksNothing_inject supplied
    · exact of_pure
  rw [injectSidecars_eq]
  have injects : Proceeds setup before.instances.length 0
      (if wantsCollector parent = true then inject .collector parent else pure ()) before
      fun _ _ => True := by
    split
    · exact proceeds_injectCollector (Nat.le_refl _) (Registry.lt_of_get? found) known
    · exact .of_pure trivial
  exact bind_moves supplied (ifWanted supplied) injects fun supplied _ => ifWanted supplied

end Action
end Testbed
