import Testbed.Proofs.Amendment
import Testbed.Proofs.Attribution.Basic
import Testbed.Proofs.Course.Replacement

namespace Testbed

/-!
# Errors of descriptions

Whatever goes wrong while instances are described, copied and attached, the error names one of them.
This includes the sidecars that a start makes, describes and attaches: as soon as one of them is
registered, errors about it have its name.
-/

variable {workload edited : Instance} {error : Error}

/-! ## Errors of one instance -/

theorem Instance.instance?_of_guard {operation : Operation}
    (failed : workload.guard operation = .error error) : error.instance? = some workload.name := by
  by_cases permitted : workload.state ∈ operation.allowedStates
  · rw [Registry.guard_eq_ok_iff.mpr permitted] at failed
    cases failed
  · rw [guard_of_forbidden permitted] at failed
    obtain rfl := Except.error.inj failed
    rfl

theorem Instance.instance?_of_edit {edit : Edit} (failed : workload.edit edit = .error error) :
    error.instance? = some workload.name := by
  rcases bind_eq_error_iff.mp failed with forbidden | ⟨_, _, faulty⟩
  · exact instance?_of_guard forbidden
  split at faulty
  · obtain rfl := Except.error.inj faulty
    rfl
  · cases faulty

theorem Edit.name_change (edit : Edit) : (edit.change workload).name = workload.name := by
  cases edit with
  | setProbe role probe => cases role <;> rfl
  | _ => rfl

theorem Instance.instance?_of_parseOwner {owner : String}
    (failed : workload.parseOwner owner = .error error) : error.instance? = some workload.name := by
  rw [parseOwner] at failed
  split at failed
  · cases failed
  · obtain rfl := Except.error.inj failed
    rfl

theorem Instance.instance?_of_checkFile {destination owner : String}
    (failed : workload.checkFile destination owner = .error error) :
    error.instance? = some workload.name := by
  unfold checkFile at failed
  split at failed
  · obtain rfl := Except.error.inj failed
    rfl
  split at failed
  · obtain rfl := Except.error.inj failed
    rfl
  rcases bind_eq_error_iff.mp failed with unowned | ⟨⟨_, group⟩, _, mixed⟩
  · exact instance?_of_parseOwner unowned
  dsimp only at mixed
  split at mixed
  · split at mixed
    · obtain rfl := Except.error.inj mixed
      rfl
    · cases mixed
  · cases mixed

theorem Action.instance?_of_checkFolder {path destination owner : String} {files : List SourceFile}
    (failed : checkFolder workload path destination owner files = .error error) :
    error.instance? = some workload.name := by
  induction files with
  | nil => cases failed
  | cons first rest inductionHypothesis =>
      rw [checkFolder] at failed
      split at failed
      · obtain rfl := Except.error.inj failed
        rfl
      rcases bind_eq_error_iff.mp failed with unfit | ⟨_, _, onward⟩
      · exact Instance.instance?_of_checkFile unfit
      rcases bind_eq_error_iff.mp onward with others | ⟨_, _, impossible⟩
      · exact inductionHypothesis others
      · cases impossible

namespace Action

open Attributes

variable {setup : Setup} {before : Registry} {id : InstanceId}

/-! ## Images -/

theorem attributes_exchange {unit : ReplicaSet} {grace : Option UInt32} (known : before.Knows workload.name) :
    Attributes setup before (exchange workload unit grace) :=
  settings_bind (cluster_bind known fun _ => await_bind known fun _ => of_cluster known)

/-- A pod that cannot be compiled is one of the instance with its new image, but who it names is known with the
previous one as well. -/
theorem attributes_replace {reference : String} {grace : Option UInt32}
    (found : before.get? id = some workload) (kin : before.HasKin workload) :
    Attributes setup before (replace id reference grace) := by
  intro events result after course
  have known := Registry.knows_of_found found
  have writing : before.Keeps (before.setImage id reference) := .update fun _ _ => rfl
  have restoring : (before.setImage id reference).Keeps before := by
    have keeps : (before.setImage id reference).Keeps ((before.setImage id reference).update id
        fun current => { current with image := workload.image }) := .update fun _ _ => rfl
    rwa [Registry.update_setImage found] at keeps
  rcases (course_replace_iff found).mp course with
    ⟨error, failed, _, rfl, unchanged⟩ | ⟨compiled, _, exchanged, rfl⟩
  · rw [unchanged]
    refine ⟨.refl, fun _ same => Or.inl ?_⟩
    obtain rfl := Except.error.inj same
    have moved : (before.setImage id reference).HasKin { workload with image := some reference } :=
      ⟨fun parent attached => writing.has (kin.1 parent attached),
        fun sidecar listed => writing.has (kin.2 sidecar listed)⟩
    have named : (before.setImage id reference).Names error := by
      refine Registry.names_of_compile ?_ moved failed
      exact writing.knows known
    rcases named with ⟨name, about, there⟩
    exact ⟨name, about, restoring.knows there⟩
  · have accounts := (attributes_exchange known _ _ _ exchanged).2
    cases result with
    | error error => exact ⟨.refl, accounts⟩
    | ok value => exact ⟨writing, fun _ impossible => nomatch impossible⟩

theorem attributes_setImage {reference : String} (found : before.get? id = some workload)
    (kin : before.HasKin workload) : Attributes setup before (setImage id reference) := by
  have known := Registry.knows_of_found found
  refine guarded_bind found ?_
  split
  · exact ensureNoSidecar_bind known (attributes_replace found kin)
  · exact image_bind known fun context => of_update fun _ _ => rfl

theorem attributes_setImageInstant {reference : String} (found : before.get? id = some workload)
    (kin : before.HasKin workload) : Attributes setup before (setImageInstant id reference) := by
  have known := Registry.knows_of_found found
  exact guarded_bind found (ensureNoSidecar_bind known (attributes_replace found kin))

theorem attributes_setGitRepo {source : GitSource} (found : before.get? id = some workload) :
    Attributes setup before (setGitRepo id source) := by
  refine guarded_bind found (settings_bind ?_)
  exact image_bind (Registry.knows_of_found found) fun context => of_update fun _ _ => rfl

theorem attributes_pushedImage {name : String} {context : ContextId} (known : before.Knows name) :
    Attributes setup before (pushedImage name context) := by
  refine image_bind known fun hash => ask_bind fun recorded => ?_
  cases recorded with
  | some recorded => exact of_pure
  | none =>
      refine settings_bind (ask_bind fun tag => image_bind known fun _ => ?_)
      exact of_ask

theorem attributes_commit (found : before.get? id = some workload) :
    Attributes setup before (commit id) := by
  have known := Registry.knows_of_found found
  refine guarded_bind found ?_
  cases workload.context with
  | none => exact of_fail known rfl
  | some context =>
      refine ask_bind fun isChanged => ?_
      dsimp only
      split
      · exact (attributes_pushedImage known).bind fun _ _ => of_update fun _ _ => rfl
      · exact ask_bind fun reference => of_update fun _ _ => rfl

/-! ## Edits and files -/

theorem attributes_edit {change : Edit} (found : before.get? id = some workload) :
    Attributes setup before (edit id change) := by
  have known := Registry.knows_of_found found
  refine find_bind found (ofExcept_bind known (fun _ => Instance.instance?_of_edit) fun edited same => ?_)
  rcases Instance.edit_eq_ok_iff.mp same with ⟨_, _, rfl⟩
  refine of_update fun current there => ?_
  rcases Option.some.inj (found.symm.trans there) with rfl
  exact change.name_change

theorem attributes_editAll {edits : List Edit} (registered : before.Has id) :
    Attributes setup before (editAll id edits) := by
  induction edits generalizing before with
  | nil => exact of_pure
  | cons first rest inductionHypothesis =>
      rcases registered with ⟨workload, found⟩
      exact (attributes_edit found).bind fun _ keeps => inductionHypothesis (keeps.has ⟨workload, found⟩)

theorem attributes_insertFile {contents : List UInt8} {destination owner : String}
    (registered : before.Has id) : Attributes setup before (insertFile id contents destination owner) := by
  rcases registered with ⟨workload, found⟩
  have known := Registry.knows_of_found found
  refine find_bind found ?_
  refine ofExcept_bind known (fun _ => Instance.instance?_of_checkFile) fun group _ => ?_
  split
  · cases workload.context with
    | none => exact of_fail known rfl
    | some context => exact image_bind known fun _ => of_update fun _ _ => rfl
  · exact of_update fun _ _ => rfl

theorem attributes_insertFiles {owner : String} {files : List (String × List UInt8)}
    (registered : before.Has id) : Attributes setup before (insertFiles id owner files) := by
  induction files generalizing before with
  | nil => exact of_pure
  | cons first rest inductionHypothesis =>
      refine (attributes_insertFile registered).bind fun _ keeps => ?_
      exact inductionHypothesis (keeps.has registered)

theorem attributes_addFileBytes {contents : List UInt8} {destination owner : String}
    (registered : before.Has id) :
    Attributes setup before (addFileBytes id contents destination owner) := by
  rcases registered with ⟨workload, found⟩
  exact guarded_bind found (attributes_insertFile ⟨workload, found⟩)

theorem attributes_addFile {path destination owner : String} (found : before.get? id = some workload) :
    Attributes setup before (addFile id path destination owner) := by
  refine guarded_bind found (ask_bind fun reply => ?_)
  cases reply with
  | error cause => exact of_fail (Registry.knows_of_found found) rfl
  | ok contents => exact attributes_insertFile ⟨workload, found⟩

theorem attributes_addFolder {path destination owner : String}
    (found : before.get? id = some workload) :
    Attributes setup before (addFolder id path destination owner) := by
  have known := Registry.knows_of_found found
  refine guarded_bind found (ask_bind fun reply => ?_)
  cases reply with
  | error cause => exact of_fail known rfl
  | ok entries =>
      dsimp only
      split
      · exact of_fail known rfl
      · refine ofExcept_bind known (fun _ => instance?_of_checkFolder) fun files _ => ?_
        exact attributes_insertFiles ⟨workload, found⟩

theorem attributes_setUser {user : String} (found : before.get? id = some workload) :
    Attributes setup before (setUser id user) := by
  have known := Registry.knows_of_found found
  refine guarded_bind found ?_
  cases workload.context with
  | none => exact of_fail known rfl
  | some context => exact of_image known

/-! ## Copies -/

theorem attributes_copySidecars {copy : InstanceId} {ids : List InstanceId}
    (registered : ∀ id ∈ ids, before.Has id) :
    Attributes setup before (copySidecars copy ids) := by
  induction ids generalizing before with
  | nil => exact of_pure
  | cons first rest inductionHypothesis =>
      rcases List.forall_mem_cons.mp registered with ⟨⟨source, found⟩, others⟩
      refine find_bind found ?_
      refine register_bind (fun id clusterName =>
        { source.duplicate id source.name clusterName with parent := some copy }) fun joined => ?_
      refine bind (of_update fun _ _ => rfl) fun _ keeps => inductionHypothesis fun id listed => ?_
      exact keeps.has ((Registry.Keeps.add joined).has (others id listed))

theorem attributes_cloneWithName {name : String} (found : before.get? id = some workload)
    (kin : before.HasKin workload) : Attributes setup before (cloneWithName id name) := by
  refine guarded_bind found (guardSidecars_bind kin.2 ?_)
  refine register_bind (fun id clusterName =>
    { workload.duplicate id name clusterName with parent := none }) fun joined => ?_
  refine bind (attributes_copySidecars fun id listed => ?_) fun _ _ => of_pure
  exact (Registry.Keeps.add joined).has (kin.2 id listed)

theorem attributes_clone (found : before.get? id = some workload) (kin : before.HasKin workload) :
    Attributes setup before (clone id) :=
  find_bind found (attributes_cloneWithName found kin)

/-! ## Sidecars -/

theorem names_of_attachmentFault {parent candidate : Instance} {error : Error}
    (leads : before.Knows parent.name) (follows : before.Knows candidate.name)
    (unfit : attachmentFault? parent candidate = some error) : before.Names error := by
  unfold attachmentFault? at unfit
  split at unfit
  · obtain rfl := Option.some.inj unfit
    exact ⟨_, rfl, follows⟩
  split at unfit
  · obtain rfl := Option.some.inj unfit
    exact ⟨_, rfl, leads⟩
  split at unfit
  · obtain rfl := Option.some.inj unfit
    exact ⟨_, rfl, follows⟩
  split at unfit
  · obtain rfl := Option.some.inj unfit
    exact ⟨_, rfl, follows⟩
  · cases unfit

theorem attributes_addSidecar {sidecar : InstanceId} (registered : before.Has id) :
    Attributes setup before (addSidecar id sidecar) := by
  rcases registered with ⟨workload, found⟩
  have known := Registry.knows_of_found found
  refine guarded_bind found (registry_bind ?_)
  cases there : before.get? sidecar with
  | none => exact of_fail known rfl
  | some candidate =>
      dsimp only
      split
      · exact of_fail known rfl
      · cases unfit : attachmentFault? workload candidate with
        | none =>
            refine Attributes.bind (of_update ?_) fun _ _ => of_update ?_
            · exact fun _ _ => rfl
            · exact fun _ _ => rfl
        | some error =>
            have names := names_of_attachmentFault known (Registry.knows_of_found there) unfit
            rcases names with ⟨name, about, knows⟩
            exact of_fail knows about

/-- To make a committed instance and go on with it. -/
theorem createCommitted_bind {name reference : String} {next : InstanceId → Action β}
    (rest : ∀ {middle}, before.Keeps middle → middle.Has before.nextId →
      Attributes setup middle (next before.nextId)) :
    Attributes setup before (createCommitted name reference >>= next) := by
  rw [createCommitted, bind_assoc]
  refine register_bind (fun id clusterName => { id, name, clusterName }) fun joined => ?_
  have found := found_last joined
  rw [bind_assoc]
  refine (attributes_setImage found (Registry.hasKin_of_alone rfl rfl)).bind fun _ keeps => ?_
  rcases keeps _ _ found with ⟨current, there, _⟩
  rw [bind_assoc]
  refine (attributes_commit there).bind fun _ keeping => ?_
  have kept := (Registry.Keeps.add joined).trans (keeps.trans keeping)
  exact rest kept (keeping.has ⟨current, there⟩)

theorem attributes_inject {role : Attendant} {parent : Instance} (registered : before.Has parent.id) :
    Attributes setup before (inject role parent) := by
  have attaching {middle : Registry} {sidecar : InstanceId} {change : Instance → Instance}
      (leads : middle.Has parent.id) (named : ∀ workload, (change workload).name = workload.name) :
      Attributes setup middle (addSidecar parent.id sidecar >>= fun _ => update parent.id change) :=
    (attributes_addSidecar leads).bind fun _ _ => of_update fun workload _ => named workload
  cases role with
  | collector =>
      refine settings_bind (createCommitted_bind fun kept there => ?_)
      refine (attributes_addFileBytes there).bind fun _ keeping => ?_
      refine (attributes_editAll (keeping.has there)).bind fun _ keeps => ?_
      exact attaching (keeps.has (keeping.has (kept.has registered))) fun _ => rfl
  | shaper =>
      refine settings_bind (createCommitted_bind fun kept there => ?_)
      refine (attributes_editAll there).bind fun _ keeps => ?_
      rcases keeps.has there with ⟨sidecar, found⟩
      exact find_bind found (attaching (keeps.has (kept.has registered)) fun _ => rfl)

theorem attributes_injectSidecars {parent : Instance} (registered : before.Has parent.id) :
    Attributes setup before (injectSidecars parent) := by
  have ifWanted {role : Attendant} {wants : Bool} {middle : Registry} (leads : middle.Has parent.id) :
      Attributes setup middle (if wants = true then inject role parent else pure ()) := by
    split
    · exact attributes_inject leads
    · exact of_pure
  rw [injectSidecars_eq]
  exact (ifWanted registered).bind fun _ keeps => ifWanted (keeps.has registered)

end Action
end Testbed
