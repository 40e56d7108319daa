import Testbed.Action.Image
import Testbed.Proofs.Cluster
import Testbed.Proofs.Course.Action

namespace Testbed

/-!
# Courses of a replacement

A replacement writes the new image first, compiles the pod of the instance as it then is, and puts the previous
image back if anything fails.  Nobody can see what is written in between: what a replacement asks of the cluster
depends on the compiled pod alone, and an instance is no part of the pods that it is compiled into but its own.
So a replacement has the courses that it would have if it wrote the image last, when nothing can fail any more.
-/

namespace Registry

variable {registry : Registry} {id : InstanceId} {reference : String}

theorem mapM_find_congr {first second : Registry} {ids : List InstanceId}
    (same : ∀ id ∈ ids, first.get? id = second.get? id) : ids.mapM first.find = ids.mapM second.find := by
  induction ids with
  | nil => rfl
  | cons head rest inductionHypothesis =>
      rcases List.forall_mem_cons.mp same with ⟨here, later⟩
      rw [List.mapM_cons, List.mapM_cons, inductionHypothesis later, find, find, here]

/-- The pod of an instance is compiled the same after its image has been written. -/
theorem compile_setImage {settings : Settings} {workload : Instance} (outside : id ∉ workload.sidecars) :
    (registry.setImage id reference).compile settings workload =
      registry.compile settings workload := by
  have members : workload.sidecars.mapM (registry.setImage id reference).find =
      workload.sidecars.mapM registry.find := by
    refine mapM_find_congr fun sidecar listed => get?_update_of_ne ?_
    rintro rfl
    exact outside listed
  rw [compile, compile, pod, pod, members]

/-- What is written into an instance and put back is not there. -/
theorem update_setImage {workload : Instance} (found : registry.get? id = some workload) :
    (registry.setImage id reference).update id
      (fun current => { current with image := workload.image }) = registry := by
  refine eq_of_get?_eq fun other => ?_
  rw [setImage, get?_update, get?_update]
  by_cases here : other = id
  · rw [if_pos here, if_pos here, here, found]
    rfl
  · rw [if_neg here, if_neg here]

end Registry

/-- What an exchange asks of the cluster, and whether it succeeds.  The compute unit can be gone without another one
in its place. -/
inductive Exchanges (workload : Instance) (unit : ReplicaSet) (grace : Option UInt32) : List Event → Bool → Prop where
  | refused (error : Error) :
      Exchanges workload unit grace
        [.asked (.cluster (.delete .replicaSet workload.clusterName grace)) (.error error)] false
  | lingering (outcome : WaitOutcome Error) :
      Exchanges workload unit grace
        [.deleted .replicaSet workload.clusterName grace, .awaited (.gone workload.clusterName) outcome] false
  | unapplied (outcome : WaitOutcome Error) (error : Error) :
      Exchanges workload unit grace
        [.deleted .replicaSet workload.clusterName grace, .awaited (.gone workload.clusterName) outcome,
          .asked (.cluster (.apply (.replicaSet unit))) (.error error)] false
  | applied (outcome : WaitOutcome Error) :
      Exchanges workload unit grace
        [.deleted .replicaSet workload.clusterName grace, .awaited (.gone workload.clusterName) outcome,
          .applied (.replicaSet unit)] true

namespace Action

variable {setup : Setup} {before after : Registry} {events : List Event} {id : InstanceId} {workload : Instance}
  {reference : String} {unit : ReplicaSet} {grace : Option UInt32} {result : Except Error Unit}

/-! ## Exchanges -/

/-- An exchange leaves the registry alone. -/
theorem course_exchange (course : Course setup (exchange workload unit grace) before events result after) :
    after = before ∧ Exchanges workload unit grace events result.isOk := by
  have deleting := course_settings_bind.mp course
  rcases course_cluster_bind.mp deleting with ⟨error, rfl, rfl, rfl⟩ | ⟨_, rest, rfl, waiting⟩
  · exact ⟨rfl, .refused error⟩
  rcases course_bind.mp waiting with
    ⟨error, rfl, stopped⟩ | ⟨_, middle, waited, later, rfl, gone, applying⟩
  · rcases course_await.mp stopped with ⟨outcome, elapsed, rfl, _, rfl⟩
    exact ⟨rfl, .lingering outcome⟩
  rcases course_await.mp gone with ⟨outcome, elapsed, rfl, _, rfl⟩
  rcases course_cluster.mp applying with ⟨reply, rfl, rfl, rfl⟩
  cases reply with
  | error error => exact ⟨rfl, .unapplied outcome error⟩
  | ok value => exact ⟨rfl, .applied outcome⟩

/-- An action that goes the same whatever the registry is like, and leaves it alone. -/
def Blind (setup : Setup) (action : Action α) : Prop :=
  ∀ ⦃before events result after⦄ (other : Registry), Course setup action before events result after →
    after = before ∧ Course setup action other events result other

theorem Blind.bind {action : Action α} {next : α → Action β} (first : Blind setup action)
    (rest : ∀ value, Blind setup (next value)) : Blind setup (action >>= next) := by
  intro before events result after other course
  rcases course_bind.mp course with
    ⟨error, rfl, failed⟩ | ⟨value, middle, earlier, later, rfl, started, ended⟩
  · rcases first other failed with ⟨same, elsewhere⟩
    exact ⟨same, course_bind.mpr (Or.inl ⟨error, rfl, elsewhere⟩)⟩
  · rcases first other started with ⟨rfl, opening⟩
    rcases rest value other ended with ⟨rfl, closing⟩
    exact ⟨rfl, course_bind.mpr (Or.inr ⟨value, other, earlier, later, rfl, opening, closing⟩)⟩

theorem blind_settings : Blind setup settings := by
  intro before events result after other course
  rcases (course_of_done rfl).mp course with ⟨rfl, rfl, rfl⟩
  exact ⟨rfl, .done _⟩

theorem blind_cluster (name : String) (operation : Operation) (request : ClusterRequest) :
    Blind setup (cluster name operation request) := by
  intro before events result after other course
  rcases course_cluster.mp course with ⟨reply, rfl, told, rfl⟩
  exact ⟨rfl, course_cluster.mpr ⟨reply, rfl, told, rfl⟩⟩

theorem blind_await (name : String) (operation : Operation) (condition : Condition)
    (timeout : Option Duration) : Blind setup (await name operation condition timeout) := by
  intro before events result after other course
  rcases course_await.mp course with ⟨outcome, elapsed, rfl, told, rfl⟩
  exact ⟨rfl, course_await.mpr ⟨outcome, elapsed, rfl, told, rfl⟩⟩

theorem blind_exchange (workload : Instance) (unit : ReplicaSet) (grace : Option UInt32) :
    Blind setup (exchange workload unit grace) := by
  refine blind_settings.bind fun settings => ?_
  refine (blind_cluster _ _ _).bind fun _ => ?_
  exact (blind_await _ _ _ _).bind fun _ => blind_cluster _ _ _

/-! ## Undoing -/

/-- An action that undoes a change on failure goes as without that, and the change is made if it fails. -/
theorem course_undoing {action : Action α} {change : Instance → Instance} {result : Except Error α} :
    Course setup (undoing action (update id change)) before events result after ↔
      ∃ middle, Course setup action before events result middle ∧
        after = if result.isOk then middle else middle.update id change := by
  constructor
  · intro course
    rcases Program.course_bind.mp course with ⟨⟨ended, middle⟩, earlier, later, rfl, tried, rest⟩
    cases ended with
    | ok value =>
        rcases Program.course_done.mp rest with ⟨rfl, same⟩
        cases same
        rw [List.append_nil]
        exact ⟨_, tried, rfl⟩
    | error error =>
        rcases Program.course_done.mp rest with ⟨rfl, same⟩
        cases same
        rw [List.append_nil]
        exact ⟨_, tried, rfl⟩
  · rintro ⟨middle, tried, rfl⟩
    refine Program.course_bind.mpr ⟨_, events, [], (List.append_nil events).symm, tried, ?_⟩
    cases result with
    | ok value => exact .done _
    | error error => exact .done _

/-! ## Replacements -/

theorem course_redeploy_iff (found : before.get? id = some workload) :
    Course setup (redeploy id grace) before events result after ↔
      (∃ error, before.compile setup.settings workload = .error error ∧
        events = [] ∧ result = .error error ∧ after = before) ∨
      ∃ compiled, before.compile setup.settings workload = .ok compiled ∧
        Course setup (exchange workload compiled.replicaSet grace) before events result after := by
  rw [redeploy, Course, bind_of_done (by rw [find_eq, Registry.find_eq_ok_iff.mpr found])]
  cases checked : before.compile setup.settings workload with
  | error error =>
      rw [bind_of_failed (by rw [compile_eq, checked]), Program.course_done]
      simp only [Except.error.injEq, exists_eq_left', reduceCtorEq, false_and, exists_false, or_false,
        Prod.mk.injEq]
  | ok compiled =>
      rw [bind_of_done (by rw [compile_eq, checked])]
      simp only [reduceCtorEq, false_and, exists_false, false_or, Except.ok.injEq, exists_eq_left']
      exact Iff.rfl

/-- The compute unit that is exchanged is that of the pod as it is with the new image.  The instance has this image
if the exchange succeeds, and the one before if anything fails. -/
theorem course_replace_iff (found : before.get? id = some workload) :
    Course setup (replace id reference grace) before events result after ↔
      (∃ error, (before.setImage id reference).compile setup.settings { workload with image := some reference } =
          .error error ∧ events = [] ∧ result = .error error ∧ after = before) ∨
      ∃ compiled,
        (before.setImage id reference).compile setup.settings { workload with image := some reference } =
          .ok compiled ∧
        Course setup (exchange workload compiled.replicaSet grace) before events result before ∧
        after = if result.isOk then before.setImage id reference else before := by
  have written : (before.setImage id reference).get? id = some { workload with image := some reference } := by
    rw [Registry.setImage, Registry.get?_update_self, found]
    rfl
  have restored := @Registry.update_setImage before id reference workload found
  have located : find id setup before = .done (.ok workload, before) := by
    rw [find_eq, Registry.find_eq_ok_iff.mpr found]
  have undone : Course setup (replace id reference grace) before events result after ↔
      ∃ middle, Course setup (redeploy id grace) (before.setImage id reference) events result middle ∧
        after = if result.isOk then middle
          else middle.update id fun current => { current with image := workload.image } := by
    rw [replace, Course, bind_of_done located]
    exact course_undoing
  rw [undone]
  simp only [course_redeploy_iff written]
  constructor
  · rintro ⟨middle, ⟨error, failed, rfl, rfl, rfl⟩ | ⟨compiled, compiles, exchanged⟩, rfl⟩
    · exact Or.inl ⟨error, failed, rfl, rfl, restored⟩
    · -- The exchange runs where the image is written; it would go the same where it is not.
      rcases blind_exchange _ _ _ before exchanged with ⟨rfl, there⟩
      rw [restored]
      exact Or.inr ⟨compiled, compiles, there, rfl⟩
  · rintro (⟨error, failed, rfl, rfl, rfl⟩ | ⟨compiled, compiles, exchanged, rfl⟩)
    · exact ⟨_, Or.inl ⟨error, failed, rfl, rfl, rfl⟩, restored.symm⟩
    · rcases blind_exchange _ _ _ (before.setImage id reference) exchanged with ⟨_, there⟩
      refine ⟨_, Or.inr ⟨compiled, compiles, there⟩, ?_⟩
      rw [restored]

/-- The pod with the new image is the same in the registry as it was, unless the instance is a sidecar of its own. -/
theorem course_replace_iff_of_outside (found : before.get? id = some workload) (outside : id ∉ workload.sidecars) :
    Course setup (replace id reference grace) before events result after ↔
      (∃ error, before.compile setup.settings { workload with image := some reference } = .error error ∧
        events = [] ∧ result = .error error ∧ after = before) ∨
      ∃ compiled, before.compile setup.settings { workload with image := some reference } = .ok compiled ∧
        Course setup (exchange workload compiled.replicaSet grace) before events result before ∧
        after = if result.isOk then before.setImage id reference else before := by
  have compiling : (before.setImage id reference).compile setup.settings
      { workload with image := some reference } =
      before.compile setup.settings { workload with image := some reference } :=
    Registry.compile_setImage outside
  rw [course_replace_iff found, compiling]

end Action
end Testbed
