import Testbed.Proofs.Trial
import Testbed.Proofs.Turn.Inject

namespace Testbed

/-!
# Actions that wait for nothing

An action is prompt if all that can happen in it are requests that are answered. A prompt action always
ends: it does so against all collaborators that answer every request in some time, however long a wait
of theirs would take and whatever the answers are.

To start an instance without waiting is prompt. The one wait in sight is that for the end of a compute
unit whose image is replaced; but the instances that a start injects are new when they get their image.
-/

/-- Whether an event is a request that is answered. -/
def Event.isRequest : Event → Bool
  | asked _ _ => true
  | awaited _ _ | connected _ _ _ _ => false

/-- Whether collaborators answer every request in some time. -/
def Collaborators.Responsive (others : Collaborators σ) : Prop :=
  ∀ request now state, (others.answer request now state).1.delay ≠ none

/-- A program in which there are only requests ends if they are answered, on one of its courses. -/
theorem Program.exists_run {others : Collaborators σ} (responsive : others.Responsive) (looks : Nat)
    {program : Program α}
    (prompt : ∀ events value, program.Course events value → ∀ event ∈ events, event.isRequest = true)
    (now : Nat) (state : σ) :
    ∃ ending events, program.run others looks now state = some ending ∧
      program.Course events ending.value := by
  induction program generalizing now state with
  | done value => exact ⟨⟨value, now, state⟩, [], rfl, .done value⟩
  | ask request next inductionHypothesis =>
      rcases Option.ne_none_iff_exists'.mp (responsive request now state) with ⟨delay, timely⟩
      have onward (reply : request.Reply) :
          ∀ events value, (next reply).Course events value →
            ∀ event ∈ events, event.isRequest = true := by
        intro events value course event member
        exact prompt _ value (.ask reply course) event (List.mem_cons_of_mem _ member)
      rcases inductionHypothesis _ (onward _) (now + delay) (others.answer request now state).2 with
        ⟨ending, events, ran, course⟩
      refine ⟨ending, _, ?_, .ask _ course⟩
      rw [run]
      dsimp only
      rw [timely]
      exact ran
  | await condition interval timeout next _ =>
      have course := course_follow (fun request => (others.answer request now state).1.value)
        (next .met ⟨0⟩)
      have waits := prompt _ _ (.await .met ⟨0⟩ course) _ List.mem_cons_self
      cases waits
  | connect pod localPort remotePort policy next _ =>
      have course := course_follow (fun request => (others.answer request now state).1.value)
        (next (.succeeded ()) ⟨0⟩)
      have waits := prompt _ _ (.connect (.succeeded ()) ⟨0⟩ course) _ List.mem_cons_self
      cases waits

namespace Action

/-- An action that waits for nothing, whatever happens. -/
def Prompt (setup : Setup) (action : Action α) : Prop :=
  ∀ ⦃before events result after⦄, Course setup action before events result after →
    ∀ event ∈ events, event.isRequest = true

variable {setup : Setup} {action : Action α} {next : α → Action β} {id : InstanceId}

/-! ## Rules -/

theorem Prompt.bind (first : Prompt setup action) (rest : ∀ value, Prompt setup (next value)) :
    Prompt setup (action >>= next) := by
  intro before events result after course
  rcases course_bind.mp course with
    ⟨error, _, failed⟩ | ⟨value, middle, earlier, later, rfl, started, ended⟩
  · exact first failed
  · exact List.forall_mem_append.mpr ⟨first started, rest value ended⟩

/-- What is done at once is prompt. -/
theorem prompt_of_done (ended : ∀ before, ∃ result left, action setup before = .done (result, left)) :
    Prompt setup action := by
  intro before events result after course
  rcases ended before with ⟨found, left, done⟩
  rcases (course_of_done done).mp course with ⟨rfl, _, _⟩
  exact fun _ impossible => nomatch impossible

theorem prompt_pure (value : α) : Prompt setup (pure value) :=
  prompt_of_done fun _ => ⟨_, _, rfl⟩

theorem prompt_fail (error : Error) : Prompt setup (fail error : Action α) :=
  prompt_of_done fun _ => ⟨_, _, rfl⟩

theorem prompt_ofExcept (found : Except Error α) : Prompt setup (ofExcept found) :=
  prompt_of_done fun _ => ⟨_, _, ofExcept_eq found⟩

theorem prompt_settings : Prompt setup settings :=
  prompt_of_done fun _ => ⟨_, _, rfl⟩

theorem prompt_registry : Prompt setup registry :=
  prompt_of_done fun _ => ⟨_, _, rfl⟩

theorem prompt_find : Prompt setup (find id) :=
  prompt_of_done fun _ => ⟨_, _, find_eq id⟩

theorem prompt_guarded {operation : Operation} : Prompt setup (guarded id operation) :=
  prompt_of_done fun _ => ⟨_, _, guarded_eq id operation⟩

theorem prompt_update {change : Instance → Instance} : Prompt setup (update id change) :=
  prompt_of_done fun _ => ⟨_, _, rfl⟩

theorem prompt_ask {request : Request} : Prompt setup (ask request) := by
  intro before events result after course
  rcases course_ask.mp course with ⟨reply, rfl, _, _⟩
  exact fun _ member => List.mem_singleton.mp member ▸ rfl

theorem prompt_cluster {name : String} {operation : Operation} {request : ClusterRequest} :
    Prompt setup (cluster name operation request) :=
  prompt_ask.bind fun _ => prompt_ofExcept _

theorem prompt_image {name : String} {operation : Operation} {request : ImageRequest} :
    Prompt setup (image name operation request) :=
  prompt_ask.bind fun _ => prompt_ofExcept _

/-! ## Making instances -/

/-- An instance that has not been started gets an image promptly. -/
theorem course_setImage_isRequest {reference : String} {before after : Registry} {events : List Event}
    {result : Except Error Unit} {workload : Instance} (found : before.get? id = some workload)
    (rests : workload.state ≠ .started)
    (course : Course setup (setImage id reference) before events result after) :
    ∀ event ∈ events, event.isRequest = true := by
  rcases course_guarded_bind.mp course with ⟨error, _, rfl, _⟩ | ⟨known, ⟨there, _⟩, onward⟩
  · exact fun _ impossible => nomatch impossible
  obtain rfl : known = workload := Option.some.inj (there.symm.trans found)
  rw [if_neg rests] at onward
  have opening : Prompt setup (image known.name .setImage (.open reference) >>= prepare id) :=
    prompt_image.bind fun context => prompt_update
  exact opening onward

theorem prompt_commit : Prompt setup (commit id) := by
  refine prompt_guarded.bind fun workload => ?_
  split
  · exact prompt_fail _
  rename_i context _
  refine prompt_ask.bind fun changed => ?_
  have pushing : Prompt setup (pushedImage workload.name context) := by
    refine prompt_image.bind fun hash => ?_
    refine prompt_ask.bind fun recorded => ?_
    cases recorded with
    | some recorded => exact prompt_pure recorded
    | none =>
        refine prompt_settings.bind fun settings => ?_
        refine prompt_ask.bind fun tag => ?_
        exact prompt_image.bind fun _ => prompt_ask
  dsimp only
  split
  · exact pushing.bind fun reference => prompt_update
  · exact prompt_ask.bind fun reference => prompt_update

theorem prompt_createCommitted {name reference : String} :
    Prompt setup (createCommitted name reference) := by
  intro before events result after course
  have ending : Prompt setup (commit before.nextId >>= fun _ => pure before.nextId) :=
    prompt_commit.bind fun _ => prompt_pure _
  rcases course_register_bind (fun id clusterName => { id, name, clusterName }) course with
    ⟨_, reply, _, rfl, _⟩ | ⟨clusterName, grown, later, rfl, joined, onward⟩
  · exact fun _ member => List.mem_singleton.mp member ▸ rfl
  refine List.forall_mem_cons.mpr ⟨rfl, ?_⟩
  rcases course_bind.mp onward with
    ⟨error, rfl, failed⟩ | ⟨_, middle, first, last, rfl, opened, committing⟩
  · exact course_setImage_isRequest (found_last joined) nofun failed
  · exact List.forall_mem_append.mpr
      ⟨course_setImage_isRequest (found_last joined) nofun opened, ending committing⟩

theorem prompt_editAll (edits : List Edit) : Prompt setup (editAll id edits) := by
  induction edits with
  | nil => exact prompt_pure ()
  | cons first rest inductionHypothesis =>
      refine Prompt.bind ?_ fun _ => inductionHypothesis
      exact prompt_find.bind fun workload => (prompt_ofExcept _).bind fun _ => prompt_update

theorem prompt_addFileBytes {contents : List UInt8} {destination owner : String} :
    Prompt setup (addFileBytes id contents destination owner) := by
  refine prompt_guarded.bind fun _ => prompt_find.bind fun workload => ?_
  refine (prompt_ofExcept _).bind fun group => ?_
  split
  · cases workload.context with
    | none => exact prompt_fail _
    | some context => exact prompt_image.bind fun _ => prompt_update
  · exact prompt_update

theorem prompt_addSidecar {sidecar : InstanceId} : Prompt setup (addSidecar id sidecar) := by
  refine prompt_guarded.bind fun parent => ?_
  refine prompt_registry.bind fun registry => ?_
  cases registry.get? sidecar with
  | none => exact prompt_fail _
  | some candidate =>
      dsimp only
      split
      · exact prompt_fail _
      · cases attachmentFault? parent candidate with
        | some error => exact prompt_fail error
        | none => exact prompt_update.bind fun _ => prompt_update

/-! ## Starts -/

theorem prompt_inject {role : Attendant} {parent : Instance} : Prompt setup (inject role parent) := by
  cases role with
  | collector =>
      refine prompt_settings.bind fun settings => ?_
      refine prompt_createCommitted.bind fun made => ?_
      refine prompt_addFileBytes.bind fun _ => ?_
      refine (prompt_editAll _).bind fun _ => ?_
      exact prompt_addSidecar.bind fun _ => prompt_update
  | shaper =>
      refine prompt_settings.bind fun settings => ?_
      refine prompt_createCommitted.bind fun made => ?_
      refine (prompt_editAll _).bind fun _ => ?_
      refine prompt_find.bind fun sidecar => ?_
      exact prompt_addSidecar.bind fun _ => prompt_update

theorem prompt_injectSidecars {parent : Instance} : Prompt setup (injectSidecars parent) := by
  have ifWanted {role : Attendant} {wants : Bool} :
      Prompt setup (if wants = true then inject role parent else pure ()) := by
    split
    · exact prompt_inject
    · exact prompt_pure ()
  rw [injectSidecars_eq]
  exact ifWanted.bind fun _ => ifWanted

theorem prompt_applyAll {name : String} {operation : Operation} (resources : List Resource) :
    Prompt setup (applyAll name operation resources) := by
  induction resources with
  | nil => exact prompt_pure ()
  | cons first rest inductionHypothesis => exact prompt_cluster.bind fun _ => inductionHypothesis

/-- To start an instance without waiting is to make requests and nothing else. -/
theorem prompt_startWithoutWait : Prompt setup (startWithoutWait id) := by
  refine prompt_guarded.bind fun workload => ?_
  have leading : Prompt setup (ensureNoSidecar workload .start) := by
    unfold ensureNoSidecar
    split
    · exact prompt_fail _
    · exact prompt_pure ()
  refine leading.bind fun _ => ?_
  refine Prompt.bind (prompt_of_done fun _ => ⟨_, _, guardSidecars_eq _ _⟩) fun _ => ?_
  have launching (unit : ReplicaSet) : Prompt setup (do
      cluster workload.name .start (.apply (.replicaSet unit))
      setPodState id .started) :=
    prompt_cluster.bind fun _ => prompt_of_done fun _ => ⟨_, _, rfl⟩
  have compiling {parent : Instance} : Prompt setup (compile parent) :=
    prompt_of_done fun _ => ⟨_, _, compile_eq parent⟩
  dsimp only
  by_cases committed : workload.state = .committed
  · simp only [if_pos committed]
    refine prompt_injectSidecars.bind fun _ => ?_
    refine prompt_find.bind fun again => compiling.bind fun compiled => ?_
    exact (prompt_applyAll _).bind fun _ => launching compiled.replicaSet
  · simp only [if_neg committed]
    exact prompt_find.bind fun again => compiling.bind fun compiled => launching compiled.replicaSet

end Action
end Testbed
