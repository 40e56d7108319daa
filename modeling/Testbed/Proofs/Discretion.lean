import Testbed.Proofs.Cache
import Testbed.Proofs.Course.Action

namespace Testbed

/-!
# What actions leave alone

To publish an image is to hash a context, to look the hash up, to push, and to record.  Commits do
this and nothing else does, so most actions are discreet: nothing happens in them that belongs to the
publication of an image, and in particular the cache of images stays as it is.

Among discreet actions there are those that only read and talk, and leave the registry alone, and those
that are atomic: if an atomic action fails, the registry is as it was before.  Most of them read and
talk first, and then make changes that cannot fail; the replacement of an image takes its change back.
-/

/-- Whether an event belongs to the publication of an image. -/
def Event.Publishes : Event → Prop
  | asked (.image (.contentHash _)) _ | asked (.image (.push _ _)) _ => True
  | asked (.recordedImage _) _ | asked (.recordImage _ _) _ => True
  | _ => False

/-- An event that belongs to no publication leaves the cache alone. -/
theorem Event.sparesCache_of_not_publishes {event : Event} (discreet : ¬ event.Publishes) :
    event.SparesCache := by
  unfold SparesCache
  split
  · exact discreet trivial
  · trivial

/-- Whether nothing happens that belongs to the publication of an image. -/
def IsDiscreet (events : List Event) : Prop :=
  ∀ event ∈ events, ¬ event.Publishes

namespace IsDiscreet

variable {events earlier later : List Event} {event : Event}

theorem nil : IsDiscreet [] :=
  fun _ impossible => nomatch impossible

theorem singleton (discreet : ¬ event.Publishes) : IsDiscreet [event] :=
  fun _ member => List.mem_singleton.mp member ▸ discreet

theorem append (first : IsDiscreet earlier) (second : IsDiscreet later) :
    IsDiscreet (earlier ++ later) :=
  fun event member => (List.mem_append.mp member).elim (first event) (second event)

theorem sparesCache (discreet : IsDiscreet events) : ∀ event ∈ events, event.SparesCache :=
  fun event member => Event.sparesCache_of_not_publishes (discreet event member)

end IsDiscreet

namespace Action

/-- An action that publishes nothing, whatever happens. -/
def Discreet (setup : Setup) (action : Action α) : Prop :=
  ∀ ⦃before events result after⦄, Course setup action before events result after → IsDiscreet events

/-- A discreet action that leaves the registry alone. -/
def Reads (setup : Setup) (action : Action α) : Prop :=
  ∀ ⦃before events result after⦄, Course setup action before events result after →
    after = before ∧ IsDiscreet events

/-- A discreet action that leaves the registry alone if it fails. -/
def Atomic (setup : Setup) (action : Action α) : Prop :=
  ∀ ⦃before events result after⦄, Course setup action before events result after →
    ((∃ error, result = .error error) → after = before) ∧ IsDiscreet events

/-- An action that changes the registry at once and cannot fail. -/
def Sure (setup : Setup) (action : Action α) : Prop :=
  ∀ before, ∃ value left, action setup before = .done (.ok value, left)

variable {setup : Setup} {action : Action α} {next : α → Action β}

theorem Atomic.discreet (atomic : Atomic setup action) : Discreet setup action :=
  fun _ _ _ _ course => (atomic course).2

theorem Reads.atomic (reads : Reads setup action) : Atomic setup action := by
  intro before events result after course
  rcases reads course with ⟨same, discreet⟩
  exact ⟨fun _ => same, discreet⟩

theorem Reads.discreet (reads : Reads setup action) : Discreet setup action :=
  reads.atomic.discreet

theorem Sure.atomic (sure : Sure setup action) : Atomic setup action := by
  intro before events result after course
  rcases sure before with ⟨value, left, ended⟩
  rcases (course_of_done ended).mp course with ⟨rfl, rfl, rfl⟩
  refine ⟨?_, .nil⟩
  rintro ⟨error, impossible⟩
  cases impossible

/-! ## Actions after each other -/

theorem Discreet.bind (first : Discreet setup action) (rest : ∀ value, Discreet setup (next value)) :
    Discreet setup (action >>= next) := by
  intro before events result after course
  rcases course_bind.mp course with
    ⟨error, _, failed⟩ | ⟨value, middle, earlier, later, rfl, started, ended⟩
  · exact first failed
  · exact (first started).append (rest value ended)

theorem Reads.bind (first : Reads setup action) (rest : ∀ value, Reads setup (next value)) :
    Reads setup (action >>= next) := by
  intro before events result after course
  rcases course_bind.mp course with
    ⟨error, _, failed⟩ | ⟨value, middle, earlier, later, rfl, started, ended⟩
  · exact first failed
  · rcases first started with ⟨rfl, opening⟩
    rcases rest value ended with ⟨rfl, closing⟩
    exact ⟨rfl, opening.append closing⟩

/-- What precedes an atomic action may only read. -/
theorem Reads.bind_atomic (first : Reads setup action) (rest : ∀ value, Atomic setup (next value)) :
    Atomic setup (action >>= next) := by
  intro before events result after course
  rcases course_bind.mp course with
    ⟨error, _, failed⟩ | ⟨value, middle, earlier, later, rfl, started, ended⟩
  · rcases first failed with ⟨same, discreet⟩
    exact ⟨fun _ => same, discreet⟩
  · rcases first started with ⟨rfl, opening⟩
    rcases rest value ended with ⟨kept, closing⟩
    exact ⟨kept, opening.append closing⟩

theorem Sure.bind (first : Sure setup action) (rest : ∀ value, Sure setup (next value)) :
    Sure setup (action >>= next) := by
  intro before
  rcases first before with ⟨value, middle, ended⟩
  rcases rest value middle with ⟨result, left, finished⟩
  exact ⟨result, left, (bind_of_done ended).trans finished⟩

/-! ## Reading -/

/-- What is done at once and changes nothing reads. -/
theorem reads_of_done (ended : ∀ before, ∃ result, action setup before = .done (result, before)) :
    Reads setup action := by
  intro before events result after course
  rcases ended before with ⟨found, done⟩
  rcases (course_of_done done).mp course with ⟨rfl, _, rfl⟩
  exact ⟨rfl, .nil⟩

theorem reads_pure (value : α) : Reads setup (pure value) :=
  reads_of_done fun _ => ⟨_, rfl⟩

theorem reads_fail (error : Error) : Reads setup (fail error : Action α) :=
  reads_of_done fun _ => ⟨_, rfl⟩

theorem reads_ofExcept (found : Except Error α) : Reads setup (ofExcept found) :=
  reads_of_done fun _ => ⟨_, ofExcept_eq found⟩

theorem reads_registry : Reads setup registry :=
  reads_of_done fun _ => ⟨_, rfl⟩

theorem reads_setup : Reads setup Action.setup :=
  reads_of_done fun _ => ⟨_, rfl⟩

theorem reads_settings : Reads setup settings :=
  reads_of_done fun _ => ⟨_, rfl⟩

theorem reads_find (id : InstanceId) : Reads setup (find id) :=
  reads_of_done fun _ => ⟨_, find_eq id⟩

theorem reads_guarded (id : InstanceId) (operation : Operation) : Reads setup (guarded id operation) :=
  reads_of_done fun _ => ⟨_, guarded_eq id operation⟩

theorem reads_ensureNoSidecar (workload : Instance) (operation : Operation) :
    Reads setup (ensureNoSidecar workload operation) := by
  unfold ensureNoSidecar
  split
  · exact reads_fail _
  · exact reads_pure ()

theorem reads_guardSidecars (operation : Operation) (ids : List InstanceId) :
    Reads setup (guardSidecars operation ids) :=
  reads_of_done fun _ => ⟨_, guardSidecars_eq operation ids⟩

theorem reads_podOwner (workload : Instance) : Reads setup (podOwner workload) :=
  reads_of_done fun _ => ⟨_, podOwner_eq workload⟩

theorem reads_compile (parent : Instance) : Reads setup (compile parent) :=
  reads_of_done fun _ => ⟨_, compile_eq parent⟩

/-! ## Requests and waits -/

theorem reads_ask {request : Request} (discreet : ∀ reply, ¬ (Event.asked request reply).Publishes) :
    Reads setup (ask request) := by
  intro before events result after course
  rcases course_ask.mp course with ⟨reply, rfl, _, rfl⟩
  exact ⟨rfl, .singleton (discreet reply)⟩

theorem reads_cluster (name : String) (operation : Operation) (request : ClusterRequest) :
    Reads setup (cluster name operation request) := by
  intro before events result after course
  rcases course_cluster.mp course with ⟨reply, rfl, _, rfl⟩
  exact ⟨rfl, .singleton not_false⟩

theorem reads_image {name : String} {operation : Operation} {request : ImageRequest}
    (discreet : ∀ reply, ¬ (Event.asked (.image request) reply).Publishes) :
    Reads setup (image name operation request) := by
  intro before events result after course
  rcases course_image.mp course with ⟨reply, rfl, _, rfl⟩
  exact ⟨rfl, .singleton (discreet reply)⟩

theorem reads_await (name : String) (operation : Operation) (condition : Condition)
    (timeout : Option Duration) : Reads setup (await name operation condition timeout) := by
  intro before events result after course
  rcases course_await.mp course with ⟨outcome, elapsed, rfl, _, rfl⟩
  exact ⟨rfl, .singleton not_false⟩

/-! ## Changes -/

theorem sure_pure (value : α) : Sure setup (pure value) :=
  fun _ => ⟨_, _, rfl⟩

theorem sure_update (id : InstanceId) (change : Instance → Instance) : Sure setup (update id change) :=
  fun _ => ⟨_, _, rfl⟩

theorem sure_setRegistry (changed : Registry) : Sure setup (setRegistry changed) :=
  fun _ => ⟨_, _, rfl⟩

end Action
end Testbed
