import Testbed.Proofs.Call
import Testbed.Proofs.Course.Commit
import Testbed.Proofs.Discretion.Writing

namespace Testbed

/-!
# The order of a publication

The events that publish an image come in one order, whatever calls are made of a testbed: a context is
hashed, the hash is looked up, and if nothing is recorded for it, then a tag is drawn, the context is
pushed under it, and what has been pushed is recorded under the hash.  Nothing else of the testbed
happens in between, and a failure or a hit ends the publication early.

A phase says how far a testbed has got with this.  It is a function of the testbed's own events, and
`Phase.Permits` says which event can come next.  Between two calls every testbed is idle.
-/

/-- How far a testbed has got with the publication of an image. -/
inductive Phase where
  /-- No publication is under way. -/
  | idle
  /-- A context has been hashed. -/
  | hashed (context : ContextId) (hash : String)
  /-- Nothing is recorded for the hash of a context. -/
  | missed (context : ContextId) (hash : String)
  /-- A tag has been drawn for a context with a hash for which nothing was recorded. -/
  | tagged (context : ContextId) (hash : String)
  /-- A context with this hash has been pushed as an image. -/
  | pushed (hash image : String)
  deriving DecidableEq

namespace Phase

/-- The phase after an event. -/
def step : Phase → Event → Phase
  | idle, .asked (.image (.contentHash context)) (.ok hash) => hashed context hash
  | hashed context hash, .asked (.recordedImage _) none => missed context hash
  | missed context hash, .asked .uniqueTag _ => tagged context hash
  | tagged _ hash, .asked (.image (.push _ image)) (.ok _) => pushed hash image
  | _, _ => idle

/-- The phase after some events. -/
def after (phase : Phase) (events : List Event) : Phase :=
  events.foldl step phase

/-- Whether an event can come next. -/
def Permits : Phase → Event → Prop
  | idle, .asked (.image (.contentHash _)) _ => True
  | idle, event => ¬ event.Publishes
  | hashed _ hash, .asked (.recordedImage other) _ => other = hash
  | missed _ _, .asked .uniqueTag _ => True
  | tagged context _, .asked (.image (.push other _)) _ => other = context
  | pushed hash image, .asked (.recordImage other reference) _ => other = hash ∧ reference = image
  | _, _ => False

/-- Whether events can come after each other. -/
def Admits : Phase → List Event → Prop
  | _, [] => True
  | phase, event :: rest => phase.Permits event ∧ (phase.step event).Admits rest

variable {phase : Phase} {event : Event} {earlier later : List Event} {context : ContextId}
  {hash image : String}

theorem after_append : phase.after (earlier ++ later) = (phase.after earlier).after later :=
  List.foldl_append

theorem admits_append :
    phase.Admits (earlier ++ later) ↔ phase.Admits earlier ∧ (phase.after earlier).Admits later := by
  induction earlier generalizing phase with
  | nil => exact (and_iff_right trivial).symm
  | cons first rest inductionHypothesis =>
      rw [List.cons_append, Admits, Admits, inductionHypothesis, and_assoc]
      rfl

/-! ## What has led to a phase -/

theorem step_eq_missed (reached : phase.step event = missed context hash)
    (permitted : phase.Permits event) :
    phase = hashed context hash ∧ event = .asked (.recordedImage hash) none := by
  unfold step at reached
  split at reached
  · cases reached
  · cases reached
    obtain rfl : _ = hash := permitted
    exact ⟨rfl, rfl⟩
  · cases reached
  · cases reached
  · cases reached

theorem step_eq_tagged (reached : phase.step event = tagged context hash) :
    phase = missed context hash ∧ ∃ tag, event = .asked .uniqueTag tag := by
  unfold step at reached
  split at reached
  · cases reached
  · cases reached
  · cases reached
    exact ⟨rfl, _, rfl⟩
  · cases reached
  · cases reached

theorem step_eq_pushed (reached : phase.step event = pushed hash image)
    (permitted : phase.Permits event) :
    ∃ context, phase = tagged context hash ∧
      event = .asked (.image (.push context image)) (.ok ()) := by
  unfold step at reached
  split at reached
  · cases reached
  · cases reached
  · cases reached
  · cases reached
    obtain rfl : _ = _ := permitted
    exact ⟨_, rfl, rfl⟩
  · cases reached

/-- What is recorded has just been pushed. -/
theorem permits_recordImage {reply : String}
    (permitted : phase.Permits (.asked (.recordImage hash image) reply)) : phase = pushed hash image := by
  cases phase with
  | idle => exact absurd trivial permitted
  | pushed =>
      rcases permitted with ⟨rfl, rfl⟩
      rfl
  | _ => exact permitted.elim

/-- After a push only what has been pushed can be recorded. -/
theorem permits_of_pushed (permitted : (pushed hash image).Permits event) :
    ∃ reply, event = .asked (.recordImage hash image) reply := by
  unfold Permits at permitted
  split at permitted
  all_goals try contradiction
  rename_i same
  cases same
  rcases permitted with ⟨rfl, rfl⟩
  exact ⟨_, rfl⟩

/-- What is pushed has just been found to be missing. -/
theorem permits_push {reply : Except Failure Unit}
    (permitted : phase.Permits (.asked (.image (.push context image)) reply)) :
    ∃ hash, phase = tagged context hash := by
  cases phase with
  | idle => exact absurd trivial permitted
  | tagged _ hash =>
      obtain rfl : context = _ := permitted
      exact ⟨hash, rfl⟩
  | _ => exact permitted.elim

end Phase
/-- Whether events are whole publications and whatever else happens between them. -/
def IsOrderly (events : List Event) : Prop :=
  Phase.idle.Admits events ∧ Phase.idle.after events = .idle

theorem IsOrderly.append {earlier later : List Event} (first : IsOrderly earlier)
    (second : IsOrderly later) : IsOrderly (earlier ++ later) := by
  rcases first with ⟨admitted, ended⟩
  constructor
  · rw [Phase.admits_append, ended]
    exact ⟨admitted, second.1⟩
  · rw [Phase.after_append, ended]
    exact second.2

theorem IsDiscreet.isOrderly {events : List Event} (discreet : IsDiscreet events) :
    IsOrderly events := by
  induction events with
  | nil => exact ⟨trivial, rfl⟩
  | cons first rest inductionHypothesis =>
      rcases List.forall_mem_cons.mp discreet with ⟨here, later⟩
      have permitted : Phase.idle.Permits first := by
        unfold Phase.Permits
        split
        · trivial
        · exact here
        all_goals contradiction
      have stays : Phase.idle.step first = .idle := by
        unfold Phase.step
        split
        · exact absurd trivial here
        all_goals first | rfl | contradiction
      rcases inductionHypothesis later with ⟨admitted, ended⟩
      constructor
      · rw [Phase.Admits, stays]
        exact ⟨permitted, admitted⟩
      · change (Phase.idle.step first).after rest = .idle
        rw [stays]
        exact ended

/-- However the image of a context is settled, the publication is whole. -/
theorem Settlement.isOrderly {setup : Setup} {name : String} {context : ContextId}
    {events : List Event} {settled : Except Error String}
    (settlement : Settlement setup name context events settled) : IsOrderly events := by
  have changed : Phase.idle.Permits (.asked (.isChanged context) true) := nofun
  cases settlement with
  | unchanged reference =>
      exact IsDiscreet.isOrderly (List.forall_mem_cons.mpr ⟨nofun, IsDiscreet.singleton nofun⟩)
  | unhashed failure => exact ⟨⟨changed, trivial, trivial⟩, rfl⟩
  | recorded hash image => exact ⟨⟨changed, trivial, rfl, trivial⟩, rfl⟩
  | unpushed hash tag failure => exact ⟨⟨changed, trivial, rfl, trivial, rfl, trivial⟩, rfl⟩
  | pushed hash tag image =>
      exact ⟨⟨changed, trivial, rfl, trivial, rfl, ⟨rfl, rfl⟩, trivial⟩, rfl⟩

namespace Action

/-- An action whose publications are whole, whatever happens. -/
def Orderly (setup : Setup) (action : Action α) : Prop :=
  ∀ ⦃before events result after⦄, Course setup action before events result after → IsOrderly events

variable {setup : Setup} {action : Action α} {next : α → Action β}

theorem Discreet.orderly (discreet : Discreet setup action) : Orderly setup action :=
  fun _ _ _ _ course => (discreet course).isOrderly

theorem Reads.orderly (reads : Reads setup action) : Orderly setup action :=
  reads.discreet.orderly

theorem Orderly.bind (first : Orderly setup action) (rest : ∀ value, Orderly setup (next value)) :
    Orderly setup (action >>= next) := by
  intro before events result after course
  rcases course_bind.mp course with
    ⟨error, _, failed⟩ | ⟨value, middle, earlier, later, rfl, started, ended⟩
  · exact first failed
  · exact (first started).append (rest value ended)

/-! ## Commits and what commits for itself -/

variable {id : InstanceId}

theorem orderly_commit : Orderly setup (commit id) := by
  intro before events result after course
  rcases course_commit course with ⟨rfl, _, _⟩ | ⟨_, _, _, _, _, _, settlement, _⟩
  · exact IsDiscreet.nil.isOrderly
  · exact settlement.isOrderly

theorem orderly_createCommitted {name reference : String} :
    Orderly setup (createCommitted name reference) := by
  refine atomic_create.discreet.orderly.bind fun id => ?_
  refine atomic_setImage.discreet.orderly.bind fun _ => ?_
  exact orderly_commit.bind fun _ => (reads_pure id).orderly

theorem orderly_injectCollector {parent : Instance} : Orderly setup (injectCollector parent) := by
  refine reads_settings.orderly.bind fun settings => ?_
  refine orderly_createCommitted.bind fun collector => ?_
  refine atomic_addFileBytes.discreet.orderly.bind fun _ => ?_
  refine (discreet_editAll _).orderly.bind fun _ => ?_
  exact atomic_addSidecar.discreet.orderly.bind fun _ => (sure_update _ _).atomic.discreet.orderly

theorem orderly_injectShapingSidecar {parent : Instance} :
    Orderly setup (injectShapingSidecar parent) := by
  refine reads_settings.orderly.bind fun settings => ?_
  refine orderly_createCommitted.bind fun id => ?_
  refine (discreet_editAll _).orderly.bind fun _ => ?_
  refine (reads_find _).orderly.bind fun sidecar => ?_
  exact atomic_addSidecar.discreet.orderly.bind fun _ => (sure_update _ _).atomic.discreet.orderly

theorem orderly_injectSidecars {parent : Instance} : Orderly setup (injectSidecars parent) := by
  have shaper : Orderly setup
      (if wantsShapingSidecar parent = true then injectShapingSidecar parent else pure ()) := by
    split
    · exact orderly_injectShapingSidecar
    · exact (reads_pure ()).orderly
  unfold injectSidecars
  dsimp only
  split
  · exact orderly_injectCollector.bind fun _ => shaper
  · exact shaper

theorem orderly_startWithoutWait : Orderly setup (startWithoutWait id) := by
  refine (reads_guarded _ _).orderly.bind fun workload => ?_
  refine (reads_ensureNoSidecar _ _).orderly.bind fun _ => ?_
  refine (reads_guardSidecars _ _).orderly.bind fun _ => ?_
  have launch (unit : ReplicaSet) : Orderly setup (do
      cluster workload.name .start (.apply (.replicaSet unit))
      setPodState id .started) :=
    (reads_cluster _ _ _).orderly.bind fun _ => (sure_setPodState _).atomic.discreet.orderly
  dsimp only
  split
  · refine orderly_injectSidecars.bind fun _ => ?_
    refine (reads_find _).orderly.bind fun parent => ?_
    refine (reads_compile _).orderly.bind fun compiled => ?_
    exact (reads_applyAll _).orderly.bind fun _ => launch compiled.replicaSet
  · refine (reads_find _).orderly.bind fun parent => ?_
    exact (reads_compile _).orderly.bind fun compiled => launch compiled.replicaSet

theorem orderly_start : Orderly setup (start id) :=
  orderly_startWithoutWait.bind fun _ => reads_waitRunning.orderly

end Action

open Testbed.Action in
/-- Whatever is done with a testbed, and whatever fails, its publications are whole. -/
theorem Call.orderly_perform {setup : Setup} (call : Call) : Orderly setup call.perform := by
  by_cases atomic : call.isAtomic = true
  · by_cases commits : ∃ id, call = .commit id
    · rcases commits with ⟨id, rfl⟩
      exact orderly_commit
    · exact (Call.atomic_perform atomic fun id same => commits ⟨id, same⟩).discreet.orderly
  · cases call with
    | addFolder => exact discreet_addFolder.orderly
    | clone => exact discreet_clone.orderly
    | cloneWithName => exact discreet_cloneWithName.orderly
    | start => exact orderly_start
    | startWithoutWait => exact orderly_startWithoutWait
    | setBandwidthLimit | setLatencyAndJitter | clearShaping => exact discreet_shape.orderly
    | setPacketLoss => exact discreet_setPacketLoss.orderly
    | _ => exact absurd rfl atomic

end Testbed
