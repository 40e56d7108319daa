import Testbed.Proofs.Cluster
import Testbed.Proofs.Course.Commit
import Testbed.Proofs.Discretion.Writing
import Testbed.Proofs.Trial

namespace Testbed

/-!
# Calls that fail as a whole

A call that concerns one instance does everything that can fail before it changes anything, or takes
back what it has changed: an image is replaced first, and put back when the cluster refuses it.  So a
call of this kind that fails leaves the registry as it was, whatever failed and however far it got.
The cache of images stays as it was, too: only a commit records an image, and nothing can fail after
that.
-/

/-- A commit that fails records nothing. -/
theorem Settlement.sparesCache {setup : Setup} {name : String} {context : ContextId}
    {events : List Event} {error : Error}
    (settlement : Settlement setup name context events (.error error)) :
    ∀ event ∈ events, event.SparesCache := by
  cases settlement with
  | unhashed failure => exact List.forall_mem_cons.mpr ⟨trivial, List.forall_mem_singleton.mpr trivial⟩
  | unpushed hash tag failure =>
      simp only [List.forall_mem_cons, List.not_mem_nil, false_implies, implies_true, and_true]
      exact ⟨trivial, trivial, trivial, trivial, trivial⟩

namespace Action

variable {setup : Setup} {before after : Registry} {events : List Event}

/-- A commit that fails leaves the registry and the cache as they were. -/
theorem commit_failed {id : InstanceId} {error : Error}
    (course : Course setup (commit id) before events (.error error) after) :
    after = before ∧ ∀ event ∈ events, event.SparesCache := by
  rcases course_commit course with
    ⟨rfl, _, same⟩ | ⟨workload, context, settled, _, _, _, settlement, ends⟩
  · exact ⟨same, fun _ impossible => nomatch impossible⟩
  rcases ends with ⟨cause, rfl, _, same⟩ | ⟨image, _, impossible, _⟩
  · exact ⟨same, settlement.sparesCache⟩
  · cases impossible

end Action

variable {setup : Setup} {before after : Registry} {events : List Event} {error : Error} {call : Call}

/-- An atomic call that fails leaves the registry and the cache as they were. -/
theorem Call.perform_failed (atomic : call.isAtomic = true)
    (course : Action.Course setup call.perform before events (.error error) after) :
    after = before ∧ ∀ event ∈ events, event.SparesCache := by
  by_cases commits : ∃ id, call = .commit id
  · rcases commits with ⟨id, rfl⟩
    exact Action.commit_failed course
  · rcases Call.atomic_perform atomic (fun id same => commits ⟨id, same⟩) course with ⟨kept, discreet⟩
    exact ⟨kept ⟨error, rfl⟩, discreet.sparesCache⟩

/-- Whatever fails in an atomic call, every instance is as it was before, no instance has been added,
and no cache has changed: not in the course of what happened, and not among stand-ins that keep one. -/
theorem unchanged_of_failed (atomic : call.isAtomic = true) :
    (∀ events error after,
      Action.Course setup call.perform before events (.error error) after →
      after = before ∧ ∀ cache : BuildCache, cache.after events = cache) ∧
    ∀ (looks now : Nat) (rehearsal : Rehearsal) (ending : Ending Rehearsal _) (error : Error),
      (call.perform setup before).run Rehearsal.collaborators looks now rehearsal = some ending →
      ending.value.1 = .error error →
      ending.value.2 = before ∧ ending.state.cache = rehearsal.cache := by
  constructor
  · intro events error after course
    rcases Call.perform_failed atomic course with ⟨same, spares⟩
    exact ⟨same, fun _ => BuildCache.after_of_spares spares⟩
  · intro looks now rehearsal ending error ran failed
    rcases Rehearsal.cache_of_run ran with ⟨events, course, kept⟩
    have course : Action.Course setup call.perform before events (.error error) ending.value.2 :=
      failed ▸ course
    rcases Call.perform_failed atomic course with ⟨same, spares⟩
    exact ⟨same, kept.trans (BuildCache.after_of_spares spares)⟩

/-- The image of a started pod is to be replaced, and the cluster refuses the compute unit with the new
image after the old one is gone: the instance keeps its image. -/
theorem unchanged_of_podStart :
    let started := trial .plain .agreeable Call.podStart
    let failed := (Call.setImage ⟨0⟩ "alpine").tried .plain (.refusing "alpine") started
    Reaches .plain failed.1 failed.2 ∧
      (∃ events error, failed.1 = started.1 ++ [⟨.setImage ⟨0⟩ "alpine", events, .error error⟩] ∧
        events.head? = some (.deleted .replicaSet "main" none)) ∧
      failed.2 = started.2 := by
  have reached := reaches_trial .plain .agreeable Call.podStart
  refine ⟨reaches_tried _ _ reached, ⟨_, _, rfl, rfl⟩, ?_⟩
  have course := Program.course_follow (.refusing "alpine")
    ((Call.setImage ⟨0⟩ "alpine").perform .plain (trial .plain .agreeable Call.podStart).2)
  have atomic : (Call.setImage ⟨0⟩ "alpine").isAtomic = true := rfl
  exact ((unchanged_of_failed atomic).1 _ _ _ course).1

end Testbed
