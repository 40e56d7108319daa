import Testbed.Action.Image
import Testbed.Proofs.Course.Action

namespace Testbed

/-!
# Courses of commits

A commit settles the image of a context.  A context that has not been changed keeps the image it
started from.  A changed one is hashed; if an image is recorded for the hash, that one is taken, and
else the context is pushed under a fresh tag and then recorded.  There are five ways in which this can
go, two of them failures, and only the last of them records anything.
-/

/-- The ways in which the image of a context can be settled: what happens, and the image or the
error. -/
inductive Settlement (setup : Setup) (name : String) (context : ContextId) :
    List Event → Except Error String → Prop where
  | unchanged (reference : String) :
      Settlement setup name context
        [.asked (.isChanged context) false, .asked (.baseImage context) reference] (.ok reference)
  | unhashed (failure : Failure) :
      Settlement setup name context
        [.asked (.isChanged context) true, .asked (.image (.contentHash context)) (.error failure)]
        (.error (failure.during name Operation.commit.text))
  | recorded (hash image : String) :
      Settlement setup name context
        [.asked (.isChanged context) true, .asked (.image (.contentHash context)) (.ok hash),
          .asked (.recordedImage hash) (some image)] (.ok image)
  | unpushed (hash tag : String) (failure : Failure) :
      Settlement setup name context
        [.asked (.isChanged context) true, .asked (.image (.contentHash context)) (.ok hash),
          .asked (.recordedImage hash) none, .asked .uniqueTag tag,
          .asked (.image (.push context (setup.settings.pushedImage tag))) (.error failure)]
        (.error (failure.during name Operation.commit.text))
  | pushed (hash tag image : String) :
      Settlement setup name context
        [.asked (.isChanged context) true, .asked (.image (.contentHash context)) (.ok hash),
          .asked (.recordedImage hash) none, .asked .uniqueTag tag,
          .asked (.image (.push context (setup.settings.pushedImage tag))) (.ok ()),
          .asked (.recordImage hash (setup.settings.pushedImage tag)) image] (.ok image)

namespace Registry

/-- Freezes the image of an instance. -/
def commit (registry : Registry) (id : InstanceId) (reference : String) : Registry :=
  registry.update id fun current => { current with image := some reference, state := .committed }

end Registry

namespace Action

variable {setup : Setup} {before after : Registry} {events : List Event}

/-- The image of a changed context is settled in one of four ways, and the registry stays. -/
theorem course_pushedImage {name : String} {context : ContextId} {result : Except Error String}
    (course : Course setup (pushedImage name context) before events result after) :
    Settlement setup name context (.asked (.isChanged context) true :: events) result ∧
      after = before := by
  rcases course_image_bind.mp course with
    ⟨failure, rfl, rfl, rfl⟩ | ⟨hash, later, rfl, looking⟩
  · exact ⟨.unhashed failure, rfl⟩
  rcases course_ask_bind.mp looking with ⟨found, later, rfl, rest⟩
  cases found with
  | some recorded =>
      rcases course_pure.mp rest with ⟨rfl, rfl, rfl⟩
      exact ⟨.recorded hash recorded, rfl⟩
  | none =>
      rcases course_ask_bind.mp (course_settings_bind.mp rest) with ⟨tag, later, rfl, pushing⟩
      rcases course_image_bind.mp pushing with
        ⟨failure, rfl, rfl, rfl⟩ | ⟨_, later, rfl, recording⟩
      · exact ⟨.unpushed hash tag failure, rfl⟩
      · rcases course_ask.mp recording with ⟨image, rfl, rfl, rfl⟩
        exact ⟨.pushed hash tag image, rfl⟩

/-- A commit is refused at once, or the image of a context under preparation is settled; then the
instance is frozen with that image, or nothing has changed. -/
theorem course_commit {id : InstanceId} {result : Except Error Unit}
    (course : Course setup (commit id) before events result after) :
    (events = [] ∧ (∃ error, result = .error error) ∧ after = before) ∨
    ∃ workload context settled, before.get? id = some workload ∧ workload.state = .preparing ∧
      workload.context = some context ∧ Settlement setup workload.name context events settled ∧
      ((∃ error, settled = .error error ∧ result = .error error ∧ after = before) ∨
        ∃ image, settled = .ok image ∧ result = .ok () ∧ after = before.commit id image) := by
  rcases course_guarded_bind.mp course with
    ⟨error, _, rfl, rfl, rfl⟩ | ⟨workload, ⟨found, permitted⟩, rest⟩
  · exact Or.inl ⟨rfl, ⟨error, rfl⟩, rfl⟩
  cases prepared : workload.context with
  | none =>
      rw [prepared] at rest
      rcases (course_of_done rfl).mp rest with ⟨rfl, rfl, rfl⟩
      exact Or.inl ⟨rfl, ⟨_, rfl⟩, rfl⟩
  | some context =>
      rw [prepared] at rest
      refine Or.inr ⟨workload, context, ?_⟩
      rcases course_ask_bind.mp rest with ⟨isChanged, later, rfl, settling⟩
      cases isChanged with
      | false =>
          rcases course_ask_bind.mp settling with ⟨reference, later, rfl, noting⟩
          rcases course_update.mp noting with ⟨rfl, rfl, rfl⟩
          exact ⟨_, found, List.mem_singleton.mp permitted, prepared, .unchanged reference,
            Or.inr ⟨reference, rfl, rfl, rfl⟩⟩
      | true =>
          rcases course_bind.mp settling with
            ⟨error, rfl, failed⟩ | ⟨image, middle, earlier, later, rfl, settled, noting⟩
          · rcases course_pushedImage failed with ⟨settlement, rfl⟩
            exact ⟨_, found, List.mem_singleton.mp permitted, prepared, settlement,
              Or.inl ⟨error, rfl, rfl, rfl⟩⟩
          · rcases course_pushedImage settled with ⟨settlement, rfl⟩
            rcases course_update.mp noting with ⟨rfl, rfl, rfl⟩
            refine ⟨_, found, List.mem_singleton.mp permitted, prepared, ?_,
              Or.inr ⟨image, rfl, rfl, rfl⟩⟩
            rw [List.append_nil]
            exact settlement

end Action
end Testbed
