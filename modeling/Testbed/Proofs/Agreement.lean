import Testbed.Proofs.Atomicity
import Testbed.Proofs.Site

namespace Testbed

/-!
# One image for one hash

Testbeds that share a cache agree on the image that belongs to the hash of a context.  Two of them can
find the hash missing and both push; then the one that comes second to record adopts what the first has
recorded, so both instances are frozen with the entry of the cache.  That entry has been pushed.

A publication that fails leaves no trace: no entry, and an instance that is still being prepared.  When
publications do not overlap, nobody pushes in vain.
-/

/-- Whether an event is that the hashing or the push of a context has failed. -/
def Event.FailsToPublish : Event → Prop
  | asked (.image (.contentHash _)) (.error _) | asked (.image (.push _ _)) (.error _) => True
  | _ => False

namespace Settlement

variable {setup : Setup} {name image : String} {context other : ContextId} {events : List Event}
  {settled : Except Error String}

/-- The image of a changed context is one that belongs to its hash: it has been read from the cache
under that hash, or it is what the cache has returned for it. -/
theorem image_of_changed (settlement : Settlement setup name context events (.ok image))
    (changed : .asked (.isChanged other) true ∈ events) :
    other = context ∧ ∃ hash,
      (∀ found, .asked (.image (.contentHash context)) (.ok found) ∈ events ↔ found = hash) ∧
        (.asked (.recordedImage hash) (some image) ∈ events ∨
          ∃ reference, .asked (.recordImage hash reference) image ∈ events) := by
  cases settlement with
  | unchanged reference => simp at changed
  | recorded hash _ =>
      have same : other = context := by simpa using changed
      exact ⟨same, hash, by simp, Or.inl (by simp)⟩
  | pushed hash tag _ =>
      have same : other = context := by simpa using changed
      exact ⟨same, hash, by simp, Or.inr ⟨setup.settings.pushedImage tag, by simp⟩⟩

/-- Where hashing or pushing fails, no image is settled. -/
theorem error_of_failsToPublish (settlement : Settlement setup name context events settled)
    (fails : ∃ event ∈ events, event.FailsToPublish) : ∃ error, settled = .error error := by
  cases settlement with
  | unhashed failure | unpushed hash tag failure => exact ⟨_, rfl⟩
  | _ => simp [Event.FailsToPublish] at fails

end Settlement

namespace Action

variable {setup : Setup} {before after : Registry} {events : List Event} {id : InstanceId}
  {result : Except Error Unit}

/-- A commit in which hashing or pushing fails leaves the instance in preparation, and the registry and
the cache as they were. -/
theorem commit_of_failsToPublish (course : Course setup (commit id) before events result after)
    (fails : ∃ event ∈ events, event.FailsToPublish) :
    (∃ error, result = .error error) ∧ after = before ∧ before.stateOf id = some .preparing ∧
      ∀ cache : BuildCache, cache.after events = cache := by
  rcases course_commit course with
    ⟨rfl, _⟩ | ⟨workload, context, settled, found, preparing, _, settlement, ends⟩
  · rcases fails with ⟨_, impossible, _⟩
    cases impossible
  obtain ⟨error, rfl⟩ : ∃ error, settled = .error error := settlement.error_of_failsToPublish fails
  rcases ends with ⟨cause, same, rfl, kept⟩ | ⟨image, impossible, _⟩
  · have known : before.stateOf id = some .preparing := by
      rw [Registry.stateOf, found, ← preparing]
      rfl
    exact ⟨⟨cause, rfl⟩, kept, known, fun _ => BuildCache.after_of_spares settlement.sparesCache⟩
  · cases impossible

end Action

namespace Site

variable {ι : Type} [DecidableEq ι] {setups : ι → Setup} {site : Site ι} {i : ι}

/-- A commit of a changed context freezes the instance with what the cache holds for the hash of the
context, and that has been pushed. -/
theorem Sound.image_of_commit (sound : site.Sound setups) {before after : Registry}
    {events : List Event} {id : InstanceId} {context : ContextId}
    (course : Action.Course (setups i) (Action.commit id) before events (.ok ()) after)
    (logged : ∀ event ∈ events, (i, event) ∈ site.log)
    (changed : .asked (.isChanged context) true ∈ events) :
    ∃ workload hash image, before.get? id = some workload ∧ workload.context = some context ∧
      (∀ found, .asked (.image (.contentHash context)) (.ok found) ∈ events ↔ found = hash) ∧
      site.cache.get? hash = some image ∧
      after.get? id = some { workload with image := some image, state := .committed } ∧
      ∃ earlier, site.log.PushedAt hash image earlier := by
  rcases Action.course_commit course with
    ⟨rfl, _⟩ | ⟨workload, prepared, settled, found, _, holds, settlement, ends⟩
  · cases changed
  rcases ends with ⟨_, _, impossible, _⟩ | ⟨image, rfl, _, rfl⟩
  · cases impossible
  rcases settlement.image_of_changed changed with ⟨rfl, hash, hashed, agreed⟩
  have held : site.log.cache.get? hash = some image := by
    rcases agreed with read | ⟨reference, recorded⟩
    · exact sound.log.get?_of_read (logged _ read)
    · exact sound.log.get?_of_recorded (logged _ recorded)
  refine ⟨workload, hash, image, found, holds, hashed, ?_, ?_, sound.log.exists_pushedAt held⟩
  · rw [sound.cache]
    exact held
  · rw [Registry.commit, Registry.get?_update_self, found]
    rfl

/-- Whatever some testbeds that share a cache do, in whatever order, and whatever fails: each testbed
goes on as if it were alone, with its events in the log; an entry of the cache stays; every commit of a
changed context freezes its instance with the entry for the hash of the context, and that has been
pushed; a commit in which hashing or pushing fails records nothing and leaves its instance in
preparation; and every push belongs to a hash, to which no other push belongs if publications do not
overlap. -/
theorem agreement_of_reached (reached : site.Reached setups) :
    (∀ i, Reaches (setups i) (site.activity i).history (site.activity i).registry ∧
      ∀ record ∈ (site.activity i).history, ∀ event ∈ record.events, (i, event) ∈ site.log) ∧
    (∀ later hash image, Steps setups site later → site.cache.get? hash = some image →
      later.cache.get? hash = some image) ∧
    (∀ i id before events after context,
      Action.Course (setups i) (Action.commit id) before events (.ok ()) after →
      (∀ event ∈ events, (i, event) ∈ site.log) → .asked (.isChanged context) true ∈ events →
      ∃ workload hash image, before.get? id = some workload ∧ workload.context = some context ∧
        (∀ found, .asked (.image (.contentHash context)) (.ok found) ∈ events ↔ found = hash) ∧
        site.cache.get? hash = some image ∧
        after.get? id = some { workload with image := some image, state := .committed } ∧
        ∃ earlier, site.log.PushedAt hash image earlier) ∧
    (∀ i id before events result after,
      Action.Course (setups i) (Action.commit id) before events result after →
      (∃ event ∈ events, event.FailsToPublish) →
      (∃ error, result = .error error) ∧ after = before ∧ before.stateOf id = some .preparing ∧
        ∀ cache : BuildCache, cache.after events = cache) ∧
    (∀ i context image earlier later,
      site.log = earlier ++ (i, .asked (.image (.push context image)) (.ok ())) :: later →
      ∃ hash, site.log.PushedAt hash image earlier) ∧
    (site.log.TakesTurns → ∀ hash first second earlier other,
      site.log.PushedAt hash first earlier → site.log.PushedAt hash second other →
      earlier = other) := by
  have sound := reached.sound
  refine ⟨sound.history, fun _ _ _ steps => steps.get?, ?_, ?_, ?_, ?_⟩
  · exact fun i id before events after context => sound.image_of_commit
  · exact fun i id before events result after => Action.commit_of_failsToPublish
  · exact fun i context image earlier later => sound.log.pushedAt_of_push
  · exact fun turns hash first second earlier other => sound.log.pushedAt_unique turns

end Site

/-- Collaborators that grant everything, with contexts that have been changed and have one hash. -/
def Replies.building (tag : String) : Replies
  | .isChanged _ => true
  | .image (.contentHash _) => .ok "0a1b"
  | .uniqueTag => tag
  | request => agreeable request

/-- Two testbeds that build the same, each under tags of its own. -/
def Site.pair (turns : List (Bool × Call)) : Site Bool :=
  schedule (fun _ => .plain) (fun first => .building (if first then "left" else "right")) turns

/-- Each of two testbeds describes an instance. -/
def Call.described : List (Bool × Call) :=
  [true, false].flatMap fun first =>
    List.replicate 3 (first, .create "main") ++ List.replicate 3 (first, .setImage ⟨0⟩ "busybox")

/-- Two testbeds commit at the same time. -/
def Site.race : Site Bool :=
  pair (Call.described ++
    (List.replicate 8 [(true, .commit ⟨0⟩), (false, .commit ⟨0⟩)]).flatten)

/-- Two testbeds commit one after the other. -/
def Site.queue : Site Bool :=
  pair (Call.described ++
    List.replicate 8 (true, .commit ⟨0⟩) ++ List.replicate 5 (false, .commit ⟨0⟩))

theorem Site.reached_pair (turns : List (Bool × Call)) : (pair turns).Reached fun _ => .plain :=
  reached_schedule turns

/-- Testbeds take turns if nobody is in the middle of a publication whenever another does anything. -/
theorem Log.takesTurns_of_idle {ι : Type} [DecidableEq ι] {log : Log ι}
    (idle : ∀ n : Fin log.length, ∀ j, j ≠ log[n].1 → phase (log.take n) j = .idle) :
    log.TakesTurns := by
  rintro earlier i event later rfl _ j apart
  have rests := idle ⟨earlier.length, by simp⟩ j (by simpa using apart)
  simpa using rests

/-- Two testbeds that race both push, and the one that is late to record adopts the image of the other;
two that commit one after the other push once. -/
theorem agreement_of_race :
    (Site.race.Reached (fun _ => .plain) ∧
      (∃ earlier, Site.race.log.PushedAt "0a1b" "ttl.sh/left:24h" earlier) ∧
      (∃ earlier, Site.race.log.PushedAt "0a1b" "ttl.sh/right:24h" earlier) ∧
      Site.race.cache.get? "0a1b" = some "ttl.sh/left:24h" ∧
      ∀ first, ∃ workload, (Site.race.activity first).registry.get? ⟨0⟩ = some workload ∧
        workload.image = some "ttl.sh/left:24h") ∧
    Site.queue.Reached (fun _ => .plain) ∧ Site.queue.log.TakesTurns ∧
      ∀ image earlier, Site.queue.log.PushedAt "0a1b" image earlier → earlier.length = 8 := by
  constructor
  · have reached : Site.race.Reached fun _ => .plain := Site.reached_pair _
    rcases Site.agreement_of_reached reached with ⟨alone, _, agreed, _⟩
    have held : Site.race.cache.get? "0a1b" = some "ttl.sh/left:24h" := by decide +kernel
    refine ⟨reached, ⟨Site.race.log.take 12, true, ⟨0⟩, Site.race.log.drop 13, rfl, rfl⟩,
      ⟨Site.race.log.take 13, false, ⟨0⟩, Site.race.log.drop 14, rfl, rfl⟩, held, fun first => ?_⟩
    rcases alone first with ⟨reaches, logged⟩
    obtain ⟨events, last, changed, hashed⟩ : ∃ events,
        (Site.race.activity first).history.getLast? = some ⟨.commit ⟨0⟩, events, .ok ()⟩ ∧
        .asked (.isChanged ⟨0⟩) true ∈ events ∧
        .asked (.image (.contentHash ⟨0⟩)) (.ok "0a1b") ∈ events := by
      cases first with
      | true | false => exact ⟨_, rfl, .head _, .tail _ (.head _)⟩
    rcases List.getLast?_eq_some_iff.mp last with ⟨past, whole⟩
    rw [whole] at reaches logged
    rcases reaches.last_course with ⟨before, _, course⟩
    rcases agreed first ⟨0⟩ before events _ ⟨0⟩ course (logged _ (List.mem_append_right _ (.head _)))
      changed with ⟨workload, hash, image, _, _, unique, entry, frozen, _⟩
    obtain rfl : "0a1b" = hash := (unique _).mp hashed
    rw [held] at entry
    cases entry
    exact ⟨_, frozen, rfl⟩
  · have reached : Site.queue.Reached fun _ => .plain := Site.reached_pair _
    rcases Site.agreement_of_reached reached with ⟨_, _, _, _, _, once⟩
    have turns : Site.queue.log.TakesTurns := Log.takesTurns_of_idle (by decide +kernel)
    refine ⟨reached, turns, fun image earlier pushed => ?_⟩
    have first : Site.queue.log.PushedAt "0a1b" "ttl.sh/left:24h" (Site.queue.log.take 8) :=
      ⟨true, ⟨0⟩, Site.queue.log.drop 9, rfl, rfl⟩
    rw [once turns "0a1b" image _ earlier _ pushed first]
    rfl

end Testbed
