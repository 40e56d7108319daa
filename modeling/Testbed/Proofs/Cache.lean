import Testbed.Proofs.Course.Program
import Testbed.Rehearsal.Basic

namespace Testbed

/-!
# The cache of images

The cache is written once at every hash.  Recording an image where one is recorded already changes
nothing and yields the earlier image, so whoever comes second adopts what the first has recorded.
What the cache holds is determined by the events so far: a request to record an image is the only
event that can add an entry, and no event takes one away.

`BuildCache.Answers` says of an event that the cache itself has given the reply.  The stand-ins of a
rehearsal keep such a cache.
-/

namespace StringMap

variable {map : StringMap} {key other value : String}

private theorem lookup_cons (entry : String × String) (rest : List (String × String)) :
    (entry :: rest).lookup other = if other = entry.1 then some entry.2 else rest.lookup other := by
  rw [List.lookup_cons]
  by_cases here : other = entry.1
  · rw [if_pos here, beq_iff_eq.mpr here]
  · rw [if_neg here, beq_false_of_ne here]

private theorem lookup_insertEntry (entries : List (String × String)) :
    (insertEntry key value entries).lookup other =
      if other = key then some value else entries.lookup other := by
  induction entries with
  | nil => exact lookup_cons (key, value) []
  | cons first rest inductionHypothesis =>
      rw [insertEntry]
      by_cases below : key < first.1
      · rw [if_pos below]
        exact lookup_cons (key, value) (first :: rest)
      rw [if_neg below, lookup_cons first rest]
      by_cases above : first.1 < key
      · rw [if_pos above, lookup_cons, inductionHypothesis]
        by_cases here : other = key
        · have apart : other ≠ first.1 := here ▸ (String.ne_of_lt above).symm
          rw [if_neg apart, if_pos here, if_pos here]
        · rw [if_neg here, if_neg here]
      · have same : key = first.1 :=
          String.le_antisymm (String.not_lt.mp above) (String.not_lt.mp below)
        rw [if_neg above, lookup_cons, ← same]
        by_cases here : other = key
        · rw [if_pos here, if_pos here]
        · rw [if_neg here, if_neg here, if_neg here]

theorem get?_insert :
    (map.insert key value).get? other = if other = key then some value else map.get? other :=
  lookup_insertEntry map.entries

end StringMap

namespace BuildCache

variable {cache : BuildCache} {hash other image : String} {event : Event} {events : List Event}

/-! ## Recording -/

/-- The image that belongs to a hash after it has been recorded: the earlier one, if there is one. -/
theorem record_eq : (cache.record hash image).1 = (cache.get? hash).getD image := by
  rw [record]
  cases cache.get? hash with
  | none => rfl
  | some earlier => rfl

theorem get?_record :
    (cache.record hash image).2.get? other =
      if other = hash then some ((cache.get? hash).getD image) else cache.get? other := by
  rw [record]
  cases known : cache.get? hash with
  | none => exact StringMap.get?_insert
  | some earlier =>
      by_cases here : other = hash
      · rw [if_pos here, here]
        exact known
      · rw [if_neg here]

/-- What is recorded is what the cache then holds. -/
theorem get?_record_self :
    (cache.record hash image).2.get? hash = some (cache.record hash image).1 := by
  rw [get?_record, if_pos rfl, record_eq]

/-! ## The cache in the course of events -/

/-- The cache after an event. -/
def step (cache : BuildCache) : Event → BuildCache
  | .asked (.recordImage hash image) _ => (cache.record hash image).2
  | _ => cache

/-- The cache after some events. -/
def after (cache : BuildCache) (events : List Event) : BuildCache :=
  events.foldl step cache

/-- Whether an event goes as it does if this cache is the one that is asked. -/
def Answers (cache : BuildCache) : Event → Prop
  | .asked (.recordedImage hash) reply => reply = cache.get? hash
  | .asked (.recordImage hash image) reply => reply = (cache.record hash image).1
  | _ => True

theorem after_append (earlier later : List Event) :
    cache.after (earlier ++ later) = (cache.after earlier).after later :=
  List.foldl_append

/-- An entry outlasts every event. -/
theorem get?_step (held : cache.get? hash = some image) : (cache.step event).get? hash = some image := by
  unfold step
  split
  · rename_i other reference
    rw [get?_record]
    split
    · rename_i here
      rw [← here, held]
      rfl
    · exact held
  · exact held

theorem get?_after (held : cache.get? hash = some image) :
    (cache.after events).get? hash = some image := by
  induction events generalizing cache with
  | nil => exact held
  | cons first rest inductionHypothesis => exact inductionHypothesis (get?_step held)

end BuildCache

namespace Event

/-- Whether an event leaves the cache alone, whatever it holds. -/
def SparesCache : Event → Prop
  | asked (.recordImage _ _) _ => False
  | _ => True

end Event

namespace BuildCache

variable {cache : BuildCache} {event : Event} {events : List Event}

theorem step_of_spares (spares : event.SparesCache) : cache.step event = cache := by
  unfold step
  split
  · exact spares.elim
  · rfl

theorem after_of_spares (spares : ∀ event ∈ events, event.SparesCache) :
    cache.after events = cache := by
  induction events with
  | nil => rfl
  | cons first rest inductionHypothesis =>
      rcases List.forall_mem_cons.mp spares with ⟨here, later⟩
      change (cache.step first).after rest = cache
      rw [step_of_spares here]
      exact inductionHypothesis later

/-- What a cache holds after an event it held before, or the event has recorded it. -/
theorem get?_step_cases {hash image : String} (held : (cache.step event).get? hash = some image) :
    cache.get? hash = some image ∨ ∃ reply, event = .asked (.recordImage hash image) reply := by
  unfold step at held
  split at held
  · rename_i other reference reply
    rw [get?_record] at held
    split at held
    · rename_i here
      subst here
      cases known : cache.get? hash with
      | some earlier =>
          rw [known] at held
          exact Or.inl held
      | none =>
          rw [known] at held
          cases held
          exact Or.inr ⟨reply, rfl⟩
    · exact Or.inl held
  · exact Or.inl held

end BuildCache

/-! ## The cache of the stand-ins -/

namespace Rehearsal

variable {rehearsal : Rehearsal}

theorem cache_takeCue (entry : Entry) : (rehearsal.takeCue entry).2.cache = rehearsal.cache := by
  unfold takeCue
  dsimp only
  split
  · rfl
  · rfl

theorem cache_answerCluster (request : ClusterRequest) (line : Line) :
    (rehearsal.answerCluster request line).2.cache = rehearsal.cache := by
  have kept : (rehearsal.clusterEffect request).cache = rehearsal.cache := by
    cases request with
    | apply | delete => rfl
    | _ => rfl
  cases line with
  | usual | value => exact kept
  | failure | shapingFailure => rfl

theorem cache_usualImage (request : ImageRequest) :
    (rehearsal.usualImage request).2.cache = rehearsal.cache := by
  cases request with
  | fetchFile context path =>
      unfold usualImage
      dsimp only
      split
      · rfl
      · rfl
  | _ => rfl

theorem cache_answerImage (request : ImageRequest) (line : Line) :
    (rehearsal.answerImage request line).2.cache = rehearsal.cache := by
  cases line with
  | usual | value => exact cache_usualImage request
  | failure | shapingFailure => rfl

theorem cache_giveName (name : String) : (rehearsal.giveName name).2.cache = rehearsal.cache := by
  unfold giveName
  dsimp only
  split
  · rfl
  · rfl

/-- The stand-ins change their cache exactly as the events say. -/
theorem cache_answer (request : Request) (now : Nat) :
    (answer request now rehearsal).2.cache =
      rehearsal.cache.step (.asked request (answer request now rehearsal).1.value) := by
  cases request with
  | cluster request => exact (cache_answerCluster _ _).trans (cache_takeCue _)
  | image request =>
      change (answer (.image request) now rehearsal).2.cache = rehearsal.cache
      unfold answer
      dsimp only
      split
      · exact (cache_answerImage _ _).trans (cache_takeCue _)
      · cases request with
        | _ => rfl
  | isChanged context =>
      change (answer (.isChanged context) now rehearsal).2.cache = rehearsal.cache
      unfold answer
      dsimp only
      split
      · exact cache_takeCue _
      · rfl
  | shape | unshape | expose | exposedAddress => exact cache_takeCue _
  | clusterName name => exact cache_giveName name
  | _ => rfl

theorem accountable_cache : collaborators.Accountable Rehearsal.cache BuildCache.step where
  answer request now state := cache_answer request now
  look condition now state := by
    cases condition with
    | ready name => exact cache_answer (.cluster (.ready name)) now
    | gone name => exact cache_answer (.cluster (.present .replicaSet name)) now
  attempt pod localPort remotePort now state :=
    cache_answer (.cluster (.tunnel pod localPort remotePort)) now
  awaited _ _ _ := rfl
  connected _ _ _ _ _ := rfl

/-- Among stand-ins, a program leaves of the cache what the events of a course make of it. -/
theorem cache_of_run {looks : Nat} {program : Program α} {now : Nat}
    {ending : Ending Rehearsal α} (ran : program.run collaborators looks now rehearsal = some ending) :
    ∃ events, program.Course events ending.value ∧
      ending.state.cache = rehearsal.cache.after events :=
  program.course_of_run accountable_cache ran

end Rehearsal
end Testbed
