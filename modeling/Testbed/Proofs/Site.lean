import Testbed.Proofs.Log
import Testbed.Proofs.Trial

namespace Testbed

/-!
# Testbeds side by side

A site is some testbeds that share one cache of images.  Each testbed makes its calls one after
another, but what happens in the calls of different testbeds is interleaved in any way, one event at a
time: between the lookup of a hash and the push, or between the push and the recording, any number of
events of the others can come.  Replies are arbitrary, except that the requests to the cache are answered
by the one cache.

Seen from any one of the testbeds nothing of this shows: its own calls form a history as if it were
alone.  What the testbeds have done together is a sound log.
-/

namespace Program

/-- What can happen next in a program, and the program that is then left. -/
inductive Moves : Program α → Event → Program α → Prop where
  | ask {request : Request} {next : request.Reply → Program α} (reply : request.Reply) :
      Moves (.ask request next) (.asked request reply) (next reply)
  | await {next : WaitOutcome Error → Duration → Program α} (outcome : WaitOutcome Error)
      (elapsed : Duration) :
      Moves (.await condition interval timeout next) (.awaited condition outcome) (next outcome elapsed)
  | connect {next : RetryOutcome Error Unit → Duration → Program α}
      (outcome : RetryOutcome Error Unit) (elapsed : Duration) :
      Moves (.connect pod localPort remotePort policy next)
        (.connected pod localPort remotePort outcome) (next outcome elapsed)

theorem Moves.course {program onward : Program α} {event : Event} {events : List Event} {value : α}
    (moves : program.Moves event onward) (rest : onward.Course events value) :
    program.Course (event :: events) value := by
  cases moves with
  | ask reply => exact .ask reply rest
  | await outcome elapsed => exact .await outcome elapsed rest
  | connect outcome elapsed => exact .connect outcome elapsed rest

end Program

/-- What a testbed is about, with the calls that it has made before. -/
inductive Activity where
  /-- The testbed is between two calls. -/
  | resting (history : List Record) (registry : Registry)
  /-- The testbed is in the middle of a call that has begun with some registry: this has happened in it,
  and this program is left of it. -/
  | busy (history : List Record) (before : Registry) (call : Call) (talk : List Event)
    (rest : Program (Except Error call.Value × Registry))

namespace Activity

/-- The calls that a testbed has made. -/
def history : Activity → List Record
  | resting history _ | busy history _ _ _ _ => history

/-- The registry that the last call has left. -/
def registry : Activity → Registry
  | resting _ registry | busy _ registry _ _ _ => registry

/-- Whether an activity accords with what has happened in the testbed. -/
def Accords (setup : Setup) (events : List Event) : Activity → Prop
  | resting history registry => Reaches setup history registry ∧ events = eventsOf history
  | busy history before call talk rest =>
    Reaches setup history before ∧ events = eventsOf history ++ talk ∧
      ∀ later ended, rest.Course later ended →
        (call.perform setup before).Course (talk ++ later) ended

end Activity

/-- Some testbeds that share a cache. -/
structure Site (ι : Type) where
  activity : ι → Activity
  cache : BuildCache
  log : Log ι

namespace Site

variable {ι : Type} [DecidableEq ι]

/-- A site where nothing has happened yet. -/
def fresh : Site ι where
  activity _ := .resting [] {}
  cache := {}
  log := []

/-- A site where one of the testbeds does something else. -/
def occupy (site : Site ι) (i : ι) (activity : Activity) : Site ι :=
  { site with activity := fun j => if j = i then activity else site.activity j }

/-- A site where something more has happened in one of the testbeds. -/
def note (site : Site ι) (i : ι) (event : Event) : Site ι :=
  { site with cache := site.cache.step event, log := site.log ++ [(i, event)] }

/-- What can happen next: a testbed at rest begins any call, a busy one goes on by one event, and one
that is done with its call is at rest again. -/
inductive Step (setups : ι → Setup) : Site ι → Site ι → Prop where
  | begin {site : Site ι} {i : ι} {history : List Record} {registry : Registry} (call : Call)
      (rests : site.activity i = .resting history registry) :
      Step setups site
        (site.occupy i (.busy history registry call [] (call.perform (setups i) registry)))
  | act {site : Site ι} {i : ι} {history : List Record} {before : Registry} {call : Call}
      {talk : List Event} {event : Event} {rest onward : Program (Except Error call.Value × Registry)}
      (works : site.activity i = .busy history before call talk rest)
      (moves : rest.Moves event onward) (answered : site.cache.Answers event) :
      Step setups site
        ((site.note i event).occupy i (.busy history before call (talk ++ [event]) onward))
  | finish {site : Site ι} {i : ι} {history : List Record} {before after : Registry} {call : Call}
      {talk : List Event} {result : Except Error call.Value}
      (works : site.activity i = .busy history before call talk (.done (result, after))) :
      Step setups site (site.occupy i (.resting (history ++ [⟨call, talk, result⟩]) after))

/-- What can become of a site. -/
inductive Steps (setups : ι → Setup) (site : Site ι) : Site ι → Prop where
  | none : Steps setups site site
  | next {middle later : Site ι} (earlier : Steps setups site middle)
      (step : Step setups middle later) : Steps setups site later

/-- The sites that some testbeds can get to. -/
def Reached (setups : ι → Setup) (site : Site ι) : Prop :=
  Steps setups fresh site

variable {setups : ι → Setup} {site later : Site ι} {i j : ι} {event : Event}

/-! ## What a step does to the shared cache -/

/-- What the cache holds, it goes on holding. -/
theorem Step.get? {hash image : String} (step : Step setups site later)
    (held : site.cache.get? hash = some image) : later.cache.get? hash = some image := by
  cases step with
  | begin => exact held
  | act => exact BuildCache.get?_step held
  | finish => exact held

theorem Steps.get? {hash image : String} (steps : Steps setups site later)
    (held : site.cache.get? hash = some image) : later.cache.get? hash = some image := by
  induction steps with
  | none => exact held
  | next _ step inductionHypothesis => exact step.get? inductionHypothesis

end Site

/-! ## Each testbed by itself -/

/-- In a history of calls every publication is whole. -/
theorem Reaches.isOrderly {setup : Setup} {history : List Record} {registry : Registry}
    (reached : Reaches setup history registry) : IsOrderly (eventsOf history) := by
  induction reached with
  | empty => exact IsDiscreet.nil.isOrderly
  | @call history before events after call result earlier course inductionHypothesis =>
      rw [eventsOf_concat]
      exact inductionHypothesis.append (call.orderly_perform course)

namespace Activity

variable {setup : Setup} {events : List Event}

/-- A testbed publishes in order, whatever the event that comes next. -/
theorem Accords.permits {history : List Record} {before : Registry} {call : Call} {talk : List Event}
    {event : Event} {rest onward : Program (Except Error call.Value × Registry)}
    (accords : (busy history before call talk rest).Accords setup events)
    (moves : rest.Moves event onward) : (Phase.idle.after events).Permits event := by
  rcases accords with ⟨reached, rfl, path⟩
  -- What is left of the call can end in some way, and then the call as a whole is orderly.
  have course := path _ _ (moves.course (onward.course_follow .agreeable))
  have orderly : IsOrderly (talk ++ event :: _) := call.orderly_perform course
  have admitted := (Phase.admits_append.mp orderly.1).2
  rw [Phase.after_append, reached.isOrderly.2]
  exact admitted.1

end Activity
/-! ## All testbeds together -/

namespace Site

variable {ι : Type} [DecidableEq ι] {setups : ι → Setup} {site later : Site ι} {i j : ι}

/-- What holds of every site that some testbeds can get to. -/
structure Sound (setups : ι → Setup) (site : Site ι) : Prop where
  cache : site.cache = site.log.cache
  log : site.log.Sound
  accords : ∀ i, (site.activity i).Accords (setups i) (site.log.eventsIn i)

theorem sound_fresh : Sound setups (fresh : Site ι) :=
  ⟨rfl, .empty, fun _ => ⟨.empty, rfl⟩⟩

/-- A testbed may do something else that accords with what has happened in it. -/
theorem Sound.occupy {activity : Activity} (sound : site.Sound setups)
    (accords : activity.Accords (setups i) (site.log.eventsIn i)) :
    (site.occupy i activity).Sound setups := by
  refine ⟨sound.cache, sound.log, fun j => ?_⟩
  change (if j = i then activity else site.activity j).Accords (setups j) (site.log.eventsIn j)
  by_cases here : j = i
  · rw [if_pos here, here]
    exact accords
  · rw [if_neg here]
    exact sound.accords j

theorem Step.sound (step : Step setups site later) (sound : site.Sound setups) :
    later.Sound setups := by
  cases step with
  | @begin i history registry call rests =>
      have accords := sound.accords i
      rw [rests] at accords
      rcases accords with ⟨reached, same⟩
      exact sound.occupy ⟨reached, by rw [same, List.append_nil], fun _ _ course => course⟩
  | @act i history before call talk event rest onward works moves answered =>
      have accords := sound.accords i
      rw [works] at accords
      have permitted : (site.log.phase i).Permits event := accords.permits moves
      rw [sound.cache] at answered
      refine ⟨?_, sound.log.next permitted answered, fun j => ?_⟩
      · change site.cache.step event = Log.cache (site.log ++ [(i, event)])
        rw [Log.cache_concat, sound.cache]
      change (if j = i then _ else site.activity j).Accords (setups j)
        (Log.eventsIn (site.log ++ [(i, event)]) j)
      rw [Log.eventsIn_concat]
      by_cases here : j = i
      · subst here
        rw [if_pos rfl, if_pos rfl]
        rcases accords with ⟨reached, same, path⟩
        refine ⟨reached, by rw [same, List.append_assoc], fun later ended course => ?_⟩
        rw [List.append_assoc]
        exact path _ _ (moves.course course)
      · rw [if_neg here, if_neg fun same => here same.symm]
        exact sound.accords j
  | @finish i history before after call talk result works =>
      have accords := sound.accords i
      rw [works] at accords
      rcases accords with ⟨reached, same, path⟩
      have course := path [] _ (.done _)
      rw [List.append_nil] at course
      exact sound.occupy ⟨reached.call course, by rw [same, eventsOf_concat]⟩

theorem Reached.sound (reached : site.Reached setups) : site.Sound setups := by
  induction reached with
  | none => exact sound_fresh
  | next _ step inductionHypothesis => exact step.sound inductionHypothesis

/-- Each testbed has a history as if it were alone, and what has happened in it is in the log. -/
theorem Sound.history (sound : site.Sound setups) (i : ι) :
    Reaches (setups i) (site.activity i).history (site.activity i).registry ∧
      ∀ record ∈ (site.activity i).history, ∀ event ∈ record.events, (i, event) ∈ site.log := by
  have accords := sound.accords i
  have logged {event : Event} (listed : event ∈ site.log.eventsIn i) : (i, event) ∈ site.log :=
    Log.mem_of_mem_eventsIn listed
  cases activity : site.activity i with
  | resting history registry =>
      rw [activity] at accords
      rcases accords with ⟨reached, same⟩
      refine ⟨reached, fun record member event happened => logged ?_⟩
      rw [same]
      exact List.mem_flatMap.mpr ⟨record, member, happened⟩
  | busy history before call talk rest =>
      rw [activity] at accords
      rcases accords with ⟨reached, same, _⟩
      refine ⟨reached, fun record member event happened => logged ?_⟩
      rw [same]
      exact List.mem_append_left _ (List.mem_flatMap.mpr ⟨record, member, happened⟩)

end Site
/-! ## Schedules -/

/-- The next event of a program whose requests are answered by rule, and the program that is then left. -/
def Program.advance (replies : Replies) : Program α → Option (Event × Program α)
  | done _ => none
  | ask request next => some (.asked request (replies request), next (replies request))
  | await condition _ _ next => some (.awaited condition .met, next .met ⟨0⟩)
  | connect pod localPort remotePort _ next =>
    some (.connected pod localPort remotePort (.succeeded ()), next (.succeeded ()) ⟨0⟩)

/-- Collaborators that answer by rule, and by the cache where the cache is asked. -/
def Replies.sharing (replies : Replies) (cache : BuildCache) : Replies
  | .recordedImage hash => cache.get? hash
  | .recordImage hash image => (cache.record hash image).1
  | request => replies request

theorem BuildCache.answers_sharing (cache : BuildCache) (replies : Replies) (request : Request) :
    cache.Answers (.asked request (replies.sharing cache request)) := by
  cases request with
  | recordedImage | recordImage => rfl
  | _ => trivial

namespace Site

variable {ι : Type} [DecidableEq ι] {setups : ι → Setup} {replies : ι → Replies} {site : Site ι}

/-- A site after one more step of a testbed, which begins a call if it is at rest. -/
def advance (setups : ι → Setup) (replies : ι → Replies) (site : Site ι) (turn : ι × Call) : Site ι :=
  match site.activity turn.1 with
  | .resting history registry =>
    site.occupy turn.1
      (.busy history registry turn.2 [] (turn.2.perform (setups turn.1) registry))
  | .busy history _ call talk (.done ended) =>
    site.occupy turn.1 (.resting (history ++ [⟨call, talk, ended.1⟩]) ended.2)
  | .busy history before call talk rest =>
    match rest.advance ((replies turn.1).sharing site.cache) with
    | none => site
    | some (event, onward) =>
      (site.note turn.1 event).occupy turn.1 (.busy history before call (talk ++ [event]) onward)

/-- The site that testbeds get to which take their steps in a given order. -/
def schedule (setups : ι → Setup) (replies : ι → Replies) (turns : List (ι × Call)) : Site ι :=
  turns.foldl (advance setups replies) fresh

theorem reached_advance (turn : ι × Call) (reached : site.Reached setups) :
    (site.advance setups replies turn).Reached setups := by
  unfold advance
  split
  · rename_i rests
    exact reached.next (.begin turn.2 rests)
  · rename_i works
    exact reached.next (.finish works)
  · rename_i rest _ works
    split
    · exact reached
    · rename_i event onward advanced
      cases rest with
      | done => cases advanced
      | ask request next =>
          cases advanced
          exact reached.next (.act works (.ask _) (site.cache.answers_sharing _ request))
      | await =>
          cases advanced
          exact reached.next (.act works (.await _ _) trivial)
      | connect =>
          cases advanced
          exact reached.next (.act works (.connect _ _) trivial)

theorem reached_schedule (turns : List (ι × Call)) :
    (schedule setups replies turns).Reached setups := by
  have onward (site : Site ι) (reached : site.Reached setups) :
      (turns.foldl (advance setups replies) site).Reached setups := by
    induction turns generalizing site with
    | nil => exact reached
    | cons turn rest inductionHypothesis =>
        exact inductionHypothesis _ (reached_advance turn reached)
  exact onward fresh .none

end Site
end Testbed
