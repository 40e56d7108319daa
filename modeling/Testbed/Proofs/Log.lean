import Testbed.Proofs.Cache
import Testbed.Proofs.Publication

namespace Testbed

/-!
# The log of testbeds that share a cache

Several testbeds share one cache of images.  What happens in them, in whatever order, is a log; each
entry names the testbed.  What the cache holds and how far each testbed has got with a publication are
functions of the log.  A log is sound if every testbed publishes in order and every request to the
cache is answered by the one cache as it then is.  Nothing else is assumed: pushes may fail, and the
testbeds may take any number of steps between two steps of one of them.

The cache then agrees with all that was ever read from it and recorded in it, and what it holds has
been pushed.  `pushedAt_unique` needs more: that publications do not overlap.
-/

/-- What has happened in some testbeds, in order. -/
abbrev Log (ι : Type) : Type :=
  List (ι × Event)

namespace Log

variable {ι : Type}

/-- What the cache holds after a log. -/
def cache (log : Log ι) : BuildCache :=
  BuildCache.after {} (log.map Prod.snd)

variable {log later : Log ι} {i j : ι} {event : Event} {hash image : String} {context : ContextId}

theorem cache_concat : cache (log ++ [(i, event)]) = log.cache.step event := by
  rw [cache, List.map_append, BuildCache.after_append]
  rfl

/-- An entry of the cache stays. -/
theorem get?_append (held : log.cache.get? hash = some image) :
    (cache (log ++ later)).get? hash = some image := by
  rw [cache, List.map_append, BuildCache.after_append]
  exact BuildCache.get?_after held

variable [DecidableEq ι]

/-- What has happened in one of the testbeds. -/
def eventsIn (log : Log ι) (i : ι) : List Event :=
  log.filterMap fun entry => if entry.1 = i then some entry.2 else none

/-- How far one of the testbeds has got with a publication. -/
def phase (log : Log ι) (i : ι) : Phase :=
  Phase.idle.after (log.eventsIn i)

/-- Whether all testbeds publish in order and the one cache answers them. -/
inductive Sound : Log ι → Prop where
  | empty : Sound []
  | next {log : Log ι} {i : ι} {event : Event} (earlier : Sound log)
      (permitted : (log.phase i).Permits event) (answered : log.cache.Answers event) :
      Sound (log ++ [(i, event)])

/-- Whether no testbed does anything for a publication while another is in the middle of one. -/
def TakesTurns (log : Log ι) : Prop :=
  ∀ earlier i event later, log = earlier ++ (i, event) :: later → event.Publishes →
    ∀ j, j ≠ i → phase earlier j = .idle

/-- Whether, after a part of a log, a context with a hash has been pushed as an image, successfully and
in the course of a publication. -/
def PushedAt (log : Log ι) (hash image : String) (earlier : Log ι) : Prop :=
  ∃ i context later,
    log = earlier ++ (i, .asked (.image (.push context image)) (.ok ())) :: later ∧
      phase earlier i = .tagged context hash

theorem mem_of_mem_eventsIn (listed : event ∈ log.eventsIn i) : (i, event) ∈ log := by
  rcases List.mem_filterMap.mp listed with ⟨⟨j, other⟩, member, found⟩
  by_cases here : j = i
  · rw [if_pos here] at found
    cases found
    exact here ▸ member
  · rw [if_neg here] at found
    cases found

/-! ## One more entry -/

theorem eventsIn_concat :
    eventsIn (log ++ [(i, event)]) j =
      if i = j then log.eventsIn j ++ [event] else log.eventsIn j := by
  rw [eventsIn, List.filterMap_append, List.filterMap_cons, List.filterMap_nil]
  by_cases here : i = j
  · simp only [if_pos here]
    rfl
  · simp only [if_neg here]
    exact List.append_nil _

theorem phase_concat_self : phase (log ++ [(i, event)]) i = (log.phase i).step event := by
  rw [phase, eventsIn_concat, if_pos rfl, Phase.after_append]
  rfl

theorem phase_concat_of_ne (apart : j ≠ i) : phase (log ++ [(i, event)]) j = log.phase j := by
  rw [phase, eventsIn_concat, if_neg apart.symm]
  rfl

/-! ## What the cache agrees with -/

namespace Sound

/-- What has been read from the cache is there. -/
theorem get?_of_read (sound : log.Sound)
    (read : (i, .asked (.recordedImage hash) (some image)) ∈ log) :
    log.cache.get? hash = some image := by
  induction sound with
  | empty => cases read
  | next earlier permitted answered inductionHypothesis =>
      rw [cache_concat]
      rcases List.mem_append.mp read with before | last
      · exact BuildCache.get?_step (inductionHypothesis before)
      · cases List.mem_singleton.mp last
        exact BuildCache.get?_step answered.symm

/-- What the recording of an image has yielded is there. -/
theorem get?_of_recorded {reference : String} (sound : log.Sound)
    (recorded : (i, .asked (.recordImage hash reference) image) ∈ log) :
    log.cache.get? hash = some image := by
  induction sound with
  | empty => cases recorded
  | next earlier permitted answered inductionHypothesis =>
      rw [cache_concat]
      rcases List.mem_append.mp recorded with before | last
      · exact BuildCache.get?_step (inductionHypothesis before)
      · cases List.mem_singleton.mp last
        obtain rfl : image = _ := answered
        exact BuildCache.get?_record_self

end Sound

/-! ## What has been pushed -/

omit [DecidableEq ι] in
/-- What stands in a log stands at its end, or stood there before. -/
private theorem last_or_before {earlier : Log ι} {entry other : ι × Event}
    (whole : log ++ [entry] = earlier ++ other :: later) :
    earlier = log ∧ other = entry ∨ ∃ between, log = earlier ++ other :: between := by
  rcases List.eq_nil_or_concat later with rfl | ⟨between, last, rfl⟩
  · rcases List.append_inj' whole rfl with ⟨rfl, same⟩
    exact Or.inl ⟨rfl, (List.cons.inj same).1.symm⟩
  · rw [List.concat_eq_append, ← List.cons_append, ← List.append_assoc] at whole
    exact Or.inr ⟨between, (List.append_inj' whole rfl).1⟩

theorem not_pushedAt_nil {earlier : Log ι} : ¬ PushedAt [] hash image earlier := by
  rintro ⟨_, _, _, whole, _⟩
  exact List.append_ne_nil_of_right_ne_nil _ (List.cons_ne_nil _ _) whole.symm

theorem PushedAt.append {earlier : Log ι} (pushed : log.PushedAt hash image earlier) :
    PushedAt (log ++ later) hash image earlier := by
  rcases pushed with ⟨i, context, rest, rfl, tagged⟩
  exact ⟨i, context, rest ++ later, List.append_assoc _ _ _, tagged⟩

/-- What has been pushed has been pushed just now or before. -/
theorem PushedAt.now_or_before {earlier : Log ι}
    (pushed : PushedAt (log ++ [(i, event)]) hash image earlier) :
    log.PushedAt hash image earlier ∨
      earlier = log ∧ ∃ context, log.phase i = .tagged context hash ∧
        event = .asked (.image (.push context image)) (.ok ()) := by
  rcases pushed with ⟨pusher, context, later, whole, tagged⟩
  rcases last_or_before whole with ⟨rfl, same⟩ | ⟨between, rfl⟩
  · cases same
    exact Or.inr ⟨rfl, context, tagged, rfl⟩
  · exact Or.inl ⟨pusher, context, between, rfl, tagged⟩

namespace Sound

theorem pushedAt_of_phase (sound : log.Sound) (reached : log.phase i = .pushed hash image) :
    ∃ earlier, log.PushedAt hash image earlier := by
  induction sound with
  | empty => cases reached
  | @next log actor event earlier permitted answered inductionHypothesis =>
      by_cases here : i = actor
      · subst here
        rw [phase_concat_self] at reached
        rcases Phase.step_eq_pushed reached permitted with ⟨context, tagged, rfl⟩
        exact ⟨log, i, context, [], rfl, tagged⟩
      · rw [phase_concat_of_ne here] at reached
        rcases inductionHypothesis reached with ⟨past, pushed⟩
        exact ⟨past, pushed.append⟩

/-- What the cache holds has been pushed. -/
theorem exists_pushedAt (sound : log.Sound) (held : log.cache.get? hash = some image) :
    ∃ earlier, log.PushedAt hash image earlier := by
  induction sound with
  | empty => cases held
  | next earlier permitted answered inductionHypothesis =>
      rw [cache_concat] at held
      rcases BuildCache.get?_step_cases held with before | ⟨reply, rfl⟩
      · rcases inductionHypothesis before with ⟨past, pushed⟩
        exact ⟨past, pushed.append⟩
      · rcases earlier.pushedAt_of_phase (Phase.permits_recordImage permitted) with ⟨past, pushed⟩
        exact ⟨past, pushed.append⟩

/-- Every successful push belongs to a publication. -/
theorem pushedAt_of_push {earlier : Log ι} (sound : log.Sound)
    (whole : log = earlier ++ (i, .asked (.image (.push context image)) (.ok ())) :: later) :
    ∃ hash, log.PushedAt hash image earlier := by
  induction sound generalizing later with
  | empty => exact absurd whole.symm (List.append_ne_nil_of_right_ne_nil _ (List.cons_ne_nil _ _))
  | @next log actor event former permitted answered inductionHypothesis =>
      rcases last_or_before whole with ⟨rfl, same⟩ | ⟨between, same⟩
      · cases same
        rcases Phase.permits_push permitted with ⟨hash, tagged⟩
        exact ⟨hash, i, context, [], rfl, tagged⟩
      · rcases inductionHypothesis same with ⟨hash, pushed⟩
        exact ⟨hash, pushed.append⟩

end Sound

/-! ## Publications that do not overlap -/

theorem TakesTurns.before (turns : TakesTurns (log ++ [(i, event)])) : log.TakesTurns := by
  rintro earlier j other later rfl
  exact turns earlier j other (later ++ [(i, event)]) (List.append_assoc _ _ _)

/-- Whoever is in the middle of a publication is the one who goes on with one. -/
theorem TakesTurns.actor (turns : TakesTurns (log ++ [(i, event)])) (publishes : event.Publishes)
    (busy : log.phase j ≠ .idle) : j = i :=
  Decidable.byContradiction fun apart => busy (turns log i event [] rfl publishes j apart)

namespace Sound

/-- While somebody has found nothing for a hash, nobody records anything for it. -/
theorem get?_of_missed (sound : log.Sound) (turns : log.TakesTurns)
    (missed : log.phase i = .missed context hash ∨ log.phase i = .tagged context hash) :
    log.cache.get? hash = none := by
  induction sound with
  | empty => exact missed.elim nofun nofun
  | @next log actor event earlier permitted answered inductionHypothesis =>
      rw [cache_concat]
      by_cases here : i = actor
      · subst here
        rw [phase_concat_self] at missed
        rcases missed with missed | tagged
        · rcases Phase.step_eq_missed missed permitted with ⟨_, rfl⟩
          exact answered.symm
        · rcases Phase.step_eq_tagged tagged with ⟨before, tag, rfl⟩
          exact inductionHypothesis turns.before (Or.inl before)
      · rw [phase_concat_of_ne here] at missed
        have busy : log.phase i ≠ .idle := by
          rcases missed with same | same
          · rw [same]; exact nofun
          · rw [same]; exact nofun
        have discreet : ¬ event.Publishes := fun publishes => here (turns.actor publishes busy)
        rw [BuildCache.step_of_spares (Event.sparesCache_of_not_publishes discreet)]
        exact inductionHypothesis turns.before missed

/-- What has been pushed is in the cache, or is the next to be recorded. -/
theorem held_or_pushed {earlier : Log ι} (sound : log.Sound) (turns : log.TakesTurns)
    (pushed : log.PushedAt hash image earlier) :
    (∃ reference, log.cache.get? hash = some reference) ∨
      ∃ i reference, log.phase i = .pushed hash reference := by
  induction sound with
  | empty => exact absurd pushed not_pushedAt_nil
  | @next log actor event former permitted answered inductionHypothesis =>
      rw [cache_concat]
      rcases pushed.now_or_before with before | ⟨_, context, tagged, rfl⟩
      · rcases inductionHypothesis turns.before before with ⟨reference, held⟩ | ⟨i, reference, reached⟩
        · exact Or.inl ⟨reference, BuildCache.get?_step held⟩
        · by_cases here : i = actor
          · subst here
            rw [reached] at permitted
            rcases Phase.permits_of_pushed permitted with ⟨reply, rfl⟩
            exact Or.inl ⟨_, BuildCache.get?_record_self⟩
          · exact Or.inr ⟨i, reference, (phase_concat_of_ne here).trans reached⟩
      · refine Or.inr ⟨actor, image, ?_⟩
        rw [phase_concat_self, tagged]
        rfl

/-- A hash that has just been found missing has not been pushed before. -/
theorem not_pushedAt {earlier : Log ι} (sound : log.Sound) (turns : TakesTurns (log ++ [(i, event)]))
    (publishes : event.Publishes) (tagged : log.phase i = .tagged context hash) :
    ¬ log.PushedAt hash image earlier := by
  intro pushed
  rcases sound.held_or_pushed turns.before pushed with ⟨reference, held⟩ | ⟨j, reference, reached⟩
  · rw [sound.get?_of_missed turns.before (Or.inr tagged)] at held
    cases held
  · obtain rfl : j = i := turns.actor publishes (by rw [reached]; exact nofun)
    rw [tagged] at reached
    cases reached

/-- Among testbeds that take turns, every hash is pushed once at most. -/
theorem pushedAt_unique {first second : String} {earlier other : Log ι} (sound : log.Sound)
    (turns : log.TakesTurns) (pushed : log.PushedAt hash first earlier)
    (again : log.PushedAt hash second other) : earlier = other := by
  induction sound with
  | empty => exact absurd pushed not_pushedAt_nil
  | next former permitted answered inductionHypothesis =>
      rcases pushed.now_or_before with before | ⟨rfl, context, tagged, rfl⟩
      · rcases again.now_or_before with also | ⟨rfl, context, tagged, rfl⟩
        · exact inductionHypothesis turns.before before also
        · exact absurd before (former.not_pushedAt turns trivial tagged)
      · rcases again.now_or_before with also | ⟨rfl, _⟩
        · exact absurd also (former.not_pushedAt turns trivial tagged)
        · rfl

end Sound
end Log
end Testbed
