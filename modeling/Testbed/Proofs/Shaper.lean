import Testbed.Proofs.Turn

namespace Testbed

/-!
# What runs in a pod

Seen from outside, the shaping sidecar of a pod is a set of kinds that run.  A start that succeeds adds
its kind and a stop that succeeds removes it, the removal of the compute unit empties the set, and
nothing else changes it.  So what runs is determined by the events so far, for the name under which the
compute unit is deployed and the name under which the sidecar is talked to.

Of what the shaping service says one thing is relied on: when it answers a stop with having nothing to
stop, the kind does not run.
-/

/-- The kinds of shaping that run. -/
abbrev Running : Type :=
  ShapingKind → Prop

/-- The target and the kind of a stop that is answered with having nothing to stop. -/
def Event.idle? : Event → Option (String × ShapingKind)
  | asked (.unshape target _ kind) (.error failure) =>
    if failure.isIdle then some (target, kind) else none
  | _ => none

/-- Whether an event is an answer to a stop at a target. -/
def Event.IsStop (target : String) (event : Event) : Prop :=
  ∃ port kind reply, event = .asked (.unshape target port kind) reply

namespace Running

/-- Whether nothing runs but one kind at most. -/
def IsSingle (running : Running) : Prop :=
  ∀ kind other, running kind → running other → kind = other

/-- Where nothing runs. -/
def none : Running :=
  fun _ => False

/-- What runs in the pod of an owner after an event, if its sidecar is talked to as the target. -/
def step (owner target : String) (running : Running) : Event → Running
  | .asked (.shape asked _ _ shaping) (.ok _) =>
    if asked = target then fun kind => running kind ∨ kind = shaping.kind else running
  | .asked (.unshape asked _ stopped) (.ok _) =>
    if asked = target then fun kind => running kind ∧ kind ≠ stopped else running
  | .asked (.cluster (.delete .replicaSet name _)) (.ok _) => if name = owner then none else running
  | _ => running

/-- What runs after some events. -/
def after (owner target : String) (running : Running) (events : List Event) : Running :=
  events.foldl (step owner target) running

/-- Whether the answer that there is nothing to stop is only ever given of what does not run. -/
def Truthful (owner target : String) (running : Running) (events : List Event) : Prop :=
  ∀ earlier event kind, earlier ++ [event] <+: events → event.idle? = some (target, kind) →
    ¬ running.after owner target earlier kind

/-- Whether never more than one kind runs. -/
def IsSingleAlong (owner target : String) (running : Running) (events : List Event) : Prop :=
  ∀ earlier, earlier <+: events → (running.after owner target earlier).IsSingle

variable {owner target : String} {running : Running} {event : Event} {events earlier later : List Event}
  {mode : Option ShapingKind}

theorem isSingle_of_mode (noted : ∀ kind, running kind → mode = some kind) : running.IsSingle := by
  intro kind other runs also
  exact Option.some.inj ((noted kind runs).symm.trans (noted other also))

/-! ## Single events -/

/-- Nothing changes unless the sidecar is talked to or the compute unit is removed. -/
theorem step_of_silent (other : event.shaper? ≠ some target)
    (stays : ∀ grace, event ≠ .removed owner grace) : running.step owner target event = running := by
  unfold step
  split
  · exact if_neg fun same => other (congrArg some same)
  · exact if_neg fun same => other (congrArg some same)
  · refine if_neg ?_
    rintro rfl
    exact stays _ rfl
  · rfl

theorem step_removed {grace : Option UInt32} :
    running.step owner target (.removed owner grace) = none :=
  if_pos rfl

/-- Where nothing runs, a start that succeeds makes its kind run. -/
theorem step_shape_none {port : UInt16} {interface : String} {asked : Shaping} :
    none.step owner target (.asked (.shape target port interface asked) (.ok ())) =
      fun kind => kind = asked.kind := by
  funext kind
  rw [step, if_pos rfl]
  exact propext ⟨fun runs => runs.resolve_left id, Or.inr⟩

/-- What an answer to a stop leaves, if it is truthful: the kind no longer runs, or the answer was
neither yes nor that there was nothing to stop. -/
theorem step_unshape {port : UInt16} {stopped : ShapingKind} {reply : Except ShapingFailure Unit}
    (calm : ∀ failure, reply = .error failure → failure.isIdle = true)
    (truthful : ∀ kind, (Event.asked (.unshape target port stopped) reply).idle? = some (target, kind) →
      ¬ running kind) (kind : ShapingKind) :
    running.step owner target (.asked (.unshape target port stopped) reply) kind ↔
      running kind ∧ kind ≠ stopped := by
  cases reply with
  | ok granted =>
      rw [step, if_pos rfl]
  | error failure =>
      have absent : ¬ running stopped := truthful stopped (if_pos (calm failure rfl))
      refine ⟨fun runs => ⟨runs, ?_⟩, And.left⟩
      rintro rfl
      exact absent runs

/-- An answer to a stop makes nothing run. -/
theorem of_step_unshape {port : UInt16} {stopped kind : ShapingKind}
    {reply : Except ShapingFailure Unit}
    (runs : running.step owner target (.asked (.unshape target port stopped) reply) kind) :
    running kind := by
  cases reply with
  | ok granted =>
      rw [step, if_pos rfl] at runs
      exact runs.1
  | error failure => exact runs

/-! ## Series of events -/

theorem after_append :
    running.after owner target (earlier ++ later) =
      (running.after owner target earlier).after owner target later :=
  List.foldl_append

theorem after_singleton : running.after owner target [event] = running.step owner target event :=
  rfl

theorem after_of_silent (other : ∀ event ∈ events, event.shaper? ≠ some target)
    (stays : ∀ event ∈ events, ∀ grace, event ≠ .removed owner grace) :
    running.after owner target events = running := by
  induction events generalizing running with
  | nil => rfl
  | cons first rest inductionHypothesis =>
      rw [after, List.foldl_cons, step_of_silent (other first List.mem_cons_self)
        (stays first List.mem_cons_self)]
      exact inductionHypothesis (fun event member => other event (List.mem_cons_of_mem first member))
        fun event member => stays event (List.mem_cons_of_mem first member)

/-- Where nothing runs, nothing runs later, if the sidecar is not talked to. -/
theorem after_none (other : ∀ event ∈ events, event.shaper? ≠ some target) :
    none.after owner target events = none := by
  induction events with
  | nil => rfl
  | cons first rest inductionHypothesis =>
      have stays : none.step owner target first = none := by
        by_cases removes : ∃ grace, first = .removed owner grace
        · rcases removes with ⟨grace, rfl⟩
          exact step_removed
        · exact step_of_silent (other first List.mem_cons_self) fun grace same => removes ⟨grace, same⟩
      rw [after, List.foldl_cons, stays]
      exact inductionHypothesis fun event member => other event (List.mem_cons_of_mem first member)

/-- Whoever never says that there is nothing to stop is truthful. -/
theorem Truthful.of_idle?_eq (busy : ∀ event ∈ events, event.idle? = Option.none) :
    Truthful owner target running events := by
  intro earlier event kind leads idle
  rw [busy event (leads.subset (List.mem_append_right earlier (List.mem_singleton.mpr rfl)))] at idle
  cases idle

theorem Truthful.append (truthful : Truthful owner target running (earlier ++ later)) :
    Truthful owner target running earlier ∧
      Truthful owner target (running.after owner target earlier) later := by
  constructor
  · exact fun front event kind leads => truthful front event kind (leads.trans (List.prefix_append _ _))
  · intro front event kind leads idle
    rw [← after_append]
    refine truthful (earlier ++ front) event kind ?_ idle
    rw [List.append_assoc]
    exact (List.prefix_append_right_inj earlier).mpr leads

theorem Truthful.cons (truthful : Truthful owner target running (event :: events)) :
    (∀ kind, event.idle? = some (target, kind) → ¬ running kind) ∧
      Truthful owner target (running.step owner target event) events := by
  constructor
  · intro kind
    exact truthful [] event kind (List.prefix_append [event] events)
  · intro earlier last kind leads
    exact truthful (event :: earlier) last kind (List.cons_prefix_cons.mpr ⟨rfl, leads⟩)

theorem IsSingleAlong.append (first : IsSingleAlong owner target running earlier)
    (second : IsSingleAlong owner target (running.after owner target earlier) later) :
    IsSingleAlong owner target running (earlier ++ later) := by
  intro front leads
  rcases List.prefix_or_prefix_of_prefix leads (List.prefix_append earlier later) with within | beyond
  · exact first front within
  · rcases beyond with ⟨rest, rfl⟩
    rw [after_append]
    exact second rest ((List.prefix_append_right_inj earlier).mp leads)

theorem isSingleAlong_singleton (single : running.IsSingle)
    (still : (running.step owner target event).IsSingle) :
    IsSingleAlong owner target running [event] := by
  intro earlier leads
  rcases List.prefix_cons_iff.mp leads with rfl | ⟨front, rfl, within⟩
  · exact single
  · rw [List.prefix_nil.mp within]
    exact still

/-- Answers to stops make nothing run. -/
theorem of_after_isStop {kind : ShapingKind} (stops : ∀ event ∈ events, event.IsStop target)
    (runs : running.after owner target events kind) : running kind := by
  induction events generalizing running with
  | nil => exact runs
  | cons first rest inductionHypothesis =>
      have onward := inductionHypothesis (fun event member => stops event (List.mem_cons_of_mem first member))
        runs
      rcases stops first List.mem_cons_self with ⟨port, stopped, reply, rfl⟩
      exact of_step_unshape onward

/-- Along answers to stops, there is never more than there was. -/
theorem isSingleAlong_of_isStop (single : running.IsSingle)
    (stops : ∀ event ∈ events, event.IsStop target) : IsSingleAlong owner target running events := by
  intro earlier leads kind other runs also
  have within : ∀ event ∈ earlier, event.IsStop target :=
    fun event member => stops event (leads.subset member)
  exact single kind other (of_after_isStop within runs) (of_after_isStop within also)

end Running

/-! ## Changes of shaping -/

theorem Stops.isStop {target : String} {port : UInt16} {kinds : List ShapingKind}
    {events : List Event} (stops : Stops target port kinds events) :
    ∀ event ∈ events, event.IsStop target := by
  induction stops with
  | none => exact fun _ impossible => nomatch impossible
  | next calm rest inductionHypothesis =>
      exact List.forall_mem_cons.mpr ⟨⟨_, _, _, rfl⟩, inductionHypothesis⟩

theorem Stops.isStop_append {target : String} {port : UInt16} {kinds : List ShapingKind}
    {talk : List Event} {kind : ShapingKind} {reply : Except ShapingFailure Unit}
    (stops : Stops target port kinds talk) :
    ∀ event ∈ talk ++ [.asked (.unshape target port kind) reply], event.IsStop target := by
  intro event member
  rcases List.mem_append.mp member with early | last
  · exact stops.isStop event early
  · exact ⟨port, kind, reply, List.mem_singleton.mp last⟩

/-- A change of shaping is a talk with one sidecar. -/
theorem Shapes.shaper?_eq {target : String} {port : UInt16} {active mode : Option ShapingKind}
    {shaping : Option Shaping} {events : List Event} {succeeded : Bool}
    (shapes : Shapes target port active shaping events succeeded mode) :
    ∀ event ∈ events, event.shaper? = some target := by
  have stopped {talk : List Event} (stops : ∀ event ∈ talk, event.IsStop target) :
      ∀ event ∈ talk, event.shaper? = some target := by
    intro event member
    rcases stops event member with ⟨port, kind, reply, rfl⟩
    rfl
  cases shapes with
  | aborted stops => exact stopped stops.isStop_append
  | cleared _ stops => exact stopped stops.isStop
  | unstarted _ stops | started _ stops =>
      exact List.forall_mem_append.mpr ⟨stopped stops.isStop, List.forall_mem_singleton.mpr rfl⟩

namespace Running

variable {owner target : String} {running : Running} {events talk : List Event} {port : UInt16}
  {active mode : Option ShapingKind} {shaping : Option Shaping} {succeeded : Bool}

/-- What has been stopped no longer runs, and everything else goes on. -/
theorem after_stops {kinds : List ShapingKind} (stops : Stops target port kinds events)
    (truthful : Truthful owner target running events) (kind : ShapingKind) :
    running.after owner target events kind ↔ running kind ∧ kind ∉ kinds := by
  induction stops generalizing running with
  | none => simp only [after, List.foldl_nil, List.not_mem_nil, not_false_eq_true, and_true]
  | next calm rest inductionHypothesis =>
      rcases truthful.cons with ⟨here, onward⟩
      rw [after, List.foldl_cons]
      refine (inductionHypothesis onward).trans ?_
      rw [step_unshape calm here kind, List.mem_cons, not_or, and_assoc]

/-- Once the stops that precede a change of shaping are made, nothing runs. -/
theorem after_kindsToStop (noted : ∀ kind, running kind → active = some kind)
    (stops : Stops target port (Action.kindsToStop active shaping) talk)
    (truthful : Truthful owner target running talk) : running.after owner target talk = none := by
  funext kind
  refine propext ⟨fun runs => ?_, False.elim⟩
  rcases (after_stops stops truthful kind).mp runs with ⟨ran, absent⟩
  refine absent (List.mem_append_left _ ?_)
  rw [noted kind ran]
  exact List.mem_singleton.mpr rfl

/-- After a change of shaping, as far as it gets: what is noted covers what runs, and never more than
one kind ran on the way.  If the change succeeds, what was asked for is noted, and exactly that runs. -/
theorem after_shapes (shapes : Shapes target port active shaping events succeeded mode)
    (truthful : Truthful owner target running events)
    (noted : ∀ kind, running kind → active = some kind) :
    (∀ kind, running.after owner target events kind → mode = some kind) ∧
      IsSingleAlong owner target running events ∧
      (succeeded = true → mode = shaping.map Shaping.kind ∧
        ∀ kind, running.after owner target events kind ↔ mode = some kind) := by
  have single := isSingle_of_mode noted
  have empty : none.IsSingle := fun _ _ impossible => impossible.elim
  cases shapes with
  | aborted stops grave =>
      exact ⟨fun kind runs => noted kind (of_after_isStop stops.isStop_append runs),
        isSingleAlong_of_isStop single stops.isStop_append, nofun⟩
  | cleared ends stops =>
      subst ends
      rw [after_kindsToStop noted stops truthful]
      exact ⟨fun _ impossible => impossible.elim, isSingleAlong_of_isStop single stops.isStop,
        fun _ => ⟨rfl, fun _ => ⟨False.elim, nofun⟩⟩⟩
  | unstarted asks stops =>
      have halted := after_kindsToStop noted stops truthful.append.1
      rw [after_append, halted]
      refine ⟨fun _ impossible => impossible.elim, ?_, nofun⟩
      refine (isSingleAlong_of_isStop single stops.isStop).append ?_
      rw [halted]
      exact isSingleAlong_singleton empty empty
  | started asks stops =>
      have halted := after_kindsToStop noted stops truthful.append.1
      have noting (asked kind : ShapingKind) : kind = asked ↔ some asked = some kind :=
        ⟨fun same => congrArg some same.symm, fun same => (Option.some.inj same).symm⟩
      rw [after_append, halted, after_singleton, step_shape_none, asks]
      refine ⟨fun kind => (noting _ kind).mp, ?_, fun _ => ⟨rfl, noting _⟩⟩
      refine (isSingleAlong_of_isStop single stops.isStop).append ?_
      rw [halted]
      refine isSingleAlong_singleton empty ?_
      rw [step_shape_none]
      exact fun _ _ first second => first.trans second.symm

end Running
end Testbed
