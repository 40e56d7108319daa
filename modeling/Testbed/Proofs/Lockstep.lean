import Testbed.Proofs.Forest

namespace Testbed

/-!
# Pods in lockstep

The state of a sidecar is moved by its parent's operations.  `Registry.InLockstep` says how the two
are related at all times: a sidecar waits, committed, while its parent is described, and has the
parent's state from the first start on.  A parent is never without an image, so a direct operation on
the sidecar finds no state in which it could part the two.

`State.Leads` lists the edges of a life.  A move takes each instance along one edge at most, and moves
none but those of its label; so a series of moves in which one counts at most takes each instance that
was there before along one edge at most.
-/

namespace State

/-- Whether a sidecar can have the second state while its parent has the first. -/
def Accords : State → State → Prop
  | created, _ => False
  | preparing, sidecar | committed, sidecar => sidecar = .committed
  | started, sidecar => sidecar = .started
  | stopped, sidecar => sidecar = .stopped

/-- The edges of a life. -/
inductive Leads : State → State → Prop where
  | prepare : Leads created preparing
  | commit : Leads preparing committed
  | launch : Leads committed started
  | halt : Leads started stopped
  | relaunch : Leads stopped started

variable {parent sidecar : State}

theorem Accords.sidecar_ne_created (accord : parent.Accords sidecar) : sidecar ≠ .created := by
  rintro rfl
  cases parent with
  | created => exact accord
  | _ => cases accord

theorem Accords.sidecar_ne_preparing (accord : parent.Accords sidecar) : sidecar ≠ .preparing := by
  rintro rfl
  cases parent with
  | created => exact accord
  | _ => cases accord

end State

namespace Registry

/-- The state of every sidecar accords with that of its parent. -/
def InLockstep (registry : Registry) : Prop :=
  ∀ parent sidecar, sidecar ∈ registry.sidecarsOf parent →
    ∃ driving driven, registry.stateOf parent = some driving ∧
      registry.stateOf sidecar = some driven ∧ driving.Accords driven

variable {registry before after grown : Registry} {id other sidecar : InstanceId}
  {workload parent candidate added : Instance}

namespace InLockstep

theorem empty : ({} : Registry).InLockstep := by
  intro parent sidecar listed
  have none : ({} : Registry).get? parent = none := List.getElem?_nil
  rw [sidecarsOf, none] at listed
  cases listed

theorem of_eq (lockstep : before.InLockstep) (links : ∀ id, after.linksOf id = before.linksOf id)
    (states : ∀ id, after.stateOf id = before.stateOf id) : after.InLockstep := by
  intro parent sidecar listed
  rw [sidecarsOf_of_linksOf_eq (links parent)] at listed
  rw [states, states]
  exact lockstep _ _ listed

theorem add (lockstep : before.InLockstep) (joined : before.add added = .ok grown)
    (single : added.sidecars = []) : grown.InLockstep := by
  intro parent sidecar listed
  rw [sidecarsOf_add joined single] at listed
  rcases lockstep _ _ listed with ⟨driving, driven, drives, follows, accord⟩
  exact ⟨driving, driven, stateOf_add joined drives, stateOf_add joined follows, accord⟩

theorem attach (lockstep : before.InLockstep) (found : before.get? id = some parent)
    (joining : before.get? sidecar = some candidate) (accord : parent.state.Accords candidate.state) :
    (before.attach id sidecar).InLockstep := by
  intro leader follower listed
  rw [stateOf_attach, stateOf_attach]
  rw [sidecarsOf_attach found] at listed
  split at listed
  · rename_i here
    subst here
    rcases List.mem_append.mp listed with old | new
    · exact lockstep _ _ old
    · rcases List.mem_singleton.mp new with rfl
      exact ⟨_, _, stateOf_eq found, stateOf_eq joining, accord⟩
  · exact lockstep _ _ listed

/-- A pod that moves as a whole stays in lockstep, and the others do not move. -/
theorem setPodState (lockstep : before.InLockstep) (linked : before.WellLinked)
    (leads : before.parentOf id = none) {state : State} (accord : state.Accords state) :
    (before.setPodState id state).InLockstep := by
  intro parent sidecar listed
  rw [sidecarsOf_of_linksOf_eq linksOf_setPodState] at listed
  rcases lockstep _ _ listed with ⟨driving, driven, drives, follows, agreed⟩
  rw [stateOf_setPodState, stateOf_setPodState, drives, follows]
  by_cases here : parent = id
  · subst here
    rw [if_pos (mem_podHandles_iff.mpr (Or.inl rfl)), if_pos (mem_podHandles_iff.mpr (Or.inr listed))]
    exact ⟨state, state, rfl, rfl, accord⟩
  · have parentStays : parent ∉ before.podHandles id := by
      intro member
      rcases mem_podHandles_iff.mp member with same | follower
      · exact here same
      · rw [linked.shallow (linked.linked.mpr follower)] at listed
        cases listed
    have sidecarStays : sidecar ∉ before.podHandles id := by
      intro member
      rcases mem_podHandles_iff.mp member with rfl | follower
      · rw [linked.linked.mpr listed] at leads
        cases leads
      · have same := (linked.linked.mpr listed).symm.trans (linked.linked.mpr follower)
        exact here (Option.some.inj same)
    rw [if_neg parentStays, if_neg sidecarStays]
    exact ⟨driving, driven, rfl, rfl, agreed⟩

/-- An instance can move alone out of a state in which it is no sidecar, to one that suits its own
sidecars as well. -/
theorem update (lockstep : before.InLockstep) {change : Instance → Instance} {previous next : State}
    (known : before.stateOf id = some previous) (sets : ∀ workload, (change workload).state = next)
    (keeps : ∀ workload, (change workload).links = workload.links)
    (free : ∀ driving : State, ¬ driving.Accords previous)
    (suits : ∀ driven : State, previous.Accords driven → next.Accords driven) :
    (before.update id change).InLockstep := by
  have links := reworked_update.linksOf_eq fun handle workload (_ : before.get? handle = some workload) =>
    show (if handle = id then change workload else workload).links = workload.links by
      split
      · exact keeps workload
      · rfl
  intro parent sidecar listed
  rw [sidecarsOf_of_linksOf_eq (links parent)] at listed
  rcases lockstep _ _ listed with ⟨driving, driven, drives, follows, agreed⟩
  have sidecarStays : sidecar ≠ id := by
    rintro rfl
    rcases Option.some.inj (follows.symm.trans known) with rfl
    exact free driving agreed
  rw [stateOf_update_of_const sets, stateOf_update_of_const sets, if_neg sidecarStays, drives, follows]
  split
  · rename_i here
    subst here
    rcases Option.some.inj (drives.symm.trans known) with rfl
    exact ⟨next, driven, rfl, rfl, suits driven agreed⟩
  · exact ⟨driving, driven, rfl, rfl, agreed⟩

/-- Once its instance is committed, a pod is in one state. -/
theorem stateOf_of_mem_podHandles (lockstep : registry.InLockstep)
    (found : registry.get? id = some workload) (member : other ∈ registry.podHandles id)
    (united : ∀ driven, workload.state.Accords driven → driven = workload.state) :
    registry.stateOf other = some workload.state := by
  rcases mem_podHandles_iff.mp member with rfl | listed
  · exact stateOf_eq found
  · rcases lockstep _ _ listed with ⟨driving, driven, drives, follows, agreed⟩
    rcases Option.some.inj ((stateOf_eq found).symm.trans drives) with rfl
    rw [follows, united driven agreed]

/-- The operations that move or copy a pod find every sidecar in a state that permits them whenever
they find the parent in one. -/
theorem permits (lockstep : registry.InLockstep) (found : registry.get? id = some workload)
    {operation : Operation} (shared : operation ∈ [.start, .stop, .clone])
    (permitted : workload.state ∈ operation.allowedStates) :
    registry.permits operation workload.sidecars = .ok () := by
  have passes : ∀ driving ∈ operation.allowedStates, ∀ driven, driving.Accords driven →
      driven ∈ operation.allowedStates := by
    simp only [List.mem_cons, List.not_mem_nil, or_false] at shared
    rcases shared with rfl | rfl | rfl
    · rintro driving (_ | ⟨_, _ | ⟨_, ⟨⟩⟩⟩) driven rfl
      · exact List.mem_cons_self
      · exact List.mem_cons_of_mem _ List.mem_cons_self
    · rintro driving (_ | ⟨_, ⟨⟩⟩) driven rfl
      exact List.mem_cons_self
    · rintro driving (_ | ⟨_, ⟨⟩⟩) driven rfl
      exact List.mem_cons_self
  apply permits_eq_ok_iff.mpr
  intro sidecar listed
  rw [← sidecarsOf_eq found] at listed
  rcases lockstep _ _ listed with ⟨driving, driven, drives, follows, agreed⟩
  rcases Option.some.inj ((stateOf_eq found).symm.trans drives) with rfl
  rcases Option.map_eq_some_iff.mp follows with ⟨follower, there, rfl⟩
  exact ⟨follower, there, passes _ permitted _ agreed⟩

end InLockstep
end Registry

/-! ## Moves -/

namespace Move

open Registry

variable {setup : Setup} {touched : List InstanceId} {before after : Registry} {events : List Event}
  {id : InstanceId} {state : State}

theorem inLockstep (move : Move setup touched before events after) (linked : before.WellLinked)
    (lockstep : before.InLockstep) : after.InLockstep := by
  cases move with
  | talk | support | serve | isolate | rejoin => exact lockstep
  | create joined => exact lockstep.add joined rfl
  | copy _ _ joined => exact lockstep.add joined rfl
  | copySidecar _ committed led leads frozen joined =>
      refine (lockstep.add joined rfl).attach (found_add joined led)
        ((get?_add joined).trans (if_pos rfl)) ?_
      rw [frozen, Instance.duplicate, committed]
      rfl
  | attach found describable apart joining fit =>
      rcases Action.attachmentFault?_eq_none_iff.mp fit with ⟨committed, _⟩
      refine lockstep.attach found joining ?_
      rw [committed]
      rcases Operation.mem_descriptive_iff.mp describable with preparing | committed
      · rw [preparing]
        rfl
      · rw [committed]
        rfl
  | amend amends =>
      refine lockstep.of_eq (reworked_update.linksOf_eq ?_) (reworked_update.stateOf_eq ?_)
      · intro handle workload found
        split
        · rename_i here
          exact (amends workload (here ▸ found)).keeps.2
        · rfl
      · intro handle workload found
        split
        · rename_i here
          exact (amends workload (here ▸ found)).keeps.1
        · rfl
  | resolve =>
      refine lockstep.of_eq (reworked_update.linksOf_eq ?_) (reworked_update.stateOf_eq ?_)
      · intro handle workload found
        split
        · rfl
        · rfl
      · intro handle workload found
        split
        · rfl
        · rfl
  | prepare context created =>
      exact lockstep.update created (fun _ => rfl) (fun _ => rfl)
        (fun _ accord => accord.sidecar_ne_created rfl) fun _ accord => False.elim accord
  | commit reference preparing =>
      exact lockstep.update preparing (fun _ => rfl) (fun _ => rfl)
        (fun _ accord => accord.sidecar_ne_preparing rfl) fun _ accord => accord
  | launch found leads | relaunch found leads =>
      have together : State.started.Accords .started := rfl
      exact lockstep.setPodState linked ((parentOf_eq found).trans leads) together
  | halt found leads =>
      have together : State.stopped.Accords .stopped := rfl
      refine (lockstep.setPodState linked ((parentOf_eq found).trans leads) together).of_eq
        (reworked_update.linksOf_eq ?_) (reworked_update.stateOf_eq ?_)
      · intro handle workload _
        split
        · rfl
        · rfl
      · intro handle workload _
        split
        · rfl
        · rfl

/-- A move takes an instance along one edge of its life at most. -/
theorem leads (move : Move setup touched before events after) (lockstep : before.InLockstep)
    (known : before.stateOf id = some state) :
    ∃ next, after.stateOf id = some next ∧ (next = state ∨ state.Leads next) := by
  have stays (same : after.stateOf id = before.stateOf id) :
      ∃ next, after.stateOf id = some next ∧ (next = state ∨ state.Leads next) :=
    ⟨state, same.trans known, Or.inl rfl⟩
  have alone {target : InstanceId} {change : Instance → Instance} {previous next : State}
      (current : before.stateOf target = some previous)
      (sets : ∀ workload, (change workload).state = next) (edge : previous.Leads next) :
      ∃ reached, (before.update target change).stateOf id = some reached ∧
        (reached = state ∨ state.Leads reached) := by
    rw [stateOf_update_of_const sets]
    split
    · rename_i here
      subst here
      rcases Option.some.inj (known.symm.trans current) with rfl
      rw [known]
      exact ⟨next, rfl, Or.inr edge⟩
    · exact ⟨state, known, Or.inl rfl⟩
  -- A pod that moves as a whole was in one state, from which there is an edge to the next.
  have together {leader : InstanceId} {workload : Instance} {next : State}
      (found : before.get? leader = some workload)
      (united : ∀ driven, workload.state.Accords driven → driven = workload.state)
      (edge : workload.state.Leads next) :
      ∃ reached, (before.setPodState leader next).stateOf id = some reached ∧
        (reached = state ∨ state.Leads reached) := by
    rw [stateOf_setPodState]
    by_cases member : id ∈ before.podHandles leader
    · have current := lockstep.stateOf_of_mem_podHandles found member united
      rcases Option.some.inj (known.symm.trans current) with rfl
      rw [if_pos member, known]
      exact ⟨next, rfl, Or.inr edge⟩
    · rw [if_neg member]
      exact ⟨state, known, Or.inl rfl⟩
  cases move with
  | talk | support | serve | isolate | rejoin => exact stays rfl
  | create joined | copy _ _ joined => exact ⟨state, stateOf_add joined known, Or.inl rfl⟩
  | copySidecar _ _ _ _ _ joined =>
      exact ⟨state, stateOf_attach.trans (stateOf_add joined known), Or.inl rfl⟩
  | attach => exact stays stateOf_attach
  | amend amends =>
      refine stays (reworked_update.stateOf_eq ?_ id)
      intro handle workload found
      split
      · rename_i here
        exact (amends workload (here ▸ found)).keeps.1
      · rfl
  | resolve =>
      refine stays (reworked_update.stateOf_eq ?_ id)
      intro handle workload found
      split
      · rfl
      · rfl
  | prepare context created => exact alone created (fun _ => rfl) .prepare
  | commit reference preparing => exact alone preparing (fun _ => rfl) .commit
  | launch found _ committed =>
      refine together found ?_ ?_
      · rw [committed]
        exact fun _ accord => accord
      · rw [committed]
        exact .launch
  | relaunch found _ stopped =>
      refine together found ?_ ?_
      · rw [stopped]
        exact fun _ accord => accord
      · rw [stopped]
        exact .relaunch
  | halt found _ started =>
      rw [reworked_update.stateOf_eq]
      · refine together found ?_ ?_
        · rw [started]
          exact fun _ accord => accord
        · rw [started]
          exact .halt
      · intro handle workload _
        split
        · rfl
        · rfl

end Move

namespace Moves

variable {setup : Setup} {floor count : Nat} {before after : Registry} {events : List Event}
  {id : InstanceId} {state : State}

theorem inLockstep (moves : Moves setup floor count before events after) (linked : before.WellLinked)
    (lockstep : before.InLockstep) : after.InLockstep := by
  induction moves with
  | none => exact lockstep
  | free move _ _ inductionHypothesis | counted move _ inductionHypothesis =>
      exact inductionHypothesis (move.wellLinked linked) (move.inLockstep linked lockstep)

/-- A series of moves in which one counts at most takes an instance from below the floor along one
edge at most. -/
theorem leads (moves : Moves setup floor count before events after) (few : count ≤ 1)
    (old : id.index < floor) (linked : before.WellLinked) (lockstep : before.InLockstep)
    (known : before.stateOf id = some state) :
    ∃ next, after.stateOf id = some next ∧ (next = state ∨ state.Leads next) := by
  induction moves with
  | none => exact ⟨state, known, Or.inl rfl⟩
  | free move young _ inductionHypothesis =>
      rcases Option.map_eq_some_iff.mp known with ⟨workload, found, rfl⟩
      rcases move.kept found with ⟨moved, there, _, _, same⟩
      have outside : id ∉ _ := fun member => Nat.not_le_of_lt old (young id member)
      have still := (Registry.stateOf_eq there).trans (congrArg some (same outside).1)
      exact inductionHypothesis few (move.wellLinked linked) (move.inLockstep linked lockstep) still
  | counted move rest _ =>
      rcases move.leads lockstep known with ⟨next, reached, edge⟩
      rcases Option.map_eq_some_iff.mp reached with ⟨workload, found, rfl⟩
      rcases Nat.le_zero.mp (Nat.le_of_succ_le_succ few) with rfl
      rcases rest.kept old found with ⟨moved, there, _, same, _⟩
      exact ⟨workload.state, (Registry.stateOf_eq there).trans (congrArg some same), edge⟩

end Moves
end Testbed
