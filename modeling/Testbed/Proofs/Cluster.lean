import Testbed.Proofs.Course.Program

namespace Testbed

/-!
# The cluster as a map

Seen from outside, a cluster is a map from kinds and names to resources.  A successful application
stores a resource under its kind and name, a successful deletion removes what is there, and nothing
else changes the map, whatever it answers; in particular a request that fails changes nothing.  What
the cluster holds is therefore determined by the events so far.
-/

namespace Event

/-- A resource has been applied. -/
abbrev applied (resource : Resource) : Event :=
  .asked (.cluster (.apply resource)) (.ok ())

/-- What is of a kind and a name has been deleted. -/
abbrev deleted (kind : ResourceKind) (name : String) (grace : Option UInt32) : Event :=
  .asked (.cluster (.delete kind name grace)) (.ok ())

/-- Whether an event leaves the resources of a cluster as they are. -/
def IsQuiet : Event → Prop
  | asked (.cluster (.apply _)) reply => ∃ error, reply = .error error
  | asked (.cluster (.delete _ _ _)) reply => ∃ error, reply = .error error
  | _ => True

/-- Whether an event changes what a cluster holds of a kind under a name. -/
def Touches (event : Event) (kind : ResourceKind) (name : String) : Prop :=
  match event with
  | asked (.cluster (.apply resource)) (.ok _) => resource.resourceKind = kind ∧ resource.name = name
  | asked (.cluster (.delete other otherName _)) (.ok _) => other = kind ∧ otherName = name
  | _ => False

variable {event : Event} {kind : ResourceKind} {name : String}

theorem IsQuiet.not_touches (quiet : event.IsQuiet) : ¬ event.Touches kind name := by
  intro touches
  unfold Touches at touches
  split at touches
  · rcases quiet with ⟨error, same⟩
    cases same
  · rcases quiet with ⟨error, same⟩
    cases same
  · exact touches

end Event

/-- The resources of a cluster, by kind and name. -/
def Cluster : Type :=
  ResourceKind → String → Option Resource

namespace Cluster

/-- A cluster without resources. -/
def empty : Cluster :=
  fun _ _ => none

/-- Puts something, or nothing, in place of what is of a kind and a name. -/
def set (cluster : Cluster) (kind : ResourceKind) (name : String) (held : Option Resource) : Cluster :=
  fun otherKind otherName =>
    if otherKind = kind ∧ otherName = name then held else cluster otherKind otherName

/-- A cluster after an event. -/
def step (cluster : Cluster) : Event → Cluster
  | .asked (.cluster (.apply resource)) (.ok _) =>
    cluster.set resource.resourceKind resource.name (some resource)
  | .asked (.cluster (.delete kind name _)) (.ok _) => cluster.set kind name none
  | _ => cluster

/-- A cluster after some events. -/
def after (cluster : Cluster) (events : List Event) : Cluster :=
  events.foldl step cluster

variable {cluster : Cluster} {kind : ResourceKind} {name : String}

/-! ## Single events -/

theorem set_self {held : Option Resource} : cluster.set kind name held kind name = held :=
  if_pos ⟨rfl, rfl⟩

theorem set_of_ne {otherKind : ResourceKind} {otherName : String} {held : Option Resource}
    (apart : ¬ (otherKind = kind ∧ otherName = name)) :
    cluster.set kind name held otherKind otherName = cluster otherKind otherName :=
  if_neg apart

theorem step_of_not_touches {event : Event} (untouched : ¬ event.Touches kind name) :
    cluster.step event kind name = cluster kind name := by
  unfold step
  split
  · exact set_of_ne fun same => untouched ⟨same.1.symm, same.2.symm⟩
  · exact set_of_ne fun same => untouched ⟨same.1.symm, same.2.symm⟩
  · rfl

theorem after_append (earlier later : List Event) :
    cluster.after (earlier ++ later) = (cluster.after earlier).after later :=
  List.foldl_append

theorem after_of_not_touches {events : List Event}
    (untouched : ∀ event ∈ events, ¬ event.Touches kind name) :
    cluster.after events kind name = cluster kind name := by
  induction events generalizing cluster with
  | nil => rfl
  | cons first rest inductionHypothesis =>
      have onward : (cluster.step first).after rest kind name = cluster.step first kind name :=
        inductionHypothesis fun event member => untouched event (List.mem_cons_of_mem first member)
      exact onward.trans (step_of_not_touches (untouched first List.mem_cons_self))

/-- What is held stays, and what is applied is held, if nothing else is put in its place. -/
theorem after_of_coherent {events : List Event} {resource : Resource}
    (coherent : ∀ event ∈ events, event.Touches resource.resourceKind resource.name →
      event = .applied resource)
    (held : cluster resource.resourceKind resource.name = some resource ∨
      Event.applied resource ∈ events) :
    cluster.after events resource.resourceKind resource.name = some resource := by
  induction events generalizing cluster with
  | nil => exact held.resolve_right fun impossible => nomatch impossible
  | cons first rest inductionHypothesis =>
      apply inductionHypothesis (fun event member => coherent event (List.mem_cons_of_mem first member))
      by_cases touches : first.Touches resource.resourceKind resource.name
      · rw [coherent first List.mem_cons_self touches]
        exact Or.inl set_self
      · rw [step_of_not_touches touches]
        refine held.imp_right fun listed => (List.mem_cons.mp listed).resolve_left ?_
        rintro rfl
        exact touches ⟨rfl, rfl⟩

/-- Against collaborators that keep such a map, a program leaves of it what the events of a course
make of it. -/
theorem after_of_run {others : Collaborators σ} {view : σ → Cluster}
    (accountable : others.Accountable view step) {looks : Nat} {program : Program α} {now : Nat}
    {state : σ} {ending : Ending σ α}
    (ran : program.run others looks now state = some ending) :
    ∃ events, program.Course events ending.value ∧
      view ending.state = (view state).after events :=
  program.course_of_run accountable ran

end Cluster
end Testbed
