import Testbed.Proofs.Attendant
import Testbed.Proofs.Conduct

namespace Testbed

/-!
# Steps

A step is what a call does between two points at which it can fail, as far as attendants and shaping
are concerned.  Two kinds of calls are not made of steps: those that shape traffic, and those that
remove a compute unit.  All others are series of steps, whether they succeed or not.

A step that concerns one instance says so: it names the call that makes it, with that instance among
the arguments.  So it can be read off a call which instances it leaves alone.  An injection that
succeeds is one step, in which the attendant is made, attached and noted at once; one that fails has
at most left an instance that belongs to nobody.
-/

/-- Whether an image that has just been opened is found unchanged, and is known by its own name. -/
def Event.Genuine (events : List Event) : Prop :=
  ∀ earlier later reference context changed,
    events = earlier ++ .asked (.image (.open reference)) (.ok context) ::
      .asked (.isChanged context) changed :: later →
    changed = false ∧ ∀ image rest, later = .asked (.baseImage context) image :: rest → image = reference

theorem Event.Genuine.of_append {earlier later : List Event}
    (genuine : Event.Genuine (earlier ++ later)) : Event.Genuine earlier ∧ Event.Genuine later := by
  constructor
  · rintro first last reference context changed rfl
    have whole := genuine first (last ++ later) reference context changed (List.append_assoc _ _ _)
    exact ⟨whole.1, fun image rest same => whole.2 image (rest ++ later) (same ▸ rfl)⟩
  · rintro first last reference context changed rfl
    exact genuine (earlier ++ first) last reference context changed (List.append_assoc _ _ _).symm

/-- Whether an instance stands alone, and nothing is noted of it. -/
structure Instance.IsFresh (workload : Instance) : Prop where
  leads : workload.parent = none
  single : workload.sidecars = []
  unnoted : ∀ role, Attendant.isNoted role workload = false
  unshaped : workload.fault.activeMode = none

theorem Instance.IsFresh.of_bonds_eq {workload other : Instance} (fresh : workload.IsFresh)
    (same : other.bonds = workload.bonds) : other.IsFresh where
  leads := (congrArg (fun bonds => bonds.links.parent) same).trans fresh.leads
  single := (congrArg (fun bonds => bonds.links.sidecars) same).trans fresh.single
  unnoted role := Attendant.isNoted_of_bonds_eq (fresh.unnoted role) same.symm
  unshaped := (congrArg Bonds.mode same).trans fresh.unshaped

namespace Registry

variable {registry : Registry} {role : Attendant} {id sidecar other : InstanceId}
  {clusterName : String} {workload : Instance}

/-- Attaches an attendant to its parent, which notes it. -/
def enlist (registry : Registry) (role : Attendant) (id sidecar : InstanceId)
    (clusterName : String) : Registry :=
  (registry.attach id sidecar).update id fun current => role.note sidecar clusterName current

theorem get?_enlist_self (found : registry.get? id = some workload) (apart : id ≠ sidecar) :
    (registry.enlist role id sidecar clusterName).get? id =
      some (role.note sidecar clusterName
        { workload with sidecars := workload.sidecars ++ [sidecar] }) := by
  rw [enlist, get?_update_self, reworked_attach.found found, if_neg apart, if_pos rfl]
  rfl

theorem get?_enlist_of_ne (apart : other ≠ id) :
    (registry.enlist role id sidecar clusterName).get? other =
      (registry.get? other).map fun workload =>
        { workload with parent := if other = sidecar then some id else workload.parent } := by
  rw [enlist, get?_update_of_ne apart, reworked_attach]
  simp only [if_neg apart]

theorem sidecarsOf_enlist_of_ne (apart : other ≠ id) :
    (registry.enlist role id sidecar clusterName).sidecarsOf other = registry.sidecarsOf other := by
  rw [sidecarsOf, sidecarsOf, get?_enlist_of_ne apart, Option.map_map]
  rfl

end Registry

/-- What a call does in one go. -/
inductive Step (setup : Setup) (call : Call) : Registry → List Event → Registry → Prop where
  | talk (plain : event.IsPlain) : Step setup call before [event] before
  | join (fresh : added.IsFresh) (joined : before.add added = .ok after) :
      Step setup call before [] after
  /-- A clone makes a copy of a sidecar, which follows an instance. -/
  | follow {leader : InstanceId} (clones : call.cloneOf?.isSome = true)
      (led : before.get? leader = some parent) (fresh : added.IsFresh)
      (joined : before.add added = .ok grown) :
      Step setup call before [] (grown.attach leader before.nextId)
  | attach {id sidecar : InstanceId} (attaches : call = .addSidecar id sidecar)
      (found : before.get? id = some parent) :
      Step setup call before [] (before.attach id sidecar)
  | revise {id : InstanceId}
      (revises : ∀ workload, before.get? id = some workload →
        Revision call id workload (change workload)) :
      Step setup call before [] (before.update id change)
  /-- A first start injects an attendant that is wanted and not there yet. -/
  | enlist (role : Attendant) (id : InstanceId) (starts : call.startOf? = some id)
      (found : before.get? id = some parent) (wanted : role.isWanted parent.wishes = true)
      (unnoted : role.isNoted parent = false) (plain : ∀ event ∈ events, event.IsPlain)
      (built : Event.Genuine events → image = role.imageFor setup.settings parent.wishes)
      (joined : before.add (role.made parent before.nextId clusterName image context) = .ok grown) :
      Step setup call before events (grown.enlist role id before.nextId clusterName)
  | settle {id : InstanceId} (starts : call.startOf? = some id) :
      Step setup call before [] (before.setPodState id .started)

/-- A series of steps. -/
inductive Steps (setup : Setup) (call : Call) : Registry → List Event → Registry → Prop where
  | none : Steps setup call registry [] registry
  | next (step : Step setup call before events middle) (rest : Steps setup call middle later after) :
      Steps setup call before (events ++ later) after

namespace Steps

variable {setup : Setup} {call : Call} {before middle after : Registry}
  {events earlier later : List Event}

theorem trans (first : Steps setup call before earlier middle)
    (second : Steps setup call middle later after) :
    Steps setup call before (earlier ++ later) after := by
  induction first with
  | none => exact second
  | next step _ inductionHypothesis =>
      rw [List.append_assoc]
      exact .next step (inductionHypothesis second)

theorem single (step : Step setup call before events after) : Steps setup call before events after := by
  have steps : Steps setup call before (events ++ []) after := .next step .none
  rw [List.append_nil] at steps
  exact steps

theorem talk (plain : ∀ event ∈ events, event.IsPlain) : Steps setup call before events before := by
  induction events with
  | nil => exact .none
  | cons first rest inductionHypothesis =>
      have onward := inductionHypothesis fun event member => plain event (List.mem_cons_of_mem first member)
      exact .next (.talk (plain first List.mem_cons_self)) onward

end Steps

/-! ## What lasts -/

/-- What is sure of an instance after a call, or after a part of it. -/
structure Later (call : Call) (id : InstanceId) (workload left : Instance) : Prop where
  name : left.name = workload.name
  clusterName : left.clusterName = workload.clusterName
  listed : workload.sidecars ⊆ left.sidecars
  noted : ∀ (role : Attendant) handle sidecar,
    role.Notes workload handle sidecar → role.Notes left handle sidecar
  described : call.describes? ≠ some id → left.description = workload.description
  wishes : (∀ change, call = .edit id change → ¬ change.IsWish) → left.wishes = workload.wishes

namespace Later

variable {call : Call} {id : InstanceId} {workload left last : Instance}

theorem refl : Later call id workload workload :=
  ⟨rfl, rfl, List.Subset.refl _, fun _ _ _ notes => notes, fun _ => rfl, fun _ => rfl⟩

theorem trans (first : Later call id workload left) (second : Later call id left last) :
    Later call id workload last where
  name := second.name.trans first.name
  clusterName := second.clusterName.trans first.clusterName
  listed := List.Subset.trans first.listed second.listed
  noted role handle sidecar notes := second.noted role handle sidecar (first.noted role handle sidecar notes)
  described apart := (second.described apart).trans (first.described apart)
  wishes unedited := (second.wishes unedited).trans (first.wishes unedited)

/-- What changes neither the description nor the notes may list more sidecars. -/
theorem of_listed (described : left.description = workload.description)
    (listed : workload.sidecars ⊆ left.sidecars) (collector : left.collector = workload.collector)
    (target : left.fault.sidecar = workload.fault.sidecar) : Later call id workload left where
  name := by
    have same := congrArg Instance.name described
    exact same
  clusterName := by
    have same := congrArg Instance.clusterName described
    exact same
  listed := listed
  noted role handle sidecar notes := by
    cases role with
    | collector => exact collector.trans notes
    | shaper => exact target.trans notes
  described _ := described
  wishes _ := by
    have same := congrArg Instance.wishes described
    exact same

theorem of_bonds (same : left.bonds = workload.bonds)
    (described : call.describes? ≠ some id → left.description = workload.description)
    (wishes : (∀ change, call = .edit id change → ¬ change.IsWish) → left.wishes = workload.wishes) :
    Later call id workload left where
  name := congrArg Bonds.name same
  clusterName := congrArg (fun bonds => bonds.links.clusterName) same
  listed := by
    have sidecars : left.sidecars = workload.sidecars :=
      congrArg (fun bonds => bonds.links.sidecars) same
    rw [sidecars]
    exact List.Subset.refl _
  noted role handle sidecar notes := by
    cases role with
    | collector => exact (congrArg Bonds.collector same).trans notes
    | shaper => exact (congrArg Bonds.target same).trans notes
  described := described
  wishes := wishes

theorem of_revision (revision : Revision call id workload left) : Later call id workload left :=
  of_bonds revision.bonds_eq revision.description_eq revision.wishes_eq

/-- A note changes nothing of what is sure, if there was none in its role. -/
theorem of_note {role : Attendant} {handle : InstanceId} {clusterName : String}
    (unnoted : role.isNoted workload = false) :
    Later call id workload (role.note handle clusterName workload) := by
  have later (other : Attendant) (noted : InstanceId) (sidecar : Instance)
      (notes : other.Notes workload noted sidecar) :
      other.Notes (role.note handle clusterName workload) noted sidecar := by
    by_cases same : other = role
    · rw [← same, Attendant.isNoted_of_notes notes] at unnoted
      cases unnoted
    · cases other with
      | collector =>
          cases role with
          | collector => exact absurd rfl same
          | shaper => exact notes
      | shaper =>
          cases role with
          | collector => exact notes
          | shaper => exact absurd rfl same
  cases role with
  | collector => exact ⟨rfl, rfl, List.Subset.refl _, later, fun _ => rfl, fun _ => rfl⟩
  | shaper => exact ⟨rfl, rfl, List.Subset.refl _, later, fun _ => rfl, fun _ => rfl⟩

/-- Attaching an instance to another changes neither what they are described as nor what is noted. -/
theorem of_attach {leader sidecar handle : InstanceId} :
    Later call id workload
      { workload with
        parent := if handle = sidecar then some leader else workload.parent
        sidecars := if handle = leader then workload.sidecars ++ [sidecar] else workload.sidecars } := by
  refine of_listed rfl ?_ rfl rfl
  dsimp only
  split
  · exact List.subset_append_left _ _
  · exact List.Subset.refl _

end Later

namespace Step

variable {setup : Setup} {call : Call} {before after : Registry} {events : List Event}
  {id : InstanceId} {workload : Instance}

theorem plain (step : Step setup call before events after) : ∀ event ∈ events, event.IsPlain := by
  cases step with
  | talk plain => exact fun _ member => List.mem_singleton.mp member ▸ plain
  | enlist _ _ _ _ _ _ plain => exact plain
  | join | follow | attach | revise | settle => exact fun _ impossible => nomatch impossible

/-- A step keeps every instance, and the shaping that is noted of it. -/
theorem kept (step : Step setup call before events after) (found : before.get? id = some workload) :
    ∃ left, after.get? id = some left ∧ Later call id workload left ∧
      left.fault.activeMode = workload.fault.activeMode := by
  cases step with
  | talk => exact ⟨workload, found, .refl, rfl⟩
  | join fresh joined => exact ⟨workload, Registry.found_add joined found, .refl, rfl⟩
  | follow clones led fresh joined =>
      have known := Registry.found_add joined found
      exact ⟨_, Registry.reworked_attach.found known, .of_attach, rfl⟩
  | attach => exact ⟨_, Registry.reworked_attach.found found, .of_attach, rfl⟩
  | revise revises =>
      refine ⟨_, Registry.reworked_update.found found, ?_⟩
      split
      · rename_i here
        have revision := revises workload (here ▸ found)
        exact ⟨here ▸ .of_revision revision, congrArg Bonds.mode revision.bonds_eq⟩
      · exact ⟨.refl, rfl⟩
  | enlist role target starts located wanted unnoted plain built joined =>
      have known := Registry.found_add joined found
      by_cases here : id = target
      · subst here
        rcases Option.some.inj (located.symm.trans found) with rfl
        refine ⟨_, Registry.get?_enlist_self known (Registry.ne_nextId found), ?_,
          Attendant.note_keeps.2.2.2⟩
        refine Later.trans ?_ (Later.of_note ?_)
        · exact .of_listed rfl (List.subset_append_left _ _) rfl rfl
        · exact Attendant.isNoted_congr unnoted rfl rfl
      · rw [Registry.get?_enlist_of_ne here, known]
        exact ⟨_, rfl, .of_listed rfl (List.Subset.refl _) rfl rfl, rfl⟩
  | settle starts =>
      refine ⟨_, Registry.reworked_setPodState.found found, ?_⟩
      split
      · exact ⟨.of_listed rfl (List.Subset.refl _) rfl rfl, rfl⟩
      · exact ⟨.refl, rfl⟩

end Step

namespace Steps

variable {setup : Setup} {call : Call} {before after : Registry} {events : List Event}
  {id : InstanceId} {workload : Instance}

theorem plain (steps : Steps setup call before events after) : ∀ event ∈ events, event.IsPlain := by
  induction steps with
  | none => exact fun _ impossible => nomatch impossible
  | next step _ inductionHypothesis => exact List.forall_mem_append.mpr ⟨step.plain, inductionHypothesis⟩

theorem kept (steps : Steps setup call before events after) (found : before.get? id = some workload) :
    ∃ left, after.get? id = some left ∧ Later call id workload left ∧
      left.fault.activeMode = workload.fault.activeMode := by
  induction steps generalizing workload with
  | none => exact ⟨workload, found, .refl, rfl⟩
  | next step _ inductionHypothesis =>
      rcases step.kept found with ⟨middle, known, first, mode⟩
      rcases inductionHypothesis known with ⟨left, there, second, same⟩
      exact ⟨left, there, first.trans second, same.trans mode⟩

end Steps
end Testbed
