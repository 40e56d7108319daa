import Testbed.Proofs.Step

namespace Testbed

/-!
# Enlistments

A parent has an attendant in a role if it lists the attendant among its sidecars and notes it in that
role.  Nothing but a start of the parent brings this about, and nothing at all ends it: no step takes
back a note or strikes a sidecar off a list.

That the attendant serves the wishes of the parent is another matter.  It does when it is injected, and
as long as nobody describes it and nobody edits the wishes; a later start does not look at it again.
-/

namespace Registry

variable {registry before after : Registry} {settings : Settings} {call : Call} {role : Attendant}
  {id handle : InstanceId} {genuine : Prop}

/-- Whether the instances of a registry are there after a call, or after a part of it, with what is
sure of them. -/
def Lasts (before : Registry) (call : Call) (after : Registry) : Prop :=
  ∀ id workload, before.get? id = some workload →
    ∃ left, after.get? id = some left ∧ Later call id workload left

/-- Whether an instance is a sidecar that the parent notes as its attendant. -/
def HasAttendant (registry : Registry) (role : Attendant) (id handle : InstanceId) : Prop :=
  ∃ parent sidecar, registry.get? id = some parent ∧ registry.get? handle = some sidecar ∧
    handle ∈ parent.sidecars ∧ role.Notes parent handle sidecar ∧
    sidecar.name = role.nameFor parent.name

/-- Whether an attendant is wanted and serves the wishes of its parent, and has the image that it is
made from if the builder of images is genuine. -/
def IsServed (registry : Registry) (settings : Settings) (genuine : Prop) (role : Attendant)
    (id handle : InstanceId) : Prop :=
  ∃ parent sidecar, registry.get? id = some parent ∧ registry.get? handle = some sidecar ∧
    role.isWanted parent.wishes = true ∧ role.Serves parent.wishes sidecar ∧
    (genuine → sidecar.image = some (role.imageFor settings parent.wishes))

/-- Who is not there after a call was not there before. -/
theorem Lasts.absent (lasts : before.Lasts call after) (gone : after.get? handle = none) :
    before.get? handle = none := by
  cases known : before.get? handle with
  | none => rfl
  | some workload =>
      rcases lasts handle workload known with ⟨left, there, _⟩
      rw [gone] at there
      cases there

theorem HasAttendant.lasts (has : before.HasAttendant role id handle)
    (lasts : before.Lasts call after) : after.HasAttendant role id handle := by
  rcases has with ⟨parent, sidecar, found, located, listed, notes, name⟩
  rcases lasts id parent found with ⟨driving, leading, later⟩
  rcases lasts handle sidecar located with ⟨driven, following, same⟩
  refine ⟨driving, driven, leading, following, later.listed listed, ?_, ?_⟩
  · have noted := later.noted role handle sidecar notes
    cases role with
    | collector => exact noted
    | shaper => exact noted.trans (congrArg some same.clusterName.symm)
  · rw [same.name, name, later.name]

section Enlist

variable {parent : Instance} {grown : Registry} {clusterName image : String} {context : ContextId}

/-- The attendant as it is once it has been enlisted. -/
theorem get?_enlist_nextId (found : before.get? id = some parent)
    (joined : before.add (role.made parent before.nextId clusterName image context) = .ok grown) :
    (grown.enlist role id before.nextId clusterName).get? before.nextId =
      some { role.made parent before.nextId clusterName image context with parent := some id } := by
  rw [get?_enlist_of_ne (ne_nextId found).symm, get?_add joined, if_pos rfl]
  simp only [Option.map_some, if_true]

/-- What is enlisted is an attendant. -/
theorem hasAttendant_enlist (found : before.get? id = some parent)
    (joined : before.add (role.made parent before.nextId clusterName image context) = .ok grown) :
    (grown.enlist role id before.nextId clusterName).HasAttendant role id before.nextId := by
  have named : (role.made parent before.nextId clusterName image context).clusterName = clusterName :=
    congrArg (fun bonds => bonds.links.clusterName) Attendant.bonds_made
  refine ⟨_, _, get?_enlist_self (found_add joined found) (ne_nextId found),
    get?_enlist_nextId found joined, ?_, Attendant.notes_note named, ?_⟩
  · rw [Attendant.note_keeps.2.2.1]
    exact List.mem_append_right _ (List.mem_singleton.mpr rfl)
  · rw [Attendant.note_keeps.1]
    exact congrArg Bonds.name Attendant.bonds_made

end Enlist

/-- An attendant goes on serving its parent through a call that neither describes it nor edits what it
is wished for. -/
theorem IsServed.lasts (served : before.IsServed settings genuine role id handle)
    (lasts : before.Lasts call after) (undescribed : call.describes? ≠ some handle)
    (unedited : ∀ change, call = .edit id change → ¬ change.IsWish) :
    after.IsServed settings genuine role id handle := by
  rcases served with ⟨parent, sidecar, found, located, wanted, serves, image⟩
  rcases lasts id parent found with ⟨driving, leading, later⟩
  rcases lasts handle sidecar located with ⟨driven, following, same⟩
  have wishes := later.wishes unedited
  have described := same.described undescribed
  refine ⟨driving, driven, leading, following, ?_⟩
  rw [wishes]
  refine ⟨wanted, serves.of_description_eq described, fun holds => ?_⟩
  have images := congrArg Instance.image described
  exact images.trans (image holds)

theorem IsServed.mono {stronger : Prop} (served : registry.IsServed settings genuine role id handle)
    (implies : stronger → genuine) : registry.IsServed settings stronger role id handle := by
  rcases served with ⟨parent, sidecar, found, located, wanted, serves, image⟩
  exact ⟨parent, sidecar, found, located, wanted, serves, fun holds => image (implies holds)⟩

end Registry

/-- What a start has done when it has enlisted an attendant: the attendant is new, under a name that
nobody had, and serves its parent. -/
structure Enlists (settings : Settings) (before : Registry) (events : List Event) (after : Registry)
    (role : Attendant) (id handle : InstanceId) : Prop where
  new : before.get? handle = none
  unnamed : ∀ other workload sidecar, before.get? other = some workload →
    after.get? handle = some sidecar → workload.clusterName ≠ sidecar.clusterName
  attendant : after.HasAttendant role id handle
  served : after.IsServed settings (Event.Genuine events) role id handle

namespace Enlists

variable {settings : Settings} {call : Call} {before middle after : Registry}
  {events earlier later : List Event} {role : Attendant} {id handle : InstanceId}

theorem prepend (enlists : Enlists settings middle later after role id handle)
    (lasts : before.Lasts call middle) :
    Enlists settings before (earlier ++ later) after role id handle where
  new := lasts.absent enlists.new
  unnamed other workload sidecar found there same := by
    rcases lasts other workload found with ⟨left, known, later⟩
    exact enlists.unnamed other left sidecar known there (later.clusterName.trans same)
  attendant := enlists.attendant
  served := enlists.served.mono fun genuine => genuine.of_append.2

theorem append (enlists : Enlists settings before earlier middle role id handle)
    (lasts : middle.Lasts call after) (starts : call.startOf? = some id) :
    Enlists settings before (earlier ++ later) after role id handle where
  new := enlists.new
  unnamed other workload sidecar found there same := by
    rcases enlists.attendant with ⟨_, attendant, _, located, _⟩
    rcases lasts handle attendant located with ⟨left, known, later⟩
    rcases Option.some.inj (there.symm.trans known) with rfl
    exact enlists.unnamed other workload attendant found located (same.trans later.clusterName)
  attendant := enlists.attendant.lasts lasts
  served := by
    refine (enlists.served.lasts lasts ?_ ?_).mono fun genuine => genuine.of_append.1
    · cases call with
      | start | startWithoutWait => exact nofun
      | _ => cases starts
    · rintro change rfl
      cases starts

end Enlists

/-- Why a sidecar is listed after a call that was not listed before: a clone has copied it, or it has been attached
by hand, or a start of its parent has enlisted it. -/
inductive Listing (settings : Settings) (before : Registry) (call : Call) (events : List Event) (after : Registry)
    (id handle : InstanceId) : Prop where
  | copied (clones : call.cloneOf?.isSome = true)
  | attached (attaches : call = .addSidecar id handle)
  | enlisted (role : Attendant) (starts : call.startOf? = some id)
      (enlists : Enlists settings before events after role id handle)

namespace Listing

variable {settings : Settings} {call : Call} {before middle after : Registry}
  {events earlier later : List Event} {id handle : InstanceId}

theorem prepend (listing : Listing settings middle call later after id handle)
    (lasts : before.Lasts call middle) : Listing settings before call (earlier ++ later) after id handle := by
  cases listing with
  | copied clones => exact .copied clones
  | attached attaches => exact .attached attaches
  | enlisted role starts enlists => exact .enlisted role starts (enlists.prepend lasts)

theorem append (listing : Listing settings before call earlier middle id handle)
    (lasts : middle.Lasts call after) : Listing settings before call (earlier ++ later) after id handle := by
  cases listing with
  | copied clones => exact .copied clones
  | attached attaches => exact .attached attaches
  | enlisted role starts enlists => exact .enlisted role starts (enlists.append lasts starts)

end Listing

namespace Step

variable {setup : Setup} {call : Call} {before after : Registry} {events : List Event}
  {role : Attendant} {id handle : InstanceId} {left : Instance}

theorem lasts (step : Step setup call before events after) : before.Lasts call after := by
  intro id workload found
  rcases step.kept found with ⟨left, there, later, _⟩
  exact ⟨left, there, later⟩

theorem enlists_enlist {parent : Instance} {grown : Registry} {clusterName image : String}
    {context : ContextId} (found : before.get? id = some parent)
    (wanted : role.isWanted parent.wishes = true)
    (built : Event.Genuine events → image = role.imageFor setup.settings parent.wishes)
    (joined : before.add (role.made parent before.nextId clusterName image context) = .ok grown) :
    Enlists setup.settings before events (grown.enlist role id before.nextId clusterName) role id
      before.nextId := by
  have apart : id ≠ before.nextId := Registry.ne_nextId found
  have leading : (grown.enlist role id before.nextId clusterName).get? id = some _ :=
    Registry.get?_enlist_self (Registry.found_add joined found) apart
  have following := Registry.get?_enlist_nextId found joined
  refine ⟨Registry.get?_nextId, ?_, Registry.hasAttendant_enlist found joined, ?_⟩
  · intro other workload sidecar known there
    rcases Option.some.inj (there.symm.trans following) with rfl
    have free := Registry.hasClusterName_eq_false_iff.mp (Registry.add_eq_ok_iff.mp joined).1
    exact free other workload known
  · refine ⟨_, _, leading, following, ?_⟩
    rw [Attendant.note_keeps.2.1]
    refine ⟨wanted, Attendant.serves_made.of_description_eq rfl, fun genuine => ?_⟩
    exact Attendant.image_made.trans (congrArg some (built genuine))

private theorem source_of_add {added grown} (joined : before.add added = .ok grown)
    (there : grown.get? id = some left) : left = added ∨ before.get? id = some left := by
  rw [Registry.get?_add joined] at there
  split at there
  · exact Or.inl (Option.some.inj there).symm
  · exact Or.inr there

/-- Of an instance that a step adds no shaping is noted. -/
theorem source_or_unshaped (step : Step setup call before events after)
    (there : after.get? id = some left) :
    (∃ workload, before.get? id = some workload) ∨ left.fault.activeMode = none := by
  cases step with
  | talk => exact Or.inl ⟨left, there⟩
  | join fresh joined =>
      rcases source_of_add joined there with rfl | known
      · exact Or.inr fresh.unshaped
      · exact Or.inl ⟨left, known⟩
  | follow clones led fresh joined =>
      rcases Registry.reworked_attach.source there with ⟨workload, known, rfl⟩
      rcases source_of_add joined known with rfl | known
      · exact Or.inr fresh.unshaped
      · exact Or.inl ⟨workload, known⟩
  | attach =>
      rcases Registry.reworked_attach.source there with ⟨workload, known, _⟩
      exact Or.inl ⟨workload, known⟩
  | revise =>
      rcases Registry.reworked_update.source there with ⟨workload, known, _⟩
      exact Or.inl ⟨workload, known⟩
  | enlist enlisted target starts found wanted unnoted plain built joined =>
      by_cases here : id = target
      · exact Or.inl ⟨_, here ▸ found⟩
      · rw [Registry.get?_enlist_of_ne here] at there
        rcases Option.map_eq_some_iff.mp there with ⟨workload, known, rfl⟩
        rcases source_of_add joined known with rfl | known
        · exact Or.inr (congrArg Bonds.mode Attendant.bonds_made)
        · exact Or.inl ⟨workload, known⟩
  | settle =>
      rcases Registry.reworked_setPodState.source there with ⟨workload, known, _⟩
      exact Or.inl ⟨workload, known⟩

private theorem noted_of_add {added grown} (joined : before.add added = .ok grown)
    (unnoted : role.isNoted added = false) (there : grown.get? id = some left)
    (notes : role.isNoted left = true) :
    ∃ workload, before.get? id = some workload ∧ role.isNoted workload = true := by
  rcases source_of_add joined there with rfl | known
  · rw [unnoted] at notes
    cases notes
  · exact ⟨left, known, notes⟩

/-- What a parent notes after a step it has noted before, or the step has enlisted the attendant. -/
theorem noted (step : Step setup call before events after) (there : after.get? id = some left)
    (notes : role.isNoted left = true) :
    (∃ workload, before.get? id = some workload ∧ role.isNoted workload = true) ∨
      call.startOf? = some id ∧ ∃ handle, Enlists setup.settings before events after role id handle := by
  cases step with
  | talk => exact Or.inl ⟨left, there, notes⟩
  | join fresh joined => exact Or.inl (noted_of_add joined (fresh.unnoted role) there notes)
  | follow clones led fresh joined =>
      rcases Registry.reworked_attach.source there with ⟨workload, known, rfl⟩
      exact Or.inl (noted_of_add joined (fresh.unnoted role) known
        (Attendant.isNoted_congr notes rfl rfl))
  | attach =>
      rcases Registry.reworked_attach.source there with ⟨workload, known, rfl⟩
      exact Or.inl ⟨workload, known, Attendant.isNoted_congr notes rfl rfl⟩
  | revise revises =>
      rcases Registry.reworked_update.source there with ⟨workload, known, rfl⟩
      refine Or.inl ⟨workload, known, ?_⟩
      split at notes
      · rename_i here
        exact Attendant.isNoted_of_bonds_eq notes (revises workload (here ▸ known)).bonds_eq
      · exact notes
  | enlist enlisted target starts found wanted unnoted plain built joined =>
      by_cases here : id = target
      · subst here
        by_cases same : role = enlisted
        · subst same
          exact Or.inr ⟨starts, _, enlists_enlist found wanted built joined⟩
        · rw [Registry.get?_enlist_self (Registry.found_add joined found)
            (Registry.ne_nextId found)] at there
          rcases Option.some.inj there with rfl
          rw [Attendant.isNoted_note same] at notes
          exact Or.inl ⟨_, found, Attendant.isNoted_congr notes rfl rfl⟩
      · rw [Registry.get?_enlist_of_ne here] at there
        rcases Option.map_eq_some_iff.mp there with ⟨workload, known, rfl⟩
        refine Or.inl (noted_of_add joined ?_ known (Attendant.isNoted_congr notes rfl rfl))
        cases role with
        | collector => exact congrArg (fun bonds => bonds.collector.isSome) Attendant.bonds_made
        | shaper => exact congrArg (fun bonds => bonds.target.isSome) Attendant.bonds_made
  | settle =>
      rcases Registry.reworked_setPodState.source there with ⟨workload, known, rfl⟩
      refine Or.inl ⟨workload, known, ?_⟩
      split at notes
      · exact Attendant.isNoted_congr notes rfl rfl
      · exact notes

/-- What a step adds to the sidecars of an instance has a reason. -/
theorem listed (step : Step setup call before events after) (listed : handle ∈ after.sidecarsOf id) :
    handle ∈ before.sidecarsOf id ∨ Listing setup.settings before call events after id handle := by
  cases step with
  | talk => exact Or.inl listed
  | join fresh joined => exact Or.inl (Registry.sidecarsOf_add joined fresh.single ▸ listed)
  | follow clones => exact Or.inr (.copied clones)
  | attach attaches found =>
      rw [Registry.sidecarsOf_attach found] at listed
      split at listed
      · rename_i here
        rcases List.mem_append.mp listed with old | new
        · exact Or.inl (here ▸ old)
        · rw [List.mem_singleton.mp new, here]
          exact Or.inr (.attached attaches)
      · exact Or.inl listed
  | revise revises =>
      rw [Registry.sidecarsOf_of_linksOf_eq (Registry.reworked_update.linksOf_eq ?_ id)] at listed
      · exact Or.inl listed
      · intro other workload found
        split
        · rename_i here
          exact congrArg Bonds.links (revises workload (here ▸ found)).bonds_eq
        · rfl
  | enlist role target starts found wanted unnoted plain built joined =>
      by_cases here : id = target
      · subst here
        rw [Registry.sidecarsOf_eq (Registry.get?_enlist_self (Registry.found_add joined found)
          (Registry.ne_nextId found)), Attendant.note_keeps.2.2.1] at listed
        rcases List.mem_append.mp listed with old | new
        · exact Or.inl (Registry.sidecarsOf_eq found ▸ old)
        · rw [List.mem_singleton.mp new]
          exact Or.inr (.enlisted role starts (enlists_enlist found wanted built joined))
      · rw [Registry.sidecarsOf_enlist_of_ne here, Registry.sidecarsOf_add joined Attendant.sidecars_made] at listed
        exact Or.inl listed
  | settle => exact Or.inl (Registry.sidecarsOf_of_linksOf_eq Registry.linksOf_setPodState ▸ listed)

end Step

namespace Steps

variable {setup : Setup} {call : Call} {before after : Registry} {events : List Event}
  {role : Attendant} {id handle : InstanceId} {left : Instance}

theorem lasts (steps : Steps setup call before events after) : before.Lasts call after := by
  intro id workload found
  rcases steps.kept found with ⟨left, there, later, _⟩
  exact ⟨left, there, later⟩

theorem noted (steps : Steps setup call before events after) (there : after.get? id = some left)
    (notes : role.isNoted left = true) :
    (∃ workload, before.get? id = some workload ∧ role.isNoted workload = true) ∨
      call.startOf? = some id ∧ ∃ handle, Enlists setup.settings before events after role id handle := by
  induction steps with
  | none => exact Or.inl ⟨left, there, notes⟩
  | next step rest inductionHypothesis =>
      rcases inductionHypothesis there with ⟨workload, known, noted⟩ | ⟨starts, handle, enlists⟩
      · rcases step.noted known noted with early | ⟨starts, handle, enlists⟩
        · exact Or.inl early
        · exact Or.inr ⟨starts, handle, enlists.append rest.lasts starts⟩
      · exact Or.inr ⟨starts, handle, enlists.prepend step.lasts⟩

theorem listed (steps : Steps setup call before events after) (listed : handle ∈ after.sidecarsOf id) :
    handle ∈ before.sidecarsOf id ∨ Listing setup.settings before call events after id handle := by
  induction steps with
  | none => exact Or.inl listed
  | next step rest inductionHypothesis =>
      rcases inductionHypothesis listed with known | listing
      · rcases step.listed known with early | listing
        · exact Or.inl early
        · exact Or.inr (listing.append rest.lasts)
      · exact Or.inr (listing.prepend step.lasts)

end Steps
end Testbed
