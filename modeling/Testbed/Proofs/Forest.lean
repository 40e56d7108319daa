import Testbed.Proofs.Move

namespace Testbed

/-!
# The forest of instances

Parents and sidecars refer to each other by handle, and three operations write these references: one
attaches a sidecar, one copies a parent with its sidecars, and a first start injects sidecars of its
own.  `Registry.WellLinked` says that the references always agree and that they make a forest of depth
one at most.

Of all moves only four change links at all.  Two add an instance that stands alone, one attaches, and
the copy of a sidecar amounts to an addition followed by an attachment.
-/

namespace Registry

/-- Handles, names and references of a registry are in order. -/
structure WellLinked (registry : Registry) : Prop where
  handle : ∀ {id workload}, registry.get? id = some workload → workload.id = id
  /-- No two instances share a cluster name. -/
  distinct : ∀ {first second workload other}, registry.get? first = some workload →
    registry.get? second = some other → workload.clusterName = other.clusterName → first = second
  linked : ∀ {parent sidecar},
    registry.parentOf sidecar = some parent ↔ sidecar ∈ registry.sidecarsOf parent
  nodup : ∀ id, (registry.sidecarsOf id).Nodup
  /-- What is a sidecar has no sidecars. -/
  shallow : ∀ {id parent}, registry.parentOf id = some parent → registry.sidecarsOf id = []

variable {registry before after grown : Registry} {id other : InstanceId}
  {workload parent candidate added : Instance}

namespace WellLinked

theorem of_linksOf_eq (linked : before.WellLinked)
    (same : ∀ id, after.linksOf id = before.linksOf id) : after.WellLinked := by
  have source {id : InstanceId} {workload : Instance} (found : after.get? id = some workload) :
      ∃ known, before.get? id = some known ∧ known.links = workload.links := by
    have known := same id
    rw [Registry.linksOf_eq found] at known
    exact Option.map_eq_some_iff.mp known.symm
  constructor
  · intro id workload found
    rcases source found with ⟨known, there, links⟩
    exact (congrArg Links.id links).symm.trans (linked.handle there)
  · intro first second workload other found located sameName
    rcases source found with ⟨known, there, links⟩
    rcases source located with ⟨knownOther, thereOther, linksOther⟩
    refine linked.distinct there thereOther ?_
    calc known.clusterName = workload.clusterName := congrArg Links.clusterName links
      _ = other.clusterName := sameName
      _ = knownOther.clusterName := (congrArg Links.clusterName linksOther).symm
  · intro parent sidecar
    rw [parentOf_of_linksOf_eq (same sidecar), sidecarsOf_of_linksOf_eq (same parent)]
    exact linked.linked
  · intro id
    rw [sidecarsOf_of_linksOf_eq (same id)]
    exact linked.nodup id
  · intro id parent
    rw [parentOf_of_linksOf_eq (same id), sidecarsOf_of_linksOf_eq (same id)]
    exact linked.shallow

/-! ## Consequences -/

theorem registered (linked : registry.WellLinked) (listed : other ∈ registry.sidecarsOf id) :
    ∃ workload, registry.get? other = some workload ∧ workload.parent = some id :=
  parentOf_eq_some_iff.mp (linked.linked.mpr listed)

/-- No instance is a sidecar of two others. -/
theorem parent_unique (linked : registry.WellLinked) {first second : InstanceId}
    (listed : other ∈ registry.sidecarsOf first) (also : other ∈ registry.sidecarsOf second) :
    first = second :=
  Option.some.inj ((linked.linked.mpr listed).symm.trans (linked.linked.mpr also))

theorem not_mem_own (linked : registry.WellLinked) : id ∉ registry.sidecarsOf id := by
  intro listed
  rw [linked.shallow (linked.linked.mpr listed)] at listed
  cases listed

/-- An instance that is no sidecar moves with its own pod only. -/
theorem mem_podHandles_iff_of_leads (linked : registry.WellLinked)
    (found : registry.get? other = some workload) (leads : workload.parent = none) :
    other ∈ registry.podHandles id ↔ other = id := by
  rw [mem_podHandles_iff]
  refine or_iff_left fun listed => ?_
  have parent := linked.linked.mpr listed
  rw [parentOf_eq found, leads] at parent
  cases parent

theorem empty : ({} : Registry).WellLinked := by
  have none (id : InstanceId) : ({} : Registry).get? id = none := List.getElem?_nil
  constructor
  · intro id workload found
    rw [none] at found
    cases found
  · intro first second workload other found
    rw [none] at found
    cases found
  · intro parent sidecar
    rw [parentOf, sidecarsOf, none, none]
    constructor
    · intro impossible
      cases impossible
    · intro impossible
      cases impossible
  · intro id
    rw [sidecarsOf, none]
    exact List.nodup_nil
  · intro id parent linked
    rw [parentOf, none] at linked
    cases linked

/-! ## Additions and attachments -/

/-- An instance that stands alone can join. -/
theorem add (linked : before.WellLinked) (joined : before.add added = .ok grown)
    (handle : added.id = before.nextId) (alone : added.parent = none) (single : added.sidecars = []) :
    grown.WellLinked := by
  have look (id : InstanceId) :
      grown.get? id = if id = before.nextId then some added else before.get? id := get?_add joined
  have fresh := hasClusterName_eq_false_iff.mp (add_eq_ok_iff.mp joined).1
  constructor
  · intro id workload found
    rw [look] at found
    split at found
    · rename_i same
      cases found
      exact handle.trans same.symm
    · exact linked.handle found
  · intro first second workload other found located sameName
    rw [look] at found located
    split at found
    · rename_i firstNew
      cases found
      split at located
      · rename_i secondNew
        exact firstNew.trans secondNew.symm
      · exact absurd sameName.symm (fresh second other located)
    · split at located
      · cases located
        exact absurd sameName (fresh first workload found)
      · exact linked.distinct found located sameName
  · intro parent sidecar
    rw [parentOf_add joined alone, sidecarsOf_add joined single]
    exact linked.linked
  · intro id
    rw [sidecarsOf_add joined single]
    exact linked.nodup id
  · intro id parent
    rw [parentOf_add joined alone, sidecarsOf_add joined single]
    exact linked.shallow

/-- An instance that stands alone can become the sidecar of one that is no sidecar itself. -/
theorem attach (linked : before.WellLinked) (found : before.get? id = some parent)
    (apart : other ≠ id) (joining : before.get? other = some candidate)
    (leads : parent.parent = none) (free : candidate.parent = none) (single : candidate.sidecars = []) :
    (before.attach id other).WellLinked := by
  have root : before.parentOf id = none := (parentOf_eq found).trans leads
  have loose : before.parentOf other = none := (parentOf_eq joining).trans free
  have leaf : before.sidecarsOf other = [] := (sidecarsOf_eq joining).trans single
  constructor
  · intro handle workload known
    rcases reworked_attach.source known with ⟨source, there, rfl⟩
    have same : source.id = handle := linked.handle there
    exact same
  · intro first second workload mate known located sameName
    rcases reworked_attach.source known with ⟨source, there, rfl⟩
    rcases reworked_attach.source located with ⟨sourceMate, thereMate, rfl⟩
    exact linked.distinct there thereMate sameName
  · intro leader sidecar
    rw [parentOf_attach joining, sidecarsOf_attach found]
    by_cases joins : sidecar = other
    · subst joins
      rw [if_pos rfl]
      by_cases here : leader = id
      · subst here
        rw [if_pos rfl]
        exact ⟨fun _ => List.mem_append_right _ (List.mem_singleton.mpr rfl), fun _ => rfl⟩
      · rw [if_neg here, ← linked.linked, loose]
        exact ⟨fun same => absurd (Option.some.inj same).symm here, fun impossible => nomatch impossible⟩
    · rw [if_neg joins]
      by_cases here : leader = id
      · subst here
        rw [if_pos rfl, List.mem_append, List.mem_singleton, linked.linked]
        exact ⟨Or.inl, fun either => either.resolve_right joins⟩
      · rw [if_neg here]
        exact linked.linked
  · intro leader
    rw [sidecarsOf_attach found]
    split
    · refine List.nodup_append.mpr ⟨linked.nodup id, List.pairwise_singleton _ other, ?_⟩
      rintro sidecar listed _ (last | ⟨_, ⟨⟩⟩) rfl
      have impossible := linked.linked.mpr listed
      rw [loose] at impossible
      cases impossible
    · exact linked.nodup leader
  · intro sidecar leader
    rw [parentOf_attach joining, sidecarsOf_attach found]
    by_cases joins : sidecar = other
    · rw [joins, if_neg apart]
      exact fun _ => leaf
    · rw [if_neg joins]
      intro known
      have elsewhere : sidecar ≠ id := by
        rintro rfl
        rw [root] at known
        cases known
      rw [if_neg elsewhere]
      exact linked.shallow known

end WellLinked

end Registry

/-! ## Moves -/

/-- Only a committed instance that stands alone can be attached, and not to a sidecar. -/
theorem Action.attachmentFault?_eq_none_iff {parent candidate : Instance} :
    attachmentFault? parent candidate = none ↔
      candidate.state = .committed ∧ parent.parent = none ∧ candidate.parent = none ∧
        candidate.sidecars = [] := by
  rw [attachmentFault?, Instance.isSidecar, Instance.isSidecar]
  by_cases committed : candidate.state = .committed
  · cases parent.parent with
    | some _ => simp [committed]
    | none =>
        cases candidate.parent with
        | some _ => simp [committed]
        | none => simp [committed]
  · simp [committed]

namespace Move

open Registry (WellLinked)

variable {setup : Setup} {touched : List InstanceId} {before after : Registry} {events : List Event}

/-- A move leaves a registry well linked. -/
theorem wellLinked (move : Move setup touched before events after) (linked : before.WellLinked) :
    after.WellLinked := by
  cases move with
  | talk | support | serve | isolate | rejoin => exact linked
  | create joined => exact linked.add joined rfl rfl rfl
  | copy _ _ joined => exact linked.add joined rfl rfl rfl
  | copySidecar _ _ led leads _ joined =>
      have known := Registry.found_add joined led
      have apart := (Registry.ne_nextId led).symm
      have new := (Registry.get?_add joined).trans (if_pos rfl)
      exact (linked.add joined rfl rfl rfl).attach known apart new leads rfl rfl
  | attach found _ apart joining fit =>
      rcases Action.attachmentFault?_eq_none_iff.mp fit with ⟨_, leads, alone, single⟩
      exact linked.attach found apart joining leads alone single
  | amend amends =>
      refine linked.of_linksOf_eq (Registry.reworked_update.linksOf_eq ?_)
      intro other workload found
      split
      · rename_i here
        exact (amends workload (here ▸ found)).keeps.2
      · rfl
  | resolve | prepare | commit =>
      refine linked.of_linksOf_eq (Registry.reworked_update.linksOf_eq ?_)
      intro other workload found
      split
      · rfl
      · rfl
  | launch | relaunch => exact linked.of_linksOf_eq fun _ => Registry.linksOf_setPodState
  | halt =>
      refine (linked.of_linksOf_eq fun _ => Registry.linksOf_setPodState).of_linksOf_eq
        (Registry.reworked_update.linksOf_eq fun other workload _ => ?_)
      split
      · rfl
      · rfl

end Move

theorem Moves.wellLinked {setup : Setup} {floor count : Nat} {before after : Registry} {events : List Event}
    (moves : Moves setup floor count before events after) (linked : before.WellLinked) :
    after.WellLinked := by
  induction moves with
  | none => exact linked
  | free move _ _ inductionHypothesis => exact inductionHypothesis (move.wellLinked linked)
  | counted move _ inductionHypothesis => exact inductionHypothesis (move.wellLinked linked)

end Testbed
