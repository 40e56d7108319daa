import Testbed.Proofs.Reachable
import Testbed.Proofs.Shaper

namespace Testbed

/-!
# The record of shaping

An instance notes the kind of shaping that is in force in its pod.  The note is made after the shaping
service has answered, and it is made in several places, so whether it is right is a question about
histories.  The answer is that it covers what runs: whatever fails, nothing runs in a pod that its
instance has no note of, and never do two kinds run at once.

The invariant has to say more than that about a registry and the events that have led to it.  A note of
a shaping sidecar is the cluster name of one of the sidecars of the instance, so no two instances share
it; and nobody has talked to a shaping service that no instance has a note of.
-/

/-- Whether a note covers what runs after some events, if the shaping service is truthful in them, and
never do two kinds run at once. -/
def Running.IsCovered (owner target : String) (mode : Option ShapingKind) (past : List Event) : Prop :=
  Truthful owner target none past →
    (∀ kind, after owner target none past kind → mode = some kind) ∧
      IsSingleAlong owner target none past

/-- Whether what is noted of an instance's shaping covers what runs in its pod after some events. -/
def Instance.IsRecorded (workload : Instance) (past : List Event) : Prop :=
  ∀ target, workload.fault.sidecar = some target →
    Running.IsCovered workload.clusterName target workload.fault.activeMode past

/-- Whether the notes of shaping in a registry are right after some events. -/
structure Registry.Records (registry : Registry) (past : List Event) : Prop where
  /-- A note of a shaping sidecar is the cluster name of a sidecar. -/
  hosted : ∀ {id workload target}, registry.get? id = some workload →
    workload.fault.sidecar = some target →
      ∃ handle sidecar, handle ∈ workload.sidecars ∧ registry.get? handle = some sidecar ∧
        sidecar.clusterName = target
  /-- Who has been talked to is noted. -/
  known : ∀ {event target}, event ∈ past → event.shaper? = some target →
    ∃ id workload, registry.get? id = some workload ∧ workload.fault.sidecar = some target
  /-- Without a shaping sidecar no shaping is noted. -/
  bare : ∀ {id workload}, registry.get? id = some workload → workload.fault.sidecar = none →
    workload.fault.activeMode = none
  recorded : ∀ {id workload}, registry.get? id = some workload → workload.IsRecorded past

namespace Registry.Records

variable {before : Registry} {past : List Event} {id other : InstanceId}
  {workload follower : Instance} {target : String}

theorem empty : ({} : Registry).Records [] where
  hosted := nofun
  known := nofun
  bare := nofun
  recorded := nofun

/-- No two instances are shaped by the same sidecar. -/
theorem target_ne (records : before.Records past) (linked : before.WellLinked)
    (found : before.get? id = some workload) (located : before.get? other = some follower)
    (apart : other ≠ id) (hosted : workload.fault.sidecar = some target) :
    follower.fault.sidecar ≠ some target := by
  intro same
  rcases records.hosted found hosted with ⟨handle, sidecar, listed, there, named⟩
  rcases records.hosted located same with ⟨place, attendant, lists, here, alike⟩
  rcases linked.distinct there here (named.trans alike.symm) with rfl
  exact apart (linked.parent_unique (Registry.sidecarsOf_eq located ▸ lists)
    (Registry.sidecarsOf_eq found ▸ listed))

end Registry.Records

namespace Running.IsCovered

variable {owner target : String} {mode : Option ShapingKind} {past events : List Event}

/-- A note stays right through events that concern neither the pod nor its sidecar. -/
theorem append (covered : IsCovered owner target mode past)
    (other : ∀ event ∈ events, event.shaper? ≠ some target)
    (stays : ∀ event ∈ events, ∀ grace, event ≠ .removed owner grace) :
    IsCovered owner target mode (past ++ events) := by
  intro truthful
  rcases covered truthful.append.1 with ⟨covers, single⟩
  have unchanged {part : List Event} (leads : part <+: events) :
      (after owner target none past).after owner target part = after owner target none past :=
    after_of_silent (fun event member => other event (leads.subset member))
      fun event member => stays event (leads.subset member)
  constructor
  · rw [after_append, unchanged (List.prefix_refl _)]
    exact covers
  · refine single.append fun part leads => ?_
    rw [unchanged leads]
    exact isSingle_of_mode covers

/-- Any note is right of a sidecar that nobody has talked to. -/
theorem of_silent (other : ∀ event ∈ past, event.shaper? ≠ some target) :
    IsCovered owner target mode past := by
  intro _
  constructor
  · rw [after_none other]
    exact fun _ impossible => impossible.elim
  · intro part leads
    rw [after_none fun event member => other event (leads.subset member)]
    exact fun _ _ impossible => impossible.elim

/-- After the removal of the compute unit any note is right, and stays so through plain events. -/
theorem of_removed {grace : Option UInt32} {later : Option ShapingKind}
    (covered : IsCovered owner target mode past) (plain : ∀ event ∈ events, event.IsPlain) :
    IsCovered owner target later (past ++ .removed owner grace :: events) := by
  have removed : IsCovered owner target later (past ++ [.removed owner grace]) := by
    intro truthful
    rcases covered truthful.append.1 with ⟨covers, single⟩
    have empty : none.IsSingle := fun _ _ impossible => impossible.elim
    constructor
    · rw [after_append, after_singleton, step_removed]
      exact fun _ impossible => impossible.elim
    · refine single.append (isSingleAlong_singleton (isSingle_of_mode covers) ?_)
      rw [step_removed]
      exact empty
  rw [List.append_cons]
  refine removed.append (fun event member => ?_) fun event member => (plain event member).2 owner
  rw [(plain event member).1]
  exact nofun

end Running.IsCovered

namespace Registry.Records

variable {setup : Setup} {call : Call} {before after : Registry} {past events : List Event}
  {id other : InstanceId} {workload left : Instance} {target : String}
  {mode : Option ShapingKind}

/-- A note of a shaping sidecar lasts. -/
theorem target_eq (records : before.Records past) (lasts : before.Lasts call after)
    (found : before.get? id = some workload) (there : after.get? id = some left)
    (hosted : workload.fault.sidecar = some target) : left.fault.sidecar = some target := by
  rcases records.hosted found hosted with ⟨handle, sidecar, _, _, named⟩
  rcases lasts id workload found with ⟨same, known, later⟩
  rcases Option.some.inj (there.symm.trans known) with rfl
  have noted := later.noted .shaper handle sidecar (hosted.trans (congrArg some named.symm))
  exact noted.trans (congrArg some named)

/-- What a step leaves is an instance of before with the same note of a shaping sidecar, or an
instance whose shaping sidecar is new. -/
theorem source_of_step (records : before.Records past) (step : Step setup call before events after)
    (there : after.get? id = some left) (hosted : left.fault.sidecar = some target) :
    (∃ workload, before.get? id = some workload ∧ workload.fault.sidecar = some target) ∨
      ∃ handle, Enlists setup.settings before events after .shaper id handle := by
  have notes : Attendant.shaper.isNoted left = true := Option.isSome_iff_exists.mpr ⟨target, hosted⟩
  rcases step.noted there notes with ⟨workload, found, noted⟩ | ⟨_, handle, enlists⟩
  · rcases Option.isSome_iff_exists.mp noted with ⟨known, same⟩
    have lasting := records.target_eq step.lasts found there same
    rw [hosted] at lasting
    exact Or.inl ⟨workload, found, same.trans lasting.symm⟩
  · exact Or.inr ⟨handle, enlists⟩

/-- Nobody has talked to a shaping sidecar that is new. -/
theorem silent_of_enlists {settings : Settings} {handle : InstanceId} (records : before.Records past)
    (enlists : Enlists settings before events after .shaper id handle)
    (there : after.get? id = some left) (hosted : left.fault.sidecar = some target) :
    ∀ event ∈ past, event.shaper? ≠ some target := by
  intro event member talked
  rcases enlists.attendant with ⟨parent, attendant, found, located, _, notes, _⟩
  rcases Option.some.inj (there.symm.trans found) with rfl
  rcases records.known member talked with ⟨other, host, known, same⟩
  rcases records.hosted known same with ⟨place, sidecar, _, here, named⟩
  have target := Option.some.inj (hosted.symm.trans notes)
  exact enlists.unnamed place sidecar attendant here located (named.trans target)

/-- A step keeps the notes of shaping right. -/
theorem step (records : before.Records past) (step : Step setup call before events after) :
    after.Records (past ++ events) where
  hosted {id left target} there hosted := by
    rcases records.source_of_step step there hosted with
      ⟨workload, found, same⟩ | ⟨handle, enlists⟩
    · rcases records.hosted found same with ⟨handle, sidecar, listed, here, named⟩
      rcases step.lasts id workload found with ⟨lasting, known, later⟩
      rcases Option.some.inj (there.symm.trans known) with rfl
      rcases step.lasts handle sidecar here with ⟨following, located, alike⟩
      exact ⟨handle, following, later.listed listed, located, alike.clusterName.trans named⟩
    · rcases enlists.attendant with ⟨parent, attendant, found, located, listed, notes, _⟩
      rcases Option.some.inj (there.symm.trans found) with rfl
      exact ⟨handle, attendant, listed, located, Option.some.inj (notes.symm.trans hosted)⟩
  known {event target} member talked := by
    rcases List.mem_append.mp member with early | now
    · rcases records.known early talked with ⟨id, workload, found, hosted⟩
      rcases step.lasts id workload found with ⟨left, there, _⟩
      exact ⟨id, left, there, records.target_eq step.lasts found there hosted⟩
    · rw [(step.plain event now).1] at talked
      cases talked
  bare {id left} there bare := by
    rcases step.source_or_unshaped there with ⟨workload, found⟩ | unshaped
    · rcases step.kept found with ⟨lasting, known, _, mode⟩
      rcases Option.some.inj (there.symm.trans known) with rfl
      refine mode.trans (records.bare found ?_)
      rcases hosted : workload.fault.sidecar with _ | target
      · rfl
      · rw [records.target_eq step.lasts found there hosted] at bare
        cases bare
    · exact unshaped
  recorded {id left} there target hosted := by
    have plain : ∀ event ∈ events, event.shaper? ≠ some target := by
      intro event member
      rw [(step.plain event member).1]
      exact nofun
    rcases records.source_of_step step there hosted with
      ⟨workload, found, same⟩ | ⟨handle, enlists⟩
    · rcases step.kept found with ⟨lasting, known, later, mode⟩
      rcases Option.some.inj (there.symm.trans known) with rfl
      rw [later.clusterName, mode]
      exact (records.recorded found target same).append plain fun event member =>
        (step.plain event member).2 _
    · refine .of_silent fun event member => ?_
      rcases List.mem_append.mp member with early | now
      · exact records.silent_of_enlists enlists there hosted event early
      · exact plain event now

theorem steps (records : before.Records past) (steps : Steps setup call before events after) :
    after.Records (past ++ events) := by
  induction steps generalizing past with
  | none =>
      rw [List.append_nil]
      exact records
  | next step _ inductionHypothesis =>
      rw [← List.append_assoc]
      exact inductionHypothesis (records.step step)

/-- What concerns the pod of one instance only, and changes what is noted of it only, keeps the notes
right if it does so for that instance. -/
theorem renoted (records : before.Records past) (linked : before.WellLinked)
    (found : before.get? id = some workload) (renoted : before.Renoted id mode after)
    (heard : ∀ event ∈ events, ∀ target, event.shaper? = some target →
      workload.fault.sidecar = some target)
    (felt : ∀ event ∈ events, ∀ name grace, event = .removed name grace → name = workload.clusterName)
    (bare : workload.fault.sidecar = none → mode = none)
    (covered : ∀ target, workload.fault.sidecar = some target →
      Running.IsCovered workload.clusterName target mode (past ++ events)) :
    after.Records (past ++ events) where
  hosted {other left target} there hosted := by
    rcases renoted.source there with ⟨member, known, bonds⟩
    have same := congrArg Bonds.target bonds
    rcases records.hosted known (same.symm.trans hosted) with ⟨handle, sidecar, listed, here, named⟩
    rcases renoted.found here with ⟨following, located, alike⟩
    have sidecars : left.sidecars = member.sidecars :=
      congrArg (fun bonds => bonds.links.sidecars) bonds
    have naming : following.clusterName = sidecar.clusterName :=
      congrArg (fun bonds => bonds.links.clusterName) alike
    exact ⟨handle, following, sidecars ▸ listed, located, naming.trans named⟩
  known {event target} member talked := by
    have noted {other : InstanceId} {member : Instance} (known : before.get? other = some member)
        (hosted : member.fault.sidecar = some target) :
        ∃ id workload, after.get? id = some workload ∧ workload.fault.sidecar = some target := by
      rcases renoted.found known with ⟨left, there, bonds⟩
      exact ⟨other, left, there, (congrArg Bonds.target bonds).trans hosted⟩
    rcases List.mem_append.mp member with early | now
    · rcases records.known early talked with ⟨other, member, known, hosted⟩
      exact noted known hosted
    · exact noted found (heard event now target talked)
  bare {other left} there unhosted := by
    rcases renoted.source there with ⟨member, known, bonds⟩
    have hosts := (congrArg Bonds.target bonds).symm.trans unhosted
    refine (congrArg Bonds.mode bonds).trans ?_
    by_cases here : other = id
    · subst here
      rcases Option.some.inj (found.symm.trans known) with rfl
      exact (if_pos rfl).trans (bare hosts)
    · exact (if_neg here).trans (records.bare known hosts)
  recorded {other left} there target hosted := by
    rcases renoted.source there with ⟨member, known, bonds⟩
    have hosts : member.fault.sidecar = some target :=
      (congrArg Bonds.target bonds).symm.trans hosted
    have named : left.clusterName = member.clusterName :=
      congrArg (fun bonds => bonds.links.clusterName) bonds
    have noted := congrArg Bonds.mode bonds
    rw [named, show left.fault.activeMode = _ from noted]
    by_cases here : other = id
    · subst here
      rcases Option.some.inj (found.symm.trans known) with rfl
      rw [if_pos rfl]
      exact covered target hosts
    · rw [if_neg here]
      refine (records.recorded known target hosts).append ?_ ?_
      · exact fun event said talked =>
          records.target_ne linked known found (Ne.symm here) hosts (heard event said target talked)
      · rintro event said grace rfl
        exact here (linked.distinct known found (felt _ said _ grace rfl))

/-- Where the compute unit of an instance has been removed, whatever is noted of its shaping is right. -/
theorem removed {grace : Option UInt32} (records : before.Records past) (linked : before.WellLinked)
    (found : before.get? id = some workload) (renoted : before.Renoted id mode after)
    (bare : workload.fault.sidecar = none → mode = none) (plain : ∀ event ∈ events, event.IsPlain) :
    after.Records (past ++ .removed workload.clusterName grace :: events) := by
  refine records.renoted linked found renoted ?_ ?_ bare fun target hosts =>
    (records.recorded found target hosts).of_removed plain
  · intro event member target talked
    rcases List.mem_cons.mp member with rfl | later
    · cases talked
    · rw [(plain event later).1] at talked
      cases talked
  · rintro event member name other rfl
    rcases List.mem_cons.mp member with same | later
    · cases same
      rfl
    · exact absurd rfl ((plain _ later).2 name other)

/-- Every turn keeps the notes of shaping right. -/
theorem turn {succeeded : Bool} (records : before.Records past) (linked : before.WellLinked)
    (turn : Turn setup before call events succeeded after) : after.Records (past ++ events) := by
  cases turn with
  | steps steps => exact records.steps steps
  | shapes asks found hosted shapes =>
      refine records.renoted linked found Registry.renoted_setMode ?_ ?_ ?_ ?_
      · intro event member target talked
        exact hosted.trans ((shapes.shaper?_eq event member).symm.trans talked)
      · rintro event member name grace rfl
        cases shapes.shaper?_eq _ member
      · intro bare
        rw [hosted] at bare
        cases bare
      · intro target hosts truthful
        rcases Option.some.inj (hosted.symm.trans hosts) with rfl
        rcases truthful.append with ⟨early, now⟩
        rcases records.recorded found _ hosted early with ⟨covers, single⟩
        rcases Running.after_shapes shapes now covers with ⟨covered, along, _⟩
        rw [Running.after_append]
        exact ⟨covered, single.append along⟩
  | halts stops found =>
      exact records.removed linked found Registry.renoted_halted (fun _ => rfl)
        fun _ impossible => nomatch impossible
  | replaces sets found plain left =>
      exact records.removed linked found (Registry.renoted_of_replaced found left) (records.bare found)
        plain

end Registry.Records

/-! ## Histories -/

/-- The notes of shaping are right after any history. -/
theorem Reaches.records {setup : Setup} {history : List Record} {registry : Registry}
    (reached : Reaches setup history registry) : registry.Records (eventsOf history) := by
  induction reached with
  | empty => exact .empty
  | call earlier course inductionHypothesis =>
      rw [eventsOf_concat]
      have linked := earlier.invariant.1
      exact inductionHypothesis.turn linked (Call.turn linked course)

end Testbed
