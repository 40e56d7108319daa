import Mathlib.Data.List.Nodup
import Testbed.Proofs.Labels
import Testbed.Proofs.Reachable
import Testbed.Proofs.Selection
import Testbed.Proofs.Trial

namespace Testbed

/-!
# No two things share a name

Whatever is compiled from a registry is named after an instance, with an ending that depends on its kind only.
Since instances have cluster names of their own, no two resources of a kind have the same name, whichever pods
they belong to.  Behind the proxy the last dash of a prefix parts the name from the port.  Only the containers of
a pod need more: the one that hands over a volume is named after its instance with an ending, and this could be
the name of another instance if cluster names did not end in a digit.
-/

namespace Naming

variable {name other : String} {port another : UInt16}

/-- Whether a cluster name was generated from some human name. -/
def IsGenerated (name : String) : Prop :=
  ∃ human suffix, IsSuffix suffix ∧ generate suffix human = .ok name

theorem IsSuffix.exists_last {suffix : String} (random : IsSuffix suffix) :
    ∃ digit : Fin 16, suffix.toList.getLast? = some (Text.hexDigit digit.val) := by
  rcases random with ⟨digits, count, rfl⟩
  cases last : digits.getLast? with
  | none =>
      rw [List.getLast?_eq_none_iff.mp last] at count
      exact absurd count (by decide)
  | some digit => exact ⟨digit, by rw [String.toList_ofList, List.getLast?_map, last, Option.map_some]⟩

/-- A generated name ends in a hexadecimal digit. -/
theorem IsGenerated.exists_last (generated : IsGenerated name) :
    ∃ digit : Fin 16, name.toList.getLast? = some (Text.hexDigit digit.val) := by
  rcases generated with ⟨human, suffix, random, made⟩
  rcases random.exists_last with ⟨digit, last⟩
  rw [generate] at made
  split at made
  · cases made
  · refine ⟨digit, ?_⟩
    rw [← Except.ok.inj made, String.toList_append, List.getLast?_append, last, Option.some_or]

/-- No generated name is that of a container which hands over a volume. -/
theorem IsGenerated.ne_ownerContainer (generated : IsGenerated name) (other : String) :
    name ≠ ownerContainer other := by
  rintro rfl
  rcases generated.exists_last with ⟨digit, last⟩
  have letter : (ownerContainer other).toList.getLast? = some 't' := by
    rw [ownerContainer, String.toList_append, List.getLast?_append]
    rfl
  rw [letter, Option.some.injEq] at last
  revert last
  revert digit
  decide

theorem ownerContainer_injective : Function.Injective ownerContainer := fun _ _ same =>
  (String.append_left_inj _).mp same

theorem dash_not_mem_port : '-' ∉ (toString port).toList := fun member =>
  absurd (isSmallAlphanumeric_of_mem_port member) (by decide)

/-- A prefix of the proxy tells the name and the port. -/
theorem hostPrefix_inj (same : hostPrefix name port = hostPrefix other another) : name = other ∧ port = another := by
  have texts := congrArg String.toList same
  rw [hostPrefix, hostPrefix, toList_dashed, toList_dashed] at texts
  rcases Text.append_separator_inj dash_not_mem_port dash_not_mem_port texts with ⟨names, ports⟩
  exact ⟨String.toList_inj.mp names, portName_injective "" (congrArg _ (String.toList_inj.mp ports))⟩

end Naming

/-! ## Within a pod -/

/-- What tells a resource from all others in the cluster. -/
def Resource.key (resource : Resource) : ResourceKind × String :=
  (resource.resourceKind, resource.name)

namespace Pod

variable {pod : Pod} {compiled : CompiledPod} {member other : Instance} {resource second : Resource}

/-- The kinds of what a member can need, in the order of application. -/
def memberKinds : List ResourceKind :=
  [.storageClaim] ++ [.configMap] ++ [.role, .roleBinding] ++ [.service]

theorem toList_map_kind_sublist {α : Type} (given : Option α) {make : α → Resource} {kind : ResourceKind}
    (made : ∀ value, (make value).resourceKind = kind) :
    ((given.toList.map make).map Resource.resourceKind).Sublist [kind] := by
  cases given with
  | none => exact List.nil_sublist _
  | some value =>
      rw [Option.toList_some, List.map_singleton, List.map_singleton, made]

/-- A member needs no two resources of a kind. -/
theorem kinds_memberResources_sublist (pod : Pod) (member : Instance) :
    ((pod.memberResources member).map Resource.resourceKind).Sublist memberKinds := by
  have access : ((pod.access member).map Resource.resourceKind).Sublist [.role, .roleBinding] := by
    rw [Pod.access]
    split
    · exact List.nil_sublist _
    · cases pod.account with
      | none => exact List.nil_sublist _
      | some account => exact List.Sublist.refl _
  rw [memberResources, memberKinds, List.map_append, List.map_append, List.map_append]
  refine ((List.Sublist.append ?_ ?_).append access).append ?_
  · exact toList_map_kind_sublist member.volume fun _ => rfl
  · exact toList_map_kind_sublist (member.configMap pod.space) fun _ => rfl
  · exact toList_map_kind_sublist (member.service pod.parent.clusterName pod.space) fun _ => rfl

theorem nodup_keys_memberResources (pod : Pod) (member : Instance) :
    ((pod.memberResources member).map Resource.key).Nodup := by
  have kinds : memberKinds.Nodup := by decide
  refine List.Nodup.of_map Prod.fst ?_
  rw [List.map_map]
  exact kinds.sublist (pod.kinds_memberResources_sublist member)

/-- Resources with the same key are named after instances with the same cluster name. -/
theorem clusterName_eq_of_key_eq (named : resource.name = supportName resource.resourceKind member.clusterName)
    (also : second.name = supportName second.resourceKind other.clusterName) (same : resource.key = second.key) :
    member.clusterName = other.clusterName := by
  rcases Prod.mk.inj same with ⟨kinds, names⟩
  rw [named, also, kinds] at names
  exact supportName_injective names

theorem nodup_keys_supporting (named : (pod.members.map Instance.clusterName).Nodup) :
    (pod.supporting.map Resource.key).Nodup := by
  rw [supporting, List.map_append, List.nodup_append, List.map_flatMap, List.nodup_flatMap]
  refine ⟨?_, ⟨fun member _ => pod.nodup_keys_memberResources member, ?_⟩, ?_⟩
  · cases pod.account with
    | none => exact List.nodup_nil
    | some account => exact List.nodup_singleton _
  · apply (List.pairwise_map.mp named).imp
    intro first last apart key early late
    rcases List.mem_map.mp early with ⟨resource, listed, rfl⟩
    rcases List.mem_map.mp late with ⟨second, again, same⟩
    exact apart (clusterName_eq_of_key_eq (supports_of_mem_memberResources listed).name_eq
      (supports_of_mem_memberResources again).name_eq same.symm)
  · -- The account is of a kind of its own.
    intro key account also own same
    subst same
    rcases List.mem_map.mp account with ⟨resource, acts, rfl⟩
    rcases List.mem_map.mp acts with ⟨name, _, rfl⟩
    rcases List.mem_flatMap.mp own with ⟨member, _, needed⟩
    rcases List.mem_map.mp needed with ⟨resource, listed, alike⟩
    have kind : resource.resourceKind ∈ memberKinds :=
      (pod.kinds_memberResources_sublist member).subset (List.mem_map_of_mem listed)
    rw [show resource.resourceKind = .serviceAccount from congrArg Prod.fst alike] at kind
    exact absurd kind (by decide)

/-- Every resource of a pod is named after one of its members. -/
theorem exists_namesake (made : pod.compile = .ok compiled) (listed : resource ∈ compiled.resources) :
    ∃ member ∈ pod.members, resource.name = supportName resource.resourceKind member.clusterName := by
  rcases compile_eq_ok_iff.mp made with ⟨unit, supporting⟩
  rcases List.mem_append.mp listed with support | last
  · rcases supports_of_mem (supporting ▸ support) with ⟨member, there, supports⟩
    exact ⟨member, there, supports.name_eq⟩
  · rw [List.mem_singleton.mp last]
    exact ⟨pod.parent, List.mem_cons_self, name_of_replicaSet unit⟩

/-- No two resources of a pod have the same kind and name. -/
theorem nodup_keys (made : pod.compile = .ok compiled) (named : (pod.members.map Instance.clusterName).Nodup) :
    (compiled.resources.map Resource.key).Nodup := by
  have supporting := (compile_eq_ok_iff.mp made).2
  rw [CompiledPod.resources, List.map_append, List.nodup_append]
  refine ⟨supporting ▸ nodup_keys_supporting named, List.nodup_singleton _, ?_⟩
  intro key support also unit same
  subst same
  rcases List.mem_map.mp support with ⟨resource, listed, alike⟩
  rw [List.mem_singleton.mp unit] at alike
  rcases supports_of_mem (supporting ▸ listed) with ⟨_, _, supports⟩
  exact supports.resourceKind_ne.1 (congrArg Prod.fst alike)

/-! ## Containers -/

/-- Each member has at most one container that hands over its volume. -/
theorem ownerContainers_sublist (members : List Instance) (initImage : String) :
    ((members.flatMap fun member => member.ownerContainers initImage).map Container.name).Sublist
      ((members.map Instance.clusterName).map Naming.ownerContainer) := by
  have single (member : Instance) : ((member.ownerContainers initImage).map Container.name).Sublist
      [Naming.ownerContainer member.clusterName] := by
    rw [Instance.ownerContainers, List.map_map]
    cases member.volume with
    | none => exact List.nil_sublist _
    | some volume => exact List.filter_sublist.map _
  induction members with
  | nil => exact List.Sublist.slnil
  | cons first rest inductionHypothesis =>
      rw [List.flatMap_cons, List.map_append]
      exact (single first).append inductionHypothesis

/-- Every container has a name of its own, also those that run before the others, if no member has the name of
one that hands over a volume. -/
theorem nodup_containers (made : pod.compile = .ok compiled) (named : (pod.members.map Instance.clusterName).Nodup)
    (apart : ∀ member ∈ pod.members, ∀ other, member.clusterName ≠ Naming.ownerContainer other) :
    ((compiled.podSpec.containers ++ compiled.podSpec.initContainers).map Container.name).Nodup := by
  rcases parts_of_compile made with ⟨_, _, _, owners, containers⟩
  have running : compiled.podSpec.containers.map Container.name = pod.members.map Instance.clusterName := by
    rw [← List.forall₂_eq_eq_eq, List.forall₂_map_left_iff, List.forall₂_map_right_iff]
    exact containers.flip.imp fun container member own => (Instance.parts_of_container own).1
  have preparing : (compiled.podSpec.initContainers.map Container.name).Sublist
      ((pod.members.map Instance.clusterName).map Naming.ownerContainer) :=
    owners ▸ ownerContainers_sublist pod.members pod.initImage
  rw [List.map_append, running, List.nodup_append]
  refine ⟨named, (named.map Naming.ownerContainer_injective).sublist preparing, ?_⟩
  intro name member also hands same
  subst same
  rcases List.mem_map.mp member with ⟨workload, there, rfl⟩
  rcases List.mem_map.mp (preparing.subset hands) with ⟨other, _, alike⟩
  exact apart workload there other alike.symm

end Pod

/-! ## Across the registry -/

namespace Registry

variable {settings : Settings} {registry : Registry} {id otherId : InstanceId} {owner other : Instance}
  {compiled second : CompiledPod}

/-- What is compiled for all instances that have pods of their own. -/
def compiledPods (registry : Registry) (settings : Settings) : List CompiledPod :=
  (registry.instances.filter fun workload => !workload.isSidecar).filterMap fun owner =>
    (registry.compile settings owner).toOption

theorem exists_pod_of_compile (made : registry.compile settings owner = .ok compiled) :
    ∃ pod : Pod, registry.pod settings owner = .ok pod ∧ pod.compile = .ok compiled := by
  simpa only [compile_eq_ok_iff, Pod.compile_eq_ok_iff] using made

/-- Whatever is compiled for all owners is compiled from members with cluster names of their own. -/
theorem WellLinked.exists_pod_of_mem (linked : registry.WellLinked)
    (listed : compiled ∈ registry.compiledPods settings) :
    ∃ pod : Pod, pod.compile = .ok compiled ∧ (pod.members.map Instance.clusterName).Nodup ∧
      ∀ member ∈ pod.members, ∃ id, registry.get? id = some member := by
  rcases List.mem_filterMap.mp listed with ⟨owner, leads, made⟩
  rcases List.getElem?_of_mem (List.mem_filter.mp leads).1 with ⟨index, there⟩
  have found : registry.get? ⟨index⟩ = some owner := there
  rcases exists_pod_of_compile (toOption_eq_some_iff.mp made) with ⟨pod, assembled, compiles⟩
  refine ⟨pod, compiles, ?_, fun member among => ?_⟩
  · rcases pod_eq_ok_iff.mp assembled with ⟨collected, rfl, _⟩
    exact linked.nodup_members found collected
  · rcases (mem_members_iff assembled found).mp among with ⟨handle, _, known⟩
    exact ⟨handle, known⟩

/-- Instances at different places have different handles, and are found under them. -/
theorem WellLinked.pairwise_instances (linked : registry.WellLinked) :
    registry.instances.Pairwise fun first second => registry.get? first.id = some first ∧
      registry.get? second.id = some second ∧ first.id ≠ second.id := by
  have found (index : Nat) (small : index < registry.instances.length) :
      registry.get? ⟨index⟩ = some registry.instances[index] := List.getElem?_eq_getElem small
  refine List.pairwise_iff_getElem.mpr fun first second firstSmall secondSmall before => ?_
  rw [linked.handle (found first firstSmall), linked.handle (found second secondSmall)]
  exact ⟨found _ _, found _ _, fun same => Nat.ne_of_lt before (congrArg InstanceId.index same)⟩

/-- Nothing that is compiled for one owner has the kind and name of what is compiled for another. -/
theorem WellLinked.disjoint_keys (linked : registry.WellLinked) (found : registry.get? id = some owner)
    (also : registry.get? otherId = some other) (apart : id ≠ otherId) (leads : owner.parent = none)
    (alike : other.parent = none) (made : registry.compile settings owner = .ok compiled)
    (again : registry.compile settings other = .ok second) :
    (compiled.resources.map Resource.key).Disjoint (second.resources.map Resource.key) := by
  intro key here there
  rcases List.mem_map.mp here with ⟨resource, listed, rfl⟩
  rcases List.mem_map.mp there with ⟨another, present, same⟩
  rcases exists_pod_of_compile made with ⟨pod, assembled, compiles⟩
  rcases exists_pod_of_compile again with ⟨otherPod, otherAssembled, otherCompiles⟩
  rcases Pod.exists_namesake compiles listed with ⟨member, among, named⟩
  rcases Pod.exists_namesake otherCompiles present with ⟨namesake, between, alsoNamed⟩
  rcases (mem_members_iff assembled found).mp among with ⟨handle, follows, known⟩
  rcases (mem_members_iff otherAssembled also).mp between with ⟨otherHandle, otherFollows, otherKnown⟩
  -- Both are named after the same instance, and this runs in one pod only.
  obtain rfl := linked.distinct known otherKnown (Pod.clusterName_eq_of_key_eq named alsoNamed same.symm)
  have led := (linked.leaderOf_eq_iff ((parentOf_eq found).trans leads)).mpr follows
  have otherLed := (linked.leaderOf_eq_iff ((parentOf_eq also).trans alike)).mpr otherFollows
  exact apart (led.symm.trans otherLed)

/-- No two resources that are compiled from a registry have the same kind and name. -/
theorem WellLinked.nodup_keys (linked : registry.WellLinked) (settings : Settings) :
    (((registry.compiledPods settings).flatMap CompiledPod.resources).map Resource.key).Nodup := by
  rw [List.map_flatMap, List.nodup_flatMap]
  constructor
  · intro compiled listed
    rcases linked.exists_pod_of_mem listed with ⟨pod, made, named, _⟩
    exact Pod.nodup_keys made named
  · have leads {workload : Instance} (single : (!workload.isSidecar) = true) : workload.parent = none :=
      Option.isNone_iff_eq_none.mp (by simpa [Instance.isSidecar] using single)
    rw [compiledPods, List.pairwise_filterMap, List.pairwise_filter]
    refine linked.pairwise_instances.imp fun known owns alike compiled made second again => ?_
    rcases known with ⟨found, also, apart⟩
    exact linked.disjoint_keys found also apart (leads owns) (leads alike) (toOption_eq_some_iff.mp made)
      (toOption_eq_some_iff.mp again)

end Registry

/-- Whatever is done with a testbed, and whatever fails, no two things share a name.  All resources that are
compiled for the pods of a registry have different kinds or names.  If all cluster names are generated, the
containers of a pod and those that run before them have different names.  And every port of every instance has a
prefix of its own behind the proxy. -/
theorem names_are_distinct {setup : Setup} {history : List Record} {registry : Registry}
    (reached : Reaches setup history registry) :
    (((registry.compiledPods setup.settings).flatMap CompiledPod.resources).map Resource.key).Nodup ∧
    ((∀ id workload, registry.get? id = some workload → Naming.IsGenerated workload.clusterName) →
      ∀ compiled ∈ registry.compiledPods setup.settings,
        ((compiled.podSpec.containers ++ compiled.podSpec.initContainers).map Container.name).Nodup) ∧
    ∀ id workload otherId other port another, registry.get? id = some workload →
      registry.get? otherId = some other →
      Naming.hostPrefix workload.clusterName port = Naming.hostPrefix other.clusterName another →
      id = otherId ∧ port = another := by
  have linked := reached.invariant.1
  refine ⟨linked.nodup_keys setup.settings, fun generated compiled listed => ?_, ?_⟩
  · rcases linked.exists_pod_of_mem listed with ⟨pod, made, named, registered⟩
    refine Pod.nodup_containers made named fun member there other => ?_
    rcases registered member there with ⟨id, found⟩
    exact (generated id member found).ne_ownerContainer other
  · intro id workload otherId other port another found also same
    rcases Naming.hostPrefix_inj same with ⟨names, ports⟩
    exact ⟨linked.distinct found also names, ports⟩

/-- An instance with a volume, its sidecar, whose human name looks like that of a container which hands over the
volume, and another instance with a volume are described. -/
def Call.neighbours : List Call :=
  [.create "main", .setImage ⟨0⟩ "busybox", .create "main-init", .setImage ⟨1⟩ "busybox",
    .edit ⟨1⟩ (.addTcpPort 80), .commit ⟨1⟩, .addSidecar ⟨0⟩ ⟨1⟩, .commit ⟨0⟩,
    .edit ⟨0⟩ (.addVolume "/data" "1Gi" 7), .create "other", .setImage ⟨2⟩ "busybox", .commit ⟨2⟩,
    .edit ⟨2⟩ (.addVolume "/data" "1Gi" 0)]

theorem names_are_distinct_of_neighbours :
    let ended := trial .plain (.renaming "-0a1b2c3d") Call.neighbours
    Reaches .plain ended.1 ended.2 ∧
    ((ended.2.compiledPods Setup.plain.settings).flatMap CompiledPod.resources).map Resource.key =
      [(.storageClaim, "main-0a1b2c3d-volume"), (.service, "main-init-0a1b2c3d"), (.replicaSet, "main-0a1b2c3d"),
        (.storageClaim, "other-0a1b2c3d-volume"), (.replicaSet, "other-0a1b2c3d")] ∧
    (((ended.2.compiledPods Setup.plain.settings).flatMap CompiledPod.resources).map Resource.key).Nodup ∧
    (∃ compiled ∈ ended.2.compiledPods Setup.plain.settings,
      (compiled.podSpec.containers ++ compiled.podSpec.initContainers).map Container.name =
        ["main-0a1b2c3d", "main-init-0a1b2c3d", "main-0a1b2c3d-init"] ∧
      ((compiled.podSpec.containers ++ compiled.podSpec.initContainers).map Container.name).Nodup) ∧
    Naming.hostPrefix "main-0a1b2c3d" 80 ≠ Naming.hostPrefix "other-0a1b2c3d" 80 := by
  intro ended
  have reached : Reaches .plain ended.1 ended.2 := reaches_trial .plain (.renaming "-0a1b2c3d") Call.neighbours
  have named : ended.2.instances.map Instance.clusterName =
      ["main-0a1b2c3d", "main-init-0a1b2c3d", "other-0a1b2c3d"] := by decide +kernel
  have random : Naming.IsSuffix "0a1b2c3d" := ⟨[0, 10, 1, 11, 2, 12, 3, 13], by decide, by decide⟩
  have generated : ∀ id workload, ended.2.get? id = some workload → Naming.IsGenerated workload.clusterName := by
    intro id workload found
    have listed : workload.clusterName ∈ ended.2.instances.map Instance.clusterName :=
      List.mem_map_of_mem (List.mem_of_getElem? found)
    simp only [named, List.mem_cons, List.not_mem_nil, or_false] at listed
    rcases listed with same | same | same
    · exact ⟨"main", _, random, same ▸ by decide⟩
    · exact ⟨"main-init", _, random, same ▸ by decide⟩
    · exact ⟨"other", _, random, same ▸ by decide⟩
  rcases names_are_distinct reached with ⟨keys, containers, prefixes⟩
  refine ⟨reached, by decide +kernel, keys, ?_, fun same => ?_⟩
  · have first : ∃ compiled ∈ ended.2.compiledPods Setup.plain.settings,
        (compiled.podSpec.containers ++ compiled.podSpec.initContainers).map Container.name =
          ["main-0a1b2c3d", "main-init-0a1b2c3d", "main-0a1b2c3d-init"] := by decide +kernel
    rcases first with ⟨compiled, listed, names⟩
    exact ⟨compiled, listed, names, containers generated compiled listed⟩
  · have main : (ended.2.get? ⟨0⟩).map Instance.clusterName = some "main-0a1b2c3d" := by decide +kernel
    have other : (ended.2.get? ⟨2⟩).map Instance.clusterName = some "other-0a1b2c3d" := by decide +kernel
    rcases Option.map_eq_some_iff.mp main with ⟨workload, found, name⟩
    rcases Option.map_eq_some_iff.mp other with ⟨another, there, otherName⟩
    rw [← name, ← otherName] at same
    exact absurd (prefixes _ _ _ _ _ _ found there same).1 (by decide)

end Testbed
