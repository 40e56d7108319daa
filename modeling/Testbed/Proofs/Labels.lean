import Testbed.Proofs.Naming
import Testbed.Proofs.Supporting

namespace Testbed

/-!
# The labels of a pod

Everything that is compiled for a pod is labelled, and compute units and services select pods by labels.  The
values of all these labels are the cluster names of the members, the folded name and the kind of the parent, and
the name of the manager.  The cluster accepts them, whatever the human names are, as long as it accepts the
cluster names.
-/

namespace StringMap

variable {holds : String → Prop} {map : StringMap} {key value : String}

/-- Whether all values of a map have a property. -/
def Bears (holds : String → Prop) (map : StringMap) : Prop :=
  ∀ entry ∈ map.entries, holds entry.2

theorem Bears.insert (bears : map.Bears holds) (new : holds value) : (map.insert key value).Bears holds := by
  intro entry listed
  rcases mem_insertEntry listed with rfl | former
  · exact new
  · exact bears entry former

theorem Bears.insertAll {pairs : List (String × String)} (bears : map.Bears holds)
    (new : ∀ pair ∈ pairs, holds pair.2) : (map.insertAll pairs).Bears holds := by
  induction pairs generalizing map with
  | nil => exact bears
  | cons first rest inductionHypothesis =>
      rcases List.forall_mem_cons.mp new with ⟨firstNew, restNew⟩
      exact inductionHypothesis (bears.insert firstNew) restNew

theorem bears_empty : empty.Bears holds :=
  List.forall_mem_nil _

theorem bears_single (new : holds value) : (single key value).Bears holds :=
  bears_empty.insert new

end StringMap

/-- The maps of labels in the metadata and the selectors of a resource. -/
def Resource.labelings : Resource → List StringMap
  | .service value => [value.metadata.labels, value.spec.selector]
  | .replicaSet value =>
    [value.metadata.labels, value.spec.selector.matchLabels, value.spec.template.metadata.labels]
  | .networkPolicy value =>
    value.metadata.labels :: value.spec.podSelector.matchLabels ::
      ((value.spec.ingress.flatMap IngressRule.peers) ++ value.spec.egress.flatMap EgressRule.peers).map
        fun peer => peer.podSelector.matchLabels
  | resource => [resource.metadata.labels]

/-- All resources of a pod, its compute unit last. -/
def CompiledPod.resources (compiled : CompiledPod) : List Resource :=
  compiled.supporting ++ [.replicaSet compiled.replicaSet]

namespace Pod

/-- The values of the labels of a pod. -/
inductive LabelsWith (pod : Pod) : String → Prop where
  | manager : LabelsWith pod managerName
  | kind : LabelsWith pod pod.parent.kind.text
  | name : LabelsWith pod (Naming.labelValue pod.parent.name)
  | cluster {member : Instance} (there : member ∈ pod.members) : LabelsWith pod member.clusterName

variable {pod : Pod} {member : Instance} {resource : Resource} {compiled : CompiledPod}

theorem LabelsWith.parent : pod.LabelsWith pod.parent.clusterName :=
  .cluster List.mem_cons_self

theorem bears_fresh {name space : String} : (Metadata.fresh name space).labels.Bears pod.LabelsWith :=
  StringMap.bears_single .manager

theorem Supports.labelings_bear (supports : pod.Supports member resource) (there : member ∈ pod.members) :
    ∀ labels ∈ resource.labelings, labels.Bears pod.LabelsWith := by
  cases supports with
  | account | claim | role | binding => exact List.forall_mem_singleton.mpr bears_fresh
  | files carries =>
      rw [Instance.configMap] at carries
      split at carries
      · cases carries
      · cases carries
        exact List.forall_mem_singleton.mpr (bears_fresh.insert (.cluster there))
  | service offers =>
      rw [Instance.service] at offers
      split at offers
      · cases offers
      · cases offers
        exact List.forall_mem_cons.mpr ⟨bears_fresh.insert (.cluster there),
          List.forall_mem_singleton.mpr (StringMap.bears_single .parent)⟩

theorem podLabels_bear : pod.parent.podLabels.Bears pod.LabelsWith :=
  StringMap.bears_empty.insertAll (List.forall_mem_cons.mpr
    ⟨.parent, List.forall_mem_cons.mpr ⟨.name, List.forall_mem_singleton.mpr .kind⟩⟩)

theorem replicaSet_labelings_bear {unit : ReplicaSet} (made : pod.replicaSet = .ok unit) :
    ∀ labels ∈ (Resource.replicaSet unit).labelings, labels.Bears pod.LabelsWith := by
  rcases parts_of_replicaSet made with ⟨_, _, metadata, spec⟩
  refine List.forall_mem_cons.mpr ⟨?_, List.forall_mem_cons.mpr ⟨?_, List.forall_mem_singleton.mpr ?_⟩⟩
  · rw [metadata]
    exact bears_fresh.insertAll podLabels_bear
  · rw [spec]
    exact StringMap.bears_single .parent
  · rw [spec]
    exact podLabels_bear

/-- The values of the labels of a compiled pod are those of its members. -/
theorem labelings_bear (made : pod.compile = .ok compiled) :
    ∀ resource ∈ compiled.resources, ∀ labels ∈ resource.labelings, labels.Bears pod.LabelsWith := by
  rcases compile_eq_ok_iff.mp made with ⟨unit, supporting⟩
  intro resource listed
  rcases List.mem_append.mp listed with support | last
  · rcases supports_of_mem (supporting ▸ support) with ⟨member, there, supports⟩
    exact supports.labelings_bear there
  · rw [List.mem_singleton.mp last]
    exact replicaSet_labelings_bear unit

/-- What holds of folded names and of the cluster names of a pod holds of the values of its labels. -/
theorem LabelsWith.holds {valid : String → Prop} {value : String} (labelled : pod.LabelsWith value)
    (tidy : ∀ text, Naming.IsTidyValue text → valid text)
    (named : ∀ member ∈ pod.members, valid member.clusterName) : valid value := by
  have constant {text : String} (kept : Naming.labelValue text = text) : valid text :=
    tidy text (Naming.isTidyValue_iff.mpr kept)
  cases labelled with
  | manager => exact constant (by decide)
  | kind => cases pod.parent.kind with
    | basic => exact constant (by decide)
    | executor => exact constant (by decide)
  | name => exact tidy _ (Naming.isTidyValue_labelValue _)
  | cluster there => exact named _ there

end Pod

/-- Folding a name into the value of a label leads to the valid values in which no dash follows a dash and changes
none of them.  So all values of the labels of a pod are valid if the cluster names are, and they have no dash
behind a dash if the cluster names have none. -/
theorem labels_are_valid :
    (∀ name, Naming.IsTidyValue (Naming.labelValue name) ∧
      (Naming.IsTidyValue name → Naming.labelValue name = name) ∧
      Naming.labelValue (Naming.labelValue name) = Naming.labelValue name) ∧
    ∀ (pod : Pod) (compiled : CompiledPod), pod.compile = .ok compiled →
      ((∀ member ∈ pod.members, Naming.IsValue member.clusterName) →
        ∀ resource ∈ compiled.resources, ∀ labels ∈ resource.labelings, labels.Bears Naming.IsValue) ∧
      ((∀ member ∈ pod.members, Naming.IsTidyValue member.clusterName) →
        ∀ resource ∈ compiled.resources, ∀ labels ∈ resource.labelings, labels.Bears Naming.IsTidyValue) := by
  refine ⟨fun name => ⟨Naming.isTidyValue_labelValue name, Naming.labelValue_eq_self,
    Naming.labelValue_eq_self (Naming.isTidyValue_labelValue name)⟩, fun pod compiled made => ?_⟩
  have borne := pod.labelings_bear made
  constructor
  · intro named resource listed labels among entry there
    exact (borne resource listed labels among entry there).holds (fun _ tidy => tidy.toIsFramed) named
  · intro named resource listed labels among entry there
    exact (borne resource listed labels among entry there).holds (fun _ tidy => tidy) named

/-- A pod whose human names are mostly marks. -/
def Pod.marked (sidecarName : String) : Pod where
  parent :=
    { id := ⟨0⟩, name := "_ Café -- №1!", clusterName := "caf-1-0a1b2c3d", image := some "cafe", tcpPorts := [80] }
  sidecars := [{ id := ⟨1⟩, name := "***", clusterName := sidecarName, image := some "side" }]
  space := "test"
  initImage := "busybox"

theorem labels_are_valid_under_marks :
    Naming.labelValue "db_primary.v2" = "db_primary.v2" ∧
    (∃ compiled, (Pod.marked "side--car").compile = .ok compiled ∧
      ∀ resource ∈ compiled.resources, ∀ labels ∈ resource.labelings, labels.Bears Naming.IsValue) ∧
    ∃ compiled, (Pod.marked "side-car").compile = .ok compiled ∧
      ∀ resource ∈ compiled.resources, ∀ labels ∈ resource.labelings, labels.Bears Naming.IsTidyValue := by
  refine ⟨(labels_are_valid.1 _).2.1 (Naming.isTidyValue_iff.mpr (by decide)), ⟨_, rfl, ?_⟩, ⟨_, rfl, ?_⟩⟩
  · exact (labels_are_valid.2 (Pod.marked "side--car") _ rfl).1 (by decide)
  · exact (labels_are_valid.2 (Pod.marked "side-car") _ rfl).2 fun member there =>
      Naming.isTidyValue_iff.mpr (by revert member; decide)

end Testbed
