import Testbed.Proofs.Description

namespace Testbed

/-!
# Where a container sees what is mounted

A container mounts the volume of its instance at one path and every deployed file at its destination.  The
two come from different sources.  A file is refused where there is a file already, and a second volume is
refused altogether, so neither the files nor the volume collide among themselves.  But nobody compares
them with each other: a file may be given where the volume is mounted, and a volume where a file lies, and
then two mounts of the container have one path.
-/

namespace Instance

variable {workload : Instance} {container : Container}

/-- The place of the volume comes first, and the places of the files follow in their order. -/
theorem mountPath_mounts :
    workload.mounts.map VolumeMount.mountPath =
      workload.volume.toList.map VolumeDescription.path ++
        workload.deployedFiles.map InstanceFile.destination := by
  simp only [mounts, List.map_append, List.map_map, Function.comp_def]
  congr 1
  apply List.ext_getElem?
  intro index
  simp only [List.getElem?_map, List.getElem?_mapIdx, Option.map_map, Function.comp_def]

/-- A container has the cluster name of its instance and mounts what the instance has. -/
theorem parts_of_container (made : workload.container = .ok container) :
    container.name = workload.clusterName ∧ container.volumeMounts = workload.mounts := by
  rw [Instance.container] at made
  split at made
  · cases made
  · cases made
    exact ⟨rfl, rfl⟩

/-- The files that are deployed lie at distinct places, because all files do. -/
theorem HasSoundFiles.nodup_deployed (sound : workload.HasSoundFiles) :
    (workload.deployedFiles.map InstanceFile.destination).Nodup :=
  sound.distinct.sublist (List.filter_sublist.map _)

/-- Two mounts have one path if a file is deployed where the volume is mounted, and only then. -/
theorem nodup_mounts_iff (sound : workload.HasSoundFiles) :
    (workload.mounts.map VolumeMount.mountPath).Nodup ↔
      ∀ volume, workload.volume = some volume →
        volume.path ∉ workload.deployedFiles.map InstanceFile.destination := by
  rw [mountPath_mounts]
  cases workload.volume with
  | none =>
      constructor
      · intro _ volume impossible
        cases impossible
      · exact fun _ => sound.nodup_deployed
  | some volume =>
      simp only [Option.toList_some, List.map_cons, List.map_nil, List.singleton_append,
        List.nodup_cons, Option.some.injEq, forall_eq']
      exact and_iff_left sound.nodup_deployed

end Instance

/-- Whatever is done with a testbed, and whatever fails: the mounts of an instance's container have
distinct paths unless the volume is mounted where a file is deployed. -/
theorem mountPaths_of_reaches {setup : Setup} {history : List Record} {registry : Registry}
    {id : InstanceId} {workload : Instance} {container : Container}
    (reached : Reaches setup history registry) (found : registry.get? id = some workload)
    (made : workload.container = .ok container) :
    (container.volumeMounts.map VolumeMount.mountPath).Nodup ↔
      ∀ volume, workload.volume = some volume →
        volume.path ∉ workload.deployedFiles.map InstanceFile.destination := by
  rw [(Instance.parts_of_container made).2]
  exact Instance.nodup_mounts_iff (hereditary_files.of_reaches reached id workload found)

/-- An instance is given a volume, and then a file at some place. -/
def Call.mountedPod (destination : String) : List Call :=
  [.create "main", .setImage ⟨0⟩ "busybox", .commit ⟨0⟩, .edit ⟨0⟩ (.addVolume "/data" "1Gi" 0),
    .addFileBytes ⟨0⟩ [1, 2, 3] destination "0:0"]

/-- A file below the volume has a path of its own. -/
theorem mountPaths_of_mountedPod :
    let ended := trial .plain .agreeable (Call.mountedPod "/data/main.conf")
    ∃ workload container, Reaches .plain ended.1 ended.2 ∧ ended.2.get? ⟨0⟩ = some workload ∧
      workload.container = .ok container ∧
      container.volumeMounts.map VolumeMount.mountPath = ["/data", "/data/main.conf"] ∧
      (container.volumeMounts.map VolumeMount.mountPath).Nodup := by
  intro ended
  have reached : Reaches .plain ended.1 ended.2 := reaches_trial .plain .agreeable _
  have found : ended.2.get? ⟨0⟩ = some _ := rfl
  refine ⟨_, _, reached, found, rfl, rfl, (mountPaths_of_reaches reached found rfl).mpr ?_⟩
  intro volume same
  cases same
  decide

/-- A file where the volume is mounted is accepted, and its mount has the path of the volume's. -/
theorem mountPaths_collide :
    ¬ ∀ (setup : Setup) (history : List Record) (registry : Registry) (id : InstanceId)
      (workload : Instance) (container : Container),
      Reaches setup history registry → registry.get? id = some workload →
      workload.container = .ok container →
      (container.volumeMounts.map VolumeMount.mountPath).Nodup := by
  intro claim
  have reached := reaches_trial .plain .agreeable (Call.mountedPod "/data")
  have distinct := claim .plain _ _ ⟨0⟩ _ _ reached rfl rfl
  have twice : ¬ ["/data", "/data"].Nodup := by decide
  exact twice distinct

end Testbed
