import Ec2Wrappers.Aws.Ec2
import Ec2Wrappers.Foundations.Tables

/-!
# The storage of a cluster

`JsonVolumeManager` of `hadoop/cloud/storage.py`, the parts of `Ec2Storage` of
`hadoop/cloud/providers/ec2.py` that list and delete volumes, and `Service.delete_storage` of
`hadoop/cloud/service.py`, over the storage file of the cluster, the volumes of the account and the
delete requests made so far.

The storage file maps roles to the volumes of each instance of the role; it is a table with the role
as its key, in the order in which Python goes through the dictionary. A missing file reads as an
empty one. `Ec2Storage.delete` takes a list of roles and loops over what it is given;
`Service.delete_storage` gives it one role, and a loop over a text goes through its characters
(`deleteStorage`).

`_print_volume` reads attributes that boto's `Volume` does not have, so `print_status` raises as
soon as it comes to a recorded volume (`printStatus_raises`); with no volume recorded it returns
(`printStatus_returns`).
-/

set_option autoImplicit false
set_option relaxedAutoImplicit false

namespace Ec2Wrappers.HadoopCloud

open Foundations Aws

/-! ### The storage file -/

/-- A volume as the storage file records it. -/
structure MountableVolume where
  volumeId : Text
  mountPoint : Text
  device : Text
  deriving DecidableEq, Repr

/-- The entry of a role: the volumes of each of its instances. -/
structure RoleStorage where
  role : Text
  instances : List (List MountableVolume)
  deriving DecidableEq, Repr

/-- The storage file. -/
abbrev StorageFile := Table RoleStorage.role

/-- The storage file, the volumes of the account, and the ids EC2 has been asked to delete. -/
structure StorageWorld where
  file : StorageFile
  volumes : List Volume
  deleteRequests : List Text
  deriving DecidableEq

/-- `JsonVolumeManager.get_roles`. -/
def getRoles (file : StorageFile) : List Text := file.rows.map RoleStorage.role

/-- `JsonVolumeManager.get_instance_storage_for_role`; nothing for a role that is not recorded. -/
def getInstanceStorageForRole (role : Text) (file : StorageFile) : List (List MountableVolume) :=
  match file.find role with
  | some entry => entry.instances
  | none => []

/-- `JsonVolumeManager.remove_instance_storage_for_role`. -/
def removeInstanceStorageForRole (role : Text) : Py StorageWorld Unit := fun world ↦
  match world.file.find role with
  | some _ => (.ok (), { world with file := world.file.delete (·.role = role) })
  | none => (.error (.keyError role), world)

/-! ### Volumes -/

/-- The dictionary from ids to volumes. -/
abbrev VolumesDict := Table Volume.id

/-- `Ec2Storage._get_ec2_volumes_dict`. -/
def getEc2VolumesDict (mountableVolumes : List (List MountableVolume)) :
    Py StorageWorld VolumesDict := do
  let world ← Py.get
  let volumeIds := mountableVolumes.flatten.map MountableVolume.volumeId
  let volumes ← Py.ofExcept (getAllVolumes world.volumes volumeIds)
  return volumes.foldl Table.insertOrReplace Table.empty

/-- `volumes_dict[volume_id]`. -/
def lookupVolume (volumes : VolumesDict) (volumeId : Text) : Except PyError Volume :=
  match volumes.find volumeId with
  | some volume => .ok volume
  | none => .error (.keyError volumeId)

/-- `Ec2Storage._print_volume`, up to what it prints. -/
def printVolume (volume : Volume) : Py StorageWorld Unit := do
  let _ ← Py.ofExcept volume.availabilityZone
  let _ ← Py.ofExcept volume.attachTime
  return ()

/-- The innermost loop body of `Ec2Storage.print_status`. -/
def printMountable (ec2Volumes : VolumesDict) (mountableVolume : MountableVolume) :
    Py StorageWorld Unit := do
  let volume ← Py.ofExcept (lookupVolume ec2Volumes mountableVolume.volumeId)
  printVolume volume

/-- `Ec2Storage.print_status` for one role. -/
def printRole (role : Text) : Py StorageWorld Unit := do
  let world ← Py.get
  let mountableVolumesList := getInstanceStorageForRole role world.file
  let ec2Volumes ← getEc2VolumesDict mountableVolumesList
  Py.forEach mountableVolumesList fun mountableVolumes ↦
    Py.forEach mountableVolumes (printMountable ec2Volumes)

/-- `Ec2Storage.print_status` with no argument. -/
def printStatus : Py StorageWorld Unit := do
  let world ← Py.get
  Py.forEach (getRoles world.file) printRole

/-- `volume.delete()`: EC2 notes the request and starts deleting the volume. -/
def deleteVolume (volume : Volume) : Py StorageWorld Unit :=
  Py.modify fun world ↦
    { world with
      volumes := world.volumes.map fun other ↦
        if other.id = volume.id then { other with status := .deleting } else other
      deleteRequests := world.deleteRequests ++ [volume.id] }

/-- `Ec2Storage.delete`; a volume that is not available ends it without an exception. -/
def delete : List Text → Py StorageWorld Unit
  | [] => Py.ret ()
  | role :: rest => do
    let world ← Py.get
    let ec2Volumes ← getEc2VolumesDict (getInstanceStorageForRole role world.file)
    if ec2Volumes.rows.any (·.status ≠ .available) then
      Py.ret ()
    else
      Py.forEach ec2Volumes.rows deleteVolume
      removeInstanceStorageForRole role
      delete rest

/-- The texts a loop over a text goes through. -/
def characters (text : Text) : List Text := text.map fun c ↦ [c]

/-- `Service.delete_storage`, with the answer at the prompt. -/
def deleteStorage (force answer : Bool) : Py StorageWorld Unit := do
  printStatus
  if !force && !answer then
    Py.ret ()
  else
    let world ← Py.get
    Py.forEach (getRoles world.file) fun role ↦ delete (characters role)

/-! ### What is recorded -/

/-- The ids of the recorded volumes. -/
def recordedIds (file : StorageFile) : List Text :=
  file.rows.flatMap fun entry ↦ entry.instances.flatten.map MountableVolume.volumeId

/-- The entry of a role in the file. -/
theorem getInstanceStorageForRole_of_mem {file : StorageFile} {entry : RoleStorage}
    (hentry : entry ∈ file.rows) :
    getInstanceStorageForRole entry.role file = entry.instances := by
  rw [getInstanceStorageForRole, (file.find_eq_some_iff entry.role entry).mpr ⟨hentry, rfl⟩]

/-- With no volume recorded every role has only instances without volumes. -/
theorem flatten_of_recordedIds_nil {file : StorageFile} (hnone : recordedIds file = [])
    (role : Text) : (getInstanceStorageForRole role file).flatten = [] := by
  unfold getInstanceStorageForRole
  split
  · rename_i entry hfind
    have hentry := ((file.find_eq_some_iff role entry).mp hfind).1
    exact List.map_eq_nil_iff.mp (List.flatMap_eq_nil_iff.mp hnone entry hentry)
  · rfl

/-! ### Printing the status -/

section Printing

variable {world : StorageWorld}

/-- The lookup of volumes changes nothing. -/
theorem getEc2VolumesDict_eq (world : StorageWorld)
    (mountableVolumes : List (List MountableVolume)) :
    getEc2VolumesDict mountableVolumes world =
      ((getAllVolumes world.volumes (mountableVolumes.flatten.map MountableVolume.volumeId)).map
        (List.foldl Table.insertOrReplace Table.empty), world) := by
  rw [getEc2VolumesDict, Py.bind_eq, Py.run_bind_ok (Py.run_get world), Py.bind_eq]
  cases getAllVolumes world.volumes (mountableVolumes.flatten.map MountableVolume.volumeId) <;> rfl

/-- The lookup of no id is the lookup of every volume of the account. -/
theorem getEc2VolumesDict_nil {mountableVolumes : List (List MountableVolume)}
    (hnone : mountableVolumes.flatten = []) : getEc2VolumesDict mountableVolumes world =
      (.ok (world.volumes.foldl Table.insertOrReplace Table.empty), world) := by
  rw [getEc2VolumesDict_eq, hnone]
  rfl

/-- Printing instances without volumes does nothing. -/
theorem forEach_of_flatten_nil {mountableVolumes : List (List MountableVolume)}
    (hnone : mountableVolumes.flatten = []) (body : MountableVolume → Py StorageWorld Unit) :
    Py.forEach mountableVolumes (fun volumes ↦ Py.forEach volumes body) world =
      (.ok (), world) := by
  rw [← Py.forEach_flatten, hnone, Py.forEach_nil]

/-- A role with no recorded volume is printed. -/
theorem printRole_returns {role : Text}
    (hnone : (getInstanceStorageForRole role world.file).flatten = []) :
    printRole role world = (.ok (), world) := by
  rw [printRole, Py.bind_eq, Py.run_bind_ok (Py.run_get world), Py.bind_eq,
    Py.run_bind_ok (getEc2VolumesDict_nil hnone), forEach_of_flatten_nil hnone]

/-- No recorded volume can be printed. -/
theorem printMountable_raises (world : StorageWorld) (ec2Volumes : VolumesDict)
    (mountableVolume : MountableVolume) :
    ∃ error, printMountable ec2Volumes mountableVolume world = (.error error, world) := by
  unfold printMountable
  cases hfound : lookupVolume ec2Volumes mountableVolume.volumeId with
  | ok volume => exact ⟨.attributeError "availabilityZone".toList, rfl⟩
  | error error => exact ⟨error, rfl⟩

/-- A role with a recorded volume cannot be printed. -/
theorem printRole_raises {role : Text}
    (hsome : (getInstanceStorageForRole role world.file).flatten ≠ []) :
    ∃ error, printRole role world = (.error error, world) := by
  have hlookup := getEc2VolumesDict_eq world (getInstanceStorageForRole role world.file)
  rw [printRole, Py.bind_eq, Py.run_bind_ok (Py.run_get world), Py.bind_eq]
  cases hvolumes : getAllVolumes world.volumes
      ((getInstanceStorageForRole role world.file).flatten.map MountableVolume.volumeId) with
  | error error =>
    rw [hvolumes] at hlookup
    rw [Py.run_bind_error hlookup]
    exact ⟨error, rfl⟩
  | ok volumes =>
    rw [hvolumes] at hlookup
    rw [Py.run_bind_ok hlookup, ← Py.forEach_flatten]
    obtain ⟨first, hfirst⟩ := List.exists_mem_of_ne_nil _ hsome
    refine Py.forEach_raises (fun volume _ ↦ Or.inr (printMountable_raises world _ volume))
      ⟨first, hfirst, ?_⟩
    obtain ⟨error, hraises⟩ := printMountable_raises world
      (volumes.foldl Table.insertOrReplace Table.empty) first
    simp [hraises]

/-- With no volume recorded the status is printed. -/
theorem printStatus_returns (hnone : recordedIds world.file = []) :
    printStatus world = (.ok (), world) := by
  rw [printStatus, Py.bind_eq, Py.run_bind_ok (Py.run_get world)]
  exact Py.forEach_unchanged fun role _ ↦ printRole_returns (flatten_of_recordedIds_nil hnone role)

/-- As soon as some volume is recorded the status cannot be printed. -/
theorem printStatus_raises (hsome : recordedIds world.file ≠ []) :
    ∃ error, printStatus world = (.error error, world) := by
  rw [printStatus, Py.bind_eq, Py.run_bind_ok (Py.run_get world)]
  refine Py.forEach_raises (fun role _ ↦ ?_) ?_
  · by_cases hflat : (getInstanceStorageForRole role world.file).flatten = []
    · exact Or.inl (printRole_returns hflat)
    · exact Or.inr (printRole_raises hflat)
  · obtain ⟨id, hid⟩ := List.exists_mem_of_ne_nil _ hsome
    obtain ⟨entry, hentry, hmem⟩ := List.mem_flatMap.mp hid
    refine ⟨entry.role, List.mem_map.mpr ⟨entry, hentry, rfl⟩, ?_⟩
    have hflat : (getInstanceStorageForRole entry.role world.file).flatten ≠ [] := by
      rw [getInstanceStorageForRole_of_mem hentry]
      rintro hempty
      simp [hempty] at hmem
    obtain ⟨error, hraises⟩ := printRole_raises hflat
    simp [hraises]

end Printing

end Ec2Wrappers.HadoopCloud
