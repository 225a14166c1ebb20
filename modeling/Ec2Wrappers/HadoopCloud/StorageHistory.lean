import Ec2Wrappers.Foundations.Runs
import Ec2Wrappers.HadoopCloud.StorageCreation

/-!
# The storage that calls of create-storage leave

A history of storage is a sequence of `create-storage` calls, each with what EC2 answers, and of
changes of EC2's volumes: a volume may change its status and its attachment, but not its id, and an
available volume is attached to nothing. In whatever the history leaves every volume id is recorded
once, EC2 has every recorded volume, and what a spec file may not contain is in no mount point and
no device (`wellStored_history`).
-/

set_option autoImplicit false
set_option relaxedAutoImplicit false

namespace Ec2Wrappers.HadoopCloud

open Foundations Aws

/-! ### Histories -/

/-- A call of `create-storage`, or a change of the account's volumes. -/
inductive StorageEvent
  | create (answers : CreateAnswers) (specFile : Except PyError SpecFile) (role : Text)
      (numberOfInstances : ℤ) (availabilityZone : Text)
  | change (update : Volume → Volume)

/-- The storage after an event. -/
def StorageWorld.next (world : StorageWorld) : StorageEvent → StorageWorld
  | .create answers specFile role numberOfInstances zone =>
    (runCreate answers specFile role numberOfInstances zone world).2.toStorageWorld
  | .change update => { world with volumes := world.volumes.map update }

/-- The mount points and the devices of a spec file pass a test. -/
def SpecPasses (passes : Text → Prop) (spec : SpecFile) : Prop :=
  ∀ entry ∈ spec, ∀ volume ∈ entry.2, passes volume.mountPoint ∧ passes volume.device

/-- EC2 gives fresh ids, keeps those it has given, and attaches no available volume. -/
def StorageEvent.Possible (passes : Text → Prop) (world : StorageWorld) : StorageEvent → Prop
  | .create answers specFile _ _ _ =>
    FreshAnswers answers world ∧ ∀ spec, specFile = .ok spec → SpecPasses passes spec
  | .change update => ∀ volume ∈ world.volumes, (update volume).id = volume.id ∧
      ((update volume).status = .available → (update volume).attachedTo = none)

/-- The step relation of histories. -/
def StorageStep (passes : Text → Prop) (before : StorageWorld) (event : StorageEvent)
    (after : StorageWorld) : Prop :=
  event.Possible passes before ∧ before.next event = after

/-! ### What a history leaves -/

/-- Every volume id is recorded once, every recorded volume exists, an available one is attached to
nothing, and the recorded texts pass the test. -/
structure WellStored (passes : Text → Prop) (world : StorageWorld) : Prop where
  ids_nodup : (world.volumes.map Volume.id).Nodup
  unattached : ∀ volume ∈ world.volumes, volume.status = .available → volume.attachedTo = none
  exist : ∀ role id, RecordedUnder role world.file id → ∃ volume ∈ world.volumes, volume.id = id
  distinct : ∀ role, ((getInstanceStorageForRole role world.file).flatten.map
    MountableVolume.volumeId).Nodup
  apart : ∀ role other id, RecordedUnder role world.file id → RecordedUnder other world.file id →
    role = other
  passed : ∀ role, ∀ mountable ∈ (getInstanceStorageForRole role world.file).flatten,
    passes mountable.mountPoint ∧ passes mountable.device

/-- During a call of `create-storage`: the ids still to come are fresh. -/
structure CreatingWell (passes : Text → Prop) (answers : CreateAnswers) (world : CreationWorld) :
    Prop where
  stored : WellStored passes world.toStorageWorld
  fresh : ∀ call id, world.calls ≤ call → answers call = some id →
    (∀ role, ¬ RecordedUnder role world.file id) ∧ ∀ volume ∈ world.volumes, volume.id ≠ id

section Creating

variable {passes : Text → Prop} {answers : CreateAnswers} {world : CreationWorld}

/-- The ids of newly created volumes are different. -/
theorem CreatedBy.ids_nodup {start : ℕ} {created : List Volume}
    (hdistinct : ∀ first second id, answers first = some id → answers second = some id →
      first = second) (hcreated : CreatedBy answers start created) :
    (created.map Volume.id).Nodup := by
  have hanswers : ((List.range' start created.length).map answers).Nodup := by
    refine List.Nodup.map_on (fun first hfirst second _ hsame ↦ ?_) List.nodup_range'
    have hmem : answers first ∈ created.map fun volume ↦ some volume.id := by
      rw [← hcreated.answered]
      exact List.mem_map_of_mem hfirst
    obtain ⟨volume, -, hanswer⟩ := List.mem_map.mp hmem
    exact hdistinct first second volume.id hanswer.symm (hsame.symm.trans hanswer.symm)
  rw [hcreated.answered] at hanswers
  exact List.Nodup.of_map some (by rwa [List.map_map])

/-- Some volumes more in the account. -/
theorem creatingWell_created {created : List Volume} {calls : ℕ}
    (hdistinct : ∀ first second id, answers first = some id → answers second = some id →
      first = second) (hwell : CreatingWell passes answers world)
    (hcreated : CreatedBy answers world.calls created)
    (hcalls : world.calls + created.length ≤ calls) :
    CreatingWell passes answers
      { world with volumes := world.volumes ++ created, calls := calls } where
  stored :=
    { hwell.stored with
      ids_nodup := by
        rw [List.map_append, List.nodup_append]
        refine ⟨hwell.stored.ids_nodup, hcreated.ids_nodup hdistinct, ?_⟩
        intro id hid other hother hsame
        obtain ⟨old, hold, rfl⟩ := List.mem_map.mp hid
        obtain ⟨new, hnew, rfl⟩ := List.mem_map.mp hother
        obtain ⟨call, hcall, -, hanswer⟩ := hcreated.exists_call hnew
        exact (hwell.fresh call _ hcall hanswer).2 old hold hsame
      unattached := by
        intro volume hvolume havailable
        rcases List.mem_append.mp hvolume with hold | hnew
        · exact hwell.stored.unattached volume hold havailable
        · exact hcreated.unattached volume hnew
      exist := by
        intro role id hrecorded
        obtain ⟨volume, hvolume, hid⟩ := hwell.stored.exist role id hrecorded
        exact ⟨volume, List.mem_append_left _ hvolume, hid⟩ }
  fresh := by
    intro call id hcall hanswer
    obtain ⟨hfile, hvolumes⟩ := hwell.fresh call id (by simp at hcall; omega) hanswer
    refine ⟨hfile, fun volume hvolume hid ↦ ?_⟩
    rcases List.mem_append.mp hvolume with hold | hnew
    · exact hvolumes volume hold hid
    · obtain ⟨earlier, -, hearlier, hsame⟩ := hcreated.exists_call hnew
      have heq : earlier = call := hdistinct _ _ _ hsame (hid ▸ hanswer)
      simp at hcall
      omega

/-- A group of volumes that nothing records yet is added to the file. -/
theorem wellStored_withInstanceStorage {storage : StorageWorld} {role : Text}
    {group : List MountableVolume} (hwell : WellStored passes storage)
    (hnodup : (group.map MountableVolume.volumeId).Nodup)
    (hnew : ∀ mountable ∈ group, ∀ other, ¬ RecordedUnder other storage.file mountable.volumeId)
    (hexist : ∀ mountable ∈ group, ∃ volume ∈ storage.volumes, volume.id = mountable.volumeId)
    (hpasses : ∀ mountable ∈ group, passes mountable.mountPoint ∧ passes mountable.device) :
    WellStored passes { storage with file := withInstanceStorage role group storage.file } where
  ids_nodup := hwell.ids_nodup
  unattached := hwell.unattached
  exist := by
    intro other id hrecorded
    rcases recordedUnder_withInstanceStorage.mp hrecorded with hold | ⟨-, hid⟩
    · exact hwell.exist other id hold
    · obtain ⟨mountable, hmountable, rfl⟩ := List.mem_map.mp hid
      exact hexist mountable hmountable
  distinct := by
    intro other
    rw [getInstanceStorageForRole_withInstanceStorage]
    split_ifs with hsame
    · rw [List.flatten_append, List.flatten_singleton, List.map_append, List.nodup_append]
      refine ⟨hwell.distinct role, hnodup, ?_⟩
      rintro id hid _ hgroup rfl
      obtain ⟨mountable, hmountable, rfl⟩ := List.mem_map.mp hgroup
      obtain ⟨old, hold, hkey⟩ := List.mem_map.mp hid
      obtain ⟨oldGroup, holdGroup, hmem⟩ := List.mem_flatten.mp hold
      exact hnew mountable hmountable role ⟨oldGroup, holdGroup, old, hmem, hkey⟩
    · exact hwell.distinct other
  apart := by
    intro first second id hfirst hsecond
    have hgroup (other : Text) (hold : RecordedUnder other storage.file id) :
        id ∉ group.map MountableVolume.volumeId := by
      intro hid
      obtain ⟨mountable, hmountable, rfl⟩ := List.mem_map.mp hid
      exact hnew mountable hmountable other hold
    rcases recordedUnder_withInstanceStorage.mp hfirst with hold | ⟨rfl, hnewFirst⟩
    · rcases recordedUnder_withInstanceStorage.mp hsecond with hold' | ⟨-, hnewSecond⟩
      · exact hwell.apart first second id hold hold'
      · exact absurd hnewSecond (hgroup first hold)
    · rcases recordedUnder_withInstanceStorage.mp hsecond with hold' | ⟨rfl, -⟩
      · exact absurd hnewFirst (hgroup second hold')
      · rfl
  passed := by
    intro other mountable
    rw [getInstanceStorageForRole_withInstanceStorage]
    split_ifs with hsame
    · rw [List.flatten_append, List.flatten_singleton, List.mem_append]
      rintro (hold | hgroup)
      · exact hwell.passed role mountable hold
      · exact hpasses mountable hgroup
    · exact hwell.passed other mountable

/-- A group of newly created volumes is added to the file. -/
theorem creatingWell_recorded {created : List Volume} {mountables : List MountableVolume}
    {role : Text} (hdistinct : ∀ first second id, answers first = some id →
      answers second = some id → first = second)
    (hwell : CreatingWell passes answers world) (hcreated : CreatedBy answers world.calls created)
    (hids : mountables.map MountableVolume.volumeId = created.map Volume.id)
    (hpasses : ∀ mountable ∈ mountables, passes mountable.mountPoint ∧ passes mountable.device) :
    CreatingWell passes answers
      { world with
        volumes := world.volumes ++ created
        file := withInstanceStorage role mountables world.file
        calls := world.calls + created.length } := by
  have hafter := creatingWell_created hdistinct hwell hcreated le_rfl
  have hvolume {mountable : MountableVolume} (hmountable : mountable ∈ mountables) :
      ∃ volume ∈ created, volume.id = mountable.volumeId := by
    have hid : mountable.volumeId ∈ mountables.map MountableVolume.volumeId :=
      List.mem_map_of_mem hmountable
    rw [hids] at hid
    exact List.mem_map.mp hid
  constructor
  · refine wellStored_withInstanceStorage hafter.stored (hids ▸ hcreated.ids_nodup hdistinct)
      (fun mountable hmountable ↦ ?_) (fun mountable hmountable ↦ ?_) hpasses
    · obtain ⟨volume, hmem, hid⟩ := hvolume hmountable
      obtain ⟨call, hcall, -, hanswer⟩ := hcreated.exists_call hmem
      exact (hwell.fresh call _ hcall (hid ▸ hanswer)).1
    · obtain ⟨volume, hmem, hid⟩ := hvolume hmountable
      exact ⟨volume, List.mem_append_right _ hmem, hid⟩
  · intro call id hcall hanswer
    obtain ⟨hfile, hvolumes⟩ := hafter.fresh call id hcall hanswer
    refine ⟨fun other hrecorded ↦ ?_, hvolumes⟩
    rcases recordedUnder_withInstanceStorage.mp hrecorded with hold | ⟨-, hid⟩
    · exact hfile other hold
    · rw [hids] at hid
      obtain ⟨volume, hmem, hsame⟩ := List.mem_map.mp hid
      exact hvolumes volume (List.mem_append_right _ hmem) hsame

/-- One instance of `create-storage` leaves the storage well, whether its volumes are all created or
not. -/
theorem keeps_createForInstance {spec : SpecFile} {role zone : Text}
    (hdistinct : ∀ first second id, answers first = some id → answers second = some id →
      first = second) (hspec : SpecPasses passes spec) :
    Py.Keeps (CreatingWell passes answers) (createForInstance answers spec role zone) := by
  refine Py.keeps_ofExcept_bind fun specs hspecs world hwell ↦ ?_
  obtain ⟨created, hcreated, houtcome⟩ := createVolumes_cases answers zone specs world
  rcases houtcome with ⟨mountables, -, hids, hplaces, hrun⟩ | ⟨error, -, -, hrun⟩
  · rw [Py.bind_eq, Py.run_bind_ok hrun, addInstanceStorageForRole, Py.run_modify]
    refine creatingWell_recorded hdistinct hwell hcreated hids fun mountable hmountable ↦ ?_
    have hplace : mountable.place ∈ specs.map VolumeSpec.place := by
      rw [← hplaces]
      exact List.mem_map_of_mem hmountable
    obtain ⟨volume, hvolume, hsame⟩ := List.mem_map.mp hplace
    have hentry : (role, specs) ∈ spec := by
      unfold volumeSpecsForRole at hspecs
      split at hspecs
      · next found hlookup =>
        cases hspecs
        obtain ⟨before, after, rfl, -⟩ := List.lookup_eq_some_iff.mp hlookup
        simp
      · cases hspecs
    obtain ⟨hmount, hdevice⟩ := Prod.mk.inj hsame
    exact hmount ▸ hdevice ▸ hspec _ hentry volume hvolume
  · rw [Py.bind_eq, Py.run_bind_error hrun]
    exact creatingWell_created hdistinct hwell hcreated (Nat.le_succ _)

end Creating

/-! ### Whole histories -/

/-- One event leaves the storage well. -/
theorem wellStored_step {passes : Text → Prop} {before after : StorageWorld} {event : StorageEvent}
    (hstep : StorageStep passes before event after) (hwell : WellStored passes before) :
    WellStored passes after := by
  obtain ⟨hpossible, rfl⟩ := hstep
  cases event with
  | create answers specFile role numberOfInstances zone =>
    obtain ⟨hfresh, hspecs⟩ := hpossible
    have hstart : CreatingWell passes answers ⟨before, 0⟩ := by
      refine ⟨hwell, fun call id _ hanswer ↦ ?_⟩
      obtain ⟨hfile, hvolumes⟩ := hfresh.notTaken call id hanswer
      exact ⟨fun role hrecorded ↦ hfile (mem_recordedIds.mpr ⟨role, hrecorded⟩), hvolumes⟩
    have hkeeps : Py.Keeps (CreatingWell passes answers)
        (create answers specFile role numberOfInstances zone) :=
      Py.keeps_ofExcept_bind fun spec hspec ↦ Py.keeps_forEach _ fun _ _ ↦
        keeps_createForInstance hfresh.distinct (hspecs spec hspec)
    exact (hkeeps ⟨before, 0⟩ hstart).stored
  | change update =>
    have hids : (before.volumes.map update).map Volume.id = before.volumes.map Volume.id := by
      rw [List.map_map]
      exact List.map_congr_left fun volume hvolume ↦ (hpossible volume hvolume).1
    refine { hwell with ids_nodup := ?_, unattached := ?_, exist := ?_ }
    · exact hids.symm ▸ hwell.ids_nodup
    · intro volume hvolume havailable
      obtain ⟨old, hold, rfl⟩ := List.mem_map.mp hvolume
      exact (hpossible old hold).2 havailable
    · intro role id hrecorded
      obtain ⟨volume, hvolume, hid⟩ := hwell.exist role id hrecorded
      exact ⟨update volume, List.mem_map_of_mem hvolume, (hpossible volume hvolume).1.trans hid⟩

/-- With no storage file the storage is well when the account's volumes are. -/
theorem wellStored_empty {passes : Text → Prop} {volumes : List Volume} {deleteRequests : List Text}
    (hids : (volumes.map Volume.id).Nodup)
    (hunattached : ∀ volume ∈ volumes, volume.status = .available → volume.attachedTo = none) :
    WellStored passes ⟨Table.empty, volumes, deleteRequests⟩ where
  ids_nodup := hids
  unattached := hunattached
  exist _ _ := fun ⟨_, hgroup, _⟩ ↦ absurd hgroup List.not_mem_nil
  distinct _ := List.nodup_nil
  apart _ _ _ := fun ⟨_, hgroup, _⟩ ↦ absurd hgroup List.not_mem_nil
  passed _ _ hmountable := absurd hmountable List.not_mem_nil

/-- Whatever a history leaves is well. -/
theorem wellStored_history {passes : Text → Prop} {first last : StorageWorld}
    {events : List StorageEvent} (hrun : Run (StorageStep passes) first events last)
    (hwell : WellStored passes first) : WellStored passes last :=
  hrun.invariant (fun _ _ _ hstep hbefore ↦ wellStored_step hstep hbefore) hwell

end Ec2Wrappers.HadoopCloud
