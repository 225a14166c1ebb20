import Ec2Wrappers.HadoopCloud.Storage

/-!
# The creation of storage

`Ec2Storage.create` with `JsonVolumeSpecManager.volume_specs_for_role` and
`JsonVolumeManager.add_instance_storage_for_role`. The spec file, read or not, is a parameter, and
so are EC2's answers: the id of the new volume or a refusal, for each call of `create_volume` of the
run.

A volume is recorded only with its group, after the inner loop. `createVolumes_cases` says what the
inner loop leaves in both outcomes. So all volumes that EC2 has created are recorded exactly when
the first call that fails, if one does, is the first one of its group (`remembers_create_iff`).
-/

set_option autoImplicit false
set_option relaxedAutoImplicit false

namespace Ec2Wrappers.HadoopCloud

open Foundations Aws

/-! ### Creating volumes -/

/-- `VolumeSpec`. -/
structure VolumeSpec where
  size : ℕ
  mountPoint : Text
  device : Text
  snapshotId : Option Text
  deriving DecidableEq, Repr

/-- Where a volume goes: its mount point and its device. -/
def VolumeSpec.place (spec : VolumeSpec) : Text × Text := (spec.mountPoint, spec.device)

/-- Where a recorded volume goes. -/
def MountableVolume.place (mountable : MountableVolume) : Text × Text :=
  (mountable.mountPoint, mountable.device)

/-- What `JsonVolumeSpecManager` reads: the volumes of an instance, for each role. -/
abbrev SpecFile := List (Text × List VolumeSpec)

/-- `JsonVolumeSpecManager.volume_specs_for_role`. -/
def volumeSpecsForRole (spec : SpecFile) (role : Text) : Except PyError (List VolumeSpec) :=
  match spec.lookup role with
  | some specs => .ok specs
  | none => .error (.keyError role)

/-- The storage world with the number of `create_volume` calls made so far. -/
structure CreationWorld extends StorageWorld where
  calls : ℕ

/-- EC2's answers: for each call the id of the new volume, or none when it fails. -/
abbrev CreateAnswers := ℕ → Option Text

/-- `create_volume`. -/
def createVolume (answers : CreateAnswers) (availabilityZone : Text) (spec : VolumeSpec) :
    Py CreationWorld Volume := fun world ↦
  match answers world.calls with
  | some id =>
    let volume : Volume := ⟨id, .creating, spec.size, spec.snapshotId, availabilityZone, none⟩
    (.ok volume, { world with volumes := world.volumes ++ [volume], calls := world.calls + 1 })
  | none =>
    (.error (.library "EC2ResponseError".toList []), { world with calls := world.calls + 1 })

/-- The loop over the specs of an instance in `Ec2Storage.create`. -/
def createVolumes (answers : CreateAnswers) (availabilityZone : Text) :
    List VolumeSpec → Py CreationWorld (List MountableVolume)
  | [] => Py.ret []
  | spec :: rest => do
    let volume ← createVolume answers availabilityZone spec
    let others ← createVolumes answers availabilityZone rest
    return ⟨volume.id, spec.mountPoint, spec.device⟩ :: others

/-- The file with one group more. -/
def withInstanceStorage (role : Text) (mountableVolumes : List MountableVolume)
    (file : StorageFile) : StorageFile :=
  file.insertOrReplace ⟨role, getInstanceStorageForRole role file ++ [mountableVolumes]⟩

/-- `JsonVolumeManager.add_instance_storage_for_role`. -/
def addInstanceStorageForRole (role : Text) (mountableVolumes : List MountableVolume) :
    Py CreationWorld Unit :=
  Py.modify fun world ↦ { world with file := withInstanceStorage role mountableVolumes world.file }

/-- The body of the outer loop of `Ec2Storage.create`. -/
def createForInstance (answers : CreateAnswers) (spec : SpecFile) (role availabilityZone : Text) :
    Py CreationWorld Unit := do
  let volumeSpecs ← Py.ofExcept (volumeSpecsForRole spec role)
  let mountableVolumes ← createVolumes answers availabilityZone volumeSpecs
  addInstanceStorageForRole role mountableVolumes

/-- `Ec2Storage.create`. -/
def create (answers : CreateAnswers) (specFile : Except PyError SpecFile) (role : Text)
    (numberOfInstances : ℤ) (availabilityZone : Text) : Py CreationWorld Unit := do
  let spec ← Py.ofExcept specFile
  Py.forEach (List.range numberOfInstances.toNat) fun _ ↦
    createForInstance answers spec role availabilityZone

/-- A call of `Ec2Storage.create`. -/
def runCreate (answers : CreateAnswers) (specFile : Except PyError SpecFile) (role : Text)
    (numberOfInstances : ℤ) (availabilityZone : Text) (world : StorageWorld) :
    Except PyError Unit × CreationWorld :=
  create answers specFile role numberOfInstances availabilityZone ⟨world, 0⟩

/-! ### What a call is to leave -/

/-- The volume is recorded under the role. -/
def RecordedUnder (role : Text) (file : StorageFile) (volumeId : Text) : Prop :=
  ∃ group ∈ getInstanceStorageForRole role file, ∃ mountable ∈ group, mountable.volumeId = volumeId

/-- Every volume that has been created is recorded under the role, and every entry of the file is
still there. -/
structure Remembers (role : Text) (before after : StorageWorld) : Prop where
  recorded : ∀ volume ∈ after.volumes, volume ∈ before.volumes ∨
    RecordedUnder role after.file volume.id
  kept : ∀ entry ∈ before.file.rows, ∃ later ∈ after.file.rows,
    later.role = entry.role ∧ entry.instances <+: later.instances

/-- EC2 gives every volume an id of its own, which nothing has. -/
structure FreshAnswers (answers : CreateAnswers) (world : StorageWorld) : Prop where
  distinct : ∀ first second id, answers first = some id → answers second = some id → first = second
  notTaken : ∀ call id, answers call = some id →
    id ∉ recordedIds world.file ∧ ∀ volume ∈ world.volumes, volume.id ≠ id

/-- The first failing call is this one, from the given call on. -/
def FirstFailure (answers : CreateAnswers) (start call : ℕ) : Prop :=
  answers (start + call) = none ∧ ∀ earlier < call, answers (start + earlier) ≠ none

/-- The number of volumes of an instance. -/
def volumesPerInstance (specFile : Except PyError SpecFile) (role : Text) : ℕ :=
  match specFile with
  | .ok spec => ((spec.lookup role).getD []).length
  | .error _ => 0

/-- The first of some calls that fails, if one does, is the first one of its group. -/
def FailsBetweenGroups (answers : CreateAnswers) (start perInstance count : ℕ) : Prop :=
  ∀ call < count * perInstance, FirstFailure answers start call → call % perInstance = 0

/-! ### What the inner loop leaves -/

section Creating

variable {answers : CreateAnswers} {zone role : Text} {world : CreationWorld}

/-- The volumes are those that the calls from some call on have created, attached to nothing. -/
structure CreatedBy (answers : CreateAnswers) (start : ℕ) (created : List Volume) : Prop where
  answered : (List.range' start created.length).map answers =
    created.map fun volume ↦ some volume.id
  unattached : ∀ volume ∈ created, volume.attachedTo = none

/-- With one volume more in front. -/
theorem createdBy_cons {start : ℕ} {volume : Volume} {created : List Volume}
    (hanswer : answers start = some volume.id) (hunattached : volume.attachedTo = none)
    (hcreated : CreatedBy answers (start + 1) created) :
    CreatedBy answers start (volume :: created) where
  answered := by
    rw [List.length_cons, List.range'_succ, List.map_cons, List.map_cons, hanswer,
      hcreated.answered]
  unattached := List.forall_mem_cons.mpr ⟨hunattached, hcreated.unattached⟩

/-- None of the calls has failed. -/
theorem CreatedBy.answers_ne_none {start : ℕ} {created : List Volume}
    (hcreated : CreatedBy answers start created) :
    ∀ call < created.length, answers (start + call) ≠ none := by
  intro call hcall hnone
  have hmem : answers (start + call) ∈ (List.range' start created.length).map answers :=
    List.mem_map_of_mem (List.mem_range'_1.mpr ⟨by omega, by omega⟩)
  rw [hcreated.answered, hnone] at hmem
  simp at hmem

/-- Every volume is the answer to one of the calls. -/
theorem CreatedBy.exists_call {start : ℕ} {created : List Volume}
    (hcreated : CreatedBy answers start created) {volume : Volume} (hvolume : volume ∈ created) :
    ∃ call, start ≤ call ∧ call < start + created.length ∧ answers call = some volume.id := by
  have hmem : some volume.id ∈ created.map fun volume ↦ some volume.id :=
    List.mem_map_of_mem hvolume
  rw [← hcreated.answered] at hmem
  obtain ⟨call, hcall, hanswer⟩ := List.mem_map.mp hmem
  obtain ⟨hstart, hend⟩ := List.mem_range'_1.mp hcall
  exact ⟨call, hstart, hend, hanswer⟩

/-- The inner loop creates all its volumes, or those before the first call that fails. -/
theorem createVolumes_cases (answers : CreateAnswers) (zone : Text) (specs : List VolumeSpec)
    (world : CreationWorld) : ∃ created, CreatedBy answers world.calls created ∧
      ((∃ mountables : List MountableVolume, created.length = specs.length ∧
          mountables.map MountableVolume.volumeId = created.map Volume.id ∧
          mountables.map MountableVolume.place = specs.map VolumeSpec.place ∧
          createVolumes answers zone specs world = (.ok mountables,
            { world with
              volumes := world.volumes ++ created
              calls := world.calls + created.length })) ∨
        ∃ error, created.length < specs.length ∧ answers (world.calls + created.length) = none ∧
          createVolumes answers zone specs world = (.error error,
            { world with
              volumes := world.volumes ++ created
              calls := world.calls + created.length + 1 })) := by
  induction specs generalizing world with
  | nil =>
    refine ⟨[], ⟨rfl, by simp⟩, .inl ⟨[], rfl, rfl, rfl, ?_⟩⟩
    rw [createVolumes, List.append_nil]
    rfl
  | cons spec rest ih =>
    rw [createVolumes, Py.bind_eq]
    cases hanswer : answers world.calls with
    | none =>
      refine ⟨[], ⟨rfl, by simp⟩, .inr ⟨.library "EC2ResponseError".toList [],
        Nat.zero_lt_succ _, hanswer, ?_⟩⟩
      have hfails : createVolume answers zone spec world =
          (.error (.library "EC2ResponseError".toList []),
            { world with calls := world.calls + 1 }) := by
        rw [createVolume, hanswer]
      rw [Py.run_bind_error hfails, List.append_nil]
      rfl
    | some id =>
      let volume : Volume := ⟨id, .creating, spec.size, spec.snapshotId, zone, none⟩
      let next : CreationWorld :=
        { world with volumes := world.volumes ++ [volume], calls := world.calls + 1 }
      have hcreates : createVolume answers zone spec world = (.ok volume, next) := by
        rw [createVolume, hanswer]
      rw [Py.run_bind_ok hcreates, Py.bind_eq]
      obtain ⟨created, hcreated, houtcome⟩ := ih next
      refine ⟨volume :: created, createdBy_cons hanswer rfl hcreated, ?_⟩
      have hvolumes : next.volumes ++ created = world.volumes ++ volume :: created :=
        List.append_assoc _ _ _
      have hcalls : next.calls + created.length = world.calls + (volume :: created).length := by
        change world.calls + 1 + created.length = _
        rw [List.length_cons]
        omega
      rcases houtcome with ⟨mountables, hlength, hids, hplaces, hrun⟩ |
        ⟨error, hlength, hfails, hrun⟩
      · refine .inl ⟨⟨id, spec.mountPoint, spec.device⟩ :: mountables, by simp [hlength],
          by simp [hids, volume], by
          simp [hplaces, MountableVolume.place, VolumeSpec.place], ?_⟩
        rw [Py.run_bind_ok hrun, hvolumes, hcalls]
        rfl
      · refine .inr ⟨error, by simpa using hlength, hcalls ▸ hfails, ?_⟩
        rw [Py.run_bind_error hrun, hvolumes, hcalls]

/-! ### What is recorded -/

/-- The entry of a role after a group has been added to it. -/
theorem getInstanceStorageForRole_withInstanceStorage (role other : Text)
    (group : List MountableVolume) (file : StorageFile) :
    getInstanceStorageForRole other (withInstanceStorage role group file) =
      if other = role then getInstanceStorageForRole role file ++ [group]
      else getInstanceStorageForRole other file := by
  rw [getInstanceStorageForRole, withInstanceStorage, Table.find_insertOrReplace]
  split_ifs with hsame <;> rfl

/-- A recorded id is recorded under a role. -/
theorem mem_recordedIds {file : StorageFile} {id : Text} :
    id ∈ recordedIds file ↔ ∃ role, RecordedUnder role file id := by
  simp only [recordedIds, List.mem_flatMap, List.mem_map, List.mem_flatten]
  constructor
  · rintro ⟨entry, hentry, mountable, ⟨group, hgroup, hmountable⟩, hid⟩
    refine ⟨entry.role, group, ?_, mountable, hmountable, hid⟩
    rwa [getInstanceStorageForRole_of_mem hentry]
  · rintro ⟨role, group, hgroup, mountable, hmountable, hid⟩
    unfold getInstanceStorageForRole at hgroup
    split at hgroup
    · next entry hfind =>
      have hentry := ((file.find_eq_some_iff role entry).mp hfind).1
      exact ⟨entry, hentry, mountable, ⟨group, hgroup, hmountable⟩, hid⟩
    · exact absurd hgroup List.not_mem_nil

/-- What is recorded under a role after a group has been added. -/
theorem recordedUnder_withInstanceStorage {group : List MountableVolume} {file : StorageFile}
    {other id : Text} : RecordedUnder other (withInstanceStorage role group file) id ↔
      RecordedUnder other file id ∨ other = role ∧ id ∈ group.map MountableVolume.volumeId := by
  unfold RecordedUnder
  rw [getInstanceStorageForRole_withInstanceStorage]
  split_ifs with hsame
  · subst hsame
    simp [or_and_right, exists_or]
  · simp [hsame]

/-- The entries are kept when a group is added. -/
theorem kept_withInstanceStorage (role : Text) (group : List MountableVolume) (file : StorageFile) :
    ∀ entry ∈ file.rows, ∃ later ∈ (withInstanceStorage role group file).rows,
      later.role = entry.role ∧ entry.instances <+: later.instances := by
  intro entry hentry
  by_cases hrole : entry.role = role
  · refine ⟨_, (Table.mem_insertOrReplace _ _ _).mpr (.inr rfl), hrole.symm, ?_⟩
    rw [← hrole, getInstanceStorageForRole_of_mem hentry]
    exact List.prefix_append _ _
  · exact ⟨entry, (Table.mem_insertOrReplace _ _ _).mpr (.inl ⟨hentry, hrole⟩), rfl,
      List.prefix_refl _⟩

/-! ### The outer loop -/

/-- Between two instances every volume is recorded, and nothing has the ids still to come. -/
structure BetweenInstances (answers : CreateAnswers) (role : Text) (before : StorageWorld)
    (world : CreationWorld) : Prop where
  remembers : Remembers role before world.toStorageWorld
  volumes : before.volumes ⊆ world.volumes
  fresh : ∀ call id, world.calls ≤ call → answers call = some id →
    id ∉ recordedIds world.file ∧ ∀ volume ∈ world.volumes, volume.id ≠ id

/-- An instance whose volumes are all created is recorded with them. -/
theorem betweenInstances_next {before : StorageWorld} {created : List Volume}
    {mountables : List MountableVolume} (hdistinct : ∀ first second id,
      answers first = some id → answers second = some id → first = second)
    (hbetween : BetweenInstances answers role before world)
    (hcreated : CreatedBy answers world.calls created)
    (hids : mountables.map MountableVolume.volumeId = created.map Volume.id) :
    BetweenInstances answers role before
      { world with
        volumes := world.volumes ++ created
        file := withInstanceStorage role mountables world.file
        calls := world.calls + created.length } where
  remembers :=
    { recorded := by
        intro volume hvolume
        rcases List.mem_append.mp hvolume with hold | hnew
        · exact (hbetween.remembers.recorded volume hold).imp_right fun hrecorded ↦
            recordedUnder_withInstanceStorage.mpr (.inl hrecorded)
        · refine .inr (recordedUnder_withInstanceStorage.mpr (.inr ⟨rfl, ?_⟩))
          rw [hids]
          exact List.mem_map_of_mem hnew
      kept := by
        intro entry hentry
        obtain ⟨middle, hmiddle, hrole, hfirst⟩ := hbetween.remembers.kept entry hentry
        obtain ⟨later, hlater, hrole', hsecond⟩ :=
          kept_withInstanceStorage role mountables world.file middle hmiddle
        exact ⟨later, hlater, hrole'.trans hrole, hfirst.trans hsecond⟩ }
  volumes := fun _ hvolume ↦ List.mem_append_left _ (hbetween.volumes hvolume)
  fresh := by
    intro call id hcall hanswer
    have hlater : world.calls ≤ call := le_of_add_le_left hcall
    obtain ⟨hfile, hvolumes⟩ := hbetween.fresh call id hlater hanswer
    -- the id of a new volume is the answer to an earlier call
    have hnew : ∀ volume ∈ created, volume.id ≠ id := by
      rintro volume hvolume rfl
      obtain ⟨earlier, -, hearlier, hsame⟩ := hcreated.exists_call hvolume
      have heq : earlier = call := hdistinct _ _ _ hsame hanswer
      change world.calls + created.length ≤ call at hcall
      omega
    refine ⟨fun hmem ↦ ?_, fun volume hvolume ↦ ?_⟩
    · obtain ⟨other, hother⟩ := mem_recordedIds.mp hmem
      rcases recordedUnder_withInstanceStorage.mp hother with hold | ⟨-, hgroup⟩
      · exact hfile (mem_recordedIds.mpr ⟨other, hold⟩)
      · rw [hids] at hgroup
        obtain ⟨volume, hvolume, hid⟩ := List.mem_map.mp hgroup
        exact hnew volume hvolume hid
    · rcases List.mem_append.mp hvolume with hold | hcreated
      · exact hvolumes volume hold
      · exact hnew volume hcreated

/-- Without the group of an instance, what was created for it is recorded only if that is nothing.
-/
theorem remembers_unrecorded_iff {before : StorageWorld} {created : List Volume} {calls : ℕ}
    (hbetween : BetweenInstances answers role before world)
    (hcreated : CreatedBy answers world.calls created) :
    Remembers role before
      (CreationWorld.toStorageWorld
        { world with volumes := world.volumes ++ created, calls := calls }) ↔
      created = [] := by
  constructor
  · intro hremembers
    by_contra hsome
    obtain ⟨volume, hvolume⟩ := List.exists_mem_of_ne_nil created hsome
    obtain ⟨call, hcall, -, hanswer⟩ := hcreated.exists_call hvolume
    obtain ⟨hfile, hvolumes⟩ := hbetween.fresh call _ hcall hanswer
    rcases hremembers.recorded volume (List.mem_append_right _ hvolume) with hold | hrecorded
    · exact hvolumes volume (hbetween.volumes hold) rfl
    · exact hfile (mem_recordedIds.mpr ⟨role, hrecorded⟩)
  · rintro rfl
    rw [List.append_nil]
    exact hbetween.remembers

/-! ### The first failure -/

/-- There is only one first failure. -/
theorem firstFailure_unique {start first second : ℕ} (hfirst : FirstFailure answers start first)
    (hsecond : FirstFailure answers start second) : first = second := by
  rcases lt_trichotomy first second with hlt | heq | hlt
  · exact absurd hfirst.1 (hsecond.2 first hlt)
  · exact heq
  · exact absurd hsecond.1 (hfirst.2 second hlt)

/-- After a group without a failure the calls of the groups after it count. -/
theorem failsBetweenGroups_succ {start perInstance count : ℕ}
    (hgroup : ∀ call < perInstance, answers (start + call) ≠ none) :
    FailsBetweenGroups answers start perInstance (count + 1) ↔
      FailsBetweenGroups answers (start + perInstance) perInstance count := by
  have hshift (call : ℕ) : FirstFailure answers start (perInstance + call) ↔
      FirstFailure answers (start + perInstance) call := by
    unfold FirstFailure
    rw [Nat.add_assoc]
    refine and_congr_right fun _ ↦ ⟨fun hearlier earlier hlt ↦ ?_, fun hearlier earlier hlt ↦ ?_⟩
    · rw [Nat.add_assoc]
      exact hearlier _ (by omega)
    · by_cases hfirst : earlier < perInstance
      · exact hgroup earlier hfirst
      · obtain ⟨rest, rfl⟩ := Nat.exists_eq_add_of_le (not_lt.mp hfirst)
        rw [← Nat.add_assoc]
        exact hearlier rest (by omega)
  have hcount : (count + 1) * perInstance = perInstance + count * perInstance := by ring
  unfold FailsBetweenGroups
  rw [hcount]
  constructor
  · intro hfails call hcall hfailure
    have hmod := hfails (perInstance + call) (by omega) ((hshift call).mpr hfailure)
    rwa [Nat.add_mod_left] at hmod
  · intro hfails call hcall hfailure
    by_cases hfirst : call < perInstance
    · exact absurd hfailure.1 (hgroup call hfirst)
    · obtain ⟨rest, rfl⟩ := Nat.exists_eq_add_of_le (not_lt.mp hfirst)
      rw [Nat.add_mod_left]
      exact hfails rest (by omega) ((hshift rest).mp hfailure)

/-! ### The whole call -/

/-- From between two instances the rest of the loop remembers every volume exactly when its first
failing call is the first one of its group. -/
theorem remembers_forEach_iff {spec : SpecFile} {specs : List VolumeSpec} {before : StorageWorld}
    (hdistinct : ∀ first second id, answers first = some id → answers second = some id →
      first = second) (hspecs : volumeSpecsForRole spec role = .ok specs) (instances : List ℕ)
    (hbetween : BetweenInstances answers role before world) :
    Remembers role before (Py.forEach instances
        (fun _ ↦ createForInstance answers spec role zone) world).2.toStorageWorld ↔
      FailsBetweenGroups answers world.calls specs.length instances.length := by
  induction instances generalizing world with
  | nil =>
    refine iff_of_true hbetween.remembers fun call hcall _ ↦ ?_
    simp at hcall
  | cons index rest ih =>
    obtain ⟨created, hcreated, houtcome⟩ := createVolumes_cases answers zone specs world
    have hbody : createForInstance answers spec role zone world =
        Py.bind (createVolumes answers zone specs) (addInstanceStorageForRole role) world := by
      rw [createForInstance, hspecs]
      rfl
    rw [Py.forEach_cons]
    rcases houtcome with ⟨mountables, hlength, hids, -, hrun⟩ | ⟨error, hlength, hfails, hrun⟩
    · have hreturns := hbody.trans (Py.run_bind_ok hrun _)
      rw [addInstanceStorageForRole, Py.run_modify] at hreturns
      rw [Py.run_bind_ok hreturns, ih (betweenInstances_next hdistinct hbetween hcreated hids),
        List.length_cons, ← hlength, failsBetweenGroups_succ hcreated.answers_ne_none]
    · have hraises := hbody.trans (Py.run_bind_error hrun _)
      have hfailure : FirstFailure answers world.calls created.length :=
        ⟨hfails, hcreated.answers_ne_none⟩
      rw [Py.run_bind_error hraises, remembers_unrecorded_iff hbetween hcreated]
      constructor
      · rintro rfl call - hcall
        rw [← firstFailure_unique hfailure hcall]
        exact Nat.zero_mod _
      · intro hbetweenGroups
        have hbound : created.length < (index :: rest).length * specs.length := by
          rw [List.length_cons, Nat.succ_mul]
          omega
        have hmod := hbetweenGroups _ hbound hfailure
        rw [Nat.mod_eq_of_lt hlength] at hmod
        exact List.eq_nil_of_length_eq_zero hmod

end Creating

/-- Every volume created is recorded, and every entry kept, exactly when the first call of
`create_volume` that fails, if one does, is the first one of its group. -/
theorem remembers_create_iff {answers : CreateAnswers} {specFile : Except PyError SpecFile}
    {role zone : Text} {numberOfInstances : ℤ} {world : StorageWorld}
    (hfresh : FreshAnswers answers world) :
    Remembers role world
        (runCreate answers specFile role numberOfInstances zone world).2.toStorageWorld ↔
      FailsBetweenGroups answers 0 (volumesPerInstance specFile role) numberOfInstances.toNat := by
  have hbetween : BetweenInstances answers role world ⟨world, 0⟩ :=
    { remembers := ⟨fun volume hvolume ↦ .inl hvolume,
        fun entry hentry ↦ ⟨entry, hentry, rfl, List.prefix_refl _⟩⟩
      volumes := fun _ hvolume ↦ hvolume
      fresh := fun call id _ hanswer ↦ hfresh.notTaken call id hanswer }
  -- where nothing is created, nothing is forgotten
  have hnothing (count : ℕ) : Remembers role world (⟨world, 0⟩ : CreationWorld).toStorageWorld ↔
      FailsBetweenGroups answers 0 0 count :=
    iff_of_true hbetween.remembers fun call hcall _ ↦ by simp at hcall
  unfold runCreate create
  cases specFile with
  | error error => exact hnothing _
  | ok spec =>
    rw [Py.bind_eq, Py.run_bind_ok (Py.run_ofExcept _ _)]
    cases hspecs : spec.lookup role with
    | none =>
      have hraises : volumeSpecsForRole spec role = .error (.keyError role) := by
        rw [volumeSpecsForRole, hspecs]
      have hkept : (Py.forEach (List.range numberOfInstances.toNat)
          (fun _ ↦ createForInstance answers spec role zone) ⟨world, 0⟩).2 = ⟨world, 0⟩ := by
        refine @Py.keeps_forEach _ _ (· = (⟨world, 0⟩ : CreationWorld)) _ _
          (fun _ _ store hstore ↦ ?_) _ rfl
        rw [createForInstance, hraises]
        exact hstore
      have hcount : volumesPerInstance (.ok spec) role = 0 := by
        rw [volumesPerInstance, hspecs]
        rfl
      rw [hkept, hcount]
      exact hnothing _
    | some specs =>
      have hrole : volumeSpecsForRole spec role = .ok specs := by
        rw [volumeSpecsForRole, hspecs]
      have hcount : volumesPerInstance (.ok spec) role = specs.length := by
        rw [volumesPerInstance, hspecs, Option.getD_some]
      rw [hcount, remembers_forEach_iff hfresh.distinct hrole _ hbetween, List.length_range]

/-- The answers that give these ids one after the other, and then fail. -/
def answersOf (ids : List Text) : CreateAnswers := fun call ↦ ids[call]?

/-- Ids that are pairwise different are fresh where nothing has them. -/
theorem freshAnswers_answersOf {ids : List Text} (hnodup : ids.Nodup) {world : StorageWorld}
    (hnew : ∀ id ∈ ids, id ∉ recordedIds world.file ∧ ∀ volume ∈ world.volumes, volume.id ≠ id) :
    FreshAnswers (answersOf ids) world where
  distinct first second id hfirst hsecond := by
    have hlength : first < ids.length := (List.getElem?_eq_some_iff.mp hfirst).1
    exact (List.getElem?_inj hlength hnodup).mp (hfirst.trans hsecond.symm)
  notTaken _ _ hanswer := hnew _ (List.mem_of_getElem? hanswer)

/-- Two volumes for each instance in the role. -/
def twoVolumes : SpecFile :=
  [("dn".toList, [⟨10, "/ebs1".toList, "/dev/sdj".toList, none⟩,
    ⟨10, "/ebs2".toList, "/dev/sdk".toList, none⟩])]

/-- A cluster with no storage yet, in an account with no volume. -/
def noStorage : StorageWorld := ⟨Table.empty, [], []⟩

theorem remembers_create_iff_thirdCallFails :
    Remembers "dn".toList noStorage
        (runCreate (answersOf ["vol-1".toList, "vol-2".toList]) (.ok twoVolumes) "dn".toList 2
          "us-east-1a".toList noStorage).2.toStorageWorld ↔
      FailsBetweenGroups (answersOf ["vol-1".toList, "vol-2".toList]) 0 2 2 :=
  remembers_create_iff (freshAnswers_answersOf (by decide) (by decide))

/-- The first volume of a group whose second one cannot be created is in no file. -/
theorem firstVolume_forgotten : FreshAnswers (answersOf ["vol-1".toList]) noStorage ∧
    ¬ Remembers "dn".toList noStorage
      (runCreate (answersOf ["vol-1".toList]) (.ok twoVolumes) "dn".toList 2 "us-east-1a".toList
        noStorage).2.toStorageWorld := by
  refine ⟨freshAnswers_answersOf (by decide) (by decide), fun hremembers ↦ ?_⟩
  have hafter : (runCreate (answersOf ["vol-1".toList]) (.ok twoVolumes) "dn".toList 2
      "us-east-1a".toList noStorage).2.toStorageWorld =
      ⟨Table.empty, [⟨"vol-1".toList, .creating, 10, none, "us-east-1a".toList, none⟩], []⟩ := by
    decide +kernel
  rw [hafter] at hremembers
  rcases hremembers.recorded _ List.mem_cons_self with hold | ⟨group, hgroup, -⟩
  · exact absurd hold List.not_mem_nil
  · exact absurd hgroup List.not_mem_nil

end Ec2Wrappers.HadoopCloud
