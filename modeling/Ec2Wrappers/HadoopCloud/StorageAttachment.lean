import Ec2Wrappers.Foundations.Pairing
import Ec2Wrappers.HadoopCloud.InstanceTemplates

/-!
# The attachment of storage

`Ec2Storage.attach`, over the storage world and the attach calls made so far. The order in which
Python goes through the dictionary of instances is a parameter.

The scan keeps the groups whose volumes are all available, and takes the instances out of the
dictionary that hold a volume of the role (`scanGroups_eq`). The rest is paired off, so that an
attach is a matching of these groups with these instances (`safeMatching_attach`). A group with no
volume counts as available, and is paired with an instance without a call.
-/

set_option autoImplicit false
set_option relaxedAutoImplicit false

namespace Ec2Wrappers.HadoopCloud

open Foundations Aws

/-! ### Attaching -/

/-- A call of `volume.attach`. -/
structure AttachCall where
  volumeId : Text
  instanceId : Text
  device : Text
  deriving DecidableEq, Repr

/-- The storage world with the attach calls made so far. -/
structure AttachWorld extends StorageWorld where
  attachCalls : List AttachCall

/-- EC2's volumes after an attach call. -/
def attached (volumes : List Volume) (call : AttachCall) : List Volume :=
  volumes.map fun volume ↦
    if volume.id = call.volumeId then
      { volume with status := .inUse, attachedTo := some call.instanceId }
    else volume

/-- The world after an attach call. -/
def AttachWorld.after (world : AttachWorld) (call : AttachCall) : AttachWorld :=
  { world with
    volumes := attached world.volumes call
    attachCalls := world.attachCalls ++ [call] }

/-- `volume.attach(instance.id, device)`. -/
def attachVolume (volume : Volume) (instanceId device : Text) : Py AttachWorld Unit :=
  Py.modify fun world ↦ world.after ⟨volume.id, instanceId, device⟩

/-- The dictionary of instances with no volume of the role. -/
abbrev InstancesDict := Table Instance.id

/-- The dictionary of some instances. -/
def instancesDict (instances : List Instance) : InstancesDict :=
  instances.foldl Table.insertOrReplace Table.empty

/-- The loop over the volumes of a group: whether all are available, and the instances left. -/
def scanVolumes (ec2Volumes : VolumesDict) :
    List MountableVolume → InstancesDict → Except PyError (Bool × InstancesDict)
  | [], instances => .ok (true, instances)
  | mountable :: rest, instances => do
    let volume ← lookupVolume ec2Volumes mountable.volumeId
    if volume.status ≠ .available then
      let left := match volume.attachedTo with
        | some instanceId => instances.delete (·.id = instanceId)
        | none => instances
      let (_, instances) ← scanVolumes ec2Volumes rest left
      return (false, instances)
    else scanVolumes ec2Volumes rest instances

/-- The loop over the groups: the available ones, and the instances left. -/
def scanGroups (ec2Volumes : VolumesDict) : List (List MountableVolume) → InstancesDict →
    Except PyError (List (List MountableVolume) × InstancesDict)
  | [], instances => .ok ([], instances)
  | group :: rest, instances => do
    let (available, instances) ← scanVolumes ec2Volumes group instances
    let (others, instances) ← scanGroups ec2Volumes rest instances
    return (if available then group :: others else others, instances)

/-- `dict.values()` for a dictionary from ids to these instances. -/
def valuesOf (order : DictOrder) (instances : List Instance) : List Instance :=
  (order.arrange (instances.map fun instance_ ↦ (instance_.id, instance_))).map Prod.snd

/-- The body of the last loop of `Ec2Storage.attach`. -/
def attachMountable (ec2Volumes : VolumesDict) (instance_ : Instance)
    (mountable : MountableVolume) : Py AttachWorld Unit := do
  let volume ← Py.ofExcept (lookupVolume ec2Volumes mountable.volumeId)
  attachVolume volume instance_.id mountable.device

/-- `Ec2Storage.attach`. -/
def attach (order : DictOrder) (role : Text) (instances : List Instance) :
    Py AttachWorld Unit := do
  let world ← Py.get
  let mountableVolumesList := getInstanceStorageForRole role world.file
  if mountableVolumesList = [] then Py.ret ()
  else
    let ec2Volumes ← Py.ofExcept (getEc2VolumesDict mountableVolumesList world.toStorageWorld).1
    let (available, left) ← Py.ofExcept
      (scanGroups ec2Volumes mountableVolumesList (instancesDict instances))
    Py.forEach ((valuesOf order left.rows).zip available) fun (instance_, mountableVolumes) ↦
      Py.forEach mountableVolumes (attachMountable ec2Volumes instance_)

/-! ### Available groups and free instances -/

/-- Every volume of the group is available. -/
def WhollyAvailable (volumes : List Volume) (group : List MountableVolume) : Prop :=
  ∀ mountable ∈ group, ∀ volume ∈ volumes, volume.id = mountable.volumeId →
    volume.status = .available

instance (volumes : List Volume) (group : List MountableVolume) :
    Decidable (WhollyAvailable volumes group) :=
  inferInstanceAs (Decidable (∀ _ ∈ _, ∀ _ ∈ _, _ → _))

/-- The instance holds a volume of one of the groups. -/
def Holds (volumes : List Volume) (groups : List (List MountableVolume)) (instanceId : Text) :
    Prop :=
  ∃ mountable ∈ groups.flatten, ∃ volume ∈ volumes, volume.id = mountable.volumeId ∧
    volume.attachedTo = some instanceId

instance (volumes : List Volume) (groups : List (List MountableVolume)) (instanceId : Text) :
    Decidable (Holds volumes groups instanceId) :=
  inferInstanceAs (Decidable (∃ _ ∈ _, ∃ _ ∈ _, _))

/-- The groups all of whose volumes are available. -/
def availableGroups (volumes : List Volume) (groups : List (List MountableVolume)) :
    List (List MountableVolume) :=
  groups.filter fun group ↦ WhollyAvailable volumes group

/-- The instances that hold no volume of the groups. -/
def freeInstances (volumes : List Volume) (groups : List (List MountableVolume))
    (instances : List Instance) : List Instance :=
  instances.filter fun instance_ ↦ ¬ Holds volumes groups instance_.id

/-- EC2 has every recorded volume, each once, and an available volume is attached to nothing. -/
structure Attachable (volumes : List Volume) (groups : List (List MountableVolume)) : Prop where
  ids_nodup : (volumes.map Volume.id).Nodup
  exist : ∀ mountable ∈ groups.flatten, ∃ volume ∈ volumes, volume.id = mountable.volumeId
  unattached : ∀ volume ∈ volumes, volume.status = .available → volume.attachedTo = none

/-! ### The scan -/

section Scan

variable {ec2Volumes : VolumesDict} {group : List MountableVolume} {instances : InstancesDict}

/-- The volume of the dictionary is available. -/
def availableIn (ec2Volumes : VolumesDict) (mountable : MountableVolume) : Bool :=
  match ec2Volumes.find mountable.volumeId with
  | some volume => volume.status = .available
  | none => false

/-- The instance that a volume of the dictionary is attached to, unless the volume is available. -/
def holderIn (ec2Volumes : VolumesDict) (mountable : MountableVolume) : Option Text :=
  match ec2Volumes.find mountable.volumeId with
  | some volume => if volume.status = .available then none else volume.attachedTo
  | none => none

/-- The scan of a group takes out the instances that hold one of its volumes. -/
theorem scanVolumes_eq (hfound : ∀ mountable ∈ group, ∃ volume,
      ec2Volumes.find mountable.volumeId = some volume) (instances : InstancesDict) :
    ∃ left, scanVolumes ec2Volumes group instances =
        .ok (group.all (availableIn ec2Volumes), left) ∧
      left.rows = instances.rows.filter fun instance_ ↦
        instance_.id ∉ group.filterMap (holderIn ec2Volumes) := by
  induction group generalizing instances with
  | nil => exact ⟨instances, rfl, by simp⟩
  | cons mountable rest ih =>
    obtain ⟨⟨volume, hvolume⟩, hrest⟩ := List.forall_mem_cons.mp hfound
    have hlookup : lookupVolume ec2Volumes mountable.volumeId = .ok volume := by
      rw [lookupVolume, hvolume]
    rw [scanVolumes, hlookup]
    by_cases havailable : volume.status = .available
    · obtain ⟨left, hscan, hrows⟩ := ih hrest instances
      have hhere : availableIn ec2Volumes mountable = true := by
        simp [availableIn, hvolume, havailable]
      have hholder : holderIn ec2Volumes mountable = none := by simp [holderIn, hvolume, havailable]
      refine ⟨left, ?_, ?_⟩
      · rw [List.all_cons, hhere, Bool.true_and, ← hscan]
        simp [bind, Except.bind, havailable]
      · rw [List.filterMap_cons_none hholder, hrows]
    · let kept : InstancesDict := match volume.attachedTo with
        | some instanceId => instances.delete (·.id = instanceId)
        | none => instances
      obtain ⟨left, hscan, hrows⟩ := ih hrest kept
      have hhere : availableIn ec2Volumes mountable = false := by
        simp [availableIn, hvolume, havailable]
      refine ⟨left, ?_, ?_⟩
      · rw [List.all_cons, hhere, Bool.false_and]
        simp only [bind, Except.bind, ne_eq, havailable, not_false_eq_true, if_true]
        rw [show scanVolumes ec2Volumes rest _ = _ from hscan]
        rfl
      · rw [hrows]
        cases hattached : volume.attachedTo with
        | none =>
          have hholder : holderIn ec2Volumes mountable = none := by
            simp [holderIn, hvolume, havailable, hattached]
          have hkept : kept = instances := by simp only [kept, hattached]
          rw [List.filterMap_cons_none hholder, hkept]
        | some instanceId =>
          have hholder : holderIn ec2Volumes mountable = some instanceId := by
            simp [holderIn, hvolume, havailable, hattached]
          have hkept : kept = instances.delete (·.id = instanceId) := by simp only [kept, hattached]
          rw [List.filterMap_cons_some hholder, hkept, Table.delete, List.filter_filter]
          refine List.filter_congr fun instance_ _ ↦ ?_
          simp [Bool.and_comm]

/-- The scan keeps the available groups, and the instances that hold none of the volumes. -/
theorem scanGroups_eq {groups : List (List MountableVolume)}
    (hfound : ∀ mountable ∈ groups.flatten, ∃ volume,
      ec2Volumes.find mountable.volumeId = some volume) (instances : InstancesDict) :
    ∃ left, scanGroups ec2Volumes groups instances =
        .ok (groups.filter (·.all (availableIn ec2Volumes)), left) ∧
      left.rows = instances.rows.filter fun instance_ ↦
        instance_.id ∉ groups.flatten.filterMap (holderIn ec2Volumes) := by
  induction groups generalizing instances with
  | nil => exact ⟨instances, rfl, by simp⟩
  | cons group rest ih =>
    rw [List.flatten_cons, List.forall_mem_append] at hfound
    obtain ⟨middle, hscan, hmiddle⟩ := scanVolumes_eq hfound.1 instances
    obtain ⟨left, hrest, hrows⟩ := ih hfound.2 middle
    refine ⟨left, ?_, ?_⟩
    · rw [scanGroups, hscan]
      simp only [bind, Except.bind, hrest, List.filter_cons]
      rfl
    · rw [hrows, hmiddle, List.filter_filter, List.flatten_cons, List.filterMap_append]
      refine List.filter_congr fun instance_ _ ↦ ?_
      simp [List.mem_append, Bool.and_comm]

end Scan

/-! ### What an attach does -/

/-- The calls that attach a group to an instance. -/
def callsFor (pair : Instance × List MountableVolume) : List AttachCall :=
  pair.2.map fun mountable ↦ ⟨mountable.volumeId, pair.1.id, mountable.device⟩

/-- The calls of some pairs of an instance and a group. -/
def callsOf (pairs : List (Instance × List MountableVolume)) : List AttachCall :=
  pairs.flatMap callsFor

/-- The instances and the groups that an attach pairs off. -/
def attachPairs (order : DictOrder) (volumes : List Volume)
    (groups : List (List MountableVolume)) (instances : List Instance) :
    List (Instance × List MountableVolume) :=
  (valuesOf order (freeInstances volumes groups instances)).zip (availableGroups volumes groups)

section Attach

variable {order : DictOrder} {world : AttachWorld} {groups : List (List MountableVolume)}

/-- The dictionary of the recorded volumes has the volumes of the account. -/
theorem getEc2VolumesDict_attachable {storage : StorageWorld}
    (hattachable : Attachable storage.volumes groups) :
    ∃ ec2Volumes, (getEc2VolumesDict groups storage).1 = .ok ec2Volumes ∧
      ∀ mountable ∈ groups.flatten, ∀ volume,
        ec2Volumes.find mountable.volumeId = some volume ↔
          volume ∈ storage.volumes ∧ volume.id = mountable.volumeId := by
  obtain ⟨hnodup, hexist, -⟩ := hattachable
  obtain ⟨listed, hlisted, hsublist, hmem⟩ : ∃ listed,
      getAllVolumes storage.volumes (groups.flatten.map MountableVolume.volumeId) = .ok listed ∧
        listed.Sublist storage.volumes ∧ ∀ mountable ∈ groups.flatten, ∀ volume ∈ storage.volumes,
          volume.id = mountable.volumeId → volume ∈ listed := by
    unfold getAllVolumes
    split_ifs with hnone hall
    · exact ⟨_, rfl, List.Sublist.refl _, fun _ _ _ hvolume _ ↦ hvolume⟩
    · refine ⟨_, rfl, List.filter_sublist, fun mountable hmountable volume hvolume hid ↦ ?_⟩
      refine List.mem_filter.mpr ⟨hvolume, decide_eq_true ?_⟩
      rw [hid]
      exact List.mem_map_of_mem hmountable
    · refine absurd (List.all_eq_true.mpr fun id hid ↦ ?_) hall
      obtain ⟨mountable, hmountable, rfl⟩ := List.mem_map.mp hid
      obtain ⟨volume, hvolume, hsame⟩ := hexist mountable hmountable
      exact List.any_eq_true.mpr ⟨volume, hvolume, by simpa using hsame⟩
  refine ⟨listed.foldl Table.insertOrReplace Table.empty, ?_, fun mountable hmountable volume ↦ ?_⟩
  · rw [getEc2VolumesDict_eq, hlisted]
    rfl
  · have hrows := Table.rows_foldl_insertOrReplace (Table.empty : VolumesDict)
      (hnodup.sublist (hsublist.map Volume.id))
    rw [Table.find_eq_some_iff, hrows]
    constructor
    · rintro ⟨hvolume, hid⟩
      exact ⟨hsublist.subset hvolume, hid⟩
    · rintro ⟨hvolume, hid⟩
      exact ⟨hmem mountable hmountable volume hvolume hid, hid⟩

/-- The lookup of a recorded volume. -/
theorem exists_find {volumes : List Volume} {ec2Volumes : VolumesDict}
    (hattachable : Attachable volumes groups)
    (hfind : ∀ mountable ∈ groups.flatten, ∀ volume,
      ec2Volumes.find mountable.volumeId = some volume ↔
        volume ∈ volumes ∧ volume.id = mountable.volumeId)
    {mountable : MountableVolume} (hmountable : mountable ∈ groups.flatten) :
    ∃ volume ∈ volumes, ec2Volumes.find mountable.volumeId = some volume ∧
      ∀ other ∈ volumes, other.id = mountable.volumeId ↔ other = volume := by
  obtain ⟨volume, hvolume, hid⟩ := hattachable.exist mountable hmountable
  refine ⟨volume, hvolume, (hfind mountable hmountable volume).mpr ⟨hvolume, hid⟩, ?_⟩
  intro other hother
  constructor
  · intro hsame
    exact List.inj_on_of_nodup_map hattachable.ids_nodup hother hvolume (hsame.trans hid.symm)
  · rintro rfl
    exact hid

/-- A recorded volume is available in the dictionary when it is in the account. -/
theorem availableIn_iff {volumes : List Volume} {ec2Volumes : VolumesDict}
    (hattachable : Attachable volumes groups)
    (hfind : ∀ mountable ∈ groups.flatten, ∀ volume,
      ec2Volumes.find mountable.volumeId = some volume ↔
        volume ∈ volumes ∧ volume.id = mountable.volumeId)
    {mountable : MountableVolume} (hmountable : mountable ∈ groups.flatten) :
    availableIn ec2Volumes mountable = true ↔
      ∀ volume ∈ volumes, volume.id = mountable.volumeId → volume.status = .available := by
  obtain ⟨volume, hvolume, hfound, honly⟩ := exists_find hattachable hfind hmountable
  rw [availableIn, hfound, decide_eq_true_iff]
  constructor
  · intro havailable other hother hid
    rw [(honly other hother).mp hid]
    exact havailable
  · intro hall
    exact hall volume hvolume ((honly volume hvolume).mpr rfl)

/-- A recorded volume has a holder in the dictionary when it is attached to it in the account. -/
theorem holderIn_eq_some_iff {volumes : List Volume} {ec2Volumes : VolumesDict}
    (hattachable : Attachable volumes groups)
    (hfind : ∀ mountable ∈ groups.flatten, ∀ volume,
      ec2Volumes.find mountable.volumeId = some volume ↔
        volume ∈ volumes ∧ volume.id = mountable.volumeId)
    {mountable : MountableVolume} (hmountable : mountable ∈ groups.flatten) {instanceId : Text} :
    holderIn ec2Volumes mountable = some instanceId ↔
      ∃ volume ∈ volumes, volume.id = mountable.volumeId ∧ volume.attachedTo = some instanceId := by
  obtain ⟨volume, hvolume, hfound, honly⟩ := exists_find hattachable hfind hmountable
  have hholder : holderIn ec2Volumes mountable = volume.attachedTo := by
    rw [holderIn, hfound]
    by_cases havailable : volume.status = .available
    · rw [hattachable.unattached volume hvolume havailable]
      exact if_pos havailable
    · exact if_neg havailable
  rw [hholder]
  constructor
  · intro hattached
    exact ⟨volume, hvolume, (honly volume hvolume).mpr rfl, hattached⟩
  · rintro ⟨other, hother, hid, hattached⟩
    rw [← (honly other hother).mp hid]
    exact hattached

/-- One pass of the last loop makes its calls. -/
theorem forEach_attachMountable {ec2Volumes : VolumesDict}
    {pair : Instance × List MountableVolume} (hfound : ∀ mountable ∈ pair.2, ∃ volume,
      ec2Volumes.find mountable.volumeId = some volume) (world : AttachWorld) :
    Py.forEach pair.2 (attachMountable ec2Volumes pair.1) world =
      (.ok (), (callsFor pair).foldl AttachWorld.after world) := by
  rw [callsFor, List.foldl_map]
  refine Py.forEach_returns (fun mountable hmountable store ↦ ?_) world
  obtain ⟨volume, hvolume⟩ := hfound mountable hmountable
  have hid := ((ec2Volumes.find_eq_some_iff _ _).mp hvolume).2
  rw [attachMountable, lookupVolume, hvolume, ← hid]
  rfl

/-- An attach returns, and makes the calls of the pairs. -/
theorem attach_eq {role : Text} (instances : List Instance)
    (hattachable : Attachable world.volumes (getInstanceStorageForRole role world.file)) :
    attach order role instances world =
      (.ok (), (callsOf (attachPairs order world.volumes (getInstanceStorageForRole role world.file)
        (instancesDict instances).rows)).foldl AttachWorld.after world) := by
  rw [attach, Py.bind_eq, Py.run_bind_ok (Py.run_get world)]
  generalize getInstanceStorageForRole role world.file = groups at hattachable ⊢
  by_cases hnone : groups = []
  · rw [if_pos hnone, hnone, attachPairs, availableGroups, List.filter_nil, List.zip_nil_right]
    rfl
  · obtain ⟨ec2Volumes, hdict, hfind⟩ :=
      @getEc2VolumesDict_attachable groups world.toStorageWorld hattachable
    have hfound : ∀ mountable ∈ groups.flatten, ∃ volume,
        ec2Volumes.find mountable.volumeId = some volume := by
      intro mountable hmountable
      obtain ⟨volume, hvolume⟩ := hattachable.exist mountable hmountable
      exact ⟨volume, (hfind mountable hmountable volume).mpr hvolume⟩
    obtain ⟨left, hscan, hleft⟩ := scanGroups_eq hfound (instancesDict instances)
    have havailable : groups.filter (·.all (availableIn ec2Volumes)) =
        availableGroups world.volumes groups := by
      refine List.filter_congr fun group hgroup ↦ ?_
      rw [Bool.eq_iff_iff, List.all_eq_true, decide_eq_true_iff]
      exact forall₂_congr fun mountable hmountable ↦
        availableIn_iff hattachable hfind (List.mem_flatten_of_mem hgroup hmountable)
    have hfree : left.rows = freeInstances world.volumes groups (instancesDict instances).rows := by
      rw [hleft]
      refine List.filter_congr fun instance_ _ ↦ ?_
      rw [decide_eq_decide, List.mem_filterMap]
      refine not_congr (exists_congr fun mountable ↦ and_congr_right fun hmountable ↦ ?_)
      exact holderIn_eq_some_iff hattachable hfind hmountable
    rw [if_neg hnone, Py.bind_eq, hdict, Py.run_bind_ok (Py.run_ofExcept _ _), Py.bind_eq, hscan,
      Py.run_bind_ok (Py.run_ofExcept _ _)]
    simp only [havailable, hfree]
    rw [callsOf, List.foldl_flatMap]
    refine Py.forEach_returns (fun pair hpair store ↦ ?_) world
    refine forEach_attachMountable (fun mountable hmountable ↦ hfound mountable ?_) store
    have hgroup := (List.mem_filter.mp (List.of_mem_zip hpair).2).1
    exact List.mem_flatten_of_mem hgroup hmountable

/-- What the attach calls leave. -/
theorem foldl_after (calls : List AttachCall) (world : AttachWorld) :
    calls.foldl AttachWorld.after world =
      { world with
        volumes := calls.foldl attached world.volumes
        attachCalls := world.attachCalls ++ calls } := by
  induction calls generalizing world with
  | nil => simp
  | cons call rest ih =>
    rw [List.foldl_cons, ih]
    simp [AttachWorld.after]

end Attach

/-! ### A safe matching -/

/-- The calls match available groups with free instances, as many as there are: the pairs are those
that the last loop goes through. -/
structure SafeMatching (volumes : List Volume) (groups : List (List MountableVolume))
    (instances : List Instance) (pairs : List (Instance × List MountableVolume))
    (calls : List AttachCall) : Prop where
  calls_eq : calls = callsOf pairs
  available : ∀ call ∈ calls, ∃ group ∈ groups, WhollyAvailable volumes group ∧
    ∃ mountable ∈ group, call.volumeId = mountable.volumeId ∧ call.device = mountable.device
  once : (calls.map AttachCall.volumeId).Nodup
  together : ∀ call ∈ calls, ∀ group ∈ groups,
    call.volumeId ∈ group.map MountableVolume.volumeId → ∀ mountable ∈ group,
      ⟨mountable.volumeId, call.instanceId, mountable.device⟩ ∈ calls
  alone : ∀ call ∈ calls, ∀ other ∈ calls, call.instanceId = other.instanceId →
    ∃ group ∈ groups, call.volumeId ∈ group.map MountableVolume.volumeId ∧
      other.volumeId ∈ group.map MountableVolume.volumeId
  free : ∀ call ∈ calls, call.instanceId ∈ instances.map Instance.id ∧
    ¬ Holds volumes groups call.instanceId
  pairs_groups : (pairs.map Prod.snd).Sublist (availableGroups volumes groups)
  pairs_instances : ((pairs.map Prod.fst).map Instance.id).Nodup ∧
    ∀ pair ∈ pairs, pair.1 ∈ freeInstances volumes groups instances
  number : pairs.length =
    min (availableGroups volumes groups).length (freeInstances volumes groups instances).length
  numberCalled : (∀ group ∈ groups, group ≠ []) →
    (groups.filter fun group ↦
      ∃ call ∈ calls, call.volumeId ∈ group.map MountableVolume.volumeId).length =
    min (availableGroups volumes groups).length (freeInstances volumes groups instances).length

section Matching

variable {volumes : List Volume} {groups : List (List MountableVolume)}
variable {instances : List Instance} {pairs : List (Instance × List MountableVolume)}

/-- A call of some pairs is for a volume of the group of a pair. -/
theorem mem_callsOf {call : AttachCall} : call ∈ callsOf pairs ↔
    ∃ pair ∈ pairs, ∃ mountable ∈ pair.2,
      call = ⟨mountable.volumeId, pair.1.id, mountable.device⟩ := by
  simp [callsOf, callsFor, eq_comm]

/-- The volumes of the calls are those of the groups. -/
theorem map_volumeId_callsOf : (callsOf pairs).map AttachCall.volumeId =
    (pairs.map Prod.snd).flatten.map MountableVolume.volumeId := by
  simp [callsOf, callsFor, List.map_flatten, List.flatMap_def,
    Function.comp_def]

/-- A group with the volume of a call is the group of its pair. -/
theorem group_eq_of_mem_pairs (hdistinct : (groups.flatten.map MountableVolume.volumeId).Nodup)
    (hsublist : (pairs.map Prod.snd).Sublist groups) {pair : Instance × List MountableVolume}
    (hpair : pair ∈ pairs) {mountable : MountableVolume} (hmountable : mountable ∈ pair.2)
    {group : List MountableVolume} (hgroup : group ∈ groups)
    (hid : mountable.volumeId ∈ group.map MountableVolume.volumeId) : group = pair.2 := by
  obtain ⟨same, hsame, hkey⟩ := List.mem_map.mp hid
  exact group_eq_of_key_eq hdistinct hgroup (hsublist.subset (List.mem_map_of_mem hpair)) hsame
    hmountable hkey

/-- When no group is empty, the groups with a volume among the calls are those of the pairs. -/
theorem calledGroups_perm (hdistinct : (groups.flatten.map MountableVolume.volumeId).Nodup)
    (hsublist : (pairs.map Prod.snd).Sublist groups) (hnonempty : ∀ group ∈ groups, group ≠ []) :
    (groups.filter fun group ↦
      ∃ call ∈ callsOf pairs, call.volumeId ∈ group.map MountableVolume.volumeId).Perm
      (pairs.map Prod.snd) := by
  have hgroupsNodup := groups_nodup hdistinct hnonempty
  rw [List.perm_ext_iff_of_nodup (hgroupsNodup.filter _) (hgroupsNodup.sublist hsublist)]
  intro group
  rw [List.mem_filter, decide_eq_true_iff]
  constructor
  · rintro ⟨hgroup, call, hcall, hid⟩
    obtain ⟨pair, hpair, mountable, hmountable, rfl⟩ := mem_callsOf.mp hcall
    exact List.mem_map.mpr ⟨pair, hpair,
      (group_eq_of_mem_pairs hdistinct hsublist hpair hmountable hgroup hid).symm⟩
  · intro hpaired
    obtain ⟨pair, hpair, rfl⟩ := List.mem_map.mp hpaired
    have hgroup := hsublist.subset hpaired
    obtain ⟨mountable, hmountable⟩ := List.exists_mem_of_ne_nil _ (hnonempty _ hgroup)
    exact ⟨hgroup, _, mem_callsOf.mpr ⟨pair, hpair, mountable, hmountable, rfl⟩,
      List.mem_map_of_mem hmountable⟩

/-- Pairs of different free instances and different available groups, as many as there are, make a
safe matching. -/
theorem safeMatching_of_pairs (hdistinct : (groups.flatten.map MountableVolume.volumeId).Nodup)
    (hgroups : (pairs.map Prod.snd).Sublist (availableGroups volumes groups))
    (hnodup : ((pairs.map Prod.fst).map Instance.id).Nodup)
    (hfree : ∀ pair ∈ pairs, pair.1 ∈ freeInstances volumes groups instances)
    (hnumber : pairs.length = min (availableGroups volumes groups).length
      (freeInstances volumes groups instances).length) :
    SafeMatching volumes groups instances pairs (callsOf pairs) := by
  have hsublist : (pairs.map Prod.snd).Sublist groups := hgroups.trans List.filter_sublist
  constructor
  case calls_eq => rfl
  case pairs_groups => exact hgroups
  case pairs_instances => exact ⟨hnodup, hfree⟩
  case number => exact hnumber
  case available =>
    intro call hcall
    obtain ⟨pair, hpair, mountable, hmountable, rfl⟩ := mem_callsOf.mp hcall
    obtain ⟨hpairGroup, havailable⟩ :=
      List.mem_filter.mp (hgroups.subset (List.mem_map_of_mem hpair))
    exact ⟨pair.2, hpairGroup, of_decide_eq_true havailable, mountable, hmountable, rfl, rfl⟩
  case once =>
    rw [map_volumeId_callsOf]
    exact hdistinct.sublist (hsublist.flatten.map _)
  case together =>
    intro call hcall group hgroup hid other hother
    obtain ⟨pair, hpair, mountable, hmountable, rfl⟩ := mem_callsOf.mp hcall
    obtain rfl := group_eq_of_mem_pairs hdistinct hsublist hpair hmountable hgroup hid
    exact mem_callsOf.mpr ⟨pair, hpair, other, hother, rfl⟩
  case alone =>
    intro call hcall other hother hinstance
    obtain ⟨pair, hpair, mountable, hmountable, rfl⟩ := mem_callsOf.mp hcall
    obtain ⟨pair', hpair', mountable', hmountable', rfl⟩ := mem_callsOf.mp hother
    obtain rfl : pair = pair' := by
      rw [List.map_map] at hnodup
      exact List.inj_on_of_nodup_map hnodup hpair hpair' hinstance
    exact ⟨pair.2, hsublist.subset (List.mem_map_of_mem hpair), List.mem_map_of_mem hmountable,
      List.mem_map_of_mem hmountable'⟩
  case free =>
    intro call hcall
    obtain ⟨pair, hpair, mountable, -, rfl⟩ := mem_callsOf.mp hcall
    obtain ⟨hinstance, hholds⟩ := List.mem_filter.mp (hfree pair hpair)
    exact ⟨List.mem_map_of_mem hinstance, of_decide_eq_true hholds⟩
  case numberCalled =>
    intro hnonempty
    rw [(calledGroups_perm hdistinct hsublist hnonempty).length_eq, List.length_map, hnumber]

/-- The values of the dictionary are its instances in some order. -/
theorem valuesOf_perm (order : DictOrder) (instances : List Instance) :
    (valuesOf order instances).Perm instances := by
  have hperm := (order.arrange_perm (instances.map fun instance_ ↦ (instance_.id, instance_))).map
    Prod.snd
  simpa [valuesOf, Function.comp_def] using hperm

/-- An attach returns, and its calls are a safe matching. -/
theorem safeMatching_attach {order : DictOrder} {role : Text} {storage : StorageWorld}
    (hdistinct : ((getInstanceStorageForRole role storage.file).flatten.map
      MountableVolume.volumeId).Nodup)
    (hattachable : Attachable storage.volumes (getInstanceStorageForRole role storage.file))
    (hids : (instances.map Instance.id).Nodup) :
    ∃ pairs after, attach order role instances ⟨storage, []⟩ = (.ok (), after) ∧
      SafeMatching storage.volumes (getInstanceStorageForRole role storage.file) instances pairs
        after.attachCalls := by
  let pairs := attachPairs order storage.volumes (getInstanceStorageForRole role storage.file)
    instances
  have hrows : (instancesDict instances).rows = instances :=
    Table.rows_foldl_insertOrReplace (Table.empty : InstancesDict) hids
  have hattach := @attach_eq order ⟨storage, []⟩ role instances hattachable
  rw [hrows] at hattach
  refine ⟨pairs, (callsOf pairs).foldl AttachWorld.after ⟨storage, []⟩, hattach, ?_⟩
  rw [foldl_after]
  change SafeMatching _ _ _ pairs ([] ++ callsOf pairs)
  rw [List.nil_append]
  subst pairs
  generalize getInstanceStorageForRole role storage.file = groups at hdistinct
  have hperm := valuesOf_perm order (freeInstances storage.volumes groups instances)
  refine safeMatching_of_pairs hdistinct ?_ ?_ ?_ ?_
  · rw [attachPairs, map_snd_zip_eq_take]
    exact List.take_sublist _ _
  · rw [attachPairs, map_fst_zip_eq_take]
    have hfreeIds : ((freeInstances storage.volumes groups instances).map Instance.id).Nodup :=
      hids.sublist (List.filter_sublist.map _)
    exact ((hperm.map _).nodup_iff.mpr hfreeIds).sublist ((List.take_sublist _ _).map _)
  · intro pair hpair
    exact hperm.subset (List.of_mem_zip hpair).1
  · rw [attachPairs, List.length_zip, hperm.length_eq, min_comm]

end Matching

/-- A storage file with two groups for the role `dn`, of which the first one is attached. -/
def halfAttached : StorageWorld where
  file := Table.empty.insertOrReplace
    ⟨"dn".toList, [[⟨"vol-1".toList, "/ebs1".toList, "/dev/sdj".toList⟩],
      [⟨"vol-2".toList, "/ebs1".toList, "/dev/sdj".toList⟩]]⟩
  volumes := [⟨"vol-1".toList, .inUse, 10, none, "us-east-1a".toList, some "i-1".toList⟩,
    ⟨"vol-2".toList, .available, 10, none, "us-east-1a".toList, none⟩]
  deleteRequests := []

/-- A running instance of the role. -/
def datanode (id : Text) : Instance :=
  ⟨id, "m1.large".toList, some "cs61c-aa-default".toList, .running, 0, none⟩

theorem safeMatching_attach_halfAttached : ∃ pairs after,
    attach inOrder "dn".toList [datanode "i-1".toList, datanode "i-2".toList]
        ⟨halfAttached, []⟩ = (.ok (), after) ∧
      SafeMatching halfAttached.volumes (getInstanceStorageForRole "dn".toList halfAttached.file)
        [datanode "i-1".toList, datanode "i-2".toList] pairs after.attachCalls := by
  refine safeMatching_attach (by decide +kernel) ⟨by decide +kernel, ?_, ?_⟩ (by decide +kernel)
  · exact show ∀ _ ∈ _, ∃ _ ∈ _, _ by decide +kernel
  · exact show ∀ _ ∈ _, _ → _ by decide +kernel

end Ec2Wrappers.HadoopCloud
