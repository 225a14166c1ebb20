import Ec2Wrappers.HadoopCloud.ClusterGroups
import Ec2Wrappers.HadoopCloud.StorageAttachment
import Ec2Wrappers.HadoopCloud.StorageHistory

/-!
# The attachment of storage for several roles

`HadoopService._attach_storage`, which attaches the storage of one role after the other. Each attach
has a dictionary of its own, so that the order of its instances is a parameter of its own.

What an attach does depends on the volumes of its role only (`AgreeOn`), and these are no other
role's. A role that comes twice is attached once: the second time no call is made
(`PairedOff.settled`), whatever the first one has left over. So the calls are those of the first
attach of each role, made from the volumes at the start (`attachCalls_attachStorage`).
-/

set_option autoImplicit false
set_option relaxedAutoImplicit false

namespace Ec2Wrappers.HadoopCloud

open Foundations Aws

/-- `has_any_storage`. -/
def hasAnyStorage (roles : List Text) (file : StorageFile) : Bool :=
  roles.any fun role ↦ getInstanceStorageForRole role file ≠ []

/-- The loop of `_attach_storage`, each role with its place in the list. -/
def attachRoles (orders : ℕ → DictOrder) (name : Text) (account : SharedAccount)
    (rounds : List (Text × ℕ)) : Py AttachWorld Unit :=
  Py.forEach rounds fun (role, index) ↦ do
    let instances ← Py.ofExcept (getInstancesInRole name role (some .running) account)
    attach (orders index) role instances

/-- `HadoopService._attach_storage` for the cluster of the given name. -/
def attachStorage (orders : ℕ → DictOrder) (name : Text) (account : SharedAccount)
    (roles : List Text) : Py AttachWorld Unit := do
  let world ← Py.get
  if hasAnyStorage roles world.file then
    attachRoles orders name account roles.zipIdx
    Py.within AttachWorld.toStorageWorld
      (fun world storage ↦ { world with toStorageWorld := storage }) (Py.forEach roles printRole)
  else Py.ret ()

/-- The running instances in a role of the cluster, each once. -/
def runningInRole (name role : Text) (account : SharedAccount) : List Instance :=
  (instancesDict (getInstances (roleGroup name role) (some .running) account.reservations)).rows

/-- The pairs of the attach of a role. -/
def rolePairs (order : DictOrder) (name : Text) (account : SharedAccount) (storage : StorageWorld)
    (role : Text) : List (Instance × List MountableVolume) :=
  attachPairs order storage.volumes (getInstanceStorageForRole role storage.file)
    (runningInRole name role account)

/-- The first round of each role, for roles that have not been seen before. -/
def firstRounds : List Text → List (Text × ℕ) → List (Text × ℕ)
  | _, [] => []
  | seen, (role, index) :: rest =>
    if role ∈ seen then firstRounds seen rest else (role, index) :: firstRounds (role :: seen) rest

/-! ### Volumes that matter to a role -/

/-- The ids of the volumes of some groups. -/
def idsOf (groups : List (List MountableVolume)) : List Text :=
  groups.flatten.map MountableVolume.volumeId

/-- Two accounts have the same volumes with the given ids. -/
def AgreeOn (ids : List Text) (first second : List Volume) : Prop :=
  ∀ volume : Volume, volume.id ∈ ids → (volume ∈ first ↔ volume ∈ second)

section Agree

variable {ids : List Text} {first second third volumes : List Volume}
variable {groups : List (List MountableVolume)} {call : AttachCall}

theorem AgreeOn.trans (hfirst : AgreeOn ids first second) (hsecond : AgreeOn ids second third) :
    AgreeOn ids first third :=
  fun volume hid ↦ (hfirst volume hid).trans (hsecond volume hid)

/-- An attach pairs off the same where the volumes of its role are the same. -/
theorem attachPairs_congr (hagree : AgreeOn (idsOf groups) first second) (order : DictOrder)
    (instances : List Instance) :
    attachPairs order first groups instances = attachPairs order second groups instances := by
  have hsame {mountable : MountableVolume} (hmountable : mountable ∈ groups.flatten)
      {volume : Volume} (hid : volume.id = mountable.volumeId) : volume ∈ first ↔ volume ∈ second :=
    hagree volume (hid ▸ List.mem_map_of_mem hmountable)
  have havailable : availableGroups first groups = availableGroups second groups := by
    refine List.filter_congr fun group hgroup ↦ decide_eq_decide.mpr ?_
    refine forall₂_congr fun mountable hmountable ↦ forall_congr' fun volume ↦ ?_
    have hmem := List.mem_flatten_of_mem hgroup hmountable
    exact ⟨fun h hvolume hid ↦ h ((hsame hmem hid).mpr hvolume) hid,
      fun h hvolume hid ↦ h ((hsame hmem hid).mp hvolume) hid⟩
  have hfree : freeInstances first groups instances = freeInstances second groups instances := by
    refine List.filter_congr fun instance_ _ ↦ decide_eq_decide.mpr (not_congr ?_)
    refine exists_congr fun mountable ↦ and_congr_right fun hmountable ↦
      exists_congr fun volume ↦ ?_
    exact and_congr_left fun hattached ↦ hsame hmountable hattached.1
  rw [attachPairs, attachPairs, havailable, hfree]

/-- A volume after a call. -/
theorem mem_attached {volume : Volume} : volume ∈ attached volumes call ↔
    volume.id ≠ call.volumeId ∧ volume ∈ volumes ∨
      ∃ old ∈ volumes, old.id = call.volumeId ∧
        volume = { old with status := .inUse, attachedTo := some call.instanceId } := by
  simp only [attached, List.mem_map]
  constructor
  · rintro ⟨old, hold, rfl⟩
    split_ifs with hid
    · exact .inr ⟨old, hold, hid, rfl⟩
    · exact .inl ⟨hid, hold⟩
  · rintro (⟨hid, hmem⟩ | ⟨old, hold, hid, rfl⟩)
    · exact ⟨volume, hmem, if_neg hid⟩
    · exact ⟨old, hold, if_pos hid⟩

/-- A call leaves the volumes of other ids. -/
theorem agreeOn_attached (hother : call.volumeId ∉ ids) :
    AgreeOn ids (attached volumes call) volumes := by
  intro volume hid
  have hne : volume.id ≠ call.volumeId := ne_of_mem_of_not_mem hid hother
  rw [mem_attached]
  constructor
  · rintro (⟨-, hmem⟩ | ⟨old, -, hold, rfl⟩)
    · exact hmem
    · exact absurd hold hne
  · intro hmem
    exact .inl ⟨hne, hmem⟩

/-- The same call keeps accounts the same. -/
theorem AgreeOn.attached (hagree : AgreeOn ids first second) :
    AgreeOn ids (attached first call) (attached second call) := by
  intro volume hid
  rw [mem_attached, mem_attached]
  refine or_congr (and_congr_right fun _ ↦ hagree volume hid) (exists_congr fun old ↦ ⟨?_, ?_⟩)
  · rintro ⟨hold, hsame, rfl⟩
    exact ⟨(hagree old hid).mp hold, hsame, rfl⟩
  · rintro ⟨hold, hsame, rfl⟩
    exact ⟨(hagree old hid).mpr hold, hsame, rfl⟩

/-- Calls for other ids leave the volumes. -/
theorem agreeOn_foldl_attached {calls : List AttachCall}
    (hother : ∀ call ∈ calls, call.volumeId ∉ ids) :
    AgreeOn ids (calls.foldl attached volumes) volumes := by
  induction calls generalizing volumes with
  | nil => exact fun _ _ ↦ Iff.rfl
  | cons call rest ih =>
    obtain ⟨hcall, hrest⟩ := List.forall_mem_cons.mp hother
    exact (ih hrest).trans (agreeOn_attached hcall)

/-- The same calls keep accounts the same. -/
theorem AgreeOn.foldl_attached (hagree : AgreeOn ids first second) (calls : List AttachCall) :
    AgreeOn ids (calls.foldl HadoopCloud.attached first)
      (calls.foldl HadoopCloud.attached second) := by
  induction calls generalizing first second with
  | nil => exact hagree
  | cons call rest ih => exact ih hagree.attached

/-- An account stays attachable. -/
theorem Attachable.attached (hattachable : Attachable volumes groups) (call : AttachCall) :
    Attachable (attached volumes call) groups := by
  have hids : (HadoopCloud.attached volumes call).map Volume.id = volumes.map Volume.id := by
    rw [HadoopCloud.attached, List.map_map]
    refine List.map_congr_left fun volume _ ↦ ?_
    rw [Function.comp_apply]
    split_ifs <;> rfl
  refine ⟨hids ▸ hattachable.ids_nodup, fun mountable hmountable ↦ ?_,
    fun volume hvolume hstatus ↦ ?_⟩
  · obtain ⟨volume, hvolume, hid⟩ := hattachable.exist mountable hmountable
    have hmem : mountable.volumeId ∈ volumes.map Volume.id := hid ▸ List.mem_map_of_mem hvolume
    rw [← hids] at hmem
    exact List.mem_map.mp hmem
  · rcases mem_attached.mp hvolume with ⟨-, hold⟩ | ⟨old, -, -, rfl⟩
    · exact hattachable.unattached volume hold hstatus
    · cases hstatus

theorem Attachable.foldl_attached (hattachable : Attachable volumes groups)
    (calls : List AttachCall) : Attachable (calls.foldl HadoopCloud.attached volumes) groups := by
  induction calls generalizing volumes with
  | nil => exact hattachable
  | cons call rest ih => exact ih (hattachable.attached call)

/-- The volume of a call is in use at its instance afterwards. -/
theorem status_of_mem_calls {calls : List AttachCall}
    (hnodup : (calls.map AttachCall.volumeId).Nodup) {volume : Volume} (hcall : call ∈ calls)
    (hvolume : volume ∈ calls.foldl attached volumes) (hid : volume.id = call.volumeId) :
    volume.status = .inUse ∧ volume.attachedTo = some call.instanceId := by
  induction calls generalizing volumes with
  | nil => exact absurd hcall List.not_mem_nil
  | cons head rest ih =>
    obtain ⟨hnew, hrest⟩ := List.nodup_cons.mp hnodup
    rcases List.mem_cons.mp hcall with rfl | hmem
    · -- no later call is for this volume
      have hagree : AgreeOn [call.volumeId] (rest.foldl attached (attached volumes call))
          (attached volumes call) := by
        refine agreeOn_foldl_attached fun other hother hsame ↦ hnew ?_
        exact List.mem_map.mpr ⟨other, hother, List.mem_singleton.mp hsame⟩
      have hmem := (hagree volume (List.mem_singleton.mpr hid)).mp hvolume
      rcases mem_attached.mp hmem with ⟨hne, -⟩ | ⟨old, -, -, rfl⟩
      · exact absurd hid hne
      · exact ⟨rfl, rfl⟩
    · exact ih hrest hmem hvolume

end Agree

/-! ### A role that is attached -/

section Settled

variable {order : DictOrder} {volumes : List Volume} {groups : List (List MountableVolume)}
variable {instances : List Instance}

/-- The instance got a group with a volume in it. -/
def Got (pairs : List (Instance × List MountableVolume)) (instance_ : Instance) : Prop :=
  ∃ pair ∈ pairs, pair.1 = instance_ ∧ pair.2 ≠ []

instance (pairs : List (Instance × List MountableVolume)) (instance_ : Instance) :
    Decidable (Got pairs instance_) :=
  inferInstanceAs (Decidable (∃ _ ∈ _, _))

/-- The pairs of an attach. -/
structure PairedOff (volumes : List Volume) (groups : List (List MountableVolume))
    (instances : List Instance) (pairs : List (Instance × List MountableVolume)) : Prop where
  distinct : (idsOf groups).Nodup
  attachable : Attachable volumes groups
  instances_nodup : (instances.map Instance.id).Nodup
  pairs_instances : (pairs.map Prod.fst).Nodup
  free : ∀ pair ∈ pairs, pair.1 ∈ freeInstances volumes groups instances
  pairs_groups : pairs.map Prod.snd =
    (availableGroups volumes groups).take (freeInstances volumes groups instances).length

theorem pairedOff_attachPairs (hdistinct : (idsOf groups).Nodup)
    (hattachable : Attachable volumes groups) (hids : (instances.map Instance.id).Nodup) :
    PairedOff volumes groups instances (attachPairs order volumes groups instances) := by
  have hperm := valuesOf_perm order (freeInstances volumes groups instances)
  refine ⟨hdistinct, hattachable, hids, ?_, fun pair hpair ↦ ?_, ?_⟩
  · have hnodup : (freeInstances volumes groups instances).Nodup := (hids.of_map _).filter _
    rw [attachPairs, map_fst_zip_eq_take]
    exact (hperm.nodup_iff.mpr hnodup).sublist (List.take_sublist _ _)
  · exact hperm.subset (List.of_mem_zip hpair).1
  · rw [attachPairs, map_snd_zip_eq_take, hperm.length_eq]

variable {pairs : List (Instance × List MountableVolume)}

theorem PairedOff.mem_available (hpaired : PairedOff volumes groups instances pairs)
    {pair : Instance × List MountableVolume} (hpair : pair ∈ pairs) :
    pair.2 ∈ availableGroups volumes groups := by
  have hmem : pair.2 ∈ pairs.map Prod.snd := List.mem_map_of_mem hpair
  rw [hpaired.pairs_groups] at hmem
  exact List.mem_of_mem_take hmem

/-- The volume of a mountable in a group that has been paired off is in use at its instance. -/
theorem PairedOff.status (hpaired : PairedOff volumes groups instances pairs)
    {pair : Instance × List MountableVolume} (hpair : pair ∈ pairs) {mountable : MountableVolume}
    (hmountable : mountable ∈ pair.2) {volume : Volume}
    (hvolume : volume ∈ (callsOf pairs).foldl attached volumes)
    (hid : volume.id = mountable.volumeId) :
    volume.status = .inUse ∧ volume.attachedTo = some pair.1.id := by
  have hsublist : (pairs.map Prod.snd).Sublist groups := by
    rw [hpaired.pairs_groups]
    exact (List.take_sublist _ _).trans List.filter_sublist
  have honce : ((callsOf pairs).map AttachCall.volumeId).Nodup := by
    rw [map_volumeId_callsOf]
    exact hpaired.distinct.sublist (hsublist.flatten.map _)
  exact status_of_mem_calls honce (mem_callsOf.mpr ⟨pair, hpair, mountable, hmountable, rfl⟩)
    hvolume hid

/-- A group that has not been paired off has its volumes as before. -/
theorem PairedOff.agreeOn (hpaired : PairedOff volumes groups instances pairs)
    {group : List MountableVolume} (hgroup : group ∈ groups) (hnot : group ∉ pairs.map Prod.snd) :
    AgreeOn (group.map MountableVolume.volumeId) ((callsOf pairs).foldl attached volumes)
      volumes := by
  refine agreeOn_foldl_attached fun call hcall hid ↦ hnot ?_
  obtain ⟨pair, hpair, mountable, hmountable, rfl⟩ := mem_callsOf.mp hcall
  obtain ⟨same, hsame, hkey⟩ := List.mem_map.mp hid
  have hother : pair.2 ∈ groups := (List.mem_filter.mp (hpaired.mem_available hpair)).1
  rw [group_eq_of_key_eq hpaired.distinct hgroup hother hsame hmountable hkey]
  exact List.mem_map_of_mem hpair

/-- Afterwards the available groups are the ones left over, and those with no volume. -/
theorem PairedOff.availableGroups_after (hpaired : PairedOff volumes groups instances pairs) :
    availableGroups ((callsOf pairs).foldl attached volumes) groups =
      (availableGroups volumes groups).filter fun group ↦
        group = [] ∨ group ∉ pairs.map Prod.snd := by
  rw [availableGroups, availableGroups, List.filter_filter]
  refine List.filter_congr fun group hgroup ↦ ?_
  rw [← Bool.decide_and, decide_eq_decide]
  by_cases hpairs : group ∈ pairs.map Prod.snd
  · obtain ⟨pair, hpair, rfl⟩ := List.mem_map.mp hpairs
    constructor
    · intro havailable
      have hempty : pair.2 = [] := by
        by_contra hsome
        obtain ⟨mountable, hmountable⟩ := List.exists_mem_of_ne_nil _ hsome
        obtain ⟨volume, hvolume, hid⟩ := (hpaired.attachable.foldl_attached (callsOf pairs)).exist
          mountable (List.mem_flatten_of_mem hgroup hmountable)
        have hstatus := (hpaired.status hpair hmountable hvolume hid).1
        rw [havailable mountable hmountable volume hvolume hid] at hstatus
        cases hstatus
      exact ⟨.inl hempty, of_decide_eq_true (List.mem_filter.mp (hpaired.mem_available hpair)).2⟩
    · rintro ⟨hempty | hnot, -⟩
      · rw [hempty]
        exact fun _ hmem ↦ absurd hmem List.not_mem_nil
      · exact absurd hpairs hnot
  · have hagree := hpaired.agreeOn hgroup hpairs
    rw [and_iff_right (.inr hpairs)]
    refine forall₂_congr fun mountable hmountable ↦ forall_congr' fun volume ↦ ?_
    have hsame (hid : volume.id = mountable.volumeId) :=
      hagree volume (hid ▸ List.mem_map_of_mem hmountable)
    exact ⟨fun h hvolume hid ↦ h ((hsame hid).mpr hvolume) hid,
      fun h hvolume hid ↦ h ((hsame hid).mp hvolume) hid⟩

/-- Afterwards an instance holds a volume when it did so before, or got one. -/
theorem PairedOff.holds_after_iff (hpaired : PairedOff volumes groups instances pairs)
    {instance_ : Instance} (hinstance : instance_ ∈ instances) :
    Holds ((callsOf pairs).foldl attached volumes) groups instance_.id ↔
      Holds volumes groups instance_.id ∨ Got pairs instance_ := by
  constructor
  · rintro ⟨mountable, hmountable, volume, hvolume, hid, hattached⟩
    obtain ⟨group, hgroup, hmem⟩ := List.mem_flatten.mp hmountable
    by_cases hpairs : group ∈ pairs.map Prod.snd
    · obtain ⟨pair, hpair, rfl⟩ := List.mem_map.mp hpairs
      rw [(hpaired.status hpair hmem hvolume hid).2, Option.some_inj] at hattached
      have hpairInstance : pair.1 ∈ instances := (List.mem_filter.mp (hpaired.free pair hpair)).1
      exact .inr ⟨pair, hpair, List.inj_on_of_nodup_map hpaired.instances_nodup hpairInstance
        hinstance hattached, List.ne_nil_of_mem hmem⟩
    · have hold :=
        (hpaired.agreeOn hgroup hpairs volume (hid ▸ List.mem_map_of_mem hmem)).mp hvolume
      exact .inl ⟨mountable, hmountable, volume, hold, hid, hattached⟩
  · rintro (⟨mountable, hmountable, volume, hvolume, hid, hattached⟩ | ⟨pair, hpair, rfl, hsome⟩)
    · obtain ⟨group, hgroup, hmem⟩ := List.mem_flatten.mp hmountable
      have hpairs : group ∉ pairs.map Prod.snd := by
        intro hpairs
        obtain ⟨pair, hpair, rfl⟩ := List.mem_map.mp hpairs
        have havailable := of_decide_eq_true (List.mem_filter.mp (hpaired.mem_available hpair)).2
        have hnone := hpaired.attachable.unattached volume hvolume
          (havailable mountable hmem volume hvolume hid)
        rw [hnone] at hattached
        cases hattached
      have hnew :=
        (hpaired.agreeOn hgroup hpairs volume (hid ▸ List.mem_map_of_mem hmem)).mpr hvolume
      exact ⟨mountable, hmountable, volume, hnew, hid, hattached⟩
    · obtain ⟨mountable, hmem⟩ := List.exists_mem_of_ne_nil _ hsome
      have hmountable : mountable ∈ groups.flatten :=
        List.mem_flatten_of_mem (List.mem_filter.mp (hpaired.mem_available hpair)).1 hmem
      obtain ⟨volume, hvolume, hid⟩ :=
        (hpaired.attachable.foldl_attached (callsOf pairs)).exist mountable hmountable
      exact ⟨mountable, hmountable, volume, hvolume, hid, (hpaired.status hpair hmem hvolume hid).2⟩

/-- Afterwards there are as many instances fewer as groups with a volume have been paired off. -/
theorem PairedOff.length_freeInstances_after (hpaired : PairedOff volumes groups instances pairs) :
    (freeInstances ((callsOf pairs).foldl attached volumes) groups instances).length +
        ((pairs.map Prod.snd).filter (· ≠ [])).length =
      (freeInstances volumes groups instances).length := by
  have hafter : freeInstances ((callsOf pairs).foldl attached volumes) groups instances =
      (freeInstances volumes groups instances).filter fun instance_ ↦ ¬ Got pairs instance_ := by
    rw [freeInstances, freeInstances, List.filter_filter]
    refine List.filter_congr fun instance_ hinstance ↦ ?_
    rw [← Bool.decide_and, decide_eq_decide, hpaired.holds_after_iff hinstance, not_or, and_comm]
  -- those that got one are the first components of the pairs with a volume
  have hgot : ((freeInstances volumes groups instances).filter fun instance_ ↦
      Got pairs instance_).Perm ((pairs.filter fun pair ↦ pair.2 ≠ []).map Prod.fst) := by
    have hfree : (freeInstances volumes groups instances).Nodup :=
      (hpaired.instances_nodup.of_map _).filter _
    rw [List.perm_ext_iff_of_nodup (hfree.filter _)
      (hpaired.pairs_instances.sublist (List.filter_sublist.map _))]
    intro instance_
    simp only [List.mem_filter, List.mem_map, decide_eq_true_eq]
    constructor
    · rintro ⟨-, pair, hpair, rfl, hsome⟩
      exact ⟨pair, ⟨hpair, hsome⟩, rfl⟩
    · rintro ⟨pair, ⟨hpair, hsome⟩, rfl⟩
      exact ⟨hpaired.free pair hpair, pair, hpair, rfl, hsome⟩
  have hsome : ((pairs.map Prod.snd).filter (· ≠ [])).length =
      (pairs.filter fun pair ↦ pair.2 ≠ []).length := by
    rw [List.filter_map, List.length_map]
    rfl
  have hlength := hgot.length_eq
  rw [List.length_map] at hlength
  rw [hafter, hsome, ← hlength, Nat.add_comm]
  have hsplit := List.length_eq_length_filter_add (l := freeInstances volumes groups instances)
    fun instance_ ↦ decide (Got pairs instance_)
  simpa using hsplit.symm

/-- Of groups that are left over after the first few, as many as are empty among these are empty. -/
theorem take_leftover_eq_nil {available : List (List MountableVolume)} {free left : ℕ}
    (hcount : left + ((available.take free).filter (· ≠ [])).length = free) :
    ∀ group ∈ (available.filter fun group ↦
      group = [] ∨ group ∉ available.take free).take left, group = [] := by
  have hfirst :
      (available.take free).filter (fun group ↦ group = [] ∨ group ∉ available.take free) =
      (available.take free).filter (· = []) := by
    refine List.filter_congr fun group hgroup ↦ decide_eq_decide.mpr ?_
    exact or_iff_left (not_not_intro hgroup)
  have hsplit : available.filter (fun group ↦ group = [] ∨ group ∉ available.take free) =
      (available.take free).filter (· = []) ++ (available.drop free).filter
        (fun group ↦ group = [] ∨ group ∉ available.take free) := by
    rw [← hfirst, ← List.filter_append, List.take_append_drop]
  have hempties : ∀ group ∈ (available.take free).filter (· = []), group = [] :=
    fun group hgroup ↦ of_decide_eq_true (List.mem_filter.mp hgroup).2
  intro group hgroup
  rw [hsplit] at hgroup
  by_cases hall : available.length ≤ free
  · -- every group has been paired off
    rw [List.drop_of_length_le hall, List.filter_nil, List.append_nil] at hgroup
    exact hempties group (List.mem_of_mem_take hgroup)
  · -- every instance has been paired off
    have hleft : left = ((available.take free).filter (· = [])).length := by
      have htaken : (available.take free).length = free := by
        rw [List.length_take]
        omega
      have hcounts := List.length_eq_length_filter_add (l := available.take free) fun group ↦
        decide (group = [])
      rw [htaken] at hcounts
      have hsome : ((available.take free).filter fun group ↦ !decide (group = [])) =
          (available.take free).filter (· ≠ []) :=
        List.filter_congr fun group _ ↦ (decide_not (p := group = [])).symm
      rw [hsome] at hcounts
      omega
    rw [hleft, List.take_left] at hgroup
    exact hempties group hgroup

/-- What an attach leaves over is not attached by another one. -/
theorem PairedOff.settled (hpaired : PairedOff volumes groups instances pairs) :
    callsOf (attachPairs order ((callsOf pairs).foldl attached volumes) groups instances) = [] := by
  have hperm := valuesOf_perm order
    (freeInstances ((callsOf pairs).foldl attached volumes) groups instances)
  have hcount := hpaired.length_freeInstances_after
  have hempty : ∀ group ∈ (availableGroups ((callsOf pairs).foldl attached volumes) groups).take
      (freeInstances ((callsOf pairs).foldl attached volumes) groups instances).length,
      group = [] := by
    rw [hpaired.availableGroups_after, hpaired.pairs_groups]
    rw [hpaired.pairs_groups] at hcount
    exact take_leftover_eq_nil hcount
  refine List.flatMap_eq_nil_iff.mpr fun pair hpair ↦ List.map_eq_nil_iff.mpr ?_
  have hmem : pair.2 ∈ (attachPairs order ((callsOf pairs).foldl attached volumes) groups
      instances).map Prod.snd := List.mem_map_of_mem hpair
  rw [attachPairs, map_snd_zip_eq_take, hperm.length_eq] at hmem
  exact hempty _ hmem

end Settled

/-! ### One role after the other -/

section Rounds

variable {passes : Text → Prop} {storage : StorageWorld} {name : Text} {account : SharedAccount}
variable {orders : ℕ → DictOrder} {seen : List Text} {world : AttachWorld}

/-- A well stored role can be attached. -/
theorem WellStored.attachable (hwell : WellStored passes storage) (role : Text) :
    Attachable storage.volumes (getInstanceStorageForRole role storage.file) where
  ids_nodup := hwell.ids_nodup
  unattached := hwell.unattached
  exist mountable hmountable := by
    obtain ⟨group, hgroup, hmem⟩ := List.mem_flatten.mp hmountable
    exact hwell.exist role _ ⟨group, hgroup, mountable, hmem, rfl⟩

/-- The id of a group's volume is recorded under the role. -/
theorem mem_idsOf_iff {role id : Text} {file : StorageFile} :
    id ∈ idsOf (getInstanceStorageForRole role file) ↔ RecordedUnder role file id := by
  simp only [idsOf, List.mem_map, List.mem_flatten, RecordedUnder]
  constructor
  · rintro ⟨mountable, ⟨group, hgroup, hmem⟩, hid⟩
    exact ⟨group, hgroup, mountable, hmem, hid⟩
  · rintro ⟨group, hgroup, mountable, hmem, hid⟩
    exact ⟨mountable, ⟨group, hgroup, hmem⟩, hid⟩

/-- The pairs of an attach from the start. -/
theorem pairedOff_rolePairs (hwell : WellStored passes storage) (order : DictOrder)
    (role : Text) : PairedOff storage.volumes (getInstanceStorageForRole role storage.file)
      (runningInRole name role account) (rolePairs order name account storage role) :=
  pairedOff_attachPairs (hwell.distinct role) (hwell.attachable role)
    (instancesDict _).keys_nodup

/-- The calls for a role are for volumes recorded under it. -/
theorem recordedUnder_of_mem_calls (hwell : WellStored passes storage) {order : DictOrder}
    {role : Text} {call : AttachCall}
    (hcall : call ∈ callsOf (rolePairs order name account storage role)) :
    RecordedUnder role storage.file call.volumeId := by
  obtain ⟨pair, hpair, mountable, hmountable, rfl⟩ := mem_callsOf.mp hcall
  have hgroup := (pairedOff_rolePairs hwell order role).mem_available hpair
  exact ⟨pair.2, (List.mem_filter.mp hgroup).1, mountable, hmountable, rfl⟩

/-- Between two rounds: the volumes of the roles that have not been seen are as at the start, and
those of a role that has been seen are as its first attach has left them. -/
structure BetweenRounds (name : Text) (account : SharedAccount) (storage : StorageWorld)
    (seen : List Text) (world : AttachWorld) : Prop where
  file : world.file = storage.file
  attachable : ∀ role, Attachable world.volumes (getInstanceStorageForRole role storage.file)
  unseen : ∀ role, role ∉ seen → AgreeOn (idsOf (getInstanceStorageForRole role storage.file))
    world.volumes storage.volumes
  settled : ∀ role ∈ seen, ∃ order,
    AgreeOn (idsOf (getInstanceStorageForRole role storage.file)) world.volumes
      ((callsOf (rolePairs order name account storage role)).foldl attached storage.volumes)

/-- The instances of a role are found when its name is valid. -/
theorem getInstancesInRole_eq {role : Text} (hrole : IsRoleName role)
    (stateFilter : Option InstanceState) : getInstancesInRole name role stateFilter account =
      .ok (getInstances (roleGroup name role) stateFilter account.reservations) := by
  rw [getInstancesInRole, groupNameForRole, hrole]
  rfl

/-- One round makes the calls of its pairs. -/
theorem round_eq {role : Text} {index : ℕ} (hrole : IsRoleName role)
    (hbetween : BetweenRounds name account storage seen world) :
    (do
      let instances ← Py.ofExcept (getInstancesInRole name role (some .running) account)
      attach (orders index) role instances : Py AttachWorld Unit) world =
      (.ok (), (callsOf (attachPairs (orders index) world.volumes
        (getInstanceStorageForRole role storage.file)
        (runningInRole name role account))).foldl AttachWorld.after world) := by
  have hattachable := hbetween.attachable role
  rw [← hbetween.file] at hattachable ⊢
  rw [getInstancesInRole_eq hrole, Py.bind_eq, Py.run_bind_ok (Py.run_ofExcept _ _)]
  exact attach_eq _ hattachable

/-- A role that has not been seen is attached as from the start. -/
theorem betweenRounds_attached (hwell : WellStored passes storage) {role : Text} {order : DictOrder}
    (hunseen : role ∉ seen) (hbetween : BetweenRounds name account storage seen world) :
    BetweenRounds name account storage (role :: seen)
      ((callsOf (rolePairs order name account storage role)).foldl AttachWorld.after world) := by
  rw [foldl_after]
  -- the calls of this role are for no volume of another one
  have hother {other : Text} (hne : other ≠ role) : AgreeOn
      (idsOf (getInstanceStorageForRole other storage.file))
      ((callsOf (rolePairs order name account storage role)).foldl attached world.volumes)
      world.volumes := by
    refine agreeOn_foldl_attached fun call hcall hid ↦ hne ?_
    exact hwell.apart other role _ (mem_idsOf_iff.mp hid) (recordedUnder_of_mem_calls hwell hcall)
  constructor
  · exact hbetween.file
  · exact fun other ↦ (hbetween.attachable other).foldl_attached _
  · intro other hnew
    obtain ⟨hne, hold⟩ := not_or.mp (mt List.mem_cons.mpr hnew)
    exact (hother hne).trans (hbetween.unseen other hold)
  · intro other hmem
    by_cases hsame : other = role
    · subst hsame
      exact ⟨order, (hbetween.unseen other hunseen).foldl_attached _⟩
    · obtain ⟨earlier, hagree⟩ := hbetween.settled other
        ((List.mem_cons.mp hmem).resolve_left hsame)
      exact ⟨earlier, (hother hsame).trans hagree⟩

/-- The rounds make the calls of the first round of each role, from the volumes at the start. -/
theorem attachRoles_eq (hwell : WellStored passes storage) {rounds : List (Text × ℕ)}
    (hroles : ∀ round ∈ rounds, IsRoleName round.1)
    (hbetween : BetweenRounds name account storage seen world) :
    ∃ after, attachRoles orders name account rounds world = (.ok (), after) ∧
      after.attachCalls = world.attachCalls ++ (firstRounds seen rounds).flatMap fun round ↦
        callsOf (rolePairs (orders round.2) name account storage round.1) := by
  induction rounds generalizing seen world with
  | nil => exact ⟨world, rfl, by simp [firstRounds]⟩
  | cons round rest ih =>
    obtain ⟨role, index⟩ := round
    obtain ⟨hrole, hrest⟩ := List.forall_mem_cons.mp hroles
    have hround := @round_eq storage name account orders seen world role index hrole hbetween
    rw [attachRoles, Py.forEach_cons, Py.run_bind_ok hround, firstRounds]
    by_cases hseen : role ∈ seen
    · have hnothing : callsOf (attachPairs (orders index) world.volumes
          (getInstanceStorageForRole role storage.file)
          (runningInRole name role account)) = [] := by
        obtain ⟨order, hagree⟩ := hbetween.settled role hseen
        rw [attachPairs_congr hagree]
        exact (pairedOff_rolePairs hwell order role).settled
      rw [if_pos hseen, hnothing]
      exact ih hrest hbetween
    · have hsame : attachPairs (orders index) world.volumes
          (getInstanceStorageForRole role storage.file) (runningInRole name role account) =
          rolePairs (orders index) name account storage role :=
        attachPairs_congr (hbetween.unseen role hseen) _ _
      rw [if_neg hseen, hsame]
      have hafter : BetweenRounds name account storage (role :: seen)
          ((callsOf (rolePairs (orders index) name account storage role)).foldl AttachWorld.after
            world) := betweenRounds_attached hwell hseen hbetween
      obtain ⟨after, hrun, hcalls⟩ := ih hrest hafter
      refine ⟨after, hrun, ?_⟩
      rw [hcalls, foldl_after, List.flatMap_cons]
      exact List.append_assoc _ _ _

/-- A first round is a round. -/
theorem mem_of_mem_firstRounds {rounds : List (Text × ℕ)} {round : Text × ℕ}
    (hround : round ∈ firstRounds seen rounds) : round ∈ rounds := by
  induction rounds generalizing seen with
  | nil => exact hround
  | cons head rest ih =>
    rw [firstRounds] at hround
    split_ifs at hround with hseen
    · exact List.mem_cons_of_mem _ (ih hround)
    · rcases List.mem_cons.mp hround with rfl | hmem
      · exact List.mem_cons_self
      · exact List.mem_cons_of_mem _ (ih hmem)

/-- Every role that comes and has not been seen has a first round. -/
theorem exists_mem_firstRounds {rounds : List (Text × ℕ)} {role : Text}
    (hrole : role ∈ rounds.map Prod.fst) (hunseen : role ∉ seen) :
    ∃ index, (role, index) ∈ firstRounds seen rounds := by
  induction rounds generalizing seen with
  | nil => exact absurd hrole List.not_mem_nil
  | cons head rest ih =>
    obtain ⟨first, index⟩ := head
    rw [firstRounds]
    by_cases hsame : role = first
    · subst hsame
      exact ⟨index, by simp [hunseen]⟩
    · have hrest := (List.mem_cons.mp hrole).resolve_left hsame
      split_ifs with hseen
      · exact ih hrest hunseen
      · obtain ⟨later, hlater⟩ := ih hrest (List.not_mem_cons_of_ne_of_not_mem hsame hunseen)
        exact ⟨later, List.mem_cons_of_mem _ hlater⟩

/-- Roles without storage are not attached. -/
theorem rolePairs_eq_nil {role : Text} (hnone : getInstanceStorageForRole role storage.file = [])
    (order : DictOrder) : rolePairs order name account storage role = [] := by
  rw [rolePairs, hnone, attachPairs, availableGroups, List.filter_nil, List.zip_nil_right]

/-- `_attach_storage` makes the calls of the first round of each role. What it prints afterwards
makes none, even where it raises. -/
theorem attachCalls_attachStorage (hwell : WellStored passes storage) {roles : List Text}
    (hroles : ∀ role ∈ roles, IsRoleName role) :
    (attachStorage orders name account roles ⟨storage, []⟩).2.attachCalls =
      (firstRounds [] roles.zipIdx).flatMap fun round ↦
        callsOf (rolePairs (orders round.2) name account storage round.1) := by
  have hmem {round : Text × ℕ} (hround : round ∈ roles.zipIdx) : round.1 ∈ roles :=
    List.fst_mem_of_mem_zipIdx hround
  rw [attachStorage, Py.bind_eq, Py.run_bind_ok (Py.run_get _)]
  by_cases hstorage : hasAnyStorage roles storage.file = true
  · have hstart : BetweenRounds name account storage [] ⟨storage, []⟩ :=
      ⟨rfl, hwell.attachable, fun _ _ _ _ ↦ Iff.rfl, fun _ hnone ↦ absurd hnone List.not_mem_nil⟩
    obtain ⟨after, hrun, hcalls⟩ := @attachRoles_eq passes storage name account orders [] _ hwell
      roles.zipIdx (fun round hround ↦ hroles _ (hmem hround)) hstart
    rw [if_pos hstorage, Py.bind_eq, Py.run_bind_ok hrun]
    exact hcalls
  · rw [if_neg hstorage]
    refine (List.flatMap_eq_nil_iff.mpr fun round hround ↦ ?_).symm
    have hnone : getInstanceStorageForRole round.1 storage.file = [] := by
      by_contra hsome
      refine hstorage (List.any_eq_true.mpr ⟨round.1, hmem (mem_of_mem_firstRounds hround), ?_⟩)
      exact decide_eq_true hsome
    rw [rolePairs_eq_nil hnone]
    rfl

end Rounds

end Ec2Wrappers.HadoopCloud
