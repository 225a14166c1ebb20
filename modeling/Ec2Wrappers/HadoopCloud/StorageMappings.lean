import Ec2Wrappers.Foundations.Shell
import Ec2Wrappers.HadoopCloud.StorageRounds

/-!
# The mounts an instance is told of

The value of `EBS_MAPPINGS` that `Service._launch_instances` sends, as `configure_hadoop` of
`hadoop/cloud/data/hadoop-cs61cec2-init-remote.sh` reads it, against the volumes that
`HadoopService._attach_storage` attaches.

The value is made of all groups of the last role of the template that has storage, one device for
each mount point (`mem_readMappings_iff`). An instance gets one group of each role in which it is
free when there are enough of them; which group, and whether it is one of those that get any,
depends on the order of a dictionary. So the two agree in every order exactly when the groups that
are handed out are all alike (`mountsExactly_iff`).
-/

set_option autoImplicit false
set_option relaxedAutoImplicit false

namespace Ec2Wrappers.HadoopCloud

open Foundations Aws

/-! ### Reading the mappings -/

/-- A character that a mount point and a device do not contain: the two marks, quotes, patterns and
white space. -/
def IsSpecial (c : Char) : Prop := c = quoteMark ∨ c ∈ ",;\"*?[ \t\n\r\x0b\x0c".toList

instance (c : Char) : Decidable (IsSpecial c) := inferInstanceAs (Decidable (_ ∨ _))

/-- A text without these characters. -/
def Plain (t : Text) : Prop := ∀ c ∈ t, ¬ IsSpecial c

instance (t : Text) : Decidable (Plain t) := inferInstanceAs (Decidable (∀ _ ∈ t, _))

/-- The loop of `configure_hadoop` over `$(echo "$EBS_MAPPINGS" | tr ";" "\n")`: `${mapping%,*}` and
`${mapping#*,}` of each word. -/
def readMappings (mappings : Text) : List (Text × Text) :=
  (Shell.fields (Shell.translate ';' '\n' mappings)).map fun mapping ↦
    (Shell.beforeLast ',' mapping, Shell.afterFirst ',' mapping)

/-- The mount points and the devices of the volumes recorded under a role. -/
def recordedPlaces (role : Text) (file : StorageFile) : List (Text × Text) :=
  (getInstanceStorageForRole role file).flatten.map MountableVolume.place

/-- The mapping is the last one for its mount point, of the last role that has storage. -/
def Mapped (file : StorageFile) (roles : List Text) (mapping : Text × Text) : Prop :=
  ∃ before role after, roles = before ++ role :: after ∧
    (∀ later ∈ after, getInstanceStorageForRole later file = []) ∧
      LastWithKey Prod.fst (recordedPlaces role file) mapping

section Reading

variable {client : Client} {mapping : Text × Text}

/-- Plain texts contain neither mark and no blank. -/
theorem Plain.not_mem {t : Text} (hplain : Plain t) :
    ',' ∉ t ∧ ';' ∉ t ∧ ∀ c ∈ t, ¬ Shell.IsBlank c := by
  refine ⟨fun hmem ↦ hplain _ hmem (by decide), fun hmem ↦ hplain _ hmem (by decide), ?_⟩
  rintro c hmem (rfl | rfl | rfl) <;> exact hplain _ hmem (by decide)

/-- Mappings of plain texts are read back. -/
theorem readMappings_intercalate {mappings : List (Text × Text)}
    (hplain : ∀ mapping ∈ mappings, Plain mapping.1 ∧ Plain mapping.2) :
    readMappings ([';'].intercalate (mappings.map fun mapping ↦ mapping.1 ++ ',' :: mapping.2)) =
      mappings := by
  rw [readMappings, Shell.fields_translate_intercalate, List.map_map]
  · refine (List.map_congr_left fun mapping hmapping ↦ ?_).trans (List.map_id mappings)
    obtain ⟨hmount, hdevice⟩ := hplain mapping hmapping
    exact Prod.ext (Shell.beforeLast_append_cons _ hdevice.not_mem.1)
      (Shell.afterFirst_append_cons hmount.not_mem.1 _)
  · refine List.forall_mem_map.mpr fun mapping hmapping ↦ ?_
    obtain ⟨⟨-, hmount, hmountBlank⟩, -, hdevice, hdeviceBlank⟩ :=
      (hplain mapping hmapping).imp Plain.not_mem Plain.not_mem
    refine ⟨by simp, by simp [hmount, hdevice], fun c hc ↦ ?_⟩
    rcases List.mem_append.mp hc with hc | hc
    · exact hmountBlank c hc
    · rcases List.mem_cons.mp hc with rfl | hc
      · decide
      · exact hdeviceBlank c hc

/-- The mappings of one role, read back. -/
theorem mem_readMappings_mappingsString {role : Text}
    (hplain : ∀ place ∈ recordedPlaces role client.storage, Plain place.1 ∧ Plain place.2) :
    mapping ∈ readMappings (client.mappingsString role) ↔
      LastWithKey Prod.fst (recordedPlaces role client.storage) mapping := by
  let table : Table (Prod.fst : Text × Text → Text) :=
    (recordedPlaces role client.storage).foldl Table.insertOrReplace Table.empty
  have hstring : client.mappingsString role = [';'].intercalate
      ((client.order.arrange table.rows).map fun mapping ↦ mapping.1 ++ ',' :: mapping.2) := by
    simp only [Client.mappingsString, table, recordedPlaces, List.foldl_map]
    rfl
  have hmem {place : Text × Text} : place ∈ client.order.arrange table.rows ↔
      LastWithKey Prod.fst (recordedPlaces role client.storage) place := by
    rw [(client.order.arrange_perm table.rows).mem_iff, Table.mem_foldl_insertOrReplace]
    simp [Table.empty]
  rw [hstring, readMappings_intercalate fun place hplace ↦ hplain place (hmem.mp hplace).mem, hmem]

/-- The mappings of a last role count, and those of the others when it has no storage. -/
theorem mapped_concat {file : StorageFile} {roles : List Text} {last : Text} :
    Mapped file (roles ++ [last]) mapping ↔
      LastWithKey Prod.fst (recordedPlaces last file) mapping ∨
        getInstanceStorageForRole last file = [] ∧ Mapped file roles mapping := by
  constructor
  · rintro ⟨before, role, after, hsplit, hafter, hmapped⟩
    obtain rfl | ⟨between, other, rfl⟩ := List.eq_nil_or_concat' after
    · obtain ⟨-, hsame⟩ := List.append_inj' hsplit rfl
      obtain rfl : last = role := by simpa using hsame
      exact Or.inl hmapped
    · have hroles : roles ++ [last] = (before ++ role :: between) ++ [other] := by
        simpa using hsplit
      obtain ⟨hbefore, hsame⟩ := List.append_inj' hroles rfl
      obtain rfl : last = other := by simpa using hsame
      obtain ⟨hbetween, hnone⟩ := List.forall_mem_append.mp hafter
      exact Or.inr ⟨hnone last (List.mem_singleton_self last), before, role, between, hbefore,
        hbetween, hmapped⟩
  · rintro (hmapped | ⟨hnone, before, role, after, rfl, hafter, hmapped⟩)
    · exact ⟨roles, last, [], rfl, by simp, hmapped⟩
    · refine ⟨before, role, after ++ [last], by simp, ?_, hmapped⟩
      exact List.forall_mem_append.mpr ⟨hafter, by simpa using hnone⟩

/-- A last role without storage does not count. -/
theorem mapped_concat_of_nil {file : StorageFile} {roles : List Text} {last : Text}
    (hnone : getInstanceStorageForRole last file = []) :
    Mapped file (roles ++ [last]) mapping ↔ Mapped file roles mapping := by
  have hplaces : recordedPlaces last file = [] := by rw [recordedPlaces, hnone]; rfl
  rw [mapped_concat, hplaces, or_iff_right lastWithKey_nil, and_iff_right hnone]

/-- A last role with storage is the one that counts. -/
theorem mapped_concat_of_ne_nil {file : StorageFile} {roles : List Text} {last : Text}
    (hsome : getInstanceStorageForRole last file ≠ []) :
    Mapped file (roles ++ [last]) mapping ↔
      LastWithKey Prod.fst (recordedPlaces last file) mapping := by
  rw [mapped_concat, or_iff_left fun hnone ↦ hsome hnone.1]

/-- The mappings of the roles of a template, read back. -/
theorem mem_readMappings_iff (hprovider : client.provider ≠ .dummy) {roles : List Text}
    (hplain : ∀ role, ∀ place ∈ recordedPlaces role client.storage, Plain place.1 ∧ Plain place.2) :
    mapping ∈ readMappings (client.ebsMappings roles) ↔ Mapped client.storage roles mapping := by
  have hstorage (role : Text) : client.hasStorage role = true ↔
      getInstanceStorageForRole role client.storage ≠ [] := by
    simp [Client.hasStorage, hprovider]
  induction roles using List.reverseRecOn with
  | nil =>
    refine iff_of_false List.not_mem_nil ?_
    rintro ⟨before, role, after, hsplit, -⟩
    simp at hsplit
  | append_singleton roles last ih =>
    have hconcat : client.ebsMappings (roles ++ [last]) = if client.hasStorage last then
        client.mappingsString last else client.ebsMappings roles := by
      rw [Client.ebsMappings, List.foldl_append, ← Client.ebsMappings]
      rfl
    rw [hconcat]
    by_cases hlast : getInstanceStorageForRole last client.storage = []
    · rw [if_neg (mt (hstorage last).mp (not_not_intro hlast)), mapped_concat_of_nil hlast]
      exact ih
    · rw [if_pos ((hstorage last).mpr hlast), mapped_concat_of_ne_nil hlast]
      exact mem_readMappings_mappingsString (hplain last)

/-- The mappings of a request are those of the roles of its template. -/
theorem ebsMappings_of_request {template : InstanceTemplate} {request : LaunchRequest client.order}
    (hrequest : client.request template = .ok request) :
    request.instanceUserData.environment.pairs.ebsMappings = client.ebsMappings template.roles := by
  obtain ⟨awsAccessKeyId, -, hrequest⟩ := ok_of_bind hrequest
  obtain ⟨awsSecretAccessKey, -, hrequest⟩ := ok_of_bind hrequest
  obtain ⟨environment, hbuild, hrequest⟩ := ok_of_bind hrequest
  cases hrequest
  rw [(Environment.build_eq_ok hbuild).2]

end Reading

/-! ### What is attached -/

/-- The volume of a call has this mount point and device, and the call is for the instance. -/
def AttachedAt (calls : List AttachCall) (file : StorageFile) (instanceId : Text)
    (place : Text × Text) : Prop :=
  ∃ call ∈ calls, call.instanceId = instanceId ∧
    ∃ role, ∃ mountable ∈ (getInstanceStorageForRole role file).flatten,
      mountable.volumeId = call.volumeId ∧ mountable.place = place

/-- The running instances of a role that hold none of its volumes. -/
def freeInRole (name : Text) (account : SharedAccount) (storage : StorageWorld) (role : Text) :
    List Instance :=
  freeInstances storage.volumes (getInstanceStorageForRole role storage.file)
    (runningInRole name role account)

/-- The groups of a role whose volumes are all available. -/
def availableInRole (storage : StorageWorld) (role : Text) : List (List MountableVolume) :=
  availableGroups storage.volumes (getInstanceStorageForRole role storage.file)

/-- The groups of a role that are handed out to its free instances. -/
def handedOut (name : Text) (account : SharedAccount) (storage : StorageWorld) (role : Text) :
    List (List MountableVolume) :=
  (availableInRole storage role).take (freeInRole name account storage role).length

/-- The order of a dictionary in which the entry with the given key is at the given place. -/
def placing (key : Text) (place : ℕ) : DictOrder where
  arrange items :=
    (items.filter fun item ↦ item.1 ≠ key).take place ++
      (items.filter fun item ↦ item.1 = key) ++
        (items.filter fun item ↦ item.1 ≠ key).drop place
  arrange_perm items := by
    have hothers := List.take_append_drop place (items.filter fun item ↦ item.1 ≠ key)
    have hsplit := List.filter_append_perm (fun item ↦ item.1 = key) items
    rw [List.append_assoc]
    refine (List.perm_append_comm_assoc _ _ _).trans ?_
    rw [hothers]
    simpa using hsplit

section Attached

variable {passes : Text → Prop} {storage : StorageWorld} {name : Text} {account : SharedAccount}
variable {orders : ℕ → DictOrder} {order : DictOrder} {roles : List Text} {role : Text}
variable {place : Text × Text} {instance_ : Instance}

/-- The calls for an instance are those of its groups, one for each role that gives it one. -/
theorem attachedAt_iff (hwell : WellStored passes storage)
    (hroles : ∀ role ∈ roles, IsRoleName role) {instanceId : Text} :
    AttachedAt (attachStorage orders name account roles ⟨storage, []⟩).2.attachCalls storage.file
        instanceId place ↔
      ∃ round ∈ firstRounds [] roles.zipIdx,
        ∃ pair ∈ rolePairs (orders round.2) name account storage round.1,
          pair.1.id = instanceId ∧ place ∈ pair.2.map MountableVolume.place := by
  rw [attachCalls_attachStorage hwell hroles]
  constructor
  · rintro ⟨call, hcall, rfl, other, recorded, hrecorded, hid, rfl⟩
    obtain ⟨round, hround, hmem⟩ := List.mem_flatMap.mp hcall
    obtain ⟨pair, hpair, mountable, hmountable, rfl⟩ := mem_callsOf.mp hmem
    refine ⟨round, hround, pair, hpair, rfl, List.mem_map.mpr ⟨mountable, hmountable, ?_⟩⟩
    -- a volume is recorded once
    have hgroup := (pairedOff_rolePairs hwell _ _).mem_available hpair
    have hhere : mountable ∈ (getInstanceStorageForRole round.1 storage.file).flatten :=
      List.mem_flatten_of_mem (List.mem_filter.mp hgroup).1 hmountable
    obtain rfl : other = round.1 := hwell.apart _ _ recorded.volumeId
      (mem_idsOf_iff.mp (List.mem_map_of_mem hrecorded))
      (hid ▸ mem_idsOf_iff.mp (List.mem_map_of_mem hhere))
    rw [List.inj_on_of_nodup_map (hwell.distinct _) hhere hrecorded hid.symm]
  · rintro ⟨round, hround, pair, hpair, rfl, hplace⟩
    obtain ⟨mountable, hmountable, rfl⟩ := List.mem_map.mp hplace
    have hgroup := (pairedOff_rolePairs hwell _ _).mem_available hpair
    refine ⟨_, List.mem_flatMap.mpr ⟨round, hround, mem_callsOf.mpr
      ⟨pair, hpair, mountable, hmountable, rfl⟩⟩, rfl, round.1, mountable, ?_, rfl, rfl⟩
    exact List.mem_flatten_of_mem (List.mem_filter.mp hgroup).1 hmountable

/-- The pairs of a role. -/
theorem rolePairs_eq (order : DictOrder) : rolePairs order name account storage role =
    (valuesOf order (freeInRole name account storage role)).zip
      (availableInRole storage role) := rfl

/-- A pair is a free instance with a group that is handed out. -/
theorem mem_handedOut_of_mem_rolePairs {pair : Instance × List MountableVolume}
    (hpair : pair ∈ rolePairs order name account storage role) :
    pair.1 ∈ freeInRole name account storage role ∧
      pair.2 ∈ handedOut name account storage role := by
  have hperm := valuesOf_perm order (freeInRole name account storage role)
  refine ⟨hperm.subset (List.of_mem_zip hpair).1, ?_⟩
  have hgroup : pair.2 ∈ (rolePairs order name account storage role).map Prod.snd :=
    List.mem_map_of_mem hpair
  rw [rolePairs_eq, map_snd_zip_eq_take, hperm.length_eq] at hgroup
  exact hgroup

/-- Where there are enough groups every free instance gets one. -/
theorem exists_mem_rolePairs (hfree : instance_ ∈ freeInRole name account storage role)
    (henough : (freeInRole name account storage role).length ≤
      (availableInRole storage role).length) :
    ∃ group, (instance_, group) ∈ rolePairs order name account storage role := by
  have hperm := valuesOf_perm order (freeInRole name account storage role)
  have hmem : instance_ ∈ (rolePairs order name account storage role).map Prod.fst := by
    rw [rolePairs_eq, map_fst_zip_eq_take, List.take_of_length_le (hperm.length_eq ▸ henough)]
    exact hperm.mem_iff.mpr hfree
  obtain ⟨⟨first, group⟩, hpair, rfl⟩ := List.mem_map.mp hmem
  exact ⟨group, hpair⟩

/-- The ids of the free instances of a role are different. -/
theorem freeInRole_ids_nodup : ((freeInRole name account storage role).map Instance.id).Nodup :=
  (instancesDict _).keys_nodup.sublist (List.filter_sublist.map _)

/-- Where an entry has been placed. -/
theorem getElem?_placing {instances : List Instance} (hnodup : (instances.map Instance.id).Nodup)
    (hmem : instance_ ∈ instances) {index : ℕ} (hindex : index < instances.length) :
    (valuesOf (placing instance_.id index) instances)[index]? = some instance_ := by
  let others := instances.filter fun other ↦ other.id ≠ instance_.id
  have hsame : instances.filter (fun other ↦ other.id = instance_.id) = [instance_] := by
    refine List.perm_singleton.mp ?_
    rw [List.perm_ext_iff_of_nodup ((hnodup.of_map _).filter _) (List.nodup_singleton _)]
    intro other
    rw [List.mem_filter, List.mem_singleton, decide_eq_true_iff]
    constructor
    · rintro ⟨hother, hid⟩
      exact List.inj_on_of_nodup_map hnodup hother hmem hid
    · rintro rfl
      exact ⟨hmem, rfl⟩
  have hvalues : valuesOf (placing instance_.id index) instances =
      others.take index ++ ([instance_] ++ others.drop index) := by
    rw [← hsame, ← List.append_assoc]
    simp only [valuesOf, placing, others, List.filter_map, List.map_append, List.map_take,
      List.map_drop, List.map_map]
    simp [Function.comp_def]
  have hcount : (others.take index).length = index := by
    have hsplit := List.length_eq_length_filter_add (l := instances) fun other ↦
      decide (other.id = instance_.id)
    rw [hsame] at hsplit
    have hothers : instances.filter (fun other ↦ !decide (other.id = instance_.id)) = others := by
      simp [others]
    rw [hothers, List.length_singleton] at hsplit
    rw [List.length_take]
    omega
  rw [hvalues, List.getElem?_append_right hcount.le, hcount, Nat.sub_self]
  rfl

/-- An instance that has been placed gets the group in its place. -/
theorem mem_rolePairs_placing (hfree : instance_ ∈ freeInRole name account storage role) {index : ℕ}
    (hindex : index < (freeInRole name account storage role).length)
    {group : List MountableVolume} :
    (instance_, group) ∈ rolePairs (placing instance_.id index) name account storage role ↔
      (availableInRole storage role)[index]? = some group := by
  have hplaced := getElem?_placing freeInRole_ids_nodup hfree hindex
  rw [rolePairs_eq, List.mem_iff_getElem?]
  constructor
  · rintro ⟨other, hpair⟩
    obtain ⟨hinstance, hgroup⟩ := List.getElem?_zip_eq_some.mp hpair
    have hperm := valuesOf_perm (placing instance_.id index) (freeInRole name account storage role)
    have hnodup := hperm.nodup_iff.mpr freeInRole_ids_nodup.of_map
    obtain rfl : index = other := by
      refine (List.getElem?_inj ?_ hnodup).mp (hplaced.trans hinstance.symm)
      rw [hperm.length_eq]
      exact hindex
    exact hgroup
  · intro hgroup
    exact ⟨index, List.getElem?_zip_eq_some.mpr ⟨hplaced, hgroup⟩⟩

end Attached

/-! ### Mounting exactly what is attached -/

/-- In whatever orders Python goes through its dictionaries, each of the instances is told of
exactly the mount points and devices of the volumes that are attached to it. -/
def MountsExactly (mappings name : Text) (account : SharedAccount) (storage : StorageWorld)
    (roles launched : List Text) : Prop :=
  ∀ orders : ℕ → DictOrder, ∀ instanceId ∈ launched, ∀ place,
    place ∈ readMappings mappings ↔ AttachedAt
      (attachStorage orders name account roles ⟨storage, []⟩).2.attachCalls storage.file instanceId
      place

/-- Every group that may be handed out to the instance is mapped, and every mapping is in each of
the groups that are handed out in some role, where no free instance goes without a group. -/
structure SharedAlike (name : Text) (account : SharedAccount) (storage : StorageWorld)
    (roles : List Text) (instanceId : Text) : Prop where
  within : ∀ role ∈ roles, instanceId ∈ (freeInRole name account storage role).map Instance.id →
    ∀ group ∈ handedOut name account storage role, ∀ mountable ∈ group,
      Mapped storage.file roles mountable.place
  covered : ∀ place, Mapped storage.file roles place → ∃ role ∈ roles,
    instanceId ∈ (freeInRole name account storage role).map Instance.id ∧
      (freeInRole name account storage role).length ≤ (availableInRole storage role).length ∧
        ∀ group ∈ handedOut name account storage role, place ∈ group.map MountableVolume.place

section Exactly

variable {passes : Text → Prop} {storage : StorageWorld} {name : Text} {account : SharedAccount}
variable {orders : ℕ → DictOrder} {roles : List Text} {role instanceId : Text}
variable {place : Text × Text}

/-- A role of the list has a first round in it. -/
theorem exists_firstRound (hrole : role ∈ roles) :
    ∃ index, (role, index) ∈ firstRounds [] roles.zipIdx ∧ roles[index]? = some role := by
  have hmem : role ∈ roles.zipIdx.map Prod.fst := by
    rwa [List.zipIdx_map_fst]
  obtain ⟨index, hround⟩ := exists_mem_firstRounds hmem List.not_mem_nil
  exact ⟨index, hround, List.mem_zipIdx_iff_getElem?.mp (mem_of_mem_firstRounds hround)⟩

/-- With groups that are shared alike the instance gets every mapping. -/
theorem SharedAlike.attachedAt (hwell : WellStored passes storage)
    (hroles : ∀ role ∈ roles, IsRoleName role)
    (halike : SharedAlike name account storage roles instanceId)
    (hmapped : Mapped storage.file roles place) :
    AttachedAt (attachStorage orders name account roles ⟨storage, []⟩).2.attachCalls storage.file
      instanceId place := by
  obtain ⟨role, hrole, hfree, henough, hall⟩ := halike.covered place hmapped
  obtain ⟨instance_, hinstance, rfl⟩ := List.mem_map.mp hfree
  obtain ⟨index, hround, -⟩ := exists_firstRound hrole
  obtain ⟨group, hpair⟩ := exists_mem_rolePairs hinstance henough
  refine (attachedAt_iff hwell hroles).mpr ⟨_, hround, _, hpair, rfl, ?_⟩
  exact hall group (mem_handedOut_of_mem_rolePairs hpair).2

/-- With groups that are shared alike the instance gets nothing else. -/
theorem SharedAlike.mapped (hwell : WellStored passes storage)
    (hroles : ∀ role ∈ roles, IsRoleName role)
    (halike : SharedAlike name account storage roles instanceId)
    (hattached : AttachedAt (attachStorage orders name account roles ⟨storage, []⟩).2.attachCalls
      storage.file instanceId place) : Mapped storage.file roles place := by
  obtain ⟨round, hround, pair, hpair, rfl, hplace⟩ := (attachedAt_iff hwell hroles).mp hattached
  obtain ⟨mountable, hmountable, rfl⟩ := List.mem_map.mp hplace
  obtain ⟨hfree, hgroup⟩ := mem_handedOut_of_mem_rolePairs hpair
  have hrole : round.1 ∈ roles := List.fst_mem_of_mem_zipIdx (mem_of_mem_firstRounds hround)
  exact halike.within round.1 hrole (List.mem_map_of_mem hfree) _ hgroup mountable hmountable

/-- A group that is handed out is one that the instance gets in some order. -/
theorem attachedAt_placing (hwell : WellStored passes storage)
    (hroles : ∀ role ∈ roles, IsRoleName role) (hrole : role ∈ roles)
    (hfree : instanceId ∈ (freeInRole name account storage role).map Instance.id)
    {group : List MountableVolume} (hgroup : group ∈ handedOut name account storage role)
    {mountable : MountableVolume} (hmountable : mountable ∈ group) :
    ∃ orders : ℕ → DictOrder, AttachedAt
      (attachStorage orders name account roles ⟨storage, []⟩).2.attachCalls storage.file instanceId
      mountable.place := by
  obtain ⟨instance_, hinstance, rfl⟩ := List.mem_map.mp hfree
  obtain ⟨place, hplace⟩ := List.mem_iff_getElem?.mp hgroup
  rw [handedOut, List.getElem?_take] at hplace
  split_ifs at hplace with hbound
  obtain ⟨index, hround, -⟩ := exists_firstRound hrole
  have hpair := (mem_rolePairs_placing hinstance hbound).mpr hplace
  exact ⟨fun _ ↦ placing instance_.id place, (attachedAt_iff hwell hroles).mpr
    ⟨_, hround, _, hpair, rfl, List.mem_map_of_mem hmountable⟩⟩

/-- Where a place is not in all groups that are handed out in a role, or some instance goes without
one, there is an order in which the instance does not get it. -/
theorem exists_place_without (hnot : ¬ ((freeInRole name account storage role).length ≤
      (availableInRole storage role).length ∧
        ∀ group ∈ handedOut name account storage role, place ∈ group.map MountableVolume.place))
    {instance_ : Instance} (hfree : instance_ ∈ freeInRole name account storage role) :
    ∃ index, ∀ group,
      (instance_, group) ∈ rolePairs (placing instance_.id index) name account storage role →
        place ∉ group.map MountableVolume.place := by
  have hpositive := List.length_pos_of_mem hfree
  by_cases henough : (freeInRole name account storage role).length ≤
      (availableInRole storage role).length
  · obtain ⟨group, hgroup, hwithout⟩ : ∃ group ∈ handedOut name account storage role,
        place ∉ group.map MountableVolume.place := by
      by_contra hall
      refine hnot ⟨henough, fun group hgroup ↦ by_contra fun hwithout ↦ hall ?_⟩
      exact ⟨group, hgroup, hwithout⟩
    obtain ⟨index, hindex⟩ := List.mem_iff_getElem?.mp hgroup
    rw [handedOut, List.getElem?_take] at hindex
    split_ifs at hindex with hbound
    refine ⟨index, fun other hpair ↦ ?_⟩
    rw [mem_rolePairs_placing hfree hbound, hindex, Option.some_inj] at hpair
    exact hpair ▸ hwithout
  · -- the last place is behind the last group
    refine ⟨(freeInRole name account storage role).length - 1, fun group hpair ↦ ?_⟩
    rw [mem_rolePairs_placing hfree (by omega), List.getElem?_eq_none (by omega)] at hpair
    cases hpair

/-- A place that the instance gets in every order is shared alike in one of the roles. -/
theorem covered_of_attachedAt (hwell : WellStored passes storage)
    (hroles : ∀ role ∈ roles, IsRoleName role)
    (hattached : ∀ orders : ℕ → DictOrder, AttachedAt
      (attachStorage orders name account roles ⟨storage, []⟩).2.attachCalls storage.file instanceId
      place) :
    ∃ role ∈ roles, instanceId ∈ (freeInRole name account storage role).map Instance.id ∧
      (freeInRole name account storage role).length ≤ (availableInRole storage role).length ∧
        ∀ group ∈ handedOut name account storage role,
          place ∈ group.map MountableVolume.place := by
  by_contra hnone
  -- for each role a place in the dictionary at which the instance does not get it
  have hplaces : ∀ role, ∃ index, role ∈ roles → ∀ pair ∈
      rolePairs (placing instanceId index) name account storage role, pair.1.id = instanceId →
        place ∉ pair.2.map MountableVolume.place := by
    intro role
    by_cases hfree : role ∈ roles ∧
        instanceId ∈ (freeInRole name account storage role).map Instance.id
    · obtain ⟨hrole, hid⟩ := hfree
      obtain ⟨instance_, hinstance, rfl⟩ := List.mem_map.mp hid
      obtain ⟨index, hwithout⟩ := exists_place_without
        (fun hall ↦ hnone ⟨role, hrole, List.mem_map_of_mem hinstance, hall⟩) hinstance
      refine ⟨index, fun _ pair hpair hsame ↦ ?_⟩
      have hpairFree := (mem_handedOut_of_mem_rolePairs hpair).1
      obtain rfl : pair.1 = instance_ :=
        List.inj_on_of_nodup_map freeInRole_ids_nodup hpairFree hinstance hsame
      exact hwithout pair.2 hpair
    · refine ⟨0, fun hrole pair hpair hsame ↦ absurd ⟨hrole, ?_⟩ hfree⟩
      exact hsame ▸ List.mem_map_of_mem (mem_handedOut_of_mem_rolePairs hpair).1
  choose index hindex using hplaces
  obtain ⟨round, hround, pair, hpair, hid, hplace⟩ := (attachedAt_iff hwell hroles).mp
    (hattached fun position ↦ placing instanceId (roles[position]?.elim 0 index))
  have hrole := List.mem_zipIdx_iff_getElem?.mp (mem_of_mem_firstRounds hround)
  rw [hrole] at hpair
  exact hindex round.1 (List.mem_of_getElem? hrole) pair hpair hid hplace

end Exactly

/-- A launched instance is told to mount exactly what is attached to it, in whatever order, when the
groups that may be handed out to it are all alike. -/
theorem mountsExactly_iff {client : Client} {first storage : StorageWorld}
    {events : List StorageEvent} (hfile : first.file = Table.empty)
    (hids : (first.volumes.map Volume.id).Nodup)
    (hunattached : ∀ volume ∈ first.volumes, volume.status = .available → volume.attachedTo = none)
    (hhistory : Run (StorageStep Plain) first events storage)
    (hprovider : client.provider ≠ .dummy) (hstorage : client.storage = storage.file)
    {template : InstanceTemplate} (hroles : ∀ role ∈ template.roles, IsRoleName role)
    {request : LaunchRequest client.order} (hrequest : client.request template = .ok request)
    (name : Text) (account : SharedAccount) (launched : List Text) :
    MountsExactly request.instanceUserData.environment.pairs.ebsMappings name account storage
        template.roles launched ↔
      ∀ instanceId ∈ launched, SharedAlike name account storage template.roles instanceId := by
  have hwell : WellStored Plain storage := by
    refine wellStored_history hhistory ?_
    have hempty := @wellStored_empty Plain first.volumes first.deleteRequests hids hunattached
    rwa [← hfile] at hempty
  have hplain (role : Text) : ∀ place ∈ recordedPlaces role client.storage,
      Plain place.1 ∧ Plain place.2 := by
    rw [hstorage]
    exact List.forall_mem_map.mpr (hwell.passed role)
  rw [ebsMappings_of_request hrequest]
  unfold MountsExactly
  simp only [mem_readMappings_iff hprovider hplain, hstorage]
  constructor
  · intro hexactly instanceId hlaunched
    constructor
    · intro role hrole hfree group hgroup mountable hmountable
      obtain ⟨orders, hattached⟩ :=
        attachedAt_placing hwell hroles hrole hfree hgroup hmountable
      exact (hexactly orders instanceId hlaunched _).mpr hattached
    · intro place hmapped
      exact covered_of_attachedAt hwell hroles fun orders ↦
        (hexactly orders instanceId hlaunched place).mp hmapped
  · intro halike orders instanceId hlaunched place
    exact ⟨(halike instanceId hlaunched).attachedAt hwell hroles,
      (halike instanceId hlaunched).mapped hwell hroles⟩

/-- A volume for the namenode and another one for the secondary namenode. -/
def mastersSpec : SpecFile :=
  [("nn".toList, [⟨10, "/ebs1".toList, "/dev/sdj".toList, none⟩]),
    ("snn".toList, [⟨10, "/ebs2".toList, "/dev/sdk".toList, none⟩])]

/-- The two volumes are created and become available. -/
def mastersEvents : List StorageEvent :=
  [.create (answersOf ["vol-1".toList]) (.ok mastersSpec) "nn".toList 1 "us-east-1a".toList,
    .create (answersOf ["vol-2".toList]) (.ok mastersSpec) "snn".toList 1 "us-east-1a".toList,
    .change fun volume ↦ { volume with status := .available }]

/-- The storage of the two masters. -/
def mastersStorage : StorageWorld := mastersEvents.foldl StorageWorld.next noStorage

theorem run_mastersEvents : Run (StorageStep Plain) noStorage mastersEvents mastersStorage := by
  have hpasses {spec : SpecFile} (hspec : Except.ok mastersSpec = (.ok spec : Except PyError _)) :
      SpecPasses Plain spec := by
    cases hspec
    exact show ∀ _ ∈ _, ∀ _ ∈ _, _ by decide +kernel
  refine .head ⟨⟨?_, fun _ ↦ hpasses⟩, rfl⟩ (.head ⟨⟨?_, fun _ ↦ hpasses⟩, rfl⟩
    (.head ⟨?_, rfl⟩ (.refl _)))
  · exact freshAnswers_answersOf (by decide) (by decide)
  · refine freshAnswers_answersOf (by decide) ?_
    exact show ∀ _ ∈ _, _ ∉ _ ∧ ∀ _ ∈ _, _ by decide +kernel
  · exact show ∀ _ ∈ _, _ ∧ (_ → _) by decide +kernel

/-- One instance for both masters. -/
def mastersTemplate : InstanceTemplate :=
  .ofArguments ["nn".toList, "snn".toList] 1 []

/-- The client that launches it. -/
def mastersClient : Client where
  provider := .ec2
  dataPath := "data".toList
  awsAccessKeyId := some "AKIA1".toList
  awsSecretAccessKey := some "secret".toList
  storage := mastersStorage.file
  order := inOrder

/-- The account once the instance runs. -/
def mastersAccount : SharedAccount where
  groups := Table.empty
  launches := [⟨"c".toList, ["nn".toList, "snn".toList],
    ⟨[⟨"c".toList⟩, ⟨"c-nn".toList⟩, ⟨"c-snn".toList⟩], [datanode "i-1".toList]⟩⟩]
  ids_nodup := by decide

theorem request_mastersTemplate : ∃ request, mastersClient.request mastersTemplate = .ok request :=
  request_returns_iff.mpr ⟨by decide, by decide, show ∀ _ ∈ _, _ from by decide,
    by simp [mastersTemplate, InstanceTemplate.ofArguments, IsTexts],
    by simp [mastersTemplate, InstanceTemplate.ofArguments, IsTexts]⟩

theorem isRoleName_mastersTemplate : ∀ role ∈ mastersTemplate.roles, IsRoleName role :=
  show ∀ role ∈ _, checkRoleName role = _ by decide +kernel

theorem mountsExactly_iff_masters : ∃ request,
    mastersClient.request mastersTemplate = .ok request ∧
      (MountsExactly request.instanceUserData.environment.pairs.ebsMappings "c".toList
        mastersAccount mastersStorage mastersTemplate.roles ["i-1".toList] ↔
        ∀ instanceId ∈ ["i-1".toList],
          SharedAlike "c".toList mastersAccount mastersStorage
            mastersTemplate.roles instanceId) := by
  obtain ⟨request, hrequest⟩ := request_mastersTemplate
  exact ⟨request, hrequest, mountsExactly_iff rfl (by decide) (by decide) run_mastersEvents
    (by decide) rfl isRoleName_mastersTemplate hrequest _ _ _⟩

/-- An instance in two roles with different volumes is told of the second one's only. -/
theorem firstRole_unmounted : Run (StorageStep Plain) noStorage mastersEvents mastersStorage ∧
    ∃ request, mastersClient.request mastersTemplate = .ok request ∧
      ¬ MountsExactly request.instanceUserData.environment.pairs.ebsMappings "c".toList
        mastersAccount mastersStorage mastersTemplate.roles ["i-1".toList] := by
  obtain ⟨request, hrequest⟩ := request_mastersTemplate
  refine ⟨run_mastersEvents, request, hrequest, fun hexactly ↦ ?_⟩
  rw [ebsMappings_of_request hrequest] at hexactly
  have hattached : AttachedAt (attachStorage (fun _ ↦ inOrder) "c".toList mastersAccount
      mastersTemplate.roles ⟨mastersStorage, []⟩).2.attachCalls mastersStorage.file "i-1".toList
      ("/ebs1".toList, "/dev/sdj".toList) :=
    ⟨⟨"vol-1".toList, "i-1".toList, "/dev/sdj".toList⟩, by decide +kernel, rfl, "nn".toList,
      ⟨"vol-1".toList, "/ebs1".toList, "/dev/sdj".toList⟩, by decide +kernel, rfl, rfl⟩
  have htold := (hexactly _ _ List.mem_cons_self _).mpr hattached
  exact absurd htold (by decide +kernel)

end Ec2Wrappers.HadoopCloud
