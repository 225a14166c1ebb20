import Ec2Wrappers.HadoopCloud.Storage
import Mathlib.Data.List.Pairwise

/-!
# Which volumes a deletion of storage reaches

`Service.delete_storage` with `force`. When a volume is recorded, printing the status raises and
nothing is deleted. When none is, each role is given to `Ec2Storage.delete` character by character:
the characters are looked up as roles, nothing is recorded for them, and the lookup of no volume id
is the lookup of every volume of the account. If all of them are available, all of them are deleted
(`unrecordedVolume_deleted`).

`DeletesRecorded` says what the deletion is for: only recorded volumes are asked for, and when it
returns with all of them available, exactly they have been and no role is left in the file.
`deleteStorage_iff` says for which files and accounts that is what happens.
-/

set_option autoImplicit false
set_option relaxedAutoImplicit false

namespace Ec2Wrappers.HadoopCloud

open Foundations Aws

/-! ### What the deletion is for -/

/-- Every recorded volume is available. -/
def RecordedAvailable (file : StorageFile) (volumes : List Volume) : Prop :=
  ∀ id ∈ recordedIds file, ∃ volume ∈ volumes, volume.id = id ∧ volume.status = .available

/-- A deletion asks only for recorded volumes, and if it returns with all of them available it has
asked for exactly these and has left no role in the file. -/
def DeletesRecorded (file : StorageFile) (volumes : List Volume)
    (outcome : Except PyError Unit × StorageWorld) : Prop :=
  (∀ id ∈ outcome.2.deleteRequests, id ∈ recordedIds file) ∧
    (outcome.1 = .ok () → RecordedAvailable file volumes →
      (∀ id ∈ recordedIds file, id ∈ outcome.2.deleteRequests) ∧ outcome.2.file.rows = [])

/-- The outcome of `Service.delete_storage` with `force`. -/
def forcedDeletion (file : StorageFile) (volumes : List Volume) :
    Except PyError Unit × StorageWorld :=
  deleteStorage true false ⟨file, volumes, []⟩

/-- A volume is recorded; or no role is; or the account has no volume, and no role is the empty text
or some role has two characters. -/
def SafeToDelete (file : StorageFile) (volumes : List Volume) : Prop :=
  recordedIds file ≠ [] ∨ file.rows = [] ∨
    (volumes = [] ∧ ([] ∉ getRoles file ∨ ∃ role ∈ getRoles file, 2 ≤ role.length))

instance (file : StorageFile) (volumes : List Volume) : Decidable (SafeToDelete file volumes) :=
  inferInstanceAs (Decidable (_ ∨ _ ∨ _))

/-! ### The deletion of a role -/

section Deleting

variable {world : StorageWorld}

/-- The volumes a role with no recorded volume is taken to have. -/
def accountVolumes (world : StorageWorld) : VolumesDict :=
  world.volumes.foldl Table.insertOrReplace Table.empty

/-- `Ec2Storage.delete` with no volume recorded. -/
theorem delete_cons (hnone : recordedIds world.file = []) (role : Text) (rest : List Text) :
    delete (role :: rest) world =
      if (accountVolumes world).rows.any (·.status ≠ .available) then (.ok (), world)
      else Py.bind (Py.forEach (accountVolumes world).rows deleteVolume)
        (fun _ ↦ Py.bind (removeInstanceStorageForRole role) fun _ ↦ delete rest) world := by
  rw [delete, Py.bind_eq, Py.run_bind_ok (Py.run_get world), Py.bind_eq,
    Py.run_bind_ok (getEc2VolumesDict_nil (flatten_of_recordedIds_nil hnone role))]
  unfold accountVolumes
  split_ifs <;> rfl

/-- Every volume of a list is asked for. -/
theorem forEach_deleteVolume (world : StorageWorld) (volumes : List Volume) :
    ∃ left, Py.forEach volumes deleteVolume world = (.ok (),
      { world with
        volumes := left
        deleteRequests := world.deleteRequests ++ volumes.map Volume.id }) := by
  induction volumes generalizing world with
  | nil => exact ⟨world.volumes, by simp⟩
  | cons volume rest ih =>
    rw [Py.forEach_cons, deleteVolume, Py.run_bind_ok (Py.run_modify _ world)]
    obtain ⟨left, hleft⟩ := ih { world with
      volumes := world.volumes.map fun other ↦
        if other.id = volume.id then { other with status := .deleting } else other
      deleteRequests := world.deleteRequests ++ [volume.id] }
    exact ⟨left, by rw [hleft]; simp⟩

/-- The removal of a role from the file leaves the requests. -/
theorem keeps_remove (role : Text) :
    Py.Keeps (fun world ↦ world.deleteRequests ≠ []) (removeInstanceStorageForRole role) := by
  intro store hstore
  unfold removeInstanceStorageForRole
  split <;> exact hstore

/-- What has been asked for stays asked for. -/
theorem keeps_delete (roles : List Text) :
    Py.Keeps (fun world ↦ world.deleteRequests ≠ []) (delete roles) := by
  induction roles with
  | nil => exact Py.keeps_ret _ _
  | cons role rest ih =>
    simp only [delete, Py.bind_eq]
    refine Py.keeps_bind (Py.keeps_get _) fun world ↦ Py.keeps_bind ?_ fun ec2Volumes ↦ ?_
    · intro store hstore
      rwa [getEc2VolumesDict_eq]
    · split_ifs
      · exact Py.keeps_ret _ _
      · refine Py.keeps_bind (Py.keeps_forEach _ fun volume _ store hstore ↦ ?_) fun _ ↦
          Py.keeps_bind (keeps_remove role) fun _ ↦ ih
        simp [deleteVolume]

/-! ### An account with volumes -/

/-- When some volume is not available, or every role is the empty text, the loop over the roles
changes nothing. -/
theorem deleteRoles_unchanged (hnone : recordedIds world.file = []) {roles : List Text}
    (hidle : (accountVolumes world).rows.any (·.status ≠ .available) = true ∨
      ∀ role ∈ roles, role = []) :
    Py.forEach roles (fun role ↦ delete (characters role)) world = (.ok (), world) := by
  refine Py.forEach_unchanged fun role hrole ↦ ?_
  cases role with
  | nil => rfl
  | cons c rest =>
    rcases hidle with hunavailable | hempty
    · rw [characters, List.map_cons, delete_cons hnone, if_pos hunavailable]
    · exact absurd (hempty _ hrole) (List.cons_ne_nil c rest)

/-- When all volumes are available and some role is not the empty text, the loop over the roles asks
for a volume. -/
theorem deleteRoles_requests (hnone : recordedIds world.file = []) (hvolumes : world.volumes ≠ [])
    (havailable : ¬ (accountVolumes world).rows.any (·.status ≠ .available) = true)
    {roles : List Text} (hrole : ∃ role ∈ roles, role ≠ []) :
    (Py.forEach roles (fun role ↦ delete (characters role)) world).2.deleteRequests ≠ [] := by
  induction roles with
  | nil => simp at hrole
  | cons role rest ih =>
    rw [Py.forEach_cons]
    cases role with
    | nil =>
      have hrest : ∃ role ∈ rest, role ≠ [] := by simpa using hrole
      exact ih hrest
    | cons c tail =>
      obtain ⟨left, hasked⟩ := forEach_deleteVolume world (accountVolumes world).rows
      have hrows : (accountVolumes world).rows ≠ [] :=
        Table.rows_ne_nil_of_foldl Table.empty hvolumes
      -- the first character of the role has every volume deleted, and no later pass takes that back
      have hfirst : (delete (characters (c :: tail)) world).2.deleteRequests ≠ [] := by
        rw [characters, List.map_cons, delete_cons hnone, if_neg havailable, Py.run_bind_ok hasked]
        refine Py.keeps_bind (keeps_remove [c]) (fun _ ↦ keeps_delete _) _ ?_
        simp [hrows]
      exact Py.holds_bind hfirst fun _ ↦ Py.keeps_forEach rest fun role _ ↦
        keeps_delete (characters role)

/-! ### An account without volumes -/

/-- No volume is recorded and the account has none. -/
def NoVolumes (world : StorageWorld) : Prop := recordedIds world.file = [] ∧ world.volumes = []

/-- The removal of a role records no volume. -/
theorem noVolumes_remove (role : Text) :
    Py.Keeps NoVolumes (removeInstanceStorageForRole role) := by
  intro store hstore
  unfold removeInstanceStorageForRole
  split
  · refine ⟨List.flatMap_eq_nil_iff.mpr fun entry hentry ↦ ?_, hstore.2⟩
    exact List.flatMap_eq_nil_iff.mp hstore.1 entry ((Table.mem_delete _ _ _).mp hentry).1
  · exact hstore

/-- With no volume anywhere `Ec2Storage.delete` only removes the roles it is given. -/
theorem delete_noVolumes (roles : List Text) (hnone : NoVolumes world) :
    delete roles world = Py.forEach roles removeInstanceStorageForRole world := by
  induction roles generalizing world with
  | nil => rfl
  | cons role rest ih =>
    have hrows : (accountVolumes world).rows = [] := by
      rw [accountVolumes, hnone.2]
      rfl
    rw [delete_cons hnone.1, hrows, Py.forEach_cons, if_neg (by simp),
      Py.run_bind_ok (Py.forEach_nil deleteVolume world)]
    have hkept := noVolumes_remove role world hnone
    rcases hrun : removeInstanceStorageForRole role world with ⟨result, after⟩
    rw [hrun] at hkept
    cases result with
    | ok value => rw [Py.run_bind_ok hrun, Py.run_bind_ok hrun, ih hkept]
    | error error => rw [Py.run_bind_error hrun, Py.run_bind_error hrun]

/-- With no volume anywhere the loop over the roles removes the characters of each. -/
theorem deleteRoles_noVolumes (roles : List Text) (hnone : NoVolumes world) :
    Py.forEach roles (fun role ↦ delete (characters role)) world =
      Py.forEach (roles.flatMap characters) removeInstanceStorageForRole world := by
  induction roles generalizing world with
  | nil => rfl
  | cons role rest ih =>
    rw [Py.forEach_cons, List.flatMap_cons, Py.forEach_append]
    have hrole := delete_noVolumes (characters role) hnone
    have hkept := Py.keeps_forEach (characters role) (fun text _ ↦ noVolumes_remove text)
      world hnone
    rcases hrun : Py.forEach (characters role) removeInstanceStorageForRole world with
      ⟨result, after⟩
    rw [hrun] at hkept hrole
    cases result with
    | ok value => rw [Py.run_bind_ok hrun, Py.run_bind_ok hrole, ih hkept]
    | error error => rw [Py.run_bind_error hrun, Py.run_bind_error hrole]

/-- Roles that are pairwise different and in the file are removed one after the other. -/
theorem forEach_remove_returns {roles : List Text} (hnodup : roles.Nodup)
    (hfile : ∀ role ∈ roles, role ∈ getRoles world.file) :
    ∃ after, Py.forEach roles removeInstanceStorageForRole world = (.ok (), after) ∧
      after.deleteRequests = world.deleteRequests ∧
        ∀ entry, entry ∈ after.file.rows ↔ entry ∈ world.file.rows ∧ entry.role ∉ roles := by
  induction roles generalizing world with
  | nil => exact ⟨world, rfl, rfl, by simp⟩
  | cons role rest ih =>
    obtain ⟨hnew, hrest⟩ := List.nodup_cons.mp hnodup
    obtain ⟨found, hfound, hrole⟩ := List.mem_map.mp (hfile role List.mem_cons_self)
    have hfind := (world.file.find_eq_some_iff role found).mpr ⟨hfound, hrole⟩
    have hrun : removeInstanceStorageForRole role world =
        (.ok (), { world with file := world.file.delete (·.role = role) }) := by
      rw [removeInstanceStorageForRole, hfind]
    have hleft : ∀ other ∈ rest, other ∈ getRoles (world.file.delete (·.role = role)) := by
      intro other hother
      obtain ⟨entry, hentry, hsame⟩ := List.mem_map.mp (hfile other (List.mem_cons_of_mem _ hother))
      refine List.mem_map.mpr ⟨entry, (Table.mem_delete _ _ _).mpr ⟨hentry, ?_⟩, hsame⟩
      have hdifferent : entry.role ≠ role := fun hwrong ↦ hnew (hwrong ▸ hsame ▸ hother)
      simpa using hdifferent
    obtain ⟨after, hafter, hrequests, hrows⟩ :=
      @ih { world with file := world.file.delete (·.role = role) } hrest hleft
    refine ⟨after, ?_, hrequests, fun entry ↦ ?_⟩
    · rw [Py.forEach_cons, Py.run_bind_ok hrun, hafter]
    · rw [hrows entry, Table.mem_delete, List.mem_cons, not_or, and_assoc]
      simp

/-- The removal of some roles raises when they are not pairwise different roles of the file, and
asks EC2 for nothing. -/
theorem forEach_remove_raises {roles : List Text}
    (hwrong : ¬ (roles.Nodup ∧ ∀ role ∈ roles, role ∈ getRoles world.file)) :
    ∃ error after, Py.forEach roles removeInstanceStorageForRole world = (.error error, after) ∧
      after.deleteRequests = world.deleteRequests := by
  induction roles generalizing world with
  | nil => simp at hwrong
  | cons role rest ih =>
    rw [Py.forEach_cons]
    cases hfind : world.file.find role with
    | none =>
      have hrun : removeInstanceStorageForRole role world = (.error (.keyError role), world) := by
        rw [removeInstanceStorageForRole, hfind]
      rw [Py.run_bind_error hrun]
      exact ⟨_, world, rfl, rfl⟩
    | some found =>
      have hrun : removeInstanceStorageForRole role world =
          (.ok (), { world with file := world.file.delete (·.role = role) }) := by
        rw [removeInstanceStorageForRole, hfind]
      rw [Py.run_bind_ok hrun]
      refine @ih { world with file := world.file.delete (·.role = role) } fun hright ↦ hwrong ?_
      have hother : ∀ other ∈ rest, other ∈ getRoles world.file ∧ other ≠ role := by
        intro other hmem
        obtain ⟨entry, hentry, rfl⟩ := List.mem_map.mp (hright.2 other hmem)
        obtain ⟨hrow, hdifferent⟩ := (Table.mem_delete _ _ _).mp hentry
        exact ⟨List.mem_map.mpr ⟨entry, hrow, rfl⟩, by simpa using hdifferent⟩
      obtain ⟨hrow, hrole⟩ := (world.file.find_eq_some_iff role found).mp hfind
      refine ⟨List.nodup_cons.mpr ⟨fun hmem ↦ (hother role hmem).2 rfl, hright.1⟩,
        fun other hmem ↦ ?_⟩
      rcases List.mem_cons.mp hmem with rfl | hrest
      · exact List.mem_map.mpr ⟨found, hrow, hrole⟩
      · exact (hother other hrest).1

end Deleting

/-! ### The characters of the roles -/

theorem mem_characters {text role : Text} :
    text ∈ characters role ↔ ∃ c ∈ role, text = [c] := by
  simp [characters, eq_comm]

/-- The characters of roles of at most one character are the roles that are not empty. -/
theorem characters_of_short {roles : List Text} (hshort : ∀ role ∈ roles, ¬ 2 ≤ role.length) :
    roles.flatMap characters = roles.filter (· ≠ []) := by
  induction roles with
  | nil => rfl
  | cons role rest ih =>
    have hrest := ih fun other hother ↦ hshort other (List.mem_cons_of_mem role hother)
    rw [List.flatMap_cons, hrest]
    have hrole := hshort role List.mem_cons_self
    rcases role with _ | ⟨c, _ | ⟨d, tail⟩⟩
    · rfl
    · simp [characters]
    · simp at hrole

/-- The characters of a role with two of them are not pairwise different roles among others. -/
theorem characters_of_long {roles : List Text} (hnodup : (roles.flatMap characters).Nodup)
    (hroles : ∀ text ∈ roles.flatMap characters, text ∈ roles) : ∀ role ∈ roles,
      ¬ 2 ≤ role.length := by
  intro role hrole hlong
  obtain ⟨c, tail, rfl⟩ := List.exists_cons_of_length_pos (by omega : 0 < role.length)
  have hcharacter : [c] ∈ characters (c :: tail) := mem_characters.mpr ⟨c, List.mem_cons_self, rfl⟩
  have hother : [c] ∈ roles := hroles [c] (List.mem_flatMap.mpr ⟨_, hrole, hcharacter⟩)
  have hdifferent : c :: tail ≠ [c] := by
    intro hsame
    rw [hsame] at hlong
    simp at hlong
  have hsymm : Std.Symm (Function.onFun List.Disjoint characters) := 
    ⟨fun _ _ hfirst _ hleft hright ↦ hfirst hright hleft⟩
  have hdisjoint := (List.nodup_flatMap.mp hnodup).2.forall hrole hother hdifferent
  exact hdisjoint hcharacter (mem_characters.mpr ⟨c, List.mem_cons_self, rfl⟩)

/-! ### Exactly when only recorded volumes are deleted -/

/-- With a volume recorded the deletion raises before it asks for anything. -/
theorem forcedDeletion_of_recorded {file : StorageFile} (volumes : List Volume)
    (hsome : recordedIds file ≠ []) :
    ∃ error, forcedDeletion file volumes = (.error error, ⟨file, volumes, []⟩) := by
  obtain ⟨error, hraises⟩ := @printStatus_raises ⟨file, volumes, []⟩ hsome
  exact ⟨error, by rw [forcedDeletion, deleteStorage, Py.bind_eq, Py.run_bind_error hraises]⟩

/-- With no volume recorded the deletion is the loop over the roles. -/
theorem forcedDeletion_of_unrecorded {file : StorageFile} (volumes : List Volume)
    (hnone : recordedIds file = []) : forcedDeletion file volumes =
      Py.forEach (getRoles file) (fun role ↦ delete (characters role)) ⟨file, volumes, []⟩ := by
  rw [forcedDeletion, deleteStorage, Py.bind_eq,
    Py.run_bind_ok (@printStatus_returns ⟨file, volumes, []⟩ hnone)]
  rfl

/-- With no volume recorded, only an outcome that asked for nothing and, if it returned, left no
role is right. -/
theorem deletesRecorded_iff_of_unrecorded {file : StorageFile} {volumes : List Volume}
    (hnone : recordedIds file = []) (outcome : Except PyError Unit × StorageWorld) :
    DeletesRecorded file volumes outcome ↔
      outcome.2.deleteRequests = [] ∧ (outcome.1 = .ok () → outcome.2.file.rows = []) := by
  simp [DeletesRecorded, RecordedAvailable, hnone, List.eq_nil_iff_forall_not_mem]

/-- In an account without volumes. -/
theorem deletesRecorded_iff_of_noVolumes {file : StorageFile} (hnone : recordedIds file = []) :
    DeletesRecorded file [] (forcedDeletion file []) ↔
      file.rows = [] ∨ [] ∉ getRoles file ∨ ∃ role ∈ getRoles file, 2 ≤ role.length := by
  rw [deletesRecorded_iff_of_unrecorded hnone, forcedDeletion_of_unrecorded [] hnone,
    deleteRoles_noVolumes (getRoles file) ⟨hnone, rfl⟩]
  by_cases hright : ((getRoles file).flatMap characters).Nodup ∧
      ∀ text ∈ (getRoles file).flatMap characters, text ∈ getRoles file
  · obtain ⟨after, hrun, hrequests, hrows⟩ :=
      @forEach_remove_returns ⟨file, [], []⟩ _ hright.1 hright.2
    have hshort := characters_of_long hright.1 hright.2
    rw [hrun, hrequests]
    simp only [true_and, forall_const]
    rw [characters_of_short hshort] at hrows
    constructor
    · intro hempty
      refine Or.inr (Or.inl fun hrole ↦ ?_)
      obtain ⟨entry, hentry, hrole⟩ := List.mem_map.mp hrole
      have hleft : entry ∈ after.file.rows := (hrows entry).mpr ⟨hentry, by simp [hrole]⟩
      simp [hempty] at hleft
    · intro hcases
      rw [List.eq_nil_iff_forall_not_mem]
      intro entry hentry
      obtain ⟨hrow, hkept⟩ := (hrows entry).mp hentry
      have hrole : entry.role ∈ getRoles file := List.mem_map.mpr ⟨entry, hrow, rfl⟩
      rcases hcases with hfile | hempty | ⟨role, hlong, hlength⟩
      · simp [hfile] at hrow
      · have hfilled : entry.role ≠ [] := fun hnil ↦ hempty (hnil ▸ hrole)
        exact hkept (List.mem_filter.mpr ⟨hrole, by simpa using hfilled⟩)
      · exact hshort role hlong hlength
  · obtain ⟨error, after, hrun, hrequests⟩ := @forEach_remove_raises ⟨file, [], []⟩ _ hright
    rw [hrun, hrequests]
    simp only [true_and, reduceCtorEq, false_implies, true_iff]
    by_contra hcases
    obtain ⟨-, hempty, hshort⟩ : file.rows ≠ [] ∧ [] ∈ getRoles file ∧
        ∀ role ∈ getRoles file, ¬ 2 ≤ role.length := by simpa using hcases
    refine hright ?_
    rw [characters_of_short hshort]
    exact ⟨file.keys_nodup.filter _, fun text htext ↦ (List.mem_filter.mp htext).1⟩

/-- In an account with volumes. -/
theorem deletesRecorded_iff_of_volumes {file : StorageFile} {volumes : List Volume}
    (hnone : recordedIds file = []) (hvolumes : volumes ≠ []) :
    DeletesRecorded file volumes (forcedDeletion file volumes) ↔ file.rows = [] := by
  rw [deletesRecorded_iff_of_unrecorded hnone, forcedDeletion_of_unrecorded volumes hnone]
  let world : StorageWorld := ⟨file, volumes, []⟩
  by_cases hidle : (accountVolumes world).rows.any (·.status ≠ .available) = true ∨
      ∀ role ∈ getRoles file, role = []
  · have hrun := @deleteRoles_unchanged world hnone _ hidle
    rw [hrun]
    simp [world]
  · obtain ⟨havailable, hrole⟩ := not_or.mp hidle
    have hrole : ∃ role ∈ getRoles file, role ≠ [] := by simpa using hrole
    have hrequests := @deleteRoles_requests world hnone hvolumes havailable _ hrole
    refine ⟨fun hright ↦ absurd hright.1 hrequests, fun hfile ↦ ?_⟩
    simp [getRoles, hfile] at hrole

/-- `delete_storage` with `force` asks only for recorded volumes, and for exactly these when it
returns, for exactly the files and accounts of `SafeToDelete`. -/
theorem deleteStorage_iff (file : StorageFile) (volumes : List Volume) :
    DeletesRecorded file volumes (forcedDeletion file volumes) ↔ SafeToDelete file volumes := by
  unfold SafeToDelete
  by_cases hnone : recordedIds file = []
  · rcases eq_or_ne volumes [] with rfl | hvolumes
    · rw [deletesRecorded_iff_of_noVolumes hnone]
      simp [hnone]
    · rw [deletesRecorded_iff_of_volumes hnone hvolumes]
      simp [hnone, hvolumes]
  · obtain ⟨error, hraises⟩ := forcedDeletion_of_recorded volumes hnone
    rw [hraises]
    simp [DeletesRecorded, hnone]

/-- A file with a role that has no volume. -/
def emptyRoleFile : StorageFile := Table.empty.insertOrReplace ⟨"nn".toList, []⟩

/-- A volume that has nothing to do with the cluster. -/
def foreignVolume : Volume where
  id := "vol-1".toList
  status := .available
  size := 10
  snapshotId := none
  zone := "us-east-1a".toList
  attachedTo := none

/-- The volume is deleted although the file records no volume. -/
theorem unrecordedVolume_deleted : recordedIds emptyRoleFile = [] ∧
    (forcedDeletion emptyRoleFile [foreignVolume]).2.deleteRequests = ["vol-1".toList] ∧
      ¬ DeletesRecorded emptyRoleFile [foreignVolume]
        (forcedDeletion emptyRoleFile [foreignVolume]) := by
  have hrequests : (forcedDeletion emptyRoleFile [foreignVolume]).2.deleteRequests =
      ["vol-1".toList] := by decide +kernel
  refine ⟨by decide +kernel, hrequests, fun hdeletes ↦ ?_⟩
  have hrecorded := hdeletes.1 "vol-1".toList (by rw [hrequests]; exact List.mem_cons_self)
  exact absurd hrecorded (by decide +kernel)

end Ec2Wrappers.HadoopCloud
