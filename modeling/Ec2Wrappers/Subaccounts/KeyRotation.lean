import Ec2Wrappers.Foundations.Effects
import Ec2Wrappers.Subaccounts.Accounts

/-!
# Rotating the access keys of a user

`User.create_access_key` and `User.delete_access_key` of `subaccounts.py`, and the rotation of
`ec2_util --rotate-secret`: a fresh `User`, the deletion of every key it has cached, and a new key.
Each of the two methods makes a call of IAM and then commits the same change to the table
`access_keys`, so the external effects of a rotation alternate between the two stores.

`delete_access_key` means to read the keys again, but `self.init_access_keys` names the method and
does not call it, and what it would read is the table, not IAM. A rotation that is cut off right
after a call of IAM leaves a disagreement that no later rotation repairs: a key that only the table
still has makes IAM refuse the first deletion (`run_rotateSecret_refused`), and a key that only IAM
has stays beside the next one (`run_rotateSecret_besides`). Cut off anywhere else, a rotation leaves
the two stores in agreement, and the next one completes (`run_rotateSecret`,
`rotation_retry_iff`).
-/

set_option autoImplicit false
set_option relaxedAutoImplicit false

namespace Ec2Wrappers.Subaccounts

open Foundations Aws

/-! ### The methods -/

/-- A `User` with the keys it has cached. -/
structure User where
  userName : Text
  accessKeys : List AccessKey
  deriving DecidableEq, Repr

/-- `SELECT access_key, secret_access_key FROM access_keys WHERE user_name = ?`. -/
def UserDb.accessKeysOf (db : UserDb) (userName : Text) : List AccessKey :=
  (db.accessKeys.rows.filter (·.userName = userName)).map fun row ↦
    ⟨row.accessKey, row.secretAccessKey⟩

/-- A call of IAM. -/
def onIam {Value : Type} (call : Py Iam Value) : Py Services Value :=
  Py.within Services.iam (fun services iam ↦ { services with iam := iam }) call

/-- A change of the database in a transaction of its own. -/
def commit (change : UserDb → UserDb) : Py Services Unit :=
  Py.within Services.dbh (fun services dbh ↦ { services with dbh := dbh })
    (transaction (Py.modify change))

/-- `INSERT OR IGNORE INTO access_keys`. -/
def insertAccessKey (userName : Text) (key : AccessKey) (db : UserDb) : UserDb :=
  let row : AccessKeyRow := ⟨userName, key.accessKeyId, key.secretAccessKey⟩
  { db with accessKeys := db.accessKeys.insertOrIgnore row }

/-- `DELETE FROM access_keys WHERE access_key = ? AND user_name = ?`. -/
def deleteAccessKeyRow (userName accessKey : Text) (db : UserDb) : UserDb :=
  { db with accessKeys := db.accessKeys.delete fun row ↦
      row.accessKey = accessKey && row.userName = userName }

/-- `User(user_name)`. -/
def User.init (userName : Text) : Effects Services User := do
  let services ← Effects.get
  return ⟨userName, services.dbh.close.accessKeysOf userName⟩

/-- `User.create_access_key`, with the key IAM makes; the cached keys are read again. -/
def User.createAccessKey (user : User) (made : AccessKey) : Effects Services User := do
  let response ← Effects.perform (onIam (Aws.createAccessKey user.userName made))
  Effects.perform (commit (insertAccessKey user.userName response))
  User.init user.userName

/-- `User.delete_access_key`. -/
def User.deleteAccessKey (user : User) (accessKey : Text) : Effects Services Unit :=
  let keyNames := user.accessKeys.filter (·.accessKeyId = accessKey)
  if keyNames.length ≠ 0 then do
    Effects.perform (onIam (Aws.deleteAccessKey accessKey user.userName))
    Effects.perform (commit (deleteAccessKeyRow user.userName accessKey))
  else return

/-- The rotation of `ec2_util`. -/
def rotateSecret (userName : Text) (made : AccessKey) : Effects Services User := do
  let user ← User.init userName
  Effects.forEach user.accessKeys fun key ↦ user.deleteAccessKey key.accessKeyId
  user.createAccessKey made

/-! ### What the two stores hold -/

/-- IAM has the user with exactly these access keys, and none of its coming calls fails. -/
def InIam (userName : Text) (keys : List Text) (iam : Iam) : Prop :=
  iam.failures = [] ∧ ∃ user, iam.users.find userName = some user ∧
    ∀ key, key ∈ user.accessKeys ↔ key ∈ keys

/-- The rows of the user in `access_keys` have exactly these keys, and no transaction is open. -/
def Recorded (userName : Text) (keys : List Text) (dbh : Connection UserDb) : Prop :=
  ∃ db, dbh = .idle db ∧ (db.accessKeysOf userName).map AccessKey.accessKeyId = keys

/-- No row of `access_keys` has the key. -/
def Unrecorded (key : Text) (dbh : Connection UserDb) : Prop :=
  ∀ row ∈ dbh.close.accessKeys.rows, row.accessKey ≠ key

section Stores

variable {userName key : Text} {keys : List Text} {services : Services}

/-- The recorded keys are pairwise different. -/
theorem Recorded.nodup {dbh : Connection UserDb} (hrecorded : Recorded userName keys dbh) :
    keys.Nodup := by
  obtain ⟨db, -, rfl⟩ := hrecorded
  have hnodup := db.accessKeys.keys_nodup.sublist
    ((List.filter_sublist (p := fun row ↦ decide (row.userName = userName))).map
      AccessKeyRow.accessKey)
  simpa [UserDb.accessKeysOf, Function.comp_def] using hnodup

/-- IAM deletes a key it has. -/
theorem onIam_delete (hiam : InIam userName (key :: keys) services.iam) (hnew : key ∉ keys) :
    ∃ iam, onIam (Aws.deleteAccessKey key userName) services =
        (.ok (), { services with iam := iam }) ∧ InIam userName keys iam := by
  obtain ⟨hfailures, user, hfind, hkeys⟩ := hiam
  have hname : user.name = userName := ((Table.find_eq_some_iff _ _ _).mp hfind).2
  have hmem : key ∈ user.accessKeys := (hkeys key).mpr List.mem_cons_self
  let left : IamUser := { user with accessKeys := user.accessKeys.filter (· ≠ key) }
  refine ⟨⟨services.iam.users.insertOrReplace left, []⟩, ?_, rfl, left, ?_, ?_⟩
  · refine Py.run_within ?_
    simp [Aws.deleteAccessKey, removeItem, iamCall, hfailures, hfind, hmem, left]
  · rw [Table.find_insertOrReplace]
    exact if_pos hname.symm
  · intro other
    rw [List.mem_filter, hkeys other, List.mem_cons]
    by_cases hother : other = key
    · simp [hother, hnew]
    · simp [hother]

/-- IAM refuses to delete a key it does not have. -/
theorem onIam_delete_refused (hiam : InIam userName keys services.iam) (hnew : key ∉ keys) :
    onIam (Aws.deleteAccessKey key userName) services = (.error noSuchEntity, services) := by
  obtain ⟨hfailures, user, hfind, hkeys⟩ := hiam
  have hmem : key ∉ user.accessKeys := fun hmem ↦ hnew ((hkeys key).mp hmem)
  have hrun : Aws.deleteAccessKey key userName services.iam =
      (.error noSuchEntity, services.iam) := by
    cases hiam : services.iam with
    | mk users failures =>
      rw [hiam] at hfailures hfind
      simp only at hfailures hfind
      simp [Aws.deleteAccessKey, removeItem, iamCall, hfailures, hfind, hmem]
  exact Py.run_within hrun

/-- IAM makes a key for a user that has fewer than it allows. -/
theorem onIam_create {user : IamUser} {made : AccessKey} (hfailures : services.iam.failures = [])
    (hfind : services.iam.users.find userName = some user)
    (hquota : user.accessKeys.length < accessKeyQuota) :
    ∃ iam, onIam (Aws.createAccessKey userName made) services =
        (.ok made, { services with iam := iam }) ∧ iam.failures = [] ∧
      iam.users.find userName =
        some { user with accessKeys := user.accessKeys ++ [made.accessKeyId] } := by
  have hname : user.name = userName := ((Table.find_eq_some_iff _ _ _).mp hfind).2
  let grown : IamUser := { user with accessKeys := user.accessKeys ++ [made.accessKeyId] }
  refine ⟨⟨services.iam.users.insertOrReplace grown, []⟩, ?_, rfl, ?_⟩
  · refine Py.run_within ?_
    simp [Aws.createAccessKey, changeUser, iamCall, hfailures, hfind, not_le.mpr hquota,
      Py.bind_eq, Py.bind, grown]
  · rw [Table.find_insertOrReplace]
    exact if_pos hname.symm

/-- A commit on a connection with no open transaction. -/
theorem commit_eq {db : UserDb} (hidle : services.dbh = .idle db) (change : UserDb → UserDb) :
    commit change services = (.ok (), { services with dbh := .idle (change db) }) := by
  have hbody : Py.modify change db = (.ok (), change db) := rfl
  refine Py.run_within ?_
  rw [hidle, transaction_of_ok hbody]

/-- The deletion of a row takes its key out of the recorded ones. -/
theorem recorded_deleteAccessKeyRow {db : UserDb}
    (hkeys : (db.accessKeysOf userName).map AccessKey.accessKeyId = key :: keys)
    (hnew : key ∉ keys) :
    ((deleteAccessKeyRow userName key db).accessKeysOf userName).map AccessKey.accessKeyId =
      keys := by
  have hleft : (deleteAccessKeyRow userName key db).accessKeysOf userName =
      (db.accessKeysOf userName).filter (·.accessKeyId ≠ key) := by
    simp only [UserDb.accessKeysOf, deleteAccessKeyRow, Table.delete, List.filter_map,
      List.filter_filter]
    refine congrArg _ (List.filter_congr fun row _ ↦ ?_)
    by_cases huser : row.userName = userName <;> simp [huser]
  have hfilter := List.filter_map (f := AccessKey.accessKeyId) (p := (· ≠ key))
    (l := db.accessKeysOf userName)
  rw [hleft]
  refine hfilter.symm.trans ?_
  rw [hkeys, List.filter_cons_of_neg (by simp), List.filter_eq_self]
  intro other hother
  simpa using fun hsame : other = key ↦ hnew (hsame ▸ hother)

/-- The rows after a key with no row has been put. -/
theorem rows_insertAccessKey {db : UserDb} {made : AccessKey}
    (hfree : ∀ row ∈ db.accessKeys.rows, row.accessKey ≠ made.accessKeyId) :
    (insertAccessKey userName made db).accessKeys.rows =
      db.accessKeys.rows ++ [⟨userName, made.accessKeyId, made.secretAccessKey⟩] :=
  db.accessKeys.rows_insertOrIgnore hfree

/-- A key with no row is appended to the recorded ones. -/
theorem accessKeysOf_insertAccessKey {db : UserDb} {made : AccessKey}
    (hfree : ∀ row ∈ db.accessKeys.rows, row.accessKey ≠ made.accessKeyId) :
    (insertAccessKey userName made db).accessKeysOf userName =
      db.accessKeysOf userName ++ [made] := by
  simp [UserDb.accessKeysOf, rows_insertAccessKey hfree]

end Stores

/-! ### Deleting the cached keys -/

/-- Both stores have exactly these keys of the user. -/
def Agrees (userName : Text) (keys : List Text) (services : Services) : Prop :=
  InIam userName keys services.iam ∧ Recorded userName keys services.dbh

section Rotation

variable {userName : Text} {services : Services}

/-- The two effects of one deletion. -/
theorem deletion_effects {key : Text} {keys : List Text}
    (hagrees : Agrees userName (key :: keys) services) :
    ∃ iam dbh, onIam (Aws.deleteAccessKey key userName) services =
        (.ok (), { services with iam := iam }) ∧
      commit (deleteAccessKeyRow userName key) { services with iam := iam } =
        (.ok (), ⟨iam, dbh⟩) ∧ InIam userName keys iam ∧ Recorded userName keys dbh ∧
      ∀ other, Unrecorded other services.dbh → Unrecorded other dbh := by
  obtain ⟨hiam, hrecorded⟩ := hagrees
  have hnew : key ∉ keys := (List.nodup_cons.mp hrecorded.nodup).1
  obtain ⟨iam, hdelete, hleft⟩ := onIam_delete hiam hnew
  obtain ⟨db, hidle, hkeys⟩ := hrecorded
  have hidle' : ({ services with iam := iam } : Services).dbh = .idle db := hidle
  refine ⟨iam, _, hdelete, commit_eq hidle' _, hleft,
    ⟨_, rfl, recorded_deleteAccessKeyRow hkeys hnew⟩, fun other hother row hrow ↦ ?_⟩
  refine hother row ?_
  rw [hidle]
  exact ((Table.mem_delete _ _ row).mp hrow).1

/-- A deletion of a cached key is its two effects. -/
theorem deleteAccessKey_eq {user : User} {key : AccessKey} (hcached : key ∈ user.accessKeys) :
    user.deleteAccessKey key.accessKeyId =
      .effect (onIam (Aws.deleteAccessKey key.accessKeyId user.userName)) fun _ ↦
        .effect (commit (deleteAccessKeyRow user.userName key.accessKeyId)) .done := by
  have hlength : (user.accessKeys.filter (·.accessKeyId = key.accessKeyId)).length ≠ 0 := by
    refine (List.length_pos_of_mem (List.mem_filter.mpr ⟨hcached, ?_⟩)).ne'
    simp
  rw [User.deleteAccessKey]
  exact if_pos hlength

variable {cached : List AccessKey} {Value : Type}

/-- The deletion of the cached keys and what comes after it. -/
def deletionsThen (user : User) (cached : List AccessKey) (next : Unit → Effects Services Value) :
    Effects Services Value :=
  Effects.bind (Effects.forEach cached fun key ↦ user.deleteAccessKey key.accessKeyId) next

/-- The first deletion is two effects, and then come the others. -/
theorem deletionsThen_cons {user : User} {key : AccessKey} (hcached : key ∈ user.accessKeys)
    (next : Unit → Effects Services Value) : deletionsThen user (key :: cached) next =
      .effect (onIam (Aws.deleteAccessKey key.accessKeyId user.userName)) fun _ ↦
        .effect (commit (deleteAccessKeyRow user.userName key.accessKeyId)) fun _ ↦
          deletionsThen user cached next := by
  rw [deletionsThen, Effects.forEach, deleteAccessKey_eq hcached]
  rfl

/-- From stores that agree on the cached keys the deletions return, and neither store has a key of
the user left. -/
theorem deletionsThen_complete (user : User) (next : Unit → Effects Services Value)
    (hcached : ∀ key ∈ cached, key ∈ user.accessKeys)
    (hagrees : Agrees user.userName (cached.map AccessKey.accessKeyId) services) :
    ∃ after, Agrees user.userName [] after ∧
      (∀ other, Unrecorded other services.dbh → Unrecorded other after.dbh) ∧
      (deletionsThen user cached next).run services = (next ()).run after ∧
      ∀ count, (deletionsThen user cached next).cutOff (2 * cached.length + count) services =
        (next ()).cutOff count after := by
  induction cached generalizing services with
  | nil =>
    refine ⟨services, hagrees, fun _ ↦ id, rfl, fun count ↦ ?_⟩
    rw [List.length_nil, Nat.mul_zero, Nat.zero_add]
    rfl
  | cons key rest ih =>
    obtain ⟨iam, dbh, hdelete, hcommit, hiam, hrecorded, hfree⟩ := deletion_effects hagrees
    have hrest : Agrees user.userName (rest.map AccessKey.accessKeyId) ⟨iam, dbh⟩ :=
      ⟨hiam, hrecorded⟩
    obtain ⟨after, hafter, hfree', hrun, hcut⟩ :=
      ih (fun other hother ↦ hcached other (List.mem_cons_of_mem key hother)) hrest
    refine ⟨after, hafter, fun other hother ↦ hfree' other (hfree other hother), ?_, fun count ↦ ?_⟩
    · rw [deletionsThen_cons (hcached key List.mem_cons_self), Effects.run,
        Py.run_bind_ok hdelete, Effects.run, Py.run_bind_ok hcommit, hrun]
    · rw [deletionsThen_cons (hcached key List.mem_cons_self), ← hcut count,
        show 2 * (key :: rest).length + count = 2 * rest.length + count + 1 + 1 by
          rw [List.length_cons]; ring]
      simp only [Effects.cutOff, hdelete, hcommit]

/-- Cut off during the deletions, the table has the keys not yet deleted, and IAM has them too,
except the first where it has just deleted that one. -/
theorem deletionsThen_cutOff (user : User) (next : Unit → Effects Services Value)
    (hcached : ∀ key ∈ cached, key ∈ user.accessKeys)
    (hagrees : Agrees user.userName (cached.map AccessKey.accessKeyId) services) {count : ℕ}
    (hcount : count < 2 * cached.length) :
    ∃ key keys, Recorded user.userName (key :: keys)
        ((deletionsThen user cached next).cutOff count services).dbh ∧
      InIam user.userName (if count % 2 = 0 then key :: keys else keys)
        ((deletionsThen user cached next).cutOff count services).iam ∧
      ∀ other, Unrecorded other services.dbh →
        Unrecorded other ((deletionsThen user cached next).cutOff count services).dbh := by
  induction cached generalizing services count with
  | nil => exact absurd hcount (Nat.not_lt_zero count)
  | cons key rest ih =>
    obtain ⟨iam, dbh, hdelete, hcommit, hiam, hrecorded, hfree⟩ := deletion_effects hagrees
    rw [deletionsThen_cons (hcached key List.mem_cons_self)]
    match count with
    | 0 => exact ⟨key.accessKeyId, rest.map AccessKey.accessKeyId, hagrees.2, hagrees.1, fun _ ↦ id⟩
    | 1 =>
      simp only [Effects.cutOff, hdelete]
      exact ⟨key.accessKeyId, rest.map AccessKey.accessKeyId, hagrees.2, hiam, fun _ ↦ id⟩
    | count + 2 =>
      have hless : count < 2 * rest.length := by
        rw [List.length_cons] at hcount
        omega
      have hrest : Agrees user.userName (rest.map AccessKey.accessKeyId) ⟨iam, dbh⟩ :=
        ⟨hiam, hrecorded⟩
      obtain ⟨first, keys, hkept, hleft, hfree'⟩ := ih
        (fun other hother ↦ hcached other (List.mem_cons_of_mem key hother)) hrest hless
      simp only [Effects.cutOff, hdelete, hcommit]
      rw [Nat.add_mod_right]
      exact ⟨first, keys, hkept, hleft, fun other hother ↦ hfree' other (hfree other hother)⟩

/-! ### Whole rotations -/

/-- IAM and the table hold exactly one key of the user, the same in both. -/
def HoldsOnly (userName : Text) (made : AccessKey) (services : Services) : Prop :=
  (∃ user, services.iam.users.find userName = some user ∧
    user.accessKeys = [made.accessKeyId]) ∧
  services.dbh.close.accessKeysOf userName = [made]

/-- A rotation deletes what the table has of the user, and makes a key. -/
theorem rotateSecret_eq {db : UserDb} (made : AccessKey) (hidle : services.dbh = .idle db) :
    let user : User := ⟨userName, db.accessKeysOf userName⟩
    (rotateSecret userName made).run services =
        (deletionsThen user user.accessKeys fun _ ↦ user.createAccessKey made).run services ∧
      ∀ count, (rotateSecret userName made).cutOff count services =
        (deletionsThen user user.accessKeys fun _ ↦ user.createAccessKey made).cutOff count
          services := by
  have hread : services.dbh.close = db := by
    rw [hidle]
    rfl
  subst hread
  exact ⟨rfl, fun count ↦ by cases count <;> rfl⟩

/-- The making of a key is two effects and a reading. -/
theorem createAccessKey_eq (user : User) (made : AccessKey) : user.createAccessKey made =
    .effect (onIam (Aws.createAccessKey user.userName made)) fun response ↦
      .effect (commit (insertAccessKey user.userName response)) fun _ ↦
        .read fun services ↦ .done ⟨user.userName, services.dbh.close.accessKeysOf user.userName⟩ :=
  rfl

/-- The two effects that make a key for a user with none recorded. -/
theorem creation_effects {user : IamUser} {made : AccessKey}
    (hfailures : services.iam.failures = [])
    (hfind : services.iam.users.find userName = some user)
    (hquota : user.accessKeys.length < accessKeyQuota)
    (hrecorded : Recorded userName [] services.dbh)
    (hfree : Unrecorded made.accessKeyId services.dbh) :
    ∃ iam dbh, onIam (Aws.createAccessKey userName made) services =
        (.ok made, { services with iam := iam }) ∧
      commit (insertAccessKey userName made) { services with iam := iam } = (.ok (), ⟨iam, dbh⟩) ∧
      iam.failures = [] ∧
      iam.users.find userName =
        some { user with accessKeys := user.accessKeys ++ [made.accessKeyId] } ∧
      (∃ db, dbh = .idle db) ∧ dbh.close.accessKeysOf userName = [made] ∧
      ∀ other, other ≠ made.accessKeyId → Unrecorded other services.dbh → Unrecorded other dbh := by
  obtain ⟨iam, hcreate, hreliable, hgrown⟩ := onIam_create hfailures hfind hquota
  obtain ⟨db, hidle, hkeys⟩ := hrecorded
  have hidle' : ({ services with iam := iam } : Services).dbh = .idle db := hidle
  have hfree' : ∀ row ∈ db.accessKeys.rows, row.accessKey ≠ made.accessKeyId := by
    rw [Unrecorded, hidle] at hfree
    exact hfree
  refine ⟨iam, _, hcreate, commit_eq hidle' _, hreliable, hgrown, ⟨_, rfl⟩, ?_, ?_⟩
  · refine (accessKeysOf_insertAccessKey hfree').trans ?_
    rw [List.map_eq_nil_iff.mp hkeys, List.nil_append]
  · intro other hother hunrecorded row hrow
    rw [Unrecorded, hidle] at hunrecorded
    have hrows : row ∈ db.accessKeys.rows ++ [⟨userName, made.accessKeyId, made.secretAccessKey⟩] :=
      rows_insertAccessKey hfree' ▸ hrow
    rcases List.mem_append.mp hrows with hmem | hnew
    · exact hunrecorded row hmem
    · rw [List.mem_singleton.mp hnew]
      exact hother.symm

/-- A user with no key in IAM. -/
theorem inIam_nil {iam : Iam} (hiam : InIam userName [] iam) :
    iam.failures = [] ∧ ∃ user, iam.users.find userName = some user ∧ user.accessKeys = [] := by
  obtain ⟨hfailures, user, hfind, hkeys⟩ := hiam
  exact ⟨hfailures, user, hfind, List.eq_nil_iff_forall_not_mem.mpr fun key hmem ↦
    List.not_mem_nil ((hkeys key).mp hmem)⟩

/-- For a user with no key recorded the making of a key completes and records it. -/
theorem run_createAccessKey {cached : List AccessKey} {user : IamUser} {made : AccessKey}
    (hfailures : services.iam.failures = [])
    (hfind : services.iam.users.find userName = some user)
    (hquota : user.accessKeys.length < accessKeyQuota)
    (hrecorded : Recorded userName [] services.dbh)
    (hfree : Unrecorded made.accessKeyId services.dbh) :
    ∃ after, (User.createAccessKey ⟨userName, cached⟩ made).run services =
        (.ok ⟨userName, [made]⟩, after) ∧
      after.iam.users.find userName =
        some { user with accessKeys := user.accessKeys ++ [made.accessKeyId] } ∧
      after.dbh.close.accessKeysOf userName = [made] := by
  obtain ⟨iam, dbh, hcreate, hcommit, -, hgrown, -, hkeys, -⟩ :=
    creation_effects hfailures hfind hquota hrecorded hfree
  refine ⟨⟨iam, dbh⟩, ?_, hgrown, hkeys⟩
  rw [createAccessKey_eq, Effects.run, Py.run_bind_ok hcreate, Effects.run, Py.run_bind_ok hcommit]
  simp only [Effects.run, Py.run_ret, hkeys]

/-- From stores that agree a rotation completes, and leaves the new key alone in both. -/
theorem run_rotateSecret {keys : List Text} {made : AccessKey}
    (hagrees : Agrees userName keys services) (hfree : Unrecorded made.accessKeyId services.dbh) :
    ∃ user after, (rotateSecret userName made).run services = (.ok user, after) ∧
      HoldsOnly userName made after := by
  obtain ⟨hiam, db, hidle, rfl⟩ := hagrees
  let fresh : User := ⟨userName, db.accessKeysOf userName⟩
  obtain ⟨emptied, ⟨hiam', hrecorded⟩, hfree', hrun, -⟩ :=
    deletionsThen_complete fresh (fun _ ↦ fresh.createAccessKey made) (fun _ ↦ id)
      ⟨hiam, db, hidle, rfl⟩
  obtain ⟨hfailures, user, hfind, hnone⟩ := inIam_nil hiam'
  have hquota : user.accessKeys.length < accessKeyQuota := by
    rw [hnone]
    decide
  obtain ⟨after, hmake, hgrown, hkeys⟩ :=
    run_createAccessKey hfailures hfind hquota hrecorded (hfree' _ hfree)
  refine ⟨⟨userName, [made]⟩, after, ?_, ⟨_, hgrown, ?_⟩, hkeys⟩
  · exact (rotateSecret_eq made hidle).1.trans (hrun.trans hmake)
  · rw [hnone, List.nil_append]

/-- A rotation that begins with a key only the table still has is refused by IAM. -/
theorem run_rotateSecret_refused {key : Text} {keys : List Text} {made : AccessKey}
    (hiam : InIam userName keys services.iam)
    (hrecorded : Recorded userName (key :: keys) services.dbh) :
    (rotateSecret userName made).run services = (.error noSuchEntity, services) := by
  have hnew : key ∉ keys := (List.nodup_cons.mp hrecorded.nodup).1
  obtain ⟨db, hidle, hkeys⟩ := hrecorded
  obtain ⟨first, rest, hcached, rfl, -⟩ := List.map_eq_cons_iff.mp hkeys
  rw [(rotateSecret_eq made hidle).1, hcached, deletionsThen_cons List.mem_cons_self, Effects.run]
  exact Py.run_bind_error (onIam_delete_refused hiam hnew) _

/-- A rotation that begins with a key only IAM has leaves it beside the new one. -/
theorem run_rotateSecret_besides {user : IamUser} {key : Text} {made : AccessKey}
    (hfailures : services.iam.failures = [])
    (hfind : services.iam.users.find userName = some user) (hkey : user.accessKeys = [key])
    (hrecorded : Recorded userName [] services.dbh)
    (hfree : Unrecorded made.accessKeyId services.dbh) :
    ∃ after, (rotateSecret userName made).run services = (.ok ⟨userName, [made]⟩, after) ∧
      after.iam.users.find userName =
        some { user with accessKeys := [key, made.accessKeyId] } := by
  have hquota : user.accessKeys.length < accessKeyQuota := by
    rw [hkey, List.length_singleton]
    decide
  obtain ⟨after, hmake, hgrown, -⟩ :=
    @run_createAccessKey userName services [] user made hfailures hfind hquota hrecorded hfree
  obtain ⟨db, hidle, hkeys⟩ := hrecorded
  refine ⟨after, ?_, ?_⟩
  · rw [(rotateSecret_eq made hidle).1, List.map_eq_nil_iff.mp hkeys]
    exact hmake
  · rw [hgrown, hkey]
    rfl

/-! ### Retrying -/

/-- A later rotation that nobody stops completes and leaves its key alone in both stores. -/
def RetryRepairs (userName : Text) (made : AccessKey) (services : Services) : Prop :=
  ∃ user after, (rotateSecret userName made).run services = (.ok user, after) ∧
    HoldsOnly userName made after

/-- A rotation cut off during its deletions can be retried exactly when the last one was recorded.
-/
theorem retryRepairs_deletions_iff (user : User) (next : Unit → Effects Services User)
    {retried : AccessKey} {count : ℕ}
    (hagrees : Agrees user.userName (user.accessKeys.map AccessKey.accessKeyId) services)
    (hretried : Unrecorded retried.accessKeyId services.dbh)
    (hcount : count < 2 * user.accessKeys.length) :
    RetryRepairs user.userName retried
      ((deletionsThen user user.accessKeys next).cutOff count services) ↔ count % 2 = 0 := by
  obtain ⟨key, keys, hrecorded, hiam, hfree⟩ :=
    deletionsThen_cutOff user next (fun _ ↦ id) hagrees hcount
  by_cases heven : count % 2 = 0
  · rw [if_pos heven] at hiam
    exact iff_of_true (run_rotateSecret ⟨hiam, hrecorded⟩ (hfree _ hretried)) heven
  · rw [if_neg heven] at hiam
    refine iff_of_false ?_ heven
    rintro ⟨user, after, hrun, -⟩
    rw [run_rotateSecret_refused hiam hrecorded] at hrun
    cases hrun

/-- The making of a key, cut off, can be retried exactly when the table has the key that IAM has. -/
theorem retryRepairs_creation_iff {user : User} {made retried : AccessKey} {count : ℕ}
    (hagrees : Agrees user.userName [] services)
    (hmade : Unrecorded made.accessKeyId services.dbh)
    (hretried : Unrecorded retried.accessKeyId services.dbh)
    (hdistinct : made.accessKeyId ≠ retried.accessKeyId) (hcount : count ≤ 2) :
    RetryRepairs user.userName retried ((user.createAccessKey made).cutOff count services) ↔
      count % 2 = 0 := by
  obtain ⟨hiam, hrecorded⟩ := hagrees
  obtain ⟨hfailures, iamUser, hfind, hnone⟩ := inIam_nil hiam
  have hquota : iamUser.accessKeys.length < accessKeyQuota := by
    rw [hnone]
    decide
  obtain ⟨iam, dbh, hcreate, hcommit, hreliable, hgrown, ⟨after, rfl⟩, hkeys, hothers⟩ :=
    creation_effects hfailures hfind hquota hrecorded hmade
  rw [hnone, List.nil_append] at hgrown
  rw [createAccessKey_eq]
  match count with
  | 0 => exact iff_of_true (run_rotateSecret ⟨hiam, hrecorded⟩ hretried) rfl
  | 1 =>
    -- IAM has made the key, and the table does not know it
    refine iff_of_false ?_ (by decide)
    simp only [Effects.cutOff, hcreate]
    obtain ⟨last, hrun, hboth⟩ :=
      @run_rotateSecret_besides user.userName { services with iam := iam } _ _ retried hreliable
        hgrown rfl hrecorded hretried
    rintro ⟨again, left, hagain, ⟨found, hfound, honly⟩, -⟩
    rw [hrun] at hagain
    cases hagain
    rw [hboth] at hfound
    cases hfound
    simp at honly
  | 2 =>
    refine iff_of_true ?_ rfl
    simp only [Effects.cutOff, hcreate, hcommit]
    have hiam' : InIam user.userName [made.accessKeyId] iam :=
      ⟨hreliable, _, hgrown, fun _ ↦ Iff.rfl⟩
    have hrecorded' : Recorded user.userName [made.accessKeyId] (.idle after) :=
      ⟨after, rfl, congrArg (List.map AccessKey.accessKeyId) hkeys⟩
    have hagrees : Agrees user.userName [made.accessKeyId] ⟨iam, .idle after⟩ :=
      ⟨hiam', hrecorded'⟩
    exact run_rotateSecret hagrees (hothers _ hdistinct.symm hretried)

/-- A rotation that begins with stores in agreement and is cut off after some of its effects can be
retried exactly when the last effect was not a call of IAM. IAM gives no key the id of another. -/
theorem rotation_retry_iff {keys : List Text} {made retried : AccessKey} {count : ℕ}
    (hagrees : Agrees userName keys services)
    (hmade : Unrecorded made.accessKeyId services.dbh)
    (hretried : Unrecorded retried.accessKeyId services.dbh)
    (hdistinct : made.accessKeyId ≠ retried.accessKeyId)
    (hcount : count ≤ 2 * keys.length + 2) :
    RetryRepairs userName retried ((rotateSecret userName made).cutOff count services) ↔
      count % 2 = 0 := by
  obtain ⟨hiam, db, hidle, rfl⟩ := hagrees
  let fresh : User := ⟨userName, db.accessKeysOf userName⟩
  have hstart : Agrees userName (fresh.accessKeys.map AccessKey.accessKeyId) services :=
    ⟨hiam, db, hidle, rfl⟩
  rw [(rotateSecret_eq made hidle).2 count]
  rw [List.length_map] at hcount
  rcases Nat.lt_or_ge count (2 * fresh.accessKeys.length) with hless | hmore
  · exact retryRepairs_deletions_iff fresh (fun _ ↦ fresh.createAccessKey made) hstart hretried
      hless
  · obtain ⟨extra, rfl⟩ := Nat.exists_eq_add_of_le hmore
    obtain ⟨emptied, hemptied, hfree, -, hcut⟩ :=
      deletionsThen_complete fresh (fun _ ↦ fresh.createAccessKey made) (fun _ ↦ id) hstart
    have hextra : extra ≤ 2 := Nat.le_of_add_le_add_left hcount
    rw [hcut, Nat.mul_add_mod]
    exact @retryRepairs_creation_iff emptied fresh made retried extra hemptied (hfree _ hmade)
      (hfree _ hretried) hdistinct hextra

end Rotation

/-- User `cs61c-aa` with one access key, which IAM and the table have. -/
def agreeingServices : Services :=
  sampleServices (sampleUser ["AKIA1".toList])
    (sampleDb (Table.empty.insertOrReplace ⟨"cs61c-aa".toList, "AKIA1".toList, []⟩))

theorem agrees_agreeingServices :
    Agrees "cs61c-aa".toList ["AKIA1".toList] agreeingServices :=
  ⟨⟨rfl, sampleUser ["AKIA1".toList], by decide +kernel, fun _ ↦ Iff.rfl⟩, _, rfl,
    by decide +kernel⟩

theorem rotation_retry_agreeingServices :
    RetryRepairs "cs61c-aa".toList ⟨"AKIA3".toList, []⟩
      ((rotateSecret "cs61c-aa".toList ⟨"AKIA2".toList, []⟩).cutOff 2 agreeingServices) :=
  (rotation_retry_iff agrees_agreeingServices
    (show ∀ _ ∈ _, _ from by decide +kernel) (show ∀ _ ∈ _, _ from by decide +kernel)
    (by decide) (by decide)).mpr rfl

/-- Cut off after its first effect, the rotation cannot be retried. -/
theorem rotation_cutOff_unrepaired :
    Agrees "cs61c-aa".toList ["AKIA1".toList] agreeingServices ∧
      ¬ RetryRepairs "cs61c-aa".toList ⟨"AKIA3".toList, []⟩
        ((rotateSecret "cs61c-aa".toList ⟨"AKIA2".toList, []⟩).cutOff 1 agreeingServices) := by
  refine ⟨agrees_agreeingServices, ?_⟩
  rintro ⟨user, after, hrun, -⟩
  have hraises : ((rotateSecret "cs61c-aa".toList ⟨"AKIA3".toList, []⟩).run
      ((rotateSecret "cs61c-aa".toList ⟨"AKIA2".toList, []⟩).cutOff 1 agreeingServices)).1 =
        .error noSuchEntity := rfl
  rw [hrun] at hraises
  cases hraises

end Ec2Wrappers.Subaccounts
