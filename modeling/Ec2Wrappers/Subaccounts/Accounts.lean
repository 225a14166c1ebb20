import Ec2Wrappers.Aws.Iam
import Ec2Wrappers.Subaccounts.SshKeys

/-!
# Deleting an account

`iam_delete_user` and `delete_user` of `subaccounts.py`, over IAM and the database of accounts.

`iam_delete_user` wraps its work in a handler that swallows every `StandardError`. Its first
statement calls `auditlog`, a name that does not exist (the function is `audit_log`), so a
`NameError` ends the work before the first call of IAM and the handler hides it
(`iamDeleteUser_eq`). `delete_user` then deletes the row of `users`. The schema declares that the
rows of `access_keys` and `ssh_keys` go with it, but SQLite only does so on a connection that has
turned foreign keys on, which no connection here does (`foreignKeys`).

`Revoked` says what a deletion is for. It holds after `delete_user` exactly for the users that had
nothing to revoke (`deleteUser_revokes_iff`).
-/

set_option autoImplicit false
set_option relaxedAutoImplicit false

namespace Ec2Wrappers.Subaccounts

open Foundations Aws

/-! ### The database of accounts -/

/-- A row of `users`. -/
structure UserRow where
  userName : Text
  createTime : Text
  createAccount : Text
  loginPassword : Option Text
  deriving DecidableEq, Repr

/-- A row of `access_keys`. -/
structure AccessKeyRow where
  userName : Text
  accessKey : Text
  secretAccessKey : Text
  deriving DecidableEq, Repr

/-- The tables of the database of accounts. -/
structure UserDb where
  users : Table UserRow.userName
  accessKeys : Table AccessKeyRow.accessKey
  sshKeys : Table SshKeyRow.keyName
  deriving DecidableEq

/-- IAM and the connection to the database. -/
structure Services where
  iam : Iam
  dbh : Connection UserDb
  deriving DecidableEq

/-- `PRAGMA foreign_keys` of the connection: SQLite's default. -/
def foreignKeys : Bool := false

/-- `DELETE FROM users WHERE user_name = ?`, with the cascade of the schema where foreign keys are
on. -/
def deleteUserRow (userName : Text) (db : UserDb) : UserDb where
  users := db.users.delete (·.userName = userName)
  accessKeys :=
    if foreignKeys then db.accessKeys.delete (·.userName = userName) else db.accessKeys
  sshKeys := if foreignKeys then db.sshKeys.delete (·.userName = userName) else db.sshKeys

/-! ### The functions -/

/-- A call of `auditlog`, which is not defined. -/
def auditlog {Store : Type} (_message : Text) : Py Store Unit :=
  Py.raise (.nameError "auditlog".toList)

/-- Three lookups in an answer, one in the other. -/
def entries (first second third : Text) (response : Response) :
    Except PyError (List ResponseItem) := do
  let response ← response.entry first
  let result ← response.entry second
  let list ← result.entry third
  return list.items

/-- `iam_delete_user`. -/
def iamDeleteUser (userName : Text) : Py Iam Unit := Py.exceptStandardError do
  auditlog ("Trying to delete user ".toList ++ userName)
  let _ ← getUser userName
  let policies ← getAllUserPolicies userName
  let policyNames ← Py.ofExcept (entries "list_user_policies_response".toList
    "list_user_policies_result".toList "policy_names".toList policies)
  Py.forEach policyNames fun policyName ↦ do
    let policyName ← Py.ofExcept policyName.name
    deleteUserPolicy userName policyName
  let groups ← getGroupsForUser userName
  let groups ← Py.ofExcept (groups.entry "list_user_groups_response".toList)
  let groups ← Py.ofExcept (groups.entry "list_user_groups_result".toList)
  Py.forEach groups.items fun group ↦ do
    let groupName ← Py.ofExcept (group.field "group_name".toList)
    removeUserFromGroup groupName userName
  let certs ← getAllSigningCerts userName
  let certs ← Py.ofExcept (entries "list_signing_certificates_response".toList
    "list_signing_certificates_result".toList "certificates".toList certs)
  Py.forEach certs fun cert ↦ do
    let certId ← Py.ofExcept (cert.field "certificate_id".toList)
    deleteSigningCert certId userName
  let keys ← getAllAccessKeys userName
  let keys ← Py.ofExcept (entries "list_access_keys_response".toList
    "list_access_keys_result".toList "access_key_metadata".toList keys)
  Py.forEach keys fun key ↦ do
    let keyId ← Py.ofExcept (key.field "access_key_id".toList)
    deleteAccessKey keyId userName

/-- `delete_user`. -/
def deleteUser (userName : Text) : Py Services Unit := do
  Py.within Services.iam (fun services iam ↦ { services with iam := iam }) (iamDeleteUser userName)
  Py.within Services.dbh (fun services dbh ↦ { services with dbh := dbh })
    (transaction (Py.modify (deleteUserRow userName)))

/-! ### What they do -/

/-- `iam_delete_user` returns and changes nothing. -/
theorem iamDeleteUser_eq (userName : Text) (iam : Iam) :
    iamDeleteUser userName iam = (.ok (), iam) := rfl

/-- `delete_user` returns; the row of `users` is gone and everything else is as before. -/
theorem deleteUser_eq (userName : Text) {services : Services} {db : UserDb}
    (hidle : services.dbh = .idle db) : deleteUser userName services =
      (.ok (), { services with dbh := .idle (deleteUserRow userName db) }) := by
  rw [deleteUser, Py.bind_eq, Py.run_bind_ok (Py.run_within (iamDeleteUser_eq userName _))]
  have hrow : transaction (Py.modify (deleteUserRow userName)) services.dbh =
      (.ok (), .idle (deleteUserRow userName db)) := by
    rw [hidle]
    exact transaction_of_ok rfl
  exact Py.run_within hrow

/-! ### What they are for -/

/-- IAM holds nothing that gives the user access, and no table has a row of the user. -/
def Revoked (userName : Text) (services : Services) : Prop :=
  (∀ user, services.iam.users.find userName = some user →
    user.accessKeys = [] ∧ user.signingCerts = [] ∧ user.policies = [] ∧ user.groups = []) ∧
  (∀ row ∈ services.dbh.close.users.rows, row.userName ≠ userName) ∧
  (∀ row ∈ services.dbh.close.accessKeys.rows, row.userName ≠ userName) ∧
  ∀ row ∈ services.dbh.close.sshKeys.rows, row.userName ≠ userName

/-- What IAM and the tables hold of the other users is unchanged. -/
def OthersUnchanged (userName : Text) (before after : Services) : Prop :=
  ∀ other ≠ userName, after.iam.users.find other = before.iam.users.find other ∧
    (∀ row, row.userName = other →
      (row ∈ after.dbh.close.users.rows ↔ row ∈ before.dbh.close.users.rows)) ∧
    (∀ row, row.userName = other →
      (row ∈ after.dbh.close.accessKeys.rows ↔ row ∈ before.dbh.close.accessKeys.rows)) ∧
    ∀ row, row.userName = other →
      (row ∈ after.dbh.close.sshKeys.rows ↔ row ∈ before.dbh.close.sshKeys.rows)

/-- The user has no key, certificate, policy or group in IAM and no row in the two tables of keys.
-/
def NothingToRevoke (user : IamUser) (db : UserDb) : Prop :=
  (user.accessKeys = [] ∧ user.signingCerts = [] ∧ user.policies = [] ∧ user.groups = []) ∧
    (∀ row ∈ db.accessKeys.rows, row.userName ≠ user.name) ∧
      ∀ row ∈ db.sshKeys.rows, row.userName ≠ user.name

instance (user : IamUser) (db : UserDb) : Decidable (NothingToRevoke user db) :=
  inferInstanceAs (Decidable (_ ∧ _ ∧ _))

/-- The other users keep what they have. -/
theorem deleteUser_othersUnchanged {userName : Text} {services : Services} {db : UserDb}
    (hidle : services.dbh = .idle db) :
    OthersUnchanged userName services
      { services with dbh := .idle (deleteUserRow userName db) } := by
  intro other hother
  rw [hidle]
  refine ⟨rfl, fun row hrow ↦ ?_, fun _ _ ↦ Iff.rfl, fun _ _ ↦ Iff.rfl⟩
  simp [Connection.close, Connection.idle, deleteUserRow, hrow, hother]

/-- `delete_user` of a user in IAM returns with everything of the user revoked and the other users
unchanged exactly when the user had nothing to revoke. -/
theorem deleteUser_revokes_iff {user : IamUser} {services : Services} {db : UserDb}
    (hexists : services.iam.users.find user.name = some user) (hidle : services.dbh = .idle db) :
    (∃ after, deleteUser user.name services = (.ok (), after) ∧ Revoked user.name after ∧
      OthersUnchanged user.name services after) ↔ NothingToRevoke user db := by
  rw [deleteUser_eq user.name hidle]
  constructor
  · rintro ⟨after, hafter, hrevoked, -⟩
    cases hafter
    exact ⟨hrevoked.1 user hexists, hrevoked.2.2.1, hrevoked.2.2.2⟩
  · rintro ⟨hiam, hkeys, hssh⟩
    refine ⟨_, rfl, ⟨fun found hfound ↦ ?_, fun row hrow ↦ ?_, hkeys, hssh⟩,
      deleteUser_othersUnchanged hidle⟩
    · rw [hexists] at hfound
      cases hfound
      exact hiam
    · simpa using ((Table.mem_delete _ _ _).mp hrow).2

/-- A user with some access keys in IAM. -/
def sampleUser (accessKeys : List Text) : IamUser where
  name := "cs61c-aa".toList
  policies := []
  groups := []
  signingCerts := []
  accessKeys := accessKeys
  loginPassword := none

/-- A database with the row of this user and some access keys. -/
def sampleDb (accessKeys : Table AccessKeyRow.accessKey) : UserDb where
  users := Table.empty.insertOrReplace ⟨"cs61c-aa".toList, [], [], none⟩
  accessKeys := accessKeys
  sshKeys := Table.empty

/-- An account with this user alone. -/
def sampleServices (user : IamUser) (db : UserDb) : Services where
  iam := ⟨Table.empty.insertOrReplace user, []⟩
  dbh := .idle db

theorem deleteUser_revokes_iff_empty :
    ∃ after, deleteUser (sampleUser []).name (sampleServices (sampleUser []) (sampleDb .empty)) =
      (.ok (), after) ∧ Revoked (sampleUser []).name after ∧
        OthersUnchanged (sampleUser []).name (sampleServices (sampleUser []) (sampleDb .empty))
          after := by
  have hexists : (sampleServices (sampleUser []) (sampleDb .empty)).iam.users.find
      (sampleUser []).name = some (sampleUser []) := by decide +kernel
  have hidle : (sampleServices (sampleUser []) (sampleDb .empty)).dbh = .idle (sampleDb .empty) :=
    rfl
  exact (deleteUser_revokes_iff hexists hidle).mpr (by decide +kernel)

/-- A user with an access key still has it in IAM after `delete_user` has returned. -/
theorem accessKey_survives :
    ∃ after, deleteUser (sampleUser ["AKIA1".toList]).name
        (sampleServices (sampleUser ["AKIA1".toList]) (sampleDb .empty)) = (.ok (), after) ∧
      ¬ Revoked (sampleUser ["AKIA1".toList]).name after := by
  have hidle : (sampleServices (sampleUser ["AKIA1".toList]) (sampleDb .empty)).dbh =
      .idle (sampleDb .empty) := rfl
  have hkept : (sampleServices (sampleUser ["AKIA1".toList]) (sampleDb .empty)).iam.users.find
      (sampleUser ["AKIA1".toList]).name = some (sampleUser ["AKIA1".toList]) := by decide +kernel
  refine ⟨{ sampleServices (sampleUser ["AKIA1".toList]) (sampleDb .empty) with
    dbh := .idle (deleteUserRow (sampleUser ["AKIA1".toList]).name (sampleDb .empty)) },
    deleteUser_eq _ hidle, fun hrevoked ↦ ?_⟩
  exact absurd (hrevoked.1 (sampleUser ["AKIA1".toList]) hkept).1 (List.cons_ne_nil _ _)

end Ec2Wrappers.Subaccounts
