import Ec2Wrappers.Foundations.Runs
import Ec2Wrappers.Subaccounts.SshKeyMirror
import Ec2Wrappers.Subaccounts.UserCreation

/-!
# The SSH key records of other users

The key pairs of EC2, IAM and the database of accounts under any sequence of `create_ssh_key`,
`delete_ssh_key`, `make_user` and `delete_user` calls by any users, with any failures of the remote
calls, while anybody else creates key pairs and nobody else deletes them.

The primary key of `ssh_keys` is the key name alone and the row is put with `INSERT OR REPLACE`, and
users whose names overlap can ask for the same full name (`fullKeyName_overlap`). A row of another
user is safe all the same: every stored name still exists in EC2 (`Paired`), because
`delete_ssh_key` never deletes the pair, so EC2 refuses to create it again. Every call keeps
`Paired` and the rows of the others (`call_keeps`), and so does every call of a whole sequence
(`othersKeys_kept`).
-/

set_option autoImplicit false
set_option relaxedAutoImplicit false

namespace Ec2Wrappers.Subaccounts

open Foundations Aws

/-! ### Sequences of calls -/

/-- The key pairs of EC2, the users of IAM, and the database of accounts. -/
structure Site where
  keyPairs : List Text
  iamUsers : Table IamUser.name
  db : UserDb

/-- A call that a user makes. `answered` says whether EC2 answers, and `failures` which of the calls
of IAM fail by themselves. -/
inductive UserCall
  | ssh (call : KeyCall) (answered : Bool)
  | makeUser (userName : Text) (letters : ℕ → Char) (now realUsername : Text)
      (failures : List Bool)
  | deleteUser (userName : Text) (failures : List Bool)

/-- The user a call is made for. -/
def KeyCall.userName : KeyCall → Text
  | .createSshKey userName _ _ _ => userName
  | .deleteSshKey userName _ => userName

/-- The user a call is made for. -/
def UserCall.userName : UserCall → Text
  | .ssh call _ => call.userName
  | .makeUser userName _ _ _ _ => userName
  | .deleteUser userName _ => userName

/-- The key pairs and the table `ssh_keys`. -/
def Site.keyStore (site : Site) : KeyStore := ⟨site.keyPairs, site.db.sshKeys⟩

/-- What a process with its own connections finds. -/
def Site.services (site : Site) (failures : List Bool) : Services :=
  ⟨⟨site.iamUsers, failures⟩, .idle site.db⟩

/-- What a process leaves when it ends. -/
def Site.leave (site : Site) (services : Services) : Site :=
  { site with
    iamUsers := services.iam.users
    db := services.dbh.close }

/-- A call, whether it returns or raises. The only remote call of the methods for SSH keys comes
before their change of the database, so nothing changes when EC2 does not answer. -/
def Site.call (site : Site) : UserCall → Site
  | .ssh call answered =>
    if answered then
      let store := (call.run site.keyStore).2
      { site with
        keyPairs := store.keyPairs
        db := { site.db with sshKeys := store.sshKeys } }
    else site
  | .makeUser userName letters now realUsername failures =>
    site.leave (makeUser userName letters now realUsername (site.services failures)).2
  | .deleteUser userName failures =>
    site.leave (deleteUser userName (site.services failures)).2

/-- A step: a call, or the creation of a key pair by anybody else. -/
inductive SiteEvent
  | call (call : UserCall)
  | createKeyPair (name : Text)

/-- One step. -/
def Site.next (site : Site) : SiteEvent → Option Site
  | .call call => some (site.call call)
  | .createKeyPair name => some { site with keyPairs := site.keyPairs ++ [name] }

/-- The beginning: no row in `ssh_keys`, and anything else. -/
def Site.start (keyPairs : List Text) (iamUsers : Table IamUser.name)
    (users : Table UserRow.userName) (accessKeys : Table AccessKeyRow.accessKey) : Site :=
  ⟨keyPairs, iamUsers, users, accessKeys, Table.empty⟩

/-! ### What is kept -/

/-- Every stored key name exists in EC2. -/
def Paired (store : KeyStore) : Prop := ∀ row ∈ store.sshKeys.rows, row.keyName ∈ store.keyPairs

/-- The rows of the users other than one are the same. -/
def KeepsOthers (userName : Text) (before after : Table SshKeyRow.keyName) : Prop :=
  ∀ row, row.userName ≠ userName → (row ∈ after.rows ↔ row ∈ before.rows)

/-- A user whose name and a dash begin another user's name can ask for every full key name of the
other. -/
theorem fullKeyName_overlap {userName other : Text}
    (hchars : ∀ c ∈ other, isKeyNameChar c = true) (hstarts : keyPrefix userName <+: other)
    (keyName : Text) :
    fullKeyName userName (fullKeyName other keyName) = fullKeyName other keyName := by
  have hclean : (fullKeyName other keyName).filter isKeyNameChar = fullKeyName other keyName := by
    have hown : (keyPrefix other).filter isKeyNameChar = keyPrefix other := by
      rw [keyPrefix, List.filter_append, List.filter_eq_self.mpr hchars]
      rfl
    simp only [fullKeyName]
    split_ifs
    · rw [List.filter_append, hown, List.filter_filter]
      simp
    · simp
  have hbegins : keyPrefix userName <+: fullKeyName other keyName :=
    (hstarts.trans (List.prefix_append other _)).trans (keyPrefix_fullKeyName other keyName)
  rw [fullKeyName]
  simp only [hclean, List.isPrefixOf_iff_prefix.mpr hbegins, Bool.not_true, Bool.false_eq_true,
    if_false]

section OneCall

variable {store : KeyStore} {userName : Text}

/-- `create_ssh_key` replaces no row, because EC2 refuses a name that has one. -/
theorem createSshKey_keeps (keyName material fingerprint : Text) (hpaired : Paired store) :
    Paired (createSshKey userName keyName material fingerprint store).2 ∧
      KeepsOthers userName store.sshKeys
        (createSshKey userName keyName material fingerprint store).2.sshKeys := by
  by_cases htaken : fullKeyName userName keyName ∈ store.keyPairs
  · rw [createSshKey_taken htaken]
    exact ⟨hpaired, fun _ _ ↦ Iff.rfl⟩
  · rw [createSshKey_free htaken]
    have hfree : ∀ row ∈ store.sshKeys.rows, row.keyName ≠ fullKeyName userName keyName :=
      fun row hrow hsame ↦ htaken (hsame ▸ hpaired row hrow)
    refine ⟨fun row hrow ↦ ?_, fun row hother ↦ ?_⟩
    · rcases (Table.mem_insertOrReplace _ _ row).mp hrow with ⟨hmem, -⟩ | rfl
      · exact List.mem_append_left _ (hpaired row hmem)
      · exact List.mem_append_right _ (List.mem_singleton_self _)
    · rw [Table.mem_insertOrReplace]
      constructor
      · rintro (⟨hmem, -⟩ | rfl)
        · exact hmem
        · exact absurd rfl hother
      · exact fun hmem ↦ Or.inl ⟨hmem, hfree row hmem⟩

/-- `delete_ssh_key` removes rows of its user alone, and no key pair. -/
theorem deleteSshKey_keeps (keyName : Text) (hpaired : Paired store) :
    Paired (deleteSshKey userName keyName store).2 ∧
      KeepsOthers userName store.sshKeys (deleteSshKey userName keyName store).2.sshKeys := by
  by_cases hpresent : keyName ∈ getSshKeys userName store
  · by_cases hpair : keyName ∈ store.keyPairs
    · rw [deleteSshKey_present hpresent hpair]
      refine ⟨fun row hrow ↦ hpaired row ((Table.mem_delete _ _ row).mp hrow).1,
        fun row hother ↦ ?_⟩
      simp [deleteSshKeyRow, hother]
    · rw [deleteSshKey_unpaired hpresent hpair]
      exact ⟨hpaired, fun _ _ ↦ Iff.rfl⟩
  · rw [deleteSshKey_absent hpresent]
    exact ⟨hpaired, fun _ _ ↦ Iff.rfl⟩

end OneCall

/-! ### Creating and deleting accounts -/

/-- The table `ssh_keys` as a process leaves it. -/
def HasSshKeys (rows : Table SshKeyRow.keyName) (services : Services) : Prop :=
  services.dbh.close.sshKeys = rows

section Accounts

variable (rows : Table SshKeyRow.keyName)

/-- A call of IAM does not touch the database. -/
theorem keeps_onIam {Value : Type} (call : Py Iam Value) :
    Py.Keeps (HasSshKeys rows) (onIam call) := fun _ hrows ↦ hrows

/-- A commit that leaves the table alone. -/
theorem keeps_commit {change : UserDb → UserDb} (hchange : ∀ db, (change db).sshKeys = db.sshKeys) :
    Py.Keeps (HasSshKeys rows) (commit change) := by
  intro services hrows
  unfold commit Py.within transaction
  cases hworking : services.dbh.working with
  | some working => exact hrows
  | none => exact (hchange services.dbh.committed).trans hrows

/-- `make_user` leaves the table alone. -/
theorem keeps_makeUser (userName : Text) (letters : ℕ → Char) (now realUsername : Text) :
    Py.Keeps (HasSshKeys rows) (makeUser userName letters now realUsername) := by
  unfold makeUser
  refine Py.keeps_bind (keeps_onIam rows _) fun _ ↦ ?_
  refine Py.keeps_bind (keeps_onIam rows _) fun _ ↦ ?_
  refine Py.keeps_bind (keeps_onIam rows _) fun _ ↦ ?_
  refine Py.keeps_bind (Py.keeps_ofExcept _ _) fun _ ↦ ?_
  refine Py.keeps_bind (keeps_onIam rows _) fun _ ↦ ?_
  refine Py.keeps_bind (Py.keeps_ofExcept _ _) fun _ ↦ ?_
  refine Py.keeps_bind (keeps_onIam rows _) fun _ ↦ ?_
  refine Py.keeps_bind (keeps_commit rows fun _ ↦ rfl) fun _ ↦ ?_
  exact Py.keeps_bind (Py.keeps_get _) fun _ ↦ Py.keeps_ret _ _

/-- `delete_user` leaves the table alone: foreign keys are off, so the deletion of the row of
`users` does not cascade. -/
theorem keeps_deleteUser (userName : Text) :
    Py.Keeps (HasSshKeys rows) (deleteUser userName) :=
  Py.keeps_bind (keeps_onIam rows _) fun _ ↦ keeps_commit rows fun _ ↦ rfl

end Accounts

/-! ### Whole sequences -/

/-- Every call keeps every stored name in EC2 and the rows of the other users. -/
theorem call_keeps {site : Site} (call : UserCall) (hpaired : Paired site.keyStore) :
    Paired (site.call call).keyStore ∧
      KeepsOthers call.userName site.db.sshKeys (site.call call).db.sshKeys := by
  cases call with
  | ssh call answered =>
    cases answered with
    | false => exact ⟨hpaired, fun _ _ ↦ Iff.rfl⟩
    | true =>
      cases call with
      | createSshKey userName keyName material fingerprint =>
        exact createSshKey_keeps keyName material fingerprint hpaired
      | deleteSshKey userName keyName => exact deleteSshKey_keeps keyName hpaired
  | makeUser userName letters now realUsername failures =>
    have hkept := keeps_makeUser site.db.sshKeys userName letters now realUsername
      (site.services failures) rfl
    have hsame : (site.call (.makeUser userName letters now realUsername failures)).db.sshKeys =
        site.db.sshKeys := hkept
    refine ⟨?_, fun row _ ↦ by rw [hsame]⟩
    rw [Paired, Site.keyStore, hsame]
    exact hpaired
  | deleteUser userName failures =>
    have hkept := keeps_deleteUser site.db.sshKeys userName (site.services failures) rfl
    have hsame : (site.call (.deleteUser userName failures)).db.sshKeys = site.db.sshKeys := hkept
    refine ⟨?_, fun row _ ↦ by rw [hsame]⟩
    rw [Paired, Site.keyStore, hsame]
    exact hpaired

/-- Every step keeps every stored name in EC2. -/
theorem paired_next (before : Site) (event : SiteEvent) (after : Site)
    (hstep : stepsOf Site.next before event after) (hpaired : Paired before.keyStore) :
    Paired after.keyStore := by
  cases event with
  | call call =>
    cases hstep
    exact (call_keeps call hpaired).1
  | createKeyPair name =>
    cases hstep
    exact fun row hrow ↦ List.mem_append_left _ (hpaired row hrow)

/-- In every sequence from an empty table, a call neither replaces, changes nor removes a row of
another user. -/
theorem othersKeys_kept {keyPairs : List Text} {iamUsers : Table IamUser.name}
    {users : Table UserRow.userName} {accessKeys : Table AccessKeyRow.accessKey}
    {events : List SiteEvent} {site : Site}
    (hrun : Run (stepsOf Site.next) (.start keyPairs iamUsers users accessKeys) events site)
    (call : UserCall) :
    KeepsOthers call.userName site.db.sshKeys (site.call call).db.sshKeys := by
  have hstart : Paired (Site.start keyPairs iamUsers users accessKeys).keyStore :=
    fun row hrow ↦ absurd hrow List.not_mem_nil
  exact (call_keeps call (hrun.invariant paired_next hstart)).2

/-- User `cs61c-a-b` creates a key. -/
def otherCreates : List SiteEvent :=
  [.call (.ssh (.createSshKey "cs61c-a-b".toList "x".toList [] []) true)]

/-- Asked by user `cs61c-a` for the same full name, EC2 refuses, and the row stays. -/
theorem othersKeys_kept_otherCreates : ∃ site,
    otherCreates.foldlM Site.next (.start [] Table.empty Table.empty Table.empty) = some site ∧
      KeepsOthers "cs61c-a".toList site.db.sshKeys
        (site.call (.ssh (.createSshKey "cs61c-a".toList "b-x".toList [] []) true)).db.sshKeys := by
  have hrun : otherCreates.foldlM Site.next (.start [] Table.empty Table.empty Table.empty) =
      some ((Site.start [] Table.empty Table.empty Table.empty).call
        (.ssh (.createSshKey "cs61c-a-b".toList "x".toList [] []) true)) := rfl
  refine ⟨_, hrun, ?_⟩
  exact othersKeys_kept (Run.of_foldlM hrun)
    (.ssh (.createSshKey "cs61c-a".toList "b-x".toList [] []) true)

end Ec2Wrappers.Subaccounts
