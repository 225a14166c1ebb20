import Ec2Wrappers.Foundations.Tables
import Ec2Wrappers.Subaccounts.Quota

/-!
# The SSH keys of a user

`User.create_ssh_key` and `User.delete_ssh_key` of `subaccounts.py` over the key pairs of the
account and the table `ssh_keys`. The requested name loses every character outside `[-a-zA-Z0-9_]`
and gets the user's name and a dash in front unless it starts with them (`fullKeyName`). EC2 refuses
a name it already has; the row is put with `INSERT OR REPLACE`.

`KeyOf` are the key names a user can launch with: those `create_ssh_key` gives out and those
`run_instances` accepts. The second kind includes the first, and is every text that starts with the
user's name (`keyOf_iff`).
-/

set_option autoImplicit false
set_option relaxedAutoImplicit false

namespace Ec2Wrappers.Subaccounts

open Foundations Aws

/-- A row of `ssh_keys`. -/
structure SshKeyRow where
  userName : Text
  keyName : Text
  privateKey : Text
  fingerprint : Text
  deriving DecidableEq, Repr

/-- The key pairs of the account, by name, and the table `ssh_keys`. -/
structure KeyStore where
  keyPairs : List Text
  sshKeys : Table SshKeyRow.keyName
  deriving DecidableEq

/-- The characters of `[-a-zA-Z0-9_]`. -/
def isKeyNameChar (c : Char) : Bool :=
  c = '-' || ('a' ≤ c && c ≤ 'z') || ('A' ≤ c && c ≤ 'Z') || ('0' ≤ c && c ≤ '9') || c = '_'

/-- The name `create_ssh_key` gives a key for the requested name. -/
def fullKeyName (userName keyName : Text) : Text :=
  let keyName := keyName.filter isKeyNameChar
  if !(keyPrefix userName).isPrefixOf keyName then keyPrefix userName ++ keyName else keyName

/-- `ec2.create_key_pair`. -/
def createKeyPair (name : Text) : Py KeyStore Unit := fun store ↦
  if name ∈ store.keyPairs then
    (.error (.library "EC2ResponseError".toList "InvalidKeyPair.Duplicate".toList), store)
  else (.ok (), { store with keyPairs := store.keyPairs ++ [name] })

/-- `User.create_ssh_key`, with the material and the fingerprint EC2 answers with. -/
def createSshKey (userName keyName material fingerprint : Text) : Py KeyStore Unit := do
  let fullName := fullKeyName userName keyName
  createKeyPair fullName
  Py.modify fun store ↦
    { store with
      sshKeys := store.sshKeys.insertOrReplace ⟨userName, fullName, material, fingerprint⟩ }

/-- The names of `User.get_ssh_keys`. -/
def getSshKeys (userName : Text) (store : KeyStore) : List Text :=
  (store.sshKeys.rows.filter (·.userName = userName)).map SshKeyRow.keyName

/-- `ec2.get_key_pair`. -/
def getKeyPair (name : Text) : Py KeyStore Text := fun store ↦
  if name ∈ store.keyPairs then (.ok name, store)
  else (.error (.library "EC2ResponseError".toList "InvalidKeyPair.NotFound".toList), store)

/-- `DELETE FROM ssh_keys WHERE key_name = ? AND user_name = ?`. -/
def deleteSshKeyRow (userName keyName : Text) (store : KeyStore) : KeyStore :=
  { store with sshKeys := store.sshKeys.delete fun row ↦
      row.keyName = keyName && row.userName = userName }

/-- `User.delete_ssh_key`. Of the key pair it reads the method `delete`, which it does not call. -/
def deleteSshKey (userName keyName : Text) : Py KeyStore Unit := do
  let store ← Py.get
  if keyName ∈ getSshKeys userName store then
    let _ ← getKeyPair keyName
    Py.modify (deleteSshKeyRow userName keyName)

/-- `create_ssh_key` of a name that EC2 has raises and changes nothing. -/
theorem createSshKey_taken {userName keyName material fingerprint : Text} {store : KeyStore}
    (htaken : fullKeyName userName keyName ∈ store.keyPairs) :
    createSshKey userName keyName material fingerprint store =
      (.error (.library "EC2ResponseError".toList "InvalidKeyPair.Duplicate".toList), store) := by
  simp [createSshKey, createKeyPair, htaken, Py.bind_eq, Py.bind]

/-- `create_ssh_key` of a free name returns with the pair created and its row put. -/
theorem createSshKey_free {userName keyName material fingerprint : Text} {store : KeyStore}
    (hfree : fullKeyName userName keyName ∉ store.keyPairs) :
    createSshKey userName keyName material fingerprint store =
      (.ok (), ⟨store.keyPairs ++ [fullKeyName userName keyName], store.sshKeys.insertOrReplace
        ⟨userName, fullKeyName userName keyName, material, fingerprint⟩⟩) := by
  simp [createSshKey, createKeyPair, hfree, Py.bind_eq, Py.bind]

/-- `delete_ssh_key` of a name that is not a key of the user returns and changes nothing. -/
theorem deleteSshKey_absent {userName keyName : Text} {store : KeyStore}
    (habsent : keyName ∉ getSshKeys userName store) :
    deleteSshKey userName keyName store = (.ok (), store) := by
  simp [deleteSshKey, habsent, Py.bind_eq, Py.bind]

/-- `delete_ssh_key` of a key of the user that EC2 has removes the row and leaves the pair. -/
theorem deleteSshKey_present {userName keyName : Text} {store : KeyStore}
    (hpresent : keyName ∈ getSshKeys userName store) (hpair : keyName ∈ store.keyPairs) :
    deleteSshKey userName keyName store = (.ok (), deleteSshKeyRow userName keyName store) := by
  simp [deleteSshKey, hpresent, getKeyPair, hpair, Py.bind_eq, Py.bind]

/-- `delete_ssh_key` of a key that EC2 does not have raises and changes nothing. -/
theorem deleteSshKey_unpaired {userName keyName : Text} {store : KeyStore}
    (hpresent : keyName ∈ getSshKeys userName store) (hpair : keyName ∉ store.keyPairs) :
    deleteSshKey userName keyName store =
      (.error (.library "EC2ResponseError".toList "InvalidKeyPair.NotFound".toList), store) := by
  simp [deleteSshKey, hpresent, getKeyPair, hpair, Py.bind_eq, Py.bind]

/-- A call that returns has created the key pair of the full name. -/
theorem createSshKey_ok {userName keyName material fingerprint : Text} {store after : KeyStore}
    (hrun : createSshKey userName keyName material fingerprint store = (.ok (), after)) :
    after.keyPairs = store.keyPairs ++ [fullKeyName userName keyName] := by
  by_cases htaken : fullKeyName userName keyName ∈ store.keyPairs
  · rw [createSshKey_taken htaken] at hrun
    cases hrun
  · rw [createSshKey_free htaken] at hrun
    cases hrun
    rfl

/-- A created key starts with the user's name and a dash. -/
theorem keyPrefix_fullKeyName (userName keyName : Text) :
    keyPrefix userName <+: fullKeyName userName keyName := by
  simp only [fullKeyName]
  split_ifs with hstarts
  · exact List.prefix_append _ _
  · simpa using hstarts

/-- The key names a user can launch with. -/
inductive KeyOf (userName : Text) : Text → Prop
  | created {keyName material fingerprint : Text} {store after : KeyStore} {name : Text}
      (hrun : createSshKey userName keyName material fingerprint store = (.ok (), after))
      (hname : after.keyPairs = store.keyPairs ++ [name]) : KeyOf userName name
  | accepted {account : List Reservation} {info : InstanceInfo} {call : LaunchCall} {name : Text}
      (hrun : runInstances userName account info = .ok call)
      (hname : info.keyName = some name) : KeyOf userName name

/-- The cheapest request there is, under a key name. -/
def microRequest (keyName : Text) : InstanceInfo where
  imageId := none
  count := .number (.int 1)
  keyName := some keyName
  instanceType := "t1.micro".toList
  securityGroups := []
  userData := some none
  availabilityZone := none
  useSpot := false

/-- With nothing running the cheapest request is accepted under every key name that starts with the
user's name. -/
theorem runInstances_microRequest {userName keyName : Text} (hstarts : userName <+: keyName) :
    ∃ call, runInstances userName [] (microRequest keyName) = .ok call := by
  have hcost : instanceCostOf "t1.micro".toList = .ok (.float (1 / 5)) := rfl
  have hlimit : ¬ spendLimit < ((PyNumber.int 0).add (.float (1 / 5 * 1))).toRat := by
    decide +kernel
  have hchecked : userName.isPrefixOf keyName = true := List.isPrefixOf_iff_prefix.mpr hstarts
  have hold : costInstances userName [] = .ok (.int 0) := rfl
  have hextra : costProposal "t1.micro".toList (.number (.int 1)) =
      .ok (.number (.float (1 / 5 * 1))) := by
    rw [costProposal, hcost]
    rfl
  refine ⟨.runInstances none (.number (.int 1)) (.number (.int 1)) keyName [] none
    "t1.micro".toList none, ?_⟩
  simp only [runInstances, runInstancesWith, microRequest, hold, hextra, bind, Except.bind,
    hchecked, Bool.not_true, Bool.false_eq_true, if_false, PyNumber.addValue, gt_iff_lt, hlimit]
  rfl

/-- A user can launch with every key name that starts with the user's name, and with no other. -/
theorem keyOf_iff (userName keyName : Text) : KeyOf userName keyName ↔ userName <+: keyName := by
  constructor
  · intro hkey
    cases hkey with
    | created hrun hname =>
      rw [createSshKey_ok hrun, List.append_cancel_left_eq, List.singleton_inj] at hname
      exact hname ▸ (List.prefix_append userName _).trans (keyPrefix_fullKeyName userName _)
    | accepted hrun hname =>
      obtain ⟨name, -, -, -, hsame, hstarts, -⟩ := runInstances_accepted hrun
      rw [hname] at hsame
      cases hsame
      exact hstarts
  · intro hstarts
    obtain ⟨call, hcall⟩ := runInstances_microRequest hstarts
    exact .accepted hcall rfl

end Ec2Wrappers.Subaccounts
