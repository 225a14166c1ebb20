import Ec2Wrappers.Foundations.Tables

/-!
# IAM through boto

The users of the account with what IAM holds for each, and the calls of the vendored
`boto/iam/__init__.py` the wrappers make. Any call can fail by itself; `Iam.failures` says which of
the coming calls do. A call about a user, or about an item of a user, that IAM does not have fails
with `NoSuchEntity`.

A listing call answers with the nested dictionary that `boto/iam/response.py` makes of the XML
(`Response`): its keys are the element names in lower case with underscores, so `ListGroupsForUser`
answers under `list_groups_for_user_response`. The items of a list are texts or dictionaries of
texts, and iterating over a dictionary gives its keys.
-/

set_option autoImplicit false
set_option relaxedAutoImplicit false

namespace Ec2Wrappers.Aws

open Foundations

/-! ### Answers -/

/-- An item of a list in an answer. -/
inductive ResponseItem
  | text (value : Text)
  | record (fields : List (Text × Text))
  deriving DecidableEq, Repr

/-- An answer, or a part of one. -/
inductive Response
  | dict (entries : List (Text × Response))
  | list (items : List ResponseItem)

/-- `response[key]`. -/
def Response.entry (key : Text) : Response → Except PyError Response
  | .dict entries =>
    match entries.lookup key with
    | some entry => .ok entry
    | none => .error (.keyError key)
  | .list _ => .error .typeError

/-- What `for item in response` goes through. -/
def Response.items : Response → List ResponseItem
  | .dict entries => entries.map fun entry ↦ .text entry.1
  | .list items => items

/-- `item[key]`. -/
def ResponseItem.field (key : Text) : ResponseItem → Except PyError Text
  | .text _ => .error .typeError
  | .record fields =>
    match fields.lookup key with
    | some value => .ok value
    | none => .error (.keyError key)

/-- The item given to IAM as a name. -/
def ResponseItem.name : ResponseItem → Except PyError Text
  | .text value => .ok value
  | .record _ => .error .typeError

/-- The answer of a listing call. -/
def Response.listing (response result listName : Text) (items : List ResponseItem) : Response :=
  .dict [(response, .dict [(result, .dict [(listName, .list items)])])]

/-! ### Users and calls -/

/-- A user with everything IAM holds for it. -/
structure IamUser where
  name : Text
  policies : List Text
  groups : List Text
  signingCerts : List Text
  accessKeys : List Text
  loginPassword : Option Text
  deriving DecidableEq, Repr

/-- The users of the account, and which of the coming calls fail by themselves. -/
structure Iam where
  users : Table IamUser.name
  failures : List Bool
  deriving DecidableEq

/-- One call. -/
def iamCall {Value : Type}
    (action : Table IamUser.name → Except PyError (Value × Table IamUser.name)) : Py Iam Value :=
  fun iam ↦
    let after : Iam := { iam with failures := iam.failures.tail }
    if iam.failures.head? = some true then
      (.error (.library "BotoServerError".toList "ServiceFailure".toList), after)
    else
      match action iam.users with
      | .ok (value, users) => (.ok value, { after with users := users })
      | .error error => (.error error, after)

/-- The failure of a call about something IAM does not have. -/
def noSuchEntity : PyError := .library "BotoServerError".toList "NoSuchEntity".toList

/-- A call that reads a user. -/
def readUser {Value : Type} (userName : Text) (answer : IamUser → Value) : Py Iam Value :=
  iamCall fun users ↦
    match users.find userName with
    | some user => .ok (answer user, users)
    | none => .error noSuchEntity

/-- A call that takes an item out of one of a user's lists. -/
def removeItem (itemsOf : IamUser → List Text) (setItems : IamUser → List Text → IamUser)
    (userName item : Text) : Py Iam Unit :=
  iamCall fun users ↦
    match users.find userName with
    | some user =>
      if item ∈ itemsOf user then
        .ok ((), users.insertOrReplace (setItems user ((itemsOf user).filter (· ≠ item))))
      else .error noSuchEntity
    | none => .error noSuchEntity

/-- `get_user`. -/
def getUser (userName : Text) : Py Iam IamUser := readUser userName id

/-- `get_all_user_policies`. -/
def getAllUserPolicies (userName : Text) : Py Iam Response :=
  readUser userName fun user ↦
    .listing "list_user_policies_response".toList "list_user_policies_result".toList
      "policy_names".toList (user.policies.map .text)

/-- `get_groups_for_user`. -/
def getGroupsForUser (userName : Text) : Py Iam Response :=
  readUser userName fun user ↦
    .listing "list_groups_for_user_response".toList "list_groups_for_user_result".toList
      "groups".toList (user.groups.map fun group ↦ .record [("group_name".toList, group)])

/-- `get_all_signing_certs`. -/
def getAllSigningCerts (userName : Text) : Py Iam Response :=
  readUser userName fun user ↦
    .listing "list_signing_certificates_response".toList "list_signing_certificates_result".toList
      "certificates".toList
      (user.signingCerts.map fun cert ↦ .record [("certificate_id".toList, cert)])

/-- `get_all_access_keys`. -/
def getAllAccessKeys (userName : Text) : Py Iam Response :=
  readUser userName fun user ↦
    .listing "list_access_keys_response".toList "list_access_keys_result".toList
      "access_key_metadata".toList
      (user.accessKeys.map fun key ↦ .record [("access_key_id".toList, key)])

/-- `delete_user_policy`. -/
def deleteUserPolicy (userName policyName : Text) : Py Iam Unit :=
  removeItem IamUser.policies (fun user policies ↦ { user with policies := policies })
    userName policyName

/-- `remove_user_from_group`. -/
def removeUserFromGroup (groupName userName : Text) : Py Iam Unit :=
  removeItem IamUser.groups (fun user groups ↦ { user with groups := groups }) userName groupName

/-- `delete_signing_cert`. -/
def deleteSigningCert (certId userName : Text) : Py Iam Unit :=
  removeItem IamUser.signingCerts (fun user certs ↦ { user with signingCerts := certs })
    userName certId

/-- `delete_access_key`. -/
def deleteAccessKey (accessKeyId userName : Text) : Py Iam Unit :=
  removeItem IamUser.accessKeys (fun user keys ↦ { user with accessKeys := keys })
    userName accessKeyId

/-! ### Calls that add something -/

/-- A key IAM has made. -/
structure AccessKey where
  accessKeyId : Text
  secretAccessKey : Text
  deriving DecidableEq, Repr

/-- The failure of a call that would make something IAM has already. -/
def entityAlreadyExists : PyError := .library "BotoServerError".toList "EntityAlreadyExists".toList

/-- The failure of a call that would exceed a quota of the account. -/
def limitExceeded : PyError := .library "BotoServerError".toList "LimitExceeded".toList

/-- The number of access keys IAM allows a user. -/
def accessKeyQuota : ℕ := 2

/-- A list with an item added unless it is there. -/
def addItem (item : Text) (items : List Text) : List Text :=
  if item ∈ items then items else items ++ [item]

/-- A call that changes a user. -/
def changeUser (userName : Text) (change : IamUser → Except PyError IamUser) : Py Iam Unit :=
  iamCall fun users ↦
    match users.find userName with
    | some user =>
      match change user with
      | .ok changed => .ok ((), users.insertOrReplace changed)
      | .error error => .error error
    | none => .error noSuchEntity

/-- `create_user`. -/
def createUser (userName : Text) : Py Iam Unit :=
  iamCall fun users ↦
    match users.find userName with
    | some _ => .error entityAlreadyExists
    | none => .ok ((), users.insertOrReplace ⟨userName, [], [], [], [], none⟩)

/-- `add_user_to_group`, with a group that exists. -/
def addUserToGroup (groupName userName : Text) : Py Iam Unit :=
  changeUser userName fun user ↦ .ok { user with groups := addItem groupName user.groups }

/-- `put_user_policy`; of a policy only the name is kept. -/
def putUserPolicy (userName policyName : Text) : Py Iam Unit :=
  changeUser userName fun user ↦ .ok { user with policies := addItem policyName user.policies }

/-- `create_login_profile`. -/
def createLoginProfile (userName password : Text) : Py Iam Unit :=
  changeUser userName fun user ↦
    match user.loginPassword with
    | some _ => .error entityAlreadyExists
    | none => .ok { user with loginPassword := some password }

/-- `create_access_key`, with the key IAM makes. -/
def createAccessKey (userName : Text) (made : AccessKey) : Py Iam AccessKey := do
  changeUser userName fun user ↦
    if accessKeyQuota ≤ user.accessKeys.length then .error limitExceeded
    else .ok { user with accessKeys := user.accessKeys ++ [made.accessKeyId] }
  return made

end Ec2Wrappers.Aws
