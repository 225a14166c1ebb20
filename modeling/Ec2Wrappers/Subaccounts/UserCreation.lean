import Ec2Wrappers.Subaccounts.KeyRotation
import Ec2Wrappers.Subaccounts.UserPolicy

/-!
# Creating an account

`random_password` and `make_user` of `subaccounts.py`. `make_user` first cleans up after an earlier
attempt, then makes six calls of IAM in a row, draws a password between them, and commits the row of
`users` at the end.

Neither the end nor the cleanup works. `random_password` calls `append` on a string, which has no
such method, so `make_user` raises on every input before it has made the login profile and the row
(`makeUser_raises`); and `iam_delete_user` does nothing (`iamDeleteUser_eq`), so the user that a
first attempt has left in IAM makes every later one fail at `create_user`
(`makeUser_existing`). Account creation is recoverable in no state (`creation_not_recoverable`).
-/

set_option autoImplicit false
set_option relaxedAutoImplicit false

namespace Ec2Wrappers.Subaccounts

open Foundations Aws

/-! ### The functions -/

/-- `s.append(letter)` for a string `s`. -/
def appendToString (_text : Text) (_letter : Char) : Except PyError Text :=
  .error (.attributeError "append".toList)

/-- `random_password`, with the letters that `random.choice` draws. -/
def randomPassword (letters : ℕ → Char) : Except PyError Text :=
  (List.range 8).foldlM (fun s i ↦ appendToString s (letters i)) []

/-- `simplejson.loads`. -/
def loads (text : Text) : Except PyError Json :=
  match Json.parse text with
  | some document => .ok document
  | none => .error (.library "ValueError".toList "No JSON object could be decoded".toList)

/-- `INSERT OR REPLACE INTO users`. -/
def insertUserRow (row : UserRow) (db : UserDb) : UserDb :=
  { db with users := db.users.insertOrReplace row }

/-- `make_user`, with the letters of the password, the moment and the name of the account that runs
it. -/
def makeUser (userName : Text) (letters : ℕ → Char) (now realUsername : Text) :
    Py Services User := do
  onIam (iamDeleteUser userName)
  onIam (createUser userName)
  onIam (addUserToGroup "students".toList userName)
  let _ ← Py.ofExcept (loads (getUserPolicy userName))
  onIam (putUserPolicy userName (userName ++ "-user".toList))
  let password ← Py.ofExcept (randomPassword letters)
  onIam (createLoginProfile userName password)
  commit (insertUserRow ⟨userName, now, realUsername, some password⟩)
  let services ← Py.get
  return ⟨userName, services.dbh.close.accessKeysOf userName⟩

/-! ### What recovery means -/

/-- The user is complete: one row, whose password is that of the login profile, and the user in IAM
with its group and its policy. -/
def Complete (userName : Text) (services : Services) : Prop :=
  ∃ row user, services.dbh.close.users.rows.filter (·.userName = userName) = [row] ∧
    services.iam.users.find userName = some user ∧ row.loginPassword = user.loginPassword ∧
      user.loginPassword ≠ none ∧ "students".toList ∈ user.groups ∧
        userName ++ "-user".toList ∈ user.policies

/-- What a later process finds, when none of its calls of IAM fails by itself. -/
def laterProcess (services : Services) : Services where
  iam := ⟨services.iam.users, []⟩
  dbh := .idle services.dbh.close

/-- When `make_user` raises, a later `make_user` completes, and whenever it completes the user is
complete. -/
def CreationRecovers (userName : Text) (services : Services) : Prop :=
  (∀ letters now realUsername error after,
    makeUser userName letters now realUsername services = (.error error, after) →
    ∀ letters now realUsername, ∃ user done,
      makeUser userName letters now realUsername (laterProcess after) = (.ok user, done)) ∧
  ∀ letters now realUsername user after,
    makeUser userName letters now realUsername services = (.ok user, after) →
      Complete userName after

/-! ### What happens -/

/-- `random_password` raises. -/
theorem randomPassword_eq (letters : ℕ → Char) :
    randomPassword letters = .error (.attributeError "append".toList) := rfl

/-- `make_user` raises, whatever the state and the failures of IAM. -/
theorem makeUser_raises (userName : Text) (letters : ℕ → Char) (now realUsername : Text) :
    Py.Raises (makeUser userName letters now realUsername) := by
  unfold makeUser
  iterate 5 refine Py.raises_bind fun _ ↦ ?_
  refine Py.raises_bind_first (fun services ↦ ?_) _
  rw [randomPassword_eq]
  exact ⟨_, services, rfl⟩

/-- For a name that IAM has, `make_user` does not get past `create_user`. -/
theorem makeUser_existing {userName : Text} {user : IamUser} {services : Services}
    (hfailures : services.iam.failures = [])
    (hexists : services.iam.users.find userName = some user) (letters : ℕ → Char)
    (now realUsername : Text) : makeUser userName letters now realUsername services =
      (.error entityAlreadyExists, services) := by
  have hcleanup : onIam (iamDeleteUser userName) services = (.ok (), services) :=
    Py.run_within (iamDeleteUser_eq userName services.iam)
  have hcreate : createUser userName services.iam = (.error entityAlreadyExists, services.iam) := by
    cases hiam : services.iam with
    | mk users failures =>
      rw [hiam] at hfailures hexists
      simp only at hfailures hexists
      simp [createUser, iamCall, hfailures, hexists]
  have hrefused : onIam (createUser userName) services = (.error entityAlreadyExists, services) :=
    Py.run_within hcreate
  rw [makeUser, Py.bind_eq, Py.run_bind_ok hcleanup, Py.bind_eq, Py.run_bind_error hrefused]

/-- An attempt raises, and so does the next. -/
theorem attempts_raise (userName : Text) (services : Services) : ∃ error after again last,
    makeUser userName (fun _ ↦ 'a') [] [] services = (.error error, after) ∧
      makeUser userName (fun _ ↦ 'a') [] [] (laterProcess after) = (.error again, last) := by
  obtain ⟨error, after, hfirst⟩ := makeUser_raises userName (fun _ ↦ 'a') [] [] services
  obtain ⟨again, last, hsecond⟩ :=
    makeUser_raises userName (fun _ ↦ 'a') [] [] (laterProcess after)
  exact ⟨error, after, again, last, hfirst, hsecond⟩

/-- Account creation is recoverable for no user and in no state. -/
theorem creation_not_recoverable (userName : Text) (services : Services) :
    ¬ CreationRecovers userName services := by
  rintro ⟨hretry, -⟩
  obtain ⟨error, after, again, last, hfirst, hsecond⟩ := attempts_raise userName services
  obtain ⟨user, done, hcompleted⟩ := hretry _ _ _ _ _ hfirst (fun _ ↦ 'a') [] []
  rw [hsecond] at hcompleted
  cases hcompleted

/-- An account with no user. -/
def noUsers : Services where
  iam := ⟨Table.empty, []⟩
  dbh := .idle ⟨Table.empty, Table.empty, Table.empty⟩

/-- The first user of an account cannot be created. -/
theorem firstUser_not_created : ¬ CreationRecovers "cs61c-aa".toList noUsers := by
  intro hrecovers
  obtain ⟨error, after, again, last, hfirst, hsecond⟩ := attempts_raise "cs61c-aa".toList noUsers
  obtain ⟨user, done, hcompleted⟩ := hrecovers.1 _ _ _ _ _ hfirst (fun _ ↦ 'a') [] []
  rw [hsecond] at hcompleted
  cases hcompleted

end Ec2Wrappers.Subaccounts
