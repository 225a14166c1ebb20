import Ec2Wrappers.Subaccounts.SshKeys

/-!
# The table of SSH keys and EC2

Sequences of `create_ssh_key` and `delete_ssh_key` calls by any users, from no key at all. A
creation adds the same name to EC2 and to the table. A deletion removes the row and leaves the key
pair in EC2, since `ec2.get_key_pair(key_name).delete` names the method without calling it. From the
first deletion of a key that its user has, EC2 has a name that the table does not have, and the name
cannot be created again (`deleted_not_recreated`); as long as there is none, the two agree after
every call (`keysMirrored_iff`).
-/

set_option autoImplicit false
set_option relaxedAutoImplicit false

namespace Ec2Wrappers.Subaccounts

open Foundations

/-! ### Sequences of calls -/

/-- A call by a user, with what EC2 answers to a creation. -/
inductive KeyCall
  | createSshKey (userName keyName material fingerprint : Text)
  | deleteSshKey (userName keyName : Text)
  deriving DecidableEq, Repr

/-- What a call does. -/
def KeyCall.run : KeyCall → Py KeyStore Unit
  | .createSshKey userName keyName material fingerprint =>
    Subaccounts.createSshKey userName keyName material fingerprint
  | .deleteSshKey userName keyName => Subaccounts.deleteSshKey userName keyName

/-- No key pair and an empty table. -/
def KeyStore.empty : KeyStore := ⟨[], Table.empty⟩

/-- The stores after some calls, whether they returned or raised. -/
def keysAfter (calls : List KeyCall) : KeyStore :=
  calls.foldl (fun store call ↦ (call.run store).2) .empty

/-- The table has exactly the names that EC2 has. -/
def KeyStore.Mirrors (store : KeyStore) : Prop :=
  ∀ name, (∃ row ∈ store.sshKeys.rows, row.keyName = name) ↔ name ∈ store.keyPairs

/-- The table mirrors EC2 after every call of a sequence, and a key that one of its calls has
deleted can be created again. -/
structure KeysMirrored (calls : List KeyCall) : Prop where
  mirrors : ∀ before rest, calls = before ++ rest → (keysAfter before).Mirrors
  recreatable : ∀ before userName keyName rest,
    calls = before ++ .deleteSshKey userName keyName :: rest →
    keyName ∈ getSshKeys userName (keysAfter before) → ∀ material fingerprint,
      (createSshKey userName keyName material fingerprint
        (keysAfter (before ++ [.deleteSshKey userName keyName]))).1 = .ok ()

/-- No call of the sequence deletes a key that its user has. -/
def NoKeyDeleted (calls : List KeyCall) : Prop :=
  ∀ before userName keyName rest, calls = before ++ .deleteSshKey userName keyName :: rest →
    keyName ∉ getSshKeys userName (keysAfter before)

/-! ### One call -/

theorem keysAfter_append (calls : List KeyCall) (call : KeyCall) :
    keysAfter (calls ++ [call]) = (call.run (keysAfter calls)).2 := by
  rw [keysAfter, List.foldl_append]
  rfl

/-- A creation keeps the mirror. -/
theorem mirrors_createSshKey {store : KeyStore} (userName keyName material fingerprint : Text)
    (hmirrors : store.Mirrors) :
    (createSshKey userName keyName material fingerprint store).2.Mirrors := by
  by_cases htaken : fullKeyName userName keyName ∈ store.keyPairs
  · rw [createSshKey_taken htaken]
    exact hmirrors
  · rw [createSshKey_free htaken]
    intro name
    rw [List.mem_append, List.mem_singleton, ← hmirrors name]
    constructor
    · rintro ⟨row, hrow, rfl⟩
      rcases (Table.mem_insertOrReplace _ _ row).mp hrow with ⟨hmem, -⟩ | rfl
      · exact Or.inl ⟨row, hmem, rfl⟩
      · exact Or.inr rfl
    · rintro (⟨row, hmem, rfl⟩ | rfl)
      · have hother : row.keyName ≠ fullKeyName userName keyName := fun hsame ↦
          htaken (hsame ▸ (hmirrors row.keyName).mp ⟨row, hmem, rfl⟩)
        exact ⟨row, (Table.mem_insertOrReplace _ _ row).mpr (Or.inl ⟨hmem, hother⟩), rfl⟩
      · exact ⟨_, (Table.mem_insertOrReplace _ _ _).mpr (Or.inr rfl), rfl⟩

/-- The deletion of a key that the user has leaves a name in EC2 that the table does not have. -/
theorem not_mirrors_deleteSshKey {store : KeyStore} {userName keyName : Text}
    (hmirrors : store.Mirrors) (hpresent : keyName ∈ getSshKeys userName store) :
    ¬ (deleteSshKey userName keyName store).2.Mirrors := by
  obtain ⟨row, hrow, hname⟩ := List.mem_map.mp hpresent
  obtain ⟨hmem, huser⟩ := List.mem_filter.mp hrow
  have hpair : keyName ∈ store.keyPairs := (hmirrors keyName).mp ⟨row, hmem, hname⟩
  rw [deleteSshKey_present hpresent hpair]
  intro hafter
  obtain ⟨other, hother, hsame⟩ := (hafter keyName).mpr hpair
  obtain ⟨hkept, hnot⟩ := (Table.mem_delete _ _ other).mp hother
  have heq : other = row := store.sshKeys.eq_of_key_eq hkept hmem (hsame.trans hname.symm)
  subst heq
  simp [hsame, of_decide_eq_true huser] at hnot

/-! ### Whole sequences -/

/-- The table mirrors EC2 throughout a sequence of calls, and deleted keys can be created again,
exactly when no call deletes a key that its user has. -/
theorem keysMirrored_iff (calls : List KeyCall) : KeysMirrored calls ↔ NoKeyDeleted calls := by
  constructor
  · intro hmirrored before userName keyName rest hcalls hpresent
    have hbefore := hmirrored.mirrors before _ hcalls
    have hafter := hmirrored.mirrors (before ++ [.deleteSshKey userName keyName]) rest
      (by rw [hcalls, List.append_assoc, List.singleton_append])
    rw [keysAfter_append] at hafter
    exact not_mirrors_deleteSshKey hbefore hpresent hafter
  · intro hnone
    refine ⟨fun before ↦ ?_, fun before userName keyName rest hcalls hpresent ↦
      absurd hpresent (hnone before userName keyName rest hcalls)⟩
    induction before using List.reverseRecOn with
    | nil =>
      intro rest _ name
      simp [keysAfter, KeyStore.empty, Table.empty]
    | append_singleton before call ih =>
      intro rest hcalls
      rw [List.append_assoc, List.singleton_append] at hcalls
      have hbefore := ih _ hcalls
      rw [keysAfter_append]
      cases call with
      | createSshKey userName keyName material fingerprint =>
        exact mirrors_createSshKey userName keyName material fingerprint hbefore
      | deleteSshKey userName keyName =>
        rw [KeyCall.run, deleteSshKey_absent (hnone before userName keyName rest hcalls)]
        exact hbefore

/-- A user creates a key and deletes it. -/
def createThenDelete : List KeyCall :=
  [.createSshKey "cs61c-aa".toList "default".toList [] [],
    .deleteSshKey "cs61c-aa".toList "cs61c-aa-default".toList]

/-- The table is empty after it, EC2 still has the key, and it cannot be created again. -/
theorem deleted_not_recreated : ¬ KeysMirrored createThenDelete := by
  have hpairs : "cs61c-aa-default".toList ∈ (keysAfter createThenDelete).keyPairs := by
    decide +kernel
  have hrows : (keysAfter createThenDelete).sshKeys.rows = [] := by
    decide +kernel
  intro hmirrored
  obtain ⟨row, hrow, -⟩ := (hmirrored.mirrors _ [] (List.append_nil _).symm _).mpr hpairs
  rw [hrows] at hrow
  exact List.not_mem_nil hrow

end Ec2Wrappers.Subaccounts
