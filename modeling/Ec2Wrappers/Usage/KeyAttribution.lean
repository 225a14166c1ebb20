import Ec2Wrappers.Subaccounts.SshKeys
import Ec2Wrappers.Usage.Import

/-!
# Whose instance is it

Three places decide from a key name which user an instance belongs to: `run_instances` accepts a key
name that starts with the user's name, `running_instances` counts those that start with the user's
name and a dash, and `user_from_key` takes what stands before the second dash of a key name that
starts with `cs`.

`Attributed u v key` says that an instance launched with the key is counted for `u`, is not counted
for `v`, and is billed to `u`. For user names that start with `cs61c` this holds exactly when the
key name starts with `u` and a dash, `u` has one dash, and neither of the two names followed by a
dash reaches into the other's keys (`attributed_iff`, `WellSeparated`). `user_from_key` always
answers with a name that has one dash (`count_userFromKey`), so no other name is ever billed.
-/

set_option autoImplicit false
set_option relaxedAutoImplicit false

namespace Ec2Wrappers.Usage

open Foundations Aws Subaccounts

/-- The only test made of a user name: it starts with `cs61c`. -/
def IsClassAccount (userName : Text) : Prop := "cs61c".toList <+: userName

/-- An instance launched with the key is counted for the first user, is not counted for the second,
and is billed to the first. -/
def Attributed (userName other keyName : Text) : Prop :=
  (∀ account : List Reservation, ∀ instance_ ∈ instancesOf account,
    instance_.keyName = some keyName → instance_.state ≠ .terminated →
      instance_ ∈ runningInstances userName account ∧
        instance_ ∉ runningInstances other account) ∧
  userFromKey keyName = userName

/-- The key name starts with the user's name and a dash, the user's name has one dash, the other
user's name and a dash do not start the user's name, and they do not start the key name when they
extend the user's prefix. -/
def WellSeparated (userName other keyName : Text) : Prop :=
  keyPrefix userName <+: keyName ∧ userName.count '-' = 1 ∧ ¬ keyPrefix other <+: userName ∧
    ¬ (keyPrefix userName <+: other ∧ keyPrefix other <+: keyName)

instance (userName other keyName : Text) : Decidable (WellSeparated userName other keyName) :=
  inferInstanceAs (Decidable (_ ∧ _ ∧ _ ∧ _))

/-! ### The ledger's rule -/

/-- What stands before the first two dashes, joined by the first. -/
theorem userFromKey_of_split {before middle rest : Text} (hbefore : '-' ∉ before)
    (hmiddle : '-' ∉ middle) (hcs : "cs".toList <+: before ++ '-' :: middle ++ '-' :: rest) :
    userFromKey (before ++ '-' :: middle ++ '-' :: rest) = before ++ '-' :: middle := by
  have hsplit : (before ++ '-' :: middle ++ '-' :: rest).splitOn '-' =
      before :: middle :: rest.splitOn '-' := by
    rw [List.append_assoc, List.cons_append, List.splitOn_append_cons_self_of_not_mem hbefore,
      List.splitOn_append_cons_self_of_not_mem hmiddle]
  rw [userFromKey, if_pos (List.isPrefixOf_iff_prefix.mpr hcs), hsplit]
  simp [List.intercalate]

/-- A key name with one dash is the answer itself. -/
theorem userFromKey_of_one_dash {before after : Text} (hbefore : '-' ∉ before)
    (hafter : '-' ∉ after) (hcs : "cs".toList <+: before ++ '-' :: after) :
    userFromKey (before ++ '-' :: after) = before ++ '-' :: after := by
  have hsplit : (before ++ '-' :: after).splitOn '-' = [before, after] := by
    rw [List.splitOn_append_cons_self_of_not_mem hbefore, List.splitOn_eq_singleton hafter]
  rw [userFromKey, if_pos (List.isPrefixOf_iff_prefix.mpr hcs), hsplit]
  simp [List.intercalate]

/-- The user billed for a key name with a dash has a name with one dash. -/
theorem count_userFromKey {keyName : Text} (hcs : "cs".toList <+: keyName) (hdash : '-' ∈ keyName) :
    (userFromKey keyName).count '-' = 1 := by
  obtain ⟨before, after, rfl, hbefore⟩ := List.eq_append_cons_of_mem hdash
  by_cases hmore : '-' ∈ after
  · obtain ⟨middle, rest, rfl, hmiddle⟩ := List.eq_append_cons_of_mem hmore
    have hshape : before ++ '-' :: (middle ++ '-' :: rest) =
        before ++ '-' :: middle ++ '-' :: rest := by simp
    rw [hshape] at hcs ⊢
    rw [userFromKey_of_split hbefore hmiddle hcs]
    simp [List.count_eq_zero_of_not_mem hbefore, List.count_eq_zero_of_not_mem hmiddle]
  · rw [userFromKey_of_one_dash hbefore hmore hcs]
    simp [List.count_eq_zero_of_not_mem hbefore, List.count_eq_zero_of_not_mem hmore]

/-- A name with one dash is billed for the key names that extend it by a dash. -/
theorem userFromKey_of_keyPrefix {userName keyName : Text} (hcs : "cs".toList <+: keyName)
    (hstarts : keyPrefix userName <+: keyName) (hcount : userName.count '-' = 1) :
    userFromKey keyName = userName := by
  obtain ⟨rest, rfl⟩ := hstarts
  have hdash : '-' ∈ userName := List.count_pos_iff.mp (by omega)
  obtain ⟨before, middle, rfl, hbefore⟩ := List.eq_append_cons_of_mem hdash
  have hmiddle : '-' ∉ middle := by
    simpa [List.count_eq_zero_of_not_mem hbefore, List.count_eq_zero] using hcount
  have hshape : keyPrefix (before ++ '-' :: middle) ++ rest =
      before ++ '-' :: middle ++ '-' :: rest := by simp [keyPrefix]
  rw [hshape] at hcs ⊢
  exact userFromKey_of_split hbefore hmiddle hcs

/-! ### The quota's rule -/

/-- Whether a live instance is counted depends on its key name alone. -/
theorem mem_runningInstances_iff {userName keyName : Text} {account : List Reservation}
    {instance_ : Instance} (hmem : instance_ ∈ instancesOf account)
    (hkey : instance_.keyName = some keyName) (hstate : instance_.state ≠ .terminated) :
    instance_ ∈ runningInstances userName account ↔ keyPrefix userName <+: keyName := by
  rw [mem_runningInstances]
  simp [hmem, hstate, Instance.keyStartsWith, hkey]

/-- A live instance with a key name. -/
def instanceWithKey (keyName : Text) : Instance where
  id := "i-1".toList
  instanceType := "t1.micro".toList
  keyName := some keyName
  state := .running
  launchTime := 0
  spotInstanceRequestId := none

/-- The instances are counted for the first user and not for the second exactly when the key name
has the first prefix and not the second. -/
theorem attributed_iff_prefixes (userName other keyName : Text) :
    Attributed userName other keyName ↔ keyPrefix userName <+: keyName ∧
      ¬ keyPrefix other <+: keyName ∧ userFromKey keyName = userName := by
  rw [Attributed, ← and_assoc]
  refine and_congr_left fun _ ↦ ⟨fun hcounted ↦ ?_, ?_⟩
  · have hmem : instanceWithKey keyName ∈ instancesOf [⟨[], [instanceWithKey keyName]⟩] := by
      simp
    have hstate : (instanceWithKey keyName).state ≠ .terminated := by simp [instanceWithKey]
    have hsample := hcounted _ _ hmem rfl hstate
    rwa [mem_runningInstances_iff hmem rfl hstate,
      mem_runningInstances_iff hmem rfl hstate] at hsample
  · rintro ⟨hstarts, hother⟩ account instance_ hmem hkey hstate
    rw [mem_runningInstances_iff hmem hkey hstate, mem_runningInstances_iff hmem hkey hstate]
    exact ⟨hstarts, hother⟩

/-- Of two different names, the prefix of one starts the keys of the other only if it starts the
other's name or extends the other's prefix. -/
theorem keyPrefix_prefix_iff {userName other keyName : Text} (hdistinct : userName ≠ other)
    (hstarts : keyPrefix userName <+: keyName) : keyPrefix other <+: keyName ↔
      keyPrefix other <+: userName ∨
      (keyPrefix userName <+: other ∧ keyPrefix other <+: keyName) := by
  constructor
  · intro hother
    rcases List.prefix_or_prefix_of_prefix hstarts hother with hlonger | hshorter
    · rcases List.prefix_concat_iff.mp hlonger with hsame | hextends
      · exact absurd (List.append_cancel_right hsame) hdistinct
      · exact Or.inr ⟨hextends, hother⟩
    · rcases List.prefix_concat_iff.mp hshorter with hsame | hextends
      · exact absurd (List.append_cancel_right hsame).symm hdistinct
      · exact Or.inl hextends
  · rintro (hextends | ⟨-, hother⟩)
    · exact hextends.trans ((List.prefix_append userName _).trans hstarts)
    · exact hother

/-! ### All the rules together -/

/-- For a class account, any other user name and every key name the first can launch with: the
instances are attributed to the first user exactly when the names are well separated. -/
theorem attributed_iff {userName other keyName : Text} (huser : IsClassAccount userName)
    (hdistinct : userName ≠ other) (hkey : KeyOf userName keyName) :
    Attributed userName other keyName ↔ WellSeparated userName other keyName := by
  have hcs : "cs".toList <+: keyName :=
    (by decide : "cs".toList <+: "cs61c".toList).trans
      (huser.trans ((keyOf_iff userName keyName).mp hkey))
  rw [attributed_iff_prefixes, WellSeparated]
  refine and_congr_right fun hstarts ↦ ?_
  rw [← not_or, ← keyPrefix_prefix_iff hdistinct hstarts, and_comm]
  refine and_congr_left fun _ ↦ ⟨fun hbilled ↦ ?_, userFromKey_of_keyPrefix hcs hstarts⟩
  have hdash : '-' ∈ keyName := hstarts.subset (by simp [keyPrefix])
  rw [← hbilled]
  exact count_userFromKey hcs hdash

theorem attributed_iff_default :
    Attributed "cs61c-aa".toList "cs61c-ab".toList "cs61c-aa-default".toList ↔
      WellSeparated "cs61c-aa".toList "cs61c-ab".toList "cs61c-aa-default".toList :=
  attributed_iff (by unfold IsClassAccount; decide) (by decide) ((keyOf_iff _ _).mpr (by decide))

/-- A key name that only starts with the user's name is accepted, but its instances are not counted
for the user and are billed to a user that need not exist. -/
theorem keyWithoutDash_unattributed :
    IsClassAccount "cs61c-aa".toList ∧ IsClassAccount "cs61c-ab".toList ∧
      KeyOf "cs61c-aa".toList "cs61c-aabc".toList ∧
      userFromKey "cs61c-aabc".toList = "cs61c-aabc".toList ∧
      ¬ Attributed "cs61c-aa".toList "cs61c-ab".toList "cs61c-aabc".toList := by
  refine ⟨by unfold IsClassAccount; decide, by unfold IsClassAccount; decide,
    (keyOf_iff _ _).mpr (by decide), by decide, fun hattributed ↦ ?_⟩
  exact absurd ((attributed_iff_prefixes _ _ _).mp hattributed).1 (by decide)

end Ec2Wrappers.Usage
