import Mathlib.Data.List.Flatten
import Mathlib.Data.List.Nodup
import Mathlib.Data.List.Pairwise

/-!
# Pairing off a list with groups

`List.zip` pairs off as many elements of two lists as both have (`map_fst_zip_eq_take`,
`map_snd_zip_eq_take`). The second list is here one of groups, that is of lists of items whose keys
are all different: then two items with the same key are in the same group (`group_eq_of_key_eq`),
and groups with something in them are different from each other (`groups_nodup`).
-/

set_option autoImplicit false
set_option relaxedAutoImplicit false

namespace Ec2Wrappers.Foundations

variable {Holder Item Key : Type*}

/-- The first components of the pairs. -/
theorem map_fst_zip_eq_take (first : List Holder) (second : List Item) :
    (first.zip second).map Prod.fst = first.take second.length := by
  induction first generalizing second with
  | nil => simp
  | cons holder rest ih =>
    cases second with
    | nil => rfl
    | cons item others => rw [List.zip_cons_cons, List.map_cons, ih, List.length_cons,
        List.take_succ_cons]

/-- The second components of the pairs. -/
theorem map_snd_zip_eq_take (first : List Holder) (second : List Item) :
    (first.zip second).map Prod.snd = second.take first.length := by
  induction first generalizing second with
  | nil => simp
  | cons holder rest ih =>
    cases second with
    | nil => rfl
    | cons item others => rw [List.zip_cons_cons, List.map_cons, ih, List.length_cons,
        List.take_succ_cons]

section Groups

variable {key : Item → Key} {groups : List (List Item)}

/-- Items with the same key are in the same group. -/
theorem group_eq_of_key_eq (hnodup : (groups.flatten.map key).Nodup) {group other : List Item}
    (hgroup : group ∈ groups) (hother : other ∈ groups) {item same : Item} (hitem : item ∈ group)
    (hsame : same ∈ other) (hkey : key item = key same) : group = other := by
  by_contra hdifferent
  have hflatten : groups.flatten.Nodup := hnodup.of_map key
  obtain rfl : item = same := List.inj_on_of_nodup_map hnodup
    (List.mem_flatten_of_mem hgroup hitem) (List.mem_flatten_of_mem hother hsame) hkey
  have hsymm : Std.Symm (List.Disjoint (α := Item)) :=
    ⟨fun _ _ hapart _ hleft hright ↦ hapart hright hleft⟩
  have hdisjoint := (List.nodup_flatten.mp hflatten).2.forall hgroup hother hdifferent
  exact hdisjoint hitem hsame

/-- Groups with something in them are pairwise different. -/
theorem groups_nodup (hnodup : (groups.flatten.map key).Nodup)
    (hnonempty : ∀ group ∈ groups, group ≠ []) : groups.Nodup := by
  have hdisjoint := (List.nodup_flatten.mp (hnodup.of_map key)).2
  refine hdisjoint.imp_of_mem fun {first second} hfirst _ hapart hsame ↦ ?_
  obtain ⟨item, hitem⟩ := List.exists_mem_of_ne_nil first (hnonempty first hfirst)
  exact hapart hitem (hsame ▸ hitem)

end Groups

end Ec2Wrappers.Foundations
