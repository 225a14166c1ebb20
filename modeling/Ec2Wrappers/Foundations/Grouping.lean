import Mathlib.Algebra.BigOperators.Group.List.Basic
import Mathlib.Data.List.Dedup
import Mathlib.Algebra.Ring.Defs
import Mathlib.Algebra.BigOperators.Ring.List

/-!
# Sums by group

`SELECT key, SUM(amount) … GROUP BY key` on a list of rows: one group for each key that occurs, with
the sum over its rows. The order of the groups is that of a duplicate-free list of the keys.

`sum_over_keys` sums over any duplicate-free list of keys and gives the sum over the rows whose key
is in the list, so that what a list of keys leaves out is the difference
(`sum_over_keys_add_missed`). `sum_groups` is the case of all keys, with a weight for each key.
-/

set_option autoImplicit false
set_option relaxedAutoImplicit false

namespace Ec2Wrappers.Foundations

variable {Row Key Amount : Type*} [DecidableEq Key]

/-- The groups of some rows: each key that occurs, with the sum over its rows. -/
def groupSums [AddCommMonoid Amount] (key : Row → Key) (amount : Row → Amount) (rows : List Row) :
    List (Key × Amount) :=
  (rows.map key).dedup.map fun k ↦ (k, ((rows.filter (key · = k)).map amount).sum)

section Sums

variable [AddCommMonoid Amount] (key : Row → Key) (amount : Row → Amount)

/-- A sum over the rows that pass a test, row by row. -/
theorem sum_filter (test : Row → Prop) [DecidablePred test] (rows : List Row) :
    ((rows.filter fun row ↦ test row).map amount).sum =
      (rows.map fun row ↦ if test row then amount row else 0).sum := by
  rw [List.sum_map_ite]
  simp

/-- The sums over the rows of each key add up to the sum over the rows of all the keys. -/
theorem sum_over_keys {keys : List Key} (hnodup : keys.Nodup) (rows : List Row) :
    (keys.map fun k ↦ ((rows.filter (key · = k)).map amount).sum).sum =
      ((rows.filter (key · ∈ keys)).map amount).sum := by
  induction keys with
  | nil => simp
  | cons k keys ih =>
    obtain ⟨hnew, hrest⟩ := List.nodup_cons.mp hnodup
    rw [List.map_cons, List.sum_cons, ih hrest, sum_filter, sum_filter, sum_filter,
      ← List.sum_map_add]
    refine congrArg List.sum (List.map_congr_left fun row _ ↦ ?_)
    -- a row of the first key is of none of the others
    by_cases hfirst : key row = k
    · simp [hfirst, hnew]
    · simp [hfirst]

/-- What a list of keys leaves out. -/
theorem sum_over_keys_add_missed {keys : List Key} (hnodup : keys.Nodup) (rows : List Row) :
    (keys.map fun k ↦ ((rows.filter (key · = k)).map amount).sum).sum +
      ((rows.filter (key · ∉ keys)).map amount).sum = (rows.map amount).sum := by
  rw [sum_over_keys key amount hnodup, sum_filter, sum_filter, ← List.sum_map_add]
  refine congrArg List.sum (List.map_congr_left fun row _ ↦ ?_)
  by_cases hmem : key row ∈ keys <;> simp [hmem]

/-- A list of keys that leaves no row out. -/
theorem sum_over_keys_all {keys : List Key} (hnodup : keys.Nodup) {rows : List Row}
    (hall : ∀ row ∈ rows, key row ∈ keys) :
    (keys.map fun k ↦ ((rows.filter (key · = k)).map amount).sum).sum =
      (rows.map amount).sum := by
  have hevery : ∀ row ∈ rows, decide (key row ∈ keys) = true := fun row hrow ↦ by
    simpa using hall row hrow
  rw [sum_over_keys key amount hnodup, List.filter_eq_self.mpr hevery]

end Sums

/-- Weighted sums by group are the weighted sum over the rows. -/
theorem sum_groups [Semiring Amount] (key : Row → Key) (amount : Row → Amount)
    (weight : Key → Amount) (rows : List Row) :
    ((groupSums key amount rows).map fun group ↦ weight group.1 * group.2).sum =
      (rows.map fun row ↦ weight (key row) * amount row).sum := by
  have hall : ∀ row ∈ rows, key row ∈ (rows.map key).dedup := fun row hrow ↦
    List.mem_dedup.mpr (List.mem_map_of_mem hrow)
  rw [← sum_over_keys_all key (fun row ↦ weight (key row) * amount row)
    (List.nodup_dedup (rows.map key)) hall, groupSums, List.map_map]
  refine congrArg List.sum (List.map_congr_left fun k _ ↦ ?_)
  rw [Function.comp_apply, ← List.sum_map_mul_left]
  refine congrArg List.sum (List.map_congr_left fun row hrow ↦ ?_)
  have hkey : key row = k := by simpa using (List.mem_filter.mp hrow).2
  rw [hkey]

end Ec2Wrappers.Foundations
