import Ec2Wrappers.Foundations.PercentEncoding
import Mathlib.Data.Nat.Digits.Defs
import Mathlib.Data.Nat.Digits.Lemmas

/-!
# Numerals

A number is written with the digits of a base, the most significant one first, and read back from
them (`readNumeral_numeral`).
-/

set_option autoImplicit false
set_option relaxedAutoImplicit false

namespace Ec2Wrappers.Foundations

/-- The number in a base, with a character for each digit. -/
def numeral (digit : ℕ → Char) (base number : ℕ) : Text :=
  if number = 0 then [digit 0] else (Nat.digits base number).reverse.map digit

/-- The number that the characters are in a base, if each has a value. -/
def readNumeral (value : Char → Option ℕ) (base : ℕ) (t : Text) : Option ℕ :=
  if t = [] then none
  else (t.mapM value).map fun digits ↦ Nat.ofDigits base digits.reverse

/-- The value of a decimal digit. -/
def decimalValue (c : Char) : Option ℕ := if c.isDigit then some (c.toNat - '0'.toNat) else none

theorem decimalValue_digitChar {value : ℕ} (hvalue : value < 10) :
    decimalValue (Nat.digitChar value) = some value := by
  interval_cases value <;> decide

theorem hexValue_digitChar {value : ℕ} (hvalue : value < 16) :
    hexValue (Nat.digitChar value) = some value := by
  interval_cases value <;> decide

section

variable {digit : ℕ → Char} {value : Char → Option ℕ} {base : ℕ}

theorem mapM_map_digit (hvalue : ∀ d < base, value (digit d) = some d) {digits : List ℕ}
    (hdigits : ∀ d ∈ digits, d < base) : (digits.map digit).mapM value = some digits := by
  induction digits with
  | nil => rfl
  | cons d digits ih =>
    obtain ⟨hd, hrest⟩ := List.forall_mem_cons.mp hdigits
    rw [List.map_cons, List.mapM_cons, hvalue d hd, ih hrest]
    rfl

theorem numeral_ne_nil (number : ℕ) : numeral digit base number ≠ [] := by
  rw [numeral]
  split_ifs with hzero
  · exact List.cons_ne_nil _ _
  · simp [Nat.digits_eq_nil_iff_eq_zero, hzero]

/-- A number is read back. -/
theorem readNumeral_numeral (hbase : 1 < base) (hvalue : ∀ d < base, value (digit d) = some d)
    (number : ℕ) : readNumeral value base (numeral digit base number) = some number := by
  rw [readNumeral, if_neg (numeral_ne_nil number), numeral]
  by_cases hzero : number = 0
  · rw [if_pos hzero, List.mapM_cons, hvalue 0 (by omega), hzero]
    rfl
  · rw [if_neg hzero,
      mapM_map_digit hvalue fun d hd ↦ Nat.digits_lt_base hbase (List.mem_reverse.mp hd),
      Option.map_some, List.reverse_reverse, Nat.ofDigits_digits]

/-- The characters of a numeral are digits. -/
theorem exists_digit_of_mem_numeral (hbase : 1 < base) {number : ℕ} {c : Char}
    (hc : c ∈ numeral digit base number) : ∃ d < base, c = digit d := by
  rw [numeral] at hc
  split_ifs at hc with hzero
  · exact ⟨0, by omega, List.mem_singleton.mp hc⟩
  · obtain ⟨d, hd, rfl⟩ := List.mem_map.mp hc
    exact ⟨d, Nat.digits_lt_base hbase (List.mem_reverse.mp hd), rfl⟩

end

end Ec2Wrappers.Foundations
