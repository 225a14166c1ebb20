import Ec2Wrappers.Foundations.Text

/-!
# Base64

The encoder writes three bytes as four digits and fills the last group with pads. The decoder is the
one of Python's `binascii`: it passes over characters that are no digits, and over pads that stand
where no group can end, so it reads much more than the encoder writes; it refuses a text that ends
inside a group.

A group of four digits reads as its three bytes, whatever follows (`decodeFrom_group`), and the
induction over groups gives `decode_encode`: what was encoded is read back. An encoded text is ASCII
(`lt_of_mem_encode`).
-/

set_option autoImplicit false
set_option relaxedAutoImplicit false

namespace Ec2Wrappers.Foundations.Base64

/-! ### Digits -/

/-- The alphabet. -/
def alphabet : Text := "ABCDEFGHIJKLMNOPQRSTUVWXYZabcdefghijklmnopqrstuvwxyz0123456789+/".toList

/-- The digit of a value below 64. -/
def digit (value : ℕ) : Char := alphabet.getD value 'A'

/-- The value of a digit. -/
def valueOf (c : Char) : Option ℕ :=
  if 'A' ≤ c ∧ c ≤ 'Z' then some (c.toNat - 'A'.toNat)
  else if 'a' ≤ c ∧ c ≤ 'z' then some (c.toNat - 'a'.toNat + 26)
  else if '0' ≤ c ∧ c ≤ '9' then some (c.toNat - '0'.toNat + 52)
  else if c = '+' then some 62
  else if c = '/' then some 63
  else none

/-- Every digit has its value and is an ASCII character other than the pad. -/
theorem digit_table : ∀ value < 64, valueOf (digit value) = some value ∧ digit value ≠ '=' ∧
    (digit value).toNat < 128 := by
  decide +kernel

theorem valueOf_digit {value : ℕ} (hvalue : value < 64) : valueOf (digit value) = some value :=
  (digit_table value hvalue).1

theorem digit_ne_pad {value : ℕ} (hvalue : value < 64) : digit value ≠ '=' :=
  (digit_table value hvalue).2.1

theorem digit_lt {value : ℕ} (hvalue : value < 64) : (digit value).toNat < 128 :=
  (digit_table value hvalue).2.2

/-! ### Encoding and decoding -/

/-- `b64encode`. -/
def encode : List UInt8 → Text
  | [] => []
  | [a] => [digit (a.toNat / 4), digit (a.toNat % 4 * 16), '=', '=']
  | [a, b] =>
    [digit (a.toNat / 4), digit (a.toNat % 4 * 16 + b.toNat / 16), digit (b.toNat % 16 * 4), '=']
  | a :: b :: c :: rest =>
    digit (a.toNat / 4) :: digit (a.toNat % 4 * 16 + b.toNat / 16) ::
      digit (b.toNat % 16 * 4 + c.toNat / 64) :: digit (c.toNat % 64) :: encode rest

/-- The next character that is a digit or a pad is a pad. -/
def padFollows (t : Text) : Bool :=
  t.find? (fun c ↦ c = '=' || (valueOf c).isSome) = some '='

/-- `a2b_base64` at a position of a group of four digits, with the bits of the group that belong to
no byte yet. -/
def decodeFrom : ℕ → ℕ → Text → Option (List UInt8)
  | quadPos, _, [] => if quadPos = 0 then some [] else none
  | quadPos, left, c :: rest =>
    if c = '=' then
      -- a pad that cannot end a group is passed over
      if quadPos < 2 ∨ quadPos = 2 ∧ padFollows rest = false then decodeFrom quadPos left rest
      else some []
    else
      match valueOf c, quadPos with
      | none, _ => decodeFrom quadPos left rest
      | some value, 0 => decodeFrom 1 value rest
      | some value, 1 =>
          (UInt8.ofNat (left * 4 + value / 16) :: ·) <$> decodeFrom 2 (value % 16) rest
      | some value, 2 =>
          (UInt8.ofNat (left * 16 + value / 4) :: ·) <$> decodeFrom 3 (value % 4) rest
      | some value, _ => (UInt8.ofNat (left * 64 + value) :: ·) <$> decodeFrom 0 0 rest

/-- `b64decode`; none is the error about the padding. -/
def decode (t : Text) : Option (List UInt8) := decodeFrom 0 0 t

/-! ### What was encoded is read back -/

/-- A digit is no pad and has its value. -/
theorem decodeFrom_digit {quadPos left value : ℕ} (hvalue : value < 64) (rest : Text) :
    decodeFrom quadPos left (digit value :: rest) =
      match quadPos with
      | 0 => decodeFrom 1 value rest
      | 1 => (UInt8.ofNat (left * 4 + value / 16) :: ·) <$> decodeFrom 2 (value % 16) rest
      | 2 => (UInt8.ofNat (left * 16 + value / 4) :: ·) <$> decodeFrom 3 (value % 4) rest
      | _ => (UInt8.ofNat (left * 64 + value) :: ·) <$> decodeFrom 0 0 rest := by
  match quadPos with
  | 0 | 1 | 2 | _ + 3 => simp [decodeFrom, digit_ne_pad hvalue, valueOf_digit hvalue]

/-- The first two digits of a group read as its first byte. -/
theorem decodeFrom_first (a : UInt8) {low : ℕ} (hlow : low < 16) (rest : Text) :
    decodeFrom 0 0 (digit (a.toNat / 4) :: digit (a.toNat % 4 * 16 + low) :: rest) =
      (a :: ·) <$> decodeFrom 2 low rest := by
  have ha := a.toNat_lt
  have hbyte : a.toNat / 4 * 4 + (a.toNat % 4 * 16 + low) / 16 = a.toNat := by omega
  have hleft : (a.toNat % 4 * 16 + low) % 16 = low := by omega
  rw [decodeFrom_digit (by omega), decodeFrom_digit (by omega)]
  simp only [hbyte, hleft, UInt8.ofNat_toNat]

/-- The next digit completes the second byte. -/
theorem decodeFrom_second (b : UInt8) {low : ℕ} (hlow : low < 4) (rest : Text) :
    decodeFrom 2 (b.toNat / 16) (digit (b.toNat % 16 * 4 + low) :: rest) =
      (b :: ·) <$> decodeFrom 3 low rest := by
  have hb := b.toNat_lt
  have hbyte : b.toNat / 16 * 16 + (b.toNat % 16 * 4 + low) / 4 = b.toNat := by omega
  have hleft : (b.toNat % 16 * 4 + low) % 4 = low := by omega
  rw [decodeFrom_digit (by omega)]
  simp only [hbyte, hleft, UInt8.ofNat_toNat]

/-- The last digit completes the third byte. -/
theorem decodeFrom_third (c : UInt8) (rest : Text) :
    decodeFrom 3 (c.toNat / 64) (digit (c.toNat % 64) :: rest) =
      (c :: ·) <$> decodeFrom 0 0 rest := by
  have hbyte : c.toNat / 64 * 64 + c.toNat % 64 = c.toNat := by omega
  rw [decodeFrom_digit (by omega)]
  simp only [hbyte, UInt8.ofNat_toNat]

/-- A whole group reads as its three bytes. -/
theorem decodeFrom_group (a b c : UInt8) (rest : Text) :
    decodeFrom 0 0 (digit (a.toNat / 4) :: digit (a.toNat % 4 * 16 + b.toNat / 16) ::
      digit (b.toNat % 16 * 4 + c.toNat / 64) :: digit (c.toNat % 64) :: rest) =
      (fun bytes ↦ a :: b :: c :: bytes) <$> decodeFrom 0 0 rest := by
  have hb := b.toNat_lt
  have hc := c.toNat_lt
  rw [decodeFrom_first a (by omega), decodeFrom_second b (by omega), decodeFrom_third]
  simp only [Functor.map_map]

/-- Decoding undoes encoding. -/
theorem decode_encode (bytes : List UInt8) : decode (encode bytes) = some bytes := by
  unfold decode
  induction bytes using encode.induct with
  | case1 => rfl
  | case2 a =>
    have hfirst := decodeFrom_first a (show 0 < 16 by omega) ['=', '=']
    rw [Nat.add_zero] at hfirst
    rw [encode, hfirst]
    rfl
  | case3 a b =>
    have hb := b.toNat_lt
    have hsecond := decodeFrom_second b (show 0 < 4 by omega) ['=']
    rw [Nat.add_zero] at hsecond
    rw [encode, decodeFrom_first a (by omega), hsecond]
    rfl
  | case4 a b c rest ih =>
    rw [encode, decodeFrom_group, ih]
    rfl

/-- An encoded text is ASCII. -/
theorem lt_of_mem_encode {bytes : List UInt8} {c : Char} (hc : c ∈ encode bytes) :
    c.toNat < 128 := by
  have hpad : '='.toNat < 128 := by decide
  induction bytes using encode.induct with
  | case1 => cases hc
  | case2 a =>
    have ha := a.toNat_lt
    simp only [encode, List.mem_cons, List.not_mem_nil, or_false] at hc
    rcases hc with rfl | rfl | rfl | rfl
    · exact digit_lt (by omega)
    · exact digit_lt (by omega)
    · exact hpad
    · exact hpad
  | case3 a b =>
    have ha := a.toNat_lt
    have hb := b.toNat_lt
    simp only [encode, List.mem_cons, List.not_mem_nil, or_false] at hc
    rcases hc with rfl | rfl | rfl | rfl
    · exact digit_lt (by omega)
    · exact digit_lt (by omega)
    · exact digit_lt (by omega)
    · exact hpad
  | case4 a b d rest ih =>
    have ha := a.toNat_lt
    have hb := b.toNat_lt
    have hd := d.toNat_lt
    simp only [encode, List.mem_cons] at hc
    rcases hc with rfl | rfl | rfl | rfl | hc
    · exact digit_lt (by omega)
    · exact digit_lt (by omega)
    · exact digit_lt (by omega)
    · exact digit_lt (by omega)
    · exact ih hc

end Ec2Wrappers.Foundations.Base64
