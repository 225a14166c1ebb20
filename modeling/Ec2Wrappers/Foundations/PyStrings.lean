import Ec2Wrappers.Foundations.Python

/-!
# The two kinds of Python strings

A `str` is a row of bytes, a `unicode` a row of characters. A byte is written here as the character
of its value, so that both are texts and ASCII looks the same in either; what the network or another
program gets of a `unicode` are the bytes of its UTF-8 encoding (`PyString.bytes`).

`str(value)` fails on a `unicode` that is not ASCII. A reader of JSON gives a text as a `unicode`,
or as a `str` when it is ASCII (`LoadedAs`); the bytes are the same either way
(`LoadedAs.bytes_eq`), but only an ASCII text is accepted by `str` (`LoadedAs.toStr_of_ascii`,
`LoadedAs.toStr_of_not_ascii`).
-/

set_option autoImplicit false
set_option relaxedAutoImplicit false

namespace Ec2Wrappers.Foundations

/-! ### Bytes -/

/-- Bytes as a text. -/
def ofBytes (bytes : List UInt8) : Text := bytes.map fun byte ↦ Char.ofNat byte.toNat

/-- The UTF-8 encoding of a text, as a text. -/
def utf8 (t : Text) : Text := ofBytes (t.flatMap String.utf8EncodeChar)

/-- Every character is an ASCII character. -/
def IsAscii (t : Text) : Prop := ∀ c ∈ t, c.toNat < 128

instance (t : Text) : Decidable (IsAscii t) := inferInstanceAs (Decidable (∀ c ∈ t, c.toNat < 128))

/-- An ASCII character is encoded as itself. -/
theorem utf8_cons_of_ascii {c : Char} (hc : c.toNat < 128) (t : Text) :
    utf8 (c :: t) = c :: utf8 t := by
  have hsize : c.utf8Size = 1 := Char.utf8Size_eq_one_iff.mpr (by
    rw [UInt32.le_iff_toNat_le]
    exact Nat.le_of_lt_succ hc)
  have hbyte : c.toNat % 256 = c.toNat := Nat.mod_eq_of_lt (by omega)
  rw [utf8, List.flatMap_cons, String.utf8EncodeChar_eq_singleton hsize, List.singleton_append,
    ofBytes, List.map_cons]
  change Char.ofNat (c.toNat % 256) :: _ = _
  rw [hbyte, Char.ofNat_toNat]
  rfl

/-- An ASCII text is its own encoding. -/
theorem utf8_of_ascii {t : Text} (hascii : IsAscii t) : utf8 t = t := by
  induction t with
  | nil => rfl
  | cons c t ih =>
    obtain ⟨hc, ht⟩ := List.forall_mem_cons.mp hascii
    rw [utf8_cons_of_ascii hc, ih ht]

theorem length_utf8_cons (c : Char) (t : Text) :
    (utf8 (c :: t)).length = c.utf8Size + (utf8 t).length := by
  simp [utf8, ofBytes]

theorem length_le_length_utf8 (t : Text) : t.length ≤ (utf8 t).length := by
  induction t with
  | nil => exact Nat.zero_le _
  | cons c t ih =>
    have hsize := c.utf8Size_pos
    rw [length_utf8_cons, List.length_cons]
    omega

/-- Only the encoding of an ASCII text has its length. -/
theorem length_utf8_eq_iff (t : Text) : (utf8 t).length = t.length ↔ IsAscii t := by
  refine ⟨fun hlength ↦ ?_, fun hascii ↦ congrArg List.length (utf8_of_ascii hascii)⟩
  induction t with
  | nil => exact fun c hc ↦ absurd hc List.not_mem_nil
  | cons c t ih =>
    have hrest := length_le_length_utf8 t
    have hpositive := c.utf8Size_pos
    rw [length_utf8_cons, List.length_cons] at hlength
    have hsize : c.utf8Size = 1 := by omega
    have hc : c.toNat < 128 := by
      have hle := UInt32.le_iff_toNat_le.mp (Char.utf8Size_eq_one_iff.mp hsize)
      exact Nat.lt_succ_of_le hle
    exact List.forall_mem_cons.mpr ⟨hc, ih (by omega)⟩

/-! ### Strings -/

/-- A Python string. -/
inductive PyString
  | str (bytes : Text)
  | unicode (text : Text)
  deriving DecidableEq, Repr

/-- What is sent of a string. -/
def PyString.bytes : PyString → Text
  | .str bytes => bytes
  | .unicode text => utf8 text

/-- `str(value)` of a string. -/
def PyString.toStr : PyString → Except PyError Text
  | .str bytes => .ok bytes
  | .unicode text =>
    if IsAscii text then .ok text
    else .error (.library "UnicodeEncodeError".toList "ordinal not in range(128)".toList)

/-- Python's `==` of two strings: a `str` equals a `unicode` when they are the same ASCII text. -/
def PyString.Equal : PyString → PyString → Prop
  | .str first, .str second | .unicode first, .unicode second => first = second
  | .str first, .unicode second | .unicode first, .str second => IsAscii first ∧ first = second

section Equal

variable {t : Text} {other : PyString}

/-- What equals a `str` is sent as the same bytes. -/
theorem PyString.Equal.bytes_eq (hequal : (PyString.str t).Equal other) : other.bytes = t := by
  cases other with
  | str bytes => exact Eq.symm hequal
  | unicode text =>
    obtain ⟨hascii, rfl⟩ := hequal
    exact utf8_of_ascii hascii

/-- `str` accepts what equals a `str`. -/
theorem PyString.Equal.toStr_eq (hequal : (PyString.str t).Equal other) : other.toStr = .ok t := by
  cases other with
  | str bytes => exact congrArg Except.ok (Eq.symm hequal)
  | unicode text =>
    obtain ⟨hascii, rfl⟩ := hequal
    exact if_pos hascii

/-- Lists of equal strings are sent as the same bytes. -/
theorem PyString.map_bytes_of_equal {texts : List Text} {others : List PyString}
    (hequal : List.Forall₂ PyString.Equal (texts.map .str) others) :
    others.map PyString.bytes = texts := by
  induction texts generalizing others with
  | nil =>
    cases hequal
    rfl
  | cons first rest ih =>
    cases hequal with
    | cons hfirst hrest => rw [List.map_cons, hfirst.bytes_eq, ih hrest]

end Equal

/-- A reader of JSON has given a text as this string. -/
inductive LoadedAs (t : Text) : PyString → Prop
  | unicode : LoadedAs t (.unicode t)
  | str (hascii : IsAscii t) : LoadedAs t (.str t)

namespace LoadedAs

variable {t : Text} {loaded : PyString}

/-- Of either kind of string the same bytes are sent. -/
theorem bytes_eq (hloaded : LoadedAs t loaded) : loaded.bytes = utf8 t := by
  cases hloaded with
  | unicode => rfl
  | str hascii => exact (utf8_of_ascii hascii).symm

theorem toStr_of_ascii (hloaded : LoadedAs t loaded) (hascii : IsAscii t) :
    loaded.toStr = .ok t := by
  cases hloaded with
  | unicode => exact if_pos hascii
  | str _ => rfl

theorem toStr_of_not_ascii (hloaded : LoadedAs t loaded) (hascii : ¬ IsAscii t) :
    ∃ error, loaded.toStr = .error error := by
  cases hloaded with
  | unicode => exact ⟨_, if_neg hascii⟩
  | str hstr => exact absurd hstr hascii

end LoadedAs

/-- Of the strings of a list the same bytes are sent. -/
theorem map_bytes_of_loadedAs {texts : List Text} {loaded : List PyString}
    (hloaded : List.Forall₂ LoadedAs texts loaded) :
    loaded.map PyString.bytes = texts.map utf8 := by
  induction hloaded with
  | nil => rfl
  | cons hfirst _ ih => rw [List.map_cons, List.map_cons, hfirst.bytes_eq, ih]

end Ec2Wrappers.Foundations
