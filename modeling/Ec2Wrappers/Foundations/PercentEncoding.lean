import Ec2Wrappers.Foundations.Text
import Mathlib.Tactic.IntervalCases

/-!
# Percent encoding

`escape keep` replaces the characters of a text that `keep` does not keep by percent escapes of
their bytes; a character below 256 is its own byte. `unescape` replaces each escape by the character
of its byte and leaves a percent sign that starts no escape.

When the kept characters include the percent sign and the hexadecimal digits (`KeepsEscapes`),
escaping adds escapes and touches none: both texts unescape alike (`unescape_escape`). A mark that
is neither a percent sign nor a hexadecimal digit ends whatever stands before it
(`unescape_append_cons`), so a text may be cut there before or after either of the two.
-/

set_option autoImplicit false
set_option relaxedAutoImplicit false

namespace Ec2Wrappers.Foundations

/-! ### Hexadecimal digits -/

/-- The digit of a value below 16. -/
def hexDigit (value : ℕ) : Char := "0123456789ABCDEF".toList.getD value '0'

/-- The value of a hexadecimal digit, in either case. -/
def hexValue (c : Char) : Option ℕ :=
  if '0' ≤ c ∧ c ≤ '9' then some (c.toNat - '0'.toNat)
  else if 'A' ≤ c ∧ c ≤ 'F' then some (c.toNat - 'A'.toNat + 10)
  else if 'a' ≤ c ∧ c ≤ 'f' then some (c.toNat - 'a'.toNat + 10)
  else none

theorem hexValue_hexDigit {value : ℕ} (hvalue : value < 16) :
    hexValue (hexDigit value) = some value := by
  interval_cases value <;> decide

theorem hexValue_lt {c : Char} {value : ℕ} (hc : hexValue c = some value) : value < 16 := by
  simp only [hexValue] at hc
  split_ifs at hc with hdigit hupper hlower
  all_goals
    simp only [Option.some.injEq] at hc
    simp only [Char.le_def, UInt32.le_iff_toNat_le, Char.toNat] at *
    simp only [Char.reduceVal, UInt32.reduceToNat] at *
    omega

/-! ### Escaping and unescaping -/

/-- The escape of a byte. -/
def percentEscape (byte : ℕ) : Text := ['%', hexDigit (byte / 16), hexDigit (byte % 16)]

/-- The escapes of the bytes of a character. -/
def escapeChar (c : Char) : Text :=
  if c.toNat < 256 then percentEscape c.toNat
  else (String.utf8EncodeChar c).flatMap fun byte ↦ percentEscape byte.toNat

/-- The text with the escapes of the characters that are not kept. -/
def escape (keep : Char → Bool) (t : Text) : Text :=
  t.flatMap fun c ↦ if keep c then [c] else escapeChar c

/-- The text with the characters its escapes stand for. -/
def unescape : Text → Text
  | '%' :: a :: b :: t =>
    match hexValue a, hexValue b with
    | some high, some low => Char.ofNat (16 * high + low) :: unescape t
    | _, _ => '%' :: unescape (a :: b :: t)
  | c :: t => c :: unescape t
  | [] => []

/-- The percent sign and the hexadecimal digits are kept. -/
structure KeepsEscapes (keep : Char → Bool) : Prop where
  percent : keep '%' = true
  digit : ∀ c, (hexValue c).isSome → keep c = true

/-- The text starts with two hexadecimal digits. -/
def startsWithHexPair : Text → Bool
  | a :: b :: _ => (hexValue a).isSome && (hexValue b).isSome
  | _ => false

/-! ### Unescaping -/

theorem unescape_cons {c : Char} (hc : c ≠ '%') (t : Text) :
    unescape (c :: t) = c :: unescape t := by
  rw [unescape]
  rintro a b t' hmark
  exact absurd hmark hc

/-- A percent sign that starts no escape stays. -/
theorem unescape_percent {t : Text} (hpair : startsWithHexPair t = false) :
    unescape ('%' :: t) = '%' :: unescape t := by
  match t with
  | [] => rfl
  | [a] => rfl
  | a :: b :: t =>
    rw [unescape]
    split
    · next high low ha hb => simp [startsWithHexPair, ha, hb] at hpair
    · rfl

/-- An escape becomes the character of its byte. -/
theorem unescape_pair {a b : Char} {high low : ℕ} (ha : hexValue a = some high)
    (hb : hexValue b = some low) (t : Text) :
    unescape ('%' :: a :: b :: t) = Char.ofNat (16 * high + low) :: unescape t := by
  rw [unescape, ha, hb]

theorem unescape_percentEscape {byte : ℕ} (hbyte : byte < 256) (t : Text) :
    unescape (percentEscape byte ++ t) = Char.ofNat byte :: unescape t := by
  have hsum : 16 * (byte / 16) + byte % 16 = byte := Nat.div_add_mod byte 16
  rw [percentEscape, List.cons_append, List.cons_append, List.cons_append, List.nil_append,
    unescape_pair (hexValue_hexDigit (by omega)) (hexValue_hexDigit (by omega)), hsum]

/-- A text is read from its front: an escape, a percent sign that starts none, or another
character. -/
@[elab_as_elim]
theorem escape_induction {motive : Text → Prop} (nil : motive [])
    (pair : ∀ a b high low t, hexValue a = some high → hexValue b = some low → motive t →
      motive ('%' :: a :: b :: t))
    (percent : ∀ t, startsWithHexPair t = false → motive t → motive ('%' :: t))
    (char : ∀ c t, c ≠ '%' → motive t → motive (c :: t)) (t : Text) : motive t := by
  match t with
  | [] => exact nil
  | c :: t =>
    have hrest := escape_induction nil pair percent char t
    by_cases hc : c = '%'
    · subst hc
      match t with
      | [] => exact percent [] rfl hrest
      | [a] => exact percent [a] rfl hrest
      | a :: b :: t =>
        cases ha : hexValue a with
        | none => exact percent _ (by simp [startsWithHexPair, ha]) hrest
        | some high =>
          cases hb : hexValue b with
          | none => exact percent _ (by simp [startsWithHexPair, hb]) hrest
          | some low =>
            exact pair a b high low t ha hb (escape_induction nil pair percent char t)
    · exact char c t hc hrest

theorem length_unescape_le (t : Text) : (unescape t).length ≤ t.length := by
  induction t using escape_induction with
  | nil => simp [unescape]
  | pair a b high low t ha hb ih =>
    rw [unescape_pair ha hb]
    simp only [List.length_cons]
    omega
  | percent t hpair ih => simpa [unescape_percent hpair] using ih
  | char c t hc ih => simpa [unescape_cons hc] using ih

/-- A mark that is no hexadecimal digit does not complete a pair. -/
theorem startsWithHexPair_append_cons {mark : Char} (hhex : hexValue mark = none) {t : Text}
    (hpair : startsWithHexPair t = false) (after : Text) :
    startsWithHexPair (t ++ mark :: after) = false := by
  match t with
  | [] => cases after <;> simp [startsWithHexPair, hhex]
  | [a] => simp [startsWithHexPair, hhex]
  | a :: b :: t => exact hpair

/-- A mark that cannot stand in an escape ends what stands before it. -/
theorem unescape_append_cons {mark : Char} (hpercent : mark ≠ '%') (hhex : hexValue mark = none)
    (before after : Text) :
    unescape (before ++ mark :: after) = unescape before ++ mark :: unescape after := by
  induction before using escape_induction with
  | nil => simp [unescape_cons hpercent, unescape]
  | pair a b high low t ha hb ih =>
    rw [List.cons_append, List.cons_append, List.cons_append, unescape_pair ha hb,
      unescape_pair ha hb, ih, List.cons_append]
  | percent t hpair ih =>
    rw [List.cons_append, unescape_percent (startsWithHexPair_append_cons hhex hpair after),
      unescape_percent hpair, ih, List.cons_append]
  | char c t hc ih =>
    rw [List.cons_append, unescape_cons hc, unescape_cons hc, ih, List.cons_append]

/-- A text without a percent sign has no escape. -/
theorem unescape_of_not_mem {t : Text} (hpercent : '%' ∉ t) : unescape t = t := by
  induction t with
  | nil => rfl
  | cons c t ih =>
    rw [List.mem_cons, not_or] at hpercent
    rw [unescape_cons (Ne.symm hpercent.1), ih hpercent.2]

/-- Without a percent sign in front, what stands there is kept. -/
theorem unescape_append_of_not_mem {before : Text} (hpercent : '%' ∉ before) (after : Text) :
    unescape (before ++ after) = before ++ unescape after := by
  induction before with
  | nil => rfl
  | cons c before ih =>
    rw [List.mem_cons, not_or] at hpercent
    rw [List.cons_append, unescape_cons (Ne.symm hpercent.1), ih hpercent.2, List.cons_append]

/-- Every character of a text of bytes is a byte once it is unescaped. -/
theorem lt_of_mem_unescape {t : Text} (hbytes : ∀ c ∈ t, c.toNat < 256) {c : Char}
    (hc : c ∈ unescape t) : c.toNat < 256 := by
  induction t using escape_induction with
  | nil => simp [unescape] at hc
  | pair a b high low t ha hb ih =>
    rw [unescape_pair ha hb, List.mem_cons] at hc
    rcases hc with rfl | hc
    · have hhigh := hexValue_lt ha
      have hlow := hexValue_lt hb
      have hvalid : (16 * high + low).isValidChar := .inl (by omega)
      rw [Char.ofNat, dif_pos hvalid]
      change 16 * high + low < 256
      omega
    · exact ih (fun d hd ↦ hbytes d (by simp [hd])) hc
  | percent t hpair ih =>
    rw [unescape_percent hpair, List.mem_cons] at hc
    rcases hc with rfl | hc
    · decide
    · exact ih (fun d hd ↦ hbytes d (by simp [hd])) hc
  | char d t hd ih =>
    rw [unescape_cons hd, List.mem_cons] at hc
    rcases hc with rfl | hc
    · exact hbytes _ (by simp)
    · exact ih (fun d hd ↦ hbytes d (by simp [hd])) hc

/-! ### Escaping -/

variable {keep : Char → Bool}

@[simp] theorem escape_nil : escape keep [] = [] := rfl

theorem escape_append (t t' : Text) : escape keep (t ++ t') = escape keep t ++ escape keep t' := by
  simp [escape]

theorem escape_cons_kept {c : Char} (hc : keep c = true) (t : Text) :
    escape keep (c :: t) = c :: escape keep t := by
  simp [escape, hc]

theorem escape_cons_escaped {c : Char} (hc : keep c = false) (t : Text) :
    escape keep (c :: t) = escapeChar c ++ escape keep t := by
  simp [escape, hc]

/-- A text of kept characters is its own escape. -/
theorem escape_of_kept {t : Text} (hkept : ∀ c ∈ t, keep c = true) : escape keep t = t := by
  induction t with
  | nil => rfl
  | cons c t ih =>
    rw [escape_cons_kept (hkept c (by simp)), ih fun d hd ↦ hkept d (by simp [hd])]

/-- An escaped character starts with a percent sign. -/
theorem escapeChar_eq_cons (c : Char) : ∃ t, escapeChar c = '%' :: t := by
  rw [escapeChar]
  split_ifs with hbyte
  · exact ⟨_, rfl⟩
  · cases hbytes : String.utf8EncodeChar c with
    | nil =>
      have hlength := congrArg List.length hbytes
      rw [String.length_utf8EncodeChar] at hlength
      exact absurd hlength (Char.utf8Size_pos c).ne'
    | cons byte bytes => exact ⟨_, rfl⟩

/-- The characters of an escape are the percent sign and hexadecimal digits. -/
theorem mem_percentEscape {byte : ℕ} (hbyte : byte < 256) {c : Char} (hc : c ∈ percentEscape byte) :
    c = '%' ∨ (hexValue c).isSome := by
  simp only [percentEscape, List.mem_cons, List.not_mem_nil, or_false] at hc
  rcases hc with rfl | rfl | rfl
  · exact .inl rfl
  · exact .inr (by rw [hexValue_hexDigit (by omega)]; rfl)
  · exact .inr (by rw [hexValue_hexDigit (by omega)]; rfl)

theorem mem_escapeChar {c d : Char} (hd : d ∈ escapeChar c) : d = '%' ∨ (hexValue d).isSome := by
  rw [escapeChar] at hd
  split_ifs at hd with hbyte
  · exact mem_percentEscape hbyte hd
  · obtain ⟨byte, -, hbyte⟩ := List.mem_flatMap.mp hd
    exact mem_percentEscape byte.toNat_lt hbyte

/-- What an escaped text consists of: kept characters of the text, percent signs and digits. -/
theorem mem_escape {t : Text} {d : Char} (hd : d ∈ escape keep t) :
    (d ∈ t ∧ keep d = true) ∨ d = '%' ∨ (hexValue d).isSome := by
  obtain ⟨c, hc, hd⟩ := List.mem_flatMap.mp hd
  split_ifs at hd with hkept
  · rw [List.mem_singleton] at hd
    exact .inl ⟨hd ▸ hc, hd ▸ hkept⟩
  · exact .inr (mem_escapeChar hd)

/-- The characters of an escaped text are kept. -/
theorem keep_of_mem_escape (hkeep : KeepsEscapes keep) {t : Text} {d : Char}
    (hd : d ∈ escape keep t) : keep d = true := by
  rcases mem_escape hd with hkept | rfl | hdigit
  · exact hkept.2
  · exact hkeep.percent
  · exact hkeep.digit d hdigit

/-- A mark that cannot stand in an escape is not added. -/
theorem not_mem_escape {mark : Char} (hpercent : mark ≠ '%') (hhex : hexValue mark = none)
    {t : Text} (hmark : mark ∉ t) : mark ∉ escape keep t := by
  intro hmem
  rcases mem_escape hmem with hkept | hsign | hdigit
  · exact hmark hkept.1
  · exact hpercent hsign
  · simp [hhex] at hdigit

/-- Only a text of kept characters is escaped to one without a percent sign. -/
theorem escape_eq_self {t : Text} (hpercent : '%' ∉ escape keep t) : escape keep t = t := by
  refine escape_of_kept fun c hc ↦ ?_
  by_contra hkept
  obtain ⟨rest, hescape⟩ := escapeChar_eq_cons c
  refine hpercent (List.mem_flatMap.mpr ⟨c, hc, ?_⟩)
  rw [if_neg hkept, hescape]
  exact List.mem_cons_self

/-- Escaping makes no pair of digits at the front. -/
theorem startsWithHexPair_escape {t : Text} (hpair : startsWithHexPair t = false) :
    startsWithHexPair (escape keep t) = false := by
  have hsign (rest : Text) : startsWithHexPair ('%' :: rest) = false := by
    cases rest <;> rfl
  match t with
  | [] => rfl
  | a :: t =>
    cases ha : keep a with
    | false =>
      obtain ⟨rest, hescape⟩ := escapeChar_eq_cons a
      rw [escape_cons_escaped ha, hescape]
      exact hsign _
    | true =>
      rw [escape_cons_kept ha]
      match t with
      | [] => rfl
      | b :: t =>
        cases hb : keep b with
        | false =>
          obtain ⟨rest, hescape⟩ := escapeChar_eq_cons b
          rw [escape_cons_escaped hb, hescape, List.cons_append, startsWithHexPair]
          simp [show hexValue '%' = none from rfl]
        | true => rwa [escape_cons_kept hb]

/-- A text of bytes and its escape unescape alike. -/
theorem unescape_escape (hkeep : KeepsEscapes keep) {t : Text} (hbytes : ∀ c ∈ t, c.toNat < 256) :
    unescape (escape keep t) = unescape t := by
  induction t using escape_induction with
  | nil => rfl
  | pair a b high low t ha hb ih =>
    have hda : keep a = true := hkeep.digit a (by simp [ha])
    have hdb : keep b = true := hkeep.digit b (by simp [hb])
    rw [escape_cons_kept hkeep.percent, escape_cons_kept hda, escape_cons_kept hdb,
      unescape_pair ha hb, unescape_pair ha hb, ih fun d hd ↦ hbytes d (by simp [hd])]
  | percent t hpair ih =>
    rw [escape_cons_kept hkeep.percent, unescape_percent hpair,
      unescape_percent (startsWithHexPair_escape hpair), ih fun d hd ↦ hbytes d (by simp [hd])]
  | char c t hc ih =>
    have hrest := ih fun d hd ↦ hbytes d (by simp [hd])
    cases hkept : keep c with
    | true => rw [escape_cons_kept hkept, unescape_cons hc, unescape_cons hc, hrest]
    | false =>
      have hbyte : c.toNat < 256 := hbytes c (by simp)
      rw [escape_cons_escaped hkept, escapeChar, if_pos hbyte, unescape_percentEscape hbyte,
        Char.ofNat_toNat, unescape_cons hc, hrest]

end Ec2Wrappers.Foundations
