import Ec2Wrappers.Foundations.Text
import Mathlib.Algebra.Order.Ring.Rat

/-!
# Perl scalars, patterns and `split`

A Perl scalar that holds a text is that text. An undefined scalar reads as the empty text where a
text is wanted, so the functions below that return a field return a text.

The text is false when it is empty or `0` (`isTrueText`). In a numeric comparison it stands for the
longest numeric prefix after white space, and for 0 when there is none (`number`); `inf` and `nan`
are numeric prefixes too. `split` with a positive limit cuts at most `limit - 1` times, so that the
last field keeps its separators, and keeps empty fields.

A pattern is a sequence of character tests with or without the anchors `^` and `$` (`Pattern`); a
`$` also matches before a newline that ends the text.
-/

set_option autoImplicit false
set_option relaxedAutoImplicit false

namespace Ec2Wrappers.Foundations.Perl

/-! ### Truth -/

/-- A text is true unless it is empty or `0`. -/
def isTrueText (t : Text) : Bool := t ≠ [] && t ≠ ['0']

/-- `$t ||= ''`. -/
def orEmpty (t : Text) : Text := if isTrueText t then t else []

/-- A text with a character other than `0` is kept. -/
theorem orEmpty_of_mem {t : Text} {c : Char} (hc : c ∈ t) (hzero : c ≠ '0') : orEmpty t = t := by
  have htrue : isTrueText t = true := by
    simp only [isTrueText, Bool.and_eq_true, decide_eq_true_eq]
    refine ⟨List.ne_nil_of_mem hc, ?_⟩
    rintro rfl
    exact hzero (List.mem_singleton.mp hc)
  rw [orEmpty, if_pos htrue]

/-- What is kept is the text or nothing. -/
theorem orEmpty_cases (t : Text) : orEmpty t = t ∨ orEmpty t = [] := by
  rw [orEmpty]
  split_ifs <;> simp

/-- A text is kept unless it is `0`. -/
theorem orEmpty_eq_self_iff (t : Text) : orEmpty t = t ↔ t ≠ ['0'] := by
  by_cases hempty : t = []
  · subst hempty
    decide
  · by_cases hzero : t = ['0']
    · subst hzero
      decide
    · simp [orEmpty, isTrueText, hempty, hzero]

/-! ### Numbers -/

/-- A number: finite, infinite, or not a number. -/
inductive Number
  | finite (value : ℚ)
  | infinite (negative : Bool)
  | nan
  deriving DecidableEq, Repr

/-- White space that `number` skips. -/
def isSpace (c : Char) : Bool := c ∈ [' ', '\t', '\n', '\r', '\x0b', '\x0c']

/-- Whether the text starts with the word, in either case. -/
def startsWithWord (word t : Text) : Bool :=
  word.isPrefixOf (t.map Char.toLower)

/-- The value of the digits that follow `value`. -/
def digitsValue (value : ℕ) (digits : Text) : ℕ :=
  digits.foldl (fun value c ↦ 10 * value + (c.toNat - '0'.toNat)) value

/-- The exponent at the start of the text, 0 when there is none. -/
def exponent (t : Text) : ℤ :=
  match t with
  | [] => 0
  | e :: t =>
    if e.toLower ≠ 'e' then 0
    else match t with
      | '-' :: t => -(digitsValue 0 (t.takeWhile Char.isDigit) : ℤ)
      | '+' :: t => digitsValue 0 (t.takeWhile Char.isDigit)
      | t => digitsValue 0 (t.takeWhile Char.isDigit)

/-- The value of the decimal numeral at the start of the text, 0 when there is none. -/
def decimal (t : Text) : ℚ :=
  let whole := t.takeWhile Char.isDigit
  let rest := t.dropWhile Char.isDigit
  let (fraction, rest) := match rest with
    | '.' :: rest => (rest.takeWhile Char.isDigit, rest.dropWhile Char.isDigit)
    | rest => ([], rest)
  let power := exponent rest - fraction.length
  (digitsValue (digitsValue 0 whole) fraction : ℚ) * (10 : ℚ) ^ power

/-- The number a text stands for in a comparison. -/
def number (t : Text) : Number :=
  let t := t.dropWhile isSpace
  let (negative, t) := match t with
    | '-' :: t => (true, t)
    | '+' :: t => (false, t)
    | t => (false, t)
  if startsWithWord "inf".toList t then .infinite negative
  else if startsWithWord "nan".toList t || startsWithWord "qnan".toList t ||
      startsWithWord "snan".toList t then .nan
  else .finite (if negative then -decimal t else decimal t)

/-- `$t < 1000`. A numeral becomes the nearest double; the doubles just below 1000 are `2⁻⁴³`
apart, so a value within half of that is 1000. -/
def isBelowThousand (t : Text) : Bool :=
  match number t with
  | .finite value => value < 1000 - 1 / 2 ^ 44
  | .infinite negative => negative
  | .nan => false

/-- `$t > 1000`. The doubles just above 1000 are as far apart as those just below. -/
def isAboveThousand (t : Text) : Bool :=
  match number t with
  | .finite value => value > 1000 + 1 / 2 ^ 44
  | .infinite negative => !negative
  | .nan => false

/-! ### `split` -/

/-- The fields after at most `cuts` cuts at the separator. -/
def splitFields (separator : Char) : ℕ → Text → List Text
  | 0, t => [t]
  | cuts + 1, t =>
    match t.dropWhile (fun c ↦ c ≠ separator) with
    | [] => [t]
    | _ :: rest => t.takeWhile (fun c ↦ c ≠ separator) :: splitFields separator cuts rest

/-- `split` at a character with a positive limit. The empty text has no field. -/
def split (separator : Char) (t : Text) (limit : ℕ) : List Text :=
  if t = [] then [] else splitFields separator (limit - 1) t

/-- The field at a place, empty when there is none. -/
def field (fields : List Text) (place : ℕ) : Text := fields[place]?.getD []

/-- A text without the separator is one field. -/
theorem splitFields_of_not_mem {separator : Char} {t : Text} (hsep : separator ∉ t) (cuts : ℕ) :
    splitFields separator cuts t = [t] := by
  cases cuts with
  | zero => rfl
  | succ cuts =>
    have hkept : ∀ c ∈ t, decide (c ≠ separator) = true := by
      intro c hc
      simpa using ne_of_mem_of_not_mem hc hsep
    rw [splitFields, List.dropWhile_eq_nil_iff.mpr hkept]

/-- What stands before the first separator is the first field. -/
theorem splitFields_append_cons {separator : Char} {before : Text} (hsep : separator ∉ before)
    (cuts : ℕ) (after : Text) :
    splitFields separator (cuts + 1) (before ++ separator :: after) =
      before :: splitFields separator cuts after := by
  have hkept : ∀ c ∈ before, decide (c ≠ separator) = true := by
    intro c hc
    simpa using ne_of_mem_of_not_mem hc hsep
  rw [splitFields, dropWhile_at_failure hkept (by simp), takeWhile_at_failure hkept (by simp)]

/-- A field before the last cut has no separator. -/
theorem separator_not_mem_field {separator : Char} {t : Text} {cuts place : ℕ}
    (hplace : place < cuts) : separator ∉ field (splitFields separator cuts t) place := by
  induction cuts generalizing t place with
  | zero => omega
  | succ cuts ih =>
    by_cases hsep : separator ∈ t
    · obtain ⟨before, after, rfl, hbefore⟩ := List.eq_append_cons_of_mem hsep
      rw [splitFields_append_cons hbefore]
      cases place with
      | zero => simpa [field] using hbefore
      | succ place => simpa [field] using @ih after place (Nat.lt_of_succ_lt_succ hplace)
    · rw [splitFields_of_not_mem hsep]
      cases place with
      | zero => simpa [field] using hsep
      | succ place => simp [field]

/-- The characters of a field are characters of the text. -/
theorem mem_of_mem_field {separator c : Char} {t : Text} {cuts place : ℕ}
    (hc : c ∈ field (splitFields separator cuts t) place) : c ∈ t := by
  induction cuts generalizing t place with
  | zero =>
    cases place with
    | zero => simpa [field, splitFields] using hc
    | succ place => simp [field, splitFields] at hc
  | succ cuts ih =>
    by_cases hsep : separator ∈ t
    · obtain ⟨before, after, rfl, hbefore⟩ := List.eq_append_cons_of_mem hsep
      rw [splitFields_append_cons hbefore] at hc
      cases place with
      | zero => exact List.mem_append_left _ (by simpa [field] using hc)
      | succ place =>
        have hafter : c ∈ after := @ih after place (by simpa [field] using hc)
        exact List.mem_append_right _ (List.mem_cons_of_mem _ hafter)
    · rw [splitFields_of_not_mem hsep] at hc
      cases place with
      | zero => simpa [field] using hc
      | succ place => simp [field] at hc

/-! ### Patterns -/

/-- A pattern: tests of consecutive characters, with or without `^` in front and `$` behind. -/
structure Pattern where
  atStart : Bool
  body : List (Char → Bool)
  atEnd : Bool

/-- A literal text in a pattern. -/
def literal (t : Text) : List (Char → Bool) := t.map fun c d ↦ d == c

/-- A literal text in a pattern that ignores case. -/
def literalIgnoringCase (t : Text) : List (Char → Bool) :=
  t.map fun c d ↦ d.toLower == c.toLower

/-- `.` in a pattern. -/
def anyCharacter : List (Char → Bool) := [fun c ↦ c != '\n']

/-- What follows the tests when the text starts with characters that pass them. -/
def afterBody : List (Char → Bool) → Text → Option Text
  | [], t => some t
  | _ :: _, [] => none
  | test :: body, c :: t => if test c then afterBody body t else none

/-- Whether the pattern matches at the start of the text. -/
def Pattern.matchesHere (pattern : Pattern) (t : Text) : Bool :=
  match afterBody pattern.body t with
  | none => false
  | some rest => !pattern.atEnd || rest = [] || rest = ['\n']

/-- `$t =~ pattern`. -/
def Pattern.matches (pattern : Pattern) (t : Text) : Bool :=
  if pattern.atStart then pattern.matchesHere t else t.tails.any pattern.matchesHere

/-- `$t =~ /first|second|…/`. -/
def matchesAny (patterns : List Pattern) (t : Text) : Bool :=
  patterns.any fun pattern ↦ pattern.matches t

end Ec2Wrappers.Foundations.Perl
