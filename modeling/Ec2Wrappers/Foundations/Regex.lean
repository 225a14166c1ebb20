import Ec2Wrappers.Foundations.Text
import Mathlib.Computability.Language

/-!
# Regular expressions without alternatives

Regular expressions made of single characters and classes, each once or with one of the repetitions
`?`, `*` and `+`, of sequences, and of optional groups. `Regex.language` is the set of texts that an
expression stands for, and `Regex.ends` the texts that can be left over when it has been matched at
the start of a text; `mem_ends_iff` connects the two. `matchesLine` is Python's `re.match` of
`^…$`, where `$` also matches before a newline at the end.

`Regex.parse` reads the text of an expression that consists of such characters alone, with the
escapes of characters that are no letters or digits. Any other text is not read. A text with none of
the special characters stands for itself (`parse_of_plain`, `mem_language_literal`).
-/

set_option autoImplicit false
set_option relaxedAutoImplicit false

namespace Ec2Wrappers.Foundations

open scoped Computability

/-! ### Expressions -/

/-- How often a character may occur: once, `?`, `*` or `+`. -/
inductive Repetition
  | once
  | atMostOnce
  | anyNumber
  | atLeastOnce
  deriving DecidableEq, Repr

/-- A regular expression. -/
inductive Regex
  | empty
  | chars (test : Char → Bool) (repetition : Repetition)
  | seq (first second : Regex)
  | optional (inner : Regex)

/-- The texts of one character that passes a test. -/
def singles (test : Char → Bool) : Language Char := {text | ∃ c, test c = true ∧ text = [c]}

/-- The texts that an expression stands for. -/
def Regex.language : Regex → Language Char
  | .empty => 1
  | .chars test .once => singles test
  | .chars test .atMostOnce => 1 + singles test
  | .chars test .anyNumber => (singles test)∗
  | .chars test .atLeastOnce => singles test * (singles test)∗
  | .seq first second => first.language * second.language
  | .optional inner => 1 + inner.language

/-! ### Matching -/

/-- What is left after one character that passes the test. -/
def onceEnds (test : Char → Bool) : Text → List Text
  | [] => []
  | c :: rest => if test c then [rest] else []

/-- What is left after any number of characters that pass the test. -/
def anyNumberEnds (test : Char → Bool) : Text → List Text
  | [] => [[]]
  | c :: rest => (c :: rest) :: if test c then anyNumberEnds test rest else []

/-- What can be left of a text when the expression has been matched at its start. -/
def Regex.ends : Regex → Text → List Text
  | .empty, text => [text]
  | .chars test .once, text => onceEnds test text
  | .chars test .atMostOnce, text => text :: onceEnds test text
  | .chars test .anyNumber, text => anyNumberEnds test text
  | .chars test .atLeastOnce, text => (onceEnds test text).flatMap (anyNumberEnds test)
  | .seq first second, text => (first.ends text).flatMap second.ends
  | .optional inner, text => text :: inner.ends text

/-- `re.match` of the expression between `^` and `$`. -/
def matchesLine (regex : Regex) (text : Text) : Bool :=
  (regex.ends text).any fun rest ↦ rest = [] || rest = ['\n']

/-- A star of single characters stands for the texts whose characters all pass the test. -/
theorem mem_singles_kstar {test : Char → Bool} {text : Text} :
    text ∈ (singles test)∗ ↔ ∀ c ∈ text, test c = true := by
  rw [Language.mem_kstar]
  constructor
  · rintro ⟨parts, rfl, hparts⟩ c hc
    obtain ⟨part, hpart, hmem⟩ := List.mem_flatten.mp hc
    obtain ⟨d, hd, rfl⟩ := hparts part hpart
    rwa [List.mem_singleton.mp hmem]
  · intro hall
    refine ⟨text.map fun c ↦ [c], ?_, ?_⟩
    · rw [← List.flatMap_def, List.flatMap_singleton']
    · intro part hpart
      obtain ⟨c, hc, rfl⟩ := List.mem_map.mp hpart
      exact ⟨c, hall c hc, rfl⟩

theorem mem_onceEnds_iff {test : Char → Bool} {text rest : Text} :
    rest ∈ onceEnds test text ↔ ∃ matched ∈ singles test, matched ++ rest = text := by
  cases text with
  | nil =>
    simp only [onceEnds, List.not_mem_nil, false_iff]
    rintro ⟨matched, ⟨c, -, rfl⟩, happend⟩
    cases happend
  | cons c tail =>
    rw [onceEnds]
    constructor
    · intro hmem
      split_ifs at hmem with htest
      · rw [List.mem_singleton] at hmem
        exact ⟨[c], ⟨c, htest, rfl⟩, by rw [hmem, List.singleton_append]⟩
      · cases hmem
    · rintro ⟨matched, ⟨d, hd, rfl⟩, happend⟩
      obtain ⟨rfl, rfl⟩ := List.cons.inj happend
      rw [if_pos hd]
      exact List.mem_singleton_self _

theorem mem_anyNumberEnds_iff {test : Char → Bool} {text rest : Text} :
    rest ∈ anyNumberEnds test text ↔ ∃ matched ∈ (singles test)∗, matched ++ rest = text := by
  simp only [mem_singles_kstar]
  induction text with
  | nil => simp [anyNumberEnds]
  | cons c tail ih =>
    rw [anyNumberEnds, List.mem_cons]
    constructor
    · rintro (rfl | hmem)
      · exact ⟨[], by simp, rfl⟩
      · split_ifs at hmem with htest
        · obtain ⟨matched, hmatched, rfl⟩ := ih.mp hmem
          exact ⟨c :: matched, List.forall_mem_cons.mpr ⟨htest, hmatched⟩, rfl⟩
        · cases hmem
    · rintro ⟨matched, hmatched, happend⟩
      cases matched with
      | nil => exact Or.inl happend
      | cons d others =>
        obtain ⟨rfl, rfl⟩ := List.cons.inj happend
        obtain ⟨htest, hothers⟩ := List.forall_mem_cons.mp hmatched
        rw [if_pos htest]
        exact Or.inr (ih.mpr ⟨others, hothers, rfl⟩)

/-- Matching one part and then another is matching the product. -/
theorem mem_flatMap_ends_iff {first second : Language Char}
    {firstEnds secondEnds : Text → List Text}
    (hfirst : ∀ text rest, rest ∈ firstEnds text ↔ ∃ matched ∈ first, matched ++ rest = text)
    (hsecond : ∀ text rest, rest ∈ secondEnds text ↔ ∃ matched ∈ second, matched ++ rest = text)
    (text rest : Text) : rest ∈ (firstEnds text).flatMap secondEnds ↔
      ∃ matched ∈ first * second, matched ++ rest = text := by
  simp only [List.mem_flatMap, hfirst, hsecond, Language.mem_mul]
  constructor
  · rintro ⟨_, ⟨before, hbefore, rfl⟩, middle, hmiddle, rfl⟩
    exact ⟨before ++ middle, ⟨before, hbefore, middle, hmiddle, rfl⟩, List.append_assoc _ _ _⟩
  · rintro ⟨_, ⟨before, hbefore, middle, hmiddle, rfl⟩, rfl⟩
    exact ⟨middle ++ rest, ⟨before, hbefore, (List.append_assoc _ _ _).symm⟩, middle, hmiddle, rfl⟩

/-- Matching a part or nothing. -/
theorem mem_cons_ends_iff {language : Language Char} {ends : Text → List Text}
    (hends : ∀ text rest, rest ∈ ends text ↔ ∃ matched ∈ language, matched ++ rest = text)
    (text rest : Text) : rest ∈ text :: ends text ↔
      ∃ matched ∈ 1 + language, matched ++ rest = text := by
  simp only [List.mem_cons, hends, Language.mem_add, Language.mem_one]
  constructor
  · rintro (rfl | ⟨matched, hmatched, happend⟩)
    · exact ⟨[], Or.inl rfl, rfl⟩
    · exact ⟨matched, Or.inr hmatched, happend⟩
  · rintro ⟨matched, rfl | hmatched, happend⟩
    · exact Or.inl happend
    · exact Or.inr ⟨matched, hmatched, happend⟩

/-- What can be left over is what stands behind a text of the language. -/
theorem mem_ends_iff (regex : Regex) (text rest : Text) :
    rest ∈ regex.ends text ↔ ∃ matched ∈ regex.language, matched ++ rest = text := by
  induction regex generalizing text rest with
  | empty => simp [Regex.ends, Regex.language, Language.mem_one, eq_comm]
  | chars test repetition =>
    cases repetition with
    | once => exact mem_onceEnds_iff
    | atMostOnce => exact mem_cons_ends_iff (fun _ _ ↦ mem_onceEnds_iff) text rest
    | anyNumber => exact mem_anyNumberEnds_iff
    | atLeastOnce =>
      exact mem_flatMap_ends_iff (fun _ _ ↦ mem_onceEnds_iff)
        (fun _ _ ↦ mem_anyNumberEnds_iff) text rest
  | seq first second ihfirst ihsecond => exact mem_flatMap_ends_iff ihfirst ihsecond text rest
  | optional inner ih => exact mem_cons_ends_iff ih text rest

/-- A line matches when it is a text of the language, up to a newline at its end. -/
theorem matchesLine_iff (regex : Regex) (text : Text) : matchesLine regex text = true ↔
    ∃ matched ∈ regex.language, text = matched ∨ text = matched ++ ['\n'] := by
  simp only [matchesLine, List.any_eq_true, mem_ends_iff, Bool.or_eq_true, decide_eq_true_eq]
  constructor
  · rintro ⟨rest, ⟨matched, hmatched, rfl⟩, rfl | rfl⟩
    · exact ⟨matched, hmatched, Or.inl (List.append_nil matched)⟩
    · exact ⟨matched, hmatched, Or.inr rfl⟩
  · rintro ⟨matched, hmatched, rfl | rfl⟩
    · exact ⟨[], ⟨_, hmatched, List.append_nil _⟩, Or.inl rfl⟩
    · exact ⟨['\n'], ⟨_, hmatched, rfl⟩, Or.inr rfl⟩

/-! ### Reading an expression -/

/-- The characters with a meaning of their own outside a class. -/
def specialChars : Text := ".^$*+?\x7b[\\|()".toList

/-- Read what follows a backslash; letters and digits have meanings that are not covered. -/
def parseEscape : Text → Option ((Char → Bool) × Text)
  | [] => none
  | c :: rest => if c.isAlphanum then none else some (fun d ↦ d = c, rest)

/-- Read one character or escape. -/
def parseAtom : Text → Option ((Char → Bool) × Text)
  | [] => none
  | c :: rest =>
    if c = '.' then some (fun d ↦ d ≠ '\n', rest)
    else if c = '\\' then parseEscape rest
    else if c ∈ specialChars then none
    else some (fun d ↦ d = c, rest)

/-- Read a repetition. -/
def parseRepetition : Text → Repetition × Text
  | [] => (.once, [])
  | c :: rest =>
    if c = '?' then (.atMostOnce, rest)
    else if c = '*' then (.anyNumber, rest)
    else if c = '+' then (.atLeastOnce, rest)
    else (.once, c :: rest)

/-- Read an expression, with a bound for the number of its parts. -/
def parseParts : ℕ → Text → Option Regex
  | _, [] => some .empty
  | 0, _ => none
  | parts + 1, text => do
    let (test, rest) ← parseAtom text
    let (repetition, rest) := parseRepetition rest
    let others ← parseParts parts rest
    return .seq (.chars test repetition) others

/-- Read an expression; nothing when it has a part that is not covered here. -/
def Regex.parse (text : Text) : Option Regex := parseParts text.length text

/-- The expression that stands for one text. -/
def Regex.literal : Text → Regex
  | [] => .empty
  | c :: rest => .seq (.chars (fun d ↦ d = c) .once) (literal rest)

theorem mem_language_literal {text other : Text} :
    other ∈ (Regex.literal text).language ↔ other = text := by
  induction text generalizing other with
  | nil => exact Language.mem_one other
  | cons c rest ih =>
    rw [Regex.literal, Regex.language, Regex.language, Language.mem_mul]
    constructor
    · rintro ⟨_, ⟨d, hd, rfl⟩, tail, htail, rfl⟩
      rw [ih.mp htail, of_decide_eq_true hd, List.singleton_append]
    · rintro rfl
      exact ⟨[c], ⟨c, decide_eq_true rfl, rfl⟩, rest, ih.mpr rfl, rfl⟩

/-- A text with no special character stands for itself. -/
theorem parse_of_plain {text : Text} (hplain : ∀ c ∈ text, c ∉ specialChars) :
    Regex.parse text = some (Regex.literal text) := by
  rw [Regex.parse]
  induction text with
  | nil => rfl
  | cons c rest ih =>
    obtain ⟨hc, hrest⟩ := List.forall_mem_cons.mp hplain
    have hatom : parseAtom (c :: rest) = some (fun d ↦ decide (d = c), rest) := by
      have hdot : c ≠ '.' := fun hsame ↦ hc (hsame ▸ by decide)
      have hescape : c ≠ '\\' := fun hsame ↦ hc (hsame ▸ by decide)
      rw [parseAtom, if_neg hdot, if_neg hescape, if_neg hc]
    have hrepetition : parseRepetition rest = (.once, rest) := by
      cases rest with
      | nil => rfl
      | cons d others =>
        have hd := hrest d List.mem_cons_self
        have hmark : d ≠ '?' := fun hsame ↦ hd (hsame ▸ by decide)
        have hstar : d ≠ '*' := fun hsame ↦ hd (hsame ▸ by decide)
        have hplus : d ≠ '+' := fun hsame ↦ hd (hsame ▸ by decide)
        rw [parseRepetition, if_neg hmark, if_neg hstar, if_neg hplus]
    rw [List.length_cons, parseParts, hatom]
    simp only [Option.bind_eq_bind, Option.bind_some, hrepetition, ih hrest]
    rfl
    · simp

end Ec2Wrappers.Foundations
