import Ec2Wrappers.Foundations.Text

/-!
# Wildcard patterns

A pattern is a text in which `*` stands for any text and every other character for itself.
`wildcardMatches` is the matcher. The rules read a pattern from the left: `matches_star` for a `*`,
`matches_literal` for a part without one, and `matches_ends` for a pattern that ends in `*`.
-/

set_option autoImplicit false
set_option relaxedAutoImplicit false

namespace Ec2Wrappers.Foundations

/-- The pattern matches the whole text. -/
def wildcardMatches : Text → Text → Bool
  | [], text => text.isEmpty
  | c :: pattern, text =>
    if c = '*' then text.tails.any (wildcardMatches pattern)
    else text.head? = some c && wildcardMatches pattern text.tail

/-- A `*` skips any part of the text. -/
theorem matches_star (pattern text : Text) : wildcardMatches ('*' :: pattern) text = true ↔
    ∃ skipped rest, text = skipped ++ rest ∧ wildcardMatches pattern rest = true := by
  rw [wildcardMatches, if_pos rfl, List.any_eq_true]
  constructor
  · rintro ⟨rest, hrest, hmatches⟩
    obtain ⟨skipped, rfl⟩ := (List.mem_tails rest text).mp hrest
    exact ⟨skipped, rest, rfl, hmatches⟩
  · rintro ⟨skipped, rest, rfl, hmatches⟩
    exact ⟨rest, (List.mem_tails rest _).mpr (List.suffix_append skipped rest), hmatches⟩

/-- A part without `*` stands for itself. -/
theorem matches_literal {literal : Text} (hliteral : '*' ∉ literal) (pattern text : Text) :
    wildcardMatches (literal ++ pattern) text = true ↔
      ∃ rest, text = literal ++ rest ∧ wildcardMatches pattern rest = true := by
  induction literal generalizing text with
  | nil => simp
  | cons c literal ih =>
    obtain ⟨hc, hrest⟩ := not_or.mp (List.mem_cons.not.mp hliteral)
    rw [List.cons_append, wildcardMatches, if_neg (Ne.symm hc)]
    cases text with
    | nil => simp
    | cons d text =>
      simp only [List.head?_cons, List.tail_cons, Bool.and_eq_true, decide_eq_true_eq,
        Option.some.injEq, ih hrest, List.cons_append, List.cons.injEq]
      constructor
      · rintro ⟨rfl, rest, rfl, hmatches⟩
        exact ⟨rest, ⟨rfl, rfl⟩, hmatches⟩
      · rintro ⟨rest, ⟨rfl, rfl⟩, hmatches⟩
        exact ⟨rfl, rest, rfl, hmatches⟩

/-- A `*` at the end matches everything. -/
theorem matches_ends (text : Text) : wildcardMatches ['*'] text = true :=
  (matches_star [] text).mpr ⟨text, [], (List.append_nil text).symm, rfl⟩

/-- A part without `*` and then a `*`: the texts that start with the part. -/
theorem matches_starts_iff {literal : Text} (hliteral : '*' ∉ literal) (text : Text) :
    wildcardMatches (literal ++ ['*']) text = true ↔ literal <+: text := by
  rw [matches_literal hliteral]
  constructor
  · rintro ⟨rest, rfl, -⟩
    exact List.prefix_append literal rest
  · rintro ⟨rest, rfl⟩
    exact ⟨rest, rfl, matches_ends rest⟩

end Ec2Wrappers.Foundations
