import Mathlib.Data.List.DropRight
import Mathlib.Data.List.Infix

/-!
# Cutting texts and replacing parts of them

A text is a list of characters. Programs that take texts apart cut them at a mark: at the first
character that fails a test, or after the last occurrence of a character (`afterLast`). `replaceAll`
replaces the occurrences of a part, none of which reaches over characters that are not in the part
(`replaceAll_append`).

`exists_first_failure` names the place of the first cut, `takeWhile_at_failure` and
`dropWhile_at_failure` read the cut back. `length_dropWhile_le_of_piece` compares what a text and a
piece of it leave after their first failing character.
-/

set_option autoImplicit false
set_option relaxedAutoImplicit false

namespace Ec2Wrappers.Foundations

/-- A text: a sequence of characters. -/
abbrev Text := List Char

/-- Texts are compared character by character. -/
instance lawfulText : LawfulBEq Text := inferInstanceAs (LawfulBEq (List Char))

/-- A test of all characters of a text goes through the text, not through all characters. -/
instance decidableAllCharacters (test : Char → Prop) [DecidablePred test] (t : Text) :
    Decidable (∀ c ∈ t, test c) :=
  List.decidableBAll test t

/-! ### The first character that fails a test -/

/-- A text with a failing character is cut at the first one. -/
theorem exists_first_failure {test : Char → Bool} {t : Text} (hfails : ∃ c ∈ t, test c = false) :
    ∃ before c after, t = before ++ c :: after ∧ (∀ d ∈ before, test d = true) ∧
      test c = false := by
  cases hrest : t.dropWhile test with
  | nil =>
    obtain ⟨c, hc, hfail⟩ := hfails
    rw [List.dropWhile_eq_nil_iff] at hrest
    rw [hrest c hc] at hfail
    cases hfail
  | cons c after =>
    refine ⟨t.takeWhile test, c, after, ?_, fun d hd ↦ List.mem_takeWhile_imp hd, ?_⟩
    · rw [← hrest, List.takeWhile_append_dropWhile]
    · have hhead := List.head?_dropWhile_not test t
      rw [hrest] at hhead
      simpa using hhead

/-- A part that passes the test is taken when the rest is empty or starts with a failing
character. -/
theorem takeWhile_append_stop {test : Char → Bool} {before after : Text}
    (hbefore : ∀ d ∈ before, test d = true) (hstop : ∀ c ∈ after.head?, test c = false) :
    (before ++ after).takeWhile test = before := by
  rw [List.takeWhile_append_of_pos hbefore]
  cases after with
  | nil => simp
  | cons c after => rw [List.takeWhile_cons_of_neg (by simp [hstop c rfl]), List.append_nil]

theorem dropWhile_append_stop {test : Char → Bool} {before after : Text}
    (hbefore : ∀ d ∈ before, test d = true) (hstop : ∀ c ∈ after.head?, test c = false) :
    (before ++ after).dropWhile test = after := by
  rw [List.dropWhile_append_of_pos hbefore]
  cases after with
  | nil => rfl
  | cons c after => rw [List.dropWhile_cons_of_neg (by simp [hstop c rfl])]

/-- What stands before the first failing character. -/
theorem takeWhile_at_failure {test : Char → Bool} {before after : Text} {c : Char}
    (hbefore : ∀ d ∈ before, test d = true) (hfail : test c = false) :
    (before ++ c :: after).takeWhile test = before :=
  takeWhile_append_stop hbefore (by simpa using hfail)

/-- The first failing character and what follows it. -/
theorem dropWhile_at_failure {test : Char → Bool} {before after : Text} {c : Char}
    (hbefore : ∀ d ∈ before, test d = true) (hfail : test c = false) :
    (before ++ c :: after).dropWhile test = c :: after :=
  dropWhile_append_stop hbefore (by simpa using hfail)

/-- A prefix that passes the test is dropped whole. -/
theorem length_dropWhile_append_le {test : Char → Bool} {before after : Text}
    (hbefore : ∀ d ∈ before, test d = true) :
    ((before ++ after).dropWhile test).length ≤ after.length := by
  rw [List.dropWhile_append_of_pos hbefore]
  exact (List.dropWhile_sublist test).length_le

/-- What follows the first failing character of a piece is no longer than what follows that of the
whole. -/
theorem length_dropWhile_le_of_piece {test : Char → Bool} {piece whole : Text}
    (hpiece : piece <:+: whole) :
    (piece.dropWhile test).length ≤ (whole.dropWhile test).length := by
  obtain ⟨left, right, rfl⟩ := hpiece
  induction left with
  | nil =>
    rw [List.nil_append, List.dropWhile_append]
    split_ifs with hempty
    · simp [List.isEmpty_iff.mp hempty]
    · simp
  | cons c left ih =>
    by_cases htest : test c = true
    · rwa [List.cons_append, List.cons_append, List.dropWhile_cons_of_pos htest]
    · rw [List.cons_append, List.cons_append, List.dropWhile_cons_of_neg htest]
      have hdropped : (piece.dropWhile test).length ≤ piece.length :=
        (List.dropWhile_sublist test).length_le
      simp only [List.length_cons, List.length_append]
      omega

/-- What stands after the last failing character. -/
theorem rtakeWhile_at_failure {test : Char → Bool} (before : Text) {after : Text} {c : Char}
    (hafter : ∀ d ∈ after, test d = true) (hfail : test c = false) :
    (before ++ c :: after).rtakeWhile test = after := by
  have hreversed : ∀ d ∈ after.reverse, test d = true :=
    fun d hd ↦ hafter d (List.mem_reverse.mp hd)
  rw [List.rtakeWhile, List.reverse_append, List.reverse_cons, List.append_assoc,
    List.singleton_append, takeWhile_at_failure hreversed hfail, List.reverse_reverse]

/-- What stands up to the last failing character. -/
theorem rdropWhile_at_failure {test : Char → Bool} (before : Text) {after : Text} {c : Char}
    (hafter : ∀ d ∈ after, test d = true) (hfail : test c = false) :
    (before ++ c :: after).rdropWhile test = before ++ [c] := by
  have hreversed : ∀ d ∈ after.reverse, test d = true :=
    fun d hd ↦ hafter d (List.mem_reverse.mp hd)
  rw [List.rdropWhile, List.reverse_append, List.reverse_cons, List.append_assoc,
    List.singleton_append, dropWhile_at_failure hreversed hfail, List.reverse_cons,
    List.reverse_reverse]

/-! ### The last occurrence of a character -/

/-- What stands after the last occurrence of a character, or the whole text. -/
def afterLast (mark : Char) (t : Text) : Text := t.rtakeWhile (fun c ↦ c ≠ mark)

theorem afterLast_of_not_mem {mark : Char} {t : Text} (hmark : mark ∉ t) :
    afterLast mark t = t := by
  rw [afterLast, List.rtakeWhile_eq_self_iff]
  intro c hc
  simpa using ne_of_mem_of_not_mem hc hmark

theorem afterLast_append_cons {mark : Char} (before : Text) {after : Text} (hmark : mark ∉ after) :
    afterLast mark (before ++ mark :: after) = after := by
  refine rtakeWhile_at_failure before (fun c hc ↦ ?_) (by simp)
  simpa using ne_of_mem_of_not_mem hc hmark

/-- A text is what its last mark leaves, or ends in a mark and that. -/
theorem afterLast_cases (mark : Char) (t : Text) :
    mark ∉ t ∧ afterLast mark t = t ∨
      mark ∉ afterLast mark t ∧ ∃ before, t = before ++ mark :: afterLast mark t := by
  by_cases hmark : mark ∈ t
  · obtain ⟨after, before, hsplit, hafter⟩ :=
      List.eq_append_cons_of_mem (List.mem_reverse.mpr hmark)
    have ht : t = before.reverse ++ mark :: after.reverse := by
      rw [← List.reverse_reverse t, hsplit]
      simp
    have hnot : mark ∉ after.reverse := by simpa using hafter
    have hlast : afterLast mark t = after.reverse := by rw [ht, afterLast_append_cons _ hnot]
    exact .inr ⟨hlast ▸ hnot, before.reverse, by rw [hlast]; exact ht⟩
  · exact .inl ⟨hmark, afterLast_of_not_mem hmark⟩

/-- A part with the mark hides what stands before it. -/
theorem afterLast_append_of_mem {mark : Char} (before : Text) {after : Text}
    (hmark : mark ∈ after) :
    afterLast mark (before ++ after) = afterLast mark after := by
  rcases afterLast_cases mark after with ⟨hnot, -⟩ | ⟨hnot, front, hsplit⟩
  · exact absurd hmark hnot
  · conv_lhs => rw [hsplit, ← List.append_assoc]
    exact afterLast_append_cons _ hnot

/-- A part without the mark stays behind what the rest leaves. -/
theorem afterLast_append {mark : Char} {before after : Text} (hmark : mark ∉ after) :
    afterLast mark (before ++ after) = afterLast mark before ++ after := by
  rcases afterLast_cases mark before with ⟨hnot, hsame⟩ | ⟨hnot, front, hsplit⟩
  · rw [hsame]
    exact afterLast_of_not_mem (by simp [hnot, hmark])
  · conv_lhs => rw [hsplit, List.append_assoc, List.cons_append]
    exact afterLast_append_cons _ (by simp [hnot, hmark])

/-! ### Replacing a part -/

/-- The occurrences of a part, from left to right, replaced behind some characters that belong to an
occurrence already. -/
def replaceFrom (old new : Text) : ℕ → Text → Text
  | _, [] => []
  | skip + 1, _ :: rest => replaceFrom old new skip rest
  | 0, c :: rest =>
    if old <+: c :: rest then new ++ replaceFrom old new (old.length - 1) rest
    else c :: replaceFrom old new 0 rest

/-- `t.replace(old, new)` for a part that is not empty. -/
def replaceAll (old new t : Text) : Text := replaceFrom old new 0 t

section Replace

variable {old new : Text} {mark : Char}

@[simp] theorem replaceAll_nil : replaceAll old new [] = [] := rfl

/-- A part does not reach over a character that is not in it. -/
theorem prefix_append_cons_iff (hmark : mark ∉ old) (before after : Text) :
    old <+: before ++ mark :: after ↔ old <+: before := by
  refine ⟨fun hold ↦ ?_, fun hold ↦ hold.trans (List.prefix_append _ _)⟩
  rcases List.prefix_or_prefix_of_prefix hold (List.prefix_append before (mark :: after)) with
    hshort | ⟨more, rfl⟩
  · exact hshort
  · have hmore : more <+: mark :: after := (List.prefix_append_right_inj before).mp hold
    cases more with
    | nil => rw [List.append_nil]
    | cons c rest =>
      obtain ⟨rfl, -⟩ := List.cons_prefix_cons.mp hmore
      exact absurd (List.mem_append_right _ List.mem_cons_self) hmark

theorem replaceFrom_append_cons (hold : old ≠ []) (hmark : mark ∉ old) {skip : ℕ} {before : Text}
    (hskip : skip ≤ before.length) (after : Text) :
    replaceFrom old new skip (before ++ mark :: after) =
      replaceFrom old new skip before ++ mark :: replaceAll old new after := by
  induction before generalizing skip with
  | nil =>
    obtain rfl : skip = 0 := Nat.le_zero.mp hskip
    have hnot : ¬ old <+: mark :: after := by
      rw [← List.nil_append (mark :: after), prefix_append_cons_iff hmark, List.prefix_nil]
      exact hold
    exact if_neg hnot
  | cons c rest ih =>
    cases skip with
    | succ skip =>
      rw [List.cons_append, replaceFrom, replaceFrom]
      exact ih (Nat.le_of_succ_le_succ hskip)
    | zero =>
      have hiff := prefix_append_cons_iff hmark (c :: rest) after
      rw [List.cons_append] at hiff ⊢
      rw [replaceFrom, replaceFrom]
      by_cases hprefix : old <+: c :: rest
      · have hlength := hprefix.length_le
        rw [List.length_cons] at hlength
        rw [if_pos (hiff.mpr hprefix), if_pos hprefix, ih (by omega), List.append_assoc]
      · rw [if_neg (mt hiff.mp hprefix), if_neg hprefix, ih (Nat.zero_le _), List.cons_append]

/-- Replacement leaves characters that are not in the part, and works on both sides of them. -/
theorem replaceAll_append (hold : old ≠ []) {middle : Text} (hmiddle : ∀ c ∈ middle, c ∉ old)
    (hsome : middle ≠ []) (before after : Text) :
    replaceAll old new (before ++ middle ++ after) =
      replaceAll old new before ++ middle ++ replaceAll old new after := by
  induction middle generalizing before with
  | nil => exact absurd rfl hsome
  | cons mark rest ih =>
    obtain ⟨hmark, hrest⟩ := List.forall_mem_cons.mp hmiddle
    have hfirst (tail : Text) : replaceAll old new (before ++ mark :: tail) =
        replaceAll old new before ++ mark :: replaceAll old new tail :=
      replaceFrom_append_cons hold hmark (Nat.zero_le _) tail
    cases rest with
    | nil => simpa using hfirst after
    | cons next others =>
      have htail := ih hrest (by simp) []
      rw [replaceAll_nil, List.nil_append] at htail
      rw [List.append_assoc, List.cons_append, hfirst, htail]
      simp

theorem replaceFrom_length (t : Text) : replaceFrom old new t.length t = [] := by
  induction t with
  | nil => rfl
  | cons c rest ih => exact ih

/-- The part itself is replaced. -/
theorem replaceAll_self (hold : old ≠ []) : replaceAll old new old = new := by
  obtain ⟨c, rest, rfl⟩ := List.exists_cons_of_ne_nil hold
  rw [replaceAll, replaceFrom, if_pos (List.prefix_refl _), List.length_cons, Nat.add_sub_cancel,
    replaceFrom_length, List.append_nil]

end Replace

end Ec2Wrappers.Foundations
