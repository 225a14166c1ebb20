import Ec2Wrappers.Foundations.Text
import Ec2Wrappers.Foundations.Transducers

/-!
# The body filters of the proxy

A body filter gets the data of a message in the pieces in which it arrives. It may leave the end of
the data in its buffer, and gets it back in front of the next piece; with the last piece the buffer
is undefined. `BodyFilter.transducer` is a filter with its buffer.

`lines` and `tags` only decide what stays in the buffer, as `splitComplete` does for `complete`, so
that none of them changes a body (`computes_keeping`), and what counts is what the next filter gets.
Of `lines`, it gets whole lines, and what is held back has no line end (`lines_pass_whole`). Of
`tags`, it gets nothing before the last pass that ends inside a tag, whatever the pieces, exactly
when no `<` follows another one before the `>` (`tags_pass_closed_iff`): the filter looks for the
last `<` only.

In the paragraph mode `lines` looks at `$1` after a match that may have failed. Where an earlier
match of another string has left something there, that takes the place of the data; only where
nothing is left does the filter keep the body (`splits_paragraphs_iff`).

`$message` and `$protocol` are left out, as these filters do not read them.
-/

set_option autoImplicit false
set_option relaxedAutoImplicit false

namespace Ec2Wrappers.Microproxy

open Foundations

/-! ### Filters and their buffers -/

/-- A filter object with its own state: `filter` on the data, with the buffer defined or not, leaves
new data and a new buffer. -/
structure BodyFilter where
  State : Type
  filter : State → Text → Bool → State × Text × Text
  willModify : Bool

namespace BodyFilter

/-- The filter with its buffer, as the stack calls it. -/
def transducer (object : BodyFilter) : Transducer (object.State × Text) Char Char where
  feed state piece :=
    let (own, data, buffer) := object.filter state.1 (state.2 ++ piece) true
    ((own, buffer), data)
  finish state last := (object.filter state.1 (state.2 ++ last) false).2.1

/-- The filters that begin with `return if not defined $buffer` and split the data otherwise. -/
abbrev keeping (split : Text → Text × Text) : BodyFilter where
  State := Unit
  filter _ data bufferDefined := if bufferDefined then ((), split data) else ((), data, [])
  willModify := false

/-- The last position at which the text has the substring. -/
def rindex (sub : Text) : Text → Option ℕ
  | [] => if sub = [] then some 0 else none
  | c :: t =>
    match rindex sub t with
    | some index => some (index + 1)
    | none => if sub.isPrefixOf (c :: t) then some 0 else none

/-- `lines` with an end of line that is not empty. -/
def splitLines (eol data : Text) : Text × Text :=
  match rindex eol data with
  | none => ([], data)
  | some index => (data.take (index + eol.length), data.drop (index + eol.length))

/-- Where the last paragraph of the data begins, `/^(.*\n\n)([^\n].*)/s`: behind two newlines, and
with another character. -/
def paragraphStart : Text → Option ℕ
  | '\n' :: '\n' :: c :: t =>
    match paragraphStart ('\n' :: c :: t) with
    | some index => some (index + 1)
    | none => if c = '\n' then none else some 2
  | _ :: t => (paragraphStart t).map (· + 1)
  | [] => none

/-- `lines` with an empty end of line, for what `$1` and `$2` are from an earlier match. -/
def splitParagraphs (stale : Option (Text × Text)) (data : Text) : Text × Text :=
  match paragraphStart data with
  | some index => (data.take index, data.drop index)
  | none => stale.getD ([], data)

/-- `lines` with a record size. -/
def splitRecords (size : ℕ) (data : Text) : Text × Text :=
  let index := data.length - data.length % size
  (data.take index, data.drop index)

/-- `tags`: the test is `$idx > rindex( $$dataref, '>' )`, where an index may be `-1`. -/
def splitTags (data : Text) : Text × Text :=
  match rindex ['<'] data, rindex ['>'] data with
  | none, _ => (data, [])
  | some index, none => (data.take index, data.drop index)
  | some index, some closing =>
    if closing < index then (data.take index, data.drop index) else (data, [])

/-- `complete`. -/
def splitComplete (data : Text) : Text × Text := ([], data)

abbrev lines (eol : Text) : BodyFilter := keeping (splitLines eol)
abbrev paragraphs (stale : Option (Text × Text)) : BodyFilter := keeping (splitParagraphs stale)
abbrev records (size : ℕ) : BodyFilter := keeping (splitRecords size)
abbrev tags : BodyFilter := keeping splitTags

/-! ### Keeping a part of the data changes nothing -/

/-- The two parts are the data. -/
def Splits (split : Text → Text × Text) : Prop :=
  ∀ data, (split data).1 ++ (split data).2 = data

theorem splits_take_drop (cut : Text → ℕ) :
    Splits fun data ↦ (data.take (cut data), data.drop (cut data)) :=
  fun data ↦ List.take_append_drop (cut data) data

theorem splits_lines (eol : Text) : Splits (splitLines eol) := by
  intro data
  unfold splitLines
  split
  · rfl
  · exact List.take_append_drop _ _

theorem splits_records (size : ℕ) : Splits (splitRecords size) :=
  splits_take_drop fun data ↦ data.length - data.length % size

theorem splits_tags : Splits splitTags := by
  intro data
  unfold splitTags
  split
  · exact List.append_nil data
  · exact List.take_append_drop _ _
  · split_ifs
    · exact List.take_append_drop _ _
    · exact List.append_nil data

theorem splits_complete : Splits splitComplete := fun _ ↦ rfl

variable {split : Text → Text × Text}

theorem take_of_splits (hsplit : Splits split) (data : Text) :
    data.take (split data).1.length = (split data).1 ∧
      data.drop (split data).1.length = (split data).2 := by
  have hdata := hsplit data
  generalize split data = parts at hdata ⊢
  subst hdata
  exact ⟨List.take_left, List.drop_left⟩

/-- The filter holds back what the split puts into the buffer. -/
theorem feed_keeping (hsplit : Splits split) (first : Unit × Text) (second piece : Text)
    (hheld : first.2 = second) :
    ((keeping split).transducer.feed first piece).1.2 =
        ((Transducer.holding fun data ↦ (split data).1.length).feed second piece).1 ∧
      ((keeping split).transducer.feed first piece).2 =
        ((Transducer.holding fun data ↦ (split data).1.length).feed second piece).2 := by
  subst hheld
  obtain ⟨htake, hdrop⟩ := take_of_splits hsplit (first.2 ++ piece)
  exact ⟨hdrop.symm, htake.symm⟩

/-- A filter that only keeps a part of the data in the buffer leaves every body as it is. -/
theorem computes_keeping (hsplit : Splits split) :
    (keeping split).transducer.Computes ((), []) id := by
  intro pieces last
  refine Eq.trans ?_ (Transducer.computes_holding (fun data ↦ (split data).1.length) pieces last)
  exact Transducer.run_eq_of_simulates (fun first second ↦ first.2 = second)
    (feed_keeping hsplit) (fun first second last hheld ↦ by subst hheld; rfl) rfl pieces last

/-- One more piece: what is passed on of it, and the data at hand. -/
theorem outputs_keeping_concat (hsplit : Splits split) (pieces : List Text) (piece : Text) :
    ((keeping split).transducer.outputs ((), []) (pieces ++ [piece])).flatten =
        ((keeping split).transducer.outputs ((), []) pieces).flatten ++
          (split (((keeping split).transducer.after ((), []) pieces).2 ++ piece)).1 ∧
      ((keeping split).transducer.outputs ((), []) pieces).flatten ++
          (((keeping split).transducer.after ((), []) pieces).2 ++ piece) =
        (pieces ++ [piece]).flatten := by
  let cut : Text → ℕ := fun data ↦ (split data).1.length
  have hsame (pieces : List Text) := Transducer.outputs_of_simulates (u := Transducer.holding cut)
    (fun (first : Unit × Text) second ↦ first.2 = second) (feed_keeping hsplit)
    (rfl : ((), ([] : Text)).2 = []) pieces
  obtain ⟨houtputs, hheld⟩ := hsame pieces
  rw [(hsame (pieces ++ [piece])).1, houtputs, hheld]
  refine ⟨?_, ?_⟩
  · rw [Transducer.flatten_outputs_holding_concat, (take_of_splits hsplit _).1]
  · rw [← List.append_assoc, Transducer.flatten_outputs_holding, List.flatten_append,
      List.nil_append, List.flatten_singleton]

/-- What holds of the two parts of every split holds of what is passed on and of the buffer. -/
theorem outputs_keeping (passed held : Text → Prop)
    (hparts : ∀ data, passed (split data).1 ∧ held (split data).2) (buffer : Text)
    (hbuffer : held buffer) (pieces : List Text) :
    (∀ output ∈ (keeping split).transducer.outputs ((), buffer) pieces, passed output) ∧
      held ((keeping split).transducer.after ((), buffer) pieces).2 := by
  induction pieces generalizing buffer with
  | nil => exact ⟨fun _ houtput ↦ absurd houtput List.not_mem_nil, hbuffer⟩
  | cons piece rest ih =>
    obtain ⟨hpassed, hheld⟩ := hparts (buffer ++ piece)
    obtain ⟨houtputs, hafter⟩ := ih _ hheld
    exact ⟨List.forall_mem_cons.mpr ⟨hpassed, houtputs⟩, hafter⟩

/-! ### The last occurrence -/

theorem rindex_eq_none {sub : Text} (hsub : sub ≠ []) {t : Text} (hnone : rindex sub t = none)
    (index : ℕ) : ¬ sub <+: t.drop index := by
  induction t generalizing index with
  | nil =>
    rw [List.drop_nil, List.prefix_nil]
    exact hsub
  | cons c t ih =>
    rw [rindex] at hnone
    cases hrest : rindex sub t with
    | some found => simp [hrest] at hnone
    | none =>
      simp only [hrest, ite_eq_right_iff, reduceCtorEq, imp_false] at hnone
      cases index with
      | zero => simpa using hnone
      | succ index => exact ih hrest index

/-- The substring is at the index, and nowhere behind it. -/
theorem rindex_eq_some {sub : Text} (hsub : sub ≠ []) {t : Text} {index : ℕ}
    (hsome : rindex sub t = some index) :
    sub <+: t.drop index ∧ ∀ later, index < later → ¬ sub <+: t.drop later := by
  induction t generalizing index with
  | nil => simp [rindex, hsub] at hsome
  | cons c t ih =>
    rw [rindex] at hsome
    cases hrest : rindex sub t with
    | some found =>
      simp only [hrest, Option.some.injEq] at hsome
      subst hsome
      obtain ⟨hfound, hlast⟩ := ih hrest
      refine ⟨hfound, fun later hlater ↦ ?_⟩
      cases later with
      | zero => exact absurd hlater (Nat.not_lt_zero _)
      | succ later => exact hlast later (Nat.lt_of_succ_lt_succ hlater)
    | none =>
      simp only [hrest, Option.ite_none_right_eq_some, Option.some.injEq] at hsome
      obtain ⟨hhere, rfl⟩ := hsome
      refine ⟨by simpa using hhere, fun later hlater ↦ ?_⟩
      cases later with
      | zero => exact absurd hlater (Nat.not_lt_zero _)
      | succ later => exact rindex_eq_none hsub hrest later

/-- A substring somewhere is a substring at an index. -/
theorem exists_prefix_drop {sub t : Text} (hsub : sub <:+: t) :
    ∃ index, sub <+: t.drop index := by
  obtain ⟨before, after, rfl⟩ := hsub
  refine ⟨before.length, after, ?_⟩
  rw [List.append_assoc, List.drop_left]

/-! ### `lines` passes whole lines -/

/-- What is passed on is empty or ends in an end of line, and no end of line stays behind. -/
theorem splitLines_whole {eol : Text} (heol : eol ≠ []) (data : Text) :
    ((splitLines eol data).1 = [] ∨ eol <:+ (splitLines eol data).1) ∧
      ¬ eol <:+: (splitLines eol data).2 := by
  unfold splitLines
  split
  case h_1 hnone =>
    refine ⟨.inl rfl, fun hinfix ↦ ?_⟩
    obtain ⟨index, hindex⟩ := exists_prefix_drop hinfix
    exact rindex_eq_none heol hnone index hindex
  case h_2 index hsome =>
    obtain ⟨⟨rest, hrest⟩, hlast⟩ := rindex_eq_some heol hsome
    refine ⟨.inr ⟨data.take index, ?_⟩, fun hinfix ↦ ?_⟩
    · rw [List.take_add, ← hrest, List.take_left]
    · obtain ⟨later, hlater⟩ := exists_prefix_drop hinfix
      rw [List.drop_drop] at hlater
      have hpositive : 0 < eol.length := List.length_pos_of_ne_nil heol
      exact hlast _ (by omega) hlater

/-- However the body arrives, `lines` leaves it as it is; each piece that the next filter gets
before the last one is empty or ends in an end of line; and what is held back has none. -/
theorem lines_pass_whole {eol : Text} (heol : eol ≠ []) (pieces : List Text) (last : Text) :
    (lines eol).transducer.run ((), []) pieces last = pieces.flatten ++ last ∧
      (∀ output ∈ (lines eol).transducer.outputs ((), []) pieces, output = [] ∨ eol <:+ output) ∧
      ¬ eol <:+: ((lines eol).transducer.after ((), []) pieces).2 := by
  obtain ⟨hpassed, hheld⟩ := outputs_keeping (fun output ↦ output = [] ∨ eol <:+ output)
    (fun buffer ↦ ¬ eol <:+: buffer) (splitLines_whole heol) [] (by simpa using heol) pieces
  exact ⟨computes_keeping (splits_lines eol) pieces last, hpassed, hheld⟩

theorem lines_pass_whole_newline :
    ['\n'] ≠ [] ∧
      (lines ['\n']).transducer.outputs ((), []) ["a".toList, "b\nc".toList] =
        [[], "ab\n".toList] ∧
      ¬ ['\n'] <:+:
        ((lines ['\n']).transducer.after ((), []) ["a".toList, "b\nc".toList]).2 :=
  ⟨by decide, by decide +kernel,
    (lines_pass_whole (by decide) ["a".toList, "b\nc".toList] []).2.2⟩

/-- `lines` with a record size leaves a body as it is, passes whole records, and holds back less
than one. -/
theorem records_pass_whole {size : ℕ} (hsize : 0 < size) (pieces : List Text) (last : Text) :
    (records size).transducer.run ((), []) pieces last = pieces.flatten ++ last ∧
      (∀ output ∈ (records size).transducer.outputs ((), []) pieces, size ∣ output.length) ∧
      ((records size).transducer.after ((), []) pieces).2.length < size := by
  refine ⟨computes_keeping (splits_records size) pieces last, outputs_keeping
    (fun output ↦ size ∣ output.length) (fun buffer ↦ buffer.length < size)
    (fun data ↦ ⟨?_, ?_⟩) [] hsize pieces⟩
  · rw [splitRecords, List.length_take, Nat.min_eq_left (Nat.sub_le _ _)]
    exact Nat.dvd_sub_mod _
  · have hle := Nat.mod_le data.length size
    rw [splitRecords, List.length_drop, Nat.sub_sub_self hle]
    exact Nat.mod_lt _ hsize

/-! ### The paragraph mode -/

/-- In front of a paragraph there are two newlines. -/
theorem newlines_of_paragraphStart {data : Text} {index : ℕ}
    (hstart : paragraphStart data = some index) : ['\n', '\n'] <:+ data.take index := by
  induction data using paragraphStart.induct generalizing index with
  | case1 c t found hfound ih =>
    rw [paragraphStart, hfound, Option.some.injEq] at hstart
    subst hstart
    exact (ih hfound).trans (List.suffix_cons _ _)
  | case2 t hnone ih =>
    simp [paragraphStart, hnone] at hstart
  | case3 c t hnone hother ih =>
    simp only [paragraphStart, hnone, if_neg hother, Option.some.injEq] at hstart
    subst hstart
    exact List.suffix_rfl
  | case4 head t hhead ih =>
    rw [paragraphStart] at hstart
    · obtain ⟨found, hfound, rfl⟩ := Option.map_eq_some_iff.mp hstart
      exact (ih hfound).trans (List.suffix_cons _ _)
    · exact hhead
  | case5 => cases hstart

/-- The two parts are the data exactly when no earlier match has left anything. -/
theorem splits_paragraphs_iff (stale : Option (Text × Text)) :
    Splits (splitParagraphs stale) ↔ stale = none := by
  constructor
  · intro hsplits
    cases stale with
    | none => rfl
    | some left =>
      -- the parts are the same for all data without a paragraph
      have hempty : left.1 ++ left.2 = [] := hsplits []
      have hletter : left.1 ++ left.2 = ['a'] := hsplits ['a']
      exact absurd (hempty.symm.trans hletter) (List.cons_ne_nil _ _).symm
  · rintro rfl data
    unfold splitParagraphs
    split
    · exact List.take_append_drop _ _
    · rfl

/-- Where no match has left anything, `lines` in the paragraph mode leaves a body as it is, and each
piece that the next filter gets before the last one is empty or ends in two newlines. -/
theorem paragraphs_pass_whole (pieces : List Text) (last : Text) :
    (paragraphs none).transducer.run ((), []) pieces last = pieces.flatten ++ last ∧
      ∀ output ∈ (paragraphs none).transducer.outputs ((), []) pieces,
        output = [] ∨ ['\n', '\n'] <:+ output := by
  refine ⟨computes_keeping ((splits_paragraphs_iff none).mpr rfl) pieces last,
    (outputs_keeping (fun output ↦ output = [] ∨ ['\n', '\n'] <:+ output) (fun _ ↦ True)
      (fun data ↦ ⟨?_, trivial⟩) [] trivial pieces).1⟩
  unfold splitParagraphs
  split
  case h_1 index hstart => exact .inr (newlines_of_paragraphStart hstart)
  case h_2 => exact .inl rfl

/-! ### `tags` and tags that are open -/

theorem rindex_singleton_of_not_mem {mark : Char} {t : Text} (hmark : mark ∉ t) :
    rindex [mark] t = none := by
  induction t with
  | nil => rfl
  | cons c t ih =>
    have hhead : mark ≠ c := List.ne_of_not_mem_cons hmark
    simp [rindex, ih (List.not_mem_of_not_mem_cons hmark), hhead]

theorem rindex_singleton {mark : Char} (before : Text) {after : Text} (hmark : mark ∉ after) :
    rindex [mark] (before ++ mark :: after) = some before.length := by
  induction before with
  | nil => simp [rindex, rindex_singleton_of_not_mem hmark]
  | cons c before ih => simp [rindex, ih]

/-- What `tags` does, by the last `<` of the data. -/
theorem splitTags_append_cons (before : Text) {after : Text} (hlast : '<' ∉ after) :
    splitTags (before ++ '<' :: after) =
      if '>' ∈ after then (before ++ '<' :: after, []) else (before, '<' :: after) := by
  rw [splitTags, rindex_singleton before hlast]
  rcases afterLast_cases '>' after with ⟨hopen, -⟩ | ⟨hclosing, middle, hafter⟩
  · rw [if_neg hopen]
    -- a `>` in front of the `<`, if there is one, is the last one
    rcases afterLast_cases '>' before with ⟨hnot, -⟩ | ⟨hnot, front, hbefore⟩
    · rw [rindex_singleton_of_not_mem (by simp [hnot, hopen])]
      simp
    · have hsplit : before ++ '<' :: after =
          front ++ '>' :: (afterLast '>' before ++ '<' :: after) := by
        conv_lhs => rw [hbefore]
        simp
      have hindex : rindex ['>'] (before ++ '<' :: after) = some front.length := by
        rw [hsplit]
        exact rindex_singleton front (by simp [hnot, hopen])
      have hless : front.length < before.length := by
        rw [hbefore]
        simp
      rw [hindex]
      simp [hless]
  · have hmem : '>' ∈ after := by
      rw [hafter]
      simp
    have hsplit : before ++ '<' :: after =
        (before ++ '<' :: middle) ++ '>' :: afterLast '>' after := by
      conv_lhs => rw [hafter]
      simp
    have hindex : rindex ['>'] (before ++ '<' :: after) =
        some (before ++ '<' :: middle).length := by
      rw [hsplit]
      exact rindex_singleton _ hclosing
    rw [if_pos hmem, hindex]
    simp

theorem splitTags_of_not_mem {data : Text} (hnone : '<' ∉ data) : splitTags data = (data, []) := by
  rw [splitTags, rindex_singleton_of_not_mem hnone]

/-- Every `<` in the text has a `>` behind it. -/
def Closed (t : Text) : Prop := ∀ before after, t = before ++ '<' :: after → '>' ∈ after

/-- Between two `<` there is a `>`. -/
def TagsApart (t : Text) : Prop :=
  ∀ before between after, t = before ++ '<' :: (between ++ '<' :: after) → '>' ∈ between

theorem closed_nil : Closed [] := fun before after hsplit ↦ absurd hsplit (by simp)

theorem TagsApart.of_start {t whole : Text} (hwhole : TagsApart whole) (hstart : t <+: whole) :
    TagsApart t := by
  obtain ⟨rest, rfl⟩ := hstart
  rintro before between after rfl
  exact hwhole before between (after ++ rest) (by simp)

/-- Text without a `<` behind closes nothing and opens nothing. -/
theorem Closed.append {t more : Text} (hclosed : Closed t) (hmore : '<' ∉ more) :
    Closed (t ++ more) := by
  intro before after hsplit
  rcases List.append_eq_append_iff.mp hsplit with ⟨middle, rfl, hrest⟩ | ⟨middle, rfl, hrest⟩
  · exact absurd (hrest ▸ by simp : '<' ∈ more) hmore
  · cases middle with
    | nil => exact absurd (by rw [← List.nil_append more, ← hrest]; simp) hmore
    | cons head middle =>
      obtain ⟨rfl, rfl⟩ := List.cons.inj hrest
      exact List.mem_append_left _ (hclosed before middle rfl)

/-- What has been passed on stays closed, where the tags are apart. -/
theorem closed_splitTags {passed data : Text} (hclosed : Closed passed)
    (hapart : TagsApart (passed ++ data)) : Closed (passed ++ (splitTags data).1) := by
  rcases afterLast_cases '<' data with ⟨hnone, -⟩ | ⟨hlast, before, hdata⟩
  · rw [splitTags_of_not_mem hnone]
    exact hclosed.append hnone
  · generalize afterLast '<' data = after at hdata hlast
    subst hdata
    rw [splitTags_append_cons before hlast]
    split_ifs with hclosing
    · -- the `>` is behind the last `<`, so it is behind every other one
      intro front back hfront
      rw [← List.append_assoc] at hfront
      rcases List.append_eq_append_iff.mp hfront with ⟨middle, -, hrest⟩ | ⟨middle, -, hrest⟩
      · cases middle with
        | nil => exact (List.cons.inj hrest).2 ▸ hclosing
        | cons head middle =>
          obtain ⟨-, rfl⟩ := List.cons.inj hrest
          exact absurd (by simp) hlast
      · cases middle with
        | nil => exact (List.cons.inj hrest).2.symm ▸ hclosing
        | cons head middle =>
          obtain ⟨-, rfl⟩ := List.cons.inj hrest
          simp [hclosing]
    · intro front back hfront
      refine hapart front back after ?_
      rw [← List.append_assoc, hfront]
      simp

/-- Whatever pieces some beginning of the body has arrived in, what `tags` has passed on of it so
far does not end inside a tag: this holds exactly of the bodies in which no `<` follows another one
before the `>`. -/
theorem tags_pass_closed_iff (body : Text) :
    (∀ pieces : List Text, pieces.flatten <+: body →
        Closed (tags.transducer.outputs ((), []) pieces).flatten) ↔ TagsApart body := by
  constructor
  · rintro hclosed before between after rfl
    -- the piece ends in the second `<`, and `tags` holds back no more than that
    let piece : Text := (before ++ '<' :: between) ++ '<' :: []
    have hprefix : [piece].flatten <+: before ++ '<' :: (between ++ '<' :: after) :=
      ⟨after, by simp [piece]⟩
    have hpassed : Closed (tags.transducer.outputs ((), []) [piece]).flatten :=
      hclosed [piece] hprefix
    have houtputs : (tags.transducer.outputs ((), []) [piece]).flatten = (splitTags piece).1 :=
      List.append_nil _
    rw [houtputs, splitTags_append_cons _ List.not_mem_nil, if_neg List.not_mem_nil] at hpassed
    exact hpassed before between rfl
  · intro hapart pieces
    induction pieces using List.reverseRecOn with
    | nil => exact fun _ ↦ closed_nil
    | append_singleton pieces piece ih =>
      intro hprefix
      obtain ⟨houtputs, hdata⟩ := outputs_keeping_concat splits_tags pieces piece
      have hbefore : pieces.flatten <+: body :=
        (List.prefix_append _ [piece].flatten).trans (List.flatten_append ▸ hprefix)
      refine (congrArg Closed houtputs).mpr (closed_splitTags (ih hbefore) ?_)
      exact hapart.of_start (hdata ▸ hprefix)

end BodyFilter

end Ec2Wrappers.Microproxy
