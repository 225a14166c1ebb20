import Ec2Wrappers.Foundations.Text
import Mathlib.Data.List.Basic

/-!
# Texts in a shell

How a shell takes the value of a variable apart. An unquoted expansion is split into words at white
space (`fields`), a parameter expansion cuts a value at its first or last mark (`afterFirst`,
`beforeLast`), and `tr` replaces one character by another (`translate`). Words with a mark between
them that none of them contains are read back (`fields_translate_intercalate`), and so are the two
sides of a mark that stands in a word once.

How a shell reads a simple command: up to the next newline outside quotes, as words of ordinary
characters, of characters between single quotes and of characters behind a backslash
(`readCommand`). The reader refuses everything else, so that a command it reads has no expansion, no
redirection and no second command in it. `ReadsAs` is what a part of a command is worth wherever it
stands, and `readCommand_joined` reads parts with blanks between them. `readExport` is the command
`export` with its assignments.
-/

set_option autoImplicit false
set_option relaxedAutoImplicit false

namespace Ec2Wrappers.Foundations.Shell

/-! ### Words of an unquoted expansion -/

/-- The white space at which an unquoted expansion is split. -/
def IsBlank (c : Char) : Prop := c = ' ' ∨ c = '\t' ∨ c = '\n'

instance (c : Char) : Decidable (IsBlank c) := inferInstanceAs (Decidable (_ ∨ _ ∨ _))

/-- The words of an unquoted expansion that has no pattern in it. -/
def fields (t : Text) : List Text := (t.splitOnP fun c ↦ IsBlank c).filter fun word ↦ word ≠ []

/-- `tr old new`. -/
def translate (old new : Char) (t : Text) : Text := t.map fun c ↦ if c = old then new else c

section Fields

variable {mark : Char} {word : Text}

/-- A word with a blank behind it is the first one. -/
theorem fields_append_cons (hsome : word ≠ []) (hword : ∀ c ∈ word, ¬ IsBlank c) {blank : Char}
    (hblank : IsBlank blank) (rest : Text) :
    fields (word ++ blank :: rest) = word :: fields rest := by
  have hfirst : (word ++ blank :: rest).splitOnP (fun c ↦ IsBlank c) =
      word :: rest.splitOnP fun c ↦ IsBlank c :=
    List.splitOnP_append_cons_of_forall_mem (fun c hc ↦ decide_eq_false (hword c hc)) blank
      (decide_eq_true hblank) rest
  rw [fields, hfirst, List.filter_cons_of_pos (by simpa using hsome), fields]

/-- A word is its only word. -/
theorem fields_word (hsome : word ≠ []) (hword : ∀ c ∈ word, ¬ IsBlank c) :
    fields word = [word] := by
  rw [fields, List.splitOnP_eq_singleton fun c hc ↦ decide_eq_false (hword c hc),
    List.filter_cons_of_pos (by simpa using hsome), List.filter_nil]

theorem translate_append (old new : Char) (first second : Text) :
    translate old new (first ++ second) = translate old new first ++ translate old new second :=
  List.map_append

/-- A text without the character stays as it is. -/
theorem translate_of_not_mem {old : Char} (new : Char) {t : Text} (hnone : old ∉ t) :
    translate old new t = t :=
  (List.map_congr_left fun _ hc ↦ if_neg (ne_of_mem_of_not_mem hc hnone)).trans (List.map_id t)

/-- Words with a mark between them are read back when the mark becomes a blank. -/
theorem fields_translate_intercalate {words : List Text}
    (hwords : ∀ word ∈ words, word ≠ [] ∧ mark ∉ word ∧ ∀ c ∈ word, ¬ IsBlank c) :
    fields (translate mark '\n' ([mark].intercalate words)) = words := by
  induction words with
  | nil => rfl
  | cons word rest ih =>
    obtain ⟨⟨hsome, hmark, hword⟩, hrest⟩ := List.forall_mem_cons.mp hwords
    cases rest with
    | nil =>
      rw [List.intercalate_singleton, translate_of_not_mem _ hmark]
      exact fields_word hsome hword
    | cons second others =>
      have hhead (tail : Text) :
          translate mark '\n' (mark :: tail) = '\n' :: translate mark '\n' tail := by
        rw [translate, List.map_cons, if_pos rfl]
        rfl
      rw [List.intercalate_cons_cons, List.append_assoc, List.singleton_append, translate_append,
        translate_of_not_mem _ hmark, hhead,
        fields_append_cons hsome hword (.inr (.inr rfl)), ih hrest]

end Fields

/-! ### Parameter expansions -/

/-- `${t%mark*}`: what stands before the last mark, or the whole text. -/
def beforeLast (mark : Char) (t : Text) : Text :=
  if mark ∈ t then (t.rdropWhile fun c ↦ c ≠ mark).dropLast else t

/-- `${t#*mark}`: what stands after the first mark, or the whole text. -/
def afterFirst (mark : Char) (t : Text) : Text :=
  if mark ∈ t then (t.dropWhile fun c ↦ c ≠ mark).tail else t

section Expansions

variable {mark : Char} {before after : Text}

theorem beforeLast_append_cons (before : Text) (hafter : mark ∉ after) :
    beforeLast mark (before ++ mark :: after) = before := by
  have hcut : (before ++ mark :: after).rdropWhile (fun c ↦ c ≠ mark) = before ++ [mark] := by
    refine rdropWhile_at_failure before (fun c hc ↦ ?_) (by simp)
    simpa using ne_of_mem_of_not_mem hc hafter
  rw [beforeLast, if_pos (by simp), hcut, List.dropLast_concat]

theorem afterFirst_append_cons (hbefore : mark ∉ before) (after : Text) :
    afterFirst mark (before ++ mark :: after) = after := by
  have hcut : (before ++ mark :: after).dropWhile (fun c ↦ c ≠ mark) = mark :: after := by
    refine dropWhile_at_failure (fun c hc ↦ ?_) (by simp)
    simpa using ne_of_mem_of_not_mem hc hbefore
  rw [afterFirst, if_pos (by simp), hcut, List.tail_cons]

end Expansions

/-! ### Simple commands -/

/-- The single quote. -/
def singleQuote : Char := Char.ofNat 39

/-- What the next character is read as. -/
inductive Quoting
  | unquoted
  | single
  | escaped
  deriving DecidableEq, Repr

/-- The characters that stand for themselves outside quotes, those of names and of the marks that
are never special. -/
def IsOrdinary (c : Char) : Prop := c.isAlphanum = true ∨ c ∈ "_=,./:@%+-".toList

instance (c : Char) : Decidable (IsOrdinary c) := inferInstanceAs (Decidable (_ ∨ _))

/-- The word so far with more characters; no word has been begun at first. -/
def extend (word : Option Text) (more : Text) : Option Text := some (word.getD [] ++ more)

/-- A character between single quotes: the quote itself ends them, stands behind a backslash, and
begins them again. -/
def quoteEscape (c : Char) : Text :=
  if c = singleQuote then [singleQuote, '\\', singleQuote, singleQuote] else [c]

/-- A text in single quotes. -/
def singleQuoted (t : Text) : Text := singleQuote :: t.flatMap quoteEscape ++ [singleQuote]

/-- The words of a simple command, and what follows its newline. -/
def readCommand : Quoting → Option Text → Text → Option (List Text × Text)
  | .unquoted, word, [] => some (word.toList, [])
  | _, _, [] => none
  | .single, word, c :: rest =>
    if c = singleQuote then readCommand .unquoted word rest
    else if c = Char.ofNat 0 then none
    else readCommand .single (extend word [c]) rest
  | .escaped, word, c :: rest =>
    if c = Char.ofNat 0 then none
    else if c = '\n' then readCommand .unquoted word rest
    else readCommand .unquoted (extend word [c]) rest
  | .unquoted, word, c :: rest =>
    if c = '\n' then some (word.toList, rest)
    else if IsBlank c then do
      let (words, after) ← readCommand .unquoted none rest
      return (word.toList ++ words, after)
    else if c = singleQuote then readCommand .single (extend word []) rest
    else if c = '\\' then readCommand .escaped word rest
    else if IsOrdinary c then readCommand .unquoted (extend word [c]) rest
    else none

/-- Wherever the part stands in a command, it makes these characters of a word. -/
def ReadsAs (part value : Text) : Prop := ∀ word rest,
  readCommand .unquoted word (part ++ rest) = readCommand .unquoted (extend word value) rest

section Commands

variable {word : Option Text} {part value : Text}

theorem extend_extend (word : Option Text) (first second : Text) :
    extend (extend word first) second = extend word (first ++ second) := by
  simp [extend, List.append_assoc]

theorem readCommand_newline (word : Option Text) (rest : Text) :
    readCommand .unquoted word ('\n' :: rest) = some (word.toList, rest) := rfl

/-- A blank ends a word. -/
theorem readCommand_blank (word : Option Text) {rest after : Text} {words : List Text}
    (hrest : readCommand .unquoted none rest = some (words, after)) :
    readCommand .unquoted word (' ' :: rest) = some (word.toList ++ words, after) := by
  have hblank : readCommand .unquoted word (' ' :: rest) = (do
      let (words, after) ← readCommand .unquoted none rest
      return (word.toList ++ words, after)) := rfl
  rw [hblank, hrest]
  rfl

/-- A part with a part behind it. -/
theorem ReadsAs.append {second other : Text} (hfirst : ReadsAs part value)
    (hsecond : ReadsAs second other) : ReadsAs (part ++ second) (value ++ other) := by
  intro word rest
  rw [List.append_assoc, hfirst, hsecond, extend_extend]

/-- Ordinary characters stand for themselves. -/
theorem readsAs_ordinary (hsome : part ≠ []) (hordinary : ∀ c ∈ part, IsOrdinary c) :
    ReadsAs part part := by
  have hone {c : Char} (hc : IsOrdinary c) : ReadsAs [c] [c] := by
    intro word rest
    have hplain : c ≠ '\n' ∧ ¬ IsBlank c ∧ c ≠ singleQuote ∧ c ≠ '\\' := by
      refine ⟨?_, ?_, ?_, ?_⟩
      · rintro rfl
        exact absurd hc (by decide)
      · rintro (rfl | rfl | rfl) <;> exact absurd hc (by decide)
      · rintro rfl
        exact absurd hc (by decide)
      · rintro rfl
        exact absurd hc (by decide)
    obtain ⟨hnewline, hblank, hquote, hbackslash⟩ := hplain
    rw [List.singleton_append, readCommand, if_neg hnewline, if_neg hblank, if_neg hquote,
      if_neg hbackslash, if_pos hc]
  induction part with
  | nil => exact absurd rfl hsome
  | cons c rest ih =>
    obtain ⟨hc, hrest⟩ := List.forall_mem_cons.mp hordinary
    by_cases hempty : rest = []
    · exact hempty ▸ hone hc
    · exact (hone hc).append (ih hempty hrest)

/-- Between single quotes every character but the quote and NUL stands for itself; a quote is
written as the end of the quotes, an escaped quote and a new beginning. -/
theorem readCommand_single (hnul : Char.ofNat 0 ∉ value) (before rest : Text) :
    readCommand .single (some before) (value.flatMap quoteEscape ++ rest) =
      readCommand .single (some (before ++ value)) rest := by
  induction value generalizing before with
  | nil => rw [List.flatMap_nil, List.nil_append, List.append_nil]
  | cons c others ih =>
    obtain ⟨hc, hothers⟩ := not_or.mp (mt List.mem_cons.mpr hnul)
    have hword : before ++ c :: others = (before ++ [c]) ++ others := by simp
    rw [hword, ← ih hothers, List.flatMap_cons, List.append_assoc, quoteEscape]
    split_ifs with hquote
    · have hescaped (tail : Text) : readCommand .single (some before)
          ([singleQuote, '\\', singleQuote, singleQuote] ++ tail) =
          readCommand .single (some (before ++ [singleQuote] ++ [])) tail := rfl
      rw [hescaped, hquote, List.append_nil]
    · rw [List.singleton_append, readCommand, if_neg hquote, if_neg (Ne.symm hc)]
      rfl

/-- A quoted text reads as the text. -/
theorem readsAs_singleQuoted (hnul : Char.ofNat 0 ∉ value) :
    ReadsAs (singleQuoted value) value := by
  intro word rest
  have hbegin (tail : Text) : readCommand .unquoted word (singleQuote :: tail) =
      readCommand .single (some (word.getD [] ++ [])) tail := rfl
  have hend (before : Text) : readCommand .single (some before) (singleQuote :: rest) =
      readCommand .unquoted (some before) rest := rfl
  rw [singleQuoted, List.append_assoc, List.cons_append, hbegin, List.append_nil,
    readCommand_single hnul, List.singleton_append, hend, extend]

end Commands

/-! ### Parts with blanks between them -/

/-- The parts one after the other, each with a blank behind it. -/
def joined (parts : List Text) : Text := parts.flatMap fun part ↦ part ++ [' ']

/-- Parts with blanks between them are the words of the command. -/
theorem readCommand_joined {parts words : List Text} (hparts : List.Forall₂ ReadsAs parts words)
    (rest : Text) : readCommand .unquoted none ((joined parts).dropLast ++ '\n' :: rest) =
      some (words, rest) := by
  induction hparts with
  | nil => rfl
  | @cons part word others words hpart hothers ih =>
    cases hothers with
    | nil =>
      have honly : (joined [part]).dropLast = part := by
        rw [joined, List.flatMap_singleton, List.dropLast_concat]
      rw [honly, hpart, readCommand_newline]
      simp [extend]
    | @cons second other parts words hsecond htail =>
      have hmore : (joined (part :: second :: parts)).dropLast =
          part ++ ' ' :: (joined (second :: parts)).dropLast := by
        have hsome : joined (second :: parts) ≠ [] := by simp [joined]
        rw [joined, List.flatMap_cons, ← joined, List.append_assoc, List.singleton_append,
          List.dropLast_append_of_ne_nil (by simp), List.dropLast_cons_of_ne_nil hsome]
      rw [hmore, List.append_assoc, List.cons_append, hpart, readCommand_blank _ ih]
      simp [extend]

/-! ### The command `export` -/

/-- The characters of names. -/
def IsNameCharacter (c : Char) : Prop := c.isAlphanum = true ∨ c = '_'

instance (c : Char) : Decidable (IsNameCharacter c) := inferInstanceAs (Decidable (_ ∨ _))

/-- The names of variables. -/
def IsIdentifier (name : Text) : Prop :=
  name ≠ [] ∧ (∀ c ∈ name, IsNameCharacter c) ∧ ∀ c ∈ name.head?, c.isDigit = false

instance (name : Text) : Decidable (IsIdentifier name) :=
  -- the tests go through the name, not through all characters
  haveI : Decidable (∀ c ∈ name, IsNameCharacter c) := decidableAllCharacters IsNameCharacter name
  haveI : Decidable (∀ c ∈ name.head?, c.isDigit = false) := Option.decidableForallMem _
  inferInstanceAs (Decidable (_ ∧ (∀ _ ∈ name, _) ∧ _))

/-- An argument of `export`: the name, and the value if there is one. -/
def readAssignment (argument : Text) : Option (Text × Option Text) :=
  let name := argument.takeWhile fun c ↦ c ≠ '='
  if IsIdentifier name then
    some (name, if '=' ∈ argument then some (afterFirst '=' argument) else none)
  else none

/-- The assignments of the command `export`. -/
def exported : List Text → Option (List (Text × Text))
  | [] => none
  | command :: arguments =>
    if command = "export".toList then do
      let assignments ← arguments.mapM readAssignment
      return assignments.filterMap fun assignment ↦ assignment.2.map (assignment.1, ·)
    else none

/-- The assignments of the command `export` at the beginning of a text, and what follows it. -/
def readExport (t : Text) : Option (List (Text × Text) × Text) := do
  let (words, rest) ← readCommand .unquoted none t
  let assignments ← exported words
  return (assignments, rest)

/-- The values of the variables, for those that are set. -/
abbrev Variables := Text → Option Text

/-- The variables after some assignments. -/
def Variables.assign (store : Variables) (assignments : List (Text × Text)) : Variables :=
  assignments.foldl
    (fun store assignment ↦ Function.update store assignment.1 (some assignment.2)) store

section Export

variable {name value : Text}

/-- There is no equals sign in a name. -/
theorem IsIdentifier.not_mem_equals (hname : IsIdentifier name) : '=' ∉ name :=
  fun hmem ↦ absurd (hname.2.1 _ hmem) (by decide)

/-- An assignment is read as its name and its value. -/
theorem readAssignment_append_cons (hname : IsIdentifier name) (value : Text) :
    readAssignment (name ++ '=' :: value) = some (name, some value) := by
  have hmark := hname.not_mem_equals
  have hcut : (name ++ '=' :: value).takeWhile (fun c ↦ c ≠ '=') = name :=
    takeWhile_at_failure (fun c hc ↦ by simpa using ne_of_mem_of_not_mem hc hmark) (by simp)
  rw [readAssignment, hcut, if_pos hname, if_pos (by simp), afterFirst_append_cons hmark]

/-- The characters of names are ordinary. -/
theorem IsNameCharacter.isOrdinary {c : Char} (hc : IsNameCharacter c) : IsOrdinary c :=
  hc.imp_right fun hunderscore ↦ by rw [hunderscore]; decide

/-- The command with some assignments. -/
theorem exported_assignments {assignments : List (Text × Text)}
    (hnames : ∀ assignment ∈ assignments, IsIdentifier assignment.1) :
    exported ("export".toList ::
      assignments.map fun assignment ↦ assignment.1 ++ '=' :: assignment.2) = some assignments := by
  have hread : (assignments.map fun assignment ↦ assignment.1 ++ '=' :: assignment.2).mapM
      readAssignment =
        some (assignments.map fun assignment ↦ (assignment.1, some assignment.2)) := by
    induction assignments with
    | nil => rfl
    | cons assignment others ih =>
      obtain ⟨hname, hothers⟩ := List.forall_mem_cons.mp hnames
      rw [List.map_cons, List.mapM_cons, readAssignment_append_cons hname, ih hothers]
      rfl
  rw [exported, if_pos rfl, hread, Option.bind_eq_bind, Option.bind_some, List.filterMap_map]
  exact congrArg some List.filterMap_some

/-- Parts that read as assignments, behind `export`, are these assignments. -/
theorem readExport_joined {assignments : List (Text × Text)} {parts : List Text}
    (hnames : ∀ assignment ∈ assignments, IsIdentifier assignment.1)
    (hparts : List.Forall₂ ReadsAs parts
      (assignments.map fun assignment ↦ assignment.1 ++ '=' :: assignment.2)) (rest : Text) :
    readExport ("export ".toList ++ (joined parts).dropLast ++ '\n' :: rest) =
      some (assignments, rest) := by
  have hwords := readCommand_joined hparts rest
  have hexport : ReadsAs "export".toList "export".toList := readsAs_ordinary (by decide) (by decide)
  have hcommand : readCommand .unquoted none
      ("export ".toList ++ ((joined parts).dropLast ++ '\n' :: rest)) = some ("export".toList ::
        assignments.map fun assignment ↦ assignment.1 ++ '=' :: assignment.2, rest) := by
    have hsplit (tail : Text) : "export ".toList ++ tail = "export".toList ++ ' ' :: tail := rfl
    rw [hsplit, hexport, readCommand_blank _ hwords]
    rfl
  rw [List.append_assoc, readExport, hcommand, Option.bind_eq_bind, Option.bind_some]
  simp only [exported_assignments hnames]
  rfl

/-- The variables that are not assigned keep their values. -/
theorem Variables.assign_of_not_mem (store : Variables) {assignments : List (Text × Text)}
    (hname : name ∉ assignments.map Prod.fst) :
    store.assign assignments name = store name := by
  induction assignments generalizing store with
  | nil => rfl
  | cons assignment rest ih =>
    obtain ⟨hne, hrest⟩ := not_or.mp (mt List.mem_cons.mpr hname)
    rw [Variables.assign, List.foldl_cons, ← Variables.assign, ih _ hrest,
      Function.update_of_ne hne]

/-- A variable has the value of its last assignment. -/
theorem Variables.assign_of_last (store : Variables) (before : List (Text × Text))
    {after : List (Text × Text)} (hlast : name ∉ after.map Prod.fst) :
    store.assign (before ++ (name, value) :: after) name = some value := by
  rw [Variables.assign, List.foldl_append, List.foldl_cons, ← Variables.assign,
    Variables.assign_of_not_mem _ hlast, Function.update_self]

/-- A variable that is assigned once has its value. -/
theorem Variables.assign_of_mem (store : Variables) {assignments : List (Text × Text)}
    (hnodup : (assignments.map Prod.fst).Nodup) (hmem : (name, value) ∈ assignments) :
    store.assign assignments name = some value := by
  obtain ⟨before, after, rfl⟩ := List.append_of_mem hmem
  rw [List.map_append, List.map_cons] at hnodup
  exact store.assign_of_last before (List.nodup_cons.mp (List.nodup_append.mp hnodup).2.1).1

end Export

end Ec2Wrappers.Foundations.Shell
