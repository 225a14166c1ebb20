import Ec2Wrappers.Foundations.Python
import Mathlib.Data.List.Nodup
import Mathlib.Logic.Function.Basic

/-!
# Command lines read with declared options

The parser of Python's `optparse` with interspersed arguments disabled: options are read up to the
first argument that is none, or up to `--`. A long option may be shortened as long as it stays the
only one, a short option may stand together with others, and an option that takes an argument takes
it from what is left of the same word, or else from the next one. `--help`, `-h` and `--version` end
the program.

What an option does with its arguments is its `OptAction`, which also carries the declared default,
so that an option that collects arguments has a list to begin with, or nothing. `values_eq` says
what an option holds at the end: what the command line gives it, or its default. The default does
not show that it is one.
-/

set_option autoImplicit false
set_option relaxedAutoImplicit false

namespace Ec2Wrappers.Foundations

/-! ### Options -/

/-- What an option holds. -/
inductive OptValue
  | text (value : Text)
  | texts (values : List Text)
  | flag (value : Bool)
  | number (value : ℤ)
  deriving DecidableEq, Repr

/-- What an option does with what it is given, with its default. -/
inductive OptAction
  | store (default : Option OptValue)
  | append (default : Option (List Text))
  | storeTrue (default : Option Bool)
  deriving DecidableEq, Repr

/-- A declared option. -/
structure OptionSpec where
  short : Option Char
  long : Text
  action : OptAction
  deriving DecidableEq, Repr

/-- The attribute that the option sets. -/
def OptionSpec.dest (option : OptionSpec) : Text :=
  option.long.map fun c ↦ if c = '-' then '_' else c

/-- The declared default. -/
def OptionSpec.default (option : OptionSpec) : Option OptValue :=
  match option.action with
  | .store default => default
  | .append default => default.map .texts
  | .storeTrue default => default.map .flag

/-- The option takes an argument. -/
def OptionSpec.takesValue (option : OptionSpec) : Bool :=
  match option.action with
  | .storeTrue _ => false
  | _ => true

/-- An option of a parser: a declared one, or one of those that every parser has. -/
inductive ParserOption
  | declared (option : OptionSpec)
  | help
  | version
  deriving DecidableEq, Repr

/-- The name after the two dashes. -/
def ParserOption.long : ParserOption → Text
  | .declared option => option.long
  | .help => "help".toList
  | .version => "version".toList

/-- The character after the dash. -/
def ParserOption.short : ParserOption → Option Char
  | .declared option => option.short
  | .help => some 'h'
  | .version => none

/-- The options of a parser. -/
def parserOptions (options : List OptionSpec) : List ParserOption :=
  .version :: .help :: options.map .declared

/-! ### Reading a command line -/

/-- What ends the program while the command line is read. -/
inductive ParserExit
  | noSuchOption (opt : Text)
  | ambiguousOption (opt : Text)
  | requiresArgument (option : OptionSpec)
  | takesNoValue (opt : Text)
  | incorrectNumberOfArguments
  | help
  | version
  deriving DecidableEq, Repr

/-- An option that is given, with its argument; the argument of a flag is empty. -/
structure Occurrence where
  option : OptionSpec
  argument : Text
  deriving DecidableEq, Repr

/-- The options that a word gives, and the option that takes its argument from the next word. -/
abbrev WordOptions := List Occurrence × Option OptionSpec

/-- `_match_long_opt`: the option of this name, or else the only one whose name it begins. -/
def matchLongOpt (options : List OptionSpec) (opt : Text) : Except ParserExit ParserOption :=
  match (parserOptions options).find? (·.long = opt) with
  | some option => .ok option
  | none =>
    match (parserOptions options).filter fun option ↦ opt.isPrefixOf option.long with
    | [] => .error (.noSuchOption opt)
    | [option] => .ok option
    | _ => .error (.ambiguousOption opt)

/-- What a long option gives, with the argument that stands behind its equals sign. -/
def giveLongOpt (opt : Text) : ParserOption → Option Text → Except ParserExit WordOptions
  | .declared option, some argument =>
    if option.takesValue then .ok ([⟨option, argument⟩], none) else .error (.takesNoValue opt)
  | .declared option, none =>
    if option.takesValue then .ok ([], some option) else .ok ([⟨option, []⟩], none)
  | .help, none => .error .help
  | .version, none => .error .version
  | _, some _ => .error (.takesNoValue opt)

/-- `_process_long_opt` for the word `"--" + body`. -/
def processLongOpt (options : List OptionSpec) (body : Text) : Except ParserExit WordOptions := do
  let option ← matchLongOpt options (body.takeWhile (· ≠ '='))
  giveLongOpt (body.takeWhile (· ≠ '=')) option (body.dropWhile (· ≠ '=')).tail?

/-- `_process_short_opts` for the word `"-" + characters`. -/
def processShortOpts (options : List OptionSpec) : Text → Except ParserExit WordOptions
  | [] => .ok ([], none)
  | c :: rest =>
    match (parserOptions options).find? (·.short = some c) with
    | none => .error (.noSuchOption ['-', c])
    | some .help => .error .help
    | some .version => .error .version
    | some (.declared option) =>
      if option.takesValue then
        if rest = [] then .ok ([], some option) else .ok ([⟨option, rest⟩], none)
      else do
        let (others, waiting) ← processShortOpts options rest
        return (⟨option, []⟩ :: others, waiting)

/-- The options that the word `"-" + c + characters` gives. -/
def processWord (options : List OptionSpec) (c : Char) (characters : Text) :
    Except ParserExit WordOptions :=
  if c = '-' then processLongOpt options characters else processShortOpts options (c :: characters)

/-- `_process_args` while an option may wait for its argument: the options of the words, and the
arguments that follow them. -/
def processArgs (options : List OptionSpec) :
    Option OptionSpec → List Text → Except ParserExit (List Occurrence × List Text)
  | none, [] => .ok ([], [])
  | none, ['-', '-'] :: rest => .ok ([], rest)
  | none, ('-' :: c :: characters) :: rest => do
    let (occurrences, waiting) ← processWord options c characters
    let (others, args) ← processArgs options waiting rest
    return (occurrences ++ others, args)
  | none, arg :: rest => .ok ([], arg :: rest)
  | some option, [] => .error (.requiresArgument option)
  | some option, argument :: rest => do
    let (others, args) ← processArgs options none rest
    return (⟨option, argument⟩ :: others, args)

/-- `parse_args`, up to the values. -/
def parseArgs (options : List OptionSpec) (words : List Text) :
    Except ParserExit (List Occurrence × List Text) :=
  processArgs options none words

/-- A flag given by its whole name. -/
theorem parseArgs_flag {options : List OptionSpec} {option : OptionSpec}
    (hfind : (parserOptions options).find? (·.long = option.long) = some (.declared option))
    (hflag : option.takesValue = false) (hname : option.long ≠ []) (hplain : '=' ∉ option.long) :
    parseArgs options ['-' :: '-' :: option.long] = .ok ([⟨option, []⟩], []) := by
  have htake : option.long.takeWhile (· ≠ '=') = option.long :=
    List.takeWhile_eq_self_iff.mpr fun c hc ↦ by simpa using ne_of_mem_of_not_mem hc hplain
  have hdrop : option.long.dropWhile (· ≠ '=') = [] :=
    List.dropWhile_eq_nil_iff.mpr fun c hc ↦ by simpa using ne_of_mem_of_not_mem hc hplain
  have hlong : processLongOpt options option.long = .ok ([⟨option, []⟩], none) := by
    rw [processLongOpt, htake, hdrop, matchLongOpt, hfind]
    change (if option.takesValue = true then _ else _) = _
    rw [hflag]
    rfl
  obtain ⟨c, characters, hcons⟩ := List.exists_cons_of_ne_nil hname
  rw [parseArgs, processArgs, processWord, if_pos rfl, hlong]
  · rfl
  · simp [hcons]

/-! ### The values of the options -/

/-- The attributes of the parsed options, those that are not `None`. -/
abbrev OptValues := Text → Option OptValue

/-- The texts that an option has collected so far. -/
def collected : Option OptValue → List Text
  | some (.texts values) => values
  | _ => []

/-- `take_action`: what an option holds after one occurrence. -/
def takeAction (occurrence : Occurrence) (value : Option OptValue) : OptValue :=
  match occurrence.option.action with
  | .store _ => .text occurrence.argument
  | .append _ => .texts (collected value ++ [occurrence.argument])
  | .storeTrue _ => .flag true

/-- The attributes after one occurrence. -/
def process (values : OptValues) (occurrence : Occurrence) : OptValues :=
  Function.update values occurrence.option.dest
    (some (takeAction occurrence (values occurrence.option.dest)))

/-- `get_default_values`. -/
def defaultValues (options : List OptionSpec) : OptValues := fun dest ↦
  (options.find? (·.dest = dest)).bind OptionSpec.default

/-- The arguments that some occurrences give an option. -/
def OptionSpec.argumentsIn (option : OptionSpec) (occurrences : List Occurrence) : List Text :=
  (occurrences.filter (·.option = option)).map Occurrence.argument

/-- What some occurrences make of an option that they give: the last argument, all of them behind
the default, or `True`. -/
def OptionSpec.given (option : OptionSpec) (occurrences : List Occurrence) : Option OptValue :=
  match (option.argumentsIn occurrences).getLast?, option.action with
  | none, _ => none
  | some last, .store _ => some (.text last)
  | some _, .append default =>
    some (.texts (default.getD [] ++ option.argumentsIn occurrences))
  | some _, .storeTrue _ => some (.flag true)

/-- One of the occurrences gives the option. -/
def OptionSpec.IsGiven (option : OptionSpec) (occurrences : List Occurrence) : Prop :=
  ∃ occurrence ∈ occurrences, occurrence.option = option

instance (option : OptionSpec) (occurrences : List Occurrence) :
    Decidable (option.IsGiven occurrences) :=
  inferInstanceAs (Decidable (∃ _ ∈ _, _))

/-- What is given is something exactly when some occurrence gives it. -/
theorem given_isSome_iff {option : OptionSpec} {occurrences : List Occurrence} :
    (option.given occurrences).isSome = true ↔ option.IsGiven occurrences := by
  have harguments : option.argumentsIn occurrences ≠ [] ↔ option.IsGiven occurrences := by
    simp [OptionSpec.argumentsIn, OptionSpec.IsGiven]
  rw [← harguments, OptionSpec.given]
  cases hlast : (option.argumentsIn occurrences).getLast? with
  | none => simpa using List.getLast?_eq_none_iff.mp hlast
  | some last =>
    have hnonempty : option.argumentsIn occurrences ≠ [] := by
      intro hempty
      rw [hempty] at hlast
      cases hlast
    refine iff_of_true ?_ hnonempty
    cases option.action <;> rfl

section Values

variable {option : OptionSpec} {occurrence : Occurrence} {before : List Occurrence}

/-- The arguments with one occurrence more. -/
theorem argumentsIn_concat : option.argumentsIn (before ++ [occurrence]) =
    option.argumentsIn before ++
      if occurrence.option = option then [occurrence.argument] else [] := by
  unfold OptionSpec.argumentsIn
  rw [List.filter_append, List.map_append]
  split_ifs with hsame
  · rw [List.filter_cons_of_pos (by simpa using hsame)]
    rfl
  · rw [List.filter_cons_of_neg (by simpa using hsame)]
    rfl

/-- One occurrence of the option takes what it held to what it holds. -/
theorem given_concat_self (argument : Text) :
    option.given (before ++ [⟨option, argument⟩]) =
      some (takeAction ⟨option, argument⟩ ((option.given before).or option.default)) := by
  have harguments : option.argumentsIn (before ++ [⟨option, argument⟩]) =
      option.argumentsIn before ++ [argument] := by
    rw [argumentsIn_concat, if_pos rfl]
  unfold OptionSpec.given takeAction OptionSpec.default
  rw [harguments, List.getLast?_concat]
  cases haction : option.action with
  | store default => rfl
  | storeTrue default => rfl
  | append default =>
    cases hlast : (option.argumentsIn before).getLast? with
    | none =>
      rw [List.getLast?_eq_none_iff.mp hlast]
      cases default <;> rfl
    | some last =>
      change some _ = some _
      rw [← List.append_assoc]
      rfl

/-- An occurrence of another option changes nothing. -/
theorem given_concat_other (hother : occurrence.option ≠ option) :
    option.given (before ++ [occurrence]) = option.given before := by
  unfold OptionSpec.given
  rw [argumentsIn_concat, if_neg hother, List.append_nil]

end Values

/-- At the end an option holds what the command line gives it, or its default. -/
theorem values_eq {options : List OptionSpec} (hdests : (options.map OptionSpec.dest).Nodup)
    {occurrences : List Occurrence} (hdeclared : ∀ occurrence ∈ occurrences,
      occurrence.option ∈ options) {option : OptionSpec} (hoption : option ∈ options) :
    occurrences.foldl process (defaultValues options) option.dest =
      (option.given occurrences).or option.default := by
  have hsame {other : OptionSpec} (hother : other ∈ options) (hdest : other.dest = option.dest) :
      other = option := List.inj_on_of_nodup_map hdests hother hoption hdest
  induction occurrences using List.reverseRecOn with
  | nil =>
    have hfind : options.find? (·.dest = option.dest) = some option := by
      cases hfound : options.find? (·.dest = option.dest) with
      | none =>
        have hnone := List.find?_eq_none.mp hfound option hoption
        simp at hnone
      | some found =>
        have hdest := List.find?_some hfound
        rw [hsame (List.mem_of_find?_eq_some hfound) (by simpa using hdest)]
    simp [defaultValues, hfind, OptionSpec.given, OptionSpec.argumentsIn]
  | append_singleton before last ih =>
    rw [List.forall_mem_append, List.forall_mem_singleton] at hdeclared
    obtain ⟨hbefore, hlast⟩ := hdeclared
    rw [List.foldl_append, List.foldl_cons, List.foldl_nil, process]
    by_cases hdest : last.option.dest = option.dest
    · obtain ⟨_, argument⟩ := last
      obtain rfl := hsame hlast hdest
      rw [Function.update_self, ih hbefore, given_concat_self, Option.some_or]
    · have hother : last.option ≠ option := fun heq ↦ hdest (congrArg OptionSpec.dest heq)
      rw [Function.update_of_ne (Ne.symm hdest), ih hbefore, given_concat_other hother]

/-! ### What is read are declared options -/

section Declared

variable {options : List OptionSpec} {occurrences : List Occurrence}
variable {waiting : Option OptionSpec}

/-- A word gives declared options only, and a declared option waits for its argument. -/
def DeclaredIn (options : List OptionSpec) (word : WordOptions) : Prop :=
  (∀ occurrence ∈ word.1, occurrence.option ∈ options) ∧ ∀ option ∈ word.2, option ∈ options

/-- A parser option that is a declared one is among the declared ones. -/
theorem mem_of_declared_mem {option : OptionSpec}
    (hmem : ParserOption.declared option ∈ parserOptions options) : option ∈ options := by
  simpa [parserOptions] using hmem

/-- A name matches an option of the parser. -/
theorem mem_of_matchLongOpt {opt : Text} {option : ParserOption}
    (hmatch : matchLongOpt options opt = .ok option) : option ∈ parserOptions options := by
  unfold matchLongOpt at hmatch
  split at hmatch
  · next hfind =>
    cases hmatch
    exact List.mem_of_find?_eq_some hfind
  · split at hmatch
    · cases hmatch
    · next hfilter =>
      cases hmatch
      exact (List.mem_filter.mp (hfilter ▸ List.mem_cons_self)).1
    · cases hmatch

theorem declaredIn_processLongOpt {body : Text} {word : WordOptions}
    (hword : processLongOpt options body = .ok word) : DeclaredIn options word := by
  obtain ⟨option, hmatch, hword⟩ := ok_of_bind hword
  have hmem := mem_of_matchLongOpt hmatch
  unfold giveLongOpt at hword
  split at hword
  · next option argument =>
    split_ifs at hword
    cases hword
    simp [DeclaredIn, mem_of_declared_mem hmem]
  · next option =>
    split_ifs at hword <;> cases hword <;> simp [DeclaredIn, mem_of_declared_mem hmem]
  · cases hword
  · cases hword
  · cases hword

theorem declaredIn_processShortOpts {characters : Text} {word : WordOptions}
    (hword : processShortOpts options characters = .ok word) : DeclaredIn options word := by
  induction characters generalizing word with
  | nil =>
    cases hword
    simp [DeclaredIn]
  | cons c rest ih =>
    rw [processShortOpts] at hword
    split at hword
    · cases hword
    · cases hword
    · cases hword
    · next option hfind =>
      have hoption := mem_of_declared_mem (List.mem_of_find?_eq_some hfind)
      split_ifs at hword
      · cases hword
        simp [DeclaredIn, hoption]
      · cases hword
        simp [DeclaredIn, hoption]
      · obtain ⟨others, hothers, hword⟩ := ok_of_bind hword
        cases hword
        obtain ⟨hgiven, hwaiting⟩ := ih hothers
        exact ⟨List.forall_mem_cons.mpr ⟨hoption, hgiven⟩, hwaiting⟩

theorem declaredIn_processWord {c : Char} {characters : Text} {word : WordOptions}
    (hword : processWord options c characters = .ok word) : DeclaredIn options word := by
  unfold processWord at hword
  split_ifs at hword
  · exact declaredIn_processLongOpt hword
  · exact declaredIn_processShortOpts hword

theorem declared_processArgs {words args : List Text}
    (hwaiting : ∀ option ∈ waiting, option ∈ options)
    (hparse : processArgs options waiting words = .ok (occurrences, args)) :
    ∀ occurrence ∈ occurrences, occurrence.option ∈ options := by
  fun_induction processArgs options waiting words generalizing occurrences args with
  | case1 =>
    cases hparse
    simp
  | case2 rest =>
    cases hparse
    simp
  | case3 c characters rest _ ih =>
    obtain ⟨⟨given, waiting⟩, hword, hparse⟩ := ok_of_bind hparse
    obtain ⟨⟨others, args'⟩, hothers, hparse⟩ := ok_of_bind hparse
    cases hparse
    obtain ⟨hgiven, hnext⟩ := declaredIn_processWord hword
    exact List.forall_mem_append.mpr ⟨hgiven, ih waiting hnext hothers⟩
  | case4 arg rest =>
    cases hparse
    simp
  | case5 option => cases hparse
  | case6 option argument rest ih =>
    obtain ⟨⟨others, args'⟩, hothers, hparse⟩ := ok_of_bind hparse
    cases hparse
    exact List.forall_mem_cons.mpr ⟨hwaiting option rfl, ih (by simp) hothers⟩

/-- A command line gives declared options only. -/
theorem declared_parseArgs {words args : List Text}
    (hparse : parseArgs options words = .ok (occurrences, args)) :
    ∀ occurrence ∈ occurrences, occurrence.option ∈ options :=
  declared_processArgs (by simp) hparse

end Declared

end Ec2Wrappers.Foundations
