import Ec2Wrappers.Foundations.Shell
import Ec2Wrappers.HadoopCloud.InstanceTemplates

/-!
# The environment string in the boot script

`InstanceUserData.read` of `hadoop/cloud/cluster.py`, which puts the environment string into the
line `export %ENV%` of a boot script, and what the shell makes of that line.

A written value is read as the value (`readsAs_writtenPair`), whatever characters it has, and the
line as one command with the assignments (`readExport_written`). But `bash_quote_env` takes a
setting apart at every equals sign, and raises unless there are two parts. So the settings survive
exactly when no value has an equals sign (`survives_iff`).
-/

set_option autoImplicit false
set_option relaxedAutoImplicit false

namespace Ec2Wrappers.HadoopCloud

open Foundations

/-! ### The boot script -/

/-- `InstanceUserData.read`, with the contents of the file. -/
def readUserData (replacements : List (Text × Option Text)) (contents : Text) : Text :=
  replacements.foldl
    (fun contents replacement ↦ replaceAll replacement.1 (replacement.2.getD []) contents) contents

/-- The key of the replacements of `_launch_instances`. -/
def envMark : Text := "%ENV%".toList

/-- The replacements of `_launch_instances`. -/
def envReplacements (env : Text) : List (Text × Option Text) := [(envMark, some env)]

/-- The command of the boot script. -/
def exportCommand : Text := "export ".toList

/-- The line of the boot script with the command. -/
def exportLine : Text := exportCommand ++ envMark ++ ['\n']

/-- A setting as an env string. -/
def settingString (setting : Text × Text) : Text := setting.1 ++ '=' :: setting.2

/-- The values of a dictionary as option values. -/
def optionPairs (pairs : List (Text × Option Text)) : List (Text × Option OptionValue) :=
  pairs.map fun pair ↦ (pair.1, pair.2.map OptionValue.text)

/-- What the settings and the dictionary say: nothing stands for the empty text. -/
def settingsOf (settings : List (Text × Text)) (pairs : List (Text × Option Text)) :
    List (Text × Text) :=
  settings ++ pairs.map fun pair ↦ (pair.1, pair.2.getD [])

/-- These variables have these values, and the others are as before. -/
structure SetsExactly (expected : List (Text × Text)) (before after : Shell.Variables) : Prop where
  set : ∀ name value, (name, value) ∈ expected → after name = some value
  unchanged : ∀ name, name ∉ expected.map Prod.fst → after name = before name

/-- The line of the boot script becomes one command, which sets the variables to their values and
nothing else. -/
def Survives (order : DictOrder) (settings : List (Text × Text))
    (pairs : List (Text × Option Text)) : Prop :=
  ∃ env, buildEnvString order (settings.map settingString) (optionPairs pairs) = .ok env ∧
    ∃ line assignments,
      (∀ before after, readUserData (envReplacements env) (before ++ exportLine ++ after) =
        readUserData (envReplacements env) before ++ line ++
          readUserData (envReplacements env) after) ∧
      (∀ rest, Shell.readExport (line ++ rest) = some (assignments, rest)) ∧
      ∀ store : Shell.Variables,
        SetsExactly (settingsOf settings pairs) store (store.assign assignments)

/-! ### The line -/

theorem readUserData_eq (env contents : Text) :
    readUserData (envReplacements env) contents = replaceAll envMark env contents := by
  rw [readUserData, envReplacements, List.foldl_cons, List.foldl_nil, Option.getD_some]

/-- A line with the mark in it becomes the line with the environment string. -/
theorem replaceAll_line {command : Text} (hcommand : ∀ c ∈ command, c ∉ envMark)
    (hsome : command ≠ []) (env before after : Text) :
    replaceAll envMark env (before ++ (command ++ envMark ++ ['\n']) ++ after) =
      replaceAll envMark env before ++ (command ++ env ++ ['\n']) ++
        replaceAll envMark env after := by
  have hmark : envMark ≠ [] := by decide
  have hnewline : ∀ c ∈ ['\n'], c ∉ envMark := by decide
  have hline : before ++ (command ++ envMark ++ ['\n']) ++ after =
      before ++ command ++ (envMark ++ ['\n'] ++ after) := by
    simp only [List.append_assoc]
  rw [hline, replaceAll_append hmark hcommand hsome,
    replaceAll_append hmark hnewline (List.cons_ne_nil _ _), replaceAll_self hmark]
  simp only [List.append_assoc]

/-- The line becomes the command with the environment string in it. -/
theorem readUserData_exportLine (env before after : Text) :
    readUserData (envReplacements env) (before ++ exportLine ++ after) =
      readUserData (envReplacements env) before ++ (exportCommand ++ env ++ ['\n']) ++
        readUserData (envReplacements env) after := by
  rw [readUserData_eq, readUserData_eq, readUserData_eq]
  exact replaceAll_line (by decide) (by decide) env before after

/-! ### Writing and reading values -/

/-- The text of a value; nothing stands for the empty text. -/
def textOf : Option OptionValue → Text
  | some (.text value) => value
  | _ => []

/-- A value as `bash_quote` writes it. -/
def written : Option OptionValue → Text
  | some (.text value) => Shell.singleQuoted value
  | _ => []

/-- A pair as it is written, and as it is read. -/
def writtenPair (pair : Text × Option OptionValue) : Text := pair.1 ++ '=' :: written pair.2

/-- A setting as a pair. -/
def settingPair (setting : Text × Text) : Text × Option OptionValue :=
  (setting.1, some (.text setting.2))

section Writing

variable {order : DictOrder} {settings : List (Text × Text)}
variable {pairs : List (Text × Option OptionValue)}

/-- A value that is not several texts is written. -/
theorem pairString_eq {pair : Text × Option OptionValue} (htext : ¬ IsTexts pair.2) :
    pairString pair = .ok (writtenPair pair) := by
  obtain ⟨name, value⟩ := pair
  match value with
  | none => rfl
  | some (.text _) => rfl
  | some (.texts values) => exact absurd ⟨values, rfl⟩ htext

/-- A setting with one equals sign is written like a pair. -/
theorem bashQuoteEnv_settingString {setting : Text × Text} (hname : '=' ∉ setting.1)
    (hvalue : '=' ∉ setting.2) :
    bashQuoteEnv (settingString setting) = pairString (settingPair setting) := by
  have hsplit : (settingString setting).splitOn '=' = [setting.1, setting.2] := by
    rw [settingString, List.splitOn_append_cons_self_of_not_mem hname,
      List.splitOn_eq_singleton hvalue]
  rw [bashQuoteEnv, if_pos (by simp [settingString]), hsplit]
  rfl

/-- Parts that are all written are joined. -/
theorem joinParts_ok (parts : List Text) :
    joinParts (parts.map Except.ok) = .ok (Shell.joined parts) := by
  induction parts with
  | nil => rfl
  | cons part rest ih =>
    have hjoined : Shell.joined (part :: rest) = part ++ ' ' :: Shell.joined rest := by
      simp [Shell.joined]
    rw [List.map_cons, joinParts, ih, hjoined]
    rfl

/-- The pairs in the order in which they are written. -/
def pairsInOrder (order : DictOrder) (settings : List (Text × Text))
    (pairs : List (Text × Option OptionValue)) : List (Text × Option OptionValue) :=
  settings.map settingPair ++ order.arrange pairs

/-- The environment string of settings with one equals sign each. -/
theorem buildEnvString_eq (hsettings : ∀ setting ∈ settings, '=' ∉ setting.1 ∧ '=' ∉ setting.2)
    (htexts : ∀ pair ∈ pairs, ¬ IsTexts pair.2) :
    buildEnvString order (settings.map settingString) pairs =
      .ok (Shell.joined ((pairsInOrder order settings pairs).map writtenPair)).dropLast := by
  have hquoted : (settings.map settingString).map bashQuoteEnv =
      (settings.map settingPair).map pairString := by
    rw [List.map_map, List.map_map]
    exact List.map_congr_left fun setting hmem ↦
      bashQuoteEnv_settingString (hsettings setting hmem).1 (hsettings setting hmem).2
  have hwritten : (pairsInOrder order settings pairs).map pairString =
      ((pairsInOrder order settings pairs).map writtenPair).map Except.ok := by
    rw [List.map_map]
    refine List.map_congr_left fun pair hpair ↦ pairString_eq ?_
    rcases List.mem_append.mp hpair with hmem | hmem
    · obtain ⟨setting, -, rfl⟩ := List.mem_map.mp hmem
      rintro ⟨values, hvalues⟩
      cases hvalues
    · exact htexts pair ((order.arrange_perm pairs).subset hmem)
  rw [buildEnvString, hquoted, ← List.map_append, ← pairsInOrder, hwritten, joinParts_ok]
  rfl

/-- A written pair reads as its name, an equals sign and its text. -/
theorem readsAs_writtenPair {pair : Text × Option OptionValue} (hname : Shell.IsIdentifier pair.1)
    (hnul : Char.ofNat 0 ∉ textOf pair.2) :
    Shell.ReadsAs (writtenPair pair) (pair.1 ++ '=' :: textOf pair.2) := by
  obtain ⟨name, value⟩ := pair
  have hbegin : Shell.ReadsAs (name ++ ['=']) (name ++ ['=']) := by
    refine Shell.readsAs_ordinary (by simp) (List.forall_mem_append.mpr ⟨fun c hc ↦ ?_, by decide⟩)
    exact (hname.2.1 c hc).isOrdinary
  match value with
  | none => exact hbegin
  | some (.texts _) => exact hbegin
  | some (.text value) =>
    have hpair := hbegin.append (Shell.readsAs_singleQuoted hnul)
    simpa [writtenPair, written, textOf] using hpair

/-- A pair as an assignment. -/
def assignmentOf (pair : Text × Option OptionValue) : Text × Text := (pair.1, textOf pair.2)

theorem map_assignmentOf_settingPair (settings : List (Text × Text)) :
    (settings.map settingPair).map assignmentOf = settings := by
  rw [List.map_map]
  exact List.map_id settings

/-- The line is read as its assignments, and nothing after it belongs to it. -/
theorem readExport_written {pairs : List (Text × Option OptionValue)}
    (hpairs : ∀ pair ∈ pairs, Shell.IsIdentifier pair.1 ∧ Char.ofNat 0 ∉ textOf pair.2)
    (rest : Text) : Shell.readExport (exportCommand ++
      (Shell.joined (pairs.map writtenPair)).dropLast ++ '\n' :: rest) =
        some (pairs.map assignmentOf, rest) := by
  refine Shell.readExport_joined (List.forall_mem_map.mpr fun pair hpair ↦ (hpairs pair hpair).1)
    ?_ rest
  rw [List.map_map, List.forall₂_map_left_iff, List.forall₂_map_right_iff, List.forall₂_same]
  exact fun pair hpair ↦ readsAs_writtenPair (hpairs pair hpair).1 (hpairs pair hpair).2

end Writing

/-! ### What survives -/

section Survives

variable {order : DictOrder} {settings : List (Text × Text)} {pairs : List (Text × Option Text)}

/-- The assignments are what the settings and the dictionary say. -/
theorem map_assignmentOf_perm :
    ((pairsInOrder order settings (optionPairs pairs)).map assignmentOf).Perm
      (settingsOf settings pairs) := by
  have hpairs : (optionPairs pairs).map assignmentOf =
      pairs.map fun pair ↦ (pair.1, pair.2.getD []) := by
    rw [optionPairs, List.map_map]
    refine List.map_congr_left fun pair _ ↦ ?_
    obtain ⟨name, value⟩ := pair
    cases value <;> rfl
  rw [pairsInOrder, List.map_append, map_assignmentOf_settingPair, settingsOf, ← hpairs]
  exact ((order.arrange_perm (optionPairs pairs)).map _).append_left settings

/-- The values of the dictionary are no several texts. -/
theorem not_isTexts_of_mem_optionPairs {pair : Text × Option OptionValue}
    (hpair : pair ∈ optionPairs pairs) : ¬ IsTexts pair.2 := by
  obtain ⟨original, -, rfl⟩ := List.mem_map.mp hpair
  rintro ⟨values, hvalues⟩
  obtain ⟨text, -, htext⟩ := Option.map_eq_some_iff.mp hvalues
  cases htext

/-- The environment string survives the shell exactly when no value of the settings has an equals
sign in it. -/
theorem survives_iff (hdistinct : ((settingsOf settings pairs).map Prod.fst).Nodup)
    (hnames : ∀ setting ∈ settingsOf settings pairs, Shell.IsIdentifier setting.1)
    (hnul : ∀ setting ∈ settingsOf settings pairs, Char.ofNat 0 ∉ setting.2) :
    Survives order settings pairs ↔ ∀ setting ∈ settings, '=' ∉ setting.2 := by
  have hperm := @map_assignmentOf_perm order settings pairs
  constructor
  · rintro ⟨env, henv, -⟩ setting hsetting hvalue
    have hcount := ((buildEnvString_returns_iff order _ _).mp ⟨env, henv⟩).1 _
      (List.mem_map_of_mem hsetting)
    have hmore : 0 < setting.2.count '=' := List.count_pos_iff.mpr hvalue
    rw [settingString, List.count_append, List.count_cons_self] at hcount
    omega
  · intro hvalues
    have henv := @buildEnvString_eq order settings (optionPairs pairs)
      (fun setting hsetting ↦ ⟨(hnames setting (List.mem_append_left _ hsetting)).not_mem_equals,
        hvalues setting hsetting⟩) fun pair hpair ↦ not_isTexts_of_mem_optionPairs hpair
    have hread {pair : Text × Option OptionValue}
        (hpair : pair ∈ pairsInOrder order settings (optionPairs pairs)) :
        Shell.IsIdentifier pair.1 ∧ Char.ofNat 0 ∉ textOf pair.2 := by
      have hmem := hperm.subset (List.mem_map_of_mem hpair)
      exact ⟨hnames _ hmem, hnul _ hmem⟩
    refine ⟨_, henv, _, (pairsInOrder order settings (optionPairs pairs)).map assignmentOf,
      readUserData_exportLine _, ?_, ?_⟩
    · intro rest
      rw [List.append_assoc, List.singleton_append]
      exact readExport_written (fun pair hpair ↦ hread hpair) rest
    · have hnodup := (hperm.map Prod.fst).nodup_iff.mpr hdistinct
      intro store
      constructor
      · intro name value hmem
        exact store.assign_of_mem hnodup (hperm.mem_iff.mpr hmem)
      · intro name hnot
        exact store.assign_of_not_mem fun hmem ↦ hnot ((hperm.map Prod.fst).subset hmem)

end Survives

/-- A setting with a quote, a semicolon and a newline in its value. -/
def oddSettings : List (Text × Text) := [("MESSAGE".toList, "it's; reboot\nnow".toList)]

/-- A dictionary with a text and nothing in it. -/
def oddPairs : List (Text × Option Text) :=
  [("ROLES".toList, some "nn,snn".toList), ("USER_PACKAGES".toList, none)]

theorem survives_iff_oddSettings : Survives inOrder oddSettings oddPairs ↔
    ∀ setting ∈ oddSettings, '=' ∉ setting.2 :=
  survives_iff (by decide +kernel) (by decide +kernel) (by decide +kernel)

/-- A setting whose value has an equals sign. -/
def javaSettings : List (Text × Text) := [("HADOOP_OPTS".toList, "-Dhttp.proxyPort=80".toList)]

/-- No environment string is built of it. -/
theorem equalsSign_lost : ¬ Survives inOrder javaSettings oddPairs := by
  rintro ⟨env, henv, -⟩
  have hcount := ((buildEnvString_returns_iff inOrder _ _).mp ⟨env, henv⟩).1
    "HADOOP_OPTS=-Dhttp.proxyPort=80".toList (by decide)
  exact absurd hcount (by decide)

end Ec2Wrappers.HadoopCloud
