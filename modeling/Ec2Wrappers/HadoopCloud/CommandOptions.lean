import Ec2Wrappers.Foundations.OptionParser

/-!
# Options of the command line and of the configuration file

The option lists of `hadoop/cloud/cli.py`, `parse_options` and `parse_options_and_config` there, and
`merge_config_with_options` of `hadoop/cloud/util.py`. What `ConfigParser` finds in the files is a
parameter: a section of distinct keys, or none.

The merge takes whatever the parsed options hold, and an option that is not given holds its default.
So the section comes after a default that is not `None`: an option has the value it should have
exactly when it is given, or the section does not set it, or its default is `None`
(`effectiveValue_iff`).
-/

set_option autoImplicit false
set_option relaxedAutoImplicit false

namespace Ec2Wrappers.HadoopCloud

open Foundations

/-! ### The options of the commands -/

/-- `CONFIG_DIR_OPTION`. -/
def configDirOption : OptionSpec := ⟨none, "config-dir".toList, .store none⟩

/-- `PROVIDER_OPTION`. -/
def providerOption : OptionSpec := ⟨none, "cloud-provider".toList, .store none⟩

/-- `PROXY_PORT_OPTION`. -/
def proxyPortOption : OptionSpec := ⟨none, "proxy-port".toList, .store (some (.number 6666))⟩

/-- `BASIC_OPTIONS`. -/
def basicOptions : List OptionSpec := [configDirOption, providerOption, proxyPortOption]

/-- `LAUNCH_OPTIONS`. -/
def launchOptions : List OptionSpec :=
  [configDirOption,
    providerOption,
    ⟨some 'a', "ami".toList, .store none⟩,
    ⟨some 'e', "env".toList, .append none⟩,
    ⟨some 'f', "user-data-file".toList, .store none⟩,
    ⟨none, "image-id".toList, .store none⟩,
    ⟨some 'k', "key-name".toList, .store none⟩,
    ⟨some 'p', "user-packages".toList, .store none⟩,
    ⟨some 't', "instance-type".toList, .store none⟩,
    ⟨some 'z', "availability-zone".toList, .store none⟩,
    ⟨none, "auto-shutdown".toList, .store none⟩,
    ⟨none, "client-cidr".toList, .append none⟩,
    ⟨none, "security-group".toList, .append (some [])⟩,
    ⟨none, "public-key".toList, .store none⟩,
    ⟨none, "use-spot".toList, .storeTrue (some false)⟩,
    ⟨none, "private-key".toList, .store none⟩]

/-- `SNAPSHOT_OPTIONS`. -/
def snapshotOptions : List OptionSpec :=
  [configDirOption,
    providerOption,
    ⟨some 'k', "key-name".toList, .store none⟩,
    ⟨some 'z', "availability-zone".toList, .store none⟩,
    ⟨none, "ssh-options".toList, .store none⟩]

/-- `PLACEMENT_OPTIONS`. -/
def placementOptions : List OptionSpec :=
  [configDirOption, providerOption, ⟨some 'z', "availability-zone".toList, .store none⟩]

/-- `FORCE_OPTIONS`. -/
def forceOptions : List OptionSpec :=
  [configDirOption, providerOption, ⟨none, "force".toList, .storeTrue (some false)⟩]

/-- `SSH_OPTIONS`. -/
def sshOptions : List OptionSpec :=
  [configDirOption, providerOption, ⟨none, "ssh-options".toList, .store none⟩]

/-- The commands that read the configuration. -/
inductive CloudCommand
  | list
  | launchMaster
  | launchSlaves
  | launchCluster
  | login
  | proxy
  | push
  | exec
  | terminateCluster
  | deleteCluster
  | createFormattedSnapshot
  | listStorage
  | createStorage
  | attachStorage
  | deleteStorage
  | updateSlavesFile
  deriving DecidableEq, Repr

/-- The option list of a command. -/
def CloudCommand.optionList : CloudCommand → List OptionSpec
  | .launchMaster | .launchSlaves | .launchCluster => launchOptions
  | .login | .proxy | .push | .exec | .updateSlavesFile => sshOptions
  | .terminateCluster | .deleteStorage => forceOptions
  | .createFormattedSnapshot => snapshotOptions
  | .createStorage => placementOptions
  | .list | .deleteCluster | .listStorage | .attachStorage => basicOptions

/-- The arguments that a command expects after the name of the cluster. -/
def CloudCommand.extraArguments : CloudCommand → List Text
  | .launchSlaves | .launchCluster => ["NUM_SLAVES".toList]
  | .push => ["FILE".toList]
  | .exec => ["CMD".toList]
  | .createFormattedSnapshot => ["SIZE".toList]
  | .createStorage => ["ROLE".toList, "NUM_INSTANCES".toList, "SPEC_FILE".toList]
  | .attachStorage => ["ROLE".toList]
  | _ => []

/-- A command that takes more arguments than it expects. -/
def CloudCommand.unboundedArgs : CloudCommand → Bool
  | .launchCluster | .exec => true
  | _ => false

/-! ### Parsing -/

/-- What ends a command. -/
inductive CommandError
  | exit (reason : ParserExit)
  | raised (error : PyError)
  deriving DecidableEq, Repr

/-- The attributes of the parsed options as a dictionary, `vars(options)`. -/
abbrev OptionsDict := List (Text × Option OptValue)

/-- The number of arguments is wrong. -/
def wrongNumber (unboundedArgs : Bool) (expected given : ℕ) : Bool :=
  if unboundedArgs then given < expected else given ≠ expected

/-- `parse_options`. -/
def parseOptions (optionList : List OptionSpec) (expectedArguments : List Text)
    (unboundedArgs : Bool) (words : List Text) : Except ParserExit (OptionsDict × List Text) := do
  let (occurrences, args) ← parseArgs optionList words
  let options := occurrences.foldl process (defaultValues optionList)
  if wrongNumber unboundedArgs expectedArguments.length args.length then
    .error .incorrectNumberOfArguments
  else return (optionList.map fun option ↦ (option.dest, options option.dest), args)

/-- A section of the configuration: distinct keys with their values. -/
structure ConfigSection where
  items : List (Text × Text)
  keys_nodup : (items.map Prod.fst).Nodup

/-- The home directory's configuration directory, and the sections that `ConfigParser` finds in the
files of some names. -/
structure CliEnvironment where
  defaultConfigDir : Text
  readConfig : List Text → Text → Option ConfigSection

/-- Set a key that has a value. -/
def setKey (res : OptValues) (entry : Text × Option OptValue) : OptValues :=
  match entry.2 with
  | some value => Function.update res entry.1 (some value)
  | none => res

/-- Set the keys that have a value. -/
def setKeys (res : OptValues) (entries : OptionsDict) : OptValues := entries.foldl setKey res

/-- A value of the configuration, several texts when it has several lines. -/
def configValue (value : Text) : OptValue :=
  if '\n' ∈ value then .texts (value.splitOn '\n') else .text value

/-- The entries that a section makes. -/
def ConfigSection.entries (config : ConfigSection) : OptionsDict :=
  config.items.map fun item ↦ (item.1, some (configValue item.2))

/-- The values of a section, if there is one. -/
def configValues : Option ConfigSection → OptValues
  | some config => setKeys (fun _ ↦ none) config.entries
  | none => fun _ ↦ none

/-- `merge_config_with_options`. -/
def mergeConfigWithOptions (config : Option ConfigSection) (options : OptionsDict) : OptValues :=
  setKeys (configValues config) options

/-- `get_config_dir`; the option stores a text. -/
def getConfigDir (environment : CliEnvironment) (options : OptionsDict) : Text :=
  match (options.lookup "config_dir".toList).join with
  | some (.text configDir) => if configDir = [] then environment.defaultConfigDir else configDir
  | _ => environment.defaultConfigDir

/-- `os.path.join`, for a file name. -/
def joinPath (directory file : Text) : Text :=
  if directory = [] ∨ directory.getLast? = some '/' then directory ++ file
  else directory ++ '/' :: file

/-- The names of the configuration files that are read. -/
def configFiles (environment : CliEnvironment) (options : OptionsDict) : List Text :=
  let files := [joinPath (getConfigDir environment options) "clusters.cfg".toList]
  if "config_dir".toList ∈ options.map Prod.fst then files else "clusters.cfg".toList :: files

/-- `get_service_name`. -/
def getServiceName (opt : OptValues) : OptValue :=
  (opt "service".toList).getD (.text "hadoop".toList)

/-- `get_cloud_provider`. -/
def getCloudProvider (opt : OptValues) : OptValue :=
  (opt "cloud_provider".toList).getD (.text "cs61cec2".toList)

/-- The keys of `CLUSTER_PROVIDER_MAP`. -/
def clusterProviders : List Text :=
  ["dummy".toList, "ec2".toList, "cs61cec2".toList, "rackspace".toList]

/-- The keys of `DEFAULT_SERVICE_PROVIDER_MAP`. -/
def serviceNames : List Text := ["hadoop".toList, "zookeeper".toList]

/-- Look a value up among the keys of a dictionary; a list is no key. -/
def lookUp (keys : List Text) : OptValue → Except PyError Text
  | .text key => if key ∈ keys then .ok key else .error (.keyError key)
  | _ => .error .typeError

/-- The service that a command works with. -/
structure ServiceHandle where
  serviceName : Text
  cloudProvider : Text
  clusterName : Text
  configDir : Text
  deriving DecidableEq, Repr

/-- `get_cluster` and `get_service`. -/
def getService (opt : OptValues) (clusterName configDir : Text) : Except PyError ServiceHandle := do
  let cloudProvider ← lookUp clusterProviders (getCloudProvider opt)
  let serviceName ← lookUp serviceNames (getServiceName opt)
  return ⟨serviceName, cloudProvider, clusterName, configDir⟩

/-- What a command makes of its command line. -/
structure ParsedCommand where
  opt : OptValues
  args : List Text
  service : ServiceHandle

/-- `parse_options_and_config`. -/
def parseOptionsAndConfig (environment : CliEnvironment) (command : CloudCommand)
    (words : List Text) : Except CommandError ParsedCommand := do
  let (options, args) ←
    (parseOptions command.optionList ("CLUSTER".toList :: command.extraArguments)
      command.unboundedArgs words).mapError .exit
  match args with
  | [] => .error (.raised .indexError)
  | clusterName :: _ =>
    let config := environment.readConfig (configFiles environment options) clusterName
    let opt := mergeConfigWithOptions config options
    let service ← (getService opt clusterName (getConfigDir environment options)).mapError .raised
    return ⟨opt, args, service⟩

/-! ### The value that an option should have -/

/-- The options that a command line gives. -/
def givenOptions (command : CloudCommand) (words : List Text) : List Occurrence :=
  match parseArgs command.optionList words with
  | .ok (occurrences, _) => occurrences
  | .error _ => []

/-- The section of the cluster that a command line names. -/
def sectionOf (environment : CliEnvironment) (command : CloudCommand) (words : List Text) :
    Option ConfigSection :=
  match parseOptions command.optionList ("CLUSTER".toList :: command.extraArguments)
      command.unboundedArgs words with
  | .ok (options, clusterName :: _) =>
    environment.readConfig (configFiles environment options) clusterName
  | _ => none

/-- The value that a section sets a key to. -/
def ConfigSection.value (config : ConfigSection) (key : Text) : Option OptValue :=
  (config.items.lookup key).map configValue

/-- The command line's value if the option is given, otherwise the section's if it sets the option,
otherwise the default. -/
def expectedValue (environment : CliEnvironment) (command : CloudCommand) (words : List Text)
    (option : OptionSpec) : Option OptValue :=
  ((option.given (givenOptions command words)).or
    ((sectionOf environment command words).bind (·.value option.dest))).or option.default

/-! ### The merge -/

theorem setKey_self (res : OptValues) (key : Text) (value : Option OptValue) :
    setKey res (key, value) key = value.or (res key) := by
  cases value with
  | none => rfl
  | some value => exact Function.update_self _ _ _

theorem setKey_of_ne {res : OptValues} {entry : Text × Option OptValue} {key : Text}
    (hother : key ≠ entry.1) : setKey res entry key = res key := by
  unfold setKey
  cases entry.2 with
  | none => rfl
  | some value => exact Function.update_of_ne hother _ _

/-- A key that no entry has stays as it was. -/
theorem setKeys_of_not_mem {res : OptValues} {entries : OptionsDict} {key : Text}
    (hkey : key ∉ entries.map Prod.fst) : setKeys res entries key = res key := by
  induction entries generalizing res with
  | nil => rfl
  | cons entry rest ih =>
    obtain ⟨hfirst, hrest⟩ := not_or.mp (mt List.mem_cons.mpr hkey)
    rw [setKeys, List.foldl_cons, ← setKeys, ih hrest, setKey_of_ne hfirst]

/-- A key of the entries has the value of its entry, or what it had. -/
theorem setKeys_of_mem {res : OptValues} {entries : OptionsDict}
    (hkeys : (entries.map Prod.fst).Nodup) {key : Text} {value : Option OptValue}
    (hmem : (key, value) ∈ entries) : setKeys res entries key = value.or (res key) := by
  induction entries generalizing res with
  | nil => exact absurd hmem List.not_mem_nil
  | cons entry rest ih =>
    obtain ⟨hnew, hrest⟩ := List.nodup_cons.mp hkeys
    rw [setKeys, List.foldl_cons, ← setKeys]
    rcases List.mem_cons.mp hmem with rfl | hmem
    · rw [setKeys_of_not_mem hnew, setKey_self]
    · have hother : key ≠ entry.1 := fun heq ↦
        hnew (List.mem_map.mpr ⟨(key, value), hmem, heq⟩)
      rw [ih hrest hmem, setKey_of_ne hother]

/-- A section sets the keys it has. -/
theorem setKeys_entries (config : ConfigSection) (key : Text) :
    setKeys (fun _ ↦ none) config.entries key = config.value key := by
  have hkeys : config.entries.map Prod.fst = config.items.map Prod.fst := by
    simp [ConfigSection.entries]
  unfold ConfigSection.value
  cases hlookup : config.items.lookup key with
  | none =>
    refine setKeys_of_not_mem ?_
    rw [hkeys]
    intro hmem
    obtain ⟨item, hitem, rfl⟩ := List.mem_map.mp hmem
    simpa using List.lookup_eq_none_iff.mp hlookup item hitem
  | some value =>
    obtain ⟨before, after, hitems, -⟩ := List.lookup_eq_some_iff.mp hlookup
    have hmem : (key, value) ∈ config.items := by simp [hitems]
    have hentry : (key, some (configValue value)) ∈ config.entries :=
      List.mem_map.mpr ⟨_, hmem, rfl⟩
    rw [setKeys_of_mem (hkeys ▸ config.keys_nodup) hentry]
    rfl

/-- The options come before the section. -/
theorem mergeConfigWithOptions_of_mem {config : Option ConfigSection} {options : OptionsDict}
    (hkeys : (options.map Prod.fst).Nodup) {key : Text} {value : Option OptValue}
    (hmem : (key, value) ∈ options) : mergeConfigWithOptions config options key =
      value.or (config.bind (·.value key)) := by
  unfold mergeConfigWithOptions
  rw [setKeys_of_mem hkeys hmem]
  cases config with
  | none => rfl
  | some config => rw [configValues, setKeys_entries, Option.bind_some]

/-! ### The value that an option has -/

/-- The options of a command set different attributes. -/
theorem dests_nodup (command : CloudCommand) :
    (command.optionList.map OptionSpec.dest).Nodup := by
  cases command <;> decide +kernel

/-- What a section sets is no default. -/
theorem default_ne_configValue {command : CloudCommand} {option : OptionSpec}
    (hoption : option ∈ command.optionList) (value : Text) :
    option.default ≠ some (configValue value) := by
  have hdefault : option.default = none ∨ option.default = some (.number 6666) ∨
      option.default = some (.texts []) ∨ option.default = some (.flag false) := by
    revert option
    cases command <;> decide +kernel
  unfold configValue
  rcases hdefault with h | h | h | h <;> rw [h] <;> split_ifs <;> simp
  
/-- Every option of the command is in the dictionary with what the command line gives it, or its
default. -/
theorem mem_options {command : CloudCommand} {words expectedArguments args : List Text}
    {unboundedArgs : Bool} {options : OptionsDict}
    (hparse : parseOptions command.optionList expectedArguments unboundedArgs words =
      .ok (options, args)) : options.map Prod.fst = command.optionList.map OptionSpec.dest ∧
      ∀ option ∈ command.optionList, (option.dest,
        (option.given (givenOptions command words)).or option.default) ∈ options := by
  obtain ⟨⟨occurrences, args'⟩, hargs, hparse⟩ := ok_of_bind hparse
  simp only at hparse
  split_ifs at hparse
  cases hparse
  refine ⟨by simp [Function.comp_def], fun option hoption ↦ List.mem_map.mpr ⟨option, hoption, ?_⟩⟩
  rw [values_eq (dests_nodup command) (declared_parseArgs hargs) hoption, givenOptions, hargs]

/-- What an option holds after the merge. -/
theorem effectiveValue_eq {environment : CliEnvironment} {command : CloudCommand}
    {words : List Text} {option : OptionSpec} {parsed : ParsedCommand}
    (hoption : option ∈ command.optionList)
    (hparsed : parseOptionsAndConfig environment command words = .ok parsed) :
    parsed.opt option.dest = ((option.given (givenOptions command words)).or option.default).or
      ((sectionOf environment command words).bind (·.value option.dest)) := by
  obtain ⟨⟨options, args⟩, hoptions, hparsed⟩ := ok_of_bind hparsed
  have hparse : parseOptions command.optionList ("CLUSTER".toList :: command.extraArguments)
      command.unboundedArgs words = .ok (options, args) := ok_of_mapError hoptions
  obtain ⟨hkeys, hmem⟩ := mem_options hparse
  cases args with
  | nil => cases hparsed
  | cons clusterName rest =>
    obtain ⟨service, -, hparsed⟩ := ok_of_bind hparsed
    cases hparsed
    have hsection : sectionOf environment command words =
        environment.readConfig (configFiles environment options) clusterName := by
      rw [sectionOf, hparse]
    rw [hsection]
    exact mergeConfigWithOptions_of_mem (hkeys ▸ dests_nodup command) (hmem option hoption)

/-- An option has the value it should have exactly when it is given, or the section does not set it,
or its default is `None`. -/
theorem effectiveValue_iff {environment : CliEnvironment} {command : CloudCommand}
    {words : List Text} {option : OptionSpec} {parsed : ParsedCommand}
    (hoption : option ∈ command.optionList)
    (hparsed : parseOptionsAndConfig environment command words = .ok parsed) :
    parsed.opt option.dest = expectedValue environment command words option ↔
      option.IsGiven (givenOptions command words) ∨
        (sectionOf environment command words).bind (·.value option.dest) = none ∨
          option.default = none := by
  rw [effectiveValue_eq hoption hparsed, expectedValue, ← given_isSome_iff]
  cases option.given (givenOptions command words) with
  | some value => simp
  | none =>
    cases hset : (sectionOf environment command words).bind (·.value option.dest) with
    | none => simp
    | some value =>
      cases hdefault : option.default with
      | none => simp
      | some default =>
        -- the default hides what the section sets
        have hne : default ≠ value := by
          obtain ⟨config, -, hvalue⟩ := Option.bind_eq_some_iff.mp hset
          obtain ⟨text, -, rfl⟩ := Option.map_eq_some_iff.mp hvalue
          rintro rfl
          exact default_ne_configValue hoption text hdefault
        simpa using hne

/-- A configuration file with one section, `c`, of the given entries. -/
def environmentWith (items : List (Text × Text)) (keys_nodup : (items.map Prod.fst).Nodup) :
    CliEnvironment where
  defaultConfigDir := "/home/cs61c-aa/.hadoop-cloud".toList
  readConfig _ name := if name = "c".toList then some ⟨items, keys_nodup⟩ else none

/-- The configuration sets the port of the proxy. -/
def proxyEnvironment : CliEnvironment :=
  environmentWith [("proxy_port".toList, "7777".toList)] (by decide)

theorem effectiveValue_iff_proxyEnvironment : ∃ parsed,
    parseOptionsAndConfig proxyEnvironment .list ["--proxy=8888".toList, "c".toList] = .ok parsed ∧
      (parsed.opt proxyPortOption.dest = expectedValue proxyEnvironment .list
          ["--proxy=8888".toList, "c".toList] proxyPortOption ↔
        proxyPortOption.IsGiven (givenOptions .list ["--proxy=8888".toList, "c".toList]) ∨
          (sectionOf proxyEnvironment .list ["--proxy=8888".toList, "c".toList]).bind
              (·.value proxyPortOption.dest) = none ∨
            proxyPortOption.default = none) :=
  ⟨_, rfl, effectiveValue_iff (by decide +kernel) rfl⟩

/-- The default of the proxy's port comes before the port that the configuration sets. -/
theorem default_hides_configuration : ∃ parsed,
    parseOptionsAndConfig proxyEnvironment .list ["c".toList] = .ok parsed ∧
      parsed.opt proxyPortOption.dest ≠
        expectedValue proxyEnvironment .list ["c".toList] proxyPortOption := by
  refine ⟨_, rfl, ?_⟩
  decide +kernel

end Ec2Wrappers.HadoopCloud
