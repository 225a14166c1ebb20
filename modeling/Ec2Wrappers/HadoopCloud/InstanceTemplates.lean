import Ec2Wrappers.HadoopCloud.Storage

/-!
# Instance templates and the requests made of them

`bash_quote`, `bash_quote_env` and `build_env_string` of `hadoop/cloud/util.py`, and
`InstanceTemplate` and the first half of `Service._launch_instances` of `hadoop/cloud/service.py`,
up to the call of the cluster's `launch_instances`.

An option of the command line or of the configuration file holds one text or several. Python passes
either on to whatever stands in that place, and only what looks into the value notices the
difference: a quoted value must be one text, and a loop over one text goes through its characters.
`InstanceTemplate` takes its arguments by position, so `ofArguments` takes a list.

`requested_of_request` is what a request says of its template, and `request_returns_iff` when there
is one at all.
-/

set_option autoImplicit false
set_option relaxedAutoImplicit false

namespace Ec2Wrappers.HadoopCloud

open Foundations

/-! ### Option values -/

/-- What an option holds: one text, or several. -/
inductive OptionValue
  | text (value : Text)
  | texts (values : List Text)
  deriving DecidableEq, Repr

/-- What a loop over a value goes through, when the value counts as true. -/
def iterate : Option OptionValue → List Text
  | none => []
  | some (.text value) => characters value
  | some (.texts values) => values

/-- The value is several texts. -/
def IsTexts (value : Option OptionValue) : Prop := ∃ values, value = some (.texts values)

/-! ### The environment of an instance -/

/-- A single quote. -/
def quoteMark : Char := Char.ofNat 39

/-- `bash_quote`. -/
def bashQuote : Option OptionValue → Except PyError Text
  | none => .ok []
  | some (.text value) =>
    .ok (quoteMark :: value.flatMap (fun c ↦
      if c = quoteMark then [quoteMark, '\\', quoteMark, quoteMark] else [c]) ++ [quoteMark])
  | some (.texts _) => .error (.attributeError "replace".toList)

/-- `bash_quote_env`. -/
def bashQuoteEnv (env : Text) : Except PyError Text :=
  if '=' ∈ env then
    match env.splitOn '=' with
    | [var, value] => do
      let quoted ← bashQuote (some (.text value))
      return var ++ '=' :: quoted
    | _ => .error (.library "ValueError".toList "too many values to unpack".toList)
  else .ok env

/-- A pair of the dictionary in the environment string. -/
def pairString (pair : Text × Option OptionValue) : Except PyError Text := do
  let quoted ← bashQuote pair.2
  return pair.1 ++ '=' :: quoted

/-- The order in which Python goes through a dictionary with texts as keys. -/
structure DictOrder where
  arrange : ∀ {Value : Type}, List (Text × Value) → List (Text × Value)
  arrange_perm : ∀ {Value : Type} (items : List (Text × Value)), (arrange items).Perm items

/-- A dictionary that keeps the order of its entries. -/
def inOrder : DictOrder := ⟨fun items ↦ items, fun items ↦ List.Perm.refl items⟩

/-- The parts one after the other, each with a blank behind it; the first part that raises ends
it. -/
def joinParts : List (Except PyError Text) → Except PyError Text
  | [] => .ok []
  | part :: rest => do
    let first ← part
    let others ← joinParts rest
    return first ++ ' ' :: others

/-- `build_env_string`. -/
def buildEnvString (order : DictOrder) (envStrings : List Text)
    (pairs : List (Text × Option OptionValue)) : Except PyError Text := do
  let env ← joinParts (envStrings.map bashQuoteEnv ++ (order.arrange pairs).map pairString)
  return env.dropLast

/-- The values of the dictionary that `_launch_instances` gives to `build_env_string`. -/
structure EnvPairs where
  roles : Text
  userPackages : Option OptionValue
  autoShutdown : Option OptionValue
  ebsMappings : Text
  awsAccessKeyId : Text
  awsSecretAccessKey : Text
  deriving DecidableEq, Repr

/-- The dictionary itself. -/
def EnvPairs.items (pairs : EnvPairs) : List (Text × Option OptionValue) :=
  [("ROLES".toList, some (.text pairs.roles)),
    ("USER_PACKAGES".toList, pairs.userPackages),
    ("AUTO_SHUTDOWN".toList, pairs.autoShutdown),
    ("EBS_MAPPINGS".toList, some (.text pairs.ebsMappings)),
    ("AWS_ACCESS_KEY_ID".toList, some (.text pairs.awsAccessKeyId)),
    ("AWS_SECRET_ACCESS_KEY".toList, some (.text pairs.awsSecretAccessKey))]

/-- The text that replaces `%ENV%`, with what it has been built of. -/
structure Environment (order : DictOrder) where
  envStrings : List Text
  pairs : EnvPairs
  text : Text
  text_eq : buildEnvString order envStrings pairs.items = .ok text

/-- Build the text that replaces `%ENV%`. -/
def Environment.build (order : DictOrder) (envStrings : List Text) (pairs : EnvPairs) :
    Except PyError (Environment order) :=
  match htext : buildEnvString order envStrings pairs.items with
  | .ok text => .ok ⟨envStrings, pairs, text, htext⟩
  | .error error => .error error

/-! ### Templates -/

/-- `InstanceTemplate`. Its places hold whatever the caller puts there. -/
structure InstanceTemplate where
  roles : List Text
  number : ℤ
  imageId : Option OptionValue
  sizeId : Option OptionValue
  keyName : Option OptionValue
  publicKey : Option OptionValue
  privateKey : Option OptionValue
  userDataFileTemplate : Option OptionValue
  placement : Option OptionValue
  userPackages : Option OptionValue
  autoShutdown : Option OptionValue
  envStrings : Option OptionValue
  securityGroups : Option OptionValue
  deriving DecidableEq, Repr

/-- `InstanceTemplate.__init__`, with the arguments after `number` by position. -/
def InstanceTemplate.ofArguments (roles : List Text) (number : ℤ)
    (arguments : List (Option OptionValue)) : InstanceTemplate where
  roles := roles
  number := number
  imageId := arguments.getD 0 none
  sizeId := arguments.getD 1 none
  keyName := arguments.getD 2 none
  publicKey := arguments.getD 3 none
  privateKey := arguments.getD 4 none
  userDataFileTemplate := arguments.getD 5 none
  placement := arguments.getD 6 none
  userPackages := arguments.getD 7 none
  autoShutdown := arguments.getD 8 none
  envStrings := arguments.getD 9 (some (.texts []))
  securityGroups := arguments.getD 10 (some (.texts []))

/-- `InstanceTemplate.add_env_strings`. -/
def InstanceTemplate.addEnvStrings (template : InstanceTemplate) (envStrings : List Text) :
    InstanceTemplate :=
  { template with envStrings := some (.texts (iterate template.envStrings ++ envStrings)) }

/-! ### Requests -/

/-- The cloud providers of `CLUSTER_PROVIDER_MAP` whose modules exist. -/
inductive Provider
  | dummy
  | ec2
  | cs61cec2
  deriving DecidableEq, Repr

/-- `get_provider_code`. -/
def Provider.code : Provider → Text
  | .dummy => "dummy".toList
  | .ec2 => "ec2".toList
  | .cs61cec2 => "cs61cec2".toList

/-- What a command finds on the machine it runs on: the provider, the directory of the user-data
scripts, the credentials in the environment, the storage file, and the order of dictionaries. -/
structure Client where
  provider : Provider
  dataPath : Text
  awsAccessKeyId : Option Text
  awsSecretAccessKey : Option Text
  storage : StorageFile
  order : DictOrder

/-- `os.environ[name]`. -/
def environ (name : Text) : Option Text → Except PyError Text
  | some value => .ok value
  | none => .error (.keyError name)

/-- `InstanceUserData`: the file, and the replacement of `%ENV%`. -/
structure InstanceUserData (order : DictOrder) where
  filename : OptionValue
  environment : Environment order

/-- The keyword arguments of `launch_instances`, those that are given. -/
structure LaunchKeywords where
  keyName : Option (Option OptionValue)
  publicKey : Option (Option OptionValue)
  placement : Option (Option OptionValue)
  securityGroups : Option (List Text)
  useSpot : Option Bool
  deriving DecidableEq, Repr

/-- The arguments of a call of `launch_instances`. -/
structure LaunchRequest (order : DictOrder) where
  roles : List Text
  number : ℤ
  imageId : Option OptionValue
  sizeId : Option OptionValue
  instanceUserData : InstanceUserData order
  keywords : LaunchKeywords

/-- `kwargs.get('key_name', None)`. -/
def LaunchRequest.keyName {order : DictOrder} (request : LaunchRequest order) :
    Option OptionValue :=
  request.keywords.keyName.getD none

/-- `kwargs.get('placement', None)`. -/
def LaunchRequest.placement {order : DictOrder} (request : LaunchRequest order) :
    Option OptionValue :=
  request.keywords.placement.getD none

/-- `kwargs.get('security_groups', [])`. -/
def LaunchRequest.securityGroups {order : DictOrder} (request : LaunchRequest order) : List Text :=
  request.keywords.securityGroups.getD []

/-- `kwargs.get('use_spot', False)`. -/
def LaunchRequest.useSpot {order : DictOrder} (request : LaunchRequest order) : Bool :=
  request.keywords.useSpot.getD false

/-- `Service._get_default_user_data_file_template` of the Hadoop service. -/
def Client.defaultUserDataFileTemplate (client : Client) : Text :=
  client.dataPath ++ "/hadoop-".toList ++ client.provider.code ++ "-init-remote.sh".toList

/-- `has_any_storage` for one role; only EC2 clusters have any. -/
def Client.hasStorage (client : Client) (role : Text) : Bool :=
  client.provider ≠ .dummy && getInstanceStorageForRole role client.storage ≠ []

/-- `Ec2Storage.get_mappings_string_for_role`. -/
def Client.mappingsString (client : Client) (role : Text) : Text :=
  let mountables := (getInstanceStorageForRole role client.storage).flatten
  let mappings : Table (Prod.fst : Text × Text → Text) :=
    mountables.foldl (fun mappings mountable ↦
      mappings.insertOrReplace (mountable.mountPoint, mountable.device)) Table.empty
  [';'].intercalate ((client.order.arrange mappings.rows).map fun mapping ↦
    mapping.1 ++ ',' :: mapping.2)

/-- The storage mappings of the last role that has storage. -/
def Client.ebsMappings (client : Client) (roles : List Text) : Text :=
  roles.foldl (fun mappings role ↦
    if client.hasStorage role then client.mappingsString role else mappings) []

/-- The request that `Service._launch_instances` makes of a template. -/
def Client.request (client : Client) (template : InstanceTemplate) :
    Except PyError (LaunchRequest client.order) := do
  let filename := template.userDataFileTemplate.getD (.text client.defaultUserDataFileTemplate)
  let awsAccessKeyId ← environ "AWS_ACCESS_KEY_ID".toList client.awsAccessKeyId
  let awsSecretAccessKey ← environ "AWS_SECRET_ACCESS_KEY".toList client.awsSecretAccessKey
  let pairs : EnvPairs :=
    { roles := [','].intercalate template.roles
      userPackages := template.userPackages
      autoShutdown := template.autoShutdown
      ebsMappings := client.ebsMappings template.roles
      awsAccessKeyId := awsAccessKeyId
      awsSecretAccessKey := awsSecretAccessKey }
  let environment ← Environment.build client.order (iterate template.envStrings) pairs
  return {
    roles := template.roles
    number := template.number
    imageId := template.imageId
    sizeId := template.sizeId
    instanceUserData := ⟨filename, environment⟩
    keywords :=
      { keyName := some template.keyName
        publicKey := some template.publicKey
        placement := some template.placement
        securityGroups := none
        useSpot := none } }

/-! ### When the environment can be built -/

/-- A part with at most one equals sign is quoted. -/
theorem bashQuoteEnv_returns_iff (env : Text) :
    (∃ quoted, bashQuoteEnv env = .ok quoted) ↔ env.count '=' ≤ 1 := by
  by_cases hmem : '=' ∈ env
  · rw [bashQuoteEnv, if_pos hmem]
    obtain ⟨var, rest, rfl, hvar⟩ := List.eq_append_cons_of_mem hmem
    rw [List.splitOn_append_cons_self_of_not_mem hvar]
    by_cases hmore : '=' ∈ rest
    · obtain ⟨value, more, rfl, hvalue⟩ := List.eq_append_cons_of_mem hmore
      rw [List.splitOn_append_cons_self_of_not_mem hvalue]
      obtain ⟨third, others, hthird⟩ := List.exists_cons_of_ne_nil (List.splitOn_ne_nil '=' more)
      have hcount : 1 < (var ++ '=' :: (value ++ '=' :: more)).count '=' := by
        simp only [List.count_append, List.count_cons_self]
        omega
      simp only [hthird, reduceCtorEq, exists_false, false_iff, not_le, hcount]
    · rw [List.splitOn_eq_singleton hmore]
      simp only [List.count_append, List.count_cons, List.count_eq_zero_of_not_mem hvar,
        List.count_eq_zero_of_not_mem hmore]
      exact ⟨fun _ ↦ by simp, fun _ ↦ ⟨_, rfl⟩⟩
  · rw [bashQuoteEnv, if_neg hmem]
    simp [List.count_eq_zero_of_not_mem hmem]

/-- Only several texts cannot be quoted. -/
theorem bashQuote_returns_iff (value : Option OptionValue) :
    (∃ quoted, bashQuote value = .ok quoted) ↔ ¬ IsTexts value := by
  match value with
  | none => simp [bashQuote, IsTexts]
  | some (.text _) => simp [bashQuote, IsTexts]
  | some (.texts _) => simp [bashQuote, IsTexts]

/-- A pair is written when its value can be quoted. -/
theorem pairString_returns_iff (pair : Text × Option OptionValue) :
    (∃ written, pairString pair = .ok written) ↔ ¬ IsTexts pair.2 := by
  rw [← bashQuote_returns_iff]
  exact returns_bind_pure_iff _ _

/-- Parts are joined when none of them raises. -/
theorem joinParts_returns_iff (parts : List (Except PyError Text)) :
    (∃ joined, joinParts parts = .ok joined) ↔ ∀ part ∈ parts, ∃ text, part = .ok text := by
  induction parts with
  | nil => simp [joinParts]
  | cons part rest ih =>
    rw [List.forall_mem_cons, ← ih, joinParts]
    cases part with
    | error error => simp [bind, Except.bind]
    | ok first =>
      rw [and_iff_right ⟨first, rfl⟩]
      exact returns_bind_pure_iff _ _

/-- The environment string is built when every text of it has at most one equals sign and every
value of the dictionary can be quoted. -/
theorem buildEnvString_returns_iff (order : DictOrder) (envStrings : List Text)
    (pairs : List (Text × Option OptionValue)) :
    (∃ text, buildEnvString order envStrings pairs = .ok text) ↔
      (∀ env ∈ envStrings, env.count '=' ≤ 1) ∧ ∀ pair ∈ pairs, ¬ IsTexts pair.2 := by
  have hparts := joinParts_returns_iff
    (envStrings.map bashQuoteEnv ++ (order.arrange pairs).map pairString)
  simp only [List.forall_mem_append, List.forall_mem_map, bashQuoteEnv_returns_iff,
    pairString_returns_iff, (order.arrange_perm pairs).mem_iff] at hparts
  rw [← hparts]
  exact returns_bind_pure_iff _ _

/-- An environment has been built of what was given. -/
theorem Environment.build_eq_ok {order : DictOrder} {envStrings : List Text} {pairs : EnvPairs}
    {environment : Environment order}
    (hbuild : Environment.build order envStrings pairs = .ok environment) :
    environment.envStrings = envStrings ∧ environment.pairs = pairs := by
  unfold Environment.build at hbuild
  split at hbuild
  · cases hbuild
    exact ⟨rfl, rfl⟩
  · cases hbuild

/-- An environment is built when its text is. -/
theorem Environment.build_returns_iff (order : DictOrder) (envStrings : List Text)
    (pairs : EnvPairs) :
    (∃ environment, Environment.build order envStrings pairs = .ok environment) ↔
      (∀ env ∈ envStrings, env.count '=' ≤ 1) ∧
        ¬ IsTexts pairs.userPackages ∧ ¬ IsTexts pairs.autoShutdown := by
  have hitems : (∀ pair ∈ pairs.items, ¬ IsTexts pair.2) ↔
      ¬ IsTexts pairs.userPackages ∧ ¬ IsTexts pairs.autoShutdown := by
    simp [EnvPairs.items, IsTexts]
  rw [← hitems, ← buildEnvString_returns_iff order]
  unfold Environment.build
  constructor
  · rintro ⟨environment, hbuild⟩
    split at hbuild
    · rename_i text htext
      exact ⟨text, htext⟩
    · cases hbuild
  · rintro ⟨text, htext⟩
    split
    · exact ⟨_, rfl⟩
    · rename_i error herror
      rw [htext] at herror
      cases herror

/-! ### What a request says of its template -/

/-- The request has the values of the template in the places where `_launch_instances` puts them;
security groups and the spot flag are not among them. -/
structure Client.Requested (client : Client) (template : InstanceTemplate)
    (request : LaunchRequest client.order) : Prop where
  roles : request.roles = template.roles
  number : request.number = template.number
  imageId : request.imageId = template.imageId
  sizeId : request.sizeId = template.sizeId
  keyName : request.keyName = template.keyName
  placement : request.placement = template.placement
  filename : request.instanceUserData.filename =
    template.userDataFileTemplate.getD (.text client.defaultUserDataFileTemplate)
  envStrings : request.instanceUserData.environment.envStrings = iterate template.envStrings
  userPackages : request.instanceUserData.environment.pairs.userPackages = template.userPackages
  autoShutdown : request.instanceUserData.environment.pairs.autoShutdown = template.autoShutdown
  securityGroups : request.securityGroups = []
  useSpot : request.useSpot = false

section Requests

variable {client : Client} {template : InstanceTemplate}

/-- What a request says of its template. -/
theorem requested_of_request {request : LaunchRequest client.order}
    (hrequest : client.request template = .ok request) : client.Requested template request := by
  obtain ⟨awsAccessKeyId, -, hrequest⟩ := ok_of_bind hrequest
  obtain ⟨awsSecretAccessKey, -, hrequest⟩ := ok_of_bind hrequest
  obtain ⟨environment, hbuild, hrequest⟩ := ok_of_bind hrequest
  obtain ⟨hstrings, hpairs⟩ := Environment.build_eq_ok hbuild
  cases hrequest
  constructor <;> first | rfl | exact hstrings | rw [hpairs]

/-- A credential is found when it is set. -/
theorem environ_returns_iff (name : Text) (value : Option Text) :
    (∃ found, environ name value = .ok found) ↔ value ≠ none := by
  cases value <;> simp [environ]

/-- There is a request when the credentials are set and the environment can be built. -/
theorem request_returns_iff : (∃ request, client.request template = .ok request) ↔
    client.awsAccessKeyId ≠ none ∧ client.awsSecretAccessKey ≠ none ∧
      (∀ env ∈ iterate template.envStrings, env.count '=' ≤ 1) ∧
        ¬ IsTexts template.userPackages ∧ ¬ IsTexts template.autoShutdown := by
  rw [← environ_returns_iff "AWS_ACCESS_KEY_ID".toList,
    ← environ_returns_iff "AWS_SECRET_ACCESS_KEY".toList]
  unfold Client.request
  cases environ "AWS_ACCESS_KEY_ID".toList client.awsAccessKeyId with
  | error error => simp [bind, Except.bind]
  | ok awsAccessKeyId =>
    cases environ "AWS_SECRET_ACCESS_KEY".toList client.awsSecretAccessKey with
    | error error => simp [bind, Except.bind]
    | ok awsSecretAccessKey =>
      rw [and_iff_right ⟨_, rfl⟩, and_iff_right ⟨_, rfl⟩]
      have hbuilt := Environment.build_returns_iff client.order (iterate template.envStrings)
        { roles := [','].intercalate template.roles
          userPackages := template.userPackages
          autoShutdown := template.autoShutdown
          ebsMappings := client.ebsMappings template.roles
          awsAccessKeyId := awsAccessKeyId
          awsSecretAccessKey := awsSecretAccessKey }
      rw [← hbuilt]
      exact returns_bind_pure_iff _ _

end Requests

end Ec2Wrappers.HadoopCloud
