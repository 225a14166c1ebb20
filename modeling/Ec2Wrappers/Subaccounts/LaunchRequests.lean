import Ec2Wrappers.Foundations.Base64
import Ec2Wrappers.Foundations.OptionParser
import Ec2Wrappers.Foundations.PyStrings
import Ec2Wrappers.Subaccounts.KeyRotation
import Ec2Wrappers.Subaccounts.Quota

/-!
# The requests of `ec2-run`

The program `ec2_runner.py` and `User.run_instances` as they work on a request dictionary, whose
values have whatever type they arrive with: the options of a command line are `str`, `None`, a flag
or a list, and the count is a `str` when it is given and the integer `1` when it is not; a document
has what `simplejson` makes of it. `simplejson` is a parameter, from a text to a request.

The dictionary is read where the source reads it. A value of a type that EC2 could not take in its
place (a number for a name) is a `TypeError` here. The parser of the options stops at the first
argument that is no option, and the one of the source goes on; as an argument is an error in either
case, the two accept the same command lines. Neither does the source's parser have a `--version`,
which ends the program here as the unknown option does there.

`runInstancesOf_eq` connects the dictionary to the quota check: when the dictionary reads as an
`InstanceInfo`, the decision and the call are those of `runInstancesWith`.
-/

set_option autoImplicit false
set_option relaxedAutoImplicit false

namespace Ec2Wrappers.Subaccounts

open Foundations Aws

/-! ### Request dictionaries -/

/-- A value of a request. -/
inductive RequestValue
  | none
  | bool (value : Bool)
  | number (value : PyNumber)
  | string (value : PyString)
  | strings (values : List PyString)
  deriving DecidableEq, Repr

/-- The keys that `ec2-run` and `run_instances` read: `KEYS`, and `placement`. -/
inductive RequestKey
  | imageId
  | count
  | keyName
  | availabilityZone
  | placementGroup
  | instanceType
  | securityGroups
  | userData
  | useSpot
  | placement
  deriving DecidableEq, Repr

/-- The key as the dictionary has it. -/
def RequestKey.name : RequestKey → Text
  | .imageId => "image_id".toList
  | .count => "count".toList
  | .keyName => "key_name".toList
  | .availabilityZone => "availability_zone".toList
  | .placementGroup => "placement_group".toList
  | .instanceType => "instance_type".toList
  | .securityGroups => "security_groups".toList
  | .userData => "user_data".toList
  | .useSpot => "use_spot".toList
  | .placement => "placement".toList

/-- A request dictionary. -/
abbrev Request := RequestKey → Option RequestValue

namespace RequestValue

/-- The truth of a value. -/
def truth : RequestValue → Except PyError Bool
  | none => .ok false
  | bool value => .ok value
  | number value => .ok (value.toRat ≠ 0)
  | string (.str bytes) => .ok (bytes ≠ [])
  | string (.unicode text) => .ok (text ≠ [])
  | strings values => .ok (values ≠ [])

/-- `str(value)` of a key name. `run_instances` would ask any other value for its `startswith`. -/
def toStr : RequestValue → Except PyError Text
  | none => .ok "None".toList
  | string value => value.toStr
  | _ => .error (.attributeError "startswith".toList)

/-- What is sent of a text or of `None`. -/
def text : RequestValue → Except PyError (Option Text)
  | none => .ok .none
  | string value => .ok (some value.bytes)
  | _ => .error .typeError

/-- What is sent of a list of texts; `None` is no text. -/
def texts : RequestValue → Except PyError (List Text)
  | none => .ok []
  | strings values => .ok (values.map PyString.bytes)
  | _ => .error .typeError

/-- A value to multiply a price by. A flag is an integer, and a repeated list is no price. -/
def factor : RequestValue → Except PyError PyValue
  | none => .ok .none
  | bool value => .ok (.number (.int (if value then 1 else 0)))
  | number value => .ok (.number value)
  | string value => .ok (.text value.bytes)
  | strings _ => .error .typeError

/-- A value to look an instance type up by. -/
def typeName : RequestValue → Except PyError Text
  | none => .error (.keyError "None".toList)
  | string value => .ok value.bytes
  | _ => .error .typeError

end RequestValue

namespace Request

/-- `request[key]`. -/
def item (request : Request) (key : RequestKey) : Except PyError RequestValue :=
  match request key with
  | some value => .ok value
  | none => .error (.keyError key.name)

/-- `request[key]` in a place where the code reads it. -/
def read {Value : Type} (request : Request) (key : RequestKey)
    (reader : RequestValue → Except PyError Value) : Except PyError Value :=
  request.item key >>= reader

/-- `request.get(key)`, as a text or `None`; none is a missing entry. -/
def optionalText (request : Request) (key : RequestKey) : Except PyError (Option (Option Text)) :=
  match request key with
  | some value => do
    let text ← value.text
    return some text
  | none => .ok none

/-- `request[key] = value`. -/
def set (request : Request) (key : RequestKey) (value : RequestValue) : Request :=
  Function.update request key (some value)

@[simp] theorem set_self (request : Request) (key : RequestKey) (value : RequestValue) :
    request.set key value key = some value := Function.update_self _ _ _

theorem set_of_ne {request : Request} {key other : RequestKey} (hother : other ≠ key)
    (value : RequestValue) : request.set key value other = request other :=
  Function.update_of_ne hother _ _

end Request

/-! ### `run_instances` -/

/-- The arguments of `request_spot_instances`. -/
def spotCallOf (request : Request) (count : PyValue) (keyName : Text) :
    Except PyError LaunchCall := do
  let instanceType ← request.read .instanceType RequestValue.typeName
  let cost ← instanceCostOf instanceType
  let imageId ← request.read .imageId RequestValue.text
  let securityGroups ← request.read .securityGroups RequestValue.texts
  let userData ← request.optionalText .userData
  let placement ← request.optionalText .availabilityZone
  return .requestSpotInstances (cost.toRat * spotBase) imageId count keyName securityGroups
    userData.join instanceType placement.join

/-- The arguments of `run_instances`. -/
def instancesCallOf (request : Request) (count : PyValue) (keyName : Text) :
    Except PyError LaunchCall := do
  let imageId ← request.read .imageId RequestValue.text
  let securityGroups ← request.read .securityGroups RequestValue.texts
  let userData ← request.read .userData RequestValue.text
  let instanceType ← request.read .instanceType RequestValue.typeName
  let placement ← request.optionalText .availabilityZone
  return .runInstances imageId count count keyName securityGroups userData instanceType
    placement.join

/-- The call of a request that has passed the checks. -/
def launchCallOf (request : Request) (count : PyValue) (keyName : Text) :
    Except PyError LaunchCall := do
  let useSpot ← request.read .useSpot RequestValue.truth
  if useSpot then spotCallOf request count keyName else instancesCallOf request count keyName

/-- `User.run_instances` of a request dictionary, from the point where it has the cost of the
running instances. -/
def runInstancesOf (userName : Text) (oldCost : PyNumber) (request : Request) :
    Except PyError LaunchCall := do
  let instanceType ← request.read .instanceType RequestValue.typeName
  let count ← request.read .count RequestValue.factor
  let extraCost ← costProposal instanceType count
  let keyName ← request.read .keyName RequestValue.text
  match keyName with
  | none => .error (.attributeError "startswith".toList)
  | some keyName =>
    if !userName.isPrefixOf keyName then
      .error (.exception "Needs to be associated with SSH key".toList)
    else
      let total ← oldCost.addValue extraCost
      if total.toRat > spendLimit then
        .error (.exception "Excessive instance cost".toList)
      else
        launchCallOf request count keyName

/-- The dictionary reads as the entries that `run_instances` uses. -/
structure Request.Reads (request : Request) (info : InstanceInfo) : Prop where
  imageId : request.read .imageId RequestValue.text = .ok info.imageId
  count : request.read .count RequestValue.factor = .ok info.count
  keyName : request.read .keyName RequestValue.text = .ok info.keyName
  instanceType : request.read .instanceType RequestValue.typeName = .ok info.instanceType
  securityGroups : request.read .securityGroups RequestValue.texts = .ok info.securityGroups
  userData : request.optionalText .userData = .ok info.userData
  availabilityZone : ∃ zone, request.optionalText .availabilityZone = .ok zone ∧
    zone.join = info.availabilityZone
  useSpot : request.read .useSpot RequestValue.truth = .ok info.useSpot

section Reads

variable {request : Request} {info : InstanceInfo}

/-- Reading an entry that is there. -/
theorem Request.read_of_some {Value : Type} {key : RequestKey} {entry : RequestValue}
    {reader : RequestValue → Except PyError Value} (hentry : request key = some entry) :
    request.read key reader = reader entry := by
  rw [Request.read, Request.item, hentry]
  rfl

theorem Request.optionalText_of_some {key : RequestKey} {entry : RequestValue} {text : Option Text}
    (hentry : request key = some entry) (htext : entry.text = .ok text) :
    request.optionalText key = .ok (some text) := by
  simp only [Request.optionalText, hentry, htext]
  rfl

/-- What `get` makes of an entry that is there, indexing makes of it too. -/
theorem Request.read_text_of_some {key : RequestKey} {text : Option Text}
    (hvalue : request.optionalText key = .ok (some text)) :
    request.read key RequestValue.text = .ok text := by
  unfold Request.optionalText at hvalue
  unfold Request.read Request.item
  cases hentry : request key with
  | none => simp [hentry] at hvalue
  | some entry =>
    simp only [hentry] at hvalue
    obtain ⟨read, htext, hvalue⟩ := ok_of_bind hvalue
    cases hvalue
    exact htext

/-- Indexing fails on an entry that `get` does not find. -/
theorem Request.read_text_of_none {key : RequestKey}
    (hvalue : request.optionalText key = .ok none) :
    request.read key RequestValue.text = .error (.keyError key.name) := by
  unfold Request.optionalText at hvalue
  unfold Request.read Request.item
  cases hentry : request key with
  | none => rfl
  | some entry =>
    simp only [hentry] at hvalue
    obtain ⟨read, -, hvalue⟩ := ok_of_bind hvalue
    cases hvalue

/-- The call of a dictionary is that of what it reads as. -/
theorem launchCallOf_eq (hreads : request.Reads info) (keyName : Text) :
    launchCallOf request info.count keyName = launchCall info keyName := by
  obtain ⟨zone, hzone, hjoin⟩ := hreads.availabilityZone
  rw [launchCallOf, hreads.useSpot, launchCall, ← hjoin]
  change (if info.useSpot = true then _ else _) = _
  cases info.useSpot with
  | true =>
    rw [if_pos rfl, if_pos rfl, spotCallOf, hreads.instanceType, hreads.imageId,
      hreads.securityGroups, hreads.userData, hzone]
    rfl
  | false =>
    rw [if_neg Bool.false_ne_true, if_neg Bool.false_ne_true, instancesCallOf, hreads.imageId,
      hreads.securityGroups, hreads.instanceType, hzone]
    have huserData := hreads.userData
    cases hentry : info.userData with
    | none =>
      rw [hentry] at huserData
      rw [Request.read_text_of_none huserData]
      rfl
    | some userData =>
      rw [hentry] at huserData
      rw [Request.read_text_of_some huserData]
      rfl

/-- The decision over a dictionary is that over what it reads as. -/
theorem runInstancesOf_eq (hreads : request.Reads info) (userName : Text) (oldCost : PyNumber) :
    runInstancesOf userName oldCost request = runInstancesWith userName oldCost info := by
  rw [runInstancesOf, hreads.instanceType, hreads.count, hreads.keyName, runInstancesWith]
  simp only [← launchCallOf_eq hreads]
  rfl

end Reads

/-! ### The options -/

/-- `-a`, `--ami`. -/
def amiOption : OptionSpec := ⟨some 'a', "ami".toList, .store none⟩

/-- `-c`, `--count`. -/
def countOption : OptionSpec := ⟨some 'c', "count".toList, .store (some (.number 1))⟩

/-- `-k`, `--key-name`. -/
def keyNameOption (userName : Text) : OptionSpec :=
  ⟨some 'k', "key-name".toList, .store (some (.text (userName ++ "-default".toList)))⟩

/-- `-z`, `--availability-zone`. -/
def availabilityZoneOption : OptionSpec := ⟨some 'z', "availability-zone".toList, .store none⟩

/-- `-g`, `--placement-group`. -/
def placementGroupOption : OptionSpec := ⟨some 'g', "placement-group".toList, .store none⟩

/-- `-t`, `--instance-type`. -/
def instanceTypeOption : OptionSpec := ⟨some 't', "instance-type".toList, .store none⟩

/-- `-u`, `--user-data`. -/
def userDataOption : OptionSpec := ⟨some 'u', "user-data".toList, .store none⟩

/-- `-s`, `--spot`. -/
def spotOption : OptionSpec := ⟨some 's', "spot".toList, .storeTrue (some false)⟩

/-- `--security-group`. -/
def securityGroupOption : OptionSpec := ⟨none, "security-group".toList, .append (some [])⟩

/-- `--stdin-user-data`. -/
def stdinUserDataOption : OptionSpec := ⟨none, "stdin-user-data".toList, .storeTrue (some false)⟩

/-- `--stdin-json`. -/
def stdinJsonOption : OptionSpec := ⟨none, "stdin-json".toList, .storeTrue (some false)⟩

/-- The options of `ec2-run`. -/
def ec2RunOptions (userName : Text) : List OptionSpec :=
  [amiOption, countOption, keyNameOption userName, availabilityZoneOption, placementGroupOption,
    instanceTypeOption, userDataOption, spotOption, securityGroupOption, stdinUserDataOption,
    stdinJsonOption]

/-- No two options set the same attribute. -/
theorem dests_nodup_ec2RunOptions (userName : Text) :
    ((ec2RunOptions userName).map OptionSpec.dest).Nodup := by
  change ((ec2RunOptions []).map OptionSpec.dest).Nodup
  decide +kernel

/-- The option that sets the key, its `dest`; only a document can have a `placement`. -/
def RequestKey.option (userName : Text) : RequestKey → Option OptionSpec
  | .imageId => some amiOption
  | .count => some countOption
  | .keyName => some (keyNameOption userName)
  | .availabilityZone => some availabilityZoneOption
  | .placementGroup => some placementGroupOption
  | .instanceType => some instanceTypeOption
  | .securityGroups => some securityGroupOption
  | .userData => some userDataOption
  | .useSpot => some spotOption
  | .placement => none

/-- An option that sets a key is one of the options. -/
theorem mem_ec2RunOptions {userName : Text} {key : RequestKey} {option : OptionSpec}
    (hoption : key.option userName = some option) : option ∈ ec2RunOptions userName := by
  cases key <;> cases hoption <;> simp [ec2RunOptions]

/-! ### `ec2-run` -/

/-- What ends `ec2-run` without a call of EC2. -/
inductive RunnerExit
  | parser (reason : ParserExit)
  | tooManyArguments
  | keyNameRequired
  | raised (error : PyError)
  deriving DecidableEq, Repr

/-- What `ec2-run` finds: the user it runs for, the cost of the user's running instances, and what
`simplejson` reads from a text. -/
structure Ec2Run where
  user : User
  oldCost : PyNumber
  load : Text → Except PyError Request

/-- What the parser has for an attribute. -/
def RequestValue.ofOption : Option OptValue → RequestValue
  | .none => .none
  | some (.text value) => .string (.str value)
  | some (.texts values) => .strings (values.map .str)
  | some (.flag value) => .bool value
  | some (.number value) => .number (.int value)

/-- The request of the options. -/
def optionsRequest (userName : Text) (opt : OptValues) : Request := fun key ↦
  (key.option userName).map fun option ↦ .ofOption (opt option.dest)

/-- `base64.b64decode`. -/
def b64decode : RequestValue → Except PyError Text
  | .string value => do
    let encoded ← value.toStr
    match Base64.decode encoded with
    | some bytes => return ofBytes bytes
    | none => .error .typeError
  | _ => .error .typeError

/-- The request of a document. -/
def documentRequest (load : Text → Except PyError Request) (stdin : Text) :
    Except PyError Request := do
  let request ← load stdin
  match request .userData with
  | some encoded => do
    let userData ← b64decode encoded
    return request.set .userData (.string (.str userData))
  | none => return request

/-- The flag holds `True`. -/
def isSet (opt : OptValues) (option : OptionSpec) : Bool := opt option.dest = some (.flag true)

/-- The request that `ec2-run` starts from. -/
def givenRequest (run : Ec2Run) (opt : OptValues) (stdin : Text) : Except PyError Request :=
  if isSet opt stdinJsonOption then documentRequest run.load stdin
  else .ok (optionsRequest run.user.userName opt)

/-- The check of the key name. -/
def checkKeyName (userName : Text) (request : Request) : Except RunnerExit Unit :=
  match request .keyName with
  | none => .error .keyNameRequired
  | some value => do
    let keyName ← value.toStr.mapError .raised
    if userName.isPrefixOf keyName then return else .error .keyNameRequired

/-- `placement` stands in for a missing `availability_zone`. -/
def withZone (request : Request) : Request :=
  match request .availabilityZone, request .placement with
  | none, some placement => request.set .availabilityZone placement
  | _, _ => request

/-- The user data of the standard input, of which a document has left nothing. -/
def withStdinUserData (opt : OptValues) (stdin : Text) (request : Request) : Request :=
  if isSet opt stdinUserDataOption then
    request.set .userData (.string (.str (if isSet opt stdinJsonOption then [] else stdin)))
  else request

/-- `ec2-run` once it has parsed its options. -/
def runOptions (run : Ec2Run) (stdin : Text) (opt : OptValues) : Except RunnerExit LaunchCall := do
  let request ← (givenRequest run opt stdin).mapError .raised
  checkKeyName run.user.userName request
  if run.user.accessKeys = [] then
    .error (.raised (.exception ("No access keys for ".toList ++ run.user.userName)))
  else
    (runInstancesOf run.user.userName run.oldCost
      (withStdinUserData opt stdin (withZone request))).mapError .raised

/-- `ec2-run` with a standard input and a command line, up to the call it makes of EC2. -/
def ec2Run (run : Ec2Run) (stdin : Text) (words : List Text) : Except RunnerExit LaunchCall := do
  let (occurrences, args) ← (parseArgs (ec2RunOptions run.user.userName) words).mapError .parser
  if args ≠ [] then .error .tooManyArguments
  else
    let opt := occurrences.foldl process (defaultValues (ec2RunOptions run.user.userName))
    runOptions run stdin opt

/-! ### What `ec2-run` does with a dictionary -/

section Completed

variable {userName stdin : Text} {opt : OptValues} {request : Request} {run : Ec2Run}

/-- The zone as it stands under either of its keys. -/
theorem withZone_availabilityZone (request : Request) :
    withZone request .availabilityZone =
      (request .availabilityZone).or (request .placement) := by
  unfold withZone
  cases hzone : request .availabilityZone with
  | some zone => exact hzone
  | none =>
    cases hplacement : request .placement with
    | some placement => exact Request.set_self _ _ _
    | none => exact hzone

theorem withZone_of_ne {key : RequestKey} (hother : key ≠ .availabilityZone) :
    withZone request key = request key := by
  unfold withZone
  cases request .availabilityZone with
  | some zone => rfl
  | none =>
    cases request .placement with
    | some placement => exact Request.set_of_ne hother _
    | none => rfl

theorem withStdinUserData_of_ne {key : RequestKey} (hother : key ≠ .userData) :
    withStdinUserData opt stdin request key = request key := by
  unfold withStdinUserData
  by_cases hset : isSet opt stdinUserDataOption = true
  · rw [if_pos hset]
    exact Request.set_of_ne hother _
  · rw [if_neg hset]

/-- A wrapped error does not change what is returned. -/
theorem mapError_eq_ok_iff {Error Other Value : Type} {wrap : Error → Other}
    {first : Except Error Value} {value : Value} :
    first.mapError wrap = .ok value ↔ first = .ok value :=
  ⟨ok_of_mapError, fun hfirst ↦ by rw [hfirst]; rfl⟩

/-- The check of a key name that is a `str`, or a `unicode` that `str` accepts. -/
theorem checkKeyName_of_some {value : RequestValue} {keyName : Text}
    (hentry : request .keyName = some value) (hstr : value.toStr = .ok keyName)
    (hstarts : userName <+: keyName) : checkKeyName userName request = .ok () := by
  simp only [checkKeyName, hentry, hstr]
  change (if userName.isPrefixOf keyName = true then _ else _) = _
  rw [if_pos (List.isPrefixOf_iff_prefix.mpr hstarts)]
  rfl

theorem checkKeyName_of_error {value : RequestValue} {error : PyError}
    (hentry : request .keyName = some value) (hstr : value.toStr = .error error) :
    checkKeyName userName request = .error (.raised error) := by
  simp only [checkKeyName, hentry, hstr]
  rfl

/-- A command whose request passes the check of the key name. -/
theorem runOptions_of_checked (hgiven : givenRequest run opt stdin = .ok request)
    (hkey : checkKeyName run.user.userName request = .ok ()) {info : InstanceInfo}
    (hreads : (withStdinUserData opt stdin (withZone request)).Reads info) {call : LaunchCall} :
    runOptions run stdin opt = .ok call ↔ run.user.accessKeys ≠ [] ∧
      runInstancesWith run.user.userName run.oldCost info = .ok call := by
  have hrun : runOptions run stdin opt = if run.user.accessKeys = [] then
      .error (.raised (.exception ("No access keys for ".toList ++ run.user.userName)))
      else (runInstancesWith run.user.userName run.oldCost info).mapError .raised := by
    rw [runOptions, hgiven]
    change (checkKeyName run.user.userName request >>= fun _ ↦ _) = _
    rw [hkey, ← runInstancesOf_eq hreads]
    rfl
  rw [hrun]
  split_ifs with hkeys
  · exact iff_of_false (by simp) fun hcall ↦ hcall.1 hkeys
  · rw [mapError_eq_ok_iff]
    exact (and_iff_right hkeys).symm

/-- The command line that asks for a document. -/
theorem parseArgs_stdinJson (userName : Text) :
    parseArgs (ec2RunOptions userName) ["--stdin-json".toList] =
      .ok ([⟨stdinJsonOption, []⟩], []) := by
  have hfind : (parserOptions (ec2RunOptions userName)).find? (·.long = stdinJsonOption.long) =
      some (.declared stdinJsonOption) := rfl
  exact parseArgs_flag hfind rfl (by decide +kernel) (by decide +kernel)

/-- The user data of a document is decoded. -/
theorem documentRequest_of_encoded {load : Text → Except PyError Request} {value : PyString}
    {bytes : List UInt8} (hload : load stdin = .ok request)
    (hentry : request .userData = some (.string value))
    (hstr : value.toStr = .ok (Base64.encode bytes)) :
    documentRequest load stdin = .ok (request.set .userData (.string (.str (ofBytes bytes)))) := by
  have hdecoded : b64decode (.string value) = .ok (ofBytes bytes) := by
    rw [b64decode, hstr]
    change (match Base64.decode (Base64.encode bytes) with
      | some bytes => _
      | none => _) = _
    rw [Base64.decode_encode]
    rfl
  rw [documentRequest, hload]
  change (match request .userData with
    | some encoded => _
    | none => _) = _
  rw [hentry]
  change (b64decode (.string value) >>= fun _ ↦ _) = _
  rw [hdecoded]
  rfl

/-- A command line without arguments. -/
theorem ec2Run_of_parse {words : List Text} {occurrences : List Occurrence}
    (hparse : parseArgs (ec2RunOptions run.user.userName) words = .ok (occurrences, [])) :
    ec2Run run stdin words = runOptions run stdin
      (occurrences.foldl process (defaultValues (ec2RunOptions run.user.userName))) := by
  rw [ec2Run, hparse]
  rfl

end Completed

/-! ### What the options hold -/

section Options

variable {userName stdin : Text} {occurrences : List Occurrence} {run : Ec2Run}

/-- What an option holds at the end. -/
def held (option : OptionSpec) (occurrences : List Occurrence) : Option OptValue :=
  (option.given occurrences).or option.default

/-- A flag that is off unless it is given is on exactly when it is given. -/
theorem held_flag_iff {option : OptionSpec} (hflag : option.action = .storeTrue (some false)) :
    held option occurrences = some (.flag true) ↔ option.IsGiven occurrences := by
  rw [← given_isSome_iff, held, OptionSpec.given, OptionSpec.default, hflag]
  cases (option.argumentsIn occurrences).getLast? with
  | none => simp
  | some last => simp

/-- The parsed options hold what the occurrences give them. -/
def HoldOptions (userName : Text) (opt : OptValues) (occurrences : List Occurrence) : Prop :=
  ∀ option ∈ ec2RunOptions userName, opt option.dest = held option occurrences

/-- What is parsed holds what the occurrences give. -/
theorem holdOptions_of_parse {words args : List Text}
    (hparse : parseArgs (ec2RunOptions userName) words = .ok (occurrences, args)) :
    HoldOptions userName
      (occurrences.foldl process (defaultValues (ec2RunOptions userName))) occurrences :=
  fun _ hoption ↦ values_eq (dests_nodup_ec2RunOptions userName) (declared_parseArgs hparse) hoption

variable {opt : OptValues}

theorem isSet_stdinJson (hopt : HoldOptions userName opt occurrences) :
    isSet opt stdinJsonOption = true ↔ stdinJsonOption.IsGiven occurrences := by
  rw [isSet, hopt _ (by simp [ec2RunOptions]), decide_eq_true_eq, held_flag_iff rfl]

theorem isSet_stdinUserData (hopt : HoldOptions userName opt occurrences) :
    isSet opt stdinUserDataOption = true ↔ stdinUserDataOption.IsGiven occurrences := by
  rw [isSet, hopt _ (by simp [ec2RunOptions]), decide_eq_true_eq, held_flag_iff rfl]

/-- The entry of an option. -/
theorem optionsRequest_of_option (hopt : HoldOptions userName opt occurrences) {key : RequestKey}
    {option : OptionSpec} (hoption : key.option userName = some option) :
    optionsRequest userName opt key = some (.ofOption (held option occurrences)) := by
  rw [optionsRequest, hoption, Option.map_some, hopt option (mem_ec2RunOptions hoption)]

theorem givenRequest_of_options (hopt : HoldOptions run.user.userName opt occurrences)
    (hnot : ¬ stdinJsonOption.IsGiven occurrences) :
    givenRequest run opt stdin = .ok (optionsRequest run.user.userName opt) :=
  if_neg (mt (isSet_stdinJson hopt).mp hnot)

end Options

/-! ### Documents -/

/-- The command line has `ec2-run` read a document. -/
def AsksForDocument (occurrences : List Occurrence) : Prop :=
  stdinJsonOption.IsGiven occurrences ∧ ¬ stdinUserDataOption.IsGiven occurrences

section Documents

variable {run : Ec2Run} {occurrences : List Occurrence} {stdin keyName : Text} {words : List Text}
variable {document decoded : Request} {value : RequestValue} {call : LaunchCall}

/-- The request of a command line that asks for a document. -/
theorem givenRequest_of_document {opt : OptValues}
    (hopt : HoldOptions run.user.userName opt occurrences) (hasks : AsksForDocument occurrences)
    (hdecoded : documentRequest run.load stdin = .ok decoded) :
    givenRequest run opt stdin = .ok decoded := by
  rw [givenRequest, if_pos ((isSet_stdinJson hopt).mpr hasks.1), hdecoded]

/-- A document whose key name passes the check. -/
theorem ec2Run_of_document
    (hparse : parseArgs (ec2RunOptions run.user.userName) words = .ok (occurrences, []))
    (hasks : AsksForDocument occurrences)
    (hdecoded : documentRequest run.load stdin = .ok decoded)
    (hentry : decoded .keyName = some value)
    (hstr : value.toStr = .ok keyName) (hstarts : run.user.userName <+: keyName)
    {info : InstanceInfo} (hreads : (withZone decoded).Reads info) :
    ec2Run run stdin words = .ok call ↔ run.user.accessKeys ≠ [] ∧
      runInstancesWith run.user.userName run.oldCost info = .ok call := by
  have hopt := holdOptions_of_parse hparse
  rw [ec2Run_of_parse hparse, runOptions_of_checked (givenRequest_of_document hopt hasks hdecoded)
    (checkKeyName_of_some hentry hstr hstarts)]
  rw [withStdinUserData, if_neg (mt (isSet_stdinUserData hopt).mp hasks.2)]
  exact hreads

/-- A document with a key name that `str` does not accept is refused. -/
theorem ec2Run_document_refused
    (hparse : parseArgs (ec2RunOptions run.user.userName) words = .ok (occurrences, []))
    (hasks : AsksForDocument occurrences)
    (hdecoded : documentRequest run.load stdin = .ok decoded)
    (hentry : decoded .keyName = some value)
    {error : PyError} (hstr : value.toStr = .error error) :
    ec2Run run stdin words ≠ .ok call := by
  intro haccepted
  rw [ec2Run_of_parse hparse] at haccepted
  obtain ⟨request, hgiven, haccepted⟩ := ok_of_bind haccepted
  rw [givenRequest_of_document (holdOptions_of_parse hparse) hasks hdecoded] at hgiven
  cases hgiven
  obtain ⟨_, hkey, _⟩ := ok_of_bind haccepted
  rw [checkKeyName_of_error hentry hstr] at hkey
  cases hkey

end Documents

end Ec2Wrappers.Subaccounts
