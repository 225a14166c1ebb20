import Ec2Wrappers.HadoopCloud.ClusterGroups
import Ec2Wrappers.Subaccounts.LaunchRequests

/-!
# Launching through the privileged program

`launch_instances` of `Ec2Cluster`, which calls EC2 itself, and of `CS61CEc2Cluster` of
`cs61cec2.py`, which writes a JSON document to `ec2-run --stdin-json` and reads the ids of the
instances from what that prints. `simplejson`, the compression of the user data and what EC2 answers
to a call are parameters; `GzipFile` writes the time into its header, so the two launches are
compared at one moment. The texts are `str`, as the command line and the configuration give them,
and a launch has a key name.

On the way the request is renamed, its user data encoded, and its zone put under `placement`. What
`simplejson` loads equals what was dumped in Python's sense, so it may have other kinds of strings
(`LoadedFrom`). `reads_loaded` says that the dictionary `run_instances` gets reads as the arguments
of the launch for all that, and `ec2Run_of_accepted` that `ec2-run` then makes the call that
`Ec2Cluster` makes; `cs61cLaunch_eq` is the equality of the two launches, and the call they make.
-/

set_option autoImplicit false
set_option relaxedAutoImplicit false

namespace Ec2Wrappers.HadoopCloud

open Foundations Aws Subaccounts

/-! ### The two launches -/

/-- The arguments of `launch_instances`, with the keyword arguments it reads. -/
structure LaunchArguments where
  roles : List Text
  number : ℤ
  imageId : Text
  sizeId : Text
  instanceUserData : List UInt8
  keyName : Text
  placement : Option Text
  placementGroup : Option Text
  securityGroups : List Text
  useSpot : Bool
  deriving DecidableEq, Repr

/-- What a launch works with: `ec2-run` for the user, `simplejson` on the sides of the cluster, the
compression, and the ids that EC2 answers with. -/
structure LaunchEnvironment where
  run : Ec2Run
  dump : Request → Text
  dumpIds : List Text → Text
  loadIds : Text → Except PyError (List Text)
  gzip : List UInt8 → List UInt8
  answer : LaunchCall → Except PyError (List Text)

/-- The account, and the calls that EC2 has got to launch instances. -/
structure LaunchAccount where
  shared : SharedAccount
  issued : List LaunchCall

/-- Make the groups of the roles, and name them. -/
def prepareGroups (name : Text) (roles : List Text) : Py LaunchAccount (List Text) :=
  Py.within LaunchAccount.shared (fun account shared ↦ { account with shared := shared }) do
    Py.forEach roles fun role ↦ do
      Py.ofExcept (checkRoleName role)
      createGroups name role
    Py.ofExcept (getGroupNames name roles)

/-- A call of EC2; the ids of the instances or of the spot requests that it answers with. -/
def issue (answer : LaunchCall → Except PyError (List Text)) (call : LaunchCall) :
    Py LaunchAccount (List Text) := fun account ↦
  (answer call, { account with issued := account.issued ++ [call] })

section Launch

variable (environment : LaunchEnvironment) (name : Text) (args : LaunchArguments)

/-- `read_as_gzip_stream`. -/
def LaunchEnvironment.userData : List UInt8 := environment.gzip args.instanceUserData

/-- The call of `Ec2Cluster.launch_instances`. -/
def LaunchEnvironment.directCall (securityGroups : List Text) : LaunchCall :=
  .runInstances (some args.imageId) (.number (.int args.number)) (.number (.int args.number))
    args.keyName securityGroups (some (ofBytes (environment.userData args))) args.sizeId
    args.placement

/-- `Ec2Cluster.launch_instances`. -/
def ec2LaunchInstances : Py LaunchAccount (List Text) := do
  let groupNames ← prepareGroups name args.roles
  issue environment.answer (environment.directCall args (groupNames ++ args.securityGroups))

/-- A keyword argument that may be `None`. -/
def optionalString : Option Text → RequestValue
  | some value => .string (.str value)
  | none => .none

/-- The request of `CS61CEc2Cluster.launch_instances`. -/
def LaunchEnvironment.request (securityGroups : List Text) : Request
  | .imageId => some (.string (.str args.imageId))
  | .count => some (.number (.int args.number))
  | .keyName => some (.string (.str args.keyName))
  | .securityGroups => some (.strings (securityGroups.map .str))
  | .instanceType => some (.string (.str args.sizeId))
  | .placement => some (optionalString args.placement)
  | .placementGroup => some (optionalString args.placementGroup)
  | .useSpot => some (.bool args.useSpot)
  | .userData => some (.string (.str (Base64.encode (environment.userData args))))
  | .availabilityZone => none

/-- `ec2-run --stdin-json` as a process, with what it prints: the ids, or nothing when it fails. -/
def ec2RunProcess (stdin : Text) : Py LaunchAccount Text := fun account ↦
  match ec2Run environment.run stdin ["--stdin-json".toList] with
  | .error _ => (.ok [], account)
  | .ok call =>
    match issue environment.answer call account with
    | (.ok ids, after) => (.ok (environment.dumpIds ids), after)
    | (.error _, after) => (.ok [], after)

/-- `CS61CEc2Cluster.launch_instances`; `wait_for_spot_instances` is a method and no global name. -/
def cs61cLaunchInstances : Py LaunchAccount (List Text) := do
  let groupNames ← prepareGroups name args.roles
  let stdout ← ec2RunProcess environment
    (environment.dump (environment.request args (groupNames ++ args.securityGroups)))
  let result ← Py.ofExcept (environment.loadIds stdout)
  if args.useSpot then Py.raise (.nameError "wait_for_spot_instances".toList) else return result

/-! ### What is assumed -/

/-- The security groups of the launch. -/
def LaunchArguments.groups : List Text :=
  (name :: args.roles.map (roleGroup name)) ++ args.securityGroups

/-- The entries of the request that `run_instances` uses. -/
def LaunchEnvironment.info : InstanceInfo where
  imageId := some args.imageId
  count := .number (.int args.number)
  keyName := some args.keyName
  instanceType := args.sizeId
  securityGroups := args.groups name
  userData := some (some (ofBytes (environment.userData args)))
  availabilityZone := args.placement
  useSpot := args.useSpot

/-- `run_instances` accepts the request. It lists the running instances with the user's access keys,
so there are some. -/
def LaunchEnvironment.Accepts : Prop :=
  environment.run.user.accessKeys ≠ [] ∧
    ∃ call, runInstancesWith environment.run.user.userName environment.run.oldCost
      (environment.info name args) = .ok call

end Launch

/-- A value as it is loaded from what was dumped: equal in Python, and of the same type up to the
kind of its strings. -/
inductive LoadedFrom : RequestValue → RequestValue → Prop
  | none : LoadedFrom .none .none
  | bool (value : Bool) : LoadedFrom (.bool value) (.bool value)
  | number (value : PyNumber) : LoadedFrom (.number value) (.number value)
  | string {dumped loaded : PyString} (hequal : dumped.Equal loaded) :
    LoadedFrom (.string dumped) (.string loaded)
  | strings {dumped loaded : List PyString} (hequal : List.Forall₂ PyString.Equal dumped loaded) :
    LoadedFrom (.strings dumped) (.strings loaded)

/-- Loading undoes dumping on the request of a launch and on the ids that EC2 answers with, and
nothing is loaded from an empty text. -/
structure LaunchEnvironment.LoadUndoesDump (environment : LaunchEnvironment) (name : Text)
    (args : LaunchArguments) : Prop where
  request : ∃ loaded, environment.run.load (environment.dump (environment.request args
    (args.groups name))) = .ok loaded ∧ ∀ key,
      Option.Rel LoadedFrom (environment.request args (args.groups name) key) (loaded key)
  ids : ∀ call ids, environment.answer call = .ok ids →
    environment.loadIds (environment.dumpIds ids) = .ok ids
  empty : ∀ ids, environment.loadIds [] ≠ .ok ids

/-! ### What is loaded reads as what was dumped -/

namespace LoadedFrom

variable {t : Text} {texts : List Text} {entry : RequestValue}

theorem text_eq (hentry : LoadedFrom (.string (.str t)) entry) : entry.text = .ok (some t) := by
  cases hentry with
  | string hequal => exact congrArg (fun bytes ↦ Except.ok (some bytes)) hequal.bytes_eq

theorem typeName_eq (hentry : LoadedFrom (.string (.str t)) entry) : entry.typeName = .ok t := by
  cases hentry with
  | string hequal => exact congrArg Except.ok hequal.bytes_eq

theorem toStr_eq (hentry : LoadedFrom (.string (.str t)) entry) : entry.toStr = .ok t := by
  cases hentry with
  | string hequal => exact hequal.toStr_eq

theorem texts_eq (hentry : LoadedFrom (.strings (texts.map .str)) entry) :
    entry.texts = .ok texts := by
  cases hentry with
  | strings hequal => exact congrArg Except.ok (PyString.map_bytes_of_equal hequal)

theorem factor_eq {number : PyNumber} (hentry : LoadedFrom (.number number) entry) :
    entry.factor = .ok (.number number) := by
  cases hentry
  rfl

theorem truth_eq {flag : Bool} (hentry : LoadedFrom (.bool flag) entry) :
    entry.truth = .ok flag := by
  cases hentry
  rfl

/-- A keyword argument that may be `None` reads as its text or `None`. -/
theorem text_optional {value : Option Text} (hentry : LoadedFrom (optionalString value) entry) :
    entry.text = .ok value := by
  cases value with
  | some t => exact hentry.text_eq
  | none =>
    cases hentry
    rfl

end LoadedFrom

section Loaded

variable {dumped loaded : Request}

/-- An entry that was dumped is loaded. -/
theorem loaded_of_some (hloaded : ∀ key, Option.Rel LoadedFrom (dumped key) (loaded key))
    {key : RequestKey} {value : RequestValue} (hentry : dumped key = some value) :
    ∃ entry, loaded key = some entry ∧ LoadedFrom value entry := by
  have hkey := hloaded key
  rw [hentry] at hkey
  generalize loaded key = entry at hkey
  cases hkey with
  | some hvalue => exact ⟨_, rfl, hvalue⟩

/-- What is missing is loaded as missing. -/
theorem loaded_of_none (hloaded : ∀ key, Option.Rel LoadedFrom (dumped key) (loaded key))
    {key : RequestKey} (hentry : dumped key = none) : loaded key = none := by
  have hkey := hloaded key
  rw [hentry] at hkey
  generalize loaded key = entry at hkey
  cases hkey
  rfl

variable {environment : LaunchEnvironment} {name : Text} {args : LaunchArguments}

/-- The dictionary that `run_instances` gets reads as the arguments of the launch. -/
theorem reads_loaded (hloaded : ∀ key, Option.Rel LoadedFrom
      (environment.request args (args.groups name) key) (loaded key)) :
    (withZone (loaded.set .userData
      (.string (.str (ofBytes (environment.userData args)))))).Reads
      (environment.info name args) := by
  have hread {Value : Type} {key : RequestKey} {value : RequestValue} {result : Value}
      {reader : RequestValue → Except PyError Value} (hzone : key ≠ .availabilityZone)
      (hdata : key ≠ .userData)
      (hentry : environment.request args (args.groups name) key = some value)
      (hreader : ∀ {entry}, LoadedFrom value entry → reader entry = .ok result) :
      (withZone (loaded.set .userData
        (.string (.str (ofBytes (environment.userData args)))))).read key reader = .ok result := by
    obtain ⟨entry, hkey, hfrom⟩ := loaded_of_some hloaded hentry
    rw [← hreader hfrom]
    exact Request.read_of_some
      (by rw [withZone_of_ne hzone, Request.set_of_ne hdata, hkey])
  exact
    { imageId := hread (by decide) (by decide) rfl LoadedFrom.text_eq
      count := hread (by decide) (by decide) rfl LoadedFrom.factor_eq
      keyName := hread (by decide) (by decide) rfl LoadedFrom.text_eq
      instanceType := hread (by decide) (by decide) rfl LoadedFrom.typeName_eq
      securityGroups := hread (by decide) (by decide) rfl LoadedFrom.texts_eq
      userData := by
        have hentry : withZone (loaded.set .userData
            (.string (.str (ofBytes (environment.userData args))))) .userData =
              some (.string (.str (ofBytes (environment.userData args)))) :=
          (withZone_of_ne (by decide)).trans (Request.set_self _ _ _)
        exact Request.optionalText_of_some hentry rfl
      availabilityZone := by
        -- the zone stands under `placement`, and there is none under its own key
        obtain ⟨entry, hplacement, hfrom⟩ := loaded_of_some hloaded
          (show environment.request args (args.groups name) .placement = some _ from rfl)
        have hzone := loaded_of_none hloaded
          (show environment.request args (args.groups name) .availabilityZone = none from rfl)
        refine ⟨_, Request.optionalText_of_some ?_ hfrom.text_optional, rfl⟩
        rw [withZone_availabilityZone, Request.set_of_ne (by decide), Request.set_of_ne (by decide),
          hzone, hplacement, Option.none_or]
      useSpot := hread (by decide) (by decide) rfl LoadedFrom.truth_eq }

/-- `ec2-run` makes the call of a request that `run_instances` accepts. -/
theorem ec2Run_of_accepted (hjson : environment.LoadUndoesDump name args) {call : LaunchCall}
    (hkeys : environment.run.user.accessKeys ≠ [])
    (haccepted : runInstancesWith environment.run.user.userName environment.run.oldCost
      (environment.info name args) = .ok call) :
    ec2Run environment.run (environment.dump (environment.request args (args.groups name)))
      ["--stdin-json".toList] = .ok call := by
  obtain ⟨loaded, hload, hloaded⟩ := hjson.request
  obtain ⟨entry, huserData, hfrom⟩ := loaded_of_some hloaded
    (show environment.request args (args.groups name) .userData = some _ from rfl)
  obtain ⟨encoded, rfl, hencoded⟩ : ∃ encoded, entry = .string encoded ∧
      encoded.toStr = .ok (Base64.encode (environment.userData args)) := by
    cases hfrom with
    | string hequal => exact ⟨_, rfl, hequal.toStr_eq⟩
  have hdecoded := documentRequest_of_encoded hload huserData hencoded
  obtain ⟨keyEntry, hkeyName, hkeyFrom⟩ := loaded_of_some hloaded
    (show environment.request args (args.groups name) .keyName = some _ from rfl)
  obtain ⟨_, _, _, hname, hstarts, -⟩ := runInstancesWith_accepted haccepted
  cases hname
  have hasks : AsksForDocument [⟨stdinJsonOption, []⟩] := ⟨by decide +kernel, by decide +kernel⟩
  exact (ec2Run_of_document (parseArgs_stdinJson _) hasks hdecoded
    ((Request.set_of_ne (by decide) _).trans hkeyName) hkeyFrom.toStr_eq hstarts
    (reads_loaded hloaded)).mpr ⟨hkeys, haccepted⟩

/-- The call of an accepted request is the one that `Ec2Cluster` makes, unless it is for spot
instances. -/
theorem directCall_of_accepted {call : LaunchCall} (hspot : args.useSpot = false)
    (haccepted : runInstancesWith environment.run.user.userName environment.run.oldCost
      (environment.info name args) = .ok call) :
    environment.directCall args (args.groups name) = call := by
  obtain ⟨_, _, _, hname, -, -, -, -, hcall⟩ := runInstancesWith_accepted haccepted
  cases hname
  rw [launchCall, if_neg (by simp [LaunchEnvironment.info, hspot])] at hcall
  exact Except.ok.inj hcall

end Loaded

/-! ### The two launches agree -/

section Agreement

variable {environment : LaunchEnvironment} {name : Text} {args : LaunchArguments}
variable {account after : LaunchAccount}

/-- The groups that are made and named. -/
theorem groups_of_prepared {groupNames : List Text}
    (hprepared : prepareGroups name args.roles account = (.ok groupNames, after)) :
    groupNames ++ args.securityGroups = args.groups name := by
  have hnames : getGroupNames name args.roles = .ok groupNames := by
    unfold prepareGroups Py.within at hprepared
    rw [Py.bind_eq] at hprepared
    cases hmade : Py.forEach args.roles (fun role ↦ do
        Py.ofExcept (checkRoleName role)
        createGroups name role) account.shared with
    | mk result shared =>
      cases result with
      | error error =>
        rw [Py.run_bind_error hmade] at hprepared
        cases hprepared
      | ok made =>
        rw [Py.run_bind_ok hmade] at hprepared
        exact congrArg Prod.fst hprepared
  obtain ⟨-, rfl⟩ := getGroupNames_of_ok hnames
  rfl

/-- No call is issued for the groups. -/
theorem issued_of_prepared {groupNames : List Text}
    (hprepared : prepareGroups name args.roles account = (.ok groupNames, after)) :
    after.issued = account.issued :=
  (congrArg (fun run ↦ run.2.issued) hprepared).symm

/-- What `ec2-run` prints of a request that it makes the call of. -/
theorem ec2RunProcess_of_ok {stdin : Text} {call : LaunchCall}
    (hrun : ec2Run environment.run stdin ["--stdin-json".toList] = .ok call) :
    ec2RunProcess environment stdin account =
      (.ok (match environment.answer call with
        | .ok ids => environment.dumpIds ids
        | .error _ => []), { account with issued := account.issued ++ [call] }) := by
  unfold ec2RunProcess issue
  simp only [hrun]
  cases environment.answer call <;> rfl

/-- With `use_spot` off, a launch through `ec2-run` of a request that `run_instances` accepts leaves
the account as the direct launch does, and returns the same ids, if EC2 answers with any. Once the
groups are made it has issued one call more, the one of the arguments. -/
theorem cs61cLaunch_eq (hspot : args.useSpot = false) (haccepts : environment.Accepts name args)
    (hjson : environment.LoadUndoesDump name args) (account : LaunchAccount) :
    (cs61cLaunchInstances environment name args account).2 =
        (ec2LaunchInstances environment name args account).2 ∧
      (∀ ids, (cs61cLaunchInstances environment name args account).1 = .ok ids ↔
        (ec2LaunchInstances environment name args account).1 = .ok ids) ∧
      ∀ groupNames, (prepareGroups name args.roles account).1 = .ok groupNames →
        (cs61cLaunchInstances environment name args account).2.issued =
          account.issued ++ [environment.directCall args (args.groups name)] := by
  obtain ⟨hkeys, call, haccepted⟩ := haccepts
  have hrun := ec2Run_of_accepted hjson hkeys haccepted
  have hcall := directCall_of_accepted hspot haccepted
  unfold cs61cLaunchInstances ec2LaunchInstances
  rw [Py.bind_eq, Py.bind_eq]
  cases hprepared : prepareGroups name args.roles account with
  | mk result after =>
    cases result with
    | error error =>
      rw [Py.run_bind_error hprepared, Py.run_bind_error hprepared]
      exact ⟨rfl, fun ids ↦ Iff.rfl, fun groupNames hmade ↦ by cases hmade⟩
    | ok groupNames =>
      have hissued := issued_of_prepared hprepared
      rw [Py.run_bind_ok hprepared, Py.run_bind_ok hprepared, groups_of_prepared hprepared, hcall,
        Py.bind_eq, Py.run_bind_ok (ec2RunProcess_of_ok hrun), issue, Py.bind_eq]
      cases hanswer : environment.answer call with
      | ok ids =>
        simp only [hjson.ids call ids hanswer, hspot, hissued]
        exact ⟨rfl, fun ids ↦ Iff.rfl, fun _ _ ↦ rfl⟩
      | error error =>
        -- nothing is printed, and nothing can be loaded
        cases hloaded : environment.loadIds [] with
        | ok ids => exact absurd hloaded (hjson.empty ids)
        | error other =>
          simp only [hissued]
          exact ⟨rfl, fun ids ↦ iff_of_false (by rintro ⟨⟩) (by rintro ⟨⟩), fun _ _ ↦ rfl⟩

end Agreement

/-! ### A namenode launched for the user `aa` -/

/-- One small namenode in a zone, with a further security group. -/
def sampleArguments : LaunchArguments where
  roles := ["nn".toList]
  number := 1
  imageId := "ami-1".toList
  sizeId := "m1.small".toList
  instanceUserData := [104, 105]
  keyName := "aa-default".toList
  placement := some "us-east-1a".toList
  placementGroup := none
  securityGroups := ["extra".toList]
  useSpot := false

/-- The document of the launch. -/
def launchText : Text :=
  ("\x7b\"image_id\": \"ami-1\", \"count\": 1, \"key_name\": \"aa-default\", " ++
    "\"security_groups\": [\"c\", \"c-nn\", \"extra\"], \"instance_type\": \"m1.small\", " ++
    "\"placement\": \"us-east-1a\", \"placement_group\": null, \"use_spot\": false, " ++
    "\"user_data\": \"H4sIAABtfE0C/8vIBACsKpPYAgAAAA==\"\x7d").toList

/-- The document as it is loaded, every text a `unicode`. -/
def launchDocument : Request
  | .imageId => some (.string (.unicode "ami-1".toList))
  | .count => some (.number (.int 1))
  | .keyName => some (.string (.unicode "aa-default".toList))
  | .securityGroups =>
    some (.strings [.unicode "c".toList, .unicode "c-nn".toList, .unicode "extra".toList])
  | .instanceType => some (.string (.unicode "m1.small".toList))
  | .placement => some (.string (.unicode "us-east-1a".toList))
  | .placementGroup => some .none
  | .useSpot => some (.bool false)
  | .userData => some (.string (.unicode "H4sIAABtfE0C/8vIBACsKpPYAgAAAA==".toList))
  | .availabilityZone => none

/-- The ids that EC2 answers with. -/
def launchedIds : List Text := ["i-1".toList]

/-- What `ec2-run` prints of them. -/
def launchedText : Text := "[\"i-1\"]".toList

/-- What a text that is no document ends with. -/
def decodeError : PyError := .library "JSONDecodeError".toList "Expecting value".toList

/-- The user has an access key and no running instances. -/
def launchEnvironment : LaunchEnvironment where
  run :=
    { user := ⟨"aa".toList, [⟨"AKIA1".toList, "secret".toList⟩]⟩
      oldCost := .int 0
      load := fun text ↦ if text = launchText then .ok launchDocument else .error decodeError }
  dump _ := launchText
  dumpIds _ := launchedText
  loadIds text := if text = launchedText then .ok launchedIds else .error decodeError
  gzip _ := [31, 139, 8, 0, 0, 109, 124, 77, 2, 255, 203, 200, 4, 0, 172, 42, 147, 216, 2, 0, 0, 0]
  answer _ := .ok launchedIds

theorem load_launchText : launchEnvironment.run.load launchText = .ok launchDocument := by
  simp only [launchEnvironment, if_true]

theorem launchDocument_loadedFrom (key : RequestKey) : Option.Rel LoadedFrom
    (launchEnvironment.request sampleArguments (sampleArguments.groups "c".toList) key)
    (launchDocument key) := by
  have hunicode {t : Text} (hascii : IsAscii t) : (PyString.str t).Equal (.unicode t) :=
    ⟨hascii, rfl⟩
  cases key with
  | imageId | keyName | instanceType | placement =>
    exact .some (.string (hunicode (by decide +kernel)))
  | count => exact .some (.number _)
  | placementGroup => exact .some .none
  | useSpot => exact .some (.bool _)
  | availabilityZone => exact .none
  | userData => exact .some (.string ⟨by decide +kernel, by decide +kernel⟩)
  | securityGroups =>
    exact .some (.strings (.cons (hunicode (by decide +kernel))
      (.cons (hunicode (by decide +kernel)) (.cons (hunicode (by decide +kernel)) .nil))))

theorem loadIds_dumpIds : launchEnvironment.loadIds (launchEnvironment.dumpIds launchedIds) =
    .ok launchedIds := by
  simp only [launchEnvironment, if_true]

theorem loadIds_nil : launchEnvironment.loadIds [] = .error decodeError := by
  have hother : ([] : Text) ≠ launchedText := by decide +kernel
  simp only [launchEnvironment, if_neg hother]

theorem launchEnvironment_loadUndoesDump :
    launchEnvironment.LoadUndoesDump "c".toList sampleArguments where
  request := by
    refine ⟨launchDocument, ?_, launchDocument_loadedFrom⟩
    have hdump (request : Request) : launchEnvironment.dump request = launchText := by
      simp only [launchEnvironment]
    rw [hdump, load_launchText]
  ids := by
    intro call ids hanswer
    obtain rfl : launchedIds = ids := Except.ok.inj hanswer
    exact loadIds_dumpIds
  empty := by
    intro ids hloaded
    rw [loadIds_nil] at hloaded
    cases hloaded

theorem launchEnvironment_accepts : launchEnvironment.Accepts "c".toList sampleArguments :=
  ⟨by decide +kernel, launchEnvironment.directCall sampleArguments
    (sampleArguments.groups "c".toList), ok_of_toOption (by decide +kernel)⟩

theorem cs61cLaunch_eq_namenode :
    (cs61cLaunchInstances launchEnvironment "c".toList sampleArguments
          ⟨SharedAccount.empty, []⟩).2 =
        (ec2LaunchInstances launchEnvironment "c".toList sampleArguments
          ⟨SharedAccount.empty, []⟩).2 ∧
      (∀ ids, (cs61cLaunchInstances launchEnvironment "c".toList sampleArguments
          ⟨SharedAccount.empty, []⟩).1 = .ok ids ↔
        (ec2LaunchInstances launchEnvironment "c".toList sampleArguments
          ⟨SharedAccount.empty, []⟩).1 = .ok ids) ∧
      (cs61cLaunchInstances launchEnvironment "c".toList sampleArguments
          ⟨SharedAccount.empty, []⟩).2.issued =
        [launchEnvironment.directCall sampleArguments (sampleArguments.groups "c".toList)] := by
  have hprepared : (prepareGroups "c".toList sampleArguments.roles ⟨SharedAccount.empty, []⟩).1 =
      .ok ["c".toList, "c-nn".toList] := ok_of_toOption (by decide +kernel)
  obtain ⟨hsame, hids, hissued⟩ := cs61cLaunch_eq rfl launchEnvironment_accepts
    launchEnvironment_loadUndoesDump ⟨SharedAccount.empty, []⟩
  exact ⟨hsame, hids, hissued _ hprepared⟩

end Ec2Wrappers.HadoopCloud
