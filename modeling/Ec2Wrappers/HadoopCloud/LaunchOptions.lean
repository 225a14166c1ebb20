import Ec2Wrappers.HadoopCloud.LaunchCommands

/-!
# From the launch options to the requests

`Carries` says that a request has every launch option in its own place. Three things go wrong on the
way. No command passes on security groups or the spot flag, and `get_image_id` looks at `ami` for
`ec2` only. `launch-cluster` leaves out the private key among the positional arguments, so that
every argument after it comes to stand one place too early (`carries_clusterTemplateArguments_iff`).
`launch-slaves` adds the host variables character by character (`env_not_carried`).

`ReachCondition` says for which options and in which situations every request of a command carries
the options all the same, and `launch-cluster` makes the same requests as `launch-master` and
`launch-slaves` (`optionsReach_iff`).
-/

set_option autoImplicit false
set_option relaxedAutoImplicit false

namespace Ec2Wrappers.HadoopCloud

open Foundations

/-! ### What the options are to become -/

/-- The environment strings of the options. -/
def LaunchOptions.envTexts (opt : LaunchOptions) : List Text :=
  match opt.env with
  | none => []
  | some (.text value) => [value]
  | some (.texts values) => values

/-- The request has every launch option in its own place, the image as `image_id` or else `ami`, and
in the environment nothing else but host variables. -/
structure Carries (client : Client) (opt : LaunchOptions) (request : LaunchRequest client.order) :
    Prop where
  image : request.imageId = opt.imageId.or opt.ami
  instanceType : request.sizeId = opt.instanceType
  keyName : request.keyName = opt.keyName
  userDataFile : request.instanceUserData.filename =
    opt.userDataFile.getD (.text client.defaultUserDataFileTemplate)
  availabilityZone : request.placement = opt.availabilityZone
  userPackages : request.instanceUserData.environment.pairs.userPackages = opt.userPackages
  autoShutdown : request.instanceUserData.environment.pairs.autoShutdown = opt.autoShutdown
  env : ∃ hosts, (∀ host ∈ hosts, IsHostVariable host) ∧
    request.instanceUserData.environment.envStrings = opt.envTexts ++ hosts
  securityGroup : request.securityGroups = opt.securityGroup
  useSpot : request.useSpot = opt.useSpot

/-- The requests made of templates, before any host variable is added. -/
def bareRequests (client : Client) (templates : List InstanceTemplate) :
    List (Option (LaunchRequest client.order)) :=
  templates.map fun template ↦ (client.request template).toOption

/-- Every request of a command carries the options, and `launch-cluster` with one number makes the
requests of `launch-master` and `launch-slaves`, up to the host variables that are added. -/
structure OptionsReach (client : Client) (cloud : Cloud client.order) (command : Command)
    (opt : LaunchOptions) : Prop where
  carries : ∀ request ∈ requestsOf client cloud command opt, Carries client opt request
  same : ∀ numberOfSlaves, command = .launchCluster numberOfSlaves →
    bareRequests client
        (clusterTemplates numberOfSlaves (clusterTemplateArguments client.provider opt)) =
      bareRequests client [masterTemplate (templateArguments client.provider opt)] ++
        bareRequests client [slavesTemplate numberOfSlaves (templateArguments client.provider opt)]

/-! ### When they do -/

/-- The options that no command passes on are not used: there is an `image_id` where `ami` is not
looked at, no security group, and no spot flag. -/
def LaunchOptions.PassedOn (opt : LaunchOptions) (provider : Provider) : Prop :=
  (provider = .cs61cec2 → opt.imageId ≠ none) ∧ opt.securityGroup = [] ∧ opt.useSpot = false

/-- The environment strings are several texts, none, or a text of one character. -/
def LaunchOptions.EnvListed (opt : LaunchOptions) : Prop :=
  ∀ value, opt.env = some (.text value) → value.length = 1

/-- None of the options that `launch-cluster` puts in another's place is given. -/
def LaunchOptions.NoneShifted (opt : LaunchOptions) (client : Client) : Prop :=
  (opt.userDataFile = none ∨
      opt.userDataFile = some (.text client.defaultUserDataFileTemplate)) ∧
    opt.availabilityZone = none ∧ opt.userPackages = none ∧ opt.autoShutdown = none ∧
      opt.env = none

/-- No environment can be built of the options: a text has two equals signs, or something that is
quoted is several texts. -/
def LaunchOptions.Unbuildable (opt : LaunchOptions) : Prop :=
  (∃ env ∈ iterate opt.env, 1 < env.count '=') ∨ IsTexts opt.userPackages ∨ IsTexts opt.autoShutdown

/-- No environment can be built of the options as `launch-cluster` shifts them. -/
def LaunchOptions.ClusterUnbuildable (opt : LaunchOptions) : Prop :=
  (∃ env ∈ opt.securityGroup, 1 < env.count '=') ∨ IsTexts opt.autoShutdown ∨ IsTexts opt.env

/-- The credentials are not in the environment. -/
def Client.NoCredentials (client : Client) : Prop :=
  client.awsAccessKeyId = none ∨ client.awsSecretAccessKey = none

/-- The condition under which the options reach the requests of a command. -/
def ReachCondition (client : Client) (cloud : Cloud client.order) (opt : LaunchOptions) :
    Command → Prop
  | .launchMaster =>
    client.NoCredentials ∨ opt.Unbuildable ∨ cloud.namenodes ≠ [] ∨
      opt.PassedOn client.provider ∧ opt.EnvListed
  | .launchSlaves _ =>
    client.NoCredentials ∨ opt.Unbuildable ∨ cloud.namenodes.length ≠ 1
  | .launchCluster _ =>
    client.NoCredentials ∨ opt.Unbuildable ∧ opt.ClusterUnbuildable ∨
      opt.PassedOn client.provider ∧ opt.NoneShifted client
  | .launchClusterRoles groups =>
    client.NoCredentials ∨ opt.ClusterUnbuildable ∨ groups = [] ∨
      opt.PassedOn client.provider ∧ opt.NoneShifted client

/-! ### What the templates make of the options -/

section Templates

variable {client : Client} {opt : LaunchOptions} {request : LaunchRequest client.order}

/-- Once the check has passed, the image is the right one except for an `ami` that is not looked
at. -/
theorem getImageId_eq_iff {provider : Provider}
    (hset : checkLaunchOptionsSet provider opt = .ok ()) :
    getImageId provider opt = opt.imageId.or opt.ami ↔
      (provider = .cs61cec2 → opt.imageId ≠ none) := by
  cases himage : opt.imageId with
  | some image => simp [getImageId, himage]
  | none =>
    cases provider with
    | ec2 => simp [getImageId, himage]
    | cs61cec2 =>
      have hami : opt.ami ≠ none := by
        intro hami
        simp [checkLaunchOptionsSet, hami, himage] at hset
      simpa [getImageId, himage] using hami.symm
    | dummy => simp [checkLaunchOptionsSet, checkOptionsSet, himage] at hset

/-- A loop over the environment strings goes through the same texts exactly when they are listed. -/
theorem iterate_env_eq_iff : iterate opt.env = opt.envTexts ↔ opt.EnvListed := by
  unfold LaunchOptions.EnvListed LaunchOptions.envTexts
  match opt.env with
  | none => simp [iterate]
  | some (.texts values) => simp [iterate]
  | some (.text value) =>
    match value with
    | [] => simp [iterate, characters]
    | [c] => simp [iterate, characters]
    | c :: d :: rest => simp [iterate, characters]

/-- What it takes for a request to carry the options, read off its template. -/
theorem carries_iff {template : InstanceTemplate} (hrequested : client.Requested template request) :
    Carries client opt request ↔
      template.imageId = opt.imageId.or opt.ami ∧ template.sizeId = opt.instanceType ∧
      template.keyName = opt.keyName ∧
      template.userDataFileTemplate.getD (.text client.defaultUserDataFileTemplate) =
        opt.userDataFile.getD (.text client.defaultUserDataFileTemplate) ∧
      template.placement = opt.availabilityZone ∧ template.userPackages = opt.userPackages ∧
      template.autoShutdown = opt.autoShutdown ∧
      (∃ hosts, (∀ host ∈ hosts, IsHostVariable host) ∧
        iterate template.envStrings = opt.envTexts ++ hosts) ∧
      opt.securityGroup = [] ∧ opt.useSpot = false := by
  constructor
  · intro hcarries
    rw [← hrequested.imageId, ← hrequested.sizeId, ← hrequested.keyName, ← hrequested.filename,
      ← hrequested.placement, ← hrequested.userPackages, ← hrequested.autoShutdown,
      ← hrequested.envStrings, ← hrequested.securityGroups, ← hrequested.useSpot]
    exact ⟨hcarries.image, hcarries.instanceType, hcarries.keyName, hcarries.userDataFile,
      hcarries.availabilityZone, hcarries.userPackages, hcarries.autoShutdown, hcarries.env,
      hcarries.securityGroup.symm, hcarries.useSpot.symm⟩
  · rintro ⟨himage, hsize, hkey, hfile, hzone, hpackages, hshutdown, henv, hgroup, hspot⟩
    constructor
    · exact hrequested.imageId.trans himage
    · exact hrequested.sizeId.trans hsize
    · exact hrequested.keyName.trans hkey
    · exact hrequested.filename.trans hfile
    · exact hrequested.placement.trans hzone
    · exact hrequested.userPackages.trans hpackages
    · exact hrequested.autoShutdown.trans hshutdown
    · rw [hrequested.envStrings]
      exact henv
    · exact hrequested.securityGroups.trans hgroup.symm
    · exact hrequested.useSpot.trans hspot.symm

/-- What it takes with the arguments in the right places. -/
theorem carries_templateArguments_iff
    (hset : checkLaunchOptionsSet client.provider opt = .ok ()) {roles added : List Text}
    {number : ℤ} (hrequest : client.request ((InstanceTemplate.ofArguments roles number
      (templateArguments client.provider opt)).addEnvStrings added) = .ok request) :
    Carries client opt request ↔ opt.PassedOn client.provider ∧
      ∃ hosts, (∀ host ∈ hosts, IsHostVariable host) ∧
        iterate opt.env ++ added = opt.envTexts ++ hosts := by
  rw [carries_iff (requested_of_request hrequest), LaunchOptions.PassedOn,
    ← getImageId_eq_iff hset]
  constructor
  · rintro ⟨himage, -, -, -, -, -, -, henv, hgroup, hspot⟩
    exact ⟨⟨himage, hgroup, hspot⟩, henv⟩
  · rintro ⟨⟨himage, hgroup, hspot⟩, henv⟩
    exact ⟨himage, rfl, rfl, rfl, rfl, rfl, rfl, henv, hgroup, hspot⟩

/-- What it takes with the arguments of `launch-cluster`, each in the place before its own. -/
theorem carries_clusterTemplateArguments_iff
    (hset : checkLaunchOptionsSet client.provider opt = .ok ()) {roles added : List Text}
    {number : ℤ} (hrequest : client.request ((InstanceTemplate.ofArguments roles number
      (clusterTemplateArguments client.provider opt)).addEnvStrings added) = .ok request) :
    Carries client opt request ↔ opt.PassedOn client.provider ∧
      opt.availabilityZone.getD (.text client.defaultUserDataFileTemplate) =
        opt.userDataFile.getD (.text client.defaultUserDataFileTemplate) ∧
      opt.userPackages = opt.availabilityZone ∧ opt.autoShutdown = opt.userPackages ∧
      opt.env = opt.autoShutdown ∧
      ∃ hosts, (∀ host ∈ hosts, IsHostVariable host) ∧
        opt.securityGroup ++ added = opt.envTexts ++ hosts := by
  rw [carries_iff (requested_of_request hrequest), LaunchOptions.PassedOn,
    ← getImageId_eq_iff hset]
  constructor
  · rintro ⟨himage, -, -, hfile, hzone, hpackages, hshutdown, henv, hgroup, hspot⟩
    exact ⟨⟨himage, hgroup, hspot⟩, hfile, hzone, hpackages, hshutdown, henv⟩
  · rintro ⟨⟨himage, hgroup, hspot⟩, hfile, hzone, hpackages, hshutdown, henv⟩
    exact ⟨himage, rfl, rfl, hfile, hzone, hpackages, hshutdown, henv, hgroup, hspot⟩

/-- A loop over the environment strings goes through what was given exactly when they are listed. -/
theorem env_carried_iff : (∃ hosts, (∀ host ∈ hosts, IsHostVariable host) ∧
    iterate opt.env ++ [] = opt.envTexts ++ hosts) ↔ opt.EnvListed := by
  rw [← iterate_env_eq_iff, List.append_nil]
  constructor
  · rintro ⟨hosts, -, henv⟩
    unfold LaunchOptions.envTexts at henv ⊢
    match hopt : opt.env with
    | none => rfl
    | some (.texts values) => rfl
    | some (.text value) =>
      rw [hopt] at henv
      have hmem : value ∈ characters value := by
        change characters value = value :: hosts at henv
        rw [henv]
        exact List.mem_cons_self
      obtain ⟨c, -, hc⟩ := List.mem_map.mp hmem
      rw [← hc]
      rfl
  · intro henv
    exact ⟨[], by simp, by rw [henv, List.append_nil]⟩

/-- A host variable has more than one character. -/
theorem IsHostVariable.length_ne_one {host : Text} (hhost : IsHostVariable host) :
    host.length ≠ 1 := by
  obtain ⟨role, publicIp, rfl⟩ := hhost
  simp only [singletonHostEnv, List.length_append]
  have hname : "_HOST=".toList.length = 6 := rfl
  omega

/-- What `launch-slaves` adds are single characters. -/
theorem length_of_mem_slaveEnvStrings {master text : Text} (htext : text ∈ slaveEnvStrings master) :
    text.length = 1 := by
  obtain ⟨role, -, hmem⟩ := List.mem_flatMap.mp htext
  obtain ⟨c, -, rfl⟩ := List.mem_map.mp hmem
  rfl

/-- The characters that `launch-slaves` adds are no host variables. -/
theorem env_not_carried (master : Text) : ¬ ∃ hosts, (∀ host ∈ hosts, IsHostVariable host) ∧
    iterate opt.env ++ slaveEnvStrings master = opt.envTexts ++ hosts := by
  rintro ⟨hosts, hhosts, henv⟩
  obtain ⟨first, second, rest, hadded⟩ :
      ∃ first second rest, slaveEnvStrings master = first :: second :: rest := ⟨_, _, _, rfl⟩
  suffices hlast : second ∈ hosts by
    have hmem : second ∈ slaveEnvStrings master := by
      rw [hadded]
      exact List.mem_cons_of_mem _ List.mem_cons_self
    exact (hhosts second hlast).length_ne_one (length_of_mem_slaveEnvStrings hmem)
  rw [hadded] at henv
  unfold LaunchOptions.envTexts at henv
  match hopt : opt.env with
  | none =>
    rw [hopt] at henv
    change first :: second :: rest = hosts at henv
    simp [← henv]
  | some (.texts values) =>
    rw [hopt] at henv
    have hsame := List.append_cancel_left henv
    simp [← hsame]
  | some (.text value) =>
    rw [hopt] at henv
    change characters value ++ first :: second :: rest = value :: hosts at henv
    cases hvalue : characters value with
    | nil =>
      rw [hvalue] at henv
      simp [← (List.cons.inj henv).2]
    | cons c others =>
      rw [hvalue] at henv
      simp [← (List.cons.inj henv).2]

/-- With none of the shifted options given, the zone stands for the right file. -/
theorem LaunchOptions.NoneShifted.file_eq (hnone : opt.NoneShifted client) :
    opt.availabilityZone.getD (.text client.defaultUserDataFileTemplate) =
      opt.userDataFile.getD (.text client.defaultUserDataFileTemplate) := by
  obtain ⟨hfile, hzone, -⟩ := hnone
  rw [hzone]
  rcases hfile with hfile | hfile
  · rw [hfile]
  · rw [hfile]
    rfl

/-- With none of the shifted options given, the arguments of `launch-cluster` carry the options. -/
theorem carries_of_noneShifted (hset : checkLaunchOptionsSet client.provider opt = .ok ())
    (hpassed : opt.PassedOn client.provider) (hnone : opt.NoneShifted client)
    {roles hosts : List Text} {number : ℤ} (hhosts : ∀ host ∈ hosts, IsHostVariable host)
    (hrequest : client.request ((InstanceTemplate.ofArguments roles number
      (clusterTemplateArguments client.provider opt)).addEnvStrings hosts) = .ok request) :
    Carries client opt request := by
  have hfile := hnone.file_eq
  obtain ⟨-, hzone, hpackages, hshutdown, henv⟩ := hnone
  apply (carries_clusterTemplateArguments_iff hset hrequest).mpr
  refine ⟨hpassed, hfile, hpackages.trans hzone.symm, hshutdown.trans hpackages.symm,
    henv.trans hshutdown.symm, hosts, hhosts, ?_⟩
  rw [hpassed.2.1, LaunchOptions.envTexts, henv]

/-- The first request of `launch-cluster` carries the options exactly when they are passed on and
none of the shifted ones is given. -/
theorem carries_clusterTemplate_iff (hset : checkLaunchOptionsSet client.provider opt = .ok ())
    (hbuildable : ¬ opt.ClusterUnbuildable) {roles : List Text} {number : ℤ}
    (hrequest : client.request ((InstanceTemplate.ofArguments roles number
      (clusterTemplateArguments client.provider opt)).addEnvStrings []) = .ok request) :
    Carries client opt request ↔ opt.PassedOn client.provider ∧ opt.NoneShifted client := by
  constructor
  · intro hcarries
    obtain ⟨hpassed, hfile, hpackages, hshutdown, henv, hosts, -, hstrings⟩ :=
      (carries_clusterTemplateArguments_iff hset hrequest).mp hcarries
    rw [hpassed.2.1, List.append_nil] at hstrings
    have hnone : opt.env = none := by
      match hopt : opt.env with
      | none => rfl
      | some (.texts values) => exact absurd (Or.inr (Or.inr ⟨values, hopt⟩)) hbuildable
      | some (.text value) => simp [LaunchOptions.envTexts, hopt] at hstrings
    have hshut : opt.autoShutdown = none := henv.symm.trans hnone
    have hpack : opt.userPackages = none := hshutdown.symm.trans hshut
    have hzone : opt.availabilityZone = none := hpackages.symm.trans hpack
    refine ⟨hpassed, ?_, hzone, hpack, hshut, hnone⟩
    rw [hzone] at hfile
    match hopt : opt.userDataFile with
    | none => exact Or.inl rfl
    | some file =>
      rw [hopt] at hfile
      exact Or.inr (congrArg some hfile.symm)
  · rintro ⟨hpassed, hnone⟩
    exact carries_of_noneShifted hset hpassed hnone (by simp) hrequest

/-! ### When there is a request -/

/-- Adding no text to the environment strings makes no difference. -/
theorem request_addEnvStrings_nil (template : InstanceTemplate) :
    client.request (template.addEnvStrings []) = client.request template := by
  simp only [Client.request, InstanceTemplate.addEnvStrings, iterate, List.append_nil]

/-- With the arguments in the right places. -/
theorem request_templateArguments_iff {roles added : List Text} {number : ℤ}
    (hadded : ∀ env ∈ added, env.count '=' ≤ 1) :
    (∃ request, client.request ((InstanceTemplate.ofArguments roles number
      (templateArguments client.provider opt)).addEnvStrings added) = .ok request) ↔
      ¬ client.NoCredentials ∧ ¬ opt.Unbuildable := by
  rw [request_returns_iff, Client.NoCredentials, LaunchOptions.Unbuildable]
  change _ ∧ _ ∧ (∀ env ∈ iterate opt.env ++ added, _) ∧ ¬ IsTexts opt.userPackages ∧
    ¬ IsTexts opt.autoShutdown ↔ _
  simp only [List.forall_mem_append, and_iff_left hadded, not_or, not_exists, not_and, not_lt,
    and_assoc, ne_eq]

/-- With the arguments of `launch-cluster`. -/
theorem request_clusterTemplateArguments_iff {roles : List Text} {number : ℤ} :
    (∃ request, client.request ((InstanceTemplate.ofArguments roles number
      (clusterTemplateArguments client.provider opt)).addEnvStrings []) = .ok request) ↔
      ¬ client.NoCredentials ∧ ¬ opt.ClusterUnbuildable := by
  rw [request_returns_iff, Client.NoCredentials, LaunchOptions.ClusterUnbuildable]
  change _ ∧ _ ∧ (∀ env ∈ opt.securityGroup ++ [], _) ∧ ¬ IsTexts opt.autoShutdown ∧
    ¬ IsTexts opt.env ↔ _
  simp only [List.append_nil, not_or, not_exists, not_and, not_lt, and_assoc, ne_eq]

/-- There is no request when its making raises. -/
theorem toOption_eq_none_iff {template : InstanceTemplate} :
    (client.request template).toOption = none ↔
      ¬ ∃ request, client.request template = .ok request := by
  cases client.request template <;> simp [Except.toOption]

/-- A request is only made of some of the places of a template. -/
theorem request_congr {first second : InstanceTemplate} (hroles : first.roles = second.roles)
    (hnumber : first.number = second.number) (himage : first.imageId = second.imageId)
    (hsize : first.sizeId = second.sizeId) (hkey : first.keyName = second.keyName)
    (hpublic : first.publicKey = second.publicKey)
    (hfile : first.userDataFileTemplate.getD (.text client.defaultUserDataFileTemplate) =
      second.userDataFileTemplate.getD (.text client.defaultUserDataFileTemplate))
    (hplacement : first.placement = second.placement)
    (hpackages : first.userPackages = second.userPackages)
    (hshutdown : first.autoShutdown = second.autoShutdown)
    (henv : iterate first.envStrings = iterate second.envStrings) :
    client.request first = client.request second := by
  unfold Client.request
  rw [hroles, hnumber, himage, hsize, hkey, hpublic, hfile, hplacement, hpackages, hshutdown, henv]

/-- With none of the shifted options given, the places do not matter. -/
theorem request_of_noneShifted (hpassed : opt.PassedOn client.provider)
    (hnone : opt.NoneShifted client) (roles : List Text) (number : ℤ) :
    client.request (.ofArguments roles number (clusterTemplateArguments client.provider opt)) =
      client.request (.ofArguments roles number (templateArguments client.provider opt)) := by
  have hfile := hnone.file_eq
  obtain ⟨-, hzone, hpackages, hshutdown, henv⟩ := hnone
  apply request_congr
  case hfile => exact hfile
  case hplacement => exact hpackages.trans hzone.symm
  case hpackages => exact hshutdown.trans hpackages.symm
  case hshutdown => exact henv.trans hshutdown.symm
  case henv =>
    change opt.securityGroup = iterate opt.env
    rw [hpassed.2.1, henv]
    rfl
  all_goals rfl

end Templates

/-! ### The commands -/

section Commands

variable {client : Client} {cloud : Cloud client.order} {opt : LaunchOptions}

/-- Every request of a cluster carries the options exactly when the first one does, if the first one
decides about all. -/
theorem launchClusterInstances_carries_iff {first : InstanceTemplate}
    {rest : List InstanceTemplate}
    (hall : ∀ request, client.request (first.addEnvStrings []) = .ok request →
      Carries client opt request → ∀ template ∈ first :: rest, ∀ hosts,
        (∀ host ∈ hosts, IsHostVariable host) → ∀ other,
          client.request (template.addEnvStrings hosts) = .ok other → Carries client opt other) :
    (∀ request ∈ (launchClusterInstances client cloud [] (first :: rest) []).2,
      Carries client opt request) ↔
      ∀ request, client.request (first.addEnvStrings []) = .ok request →
        Carries client opt request := by
  constructor
  · intro hcarries request hrequest
    exact hcarries request (mem_launchClusterInstances hrequest)
  · intro hfirst
    cases hrequest : client.request (first.addEnvStrings []) with
    | error error =>
      rw [launchClusterInstances_of_error hrequest]
      exact fun request hmem ↦ absurd hmem List.not_mem_nil
    | ok request =>
      have hothers := hall request hrequest (hfirst request hrequest)
      have hkeeps : Py.Keeps (fun requests ↦ ∀ request ∈ requests, Carries client opt request)
          (launchClusterInstances client cloud [] (first :: rest)) := by
        apply keeps_launchClusterInstances
        · intro template htemplate hosts hhosts other hother requests hrequests
          rw [List.forall_mem_append, List.forall_mem_singleton]
          exact ⟨hrequests, hothers template htemplate hosts hhosts other hother⟩
        · exact fun host hhost ↦ absurd hhost List.not_mem_nil
      exact hkeeps [] fun request hmem ↦ absurd hmem List.not_mem_nil

/-- A request that there is unless one of two things holds, and that carries the options under a
condition. -/
theorem forall_request_iff {template : InstanceTemplate} {first second condition : Prop}
    (hmade : (∃ request, client.request template = .ok request) ↔ ¬ first ∧ ¬ second)
    (hcarries : ¬ second → ∀ request, client.request template = .ok request →
      (Carries client opt request ↔ condition)) :
    (∀ request, client.request template = .ok request → Carries client opt request) ↔
      first ∨ second ∨ condition := by
  constructor
  · intro hall
    by_contra hnot
    rw [not_or, not_or] at hnot
    obtain ⟨request, hrequest⟩ := hmade.mpr ⟨hnot.1, hnot.2.1⟩
    exact hnot.2.2 ((hcarries hnot.2.1 request hrequest).mp (hall request hrequest))
  · intro hcondition request hrequest
    obtain ⟨hfirst, hsecond⟩ := hmade.mp ⟨request, hrequest⟩
    rcases hcondition with hholds | hholds | hholds
    · exact absurd hholds hfirst
    · exact absurd hholds hsecond
    · exact (hcarries hsecond request hrequest).mpr hholds

/-- The requests of `launch-master`. -/
theorem launchMaster_carries_iff (hset : checkLaunchOptionsSet client.provider opt = .ok ()) :
    (∀ request ∈ requestsOf client cloud .launchMaster opt, Carries client opt request) ↔
      ReachCondition client cloud opt .launchMaster := by
  have hrequests : requestsOf client cloud .launchMaster opt =
      (launchMaster client cloud
        (masterTemplate (templateArguments client.provider opt)) []).2 := by
    simp only [requestsOf, main, hset]
  rw [hrequests, launchMaster]
  by_cases hrunning : cloud.namenodes = []
  · rw [if_pos (by rw [hrunning, List.length_nil]), launchClusterInstances_carries_iff]
    · have hfirst : (∀ request, client.request ((masterTemplate
          (templateArguments client.provider opt)).addEnvStrings []) = .ok request →
            Carries client opt request) ↔ client.NoCredentials ∨ opt.Unbuildable ∨
              opt.PassedOn client.provider ∧ opt.EnvListed := by
        apply forall_request_iff (request_templateArguments_iff (by simp))
        intro _ request hrequest
        rw [carries_templateArguments_iff hset hrequest, env_carried_iff]
      rw [hfirst]
      simp [ReachCondition, hrunning]
    · intro request hrequest hcarries template htemplate hosts hhosts other hother
      obtain ⟨hpassed, henv⟩ := (carries_templateArguments_iff hset hrequest).mp hcarries
      rw [List.mem_singleton] at htemplate
      subst htemplate
      refine (carries_templateArguments_iff hset hother).mpr ⟨hpassed, hosts, hhosts, ?_⟩
      rw [iterate_env_eq_iff.mpr (env_carried_iff.mp henv)]
  · rw [if_neg (by rwa [List.length_eq_zero_iff])]
    constructor
    · exact fun _ ↦ Or.inr (Or.inr (Or.inl hrunning))
    · exact fun _ request hmem ↦ absurd hmem List.not_mem_nil

/-- The requests of `launch-slaves`. -/
theorem launchSlaves_carries_iff (hset : checkLaunchOptionsSet client.provider opt = .ok ())
    (numberOfSlaves : ℤ) :
    (∀ request ∈ requestsOf client cloud (.launchSlaves numberOfSlaves) opt,
      Carries client opt request) ↔
      ReachCondition client cloud opt (.launchSlaves numberOfSlaves) := by
  have hrequests : requestsOf client cloud (.launchSlaves numberOfSlaves) opt =
      (launchSlaves client cloud
        (slavesTemplate numberOfSlaves (templateArguments client.provider opt)) []).2 := by
    simp only [requestsOf, main, hset]
  rw [hrequests]
  by_cases hone : cloud.namenodes.length = 1
  · obtain ⟨master, hmaster⟩ := List.length_eq_one_iff.mp hone
    have hrequest : (∀ request, client.request ((slavesTemplate numberOfSlaves
        (templateArguments client.provider opt)).addEnvStrings (slaveEnvStrings master)) =
          .ok request → Carries client opt request) ↔
            client.NoCredentials ∨ opt.Unbuildable ∨ False := by
      apply forall_request_iff (request_templateArguments_iff ?_)
      · intro _ request hrequest
        rw [carries_templateArguments_iff hset hrequest, iff_false, not_and]
        exact fun _ ↦ env_not_carried master
      · intro env henv
        exact List.count_le_length.trans (length_of_mem_slaveEnvStrings henv).le
    have hcondition : ReachCondition client cloud opt (.launchSlaves numberOfSlaves) ↔
        client.NoCredentials ∨ opt.Unbuildable ∨ False := by
      simp [ReachCondition, hone]
    rw [launchSlaves_of_master hmaster, hcondition, ← hrequest]
    cases client.request ((slavesTemplate numberOfSlaves
      (templateArguments client.provider opt)).addEnvStrings (slaveEnvStrings master)) with
    | ok request => simp [Except.toOption]
    | error error => simp [Except.toOption]
  · rw [launchSlaves_of_others hone]
    constructor
    · exact fun _ ↦ Or.inr (Or.inr hone)
    · exact fun _ request hmem ↦ absurd hmem List.not_mem_nil

/-- The requests of `launch-cluster`, in either form. -/
theorem launchCluster_carries_iff (hset : checkLaunchOptionsSet client.provider opt = .ok ())
    {first : InstanceTemplate} {rest : List InstanceTemplate}
    (htemplates : ∀ template ∈ first :: rest, ∃ roles number, template =
      .ofArguments roles number (clusterTemplateArguments client.provider opt)) :
    (∀ request ∈ (launchClusterInstances client cloud [] (first :: rest) []).2,
      Carries client opt request) ↔
      client.NoCredentials ∨ opt.ClusterUnbuildable ∨
        opt.PassedOn client.provider ∧ opt.NoneShifted client := by
  obtain ⟨roles, number, hfirst⟩ := htemplates first List.mem_cons_self
  rw [launchClusterInstances_carries_iff]
  · rw [hfirst]
    exact forall_request_iff request_clusterTemplateArguments_iff
      fun hbuildable request hrequest ↦ carries_clusterTemplate_iff hset hbuildable hrequest
  · intro request hrequest hcarries template htemplate hosts hhosts other hother
    rw [hfirst] at hrequest
    have hbuildable := (request_clusterTemplateArguments_iff.mp ⟨request, hrequest⟩).2
    obtain ⟨hpassed, hnone⟩ := (carries_clusterTemplate_iff hset hbuildable hrequest).mp hcarries
    obtain ⟨otherRoles, otherNumber, rfl⟩ := htemplates template htemplate
    exact carries_of_noneShifted hset hpassed hnone hhosts hother

/-- With the arguments in the right places there is no request without credentials or when no
environment can be built. -/
theorem request_templateArguments_eq_none_iff (roles : List Text) (number : ℤ) :
    (client.request (.ofArguments roles number
      (templateArguments client.provider opt))).toOption = none ↔
      client.NoCredentials ∨ opt.Unbuildable := by
  rw [← request_addEnvStrings_nil, toOption_eq_none_iff, request_templateArguments_iff (by simp),
    ← not_or, not_not]

/-- With the arguments of `launch-cluster` there is no request without credentials or when no
environment can be built of them. -/
theorem request_clusterTemplateArguments_eq_none_iff (roles : List Text) (number : ℤ) :
    (client.request (.ofArguments roles number
      (clusterTemplateArguments client.provider opt))).toOption = none ↔
      client.NoCredentials ∨ opt.ClusterUnbuildable := by
  rw [← request_addEnvStrings_nil, toOption_eq_none_iff, request_clusterTemplateArguments_iff,
    ← not_or, not_not]

/-- `launch-cluster` with one number makes the requests of the other two commands when both of its
templates make the same request with either arguments. -/
theorem same_iff (numberOfSlaves : ℤ) :
    bareRequests client
        (clusterTemplates numberOfSlaves (clusterTemplateArguments client.provider opt)) =
      bareRequests client [masterTemplate (templateArguments client.provider opt)] ++
        bareRequests client
          [slavesTemplate numberOfSlaves (templateArguments client.provider opt)] ↔
      (client.request (masterTemplate (clusterTemplateArguments client.provider opt))).toOption =
          (client.request (masterTemplate (templateArguments client.provider opt))).toOption ∧
        (client.request (slavesTemplate numberOfSlaves
            (clusterTemplateArguments client.provider opt))).toOption =
          (client.request (slavesTemplate numberOfSlaves
            (templateArguments client.provider opt))).toOption := by
  simp only [bareRequests, clusterTemplates, List.map_cons, List.map_nil, List.cons_append,
    List.nil_append, List.cons.injEq, and_true]

/-- `launch-cluster` with one number. -/
theorem launchCluster_reach_iff (hset : checkLaunchOptionsSet client.provider opt = .ok ())
    (numberOfSlaves : ℤ) :
    OptionsReach client cloud (.launchCluster numberOfSlaves) opt ↔
      ReachCondition client cloud opt (.launchCluster numberOfSlaves) := by
  have hrequests : requestsOf client cloud (.launchCluster numberOfSlaves) opt =
      (launchClusterInstances client cloud []
        (clusterTemplates numberOfSlaves (clusterTemplateArguments client.provider opt)) []).2 := by
    simp only [requestsOf, main, hset]
  have hcarries : (∀ request ∈ requestsOf client cloud (.launchCluster numberOfSlaves) opt,
      Carries client opt request) ↔ client.NoCredentials ∨ opt.ClusterUnbuildable ∨
        opt.PassedOn client.provider ∧ opt.NoneShifted client := by
    rw [hrequests, clusterTemplates]
    apply launchCluster_carries_iff hset
    rw [List.forall_mem_cons, List.forall_mem_singleton]
    exact ⟨⟨masterRoles, 1, rfl⟩, slaveRoles, numberOfSlaves, rfl⟩
  have hnone : client.NoCredentials ∨ opt.Unbuildable ∧ opt.ClusterUnbuildable →
      OptionsReach client cloud (.launchCluster numberOfSlaves) opt := by
    intro hfails
    have hcluster : client.NoCredentials ∨ opt.ClusterUnbuildable := hfails.imp_right And.right
    have hother : client.NoCredentials ∨ opt.Unbuildable := hfails.imp_right And.left
    constructor
    · exact hcarries.mpr (hcluster.imp_right Or.inl)
    · rintro _ ⟨⟩
      rw [same_iff, masterTemplate, masterTemplate, slavesTemplate, slavesTemplate,
        (request_clusterTemplateArguments_eq_none_iff _ _).mpr hcluster,
        (request_clusterTemplateArguments_eq_none_iff _ _).mpr hcluster,
        (request_templateArguments_eq_none_iff _ _).mpr hother,
        (request_templateArguments_eq_none_iff _ _).mpr hother]
      exact ⟨rfl, rfl⟩
  constructor
  · intro hreach
    rcases hcarries.mp hreach.carries with hfails | hfails | hholds
    · exact Or.inl hfails
    · have hsame := ((same_iff numberOfSlaves).mp (hreach.same numberOfSlaves rfl)).1
      rw [masterTemplate, (request_clusterTemplateArguments_eq_none_iff _ _).mpr (Or.inr hfails)]
        at hsame
      rcases (request_templateArguments_eq_none_iff _ _).mp hsame.symm with hlacks | hother
      · exact Or.inl hlacks
      · exact Or.inr (Or.inl ⟨hother, hfails⟩)
    · exact Or.inr (Or.inr hholds)
  · rintro (hfails | hfails | ⟨hpassed, hunshifted⟩)
    · exact hnone (Or.inl hfails)
    · exact hnone (Or.inr hfails)
    · constructor
      · exact hcarries.mpr (Or.inr (Or.inr ⟨hpassed, hunshifted⟩))
      · rintro _ ⟨⟩
        rw [same_iff, masterTemplate, masterTemplate, slavesTemplate, slavesTemplate,
          request_of_noneShifted hpassed hunshifted, request_of_noneShifted hpassed hunshifted]
        exact ⟨rfl, rfl⟩

/-- The requests of `launch-cluster` with groups. -/
theorem launchClusterRoles_carries_iff
    (hset : checkLaunchOptionsSet client.provider opt = .ok ()) (groups : List (ℤ × Text)) :
    (∀ request ∈ requestsOf client cloud (.launchClusterRoles groups) opt,
      Carries client opt request) ↔
      ReachCondition client cloud opt (.launchClusterRoles groups) := by
  have hrequests : requestsOf client cloud (.launchClusterRoles groups) opt =
      (launchClusterInstances client cloud []
        (groups.map (groupTemplate (clusterTemplateArguments client.provider opt))) []).2 := by
    simp only [requestsOf, main, hset]
  rw [hrequests]
  cases groups with
  | nil =>
    constructor
    · exact fun _ ↦ Or.inr (Or.inr (Or.inl rfl))
    · exact fun _ request hmem ↦ absurd hmem List.not_mem_nil
  | cons first rest =>
    rw [List.map_cons, launchCluster_carries_iff hset]
    · simp [ReachCondition]
    · rw [← List.map_cons, List.forall_mem_map]
      exact fun group _ ↦ ⟨_, _, rfl⟩

end Commands

/-- Every request of a command carries the launch options, and `launch-cluster` makes the requests
of the other two commands, exactly under the condition. -/
theorem optionsReach_iff {client : Client} {cloud : Cloud client.order} {command : Command}
    {opt : LaunchOptions} (hset : checkLaunchOptionsSet client.provider opt = .ok ()) :
    OptionsReach client cloud command opt ↔ ReachCondition client cloud opt command := by
  cases command with
  | launchMaster =>
    rw [← launchMaster_carries_iff hset]
    constructor
    · exact OptionsReach.carries
    · exact fun hcarries ↦ ⟨hcarries, fun _ hcommand ↦ by cases hcommand⟩
  | launchSlaves numberOfSlaves =>
    rw [← launchSlaves_carries_iff hset]
    constructor
    · exact OptionsReach.carries
    · exact fun hcarries ↦ ⟨hcarries, fun _ hcommand ↦ by cases hcommand⟩
  | launchCluster numberOfSlaves => exact launchCluster_reach_iff hset numberOfSlaves
  | launchClusterRoles groups =>
    rw [← launchClusterRoles_carries_iff hset]
    constructor
    · exact OptionsReach.carries
    · exact fun hcarries ↦ ⟨hcarries, fun _ hcommand ↦ by cases hcommand⟩

/-- A client with credentials, an empty storage file, and dictionaries in the order of the source.
-/
def sampleClient : Client where
  provider := .cs61cec2
  dataPath := "data".toList
  awsAccessKeyId := some "AKIA1".toList
  awsSecretAccessKey := some "secret".toList
  storage := Table.empty
  order := inOrder

/-- No namenode runs, and every launch brings up one instance. -/
def sampleCloud : Cloud sampleClient.order where
  namenodes := []
  reply := fun _ ↦ .running ["10.0.0.1".toList]

/-- An image, a type, a key, a zone, and packages. -/
def sampleOptions : LaunchOptions where
  ami := none
  imageId := some (.text "ami-1".toList)
  instanceType := some (.text "m1.small".toList)
  keyName := some (.text "cs61c-aa-default".toList)
  publicKey := none
  privateKey := none
  userDataFile := none
  availabilityZone := some (.text "us-east-1a".toList)
  userPackages := some (.text "git".toList)
  autoShutdown := none
  env := none
  securityGroup := []
  useSpot := false

/-- `launch-master` passes the options on. -/
theorem optionsReach_iff_launchMaster :
    OptionsReach sampleClient sampleCloud .launchMaster sampleOptions := by
  apply (optionsReach_iff rfl).mpr
  refine Or.inr (Or.inr (Or.inr ⟨⟨fun _ ↦ Option.some_ne_none _, rfl, rfl⟩, ?_⟩))
  rintro value ⟨⟩

/-- `launch-cluster` puts the packages in the place of the zone. -/
theorem launchCluster_shifts :
    checkLaunchOptionsSet sampleClient.provider sampleOptions = .ok () ∧
      ¬ OptionsReach sampleClient sampleCloud (.launchCluster 2) sampleOptions := by
  refine ⟨rfl, ?_⟩
  rw [launchCluster_reach_iff rfl]
  rintro (hfails | ⟨-, hfails⟩ | ⟨-, -, hzone, -⟩)
  · rcases hfails with hfails | hfails <;> cases hfails
  · rcases hfails with ⟨env, henv, -⟩ | ⟨values, hvalues⟩ | ⟨values, hvalues⟩
    · exact List.not_mem_nil henv
    · cases hvalues
    · cases hvalues
  · cases hzone

end Ec2Wrappers.HadoopCloud
