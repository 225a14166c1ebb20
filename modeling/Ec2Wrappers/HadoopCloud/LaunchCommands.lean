import Ec2Wrappers.HadoopCloud.InstanceTemplates

/-!
# The launch commands

The commands `launch-master`, `launch-slaves` and `launch-cluster` of `hadoop/cloud/cli.py` with
`HadoopService`, up to the requests they hand to the cluster's `launch_instances`. What follows the
last launch of a command makes no further one and is left out, and so is `ZooKeeperService`, with
which every one of these commands raises before it launches anything. `Cloud` is what EC2 answers,
whatever it is.

The store of a command is the list of the requests so far. `requests_launchInstances` says what one
launch adds to it, and `keeps_launchClusterInstances` is the rule for the launches of a whole
cluster, where each may add host variables for those after it.
-/

set_option autoImplicit false
set_option relaxedAutoImplicit false

namespace Ec2Wrappers.HadoopCloud

open Foundations

/-! ### The options -/

/-- The launch options in `opt`, from the command line or the configuration file. -/
structure LaunchOptions where
  ami : Option OptionValue
  imageId : Option OptionValue
  instanceType : Option OptionValue
  keyName : Option OptionValue
  publicKey : Option OptionValue
  privateKey : Option OptionValue
  userDataFile : Option OptionValue
  availabilityZone : Option OptionValue
  userPackages : Option OptionValue
  autoShutdown : Option OptionValue
  env : Option OptionValue
  securityGroup : List Text
  useSpot : Bool
  deriving DecidableEq, Repr

/-- `check_options_set`; the error is what it prints. -/
def checkOptionsSet : List (Text × Option OptionValue) → Except Text Unit
  | [] => .ok ()
  | (optionName, none) :: _ =>
    .error ("Option '".toList ++ optionName ++ "' is missing. Aborting.".toList)
  | (_, some _) :: rest => checkOptionsSet rest

/-- `check_launch_options_set`. -/
def checkLaunchOptionsSet (provider : Provider) (opt : LaunchOptions) : Except Text Unit :=
  if provider = .ec2 ∨ provider = .cs61cec2 then
    if opt.ami = none ∧ opt.imageId = none then
      .error "One of ami or image_id must be specified. Aborting.".toList
    else checkOptionsSet [("key_name".toList, opt.keyName)]
  else checkOptionsSet [("image_id".toList, opt.imageId), ("public_key".toList, opt.publicKey)]

/-- `get_image_id`. -/
def getImageId (provider : Provider) (opt : LaunchOptions) : Option OptionValue :=
  if provider = .ec2 then opt.imageId.or opt.ami else opt.imageId

/-! ### The service -/

/-- What comes of a launch. -/
inductive Reply
  | raised (error : PyError)
  | timedOut
  | running (publicIps : List Text)
  deriving DecidableEq, Repr

/-- What EC2 answers: the namenodes that run when the command starts, and what comes of a launch,
given all launches of the command so far. -/
structure Cloud (order : DictOrder) where
  namenodes : List Text
  reply : List (LaunchRequest order) → Reply

section Service

variable (client : Client) (cloud : Cloud client.order)

/-- `Service._launch_instances`: the addresses of the instances, or `None` after a timeout. -/
def launchInstances (template : InstanceTemplate) :
    Py (List (LaunchRequest client.order)) (Option (List Text)) := do
  let request ← Py.ofExcept (client.request template)
  Py.modify (· ++ [request])
  let requests ← Py.get
  match cloud.reply requests with
  | .raised error => Py.raise error
  | .timedOut => return none
  | .running publicIps => return some publicIps

/-- `HadoopService._sanitize_role_name`. -/
def sanitizeRoleName (role : Text) : Text :=
  role.map fun c ↦ (if c = '+' then '_' else c).toUpper

/-- `singleton_host_env`. -/
def singletonHostEnv (role publicIp : Text) : Text :=
  sanitizeRoleName role ++ "_HOST=".toList ++ publicIp

/-- The host variables that a launch adds: one for each role when it was for a single instance. -/
def singletonHosts (template : InstanceTemplate) :
    Option (List Text) → Except PyError (List Text)
  | none => if template.number = 1 then .error .typeError else .ok []
  | some [publicIp] =>
    if template.number = 1 then
      .ok (template.roles.map fun role ↦ singletonHostEnv role publicIp)
    else .ok []
  | some _ => .ok []

/-- `HadoopService._launch_cluster_instances`, with the host variables so far. -/
def launchClusterInstances : List Text → List InstanceTemplate →
    Py (List (LaunchRequest client.order)) Unit
  | _, [] => Py.ret ()
  | hosts, template :: rest => do
    let instances ← launchInstances client cloud (template.addEnvStrings hosts)
    let added ← Py.ofExcept (singletonHosts template instances)
    launchClusterInstances (hosts ++ added) rest

/-- `HadoopService.launch_master`. -/
def launchMaster (template : InstanceTemplate) : Py (List (LaunchRequest client.order)) Unit :=
  if cloud.namenodes.length = 0 then launchClusterInstances client cloud [] [template]
  else Py.ret ()

/-- `NAMENODE`, `SECONDARY_NAMENODE` and `JOBTRACKER`. -/
def masterRoles : List Text := ["nn".toList, "snn".toList, "jt".toList]

/-- `DATANODE` and `TASKTRACKER`. -/
def slaveRoles : List Text := ["dn".toList, "tt".toList]

/-- The texts `launch_slaves` adds: `add_env_strings` is given one text and loops over it. -/
def slaveEnvStrings (master : Text) : List Text :=
  masterRoles.flatMap fun role ↦ characters (singletonHostEnv role master)

/-- `HadoopService.launch_slaves`. -/
def launchSlaves (template : InstanceTemplate) : Py (List (LaunchRequest client.order)) Unit :=
  match cloud.namenodes with
  | [master] => do
    let _ ← launchInstances client cloud (template.addEnvStrings (slaveEnvStrings master))
    return ()
  | _ => Py.ret ()

/-! ### The commands -/

/-- A command with its arguments. The roles of a group are one argument, separated by commas. -/
inductive Command
  | launchMaster
  | launchSlaves (numberOfSlaves : ℤ)
  | launchCluster (numberOfSlaves : ℤ)
  | launchClusterRoles (groups : List (ℤ × Text))
  deriving DecidableEq, Repr

/-- The arguments of `InstanceTemplate` in `launch-master` and `launch-slaves`. -/
def templateArguments (provider : Provider) (opt : LaunchOptions) : List (Option OptionValue) :=
  [getImageId provider opt, opt.instanceType, opt.keyName, opt.publicKey, opt.privateKey,
    opt.userDataFile, opt.availabilityZone, opt.userPackages, opt.autoShutdown, opt.env,
    some (.texts opt.securityGroup)]

/-- The arguments of `InstanceTemplate` in `launch-cluster`, with no private key. -/
def clusterTemplateArguments (provider : Provider) (opt : LaunchOptions) :
    List (Option OptionValue) :=
  [getImageId provider opt, opt.instanceType, opt.keyName, opt.publicKey, opt.userDataFile,
    opt.availabilityZone, opt.userPackages, opt.autoShutdown, opt.env,
    some (.texts opt.securityGroup)]

/-- The template of the master. -/
def masterTemplate (arguments : List (Option OptionValue)) : InstanceTemplate :=
  .ofArguments masterRoles 1 arguments

/-- The template of the slaves. -/
def slavesTemplate (numberOfSlaves : ℤ) (arguments : List (Option OptionValue)) :
    InstanceTemplate :=
  .ofArguments slaveRoles numberOfSlaves arguments

/-- The template of a group of instances in the same roles. -/
def groupTemplate (arguments : List (Option OptionValue)) (group : ℤ × Text) : InstanceTemplate :=
  .ofArguments (group.2.splitOn ',') group.1 arguments

/-- The templates of `launch-cluster` in the form with one number. -/
def clusterTemplates (numberOfSlaves : ℤ) (arguments : List (Option OptionValue)) :
    List InstanceTemplate :=
  [masterTemplate arguments, slavesTemplate numberOfSlaves arguments]

/-- `main`; a failed check ends the program. -/
def main (command : Command) (opt : LaunchOptions) : Py (List (LaunchRequest client.order)) Unit :=
  match checkLaunchOptionsSet client.provider opt with
  | .error _ => Py.ret ()
  | .ok () =>
    let arguments := templateArguments client.provider opt
    let clusterArguments := clusterTemplateArguments client.provider opt
    match command with
    | .launchMaster => launchMaster client cloud (masterTemplate arguments)
    | .launchSlaves numberOfSlaves =>
      launchSlaves client cloud (slavesTemplate numberOfSlaves arguments)
    | .launchCluster numberOfSlaves =>
      launchClusterInstances client cloud [] (clusterTemplates numberOfSlaves clusterArguments)
    | .launchClusterRoles groups =>
      launchClusterInstances client cloud [] (groups.map (groupTemplate clusterArguments))

/-- The requests that a command hands over. -/
def requestsOf (command : Command) (opt : LaunchOptions) : List (LaunchRequest client.order) :=
  (main client cloud command opt []).2

end Service

/-! ### Sending requests -/

/-- The text sets a host variable of some role. -/
def IsHostVariable (env : Text) : Prop := ∃ role publicIp, env = singletonHostEnv role publicIp

section Sending

variable {client : Client} {cloud : Cloud client.order}

/-- A launch sends the request of its template, if there is one. -/
theorem requests_launchInstances (template : InstanceTemplate)
    (requests : List (LaunchRequest client.order)) :
    (launchInstances client cloud template requests).2 =
      requests ++ (client.request template).toOption.toList := by
  rw [launchInstances, Py.bind_eq]
  cases client.request template with
  | error error =>
    rw [Py.run_bind_error (Py.run_ofExcept _ _)]
    exact (List.append_nil requests).symm
  | ok request =>
    rw [Py.run_bind_ok (Py.run_ofExcept _ _), Py.bind_eq, Py.run_bind_ok (Py.run_modify _ _),
      Py.bind_eq, Py.run_bind_ok (Py.run_get _)]
    cases cloud.reply (requests ++ [request]) <;> rfl

/-- The host variables a launch adds are host variables. -/
theorem isHostVariable_singletonHosts {template : InstanceTemplate}
    {instances : Option (List Text)} {added : List Text}
    (hadded : singletonHosts template instances = .ok added) :
    ∀ host ∈ added, IsHostVariable host := by
  unfold singletonHosts at hadded
  split at hadded
  · split_ifs at hadded
    cases hadded
    simp
  · split_ifs at hadded
    · cases hadded
      intro host hhost
      obtain ⟨role, -, rfl⟩ := List.mem_map.mp hhost
      exact ⟨role, _, rfl⟩
    · cases hadded
      simp
  · cases hadded
    simp

/-- What every request of the templates, with host variables added, keeps is kept by the launches of
a cluster. -/
theorem keeps_launchClusterInstances {property : List (LaunchRequest client.order) → Prop}
    {templates : List InstanceTemplate}
    (hrequest : ∀ template ∈ templates, ∀ hosts, (∀ host ∈ hosts, IsHostVariable host) →
      ∀ request, client.request (template.addEnvStrings hosts) = .ok request →
        ∀ requests, property requests → property (requests ++ [request]))
    {hosts : List Text} (hhosts : ∀ host ∈ hosts, IsHostVariable host) :
    Py.Keeps property (launchClusterInstances client cloud hosts templates) := by
  induction templates generalizing hosts with
  | nil => exact Py.keeps_ret property ()
  | cons template rest ih =>
    rw [launchClusterInstances, Py.bind_eq]
    intro requests hproperty
    have hsent : property
        (launchInstances client cloud (template.addEnvStrings hosts) requests).2 := by
      rw [requests_launchInstances]
      cases hmade : client.request (template.addEnvStrings hosts) with
      | error error => simpa [Except.toOption] using hproperty
      | ok request =>
        exact hrequest template List.mem_cons_self hosts hhosts request hmade requests hproperty
    apply Py.holds_bind hsent
    intro instances
    apply Py.keeps_ofExcept_bind
    intro added hadded
    apply ih fun other hother ↦ hrequest other (List.mem_cons_of_mem _ hother)
    intro host hhost
    rcases List.mem_append.mp hhost with hold | hnew
    · exact hhosts host hold
    · exact isHostVariable_singletonHosts hadded host hnew

/-- The first request of a cluster is sent. -/
theorem mem_launchClusterInstances {template : InstanceTemplate} {rest : List InstanceTemplate}
    {request : LaunchRequest client.order}
    (hrequest : client.request (template.addEnvStrings []) = .ok request) :
    request ∈ (launchClusterInstances client cloud [] (template :: rest) []).2 := by
  rw [launchClusterInstances, Py.bind_eq]
  apply Py.holds_bind
  · rw [requests_launchInstances, hrequest]
    exact List.mem_singleton_self request
  · intro instances
    apply Py.keeps_ofExcept_bind
    intro added hadded
    apply keeps_launchClusterInstances
    · intro _ _ _ _ _ _ requests hmem
      exact List.mem_append_left _ hmem
    · simpa using isHostVariable_singletonHosts hadded

/-- With no request for the first template nothing is sent. -/
theorem launchClusterInstances_of_error {template : InstanceTemplate}
    {rest : List InstanceTemplate} {error : PyError}
    (herror : client.request (template.addEnvStrings []) = .error error) :
    (launchClusterInstances client cloud [] (template :: rest) []).2 = [] := by
  have hraised : launchInstances client cloud (template.addEnvStrings []) [] =
      (.error error, []) := by
    rw [launchInstances, Py.bind_eq, herror, Py.run_bind_error (Py.run_ofExcept _ _)]
  rw [launchClusterInstances, Py.bind_eq, Py.run_bind_error hraised]

/-- With one namenode running, `launch-slaves` sends the request of its template. -/
theorem launchSlaves_of_master {master : Text} (hmaster : cloud.namenodes = [master])
    (template : InstanceTemplate) : (launchSlaves client cloud template []).2 =
      (client.request (template.addEnvStrings (slaveEnvStrings master))).toOption.toList := by
  have hsent := @requests_launchInstances client cloud
    (template.addEnvStrings (slaveEnvStrings master)) []
  rw [launchSlaves, hmaster]
  simp only [Py.bind_eq]
  cases hrun : launchInstances client cloud (template.addEnvStrings (slaveEnvStrings master))
    [] with
  | mk result requests =>
    rw [hrun, List.nil_append] at hsent
    cases result with
    | ok value => rw [Py.run_bind_ok hrun, ← hsent, Py.run_pure]
    | error error => rw [Py.run_bind_error hrun, ← hsent]

/-- With any other number of namenodes it does nothing. -/
theorem launchSlaves_of_others (hothers : cloud.namenodes.length ≠ 1)
    (template : InstanceTemplate) : launchSlaves client cloud template = Py.ret () := by
  unfold launchSlaves
  match hnames : cloud.namenodes with
  | [] => rfl
  | [master] => exact absurd (congrArg List.length hnames) hothers
  | _ :: _ :: _ => rfl

end Sending

end Ec2Wrappers.HadoopCloud
