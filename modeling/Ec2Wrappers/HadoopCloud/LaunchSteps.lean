import Ec2Wrappers.HadoopCloud.CommandOptions
import Ec2Wrappers.HadoopCloud.LaunchCommands
import Ec2Wrappers.HadoopCloud.StorageRounds

/-!
# The steps of a cluster launch

`HadoopService.launch_cluster` from the first launch to the URL at its end, whatever EC2, the name
service and the file system answer. `Surroundings` has their answers: what comes of each launch,
which instances run at each lookup, and which of the other steps fail. Of what is printed, the
messages about progress are left out.

Three results can be missing: a launch that timed out returns `None`, and so does a lookup of the
namenode or of the jobtracker that finds no running instance. `missingUsed` is a history of the
places where the code used such a result as if it were there; nothing reads it.
`launchClusterInstances_launchTemplates` is the agreement with the launches of the commands, which
have no such history.
-/

set_option autoImplicit false
set_option relaxedAutoImplicit false

namespace Ec2Wrappers.HadoopCloud

open Foundations Aws

/-! ### Roles, ports and the site file -/

/-- `NAMENODE`. -/
def namenodeRole : Text := "nn".toList

/-- `JOBTRACKER`. -/
def jobtrackerRole : Text := "jt".toList

/-- `DATANODE`. -/
def datanodeRole : Text := "dn".toList

/-- `TASKTRACKER`. -/
def tasktrackerRole : Text := "tt".toList

/-- A call of `authorize_role`. -/
structure PortRule where
  role : Text
  fromPort : ℕ
  toPort : ℕ
  cidrIp : Text
  deriving DecidableEq, Repr

/-- The rules for a client. -/
def clientRules (clientCidr : Text) : List PortRule :=
  [⟨namenodeRole, 80, 80, clientCidr⟩,
    ⟨jobtrackerRole, 50030, 50030, clientCidr⟩,
    ⟨namenodeRole, 50070, 50070, clientCidr⟩,
    ⟨tasktrackerRole, 50060, 50060, clientCidr⟩,
    ⟨datanodeRole, 50075, 50075, clientCidr⟩]

/-- `"%s/32" % ip`. -/
def hostCidr (ip : Text) : Text := ip ++ "/32".toList

/-- The rules between the namenode and the jobtracker. -/
def masterRules (namenodeIp jobtrackerIp : Text) : List PortRule :=
  [⟨namenodeRole, 8020, 8020, hostCidr namenodeIp⟩,
    ⟨namenodeRole, 8020, 8020, hostCidr jobtrackerIp⟩,
    ⟨jobtrackerRole, 8021, 8021, hostCidr namenodeIp⟩,
    ⟨jobtrackerRole, 8021, 8021, hostCidr jobtrackerIp⟩]

/-- A Hadoop configuration file: its path, and its properties once they are written. -/
structure SiteFile where
  path : Text
  properties : List (Text × Text)
  deriving DecidableEq, Repr

/-- The properties of the client's `hadoop-site.xml`. -/
def siteProperties (namenode jobtracker awsAccessKeyId awsSecretAccessKey proxyPort : Text) :
    List (Text × Text) :=
  [("hadoop.job.ugi".toList, "root,root".toList),
    ("fs.default.name".toList, "hdfs://".toList ++ namenode ++ ":8020/".toList),
    ("mapred.job.tracker".toList, jobtracker ++ ":8021".toList),
    ("hadoop.socks.server".toList, "localhost:".toList ++ proxyPort),
    ("hadoop.rpc.socket.factory.class.default".toList,
      "org.apache.hadoop.net.SocksSocketFactory".toList),
    ("fs.s3.awsAccessKeyId".toList, awsAccessKeyId),
    ("fs.s3.awsSecretAccessKey".toList, awsSecretAccessKey),
    ("fs.s3n.awsAccessKeyId".toList, awsAccessKeyId),
    ("fs.s3n.awsSecretAccessKey".toList, awsSecretAccessKey)]

/-! ### What surrounds a launch -/

/-- What `Service._launch_instances` returns or raises after its request. -/
def Reply.result : Reply → Except PyError (Option (List Text))
  | .raised error => .error error
  | .timedOut => .ok none
  | .running publicIps => .ok (some publicIps)

/-- A template with what comes of its launch. -/
structure TemplateLaunch where
  template : InstanceTemplate
  reply : Reply
  deriving DecidableEq, Repr

/-- The steps that look up the running instances in a role. -/
inductive LookupStep
  | siteFile
  | ports
  | waiting
  | printing
  deriving DecidableEq, Repr

/-- What a read of the jobtracker's page gives. -/
inductive Poll
  | ioError
  | raised (error : PyError)
  | tasktrackers (number : ℕ)
  deriving DecidableEq, Repr

/-- The arguments of `launch_cluster` and of its cluster, and what the rest of the world answers:
the addresses of the running instances at each lookup, whether the site file can be opened and
written, the address that the client is told it has, which rules EC2 takes, the addresses of names,
the account when storage is attached, and the reads of the jobtracker's page up to the timeout. The
proxy port is as `%s` writes it. -/
structure Surroundings where
  name : Text
  configDir : Text
  proxyPort : Text
  clientCidr : Option OptionValue
  launches : List TemplateLaunch
  running : LookupStep → Text → Except PyError (List Text)
  siteFileOpened : Except PyError Unit
  siteFileWritten : Except PyError Unit
  clientIp : Except PyError Text
  authorized : PortRule → Except PyError Unit
  resolved : Text → Except PyError Text
  account : SharedAccount
  orders : ℕ → DictOrder
  polls : List Poll

/-- A result that was used although it was missing. -/
inductive MissingUse
  | launched
  | namenode
  | jobtracker
  deriving DecidableEq, Repr

/-- What a launch has done so far. -/
structure LaunchWorld (order : DictOrder) where
  requests : List (LaunchRequest order)
  siteFile : Option SiteFile
  rules : List PortRule
  storage : AttachWorld
  printed : List Text
  missingUsed : List MissingUse

/-- Nothing done yet. -/
def LaunchWorld.start (order : DictOrder) (storage : StorageWorld) : LaunchWorld order :=
  ⟨[], none, [], ⟨storage, []⟩, [], []⟩

/-! ### The steps -/

section Steps

variable {order : DictOrder} {Value : Type}

/-- The value of a result, or the exception that Python raises when it is `None`. -/
def present (use : MissingUse) (error : PyError) : Option Value → Py (LaunchWorld order) Value
  | some value => Py.ret value
  | none => fun world ↦
    (.error error, { world with missingUsed := world.missingUsed ++ [use] })

/-- `instance.public_ip`. -/
def publicIp (use : MissingUse) (found : Option Text) : Py (LaunchWorld order) Text :=
  present use (.attributeError "public_ip".toList) found

/-- `HadoopService._get_namenode` and `_get_jobtracker`. -/
def getFirst (surroundings : Surroundings) (step : LookupStep) (role : Text) :
    Py (LaunchWorld order) (Option Text) := do
  let instances ← Py.ofExcept (surroundings.running step role)
  return instances.head?

/-- `print`. -/
def printLine (line : Text) : Py (LaunchWorld order) Unit :=
  Py.modify fun world ↦ { world with printed := world.printed ++ [line] }

/-- `Service._launch_instances`. -/
def launchTemplate (client : Client) (template : InstanceTemplate) (reply : Reply) :
    Py (LaunchWorld client.order) (Option (List Text)) := do
  let request ← Py.ofExcept (client.request template)
  Py.modify fun world ↦ { world with requests := world.requests ++ [request] }
  Py.ofExcept reply.result

/-- The host variables that a launch adds. For a single instance the code takes the length of the
result. -/
def addedHosts (template : InstanceTemplate) (instances : Option (List Text)) :
    Py (LaunchWorld order) (List Text) :=
  if template.number = 1 then do
    let found ← present .launched .typeError instances
    Py.ofExcept (singletonHosts template (some found))
  else Py.ret []

/-- `HadoopService._launch_cluster_instances`, with the host variables so far. -/
def launchTemplates (client : Client) :
    List Text → List TemplateLaunch → Py (LaunchWorld client.order) Unit
  | _, [] => Py.ret ()
  | hosts, launch :: rest => do
    let instances ← launchTemplate client (launch.template.addEnvStrings hosts) launch.reply
    let added ← addedHosts launch.template instances
    launchTemplates client (hosts ++ added) rest

/-- What `_create_client_hadoop_site_file` has found when it opens the file. -/
structure SiteValues where
  namenode : Option Text
  jobtracker : Option Text
  awsAccessKeyId : Text
  awsSecretAccessKey : Text

/-- The path of the client's `hadoop-site.xml`. -/
def Surroundings.sitePath (surroundings : Surroundings) : Text :=
  joinPath (joinPath surroundings.configDir surroundings.name) "hadoop-site.xml".toList

/-- `_create_client_hadoop_site_file` until the file is open, and empty. -/
def openSiteFile (client : Client) (surroundings : Surroundings) :
    Py (LaunchWorld order) SiteValues := do
  let namenode ← getFirst surroundings .siteFile namenodeRole
  let jobtracker ← getFirst surroundings .siteFile jobtrackerRole
  let awsAccessKeyId ← Py.ofExcept (environ "AWS_ACCESS_KEY_ID".toList client.awsAccessKeyId)
  let awsSecretAccessKey ←
    Py.ofExcept (environ "AWS_SECRET_ACCESS_KEY".toList client.awsSecretAccessKey)
  Py.ofExcept surroundings.siteFileOpened
  Py.modify fun world ↦ { world with siteFile := some ⟨surroundings.sitePath, []⟩ }
  return ⟨namenode, jobtracker, awsAccessKeyId, awsSecretAccessKey⟩

/-- `_create_client_hadoop_site_file` from there. -/
def writeSiteFile (surroundings : Surroundings) (values : SiteValues) :
    Py (LaunchWorld order) Unit := do
  let namenode ← publicIp .namenode values.namenode
  let jobtracker ← publicIp .jobtracker values.jobtracker
  Py.ofExcept surroundings.siteFileWritten
  Py.modify fun world ↦
    { world with
      siteFile := some ⟨surroundings.sitePath, siteProperties namenode jobtracker
        values.awsAccessKeyId values.awsSecretAccessKey surroundings.proxyPort⟩ }

/-- `HadoopService._create_client_hadoop_site_file`. -/
def createClientHadoopSiteFile (client : Client) (surroundings : Surroundings) :
    Py (LaunchWorld order) Unit := do
  let values ← openSiteFile client surroundings
  writeSiteFile surroundings values

/-- The CIDRs of the client: those given, or its own address. -/
def Surroundings.clientCidrs (surroundings : Surroundings) : Except PyError (List Text) :=
  match iterate surroundings.clientCidr with
  | [] => do
    let clientIp ← surroundings.clientIp
    return [hostCidr clientIp]
  | clientCidrs => .ok clientCidrs

/-- `Cluster.authorize_role`. -/
def authorizeRole (surroundings : Surroundings) (rule : PortRule) : Py (LaunchWorld order) Unit :=
  fun world ↦ (surroundings.authorized rule, { world with rules := world.rules ++ [rule] })

/-- `_authorize_client_ports` up to the rules for the clients: the namenode and the jobtracker it
has found. -/
def authorizeClients (surroundings : Surroundings) :
    Py (LaunchWorld order) (Option Text × Option Text) := do
  let clientCidrs ← Py.ofExcept surroundings.clientCidrs
  let namenode ← getFirst surroundings .ports namenodeRole
  let jobtracker ← getFirst surroundings .ports jobtrackerRole
  Py.forEach (clientCidrs.flatMap clientRules) (authorizeRole surroundings)
  return (namenode, jobtracker)

/-- `_authorize_client_ports` from there: the rules for the two of them. -/
def authorizeMasters (surroundings : Surroundings) (masters : Option Text × Option Text) :
    Py (LaunchWorld order) Unit := do
  let namenode ← publicIp .namenode masters.1
  let namenodeIp ← Py.ofExcept (surroundings.resolved namenode)
  let jobtracker ← publicIp .jobtracker masters.2
  let jobtrackerIp ← Py.ofExcept (surroundings.resolved jobtracker)
  Py.forEach (masterRules namenodeIp jobtrackerIp) (authorizeRole surroundings)

/-- `HadoopService._authorize_client_ports`. -/
def authorizeClientPorts (surroundings : Surroundings) : Py (LaunchWorld order) Unit := do
  let masters ← authorizeClients surroundings
  authorizeMasters surroundings masters

/-- The first loop of `_wait_for_hadoop`: the number of tasktrackers and the reads that are left, or
nothing at the timeout. -/
def waitForPage : List Poll → Except PyError (Option (ℕ × List Poll))
  | [] => .ok none
  | .ioError :: rest => waitForPage rest
  | .raised error :: _ => .error error
  | .tasktrackers number :: rest => .ok (some (number, rest))

/-- The second loop of `_wait_for_hadoop`: whether there are enough before the timeout. -/
def waitForTasktrackers (number : ℤ) (actualRunning : ℕ) : List Poll → Except PyError Bool
  | [] => .ok (number ≤ actualRunning)
  | poll :: rest =>
    if number ≤ actualRunning then .ok true
    else
      match poll with
      | .ioError => waitForTasktrackers number actualRunning rest
      | .raised error => .error error
      | .tasktrackers actualRunning => waitForTasktrackers number actualRunning rest

/-- The loops of `_wait_for_hadoop`. -/
def waitForPolls (number : ℤ) (polls : List Poll) : Except PyError Bool := do
  match ← waitForPage polls with
  | none => return false
  | some (actualRunning, rest) =>
    if 0 < number then waitForTasktrackers number actualRunning rest else return true

/-- `HadoopService._wait_for_hadoop`: false after a timeout. -/
def waitForHadoop (surroundings : Surroundings) (number : ℤ) : Py (LaunchWorld order) Bool := do
  match ← getFirst surroundings .waiting jobtrackerRole with
  | none => return true
  | some _ => Py.ofExcept (waitForPolls number surroundings.polls)

/-- `HadoopService._print_master_url`. -/
def printMasterUrl (surroundings : Surroundings) : Py (LaunchWorld order) Unit := do
  match ← getFirst surroundings .printing jobtrackerRole with
  | none => return ()
  | some publicIp =>
    printLine ("Browse the cluster at http://".toList ++ publicIp ++ "/".toList)

/-- The roles of all templates. -/
def Surroundings.roles (surroundings : Surroundings) : List Text :=
  surroundings.launches.flatMap fun launch ↦ launch.template.roles

/-- `number_of_tasktrackers`. -/
def Surroundings.numberOfTasktrackers (surroundings : Surroundings) : ℤ :=
  ((surroundings.launches.filter fun launch ↦ tasktrackerRole ∈ launch.template.roles).map
    fun launch ↦ launch.template.number).sum

/-- The message of a timeout of `_wait_for_hadoop`. -/
def hadoopTimeoutMessage : Text :=
  "Timeout while waiting for Hadoop to start. Please check logs on cluster.".toList

/-- `HadoopService._attach_storage`; only EC2 clusters have any. -/
def attachClusterStorage (client : Client) (surroundings : Surroundings) :
    Py AttachWorld Unit :=
  if client.provider = .dummy then Py.ret ()
  else attachStorage surroundings.orders surroundings.name surroundings.account surroundings.roles

/-- The message of `launch_cluster` when `_wait_for_hadoop` has timed out. -/
def reportTimeout (started : Bool) : Py (LaunchWorld order) Unit :=
  if started then Py.ret () else printLine hadoopTimeoutMessage

/-- `launch_cluster` after the ports: the storage, the wait and the URL. -/
def finishLaunch (client : Client) (surroundings : Surroundings) :
    Py (LaunchWorld order) Unit := do
  Py.within LaunchWorld.storage (fun world storage ↦ { world with storage := storage })
    (attachClusterStorage client surroundings)
  let started ← waitForHadoop surroundings surroundings.numberOfTasktrackers
  reportTimeout started
  printMasterUrl surroundings

end Steps

/-- `HadoopService.launch_cluster`. -/
def launchCluster (client : Client) (surroundings : Surroundings) :
    Py (LaunchWorld client.order) Unit := do
  launchTemplates client [] surroundings.launches
  createClientHadoopSiteFile client surroundings
  authorizeClientPorts surroundings
  finishLaunch client surroundings

/-! ### The launches -/

/-- Only one instance has host variables. -/
theorem singletonHosts_of_ne_one {template : InstanceTemplate} (hnumber : template.number ≠ 1)
    (instances : Option (List Text)) : singletonHosts template instances = .ok [] := by
  unfold singletonHosts
  split
  · exact if_neg hnumber
  · exact if_neg hnumber
  · rfl

/-- With a result there are host variables, or none. -/
theorem singletonHosts_some (template : InstanceTemplate) (publicIps : List Text) :
    ∃ added, singletonHosts template (some publicIps) = .ok added := by
  by_cases hnumber : template.number = 1
  · rcases publicIps with _ | ⟨publicIp, _ | ⟨second, others⟩⟩
    · exact ⟨_, rfl⟩
    · exact ⟨_, if_pos hnumber⟩
    · exact ⟨_, rfl⟩
  · exact ⟨_, singletonHosts_of_ne_one hnumber _⟩

/-- The host variables that a launch adds when it does not time out for a single instance. -/
def hostsAdded (launch : TemplateLaunch) : List Text :=
  match launch.reply with
  | .running publicIps => (singletonHosts launch.template (some publicIps)).toOption.getD []
  | _ => []

section Launches

variable {client : Client} {hosts : List Text} (launch : TemplateLaunch)
  (rest : List TemplateLaunch) (world : LaunchWorld client.order)

/-- The world after a request. -/
def LaunchWorld.requested {order : DictOrder} (world : LaunchWorld order)
    (request : LaunchRequest order) : LaunchWorld order :=
  { world with requests := world.requests ++ [request] }

/-- The request of a template cannot be made. -/
theorem launchTemplates_noRequest {error : PyError}
    (hrequest : client.request (launch.template.addEnvStrings hosts) = .error error) :
    launchTemplates client hosts (launch :: rest) world = (.error error, world) := by
  have hlaunch : launchTemplate client (launch.template.addEnvStrings hosts) launch.reply world =
      (.error error, world) := by
    rw [launchTemplate, hrequest]
    exact Py.run_bind_error (Py.run_ofExcept _ _) _
  rw [launchTemplates]
  exact Py.run_bind_error hlaunch _

section Requested

variable {request : LaunchRequest client.order}
  (hrequest : client.request (launch.template.addEnvStrings hosts) = .ok request)

include hrequest

theorem launchTemplate_requested :
    launchTemplate client (launch.template.addEnvStrings hosts) launch.reply world =
      (launch.reply.result, world.requested request) := by
  rw [launchTemplate, hrequest, Py.bind_eq, Py.run_bind_ok (Py.run_ofExcept _ _)]
  rfl

/-- EC2 refuses the launch of a template. -/
theorem launchTemplates_raised {error : PyError} (hreply : launch.reply = .raised error) :
    launchTemplates client hosts (launch :: rest) world =
      (.error error, world.requested request) := by
  have hlaunch := launchTemplate_requested launch world hrequest
  rw [hreply, Reply.result, ← hreply] at hlaunch
  rw [launchTemplates]
  exact Py.run_bind_error hlaunch _

/-- The launch of a single instance times out. -/
theorem launchTemplates_missing (hreply : launch.reply = .timedOut)
    (hnumber : launch.template.number = 1) :
    launchTemplates client hosts (launch :: rest) world =
      (.error .typeError, { world.requested request with
        missingUsed := world.missingUsed ++ [.launched] }) := by
  have hlaunch := launchTemplate_requested launch world hrequest
  rw [hreply, Reply.result, ← hreply] at hlaunch
  rw [launchTemplates, Py.bind_eq, Py.run_bind_ok hlaunch, addedHosts, if_pos hnumber]
  rfl

/-- Any other launch goes on to the next template. -/
theorem launchTemplates_next (hraised : ∀ error, launch.reply ≠ .raised error)
    (hsingle : launch.template.number = 1 → launch.reply ≠ .timedOut) :
    launchTemplates client hosts (launch :: rest) world =
      launchTemplates client (hosts ++ hostsAdded launch) rest (world.requested request) := by
  have hlaunch := launchTemplate_requested launch world hrequest
  rw [launchTemplates, Py.bind_eq]
  cases hreply : launch.reply with
  | raised error => exact absurd hreply (hraised error)
  | timedOut =>
    have hnumber : launch.template.number ≠ 1 := fun hnumber ↦ hsingle hnumber hreply
    rw [hreply, Reply.result] at hlaunch
    rw [Py.run_bind_ok hlaunch, hostsAdded, hreply, addedHosts, if_neg hnumber]
    rfl
  | running publicIps =>
    obtain ⟨added, hadded⟩ := singletonHosts_some launch.template publicIps
    rw [hreply, Reply.result] at hlaunch
    have hhosts : addedHosts launch.template (some publicIps) (world.requested request) =
        (.ok added, world.requested request) := by
      unfold addedHosts
      split_ifs with hnumber
      · rw [Py.bind_eq, present, Py.run_bind_ok (Py.run_ret _ _), hadded]
        rfl
      · rw [singletonHosts_of_ne_one hnumber] at hadded
        cases hadded
        rfl
    rw [Py.run_bind_ok hlaunch, Py.bind_eq, Py.run_bind_ok hhosts, hostsAdded, hreply]
    simp only [hadded, Except.toOption, Option.getD_some]

end Requested

end Launches

/-- The launches of a command, each with what comes of it. No reply is read where no request can be
made. -/
def launchesOf (client : Client) (cloud : Cloud client.order) :
    List Text → List (LaunchRequest client.order) → List InstanceTemplate → List TemplateLaunch
  | _, _, [] => []
  | hosts, requests, template :: rest =>
    match client.request (template.addEnvStrings hosts) with
    | .error _ => ⟨template, .timedOut⟩ :: launchesOf client cloud hosts requests rest
    | .ok request =>
      let launch : TemplateLaunch := ⟨template, cloud.reply (requests ++ [request])⟩
      launch :: launchesOf client cloud (hosts ++ hostsAdded launch) (requests ++ [request]) rest

section Agreement

variable {client : Client} (cloud : Cloud client.order)

theorem launchesOf_noRequest {hosts : List Text} {requests : List (LaunchRequest client.order)}
    {template : InstanceTemplate} {error : PyError} (rest : List InstanceTemplate)
    (hrequest : client.request (template.addEnvStrings hosts) = .error error) :
    launchesOf client cloud hosts requests (template :: rest) =
      ⟨template, .timedOut⟩ :: launchesOf client cloud hosts requests rest := by
  rw [launchesOf, hrequest]

theorem launchesOf_requested {hosts : List Text} {requests : List (LaunchRequest client.order)}
    {template : InstanceTemplate} {request : LaunchRequest client.order}
    (rest : List InstanceTemplate)
    (hrequest : client.request (template.addEnvStrings hosts) = .ok request) :
    launchesOf client cloud hosts requests (template :: rest) =
      ⟨template, cloud.reply (requests ++ [request])⟩ ::
        launchesOf client cloud
          (hosts ++ hostsAdded ⟨template, cloud.reply (requests ++ [request])⟩)
          (requests ++ [request]) rest := by
  rw [launchesOf, hrequest]

/-- A launch of a command returns or raises what EC2 replies to its request. -/
theorem launchInstances_requested {template : InstanceTemplate}
    {request : LaunchRequest client.order} (hrequest : client.request template = .ok request)
    (requests : List (LaunchRequest client.order)) :
    launchInstances client cloud template requests =
      ((cloud.reply (requests ++ [request])).result, requests ++ [request]) := by
  rw [launchInstances, hrequest, Py.bind_eq, Py.run_bind_ok (Py.run_ofExcept _ _), Py.bind_eq,
    Py.run_bind_ok (Py.run_modify _ _), Py.bind_eq, Py.run_bind_ok (Py.run_get _)]
  cases cloud.reply (requests ++ [request]) <;> rfl

theorem result_eq_error_iff {reply : Reply} {error : PyError} :
    reply.result = .error error ↔ reply = .raised error := by
  cases reply <;> simp [Reply.result]

/-- Unless a single instance is missing, the host variables are those that the launch adds. -/
theorem singletonHosts_result {launch : TemplateLaunch} {instances : Option (List Text)}
    (hresult : launch.reply.result = .ok instances)
    (hsingle : launch.template.number = 1 → launch.reply ≠ .timedOut) :
    singletonHosts launch.template instances = .ok (hostsAdded launch) := by
  obtain ⟨template, reply⟩ := launch
  cases reply with
  | raised error => cases hresult
  | timedOut =>
    cases hresult
    exact singletonHosts_of_ne_one (fun hnumber ↦ hsingle hnumber rfl) none
  | running publicIps =>
    cases hresult
    obtain ⟨added, hadded⟩ := singletonHosts_some template publicIps
    simp only [hostsAdded, hadded, Except.toOption, Option.getD_some]

/-- Whatever EC2 answers, the launches of a command are those of its templates with their replies:
they send the same requests and end in the same way. -/
theorem launchClusterInstances_launchTemplates (hosts : List Text)
    (templates : List InstanceTemplate) (world : LaunchWorld client.order) :
    launchClusterInstances client cloud hosts templates world.requests =
      ((launchTemplates client hosts (launchesOf client cloud hosts world.requests templates)
          world).1,
        (launchTemplates client hosts (launchesOf client cloud hosts world.requests templates)
          world).2.requests) := by
  induction templates generalizing hosts world with
  | nil => rfl
  | cons template rest ih =>
    rw [launchClusterInstances]
    cases hrequest : client.request (template.addEnvStrings hosts) with
    | error error =>
      rw [launchesOf_noRequest cloud rest hrequest,
        launchTemplates_noRequest ⟨template, .timedOut⟩ _ _ hrequest, launchInstances, hrequest]
      rfl
    | ok request =>
      have hlaunch := launchInstances_requested cloud hrequest world.requests
      rw [launchesOf_requested cloud rest hrequest, Py.bind_eq]
      generalize cloud.reply (world.requests ++ [request]) = reply at hlaunch ⊢
      by_cases hmissing : template.number = 1 ∧ reply = .timedOut
      · obtain ⟨hnumber, rfl⟩ := hmissing
        rw [launchTemplates_missing ⟨template, .timedOut⟩ _ _ hrequest rfl hnumber,
          Py.run_bind_ok hlaunch, singletonHosts, if_pos hnumber]
        rfl
      · have hsingle : template.number = 1 → reply ≠ .timedOut :=
          fun hnumber htimedOut ↦ hmissing ⟨hnumber, htimedOut⟩
        cases hresult : reply.result with
        | error error =>
          rw [hresult] at hlaunch
          rw [launchTemplates_raised ⟨template, reply⟩ _ _ hrequest
            (result_eq_error_iff.mp hresult), Py.run_bind_error hlaunch]
          rfl
        | ok instances =>
          have hraised (error : PyError) : reply ≠ .raised error := fun hraised ↦ by
            rw [result_eq_error_iff.mpr hraised] at hresult
            cases hresult
          have hadded : singletonHosts template instances = .ok (hostsAdded ⟨template, reply⟩) :=
            @singletonHosts_result ⟨template, reply⟩ instances hresult hsingle
          rw [hresult] at hlaunch
          rw [launchTemplates_next ⟨template, reply⟩ _ _ hrequest hraised hsingle,
            Py.run_bind_ok hlaunch, hadded, Py.bind_eq, Py.run_bind_ok (Py.run_ofExcept _ _)]
          exact ih (hosts ++ hostsAdded ⟨template, reply⟩) (world.requested request)

end Agreement

end Ec2Wrappers.HadoopCloud
