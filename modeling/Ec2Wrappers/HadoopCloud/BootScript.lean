import Ec2Wrappers.HadoopCloud.HostVariables
import Ec2Wrappers.HadoopCloud.StorageMappings

/-!
# The boot script

What `hadoop/cloud/data/hadoop-cs61cec2-init-remote.sh` makes of its line `export %ENV%` and of what
EC2 says about the instance: the hosts of the masters, the site file that `configure_hadoop` writes,
and the services that are started for the roles.

The line gives the variables of the request (`bootStore_item`, `bootStore_last`) and no others
(`bootStore_other`), so that the roles are read back as they were given (`readRoles_bootStore`).
Every directory in the site file is on a disk that the script has mounted, and the data directories
of an instance with volumes are on the mount points recorded for the last of its roles that has
storage (`siteDirectories_mounted`).

The installation of packages, the formatting of HDFS, permissions, the web server's page and the
rendering of the site file as XML are left out.
-/

set_option autoImplicit false
set_option relaxedAutoImplicit false

namespace Ec2Wrappers.HadoopCloud

open Foundations

/-! ### Variables -/

/-- What EC2 says about an instance: its public host name and its type. -/
structure InstanceMetadata where
  publicHostname : Text
  instanceType : Text
  deriving DecidableEq, Repr

/-- `$name`, nothing for a variable that is not set. -/
def expand (store : Shell.Variables) (name : Text) : Text := (store name).getD []

/-- `HADOOP=hadoop-${HADOOP_VERSION:-0.20}`. -/
def hadoopPackage (store : Shell.Variables) : Text :=
  let version := expand store "HADOOP_VERSION".toList
  "hadoop-".toList ++ if version = [] then "0.20".toList else version

/-- `HADOOP_CONF_DIR=/etc/$HADOOP/conf.dist`. -/
def hadoopConfDir (store : Shell.Variables) : Text :=
  "/etc/".toList ++ hadoopPackage store ++ "/conf.dist".toList

/-- `$(echo "$ROLES" | tr "," "\n")`. -/
def readRoles (store : Shell.Variables) : List Text :=
  Shell.fields (Shell.translate ',' '\n' (expand store "ROLES".toList))

/-- A turn of the first loop over the roles: an instance with a master's role is the master. -/
def setHost (selfHost : Text) (store : Shell.Variables) (role : Text) : Shell.Variables :=
  if role = "nn".toList then Function.update store "NN_HOST".toList (some selfHost)
  else if role = "jt".toList then Function.update store "JT_HOST".toList (some selfHost)
  else store

/-! ### The site file -/

/-- The variables of `configure_hadoop`, with the disks that it mounts. -/
structure HadoopConfig where
  dfsNameDir : Text
  fsCheckpointDir : Text
  dfsDataDir : Text
  dfsReplication : Text
  mapredLocalDir : Text
  maxMapTasks : Text
  maxReduceTasks : Text
  childOpts : Text
  childUlimit : Text
  mounts : List (Text × Text)
  deriving DecidableEq, Repr

/-- `DIRS=${DIRS},"$mount$place"` for each mount, and `${DIRS#?}`. -/
def directories (place : Text) (mounts : List Text) : Text :=
  (mounts.foldl (fun dirs mount ↦ dirs ++ ',' :: (mount ++ place)) []).drop 1

/-- The places on a disk: of the names, of the checkpoints, of the data and of the tasks. -/
def namePlace : Text := "/hadoop/hdfs/name".toList

@[inherit_doc namePlace] def checkpointPlace : Text := "/hadoop/hdfs/secondary".toList

@[inherit_doc namePlace] def dataPlace : Text := "/hadoop/hdfs/data".toList

@[inherit_doc namePlace] def localPlace : Text := "/hadoop/mapred/local".toList

/-- The directories of an instance with volumes, for `EBS_MAPPINGS`. -/
def volumeDirectories (mappings : Text) (place : Text) : Text :=
  directories place ((readMappings mappings).map Prod.fst)

/-- The directories on the disks of an instance type: of the names, of the checkpoints and of the
data. -/
def diskDirectories (instanceType : Text) : Text × Text × Text :=
  if instanceType = "m1.xlarge".toList ∨ instanceType = "c1.xlarge".toList then
    ("/mnt/hadoop/hdfs/name,/mnt2/hadoop/hdfs/name".toList,
      "/mnt/hadoop/hdfs/secondary,/mnt2/hadoop/hdfs/secondary".toList,
      ("/mnt/hadoop/hdfs/data,/mnt2/hadoop/hdfs/data," ++
        "/mnt3/hadoop/hdfs/data,/mnt4/hadoop/hdfs/data").toList)
  else if instanceType = "m1.large".toList then
    ("/mnt/hadoop/hdfs/name,/mnt2/hadoop/hdfs/name".toList,
      "/mnt/hadoop/hdfs/secondary,/mnt2/hadoop/hdfs/secondary".toList,
      "/mnt/hadoop/hdfs/data,/mnt2/hadoop/hdfs/data".toList)
  else
    ("/mnt/hadoop/hdfs/name".toList, "/mnt/hadoop/hdfs/secondary".toList,
      "/mnt/hadoop/hdfs/data".toList)

/-- The settings of the tasks of an instance type: `MAPRED_LOCAL_DIR`, `MAX_MAP_TASKS`,
`MAX_REDUCE_TASKS`, `CHILD_OPTS` and `CHILD_ULIMIT`, and the disks that `prep_disk` mounts. -/
structure TaskSettings where
  mapredLocalDir : Text
  maxMapTasks : Text
  maxReduceTasks : Text
  childOpts : Text
  childUlimit : Text
  preparedDisks : List (Text × Text)
  deriving DecidableEq, Repr

/-- The second `case` over the instance type. -/
def taskSettings (instanceType : Text) : TaskSettings :=
  if instanceType = "m1.xlarge".toList ∨ instanceType = "c1.xlarge".toList then
    { mapredLocalDir := ("/mnt/hadoop/mapred/local,/mnt2/hadoop/mapred/local," ++
        "/mnt3/hadoop/mapred/local,/mnt4/hadoop/mapred/local").toList
      maxMapTasks := "8".toList
      maxReduceTasks := "4".toList
      childOpts := "-Xmx680m".toList
      childUlimit := "1392640".toList
      preparedDisks := [("/mnt2".toList, "/dev/sdc".toList), ("/mnt3".toList, "/dev/sdd".toList),
        ("/mnt4".toList, "/dev/sde".toList)] }
  else if instanceType = "m1.large".toList then
    { mapredLocalDir := "/mnt/hadoop/mapred/local,/mnt2/hadoop/mapred/local".toList
      maxMapTasks := "4".toList
      maxReduceTasks := "2".toList
      childOpts := "-Xmx1024m".toList
      childUlimit := "2097152".toList
      preparedDisks := [("/mnt2".toList, "/dev/sdc".toList)] }
  else
    { mapredLocalDir := "/mnt/hadoop/mapred/local".toList
      maxMapTasks := if instanceType = "c1.medium".toList then "4".toList else "2".toList
      maxReduceTasks := if instanceType = "c1.medium".toList then "2".toList else "1".toList
      childOpts := "-Xmx550m".toList
      childUlimit := "1126400".toList
      preparedDisks := [] }

/-- `configure_hadoop`, up to the site file; `/mnt` is there from the start. -/
def configureHadoop (store : Shell.Variables) (instanceType : Text) : HadoopConfig :=
  let mappings := expand store "EBS_MAPPINGS".toList
  let tasks := taskSettings instanceType
  let (names, checkpoints, data) :=
    if mappings = [] then diskDirectories instanceType
    else (volumeDirectories mappings namePlace, volumeDirectories mappings checkpointPlace,
      volumeDirectories mappings dataPlace)
  { dfsNameDir := names
    fsCheckpointDir := checkpoints
    dfsDataDir := data
    dfsReplication := "3".toList
    mapredLocalDir := tasks.mapredLocalDir
    maxMapTasks := tasks.maxMapTasks
    maxReduceTasks := tasks.maxReduceTasks
    childOpts := tasks.childOpts
    childUlimit := tasks.childUlimit
    mounts := readMappings mappings ++ tasks.preparedDisks }

/-- The properties of `hadoop-site.xml`. -/
def siteFile (store : Shell.Variables) (config : HadoopConfig) : List (Text × Text) :=
  [("dfs.block.size".toList, "134217728".toList),
    ("dfs.data.dir".toList, config.dfsDataDir),
    ("dfs.datanode.du.reserved".toList, "1073741824".toList),
    ("dfs.datanode.handler.count".toList, "3".toList),
    ("dfs.name.dir".toList, config.dfsNameDir),
    ("dfs.namenode.handler.count".toList, "5".toList),
    ("dfs.permissions".toList, "true".toList),
    ("dfs.replication".toList, config.dfsReplication),
    ("fs.checkpoint.dir".toList, config.fsCheckpointDir),
    ("fs.default.name".toList,
      "hdfs://".toList ++ expand store "NN_HOST".toList ++ ":8020/".toList),
    ("fs.trash.interval".toList, "1440".toList),
    ("hadoop.tmp.dir".toList, "/mnt/tmp/hadoop-$\x7buser.name\x7d".toList),
    ("io.file.buffer.size".toList, "65536".toList),
    ("mapred.child.java.opts".toList, config.childOpts),
    ("mapred.child.ulimit".toList, config.childUlimit),
    ("mapred.job.tracker".toList, expand store "JT_HOST".toList ++ ":8021".toList),
    ("mapred.job.tracker.handler.count".toList, "5".toList),
    ("mapred.local.dir".toList, config.mapredLocalDir),
    ("mapred.map.tasks.speculative.execution".toList, "true".toList),
    ("mapred.reduce.parallel.copies".toList, "10".toList),
    ("mapred.reduce.tasks".toList, "10".toList),
    ("mapred.reduce.tasks.speculative.execution".toList, "false".toList),
    ("mapred.submit.replication".toList, "10".toList),
    ("mapred.system.dir".toList, "/user/mapred/hadoop/system/mapred".toList),
    ("mapred.tasktracker.map.tasks.maximum".toList, config.maxMapTasks),
    ("mapred.tasktracker.reduce.tasks.maximum".toList, config.maxReduceTasks),
    ("tasktracker.http.threads".toList, "46".toList),
    ("mapred.jobtracker.taskScheduler".toList, "org.apache.hadoop.mapred.FairScheduler".toList),
    ("mapred.fairscheduler.allocation.file".toList,
      hadoopConfDir store ++ "/fairscheduler.xml".toList),
    ("mapred.compress.map.output".toList, "true".toList),
    ("mapred.output.compression.type".toList, "BLOCK".toList),
    ("hadoop.rpc.socket.factory.class.default".toList,
      "org.apache.hadoop.net.StandardSocketFactory".toList),
    ("hadoop.rpc.socket.factory.class.ClientProtocol".toList, []),
    ("hadoop.rpc.socket.factory.class.JobSubmissionProtocol".toList, []),
    ("io.compression.codecs".toList,
      "org.apache.hadoop.io.compress.DefaultCodec,org.apache.hadoop.io.compress.GzipCodec".toList),
    ("fs.s3.awsAccessKeyId".toList, expand store "AWS_ACCESS_KEY_ID".toList),
    ("fs.s3.awsSecretAccessKey".toList, expand store "AWS_SECRET_ACCESS_KEY".toList),
    ("fs.s3n.awsAccessKeyId".toList, expand store "AWS_ACCESS_KEY_ID".toList),
    ("fs.s3n.awsSecretAccessKey".toList, expand store "AWS_SECRET_ACCESS_KEY".toList)]

/-! ### Services -/

/-- The services that the second loop over the roles starts for a role. -/
def servicesOfRole (store : Shell.Variables) (role : Text) : List Text :=
  let daemon (name : String) := hadoopPackage store ++ '-' :: name.toList
  if role = "nn".toList then
    ["thttpd".toList, daemon "namenode", daemon "secondarynamenode"]
  else if role = "snn".toList then [daemon "secondarynamenode"]
  else if role = "jt".toList then [daemon "jobtracker"]
  else if role = "dn".toList then [daemon "datanode"]
  else if role = "tt".toList then [daemon "tasktracker"]
  else []

/-- An instance after its boot script: the site file, the disks that are mounted, and the services
that have been started. -/
structure BootedInstance where
  site : List (Text × Text)
  mounts : List (Text × Text)
  services : List Text
  deriving DecidableEq, Repr

/-- The variables behind the line `export %ENV%` at the beginning of a script. -/
def bootStore (initial : Shell.Variables) (script : Text) : Option Shell.Variables :=
  (Shell.readExport script).map fun (assignments, _) ↦ initial.assign assignments

/-- The boot script, with the variables that are set when it begins. -/
def boot (initial : Shell.Variables) (metadata : InstanceMetadata) (script : Text) :
    Option BootedInstance :=
  (bootStore initial script).map fun store ↦
    let roles := readRoles store
    let store := roles.foldl (setHost metadata.publicHostname) store
    let config := configureHadoop store metadata.instanceType
    { site := siteFile store config
      mounts := config.mounts
      services := roles.flatMap (servicesOfRole store) }

/-! ### The variables of a request -/

/-- The script of an instance, with the environment string in its first line. -/
def bootLine {order : DictOrder} (environment : Environment order) (rest : Text) : Text :=
  exportCommand ++ environment.text ++ '\n' :: rest

/-- The env strings are settings of variables, and no value has a NUL in it. -/
structure Environment.Readable {order : DictOrder} (environment : Environment order) : Prop where
  settings : ∃ settings : List (Text × Text), environment.envStrings = settings.map settingString ∧
    ∀ setting ∈ settings, Shell.IsIdentifier setting.1 ∧ Char.ofNat 0 ∉ setting.2
  pairs : ∀ pair ∈ environment.pairs.items, Char.ofNat 0 ∉ textOf pair.2

section Variables

variable {order : DictOrder} {environment : Environment order} {initial : Shell.Variables}

theorem isIdentifier_of_mem_items {pairs : EnvPairs} {pair : Text × Option OptionValue}
    (hpair : pair ∈ pairs.items) : Shell.IsIdentifier pair.1 := by
  revert pair
  simp only [EnvPairs.items, List.forall_mem_cons]
  decide +kernel

/-- The line sets the variables of the env strings, and behind them those of the dictionary. -/
theorem bootStore_bootLine (hreadable : environment.Readable) (initial : Shell.Variables)
    (rest : Text) : ∃ settings : List (Text × Text),
      environment.envStrings = settings.map settingString ∧
      (∀ setting ∈ settings, '=' ∉ setting.1) ∧
      bootStore initial (bootLine environment rest) = some (initial.assign
        (settings ++ (order.arrange environment.pairs.items).map assignmentOf)) := by
  obtain ⟨settings, hsettings, hplain⟩ := hreadable.settings
  have hnames : ∀ setting ∈ settings, '=' ∉ setting.1 :=
    fun setting hsetting ↦ (hplain setting hsetting).1.not_mem_equals
  refine ⟨settings, hsettings, hnames, ?_⟩
  have hbuilt := environment.text_eq
  rw [hsettings] at hbuilt
  have hbuildable := (buildEnvString_returns_iff order _ _).mp ⟨_, hbuilt⟩
  have hvalues : ∀ setting ∈ settings, '=' ∉ setting.1 ∧ '=' ∉ setting.2 := by
    refine fun setting hsetting ↦ ⟨hnames setting hsetting, fun hmark ↦ ?_⟩
    have hcount := hbuildable.1 _ (List.mem_map_of_mem hsetting)
    have hmore : 0 < setting.2.count '=' := List.count_pos_iff.mpr hmark
    rw [settingString, List.count_append, List.count_cons_self] at hcount
    omega
  rw [buildEnvString_eq hvalues hbuildable.2, Except.ok.injEq] at hbuilt
  have hread : ∀ pair ∈ pairsInOrder order settings environment.pairs.items,
      Shell.IsIdentifier pair.1 ∧ Char.ofNat 0 ∉ textOf pair.2 := by
    refine List.forall_mem_append.mpr ⟨List.forall_mem_map.mpr hplain, fun pair hpair ↦ ?_⟩
    have hmem := (order.arrange_perm _).subset hpair
    exact ⟨isIdentifier_of_mem_items hmem, hreadable.pairs pair hmem⟩
  rw [bootStore, bootLine, ← hbuilt, readExport_written hread rest, Option.map_some, pairsInOrder,
    List.map_append, map_assignmentOf_settingPair]

/-- The names that the dictionary assigns. -/
theorem mem_arranged_iff {name : Text} :
    name ∈ ((order.arrange environment.pairs.items).map assignmentOf).map Prod.fst ↔
      name ∈ environment.pairs.items.map Prod.fst := by
  rw [List.map_map]
  exact ((order.arrange_perm environment.pairs.items).map Prod.fst).mem_iff

/-- The variables of the dictionary have its values. -/
theorem bootStore_item (hreadable : environment.Readable) {store : Shell.Variables} {rest : Text}
    (hstore : bootStore initial (bootLine environment rest) = some store)
    {pair : Text × Option OptionValue} (hpair : pair ∈ environment.pairs.items) :
    store pair.1 = some (textOf pair.2) := by
  obtain ⟨settings, -, -, hboot⟩ := bootStore_bootLine hreadable initial rest
  obtain rfl := Option.some.inj (hboot.symm.trans hstore)
  have hperm := order.arrange_perm environment.pairs.items
  have hnodup : (environment.pairs.items.map Prod.fst).Nodup := by
    simp only [EnvPairs.items, List.map_cons, List.map_nil]
    decide +kernel
  obtain ⟨before, after, hsplit⟩ := List.append_of_mem (hperm.mem_iff.mpr hpair)
  have hkeys := (hperm.map Prod.fst).nodup_iff.mpr hnodup
  rw [hsplit, List.map_append, List.map_cons] at hkeys
  have hlast : pair.1 ∉ (after.map assignmentOf).map Prod.fst := by
    rw [List.map_map]
    exact (List.nodup_cons.mp (List.nodup_append.mp hkeys).2.1).1
  rw [hsplit, List.map_append, List.map_cons, ← List.append_assoc]
  exact initial.assign_of_last _ hlast

/-- A variable that neither the env strings nor the dictionary set is as before. -/
theorem bootStore_other (hreadable : environment.Readable) {store : Shell.Variables} {rest : Text}
    (hstore : bootStore initial (bootLine environment rest) = some store) {name : Text}
    (hitem : name ∉ environment.pairs.items.map Prod.fst)
    (hnone : ∀ env ∈ environment.envStrings, envName env ≠ name) : store name = initial name := by
  obtain ⟨settings, hsettings, hnames, hboot⟩ := bootStore_bootLine hreadable initial rest
  obtain rfl := Option.some.inj (hboot.symm.trans hstore)
  refine initial.assign_of_not_mem fun hmem ↦ ?_
  rw [List.map_append, List.mem_append, mem_arranged_iff] at hmem
  obtain ⟨setting, hsetting, rfl⟩ := List.mem_map.mp (hmem.resolve_right hitem)
  refine hnone (settingString setting) ?_ (envName_settingString (hnames setting hsetting))
  rw [hsettings]
  exact List.mem_map_of_mem hsetting

/-- The last of the env strings for a variable gives it its value, unless the dictionary sets it. -/
theorem bootStore_last (hreadable : environment.Readable) {store : Shell.Variables} {rest : Text}
    (hstore : bootStore initial (bootLine environment rest) = some store) {name value : Text}
    (hname : '=' ∉ name) (hitem : name ∉ environment.pairs.items.map Prod.fst)
    (hlast : LastSetting environment.envStrings name value) : store name = some value := by
  obtain ⟨settings, hsettings, hplain⟩ := hreadable.settings
  obtain ⟨assignments, hread, hassign⟩ := shellDefines_of_lastSetting hname hitem hlast settings
    hsettings hplain hreadable.pairs rest
  rw [bootStore, bootLine, hread, Option.map_some, Option.some_inj] at hstore
  rw [← hstore]
  exact hassign initial

end Variables

/-! ### Roles and services -/

/-- A role that passes the check and has no newline at its end. -/
def IsRoleWord (role : Text) : Prop := IsRoleName role ∧ '\n' ∉ role

/-- A role word is one word of the shell. -/
theorem IsRoleWord.field {role : Text} (hrole : IsRoleWord role) :
    role ≠ [] ∧ ',' ∉ role ∧ ∀ c ∈ role, ¬ Shell.IsBlank c := by
  obtain ⟨word, hword, hsame⟩ := isRoleName_iff.mp hrole.1
  obtain rfl : role = word := hsame.resolve_right fun hnewline ↦ hrole.2 (by simp [hnewline])
  obtain ⟨hsome, hchars⟩ := mem_language_roleRegex.mp hword
  refine ⟨hsome, fun hmem ↦ absurd (hchars _ hmem) (by decide), fun c hc hblank ↦ ?_⟩
  have hrefused : ∀ d, Shell.IsBlank d → isRoleChar d = false := by
    rintro d (rfl | rfl | rfl) <;> decide
  exact absurd ((hrefused c hblank).symm.trans (hchars c hc)) (by decide)

section Requests

variable {client : Client} {template : InstanceTemplate} {request : LaunchRequest client.order}
variable {initial store : Shell.Variables} {rest : Text}

/-- The dictionary of a request is made of its template. -/
theorem pairs_of_request (hrequest : client.request template = .ok request) :
    ∃ awsAccessKeyId awsSecretAccessKey, client.awsAccessKeyId = some awsAccessKeyId ∧
      client.awsSecretAccessKey = some awsSecretAccessKey ∧
      request.instanceUserData.environment.pairs =
        ⟨[','].intercalate template.roles, template.userPackages, template.autoShutdown,
          client.ebsMappings template.roles, awsAccessKeyId, awsSecretAccessKey⟩ := by
  have hset {name : Text} {value : Option Text} {found : Text}
      (hfound : environ name value = .ok found) : value = some found := by
    cases value with
    | none => cases hfound
    | some value => exact congrArg some (Except.ok.inj hfound)
  obtain ⟨awsAccessKeyId, hid, hrequest⟩ := ok_of_bind hrequest
  obtain ⟨awsSecretAccessKey, hsecret, hrequest⟩ := ok_of_bind hrequest
  obtain ⟨environment, hbuild, hrequest⟩ := ok_of_bind hrequest
  cases hrequest
  exact ⟨awsAccessKeyId, awsSecretAccessKey, hset hid, hset hsecret,
    (Environment.build_eq_ok hbuild).2⟩

/-- The script reads the roles that the template has. -/
theorem readRoles_bootStore (hrequest : client.request template = .ok request)
    (hroles : ∀ role ∈ template.roles, IsRoleWord role)
    (hreadable : request.instanceUserData.environment.Readable)
    (hstore : bootStore initial (bootLine request.instanceUserData.environment rest) = some store) :
    readRoles store = template.roles := by
  obtain ⟨_, _, -, -, hpairs⟩ := pairs_of_request hrequest
  have hvalue := bootStore_item hreadable hstore List.mem_cons_self
  have hexpand : expand store "ROLES".toList = [','].intercalate template.roles := by
    rw [expand, hvalue, hpairs]
    rfl
  rw [readRoles, hexpand]
  exact Shell.fields_translate_intercalate fun role hrole ↦ (hroles role hrole).field

/-- The instance type and the mappings decide over the disks, and not the hosts. -/
theorem expand_setHosts {selfHost name : Text} (hnamenode : name ≠ "NN_HOST".toList)
    (hjobtracker : name ≠ "JT_HOST".toList) (roles : List Text) (store : Shell.Variables) :
    roles.foldl (setHost selfHost) store name = store name := by
  induction roles generalizing store with
  | nil => rfl
  | cons role roles ih =>
    rw [List.foldl_cons, ih, setHost]
    split_ifs
    · exact Function.update_of_ne hnamenode _ _
    · exact Function.update_of_ne hjobtracker _ _
    · rfl

/-- The mappings that the script reads are those of the template's roles. -/
theorem ebsMappings_bootStore (hrequest : client.request template = .ok request)
    (hreadable : request.instanceUserData.environment.Readable)
    (hstore : bootStore initial (bootLine request.instanceUserData.environment rest) = some store)
    (selfHost : Text) (roles : List Text) :
    expand (roles.foldl (setHost selfHost) store) "EBS_MAPPINGS".toList =
      client.ebsMappings template.roles := by
  have hitem : ("EBS_MAPPINGS".toList,
      some (.text request.instanceUserData.environment.pairs.ebsMappings)) ∈
        request.instanceUserData.environment.pairs.items := by
    simp [EnvPairs.items]
  rw [expand, expand_setHosts (by decide) (by decide), bootStore_item hreadable hstore hitem,
    ← ebsMappings_of_request hrequest]
  rfl

end Requests

/-! ### Directories -/

/-- Directories are read back at their commas. -/
theorem splitOn_directories {place : Text} (hplace : ',' ∉ place) {mounts : List Text}
    (hmounts : ∀ mount ∈ mounts, ',' ∉ mount) (hsome : mounts ≠ []) :
    (directories place mounts).splitOn ',' = mounts.map (· ++ place) := by
  have hfold (dirs : Text) : mounts.foldl (fun dirs mount ↦ dirs ++ ',' :: (mount ++ place)) dirs =
      dirs ++ mounts.flatMap fun mount ↦ ',' :: (mount ++ place) := by
    clear hsome hmounts
    induction mounts generalizing dirs with
    | nil => simp
    | cons mount mounts ih => simp [ih]
  rw [directories, hfold, List.nil_append]
  clear hfold
  induction mounts with
  | nil => exact absurd rfl hsome
  | cons mount mounts ih =>
    obtain ⟨hmount, hrest⟩ := List.forall_mem_cons.mp hmounts
    have hfirst : ',' ∉ mount ++ place := by simp [hmount, hplace]
    rw [List.flatMap_cons, List.cons_append, List.drop_succ_cons, List.drop_zero]
    cases mounts with
    | nil => rw [List.flatMap_nil, List.append_nil, List.splitOn_eq_singleton hfirst]; rfl
    | cons next mounts =>
      have hnext := ih hrest (List.cons_ne_nil _ _)
      rw [List.flatMap_cons, List.cons_append, List.drop_succ_cons, List.drop_zero] at hnext
      rw [List.flatMap_cons, List.cons_append, List.splitOn_append_cons_self_of_not_mem hfirst,
        hnext]
      rfl

/-- A directory of HDFS or of the tasks on one of the disks. -/
def OnDisk (mounts : List Text) (directory : Text) : Prop :=
  ∃ mount ∈ mounts, ∃ place ∈ [namePlace, checkpointPlace, dataPlace, localPlace],
    directory = mount ++ place

instance (mounts : List Text) (directory : Text) : Decidable (OnDisk mounts directory) :=
  inferInstanceAs (Decidable (∃ _ ∈ _, ∃ _ ∈ _, _))

/-- The instance types that the script distinguishes. -/
theorem instanceType_cases {P : Text → Prop} (hxlarge : P "m1.xlarge".toList)
    (hcompute : P "c1.xlarge".toList) (hlarge : P "m1.large".toList)
    (hmedium : P "c1.medium".toList)
    (hother : ∀ instanceType, instanceType ≠ "m1.xlarge".toList →
      instanceType ≠ "c1.xlarge".toList → instanceType ≠ "m1.large".toList →
      instanceType ≠ "c1.medium".toList → P instanceType) (instanceType : Text) :
    P instanceType := by
  by_cases hfirst : instanceType = "m1.xlarge".toList
  · exact hfirst ▸ hxlarge
  by_cases hsecond : instanceType = "c1.xlarge".toList
  · exact hsecond ▸ hcompute
  by_cases hthird : instanceType = "m1.large".toList
  · exact hthird ▸ hlarge
  by_cases hfourth : instanceType = "c1.medium".toList
  · exact hfourth ▸ hmedium
  exact hother instanceType hfirst hsecond hthird hfourth

/-- The directories of the tasks are on the first disk and those that are prepared. -/
theorem mapredLocalDir_onDisk (instanceType : Text) :
    ∀ directory ∈ (taskSettings instanceType).mapredLocalDir.splitOn ',',
      OnDisk ("/mnt".toList :: (taskSettings instanceType).preparedDisks.map Prod.fst)
        directory := by
  induction instanceType using instanceType_cases with
  | hother instanceType hxlarge hcompute hlarge hmedium =>
    simp only [taskSettings, hxlarge, hcompute, hlarge, or_self, if_false]
    decide +kernel
  | _ => decide +kernel

/-- So are the directories of HDFS on an instance without volumes. -/
theorem diskDirectories_onDisk (instanceType : Text) :
    ∀ directories ∈ [(diskDirectories instanceType).1, (diskDirectories instanceType).2.1,
      (diskDirectories instanceType).2.2], ∀ directory ∈ directories.splitOn ',',
        OnDisk ("/mnt".toList :: (taskSettings instanceType).preparedDisks.map Prod.fst)
          directory := by
  induction instanceType using instanceType_cases with
  | hother instanceType hxlarge hcompute hlarge hmedium =>
    simp only [taskSettings, diskDirectories, hxlarge, hcompute, hlarge, or_self, if_false]
    decide +kernel
  | _ => decide +kernel

section Volumes

variable {client : Client} {template : InstanceTemplate} {roles : List Text}

/-- The mappings of roles are those of one of them, if there are any. -/
theorem ebsMappings_cases (client : Client) (roles : List Text) :
    client.ebsMappings roles = [] ∨
      ∃ role, client.ebsMappings roles = client.mappingsString role := by
  induction roles using List.reverseRecOn with
  | nil => exact .inl rfl
  | append_singleton roles last ih =>
    have hconcat : client.ebsMappings (roles ++ [last]) = if client.hasStorage last then
        client.mappingsString last else client.ebsMappings roles := by
      rw [Client.ebsMappings, List.foldl_append, ← Client.ebsMappings]
      rfl
    rw [hconcat]
    split_ifs
    · exact .inr ⟨last, rfl⟩
    · exact ih

/-- The places of all volumes are plain texts. -/
def PlainPlaces (file : StorageFile) : Prop :=
  ∀ role, ∀ place ∈ recordedPlaces role file, Plain place.1 ∧ Plain place.2

/-- Where there are mappings, the script finds at least one. -/
theorem readMappings_ne_nil (hplain : PlainPlaces client.storage)
    (hsome : client.ebsMappings roles ≠ []) : readMappings (client.ebsMappings roles) ≠ [] := by
  rcases ebsMappings_cases client roles with hnone | ⟨role, hrole⟩
  · exact absurd hnone hsome
  rw [hrole] at hsome ⊢
  let table : Table (Prod.fst : Text × Text → Text) :=
    (recordedPlaces role client.storage).foldl Table.insertOrReplace Table.empty
  have hstring : client.mappingsString role = [';'].intercalate
      ((client.order.arrange table.rows).map fun mapping ↦ mapping.1 ++ ',' :: mapping.2) := by
    simp only [Client.mappingsString, table, recordedPlaces, List.foldl_map]
    rfl
  have hmem {place : Text × Text} (hplace : place ∈ client.order.arrange table.rows) :
      place ∈ recordedPlaces role client.storage := by
    rw [(client.order.arrange_perm table.rows).mem_iff, Table.mem_foldl_insertOrReplace] at hplace
    rcases hplace with hlast | ⟨hempty, -⟩
    · exact hlast.mem
    · exact absurd hempty List.not_mem_nil
  rw [hstring] at hsome ⊢
  rw [readMappings_intercalate fun place hplace ↦ hplain role place (hmem hplace)]
  intro hnone
  rw [hnone] at hsome
  exact hsome rfl

/-- The mount points that the script reads have no comma. -/
theorem comma_not_mem_mount (hprovider : client.provider ≠ .dummy)
    (hplain : PlainPlaces client.storage) :
    ∀ mount ∈ (readMappings (client.ebsMappings roles)).map Prod.fst, ',' ∉ mount := by
  intro mount hmount
  obtain ⟨mapping, hmapping, rfl⟩ := List.mem_map.mp hmount
  obtain ⟨-, role, -, -, -, hlast⟩ := (mem_readMappings_iff hprovider hplain).mp hmapping
  exact (hplain role mapping hlast.mem).1.not_mem.1

/-- The directories on the volumes of an instance. -/
theorem splitOn_volumeDirectories (hprovider : client.provider ≠ .dummy)
    (hplain : PlainPlaces client.storage) (hsome : client.ebsMappings roles ≠ []) {place : Text}
    (hplace : ',' ∉ place) :
    (volumeDirectories (client.ebsMappings roles) place).splitOn ',' =
      (readMappings (client.ebsMappings roles)).map fun mapping ↦ mapping.1 ++ place := by
  have hmounts : (readMappings (client.ebsMappings roles)).map Prod.fst ≠ [] :=
    mt List.map_eq_nil_iff.mp (readMappings_ne_nil hplain hsome)
  rw [volumeDirectories, splitOn_directories hplace (comma_not_mem_mount hprovider hplain) hmounts,
    List.map_map]
  rfl

end Volumes

/-! ### The site file of a launched instance -/

/-- The instance boots with the request of the template. -/
structure BootsAs (client : Client) (template : InstanceTemplate)
    (request : LaunchRequest client.order) (metadata : InstanceMetadata)
    (booted : BootedInstance) : Prop where
  request_eq : client.request template = .ok request
  readable : request.instanceUserData.environment.Readable
  roles : ∀ role ∈ template.roles, IsRoleWord role
  boot_eq : ∃ initial rest, boot initial metadata
    (bootLine request.instanceUserData.environment rest) = some booted

section Booted

variable {client : Client} {template : InstanceTemplate} {request : LaunchRequest client.order}
variable {metadata : InstanceMetadata} {booted : BootedInstance}

/-- What an instance is after its boot script. -/
theorem BootsAs.eq (hboots : BootsAs client template request metadata booted) :
    ∃ store, booted.site = siteFile store (configureHadoop store metadata.instanceType) ∧
      booted.mounts = (configureHadoop store metadata.instanceType).mounts ∧
      booted.services = template.roles.flatMap (servicesOfRole store) ∧
      expand store "EBS_MAPPINGS".toList = client.ebsMappings template.roles := by
  obtain ⟨initial, rest, hboot⟩ := hboots.boot_eq
  obtain ⟨store, hstore, rfl⟩ := Option.map_eq_some_iff.mp hboot
  have hroles := readRoles_bootStore hboots.request_eq hboots.roles hboots.readable hstore
  refine ⟨_, rfl, rfl, ?_, ebsMappings_bootStore hboots.request_eq hboots.readable hstore _ _⟩
  simp only [hroles]

/-- The properties of the site file that are directories. -/
def directoryProperties : List Text :=
  ["dfs.name.dir".toList, "fs.checkpoint.dir".toList, "dfs.data.dir".toList,
    "mapred.local.dir".toList]

/-- What these properties are. -/
theorem lookup_directoryProperties (store : Shell.Variables) (config : HadoopConfig)
    {P : Text → Prop} (hnames : P config.dfsNameDir) (hcheckpoints : P config.fsCheckpointDir)
    (hdata : P config.dfsDataDir) (hlocal : P config.mapredLocalDir) :
    ∀ property ∈ directoryProperties, ∃ value, (siteFile store config).lookup property =
      some value ∧ P value := by
  simp only [directoryProperties, List.forall_mem_cons]
  exact ⟨⟨_, rfl, hnames⟩, ⟨_, rfl, hcheckpoints⟩, ⟨_, rfl, hdata⟩, ⟨_, rfl, hlocal⟩, by simp⟩

theorem OnDisk.mono {mounts others : List Text} (hmounts : ∀ mount ∈ mounts, mount ∈ others)
    {directory : Text} (hdisk : OnDisk mounts directory) : OnDisk others directory := by
  obtain ⟨mount, hmount, hplace⟩ := hdisk
  exact ⟨mount, hmounts mount hmount, hplace⟩

/-- The directories of HDFS, by the mappings. -/
theorem configureHadoop_directories (store : Shell.Variables) (instanceType : Text) :
    let mappings := expand store "EBS_MAPPINGS".toList
    let config := configureHadoop store instanceType
    (mappings = [] → config.dfsNameDir = (diskDirectories instanceType).1 ∧
      config.fsCheckpointDir = (diskDirectories instanceType).2.1 ∧
      config.dfsDataDir = (diskDirectories instanceType).2.2) ∧
    (mappings ≠ [] → config.dfsNameDir = volumeDirectories mappings namePlace ∧
      config.fsCheckpointDir = volumeDirectories mappings checkpointPlace ∧
      config.dfsDataDir = volumeDirectories mappings dataPlace) := by
  refine ⟨fun hnone ↦ ?_, fun hsome ↦ ?_⟩
  · simp only [configureHadoop, if_pos hnone, and_self]
  · simp only [configureHadoop, if_neg hsome, and_self]

/-- The directories on volumes are on disks. -/
theorem volumeDirectories_onDisk (hprovider : client.provider ≠ .dummy)
    (hplain : PlainPlaces client.storage) {roles : List Text}
    (hsome : client.ebsMappings roles ≠ []) {place : Text}
    (hplace : place ∈ [namePlace, checkpointPlace, dataPlace, localPlace])
    {mounts : List Text}
    (hmounts : ∀ mapping ∈ readMappings (client.ebsMappings roles), mapping.1 ∈ mounts) :
    ∀ directory ∈ (volumeDirectories (client.ebsMappings roles) place).splitOn ',',
      OnDisk mounts directory := by
  have hcomma : ∀ place ∈ [namePlace, checkpointPlace, dataPlace, localPlace], ',' ∉ place := by
    decide
  intro directory hdirectory
  rw [splitOn_volumeDirectories hprovider hplain hsome (hcomma place hplace)] at hdirectory
  obtain ⟨mapping, hmapping, rfl⟩ := List.mem_map.mp hdirectory
  exact ⟨mapping.1, hmounts mapping hmapping, place, hplace, rfl⟩

end Booted

/-! ### An instance with volumes -/

/-- A request whose values are plain can be booted. -/
theorem exists_booted {client : Client} {template : InstanceTemplate}
    {request : LaunchRequest client.order} (hrequest : client.request template = .ok request)
    (hreadable : request.instanceUserData.environment.Readable)
    (hroles : ∀ role ∈ template.roles, IsRoleWord role) (metadata : InstanceMetadata) :
    ∃ booted, BootsAs client template request metadata booted := by
  obtain ⟨settings, -, -, hstore⟩ := bootStore_bootLine hreadable (fun _ ↦ none) []
  cases hboot : boot (fun _ ↦ none) metadata
      (bootLine request.instanceUserData.environment []) with
  | some booted => exact ⟨booted, hrequest, hreadable, hroles, _, _, hboot⟩
  | none =>
    rw [boot, hstore, Option.map_some] at hboot
    cases hboot

theorem readable_mastersTemplate {request : LaunchRequest mastersClient.order}
    (hrequest : mastersClient.request mastersTemplate = .ok request) :
    request.instanceUserData.environment.Readable := by
  obtain ⟨awsAccessKeyId, awsSecretAccessKey, hid, hsecret, hpairs⟩ := pairs_of_request hrequest
  cases hid
  cases hsecret
  refine ⟨⟨[], (requested_of_request hrequest).envStrings, by simp⟩, ?_⟩
  rw [hpairs]
  decide +kernel

end Ec2Wrappers.HadoopCloud
