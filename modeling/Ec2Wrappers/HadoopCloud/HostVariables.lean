import Ec2Wrappers.Foundations.Tables
import Ec2Wrappers.HadoopCloud.EnvironmentString
import Ec2Wrappers.HadoopCloud.LaunchOptions

/-!
# The host variables of later instances

What `HadoopService._launch_cluster_instances` and `HadoopService.launch_slaves` tell the instances
they launch about those launched before. An environment defines a variable when the last of its env
strings for it says so; the shell then gives it that value (`shellDefines_of_lastSetting`).

The launches of a cluster announce a single instance to all templates after its own
(`madeInOrder_launchClusterInstances`), so these learn its address. `launch_slaves` gives
`add_env_strings` one text in place of a tuple, which adds its characters; and a template whose env
strings are one text has it taken apart in the same way. So the addresses arrive exactly where
neither matters (`learnsMasters_iff`).
-/

set_option autoImplicit false
set_option relaxedAutoImplicit false

namespace Ec2Wrappers.HadoopCloud

open Foundations

/-! ### Defining a variable -/

/-- The name that an env string is for. -/
def envName (env : Text) : Text := env.takeWhile fun c ↦ c ≠ '='

/-- The last of the env strings for the name is this setting. -/
def LastSetting (envStrings : List Text) (name value : Text) : Prop :=
  LastWithKey envName (envStrings.filter fun env ↦ '=' ∈ env) (settingString (name, value))

/-- The shell gives the variable this value, when the env strings are settings of variables. -/
def ShellDefines {order : DictOrder} (environment : Environment order) (name value : Text) : Prop :=
  ∀ settings : List (Text × Text), environment.envStrings = settings.map settingString →
    (∀ setting ∈ settings, Shell.IsIdentifier setting.1 ∧ Char.ofNat 0 ∉ setting.2) →
    (∀ pair ∈ environment.pairs.items, Char.ofNat 0 ∉ textOf pair.2) → ∀ rest, ∃ assignments,
      Shell.readExport (exportCommand ++ environment.text ++ '\n' :: rest) =
        some (assignments, rest) ∧
      ∀ store : Shell.Variables, store.assign assignments name = some value

/-- The environment defines the variable as this value. -/
structure Defines {order : DictOrder} (environment : Environment order) (name value : Text) :
    Prop where
  last : LastSetting environment.envStrings name value
  shell : ShellDefines environment name value

/-- The variable of a role. -/
def hostVariable (role : Text) : Text := sanitizeRoleName role ++ "_HOST".toList

/-- The env strings that the user supplied with a template. -/
def suppliedStrings : Option OptionValue → List Text
  | none => []
  | some (.text value) => [value]
  | some (.texts values) => values

/-- The supplied strings come unchanged before the others. -/
def KeepsSupplied {order : DictOrder} (template : InstanceTemplate)
    (environment : Environment order) : Prop :=
  suppliedStrings template.envStrings <+: environment.envStrings

/-! ### What is to be learned -/

/-- The launch brings up one instance, which a template for one instance asks for. -/
def SingleInstance (template : InstanceTemplate) (reply : Reply) (publicIp : Text) : Prop :=
  template.number = 1 ∧ reply = .running [publicIp]

/-- Each request of a cluster defines the addresses of the single instances launched before it, and
keeps the supplied strings. -/
structure ClusterLearns {client : Client} (cloud : Cloud client.order)
    (templates : List InstanceTemplate) (requests : List (LaunchRequest client.order)) : Prop where
  defines : ∀ i j, i < j → ∀ template, templates[i]? = some template → ∀ publicIp,
    SingleInstance template (cloud.reply (requests.take (i + 1))) publicIp →
      ∀ request, requests[j]? = some request → ∀ role ∈ template.roles,
        Defines request.instanceUserData.environment (hostVariable role) publicIp
  keeps : ∀ (j : ℕ) template request, templates[j]? = some template → requests[j]? = some request →
    KeepsSupplied template request.instanceUserData.environment

/-- Each request for slaves defines the address of the namenode for all masters, and keeps the
supplied strings. -/
structure SlavesLearn {client : Client} (master : Text) (template : InstanceTemplate)
    (requests : List (LaunchRequest client.order)) : Prop where
  defines : ∀ request ∈ requests, ∀ role ∈ masterRoles,
    Defines request.instanceUserData.environment (hostVariable role) master
  keeps : ∀ request ∈ requests, KeepsSupplied template request.instanceUserData.environment

/-- Whatever EC2 answers, the templates of `launch_cluster` and the one of `launch_slaves`, on a
cluster with one namenode at the given address, learn the addresses. -/
structure LearnsMasters (client : Client) (templates : List InstanceTemplate)
    (slaves : InstanceTemplate) (master : Text) : Prop where
  cluster : ∀ cloud : Cloud client.order,
    ClusterLearns cloud templates (launchClusterInstances client cloud [] templates []).2
  slaves : ∀ cloud : Cloud client.order, cloud.namenodes = [master] →
    SlavesLearn master slaves (launchSlaves client cloud slaves []).2

/-! ### Settings in the shell -/

section Shell

variable {order : DictOrder} {environment : Environment order} {name value : Text}

/-- The name of a setting. -/
theorem envName_settingString {setting : Text × Text} (hname : '=' ∉ setting.1) :
    envName (settingString setting) = setting.1 :=
  takeWhile_at_failure (fun c hc ↦ by simpa using ne_of_mem_of_not_mem hc hname) (by simp)

theorem envName_pair (hname : '=' ∉ name) : envName (settingString (name, value)) = name :=
  @envName_settingString (name, value) hname

/-- Settings are different when their names or values are. -/
theorem settingString_inj {first second : Text × Text} (hfirst : '=' ∉ first.1)
    (hsecond : '=' ∉ second.1) (hsame : settingString first = settingString second) :
    first = second := by
  have hname : first.1 = second.1 := by
    rw [← envName_settingString hfirst, hsame, envName_settingString hsecond]
  have hvalue : first.2 = second.2 := by
    unfold settingString at hsame
    rw [hname] at hsame
    exact (List.cons.inj (List.append_cancel_left hsame)).2
  exact Prod.ext hname hvalue

/-- The last setting of a variable among settings. -/
theorem exists_last_of_lastSetting {settings : List (Text × Text)}
    (hnames : ∀ setting ∈ settings, '=' ∉ setting.1) (hname : '=' ∉ name)
    (hlast : LastSetting (settings.map settingString) name value) :
    ∃ before after, settings = before ++ (name, value) :: after ∧ name ∉ after.map Prod.fst := by
  have hall : (settings.map settingString).filter (fun env ↦ '=' ∈ env) =
      settings.map settingString :=
    List.filter_eq_self.mpr (List.forall_mem_map.mpr fun setting _ ↦ by simp [settingString])
  rw [LastSetting, hall] at hlast
  obtain ⟨written, others, hsplit, hnot⟩ := hlast
  obtain ⟨before, tail, rfl, -, htail⟩ := List.map_eq_append_iff.mp hsplit
  obtain ⟨setting, after, rfl, hsetting, rfl⟩ := List.map_eq_cons_iff.mp htail
  obtain rfl : setting = (name, value) :=
    settingString_inj (hnames setting (by simp)) hname hsetting
  refine ⟨before, after, rfl, fun hmem ↦ hnot ?_⟩
  obtain ⟨later, hlater, rfl⟩ := List.mem_map.mp hmem
  rw [envName_pair hname, List.map_map]
  exact List.mem_map.mpr ⟨later, hlater, envName_settingString (hnames later (by simp [hlater]))⟩

/-- The last setting of a variable gives it its value, unless it is one of the dictionary's. -/
theorem shellDefines_of_lastSetting (hname : '=' ∉ name)
    (hother : name ∉ environment.pairs.items.map Prod.fst)
    (hlast : LastSetting environment.envStrings name value) :
    ShellDefines environment name value := by
  intro settings hsettings hplain hnul rest
  have hnames : ∀ setting ∈ settings, '=' ∉ setting.1 :=
    fun setting hsetting ↦ (hplain setting hsetting).1.not_mem_equals
  have hbuilt := environment.text_eq
  rw [hsettings] at hbuilt hlast
  have hbuildable := (buildEnvString_returns_iff order _ _).mp ⟨_, hbuilt⟩
  have hvalues : ∀ setting ∈ settings, '=' ∉ setting.1 ∧ '=' ∉ setting.2 := by
    refine fun setting hsetting ↦ ⟨hnames setting hsetting, fun hmark ↦ ?_⟩
    have hcount := hbuildable.1 _ (List.mem_map_of_mem hsetting)
    have hmore : 0 < setting.2.count '=' := List.count_pos_iff.mpr hmark
    rw [settingString, List.count_append, List.count_cons_self] at hcount
    omega
  rw [buildEnvString_eq hvalues hbuildable.2, Except.ok.injEq] at hbuilt
  have hidentifiers : ∀ pair ∈ environment.pairs.items, Shell.IsIdentifier pair.1 := by
    simp only [EnvPairs.items, List.forall_mem_cons]
    decide +kernel
  have hread : ∀ pair ∈ pairsInOrder order settings environment.pairs.items,
      Shell.IsIdentifier pair.1 ∧ Char.ofNat 0 ∉ textOf pair.2 := by
    refine List.forall_mem_append.mpr ⟨List.forall_mem_map.mpr hplain, fun pair hpair ↦ ?_⟩
    have hmem := (order.arrange_perm _).subset hpair
    exact ⟨hidentifiers pair hmem, hnul pair hmem⟩
  refine ⟨_, hbuilt ▸ readExport_written hread rest, fun store ↦ ?_⟩
  obtain ⟨before, after, rfl, hnot⟩ := exists_last_of_lastSetting hnames hname hlast
  rw [pairsInOrder, List.map_append, map_assignmentOf_settingPair, List.append_assoc,
    List.cons_append]
  refine store.assign_of_last before ?_
  rw [List.map_append, List.map_map, List.mem_append, not_or]
  refine ⟨hnot, fun hmem ↦ hother ?_⟩
  obtain ⟨pair, hpair, hsame⟩ := List.mem_map.mp hmem
  exact List.mem_map.mpr ⟨pair, (order.arrange_perm _).subset hpair, hsame⟩

/-- The variables of roles are none of the dictionary's. -/
theorem hostVariable_not_mem_items (role : Text) (pairs : EnvPairs) :
    hostVariable role ∉ pairs.items.map Prod.fst := by
  have hlast : (hostVariable role).getLast? = some 'T' := by
    rw [hostVariable, List.getLast?_append]
    rfl
  intro hmem
  have hother : ∀ other ∈ pairs.items.map Prod.fst, other.getLast? ≠ some 'T' := by
    simp only [EnvPairs.items, List.map_cons, List.map_nil]
    decide
  exact hother _ hmem hlast

end Shell

/-! ### The launches of a cluster -/

/-- What `_launch_instances` returns or raises. -/
def Reply.instances : Reply → Except PyError (Option (List Text))
  | .raised error => .error error
  | .timedOut => .ok none
  | .running publicIps => .ok (some publicIps)

/-- The env string that a launch adds for those after it. -/
def Announces (reply : Reply) (template : InstanceTemplate) (host : Text) : Prop :=
  ∃ publicIp, SingleInstance template reply publicIp ∧
    ∃ role ∈ template.roles, host = settingString (hostVariable role, publicIp)

section Launches

variable {client : Client} {cloud : Cloud client.order}

/-- What is added for a single instance is the setting of its role's variable. -/
theorem singletonHostEnv_eq (role publicIp : Text) :
    singletonHostEnv role publicIp = settingString (hostVariable role, publicIp) := by
  have hmark : "_HOST=".toList = "_HOST".toList ++ ['='] := rfl
  rw [singletonHostEnv, settingString, hostVariable, hmark]
  simp only [List.append_assoc, List.singleton_append]

/-- The env strings that a launch adds. -/
theorem mem_singletonHosts_iff {reply : Reply} {template : InstanceTemplate}
    {instances : Option (List Text)} {added : List Text} (hreply : reply.instances = .ok instances)
    (hadded : singletonHosts template instances = .ok added) {host : Text} :
    host ∈ added ↔ Announces reply template host := by
  have hnothing (hnot : ∀ publicIp, ¬ SingleInstance template reply publicIp) :
      ¬ Announces reply template host := fun ⟨publicIp, hsingle, _⟩ ↦ hnot publicIp hsingle
  cases reply with
  | raised error => cases hreply
  | timedOut =>
    cases hreply
    unfold singletonHosts at hadded
    split_ifs at hadded
    cases hadded
    exact iff_of_false List.not_mem_nil (hnothing fun _ hsingle ↦ by cases hsingle.2)
  | running publicIps =>
    cases hreply
    unfold singletonHosts at hadded
    split at hadded
    · next hnone => cases hnone
    · next publicIp hone =>
      cases hone
      split_ifs at hadded with hnumber
      · cases hadded
        constructor
        · intro hhost
          obtain ⟨role, hrole, rfl⟩ := List.mem_map.mp hhost
          exact ⟨publicIp, ⟨hnumber, rfl⟩, role, hrole, singletonHostEnv_eq role publicIp⟩
        · rintro ⟨other, ⟨-, hsame⟩, role, hrole, rfl⟩
          cases hsame
          exact List.mem_map.mpr ⟨role, hrole, singletonHostEnv_eq role publicIp⟩
      · cases hadded
        exact iff_of_false List.not_mem_nil (hnothing fun _ hsingle ↦ hnumber hsingle.1)
    · next hmany hsome =>
      cases hadded
      refine iff_of_false List.not_mem_nil (hnothing fun publicIp hsingle ↦ ?_)
      cases hsingle.2
      exact hmany publicIp (Option.some.inj hsome).symm

/-- A launch whose request can be made sends it, and returns what comes of it. -/
theorem launchInstances_eq {template : InstanceTemplate} {request : LaunchRequest client.order}
    (hrequest : client.request template = .ok request)
    (before : List (LaunchRequest client.order)) :
    launchInstances client cloud template before =
      ((cloud.reply (before ++ [request])).instances, before ++ [request]) := by
  rw [launchInstances, Py.bind_eq, hrequest, Py.run_bind_ok (Py.run_ofExcept _ _), Py.bind_eq,
    Py.run_bind_ok (Py.run_modify _ _), Py.bind_eq, Py.run_bind_ok (Py.run_get _)]
  cases cloud.reply (before ++ [request]) <;> rfl

/-- What the launches before the given one have announced. -/
def AnnouncedBefore (cloud : Cloud client.order) (before sent : List (LaunchRequest client.order))
    (templates : List InstanceTemplate) (index : ℕ) (host : Text) : Prop :=
  ∃ i < index, ∃ earlier, templates[i]? = some earlier ∧
    Announces (cloud.reply (before ++ sent.take (i + 1))) earlier host

/-- Nothing has been announced before the first launch. -/
theorem not_announcedBefore_zero {before sent : List (LaunchRequest client.order)}
    {templates : List InstanceTemplate} {host : Text} :
    ¬ AnnouncedBefore cloud before sent templates 0 host :=
  fun ⟨_, hindex, _⟩ ↦ absurd hindex (Nat.not_lt_zero _)

/-- With one launch more in front. -/
theorem announcedBefore_succ {before sent : List (LaunchRequest client.order)}
    {request : LaunchRequest client.order} {template : InstanceTemplate}
    {rest : List InstanceTemplate} {index : ℕ} {host : Text} :
    AnnouncedBefore cloud before (request :: sent) (template :: rest) (index + 1) host ↔
      Announces (cloud.reply (before ++ [request])) template host ∨
        AnnouncedBefore cloud (before ++ [request]) sent rest index host := by
  constructor
  · rintro ⟨i, hindex, earlier, hearlier, hannounces⟩
    cases i with
    | zero =>
      cases hearlier
      exact .inl hannounces
    | succ i =>
      rw [List.take_succ_cons, List.append_cons] at hannounces
      exact .inr ⟨i, Nat.lt_of_succ_lt_succ hindex, earlier, hearlier, hannounces⟩
  · rintro (hannounces | ⟨i, hindex, earlier, hearlier, hannounces⟩)
    · exact ⟨0, Nat.succ_pos _, template, rfl, hannounces⟩
    · rw [← List.append_cons] at hannounces
      exact ⟨i + 1, Nat.succ_lt_succ hindex, earlier, hearlier, hannounces⟩

/-- The requests are made of the templates one after the other, each with the hosts that the
launches before it have announced. -/
def MadeInOrder (cloud : Cloud client.order) (hosts : List Text)
    (templates : List InstanceTemplate) (before sent : List (LaunchRequest client.order)) : Prop :=
  ∀ (j : ℕ) request, sent[j]? = some request → ∃ template, templates[j]? = some template ∧
    ∃ known, client.request (template.addEnvStrings known) = .ok request ∧
      ∀ host, host ∈ known ↔ host ∈ hosts ∨ AnnouncedBefore cloud before sent templates j host

/-- The first request of some. -/
theorem madeInOrder_cons {hosts added : List Text} {template : InstanceTemplate}
    {rest : List InstanceTemplate} {before sent : List (LaunchRequest client.order)}
    {request : LaunchRequest client.order}
    (hrequest : client.request (template.addEnvStrings hosts) = .ok request)
    (hadded : sent ≠ [] → ∀ host, host ∈ added ↔
      Announces (cloud.reply (before ++ [request])) template host)
    (hsent : MadeInOrder cloud (hosts ++ added) rest (before ++ [request]) sent) :
    MadeInOrder cloud hosts (template :: rest) before (request :: sent) := by
  intro j other hother
  cases j with
  | zero =>
    cases hother
    refine ⟨template, rfl, hosts, hrequest, fun host ↦ ?_⟩
    rw [or_iff_left not_announcedBefore_zero]
  | succ j =>
    obtain ⟨later, hlater, known, hmade, hknown⟩ := hsent j other hother
    refine ⟨later, hlater, known, hmade, fun host ↦ ?_⟩
    have hsome : sent ≠ [] := List.ne_nil_of_mem (List.mem_of_getElem? hother)
    rw [hknown, List.mem_append, hadded hsome, announcedBefore_succ, or_assoc]

theorem madeInOrder_nil (hosts : List Text) (templates : List InstanceTemplate)
    (before : List (LaunchRequest client.order)) :
    MadeInOrder cloud hosts templates before [] :=
  fun j _ hrequest ↦ absurd hrequest (by simp)

/-- The launches of a cluster send requests that are made in order. -/
theorem madeInOrder_launchClusterInstances (hosts : List Text) (templates : List InstanceTemplate)
    (before : List (LaunchRequest client.order)) :
    ∃ sent, (launchClusterInstances client cloud hosts templates before).2 = before ++ sent ∧
      MadeInOrder cloud hosts templates before sent := by
  induction templates generalizing hosts before with
  | nil => exact ⟨[], (List.append_nil before).symm, madeInOrder_nil _ _ _⟩
  | cons template rest ih =>
    rw [launchClusterInstances, Py.bind_eq]
    cases hrequest : client.request (template.addEnvStrings hosts) with
    | error error =>
      have hraised : launchInstances client cloud (template.addEnvStrings hosts) before =
          (.error error, before) := by
        rw [launchInstances, Py.bind_eq, hrequest, Py.run_bind_error (Py.run_ofExcept _ _)]
      rw [Py.run_bind_error hraised]
      exact ⟨[], (List.append_nil before).symm, madeInOrder_nil _ _ _⟩
    | ok request =>
      have hlaunch := @launchInstances_eq client cloud _ _ hrequest before
      have honly : MadeInOrder cloud hosts (template :: rest) before [request] :=
        @madeInOrder_cons client cloud hosts [] template rest before [] request hrequest
          (fun hnone ↦ absurd rfl hnone) (madeInOrder_nil _ _ _)
      cases hreply : (cloud.reply (before ++ [request])).instances with
      | error error =>
        rw [Py.run_bind_error (hlaunch.trans (by rw [hreply]))]
        exact ⟨[request], rfl, honly⟩
      | ok instances =>
        rw [Py.run_bind_ok (hlaunch.trans (by rw [hreply])), Py.bind_eq]
        cases hadded : singletonHosts template instances with
        | error error =>
          rw [Py.run_bind_error (Py.run_ofExcept _ _)]
          exact ⟨[request], rfl, honly⟩
        | ok added =>
          rw [Py.run_bind_ok (Py.run_ofExcept _ _)]
          obtain ⟨sent, hsent, hmade⟩ := ih (hosts ++ added) (before ++ [request])
          refine ⟨request :: sent, by rw [hsent, List.append_assoc, List.singleton_append], ?_⟩
          exact madeInOrder_cons hrequest (fun _ _ ↦ mem_singletonHosts_iff hreply hadded) hmade

end Launches

/-! ### When the addresses arrive -/

/-- The env strings of the template are several texts, none, or a text of one character. -/
def InstanceTemplate.EnvListed (template : InstanceTemplate) : Prop :=
  ∀ value, template.envStrings = some (.text value) → value.length = 1

/-- The request of the template can be made, as long as no added env string prevents it. -/
structure Buildable (client : Client) (template : InstanceTemplate) : Prop where
  credentials : ¬ client.NoCredentials
  envStrings : ∀ env ∈ iterate template.envStrings, env.count '=' ≤ 1
  userPackages : ¬ IsTexts template.userPackages
  autoShutdown : ¬ IsTexts template.autoShutdown

/-- The env strings are listed in each template that a launch can come to. -/
def ClusterListed (client : Client) (templates : List InstanceTemplate) : Prop :=
  ∀ before template after, templates = before ++ template :: after →
    (∀ reached ∈ before ++ [template], Buildable client reached) → template.EnvListed

/-- If a request for slaves can be made, the user's own strings are listed and define the address of
the namenode for all masters. -/
def SlavesDefine (client : Client) (template : InstanceTemplate) (master : Text) : Prop :=
  Buildable client template → template.EnvListed ∧ ∀ role ∈ masterRoles,
    LastSetting (suppliedStrings template.envStrings) (hostVariable role) master

/-- The two templates have no variable in common. -/
def RolesApart (first second : InstanceTemplate) : Prop :=
  ∀ role ∈ first.roles, ∀ other ∈ second.roles, sanitizeRoleName role ≠ sanitizeRoleName other

instance (first second : InstanceTemplate) : Decidable (RolesApart first second) :=
  inferInstanceAs (Decidable (∀ _ ∈ _, ∀ _ ∈ _, _))

section Conditions

variable {client : Client} {cloud : Cloud client.order} {template : InstanceTemplate}
variable {templates : List InstanceTemplate} {added : List Text}
variable {request : LaunchRequest client.order}

/-- A request can be made of a template with env strings added to it. -/
theorem request_addEnvStrings_iff :
    (∃ request, client.request (template.addEnvStrings added) = .ok request) ↔
      Buildable client template ∧ ∀ env ∈ added, env.count '=' ≤ 1 := by
  rw [request_returns_iff]
  change _ ∧ _ ∧ (∀ env ∈ iterate template.envStrings ++ added, _) ∧
    ¬ IsTexts template.userPackages ∧ ¬ IsTexts template.autoShutdown ↔ _
  rw [List.forall_mem_append]
  constructor
  · rintro ⟨hid, hsecret, ⟨hstrings, hadded⟩, hpackages, hshutdown⟩
    exact ⟨⟨not_or.mpr ⟨hid, hsecret⟩, hstrings, hpackages, hshutdown⟩, hadded⟩
  · rintro ⟨⟨hcredentials, hstrings, hpackages, hshutdown⟩, hadded⟩
    obtain ⟨hid, hsecret⟩ := not_or.mp hcredentials
    exact ⟨hid, hsecret, ⟨hstrings, hadded⟩, hpackages, hshutdown⟩

theorem Buildable.exists_request (hbuildable : Buildable client template) :
    ∃ request, client.request (template.addEnvStrings []) = .ok request :=
  request_addEnvStrings_iff.mpr ⟨hbuildable, by simp⟩

/-- The env strings of the request. -/
theorem envStrings_of_request
    (hrequest : client.request (template.addEnvStrings added) = .ok request) :
    request.instanceUserData.environment.envStrings = iterate template.envStrings ++ added :=
  (requested_of_request hrequest).envStrings

/-- The supplied strings are kept when they are listed. -/
theorem keepsSupplied_iff (hadded : [] ∉ added)
    (hrequest : client.request (template.addEnvStrings added) = .ok request) :
    KeepsSupplied template request.instanceUserData.environment ↔ template.EnvListed := by
  rw [KeepsSupplied, envStrings_of_request hrequest, InstanceTemplate.EnvListed]
  rcases template.envStrings with _ | (value | values)
  · simp [suppliedStrings]
  · constructor
    · rintro ⟨rest, hrest⟩ _ ⟨⟩
      rcases value with _ | ⟨c, _ | ⟨d, others⟩⟩
      · have hsplit : [] :: rest = added := hrest
        exact absurd (hsplit ▸ List.mem_cons_self) hadded
      · rfl
      · simp [suppliedStrings, iterate, characters] at hrest
    · intro hone
      obtain ⟨c, rfl⟩ := List.length_eq_one_iff.mp (hone value rfl)
      exact List.prefix_append _ _
  · simp [suppliedStrings, iterate]

/-- Listed strings are gone through as they are. -/
theorem iterate_of_envListed (hlisted : template.EnvListed) :
    iterate template.envStrings = suppliedStrings template.envStrings := by
  unfold InstanceTemplate.EnvListed at hlisted
  match henv : template.envStrings with
  | none => rfl
  | some (.texts values) => rfl
  | some (.text value) =>
    obtain ⟨c, rfl⟩ := List.length_eq_one_iff.mp (hlisted value henv)
    rfl

/-- There is no equals sign in the variable of a role whose setting can be quoted. -/
theorem not_mem_hostVariable {role publicIp : Text}
    (hcount : (settingString (hostVariable role, publicIp)).count '=' ≤ 1) :
    '=' ∉ hostVariable role := by
  intro hmark
  have hmore : 0 < (hostVariable role).count '=' := List.count_pos_iff.mpr hmark
  change (hostVariable role ++ '=' :: publicIp).count '=' ≤ 1 at hcount
  rw [List.count_append, List.count_cons_self] at hcount
  omega

/-- Roles with the same variable are the same after sanitising. -/
theorem sanitizeRoleName_eq_of_hostVariable_eq {role other : Text}
    (hsame : hostVariable role = hostVariable other) :
    sanitizeRoleName role = sanitizeRoleName other :=
  List.append_cancel_right hsame

/-- Among the announced hosts the setting of a single instance's role is the only one of its
variable. -/
theorem announced_unique (hapart : templates.Pairwise RolesApart)
    {sent : List (LaunchRequest client.order)} {i j : ℕ} {earlier : InstanceTemplate}
    (hearlier : templates[i]? = some earlier) {publicIp : Text}
    (hsingle : SingleInstance earlier (cloud.reply (sent.take (i + 1))) publicIp) {role host : Text}
    (hrole : role ∈ earlier.roles) (hhost : AnnouncedBefore cloud [] sent templates j host)
    (hcount : host.count '=' ≤ 1) (hname : envName host = hostVariable role) :
    host = settingString (hostVariable role, publicIp) := by
  obtain ⟨other, -, template, htemplate, address, hother, announced, hannounced, rfl⟩ := hhost
  rw [envName_pair (not_mem_hostVariable hcount)] at hname
  have hsanitized := sanitizeRoleName_eq_of_hostVariable_eq hname
  obtain ⟨hi, rfl⟩ := List.getElem?_eq_some_iff.mp hearlier
  obtain ⟨hk, rfl⟩ := List.getElem?_eq_some_iff.mp htemplate
  rcases lt_trichotomy i other with hlt | rfl | hgt
  · exact absurd hsanitized.symm
      (List.pairwise_iff_getElem.mp hapart i other hi hk hlt role hrole announced hannounced)
  · have hsame : address = publicIp := by
      have hreply := hother.2.symm.trans hsingle.2
      simpa using hreply
    rw [hname, hsame]
  · exact absurd hsanitized
      (List.pairwise_iff_getElem.mp hapart other i hk hi hgt announced hannounced role hrole)

/-- The requests of a cluster define the addresses that are known. -/
theorem defines_of_madeInOrder (hapart : templates.Pairwise RolesApart)
    {sent : List (LaunchRequest client.order)} (hmade : MadeInOrder cloud [] templates [] sent)
    {i j : ℕ} (hlater : i < j) {earlier : InstanceTemplate}
    (hearlier : templates[i]? = some earlier) {publicIp : Text}
    (hsingle : SingleInstance earlier (cloud.reply (sent.take (i + 1))) publicIp)
    (hsent : sent[j]? = some request) {role : Text} (hrole : role ∈ earlier.roles) :
    Defines request.instanceUserData.environment (hostVariable role) publicIp := by
  obtain ⟨template, -, known, hrequest, hknown⟩ := hmade j request hsent
  have hcounts := (request_addEnvStrings_iff.mp ⟨request, hrequest⟩).2
  have hmem : settingString (hostVariable role, publicIp) ∈ known :=
    (hknown _).mpr (.inr ⟨i, hlater, earlier, hearlier, publicIp, hsingle, role, hrole, rfl⟩)
  have hname := not_mem_hostVariable (hcounts _ hmem)
  have hkey : envName (settingString (hostVariable role, publicIp)) = hostVariable role :=
    envName_pair hname
  have hlast : LastSetting request.instanceUserData.environment.envStrings (hostVariable role)
      publicIp := by
    rw [envStrings_of_request hrequest, LastSetting, List.filter_append]
    refine (lastWithKey_of_unique ?_ fun host hhost hsame ↦ ?_).append_left _
    · exact List.mem_filter.mpr ⟨hmem, by simp [settingString]⟩
    · have hhost := (List.mem_filter.mp hhost).1
      have hannounced := ((hknown host).mp hhost).resolve_left List.not_mem_nil
      exact announced_unique hapart hearlier hsingle hrole hannounced (hcounts host hhost)
        (hsame.trans hkey)
  exact ⟨hlast, shellDefines_of_lastSetting hname (hostVariable_not_mem_items role _) hlast⟩

/-- The template of a request that is sent has been reached. -/
theorem buildable_of_madeInOrder {sent : List (LaunchRequest client.order)}
    (hmade : MadeInOrder cloud [] templates [] sent) {j : ℕ} (hsent : sent[j]? = some request)
    {before after : List InstanceTemplate} (hsplit : templates = before ++ template :: after)
    (hindex : before.length = j) : ∀ reached ∈ before ++ [template], Buildable client reached := by
  intro reached hreached
  obtain ⟨i, hi, rfl⟩ := List.getElem_of_mem hreached
  rw [List.length_append, List.length_singleton, hindex] at hi
  have hlength := (List.getElem?_eq_some_iff.mp hsent).1
  obtain ⟨other, hother, known, hrequest, -⟩ :=
    hmade i sent[i] (List.getElem?_eq_getElem (by omega))
  have hsame : templates[i]? = some (before ++ [template])[i] := by
    rw [hsplit, List.append_cons, List.getElem?_append_left (by simp [hindex, hi])]
    exact List.getElem?_eq_getElem _
  rw [hsame, Option.some_inj] at hother
  exact hother ▸ (request_addEnvStrings_iff.mp ⟨_, hrequest⟩).1

/-- No known host is empty. -/
theorem nil_not_mem_known {sent : List (LaunchRequest client.order)} {known : List Text} {j : ℕ}
    (hknown : ∀ host, host ∈ known ↔ host ∈ [] ∨ AnnouncedBefore cloud [] sent templates j host) :
    [] ∉ known := by
  intro hmem
  obtain ⟨i, -, earlier, -, publicIp, -, role, -, hnone⟩ :=
    ((hknown []).mp hmem).resolve_left List.not_mem_nil
  simp [settingString] at hnone

/-- The cluster learns when the env strings are listed wherever a launch can come. -/
theorem clusterLearns_of_clusterListed (hapart : templates.Pairwise RolesApart)
    (hlisted : ClusterListed client templates) :
    ClusterLearns cloud templates (launchClusterInstances client cloud [] templates []).2 := by
  obtain ⟨sent, hsent, hmade⟩ := @madeInOrder_launchClusterInstances client cloud [] templates []
  rw [hsent, List.nil_append]
  constructor
  · intro i j hlater template htemplate publicIp hsingle request hrequest role hrole
    exact defines_of_madeInOrder hapart hmade hlater htemplate hsingle hrequest hrole
  · intro j template request htemplate hrequest
    obtain ⟨other, hother, known, hmakes, hknown⟩ := hmade j request hrequest
    obtain rfl : template = other := Option.some.inj (htemplate.symm.trans hother)
    obtain ⟨hj, hget⟩ := List.getElem?_eq_some_iff.mp htemplate
    have hsplit : templates = templates.take j ++ template :: templates.drop (j + 1) := by
      rw [← hget, List.cons_getElem_drop_succ, List.take_append_drop]
    have hlength : (templates.take j).length = j := List.length_take_of_le hj.le
    rw [keepsSupplied_iff (nil_not_mem_known hknown) hmakes]
    exact hlisted _ _ _ hsplit (buildable_of_madeInOrder hmade hrequest hsplit hlength)

/-- The answers of a cloud in which no instance ever runs. -/
def quietCloud (client : Client) (namenodes : List Text) : Cloud client.order where
  namenodes := namenodes
  reply := fun _ ↦ .running []

/-- In such a cloud every template is reached behind templates whose requests can be made. -/
theorem exists_request_quietCloud {before after : List InstanceTemplate}
    (hbuildable : ∀ reached ∈ before ++ [template], Buildable client reached)
    (requests : List (LaunchRequest client.order)) :
    ∃ request, client.request (template.addEnvStrings []) = .ok request ∧
      (launchClusterInstances client (quietCloud client []) []
        (before ++ template :: after) requests).2[requests.length + before.length]? =
          some request := by
  have hstep {first : InstanceTemplate} {request : LaunchRequest client.order}
      (hrequest : client.request (first.addEnvStrings []) = .ok request)
      (rest : List InstanceTemplate) (requests : List (LaunchRequest client.order)) :
      launchClusterInstances client (quietCloud client []) [] (first :: rest) requests =
        launchClusterInstances client (quietCloud client []) [] rest (requests ++ [request]) := by
    have hlaunch := @launchInstances_eq client (quietCloud client []) _ _ hrequest requests
    rw [launchClusterInstances, Py.bind_eq, Py.run_bind_ok hlaunch, Py.bind_eq]
    exact Py.run_bind_ok (Py.run_ofExcept _ _) _
  induction before generalizing requests with
  | nil =>
    obtain ⟨request, hrequest⟩ := (hbuildable template (by simp)).exists_request
    obtain ⟨sent, hsent, -⟩ := @madeInOrder_launchClusterInstances client (quietCloud client []) []
      after (requests ++ [request])
    refine ⟨request, hrequest, ?_⟩
    rw [List.nil_append, hstep hrequest, hsent]
    simp
  | cons first rest ih =>
    obtain ⟨request, hrequest⟩ := (hbuildable first (by simp)).exists_request
    obtain ⟨later, hlater, hindex⟩ :=
      ih (fun reached hmem ↦ hbuildable reached (by simp at hmem ⊢; tauto)) (requests ++ [request])
    refine ⟨later, hlater, ?_⟩
    rw [List.cons_append, hstep hrequest, ← hindex, List.length_append, List.length_singleton,
      List.length_cons]
    congr 1
    omega

/-- Where the cluster learns in any cloud, the env strings are listed wherever a launch can come. -/
theorem clusterListed_of_clusterLearns
    (hlearns : ∀ cloud : Cloud client.order,
      ClusterLearns cloud templates (launchClusterInstances client cloud [] templates []).2) :
    ClusterListed client templates := by
  rintro before template after rfl hbuildable
  obtain ⟨request, hrequest, hsent⟩ := exists_request_quietCloud hbuildable []
  rw [List.length_nil, Nat.zero_add] at hsent
  rw [← keepsSupplied_iff List.not_mem_nil hrequest]
  exact (hlearns (quietCloud client [])).keeps before.length template request (by simp) hsent

/-- What `launch_slaves` adds sets no variable. -/
theorem lastSetting_append_slaveEnvStrings {first : List Text} {name value master : Text}
    (hname : '=' ∉ name) (hsome : name ≠ []) :
    LastSetting (first ++ slaveEnvStrings master) name value ↔ LastSetting first name value := by
  rw [LastSetting, LastSetting, List.filter_append]
  refine lastWithKey_append_iff fun hmem ↦ ?_
  rw [envName_pair hname] at hmem
  obtain ⟨env, henv, hsame⟩ := List.mem_map.mp hmem
  obtain ⟨hadded, hmark⟩ := List.mem_filter.mp henv
  obtain ⟨c, rfl⟩ := List.length_eq_one_iff.mp (length_of_mem_slaveEnvStrings hadded)
  obtain rfl : '=' = c := by simpa using hmark
  exact hsome hsame.symm

/-- The slaves learn when the user's own strings tell them. -/
theorem slavesLearn_iff {slaves : InstanceTemplate} {master : Text}
    (hmaster : cloud.namenodes = [master]) :
    SlavesLearn master slaves (launchSlaves client cloud slaves []).2 ↔
      SlavesDefine client slaves master := by
  have hcounts : ∀ env ∈ slaveEnvStrings master, env.count '=' ≤ 1 := fun env henv ↦
    (List.count_le_length).trans (length_of_mem_slaveEnvStrings henv).le
  have hnone : [] ∉ slaveEnvStrings master := fun hmem ↦
    absurd (length_of_mem_slaveEnvStrings hmem) (by simp)
  have hnames : ∀ role ∈ masterRoles, '=' ∉ hostVariable role ∧ hostVariable role ≠ [] := by decide
  rw [launchSlaves_of_master hmaster]
  cases hrequest : client.request (slaves.addEnvStrings (slaveEnvStrings master)) with
  | error error =>
    have hnot : ¬ Buildable client slaves := by
      intro hbuildable
      obtain ⟨request, hsome⟩ := request_addEnvStrings_iff.mpr ⟨hbuildable, hcounts⟩
      rw [hrequest] at hsome
      cases hsome
    exact iff_of_true ⟨by simp [Except.toOption], by simp [Except.toOption]⟩
      fun hbuildable ↦ absurd hbuildable hnot
  | ok request =>
    have hbuildable := (request_addEnvStrings_iff.mp ⟨request, hrequest⟩).1
    have hlast {role : Text} (hrole : role ∈ masterRoles) :
        LastSetting request.instanceUserData.environment.envStrings (hostVariable role) master ↔
          LastSetting (iterate slaves.envStrings) (hostVariable role) master := by
      rw [envStrings_of_request hrequest]
      exact lastSetting_append_slaveEnvStrings (hnames role hrole).1 (hnames role hrole).2
    have honly : (Except.ok request : Except PyError _).toOption.toList = [request] := rfl
    rw [honly]
    constructor
    · intro hlearns _
      have hlisted := (keepsSupplied_iff hnone hrequest).mp (hlearns.keeps request (by simp))
      refine ⟨hlisted, fun role hrole ↦ ?_⟩
      rw [← iterate_of_envListed hlisted, ← hlast hrole]
      exact (hlearns.defines request (by simp) role hrole).last
    · intro hdefine
      obtain ⟨hlisted, hall⟩ := hdefine hbuildable
      constructor
      · intro other hother role hrole
        obtain rfl := List.mem_singleton.mp hother
        have hsetting := hall role hrole
        rw [← iterate_of_envListed hlisted, ← hlast hrole] at hsetting
        exact ⟨hsetting, shellDefines_of_lastSetting (hnames role hrole).1
          (hostVariable_not_mem_items role _) hsetting⟩
      · intro other hother
        obtain rfl := List.mem_singleton.mp hother
        exact (keepsSupplied_iff hnone hrequest).mpr hlisted

end Conditions

/-- The addresses of the masters arrive exactly when the env strings of the templates are listed
where a launch can come, and the user tells the slaves the addresses himself. -/
theorem learnsMasters_iff {client : Client} {templates : List InstanceTemplate}
    {slaves : InstanceTemplate} {master : Text} (hapart : templates.Pairwise RolesApart) :
    LearnsMasters client templates slaves master ↔
      ClusterListed client templates ∧ SlavesDefine client slaves master := by
  constructor
  · intro hlearns
    refine ⟨clusterListed_of_clusterLearns hlearns.cluster, ?_⟩
    have hmaster : (quietCloud client [master]).namenodes = [master] := rfl
    exact (slavesLearn_iff hmaster).mp (hlearns.slaves _ hmaster)
  · rintro ⟨hlisted, hdefine⟩
    constructor
    · intro cloud
      exact clusterLearns_of_clusterListed hapart hlisted
    · intro cloud hmaster
      exact (slavesLearn_iff hmaster).mpr hdefine

theorem learnsMasters_iff_sample : LearnsMasters sampleClient
      (clusterTemplates 2 (templateArguments .cs61cec2 sampleOptions))
      (slavesTemplate 1 (templateArguments .cs61cec2 sampleOptions)) "10.0.0.1".toList ↔
    ClusterListed sampleClient (clusterTemplates 2 (templateArguments .cs61cec2 sampleOptions)) ∧
      SlavesDefine sampleClient (slavesTemplate 1 (templateArguments .cs61cec2 sampleOptions))
        "10.0.0.1".toList :=
  learnsMasters_iff (by decide +kernel)

/-- Slaves with no env strings of their own are told nothing. -/
theorem slaves_learnNothing : ¬ LearnsMasters sampleClient []
    (slavesTemplate 1 (templateArguments .cs61cec2 sampleOptions)) "10.0.0.1".toList := by
  intro hlearns
  have hmaster : (quietCloud sampleClient ["10.0.0.1".toList]).namenodes =
      ["10.0.0.1".toList] := rfl
  have hdefine := (slavesLearn_iff hmaster).mp (hlearns.slaves _ hmaster)
  have hbuildable : Buildable sampleClient
      (slavesTemplate 1 (templateArguments .cs61cec2 sampleOptions)) :=
    ⟨by simp [Client.NoCredentials, sampleClient], by decide, by rintro ⟨_, ⟨⟩⟩, by rintro ⟨_, ⟨⟩⟩⟩
  exact lastWithKey_nil ((hdefine hbuildable).2 _ List.mem_cons_self)

end Ec2Wrappers.HadoopCloud
