import Ec2Wrappers.Foundations.Regex
import Ec2Wrappers.Foundations.Runs
import Ec2Wrappers.Foundations.Tables
import Ec2Wrappers.HadoopCloud.ClusterTermination

/-!
# The security groups of clusters

The parts of `Ec2Cluster` of `hadoop/cloud/providers/ec2.py` that name, create, look up and delete
security groups, over an account that several clusters share. Rules for ports are left out, since
nothing here reads them. The account remembers for which cluster a group was created and an instance
launched, which EC2 does not know.

A cluster's group has the bare name of the cluster, and a role's group the name, a dash and the
role. `_check_role_name` is `matchesLine` of a class of characters, so it also lets a newline at the
end pass (`isRoleName_iff`), but no dash (`dash_not_mem`); so a role's group tells the cluster from
the role (`roleGroup_inj`).

The pattern of `_get_all_group_names_for_cluster` has the name in it as it is. Where the name is an
expression that `Regex.parse` reads, the pattern is that expression followed by the optional role;
what Python makes of any other pattern is a parameter. `Covers` says which names a cluster's pattern
matches (`covers_iff`), and for a name with no special character these are the name itself and the
groups of its roles, up to a newline (`covers_of_plain`).
-/

set_option autoImplicit false
set_option relaxedAutoImplicit false

namespace Ec2Wrappers.HadoopCloud

open Foundations Aws

/-! ### The account -/

/-- A security group, with the cluster it was created for. -/
structure SecurityGroup where
  name : Text
  createdFor : Text
  deriving DecidableEq, Repr

/-- A launch, with the cluster and the roles it was made for. -/
structure ClusterLaunch where
  launchedFor : Text
  roles : List Text
  reservation : Reservation
  deriving DecidableEq, Repr

/-- The account: its security groups, and the launches that EC2 still lists, no two instances with
the same id. -/
structure SharedAccount where
  groups : Table SecurityGroup.name
  launches : List ClusterLaunch
  ids_nodup : ((instancesOf (launches.map ClusterLaunch.reservation)).map Instance.id).Nodup

/-- An account with nothing in it. -/
def SharedAccount.empty : SharedAccount := ⟨Table.empty, [], List.nodup_nil⟩

/-- What `get_all_instances` lists. -/
def SharedAccount.reservations (account : SharedAccount) : List Reservation :=
  account.launches.map ClusterLaunch.reservation

/-! ### Names -/

/-- A character of a role. -/
def isRoleChar (c : Char) : Bool := c.isAlphanum || c = '_' || c = '+'

/-- `[a-zA-Z0-9_+]+`. -/
def roleRegex : Regex := .chars isRoleChar .atLeastOnce

/-- `(-[a-zA-Z0-9_+]+)?`. -/
def roleSuffix : Regex := .optional (.seq (.chars (fun c ↦ c = '-') .once) roleRegex)

/-- `Ec2Cluster._check_role_name`. -/
def checkRoleName (role : Text) : Except PyError Unit :=
  if matchesLine roleRegex role then .ok ()
  else .error (.exception ("Invalid role name '".toList ++ role ++ "'".toList))

/-- The role passes the check. -/
def IsRoleName (role : Text) : Prop := checkRoleName role = .ok ()

/-- The name of a role's group, `"%s-%s" % (name, role)`. -/
def roleGroup (name role : Text) : Text := name ++ '-' :: role

/-- `Ec2Cluster._group_name_for_role`. -/
def groupNameForRole (name role : Text) : Except PyError Text := do
  checkRoleName role
  return roleGroup name role

/-- The names of the groups of some roles. -/
def groupNamesForRoles (name : Text) : List Text → Except PyError (List Text)
  | [] => .ok []
  | role :: rest => do
    let groupName ← groupNameForRole name role
    let others ← groupNamesForRoles name rest
    return groupName :: others

/-- `Ec2Cluster._get_group_names`. -/
def getGroupNames (name : Text) (roles : List Text) : Except PyError (List Text) := do
  let groupNames ← groupNamesForRoles name roles
  return getClusterGroupName name :: groupNames

/-- `Ec2Cluster._get_all_group_names`. -/
def getAllGroupNames (account : SharedAccount) : List Text :=
  account.groups.rows.map SecurityGroup.name

/-- The text of the pattern in `_get_all_group_names_for_cluster`. -/
def clusterPattern (name : Text) : Text :=
  "^".toList ++ name ++ "(-[a-zA-Z0-9_+]+)?$".toList

/-- What Python makes of a pattern: nothing when the pattern is not valid. -/
abbrev PythonRe := Text → Option (Text → Bool)

/-- The compiled pattern of a cluster's name. -/
def compileClusterPattern (python : PythonRe) (name : Text) : Option (Text → Bool) :=
  match Regex.parse name with
  | some regex => some (matchesLine (.seq regex roleSuffix))
  | none => python (clusterPattern name)

/-- `Ec2Cluster._get_all_group_names_for_cluster`. -/
def getAllGroupNamesForCluster (python : PythonRe) (name : Text) (account : SharedAccount) :
    Except PyError (List Text) :=
  if name ∈ getAllGroupNames account then
    match compileClusterPattern python name with
    | some matches_ => .ok ((getAllGroupNames account).filter matches_)
    | none => .error (.exception (clusterPattern name))
  else .ok []

/-! ### Launching -/

/-- `create_security_group`, which EC2 refuses for a name that exists. -/
def createSecurityGroup (cluster name : Text) : Py SharedAccount Unit := fun account ↦
  match account.groups.insert ⟨name, cluster⟩ with
  | some groups => (.ok (), { account with groups := groups })
  | none => (.error (.library "EC2ResponseError".toList "InvalidGroup.Duplicate".toList), account)

/-- Create a group unless its name is among those given. -/
def createMissing (securityGroupNames : List Text) (cluster name : Text) :
    Py SharedAccount Unit :=
  if name ∈ securityGroupNames then Py.ret () else createSecurityGroup cluster name

/-- `Ec2Cluster._create_groups`. -/
def createGroups (name role : Text) : Py SharedAccount Unit := do
  Py.ofExcept (checkRoleName role)
  let account ← Py.get
  let securityGroupNames := getAllGroupNames account
  createMissing securityGroupNames name (getClusterGroupName name)
  let roleGroupName ← Py.ofExcept (groupNameForRole name role)
  createMissing securityGroupNames name roleGroupName

/-- `run_instances`, with the instances that EC2 starts, if it does. -/
def runInstances (cluster : Text) (roles securityGroups : List Text)
    (started : Option (List Instance)) : Py SharedAccount Unit := fun account ↦
  match started with
  | none => (.error (.library "EC2ResponseError".toList []), account)
  | some instances =>
    let launch : ClusterLaunch :=
      ⟨cluster, roles, ⟨securityGroups.map InstanceGroup.mk, instances⟩⟩
    if hfresh : ((instancesOf ((account.launches ++ [launch]).map ClusterLaunch.reservation)).map
        Instance.id).Nodup then
      (.ok (), { account with launches := account.launches ++ [launch], ids_nodup := hfresh })
    else (.error (.library "EC2ResponseError".toList []), account)

/-- `Ec2Cluster.launch_instances`, up to what is launched. -/
def launchInCluster (name : Text) (roles : List Text) (started : Option (List Instance)) :
    Py SharedAccount Unit := do
  Py.forEach roles fun role ↦ do
    Py.ofExcept (checkRoleName role)
    createGroups name role
  let securityGroups ← Py.ofExcept (getGroupNames name roles)
  runInstances name roles securityGroups started

/-! ### Looking up and deleting -/

/-- `Ec2Cluster.get_instances_in_role`. -/
def getInstancesInRole (name role : Text) (stateFilter : Option InstanceState)
    (account : SharedAccount) : Except PyError (List Instance) := do
  checkRoleName role
  let groupName ← groupNameForRole name role
  return getInstances groupName stateFilter account.reservations

/-- The instances that `Ec2Cluster.terminate` asks EC2 to terminate. -/
def instancesToTerminate (name : Text) (account : SharedAccount) : List Instance :=
  getInstances (getClusterGroupName name) (some .running) account.reservations

/-- `delete_security_group`, which EC2 can refuse. -/
def deleteSecurityGroup (refuses : Text → Bool) (name : Text) : Py SharedAccount Unit :=
  if refuses name then Py.raise (.library "EC2ResponseError".toList "InvalidGroup.InUse".toList)
  else Py.modify fun account ↦ { account with groups := account.groups.delete (·.name = name) }

/-- `Ec2Cluster.delete`. -/
def deleteCluster (python : PythonRe) (refuses : Text → Bool) (name : Text) :
    Py SharedAccount Unit := do
  let account ← Py.get
  let groupNames ← Py.ofExcept (getAllGroupNamesForCluster python name account)
  Py.forEach groupNames (deleteSecurityGroup refuses)

/-! ### The names of groups -/

/-- A text of the expression for roles is one or more characters of roles. -/
theorem mem_language_roleRegex {word : Text} : word ∈ roleRegex.language ↔
    word ≠ [] ∧ ∀ c ∈ word, isRoleChar c = true := by
  rw [roleRegex, Regex.language, Language.mem_mul]
  constructor
  · rintro ⟨_, ⟨c, hc, rfl⟩, rest, hrest, rfl⟩
    exact ⟨List.cons_ne_nil _ _, List.forall_mem_cons.mpr ⟨hc, mem_singles_kstar.mp hrest⟩⟩
  · rintro ⟨hsome, hall⟩
    obtain ⟨c, rest, rfl⟩ := List.exists_cons_of_ne_nil hsome
    obtain ⟨hc, hrest⟩ := List.forall_mem_cons.mp hall
    exact ⟨[c], ⟨c, hc, rfl⟩, rest, mem_singles_kstar.mpr hrest, rfl⟩

/-- A role is a text of the expression, and possibly a newline. -/
theorem isRoleName_iff {role : Text} : IsRoleName role ↔
    ∃ word ∈ roleRegex.language, role = word ∨ role = word ++ ['\n'] := by
  rw [← matchesLine_iff]
  unfold IsRoleName checkRoleName
  split_ifs with hmatches <;> simp [hmatches]

/-- There is no dash in a role. -/
theorem dash_not_mem {role : Text} (hrole : IsRoleName role) : '-' ∉ role := by
  obtain ⟨word, hmem, hrole⟩ := isRoleName_iff.mp hrole
  obtain ⟨-, hall⟩ := mem_language_roleRegex.mp hmem
  have hword : '-' ∉ word := fun hmem ↦ absurd (hall '-' hmem) (by decide)
  rcases hrole with rfl | rfl
  · exact hword
  · simp [hword]

/-- A role's group says which cluster and which role it is for. -/
theorem roleGroup_inj {name other role otherRole : Text} (hrole : IsRoleName role)
    (hotherRole : IsRoleName otherRole) (hsame : roleGroup name role = roleGroup other otherRole) :
    name = other ∧ role = otherRole := by
  have hroles : role = otherRole := by
    rw [← afterLast_append_cons name (dash_not_mem hrole),
      ← afterLast_append_cons other (dash_not_mem hotherRole)]
    exact congrArg (afterLast '-') hsame
  subst hroles
  exact ⟨List.append_cancel_right hsame, rfl⟩

/-- The group name of a role. -/
theorem groupNameForRole_of_ok {name role groupName : Text}
    (hname : groupNameForRole name role = .ok groupName) :
    IsRoleName role ∧ groupName = roleGroup name role := by
  obtain ⟨_, hcheck, hname⟩ := ok_of_bind hname
  cases hname
  exact ⟨hcheck, rfl⟩

/-- The group names of some roles. -/
theorem groupNamesForRoles_of_ok {name : Text} {roles groupNames : List Text}
    (hnames : groupNamesForRoles name roles = .ok groupNames) :
    (∀ role ∈ roles, IsRoleName role) ∧ groupNames = roles.map (roleGroup name) := by
  induction roles generalizing groupNames with
  | nil =>
    cases hnames
    exact ⟨fun role hrole ↦ absurd hrole List.not_mem_nil, rfl⟩
  | cons role rest ih =>
    obtain ⟨groupName, hfirst, hnames⟩ := ok_of_bind hnames
    obtain ⟨others, hothers, hnames⟩ := ok_of_bind hnames
    cases hnames
    obtain ⟨hrole, rfl⟩ := groupNameForRole_of_ok hfirst
    obtain ⟨hroles, rfl⟩ := ih hothers
    exact ⟨List.forall_mem_cons.mpr ⟨hrole, hroles⟩, rfl⟩

/-- The group names of a launch. -/
theorem getGroupNames_of_ok {name : Text} {roles groupNames : List Text}
    (hnames : getGroupNames name roles = .ok groupNames) :
    (∀ role ∈ roles, IsRoleName role) ∧ groupNames = name :: roles.map (roleGroup name) := by
  obtain ⟨names, hroles, hnames⟩ := ok_of_bind hnames
  cases hnames
  obtain ⟨hchecked, rfl⟩ := groupNamesForRoles_of_ok hroles
  exact ⟨hchecked, rfl⟩

/-! ### What a cluster's pattern matches -/

/-- The text is a name or the name of one of its roles' groups, up to a newline at the end. -/
def IsNamedAfter (name text : Text) : Prop :=
  text = name ∨ text = name ++ ['\n'] ∨ ∃ role, IsRoleName role ∧ text = roleGroup name role

/-- The pattern of a cluster's name matches the text. -/
def Covers (python : PythonRe) (name text : Text) : Prop :=
  match Regex.parse name with
  | some regex => ∃ word ∈ regex.language, IsNamedAfter word text
  | none => ∃ matches_, python (clusterPattern name) = some matches_ ∧ matches_ text = true

/-- The pattern matches what is named after a text that the name stands for. -/
theorem matchesLine_roleSuffix_iff (regex : Regex) (text : Text) :
    matchesLine (.seq regex roleSuffix) text = true ↔
      ∃ word ∈ regex.language, IsNamedAfter word text := by
  simp only [matchesLine_iff, roleSuffix, Regex.language, Language.mem_mul, Language.mem_add,
    Language.mem_one]
  constructor
  · rintro ⟨_, ⟨word, hword, suffix, hsuffix, rfl⟩, htext⟩
    refine ⟨word, hword, ?_⟩
    rcases hsuffix with rfl | ⟨_, ⟨dash, hdash, rfl⟩, role, hrole, rfl⟩
    · rw [List.append_nil] at htext
      exact htext.imp_right Or.inl
    · rw [of_decide_eq_true hdash] at htext
      refine Or.inr (Or.inr ?_)
      rcases htext with rfl | rfl
      · exact ⟨role, isRoleName_iff.mpr ⟨role, hrole, Or.inl rfl⟩, rfl⟩
      · exact ⟨role ++ ['\n'], isRoleName_iff.mpr ⟨role, hrole, Or.inr rfl⟩, by simp [roleGroup]⟩
  · rintro ⟨word, hword, rfl | rfl | ⟨role, hrole, rfl⟩⟩
    · exact ⟨_, ⟨_, hword, [], Or.inl rfl, rfl⟩, Or.inl (List.append_nil _).symm⟩
    · exact ⟨_, ⟨_, hword, [], Or.inl rfl, rfl⟩, Or.inr (by rw [List.append_nil])⟩
    · obtain ⟨role, hmem, rfl | rfl⟩ := isRoleName_iff.mp hrole
      · exact ⟨_, ⟨word, hword, _, Or.inr ⟨['-'], ⟨'-', by decide, rfl⟩, role, hmem, rfl⟩, rfl⟩,
          Or.inl rfl⟩
      · exact ⟨_, ⟨word, hword, _, Or.inr ⟨['-'], ⟨'-', by decide, rfl⟩, role, hmem, rfl⟩, rfl⟩,
          Or.inr (by simp [roleGroup])⟩

/-- What a cluster's pattern matches. -/
theorem covers_iff {python : PythonRe} {name text : Text} : Covers python name text ↔
    ∃ matches_, compileClusterPattern python name = some matches_ ∧ matches_ text = true := by
  unfold Covers compileClusterPattern
  cases Regex.parse name with
  | none => rfl
  | some regex => simp [matchesLine_roleSuffix_iff]

/-- A name with no special character stands for itself. -/
theorem covers_of_plain {python : PythonRe} {name text : Text}
    (hplain : ∀ c ∈ name, c ∉ specialChars) : Covers python name text ↔ IsNamedAfter name text := by
  simp only [Covers, parse_of_plain hplain, mem_language_literal, exists_eq_left]

end Ec2Wrappers.HadoopCloud
