import Ec2Wrappers.HadoopCloud.ClusterGroups

/-!
# Operations on one cluster and the others

What `get_instances_in_role`, `terminate` and `delete` on one cluster do to another one, after any
launches in any clusters and any changes of state. Every launch puts its instances in the groups of
its own cluster and roles (`labelled_accountAfter`), so an operation reaches another cluster only by
way of a name.

There are such names. The group of a role of `a` can be the group of the cluster `a-b`, which makes
`get_instances_in_role` on `a` find instances of `a-b`, `terminate` on `a-b` terminate those of `a`,
and `delete` on either delete a group of the other (`roleOfOther_terminated`). `NamesApart` says
that no name overlaps in such a way, and then and only then the operations leave the other cluster
alone (`leavesOther_iff`). For names with no special character that are not each other's roles'
groups nothing else is needed (`leavesOther_of_unrelated`).
-/

set_option autoImplicit false
set_option relaxedAutoImplicit false

namespace Ec2Wrappers.HadoopCloud

open Foundations Aws

/-! ### Histories of the account -/

/-- A launch in a cluster, or a change of the state of an instance. -/
inductive ClusterEvent
  | launch (name : Text) (roles : List Text) (started : Option (List Instance))
  | changeState (id : Text) (state : InstanceState)

/-- The change of the state of an instance in a launch. -/
def changeLaunch (id : Text) (state : InstanceState) (launch : ClusterLaunch) : ClusterLaunch :=
  { launch with
    reservation := { launch.reservation with
      instances := launch.reservation.instances.map (changeInstance id state) } }

/-- The change of the state of an instance. -/
def SharedAccount.changeState (id : Text) (state : InstanceState) (account : SharedAccount) :
    SharedAccount :=
  { account with
    launches := account.launches.map (changeLaunch id state)
    ids_nodup := by
      have hlaunches : (account.launches.map (changeLaunch id state)).map
          ClusterLaunch.reservation = changeReservations id state account.reservations := by
        simp [changeReservations, SharedAccount.reservations, changeLaunch]
      have hids : Instance.id ∘ changeInstance id state = Instance.id :=
        funext fun instance_ ↦ changeInstance_id id state instance_
      rw [hlaunches, instancesOf_changeReservations, List.map_map, hids]
      exact account.ids_nodup }

/-- The account after an event. -/
def SharedAccount.next (account : SharedAccount) : ClusterEvent → SharedAccount
  | .launch name roles started => (launchInCluster name roles started account).2
  | .changeState id state => account.changeState id state

/-- The account after some events. -/
def accountAfter (events : List ClusterEvent) : SharedAccount :=
  events.foldl SharedAccount.next .empty

/-! ### Leaving another cluster alone -/

/-- An instance was launched for a cluster. -/
def LaunchedFor (cluster id : Text) (account : SharedAccount) : Prop :=
  ∃ launch ∈ account.launches, launch.launchedFor = cluster ∧
    ∃ instance_ ∈ launch.reservation.instances, instance_.id = id

/-- An instance was launched for a cluster and for no other. -/
def LaunchedOnlyFor (cluster id : Text) (account : SharedAccount) : Prop :=
  LaunchedFor cluster id account ∧ ∀ other, other ≠ cluster → ¬ LaunchedFor other id account

/-- The operations on a cluster find and terminate no instance that was launched only for another
one, and delete no group that was created for it, whatever deletions EC2 refuses. -/
structure LeavesOther (python : PythonRe) (name other : Text) (account : SharedAccount) : Prop where
  role : ∀ role stateFilter found, getInstancesInRole name role stateFilter account = .ok found →
    ∀ instance_ ∈ found, ¬ LaunchedOnlyFor other instance_.id account
  terminate : ∀ instance_ ∈ instancesToTerminate name account,
    ¬ LaunchedOnlyFor other instance_.id account
  delete : ∀ refuses, ∀ group ∈ account.groups.rows, group.createdFor = other →
    group ∈ (deleteCluster python refuses name account).2.groups.rows

/-- No name of a cluster overlaps with one of another that has something to lose by it: the other is
not called like the group of a role, unless it has no instance; the cluster is not called like the
group of a role of the other, unless no instance runs in that role; and if the cluster has a group,
its pattern matches no group that was created for the other. -/
structure NamesApart (python : PythonRe) (name other : Text) (account : SharedAccount) : Prop where
  role : ∀ role, IsRoleName role → other = roleGroup name role →
    ∀ launch ∈ account.launches, launch.launchedFor = other → launch.reservation.instances = []
  terminate : ∀ launch ∈ account.launches, launch.launchedFor = other →
    ∀ role ∈ launch.roles, name = roleGroup other role →
      ∀ instance_ ∈ launch.reservation.instances, instance_.state ≠ .running
  delete : name ∈ getAllGroupNames account → ∀ group ∈ account.groups.rows,
    group.createdFor = other → ¬ Covers python name group.name

/-! ### The labels -/

/-- Groups and launches are named after the cluster they were made for, and its roles. -/
structure Labelled (account : SharedAccount) : Prop where
  group : ∀ group ∈ account.groups.rows, group.name = group.createdFor ∨
    ∃ role, IsRoleName role ∧ group.name = roleGroup group.createdFor role
  launch : ∀ launch ∈ account.launches, (∀ role ∈ launch.roles, IsRoleName role) ∧
    launch.reservation.groups =
      (launch.launchedFor :: launch.roles.map (roleGroup launch.launchedFor)).map InstanceGroup.mk

/-- Creating a group keeps the labels when the name is one of the cluster's. -/
theorem keeps_createMissing {cluster name : Text} (names : List Text)
    (hname : name = cluster ∨ ∃ role, IsRoleName role ∧ name = roleGroup cluster role) :
    Py.Keeps Labelled (createMissing names cluster name) := by
  unfold createMissing
  split_ifs
  · exact Py.keeps_ret Labelled ()
  · intro account hlabelled
    unfold createSecurityGroup
    split
    · rename_i groups hinsert
      refine ⟨?_, hlabelled.launch⟩
      change ∀ group ∈ groups.rows, _
      rw [Table.rows_of_insert hinsert, List.forall_mem_append, List.forall_mem_singleton]
      exact ⟨hlabelled.group, hname⟩
    · exact hlabelled

/-- Creating the groups of a role keeps the labels. -/
theorem keeps_createGroups (name role : Text) : Py.Keeps Labelled (createGroups name role) := by
  unfold createGroups
  apply Py.keeps_bind (Py.keeps_ofExcept Labelled _)
  intro _
  apply Py.keeps_bind (Py.keeps_get Labelled)
  intro account
  apply Py.keeps_bind (keeps_createMissing _ (Or.inl rfl))
  intro _
  apply Py.keeps_ofExcept_bind
  intro groupName hname
  exact keeps_createMissing _ (Or.inr ⟨role, groupNameForRole_of_ok hname⟩)

/-- A launch keeps the labels. -/
theorem keeps_launchInCluster (name : Text) (roles : List Text)
    (started : Option (List Instance)) :
    Py.Keeps Labelled (launchInCluster name roles started) := by
  unfold launchInCluster
  apply Py.keeps_bind
  · apply Py.keeps_forEach
    intro role _
    exact Py.keeps_bind (Py.keeps_ofExcept Labelled _) fun _ ↦ keeps_createGroups name role
  · intro _
    apply Py.keeps_ofExcept_bind
    intro groupNames hnames account hlabelled
    obtain ⟨hroles, rfl⟩ := getGroupNames_of_ok hnames
    unfold runInstances
    split
    · exact hlabelled
    · dsimp only
      split_ifs
      · refine ⟨hlabelled.group, ?_⟩
        rw [List.forall_mem_append, List.forall_mem_singleton]
        exact ⟨hlabelled.launch, hroles, rfl⟩
      · exact hlabelled

/-- Every event keeps the labels. -/
theorem labelled_next {account : SharedAccount} (hlabelled : Labelled account)
    (event : ClusterEvent) : Labelled (account.next event) := by
  cases event with
  | launch name roles started => exact keeps_launchInCluster name roles started account hlabelled
  | changeState id state =>
    refine ⟨hlabelled.group, ?_⟩
    change ∀ launch ∈ account.launches.map (changeLaunch id state), _
    rw [List.forall_mem_map]
    exact hlabelled.launch

/-- After any events groups and launches are labelled. -/
theorem labelled_accountAfter (events : List ClusterEvent) : Labelled (accountAfter events) := by
  induction events using List.reverseRecOn with
  | nil =>
    exact ⟨fun group hgroup ↦ absurd hgroup List.not_mem_nil,
      fun launch hlaunch ↦ absurd hlaunch List.not_mem_nil⟩
  | append_singleton events event ih =>
    rw [accountAfter, List.foldl_append, List.foldl_cons, List.foldl_nil]
    exact labelled_next ih event

/-! ### What the operations reach -/

section Reach

variable {python : PythonRe} {name other : Text} {account : SharedAccount}

/-- The groups of a launch are those of its cluster and its roles. -/
theorem namesGroup_iff (hlabelled : Labelled account) {launch : ClusterLaunch}
    (hlaunch : launch ∈ account.launches) (groupName : Text) :
    NamesGroup groupName launch.reservation.groups ↔ groupName = launch.launchedFor ∨
      ∃ role ∈ launch.roles, groupName = roleGroup launch.launchedFor role := by
  rw [NamesGroup, (hlabelled.launch launch hlaunch).2]
  simp [eq_comm]

/-- The instances of a group are those of the launches in it. -/
theorem mem_getInstances_reservations {groupName : Text} {stateFilter : Option InstanceState}
    {instance_ : Instance} :
    instance_ ∈ getInstances groupName stateFilter account.reservations ↔
      ∃ launch ∈ account.launches, NamesGroup groupName launch.reservation.groups ∧
        instance_ ∈ launch.reservation.instances ∧
          ∀ state ∈ stateFilter, instance_.state = state := by
  simp [mem_getInstances_iff, SharedAccount.reservations]

/-- An instance of a launch was launched only for the cluster of the launch. -/
theorem launchedOnlyFor_iff {launch : ClusterLaunch} (hlaunch : launch ∈ account.launches)
    {instance_ : Instance} (hinstance : instance_ ∈ launch.reservation.instances) :
    LaunchedOnlyFor other instance_.id account ↔ launch.launchedFor = other := by
  constructor
  · rintro ⟨-, honly⟩
    by_contra hdifferent
    exact honly _ hdifferent ⟨launch, hlaunch, rfl, instance_, hinstance, rfl⟩
  · rintro rfl
    refine ⟨⟨launch, hlaunch, rfl, instance_, hinstance, rfl⟩, ?_⟩
    rintro cluster hcluster ⟨second, hsecond, rfl, found, hfound, hid⟩
    have hnodup : (account.launches.flatMap fun launch ↦
        launch.reservation.instances.map Instance.id).Nodup := by
      have hids := account.ids_nodup
      rwa [instancesOf, List.flatMap_map, List.map_flatMap] at hids
    exact hcluster (congrArg ClusterLaunch.launchedFor (eq_of_nodup_flatMap hnodup hsecond hlaunch
      (List.mem_map.mpr ⟨found, hfound, hid⟩) (List.mem_map_of_mem hinstance)))

/-- What `get_instances_in_role` returns. -/
theorem getInstancesInRole_eq_ok {role : Text} {stateFilter : Option InstanceState}
    {found : List Instance} : getInstancesInRole name role stateFilter account = .ok found ↔
      IsRoleName role ∧
        found = getInstances (roleGroup name role) stateFilter account.reservations := by
  constructor
  · intro hfound
    obtain ⟨_, hcheck, hfound⟩ := ok_of_bind hfound
    obtain ⟨groupName, hname, hfound⟩ := ok_of_bind hfound
    cases hfound
    obtain ⟨-, rfl⟩ := groupNameForRole_of_ok hname
    exact ⟨hcheck, rfl⟩
  · rintro ⟨hrole, rfl⟩
    have hcheck : checkRoleName role = .ok () := hrole
    rw [getInstancesInRole, groupNameForRole, hcheck]
    rfl

/-- `get_instances_in_role` finds instances of another cluster when that one is called like the
role's group. -/
theorem role_leaves_iff (hdistinct : name ≠ other) (hlabelled : Labelled account) :
    (∀ role stateFilter found, getInstancesInRole name role stateFilter account = .ok found →
      ∀ instance_ ∈ found, ¬ LaunchedOnlyFor other instance_.id account) ↔
    ∀ role, IsRoleName role → other = roleGroup name role →
      ∀ launch ∈ account.launches, launch.launchedFor = other →
        launch.reservation.instances = [] := by
  constructor
  · intro hleaves role hrole hother launch hlaunch hfor
    apply List.eq_nil_iff_forall_not_mem.mpr
    intro instance_ hinstance
    have hgroup : NamesGroup (roleGroup name role) launch.reservation.groups :=
      (namesGroup_iff hlabelled hlaunch _).mpr (Or.inl (hother.symm.trans hfor.symm))
    exact hleaves role none _ (getInstancesInRole_eq_ok.mpr ⟨hrole, rfl⟩) instance_
      (mem_getInstances_reservations.mpr ⟨launch, hlaunch, hgroup, hinstance, by simp⟩)
      ((launchedOnlyFor_iff hlaunch hinstance).mpr hfor)
  · intro hapart role stateFilter found hfound instance_ hmem honly
    obtain ⟨hrole, rfl⟩ := getInstancesInRole_eq_ok.mp hfound
    obtain ⟨launch, hlaunch, hgroup, hinstance, -⟩ := mem_getInstances_reservations.mp hmem
    have hfor := (launchedOnlyFor_iff hlaunch hinstance).mp honly
    rcases (namesGroup_iff hlabelled hlaunch _).mp hgroup with hname | ⟨launched, hlaunched, hname⟩
    · rw [hapart role hrole (hname.trans hfor).symm launch hlaunch hfor] at hinstance
      exact List.not_mem_nil hinstance
    · have hroles := (hlabelled.launch launch hlaunch).1
      exact hdistinct ((roleGroup_inj hrole (hroles launched hlaunched) hname).1.trans hfor)

/-- `terminate` finds instances of another cluster when the cluster is called like the group of one
of their roles. -/
theorem terminate_leaves_iff (hdistinct : name ≠ other) (hlabelled : Labelled account) :
    (∀ instance_ ∈ instancesToTerminate name account,
      ¬ LaunchedOnlyFor other instance_.id account) ↔
    ∀ launch ∈ account.launches, launch.launchedFor = other →
      ∀ role ∈ launch.roles, name = roleGroup other role →
        ∀ instance_ ∈ launch.reservation.instances, instance_.state ≠ .running := by
  constructor
  · intro hleaves launch hlaunch hfor role hrole hname instance_ hinstance hrunning
    have hgroup : NamesGroup name launch.reservation.groups :=
      (namesGroup_iff hlabelled hlaunch _).mpr (Or.inr ⟨role, hrole, by rw [hfor, hname]⟩)
    exact hleaves instance_ (mem_getInstances_reservations.mpr
      ⟨launch, hlaunch, hgroup, hinstance, by simpa using hrunning⟩)
      ((launchedOnlyFor_iff hlaunch hinstance).mpr hfor)
  · intro hapart instance_ hmem honly
    obtain ⟨launch, hlaunch, hgroup, hinstance, hstate⟩ := mem_getInstances_reservations.mp hmem
    have hfor := (launchedOnlyFor_iff hlaunch hinstance).mp honly
    rcases (namesGroup_iff hlabelled hlaunch _).mp hgroup with hname | ⟨role, hrole, hname⟩
    · exact hdistinct (hname.trans hfor)
    · rw [hfor] at hname
      exact hapart launch hlaunch hfor role hrole hname instance_ hinstance (hstate _ rfl)

/-! ### Deletion -/

/-- The groups that `delete` deletes, unless EC2 refuses. -/
theorem getAllGroupNamesForCluster_of_ok {groupNames : List Text}
    (hnames : getAllGroupNamesForCluster python name account = .ok groupNames) (groupName : Text) :
    groupName ∈ groupNames ↔ name ∈ getAllGroupNames account ∧
      groupName ∈ getAllGroupNames account ∧ Covers python name groupName := by
  rw [covers_iff]
  unfold getAllGroupNamesForCluster at hnames
  split_ifs at hnames with hmem
  · cases hcompile : compileClusterPattern python name with
    | none =>
      rw [hcompile] at hnames
      cases hnames
    | some matches_ =>
      rw [hcompile] at hnames
      cases hnames
      simp [hmem]
  · cases hnames
    simp [hmem]

/-- A group whose name is not deleted stays. -/
theorem keeps_deleteSecurityGroup (refuses : Text → Bool) {group : SecurityGroup}
    {groupName : Text} (hname : group.name ≠ groupName) :
    Py.Keeps (fun account ↦ group ∈ account.groups.rows)
      (deleteSecurityGroup refuses groupName) := by
  unfold deleteSecurityGroup
  split_ifs
  · exact Py.keeps_raise _ _
  · intro account hgroup
    exact (Table.mem_delete _ _ _).mpr ⟨hgroup, by simpa using hname⟩

/-- When EC2 refuses nothing, the groups with the names are deleted. -/
theorem rows_forEach_deleteSecurityGroup (groupNames : List Text) (account : SharedAccount) :
    (Py.forEach groupNames (deleteSecurityGroup fun _ ↦ false) account).2.groups.rows =
      account.groups.rows.filter (·.name ∉ groupNames) := by
  induction groupNames generalizing account with
  | nil => simp
  | cons groupName rest ih =>
    have hfirst : deleteSecurityGroup (fun _ ↦ false) groupName account =
        (.ok (), { account with groups := account.groups.delete (·.name = groupName) }) := rfl
    rw [Py.forEach_cons, Py.run_bind_ok hfirst, ih]
    simp only [Table.delete, List.filter_filter]
    apply List.filter_congr
    intro group _
    simp [not_or, Bool.and_comm]

/-- `delete` deletes a group of another cluster when the cluster has a group and its pattern matches
that one. -/
theorem delete_leaves_iff :
    (∀ refuses, ∀ group ∈ account.groups.rows, group.createdFor = other →
      group ∈ (deleteCluster python refuses name account).2.groups.rows) ↔
    (name ∈ getAllGroupNames account → ∀ group ∈ account.groups.rows,
      group.createdFor = other → ¬ Covers python name group.name) := by
  have hlisted {group : SecurityGroup} (hgroup : group ∈ account.groups.rows) :
      group.name ∈ getAllGroupNames account := List.mem_map_of_mem hgroup
  constructor
  · intro hleaves hexists group hgroup hfor hcovers
    obtain ⟨matches_, hcompile, hmatches⟩ := covers_iff.mp hcovers
    have hnames : getAllGroupNamesForCluster python name account =
        .ok ((getAllGroupNames account).filter matches_) := by
      rw [getAllGroupNamesForCluster, if_pos hexists, hcompile]
    have hstays := hleaves (fun _ ↦ false) group hgroup hfor
    rw [deleteCluster, Py.bind_eq, Py.run_bind_ok (Py.run_get _), Py.bind_eq, hnames,
      Py.run_bind_ok (Py.run_ofExcept _ _), rows_forEach_deleteSecurityGroup] at hstays
    simpa [hlisted hgroup, hmatches] using (List.mem_filter.mp hstays).2
  · intro hapart refuses group hgroup hfor
    rw [deleteCluster, Py.bind_eq, Py.run_bind_ok (Py.run_get _), Py.bind_eq]
    have hkeeps : Py.Keeps (fun account ↦ group ∈ account.groups.rows)
        (Py.bind (Py.ofExcept (getAllGroupNamesForCluster python name account))
          fun groupNames ↦ Py.forEach groupNames (deleteSecurityGroup refuses)) := by
      apply Py.keeps_ofExcept_bind
      intro groupNames hnames
      apply Py.keeps_forEach
      intro groupName hmem
      apply keeps_deleteSecurityGroup
      rintro rfl
      obtain ⟨hexists, -, hcovers⟩ := (getAllGroupNamesForCluster_of_ok hnames _).mp hmem
      exact hapart hexists group hgroup hfor hcovers
    exact hkeeps account hgroup

/-- The operations on a cluster leave another one alone exactly when their names are apart. -/
theorem leavesOther_iff_namesApart (hdistinct : name ≠ other) (hlabelled : Labelled account) :
    LeavesOther python name other account ↔ NamesApart python name other account := by
  constructor
  · rintro ⟨hrole, hterminate, hdelete⟩
    exact ⟨(role_leaves_iff hdistinct hlabelled).mp hrole,
      (terminate_leaves_iff hdistinct hlabelled).mp hterminate, delete_leaves_iff.mp hdelete⟩
  · rintro ⟨hrole, hterminate, hdelete⟩
    exact ⟨(role_leaves_iff hdistinct hlabelled).mpr hrole,
      (terminate_leaves_iff hdistinct hlabelled).mpr hterminate, delete_leaves_iff.mpr hdelete⟩

/-! ### Unrelated names -/

/-- The name has no special character, and neither name is the other's with a role or with a newline
behind it. -/
structure Unrelated (name other : Text) : Prop where
  plain : ∀ c ∈ name, c ∉ specialChars
  roleOf : ∀ role, IsRoleName role → other ≠ roleGroup name role
  roleOfOther : ∀ role, IsRoleName role → name ≠ roleGroup other role
  newline : other ≠ name ++ ['\n']

/-- A role's group with a newline at its end is the group of a role, with a newline. -/
theorem roleGroup_eq_newline {role : Text} (hrole : IsRoleName role)
    (hname : roleGroup other role = name ++ ['\n']) :
    ∃ word, IsRoleName word ∧ name = roleGroup other word := by
  obtain ⟨word, hword, hcases⟩ := isRoleName_iff.mp hrole
  obtain ⟨hsome, hall⟩ := mem_language_roleRegex.mp hword
  rcases hcases with rfl | rfl
  · have hlast : role.getLast hsome = '\n' := by
      have hends := congrArg List.getLast? hname
      rw [roleGroup, List.getLast?_append_of_ne_nil _ (List.cons_ne_nil _ _),
        List.getLast?_cons_of_ne_nil hsome, List.getLast?_append_of_ne_nil _ (by simp)] at hends
      simpa [List.getLast?_eq_some_getLast hsome] using hends
    exact absurd (hall _ (List.getLast_mem hsome)) (by rw [hlast]; decide)
  · refine ⟨word, isRoleName_iff.mpr ⟨word, hword, Or.inl rfl⟩, ?_⟩
    rw [roleGroup, ← List.cons_append, ← List.append_assoc] at hname
    exact (List.append_cancel_right hname).symm

/-- Unrelated names are apart in every account. -/
theorem namesApart_of_unrelated (hdistinct : name ≠ other) (hunrelated : Unrelated name other)
    (hlabelled : Labelled account) : NamesApart python name other account where
  role role hrole hother := absurd hother (hunrelated.roleOf role hrole)
  terminate launch hlaunch _ role hrole hname :=
    absurd hname (hunrelated.roleOfOther role ((hlabelled.launch launch hlaunch).1 role hrole))
  delete _ group hgroup hfor := by
    rw [covers_of_plain hunrelated.plain]
    rcases hlabelled.group group hgroup with hname | ⟨role, hrole, hname⟩
    · rw [hname, hfor]
      rintro (hsame | hnewline | ⟨role, hrole, hother⟩)
      · exact hdistinct hsame.symm
      · exact hunrelated.newline hnewline
      · exact hunrelated.roleOf role hrole hother
    · rw [hname, hfor]
      rintro (hsame | hnewline | ⟨word, hword, hother⟩)
      · exact hunrelated.roleOfOther role hrole hsame.symm
      · obtain ⟨word, hword, hother⟩ := roleGroup_eq_newline hrole hnewline
        exact hunrelated.roleOfOther word hword hother
      · exact hdistinct (roleGroup_inj hword hrole hother.symm).1

end Reach

/-- After any launches and changes of state, the operations on a cluster leave one with an unrelated
name alone. -/
theorem leavesOther_of_unrelated (python : PythonRe) {name other : Text} (hdistinct : name ≠ other)
    (hunrelated : Unrelated name other) (events : List ClusterEvent) :
    LeavesOther python name other (accountAfter events) := by
  have hlabelled := labelled_accountAfter events
  apply (leavesOther_iff_namesApart hdistinct hlabelled).mpr
  exact namesApart_of_unrelated hdistinct hunrelated hlabelled

/-- After any launches and changes of state, the operations on a cluster leave another one alone
exactly when their names are apart. -/
theorem leavesOther_iff (python : PythonRe) {name other : Text} (hdistinct : name ≠ other)
    (events : List ClusterEvent) :
    LeavesOther python name other (accountAfter events) ↔
      NamesApart python name other (accountAfter events) :=
  leavesOther_iff_namesApart hdistinct (labelled_accountAfter events)

/-- A launch of one running instance as data node and task tracker of the cluster `hadoop`. -/
def slaveLaunch : List ClusterEvent :=
  [.launch "hadoop".toList ["dn".toList, "tt".toList]
    (some [clusterInstance "i-1".toList .running])]

/-- The operations on a cluster `zoo` leave it alone. -/
theorem leavesOther_iff_slaveLaunch :
    LeavesOther (fun _ ↦ none) "zoo".toList "hadoop".toList (accountAfter slaveLaunch) := by
  have hdash (name role : Text) : '-' ∈ roleGroup name role :=
    List.mem_append_right _ List.mem_cons_self
  apply (leavesOther_iff (fun _ ↦ none) (by decide) slaveLaunch).mpr
  apply namesApart_of_unrelated (by decide) _ (labelled_accountAfter slaveLaunch)
  constructor
  · decide
  · rintro role - hother
    exact absurd (hother ▸ hdash _ role) (by decide)
  · rintro role - hname
    exact absurd (hname ▸ hdash _ role) (by decide)
  · decide

/-- `terminate` on a cluster `hadoop-dn` finds the instance of `hadoop`. -/
theorem roleOfOther_terminated : "hadoop-dn".toList ≠ "hadoop".toList ∧
    ¬ LeavesOther (fun _ ↦ none) "hadoop-dn".toList "hadoop".toList (accountAfter slaveLaunch) := by
  refine ⟨by decide, fun hleaves ↦ ?_⟩
  have hfound : clusterInstance "i-1".toList .running ∈
      instancesToTerminate "hadoop-dn".toList (accountAfter slaveLaunch) := by
    decide +kernel
  have hlaunch : ∃ launch ∈ (accountAfter slaveLaunch).launches,
      launch.launchedFor = "hadoop".toList ∧
        clusterInstance "i-1".toList .running ∈ launch.reservation.instances := by
    decide +kernel
  obtain ⟨launch, hlaunch, hfor, hinstance⟩ := hlaunch
  exact hleaves.terminate _ hfound ((launchedOnlyFor_iff hlaunch hinstance).mpr hfor)

end Ec2Wrappers.HadoopCloud
