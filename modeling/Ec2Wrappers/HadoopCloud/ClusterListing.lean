import Ec2Wrappers.HadoopCloud.ClusterGroups

/-!
# The listing of clusters

`get_clusters_with_role` of `hadoop/cloud/providers/ec2.py` and the one of `cs61cec2.py`, which also
asks for a key name that starts with the user name. Both look at the first instance of a reservation
only, although a reservation can have instances in any mix of states, and `cs61cec2.py` compares the
key name of an instance launched with no key.

So the listing says which clusters of the user run (`ListsExactly`) only when every reservation has
an instance and a key name, and each group of a reservation with a running instance is also a group
of one whose first instance runs (`listsExactly_iff`).
-/

set_option autoImplicit false
set_option relaxedAutoImplicit false

namespace Ec2Wrappers.HadoopCloud

open Foundations Aws

/-- `re.sub("%s$" % literal, "", text)` for a literal of two characters or more, which stands for
itself. The `$` is the end of the text, or just before a newline there. -/
def removeAtEnd (literal : Text) : Text → Text
  | [] => []
  | c :: rest =>
    if c :: rest = literal then []
    else if c :: rest = literal ++ ['\n'] then ['\n']
    else c :: removeAtEnd literal rest

/-- The clusters that the groups of a reservation name, when its representative is in the state. -/
def clustersOfGroups (role : Text) (state : InstanceState) (representative : Instance)
    (groups : List InstanceGroup) : List Text :=
  groups.filterMap fun group ↦
    if ('-' :: role).isSuffixOf group.id ∧ representative.state = state then
      some (removeAtEnd ('-' :: role) group.id)
    else none

/-- `res.instances[0]`. -/
def firstInstance (reservation : Reservation) : Except PyError Instance :=
  match reservation.instances with
  | [] => .error .indexError
  | first :: _ => .ok first

/-- The loop of both functions, with the test that a representative has to pass. -/
def clustersWithRole (passes : Instance → Except PyError Bool) (role : Text)
    (state : InstanceState) : List Reservation → Except PyError (List Text)
  | [] => .ok []
  | reservation :: rest => do
    let representative ← firstInstance reservation
    let passed ← passes representative
    let clusters := if passed then
        clustersOfGroups role state representative reservation.groups
      else []
    let others ← clustersWithRole passes role state rest
    return clusters ++ others

/-- `Ec2Cluster.get_clusters_with_role`. -/
def getClustersWithRole (role : Text) (state : InstanceState) (allInstances : List Reservation) :
    Except PyError (List Text) :=
  clustersWithRole (fun _ ↦ .ok true) role state allInstances

/-- `instance.key_name.startswith(username)`. -/
def keyNameStartsWith (username : Text) (instance_ : Instance) : Except PyError Bool :=
  match instance_.keyName with
  | some keyName => .ok (username.isPrefixOf keyName)
  | none => .error (.attributeError "startswith".toList)

/-- `CS61CEc2Cluster.get_clusters_with_role`. -/
def userClustersWithRole (username role : Text) (state : InstanceState)
    (allInstances : List Reservation) : Except PyError (List Text) :=
  clustersWithRole (keyNameStartsWith username) role state allInstances

/-! ### What a listing says -/

/-- The key name of the reservation starts with the user name. -/
def Reservation.IsOf (reservation : Reservation) (username : Text) : Prop :=
  ∃ instance_ ∈ reservation.instances, instance_.keyStartsWith username = true

/-- Some instance of the reservation is running. -/
def Reservation.Runs (reservation : Reservation) : Prop :=
  ∃ instance_ ∈ reservation.instances, instance_.state = .running

/-- The first instance of the reservation is running. -/
def Reservation.FirstRuns (reservation : Reservation) : Prop :=
  ∃ first ∈ reservation.instances.head?, first.state = .running

/-- The user has a running instance in the role of the cluster. -/
def RunsCluster (username role name : Text) (reservations : List Reservation) : Prop :=
  ∃ reservation ∈ reservations, ⟨roleGroup name role⟩ ∈ reservation.groups ∧
    Reservation.IsOf reservation username ∧ Reservation.Runs reservation

/-- The call returns the clusters that the user runs. -/
def ListsExactly (username role : Text) (reservations : List Reservation) : Prop :=
  ∃ clusters, userClustersWithRole username role .running reservations = .ok clusters ∧
    ∀ name, name ∈ clusters ↔ RunsCluster username role name reservations

/-- The instances of a reservation share their key name. -/
def SharesKey (reservation : Reservation) : Prop :=
  ∀ instance_ ∈ reservation.instances, ∀ other ∈ reservation.instances,
    instance_.keyName = other.keyName

instance (reservation : Reservation) : Decidable (SharesKey reservation) :=
  inferInstanceAs (Decidable (∀ _ ∈ _, ∀ _ ∈ _, _ = _))

/-- The first instances tell what runs. -/
structure FirstsTell (username role : Text) (reservations : List Reservation) : Prop where
  nonempty : ∀ reservation ∈ reservations, reservation.instances ≠ []
  keyed : ∀ reservation ∈ reservations, ∀ instance_ ∈ reservation.instances,
    instance_.keyName ≠ none
  covered : ∀ reservation ∈ reservations, Reservation.IsOf reservation username →
    Reservation.Runs reservation → ∀ group ∈ reservation.groups, '-' :: role <:+ group.id →
      ∃ other ∈ reservations, group ∈ other.groups ∧ Reservation.IsOf other username ∧
        Reservation.FirstRuns other

/-! ### The names of clusters -/

/-- A role is not empty. -/
theorem ne_nil_of_isRoleName {role : Text} (hrole : IsRoleName role) : role ≠ [] := by
  obtain ⟨word, hmem, hrole⟩ := isRoleName_iff.mp hrole
  have hword : word ≠ [] := (mem_language_roleRegex.mp hmem).1
  rcases hrole with rfl | rfl
  · exact hword
  · simp

/-- Without the role, a role's group is the name of its cluster. -/
theorem removeAtEnd_roleGroup {role : Text} (hrole : IsRoleName role) (name : Text) :
    removeAtEnd ('-' :: role) (roleGroup name role) = name := by
  unfold roleGroup
  induction name with
  | nil => exact if_pos rfl
  | cons c name ih =>
    have hlonger : c :: (name ++ '-' :: role) ≠ '-' :: role := by
      intro hsame
      have hlength := congrArg List.length hsame
      simp at hlength
      omega
    -- the role would go on with a dash
    have hnewline : c :: (name ++ '-' :: role) ≠ '-' :: role ++ ['\n'] := by
      intro hsame
      obtain ⟨-, htail⟩ := List.cons_eq_cons.mp hsame
      have hlength := congrArg List.length htail
      obtain rfl : name = [] := by simpa using hlength
      obtain ⟨first, others, rfl⟩ := List.exists_cons_of_ne_nil (ne_nil_of_isRoleName hrole)
      obtain ⟨rfl, -⟩ := List.cons_eq_cons.mp htail
      exact dash_not_mem hrole List.mem_cons_self
    rw [List.cons_append, removeAtEnd, if_neg hlonger, if_neg hnewline, ih]

/-- The clusters named are those whose role's group is there. -/
theorem mem_clustersOfGroups {role : Text} (hrole : IsRoleName role) {state : InstanceState}
    {representative : Instance} {groups : List InstanceGroup} {name : Text} :
    name ∈ clustersOfGroups role state representative groups ↔
      ⟨roleGroup name role⟩ ∈ groups ∧ representative.state = state := by
  simp only [clustersOfGroups, List.mem_filterMap, List.isSuffixOf_iff_suffix]
  constructor
  · rintro ⟨⟨_⟩, hgroup, hname⟩
    split_ifs at hname with hstate
    obtain ⟨⟨cluster, rfl⟩, hstate⟩ := hstate
    rw [show cluster ++ '-' :: role = roleGroup cluster role from rfl,
      removeAtEnd_roleGroup hrole] at hname
    cases hname
    exact ⟨hgroup, hstate⟩
  · rintro ⟨hgroup, hstate⟩
    refine ⟨_, hgroup, ?_⟩
    rw [if_pos ⟨List.suffix_append name _, hstate⟩, removeAtEnd_roleGroup hrole]

/-! ### The loop -/

section Loop

variable {passes : Instance → Except PyError Bool} {role : Text} {state : InstanceState}

/-- The representative is the first instance, and it passes or fails the test. -/
def TestedAs (passes : Instance → Except PyError Bool) (reservation : Reservation)
    (representative : Instance) (passed : Bool) : Prop :=
  reservation.instances.head? = some representative ∧ passes representative = .ok passed

/-- The first instance is there when the list of instances has a head. -/
theorem firstInstance_eq_ok {reservation : Reservation} {first : Instance} :
    firstInstance reservation = .ok first ↔ reservation.instances.head? = some first := by
  unfold firstInstance
  cases reservation.instances <;> simp

/-- One pass that returned has tested the first instance. -/
theorem clustersWithRole_cons_ok {reservation : Reservation} {rest : List Reservation}
    {clusters : List Text}
    (hok : clustersWithRole passes role state (reservation :: rest) = .ok clusters) :
    ∃ representative passed others, TestedAs passes reservation representative passed ∧
      clustersWithRole passes role state rest = .ok others ∧
      clusters = (if passed then clustersOfGroups role state representative reservation.groups
        else []) ++ others := by
  unfold clustersWithRole at hok
  obtain ⟨representative, hfirst, hok⟩ := ok_of_bind hok
  obtain ⟨passed, hpassed, hok⟩ := ok_of_bind hok
  obtain ⟨others, hothers, hok⟩ := ok_of_bind hok
  cases hok
  exact ⟨representative, passed, others, ⟨firstInstance_eq_ok.mp hfirst, hpassed⟩, hothers, rfl⟩

/-- One pass returns when the first instance can be tested. -/
theorem clustersWithRole_cons {reservation : Reservation} {rest : List Reservation}
    {representative : Instance} {passed : Bool} {others : List Text}
    (htested : TestedAs passes reservation representative passed)
    (hothers : clustersWithRole passes role state rest = .ok others) :
    clustersWithRole passes role state (reservation :: rest) =
      .ok ((if passed then clustersOfGroups role state representative reservation.groups
        else []) ++ others) := by
  obtain ⟨hfirst, hpassed⟩ := htested
  rw [clustersWithRole, firstInstance_eq_ok.mpr hfirst, hothers]
  simp only [bind, Except.bind, hpassed]
  rfl

/-- The loop returns exactly when every first instance can be tested. -/
theorem clustersWithRole_returns_iff {reservations : List Reservation} :
    (∃ clusters, clustersWithRole passes role state reservations = .ok clusters) ↔
      ∀ reservation ∈ reservations, ∃ representative passed,
        TestedAs passes reservation representative passed := by
  induction reservations with
  | nil => exact ⟨fun _ _ hmem ↦ absurd hmem List.not_mem_nil, fun _ ↦ ⟨[], rfl⟩⟩
  | cons reservation rest ih =>
    rw [List.forall_mem_cons, ← ih]
    constructor
    · rintro ⟨clusters, hok⟩
      obtain ⟨representative, passed, others, htested, hothers, -⟩ := clustersWithRole_cons_ok hok
      exact ⟨⟨representative, passed, htested⟩, others, hothers⟩
    · rintro ⟨⟨representative, passed, htested⟩, others, hothers⟩
      exact ⟨_, clustersWithRole_cons htested hothers⟩

/-- The clusters listed are those of the reservations whose first instance passes. -/
theorem mem_clustersWithRole (hrole : IsRoleName role) {reservations : List Reservation}
    {clusters : List Text}
    (hok : clustersWithRole passes role state reservations = .ok clusters) {name : Text} :
    name ∈ clusters ↔ ∃ reservation ∈ reservations, ⟨roleGroup name role⟩ ∈ reservation.groups ∧
      ∃ representative, TestedAs passes reservation representative true ∧
        representative.state = state := by
  induction reservations generalizing clusters with
  | nil =>
    cases hok
    simp
  | cons reservation rest ih =>
    obtain ⟨representative, passed, others, htested, hothers, rfl⟩ := clustersWithRole_cons_ok hok
    have honly {other : Instance} {result : Bool}
        (hother : TestedAs passes reservation other result) :
        other = representative ∧ result = passed := by
      obtain rfl := Option.some.inj (hother.1.symm.trans htested.1)
      exact ⟨rfl, Except.ok.inj (hother.2.symm.trans htested.2)⟩
    have hhere : name ∈ (if passed then clustersOfGroups role state representative
        reservation.groups else []) ↔ ⟨roleGroup name role⟩ ∈ reservation.groups ∧
          ∃ representative, TestedAs passes reservation representative true ∧
            representative.state = state := by
      cases passed with
      | true =>
        rw [if_pos rfl, mem_clustersOfGroups hrole]
        refine and_congr_right fun _ ↦ ⟨fun hstate ↦ ⟨_, htested, hstate⟩, ?_⟩
        rintro ⟨other, hother, hstate⟩
        exact (honly hother).1 ▸ hstate
      | false =>
        refine iff_of_false List.not_mem_nil ?_
        rintro ⟨-, other, hother, -⟩
        exact Bool.noConfusion (honly hother).2
    rw [List.mem_append, hhere, ih hothers, List.exists_mem_cons_iff]

/-- The function of all of EC2 does not fail on an instance launched with no key. -/
theorem getClustersWithRole_returns_iff {reservations : List Reservation} :
    (∃ clusters, getClustersWithRole role state reservations = .ok clusters) ↔
      ∀ reservation ∈ reservations, reservation.instances ≠ [] := by
  refine clustersWithRole_returns_iff.trans (forall₂_congr fun reservation _ ↦ ?_)
  constructor
  · rintro ⟨representative, passed, hfirst, -⟩
    exact List.ne_nil_of_mem (List.mem_of_head? hfirst)
  · intro hnonempty
    exact ⟨_, true, List.head?_eq_some_head hnonempty, rfl⟩

end Loop

/-! ### The clusters of a user -/

/-- The first instance can be tested exactly when there is one and it has a key name. -/
theorem exists_testedAs_iff {username : Text} {reservation : Reservation}
    (hshares : SharesKey reservation) :
    (∃ representative passed, TestedAs (keyNameStartsWith username) reservation representative
      passed) ↔ reservation.instances ≠ [] ∧
        ∀ instance_ ∈ reservation.instances, instance_.keyName ≠ none := by
  constructor
  · rintro ⟨representative, passed, hfirst, hpassed⟩
    have hmem : representative ∈ reservation.instances := List.mem_of_head? hfirst
    refine ⟨List.ne_nil_of_mem hmem, fun instance_ hinstance hnone ↦ ?_⟩
    rw [keyNameStartsWith, ← hshares instance_ hinstance representative hmem, hnone] at hpassed
    cases hpassed
  · rintro ⟨hnonempty, hkeyed⟩
    obtain ⟨first, others, hinstances⟩ := List.exists_cons_of_ne_nil hnonempty
    obtain ⟨keyName, hkey⟩ := Option.ne_none_iff_exists'.mp
      (hkeyed first (hinstances ▸ List.mem_cons_self))
    refine ⟨first, username.isPrefixOf keyName, by rw [hinstances, List.head?_cons], ?_⟩
    rw [keyNameStartsWith, hkey]

/-- The first instance passes in the running state exactly when it runs and the reservation is the
user's. -/
theorem exists_running_representative_iff {username : Text} {reservation : Reservation}
    (hshares : SharesKey reservation) :
    (∃ representative, TestedAs (keyNameStartsWith username) reservation representative true ∧
      representative.state = .running) ↔
        Reservation.IsOf reservation username ∧ Reservation.FirstRuns reservation := by
  have hpasses (instance_ : Instance) : keyNameStartsWith username instance_ = .ok true ↔
      instance_.keyStartsWith username = true := by
    unfold keyNameStartsWith Instance.keyStartsWith
    cases instance_.keyName <;> simp
  constructor
  · rintro ⟨representative, ⟨hfirst, hpassed⟩, hruns⟩
    exact ⟨⟨representative, List.mem_of_head? hfirst, (hpasses _).mp hpassed⟩,
      representative, hfirst, hruns⟩
  · rintro ⟨⟨instance_, hinstance, hstarts⟩, first, hfirst, hruns⟩
    refine ⟨first, ⟨hfirst, (hpasses first).mpr ?_⟩, hruns⟩
    rw [Instance.keyStartsWith,
      hshares first (List.mem_of_head? hfirst) instance_ hinstance]
    exact hstarts

/-- The listing is complete and sound exactly when the first instances tell what runs. -/
theorem listsExactly_iff {username role : Text} {reservations : List Reservation}
    (hrole : IsRoleName role) (hshares : ∀ reservation ∈ reservations, SharesKey reservation) :
    ListsExactly username role reservations ↔ FirstsTell username role reservations := by
  have hreturns : (∃ clusters, userClustersWithRole username role .running reservations =
      .ok clusters) ↔ ∀ reservation ∈ reservations, reservation.instances ≠ [] ∧
        ∀ instance_ ∈ reservation.instances, instance_.keyName ≠ none :=
    clustersWithRole_returns_iff.trans
      (forall₂_congr fun reservation hmem ↦ exists_testedAs_iff (hshares reservation hmem))
  have hlisted {clusters : List Text}
      (hok : userClustersWithRole username role .running reservations = .ok clusters)
      (name : Text) : name ∈ clusters ↔ ∃ reservation ∈ reservations,
        ⟨roleGroup name role⟩ ∈ reservation.groups ∧ Reservation.IsOf reservation username ∧
          Reservation.FirstRuns reservation := by
    rw [mem_clustersWithRole hrole hok]
    refine exists_congr fun reservation ↦ and_congr_right fun hmem ↦ and_congr_right fun _ ↦ ?_
    exact exists_running_representative_iff (hshares reservation hmem)
  constructor
  · rintro ⟨clusters, hok, hexact⟩
    have hall := hreturns.mp ⟨clusters, hok⟩
    refine ⟨fun reservation hmem ↦ (hall reservation hmem).1,
      fun reservation hmem ↦ (hall reservation hmem).2, ?_⟩
    rintro reservation hmem hof hruns ⟨_⟩ hgroup ⟨name, rfl⟩
    exact (hlisted hok name).mp ((hexact name).mpr ⟨reservation, hmem, hgroup, hof, hruns⟩)
  · rintro ⟨hnonempty, hkeyed, hcovered⟩
    obtain ⟨clusters, hok⟩ := hreturns.mpr fun reservation hmem ↦
      ⟨hnonempty reservation hmem, hkeyed reservation hmem⟩
    refine ⟨clusters, hok, fun name ↦ (hlisted hok name).trans ⟨?_, ?_⟩⟩
    · rintro ⟨reservation, hmem, hgroup, hof, first, hfirst, hruns⟩
      exact ⟨reservation, hmem, hgroup, hof, first, List.mem_of_head? hfirst, hruns⟩
    · rintro ⟨reservation, hmem, hgroup, hof, hruns⟩
      exact hcovered reservation hmem hof hruns _ hgroup (List.suffix_append name _)

/-- Two launches of a namenode; of the first only the second instance still runs. -/
def mixedReservations : List Reservation :=
  [⟨[⟨"c".toList⟩, ⟨"c-nn".toList⟩],
      [⟨"i-1".toList, "m1.large".toList, some "cs61c-aa-default".toList, .terminated, 0, none⟩,
        ⟨"i-2".toList, "m1.large".toList, some "cs61c-aa-default".toList, .running, 0, none⟩]⟩,
    ⟨[⟨"c".toList⟩, ⟨"c-nn".toList⟩],
      [⟨"i-3".toList, "m1.large".toList, some "cs61c-aa-default".toList, .running, 0, none⟩]⟩]

theorem listsExactly_iff_mixedReservations :
    ListsExactly "cs61c-aa".toList "nn".toList mixedReservations ↔
      FirstsTell "cs61c-aa".toList "nn".toList mixedReservations :=
  listsExactly_iff (show checkRoleName _ = _ by decide +kernel)
    (show ∀ _ ∈ _, _ from by decide +kernel)

/-- The namenode of a cluster, its first instance terminated and its second one running. -/
def halfTerminated : List Reservation :=
  [⟨[⟨"c".toList⟩, ⟨"c-nn".toList⟩],
    [⟨"i-1".toList, "m1.large".toList, some "cs61c-aa-default".toList, .terminated, 0, none⟩,
      ⟨"i-2".toList, "m1.large".toList, some "cs61c-aa-default".toList, .running, 0, none⟩]⟩]

/-- The listing leaves out a cluster whose namenode runs. -/
theorem userClustersWithRole_misses :
    IsRoleName "nn".toList ∧ (∀ reservation ∈ halfTerminated, SharesKey reservation) ∧
      ¬ ListsExactly "cs61c-aa".toList "nn".toList halfTerminated := by
  refine ⟨show checkRoleName _ = _ by decide +kernel, show ∀ _ ∈ _, _ from by decide +kernel, ?_⟩
  rintro ⟨clusters, hok, hexact⟩
  have hnone : userClustersWithRole "cs61c-aa".toList "nn".toList .running halfTerminated =
      .ok [] := by decide +kernel
  rw [hnone] at hok
  cases hok
  refine absurd ((hexact "c".toList).mpr ?_) List.not_mem_nil
  refine ⟨_, List.mem_cons_self, by decide, ⟨_, List.mem_cons_self, by decide⟩, ?_⟩
  exact ⟨_, List.mem_cons_of_mem _ List.mem_cons_self, rfl⟩

end Ec2Wrappers.HadoopCloud
