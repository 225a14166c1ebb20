import Ec2Wrappers.Aws.Ec2
import Mathlib.Data.List.Nodup
import Mathlib.Data.List.Pairwise

/-!
# Terminating a cluster

`CS61CEc2Cluster.terminate` of `cs61cec2.py` with the two lookups it makes, over what EC2 has and
what it has been asked to do. The cluster's name is the name of its security group. An instance is
in a group when its reservation is.

`_get_spot_requests` tests whether the name is among the groups of a launch specification, but these
are `Group` objects and no text equals one, so no request is ever found
(`getSpotRequests_eq_nil`). `_get_instances` is asked for running instances only.

`LeavesNothing` says what a termination is for: every instance of the group that costs money or can
come to cost it has been asked to terminate, every open request for the group has been cancelled,
and nothing else has been touched. That is what happens exactly when the group has no instance that
is pending, stopping or stopped and no open request (`terminate_iff`).
-/

set_option autoImplicit false
set_option relaxedAutoImplicit false

namespace Ec2Wrappers.HadoopCloud

open Foundations Aws

/-! ### The functions -/

/-- What EC2 has, no two instances with the same id, and the ids of the requests and the instances
it has been asked to cancel and to terminate. -/
structure ClusterWorld where
  account : List Reservation
  requests : List SpotInstanceRequest
  cancelled : List Text
  terminated : List Text
  ids_nodup : ((instancesOf account).map Instance.id).Nodup

/-- `Ec2Cluster._get_cluster_group_name`. -/
def getClusterGroupName (name : Text) : Text := name

/-- `CS61CEc2Cluster._get_spot_requests`. -/
def getSpotRequests (cluster : Text) (requests : List SpotInstanceRequest) :
    List SpotInstanceRequest :=
  requests.filter fun request ↦ request.launchSpecification.groups.any (·.eqText cluster)

/-- `Ec2Cluster._get_instances`. -/
def getInstances (groupName : Text) (stateFilter : Option InstanceState)
    (account : List Reservation) : List Instance :=
  account.flatMap fun reservation ↦
    reservation.groups.flatMap fun group ↦
      if group.id = groupName then
        reservation.instances.filter fun instance_ ↦
          stateFilter = none || stateFilter = some instance_.state
      else []

/-- `request.cancel()`. -/
def cancelRequest (request : SpotInstanceRequest) : Py ClusterWorld Unit :=
  Py.modify fun world ↦ { world with cancelled := world.cancelled ++ [request.id] }

/-- `terminate_instances`. -/
def terminateInstances (ids : List Text) : Py ClusterWorld Unit :=
  Py.modify fun world ↦ { world with terminated := world.terminated ++ ids }

/-- `CS61CEc2Cluster.terminate`. -/
def terminate (name : Text) : Py ClusterWorld Unit := do
  let world ← Py.get
  Py.forEach (getSpotRequests (getClusterGroupName name) world.requests) cancelRequest
  let world ← Py.get
  let instances := getInstances (getClusterGroupName name) (some .running) world.account
  if instances ≠ [] then
    terminateInstances (instances.map Instance.id)

/-! ### What a termination is for -/

/-- One of the groups has the name. -/
def NamesGroup (name : Text) (groups : List InstanceGroup) : Prop :=
  ∃ group ∈ groups, group.id = name

instance (name : Text) (groups : List InstanceGroup) : Decidable (NamesGroup name groups) :=
  inferInstanceAs (Decidable (∃ _ ∈ _, _))

/-- The states of an instance that costs money or can come to cost it. -/
def Billable (state : InstanceState) : Prop :=
  state = .pending ∨ state = .running ∨ state = .stopping ∨ state = .stopped

/-- Every billable instance of the group has been asked to terminate and every open request for the
group has been cancelled, and no instance or request outside the group has been touched. -/
def LeavesNothing (name : Text) (world : ClusterWorld) : Prop :=
  (∀ reservation ∈ world.account, ∀ instance_ ∈ reservation.instances,
    (NamesGroup name reservation.groups → Billable instance_.state →
      instance_.id ∈ world.terminated) ∧
    (¬ NamesGroup name reservation.groups → instance_.id ∉ world.terminated)) ∧
  ∀ request ∈ world.requests,
    (NamesGroup name request.launchSpecification.groups → request.state = .opened →
      request.id ∈ world.cancelled) ∧
    (¬ NamesGroup name request.launchSpecification.groups → request.id ∉ world.cancelled)

/-- No instance of the group is pending, stopping or stopped, and no request for it is open. -/
def OnlyRunning (name : Text) (world : ClusterWorld) : Prop :=
  (∀ reservation ∈ world.account, NamesGroup name reservation.groups →
    ∀ instance_ ∈ reservation.instances,
      instance_.state ≠ .pending ∧ instance_.state ≠ .stopping ∧ instance_.state ≠ .stopped) ∧
  ∀ request ∈ world.requests, NamesGroup name request.launchSpecification.groups →
    request.state ≠ .opened

instance (name : Text) (world : ClusterWorld) : Decidable (OnlyRunning name world) :=
  inferInstanceAs (Decidable ((∀ _ ∈ _, _ → ∀ _ ∈ _, _) ∧ ∀ _ ∈ _, _ → _))

/-! ### What the functions find -/

/-- No request is ever found. -/
theorem getSpotRequests_eq_nil (cluster : Text) (requests : List SpotInstanceRequest) :
    getSpotRequests cluster requests = [] := by
  simp [getSpotRequests, InstanceGroup.eqText]

/-- The instances found are those of the group that pass the filter. -/
theorem mem_getInstances_iff {name : Text} {stateFilter : Option InstanceState}
    {account : List Reservation} {instance_ : Instance} :
    instance_ ∈ getInstances name stateFilter account ↔
      ∃ reservation ∈ account, NamesGroup name reservation.groups ∧
        instance_ ∈ reservation.instances ∧ ∀ state ∈ stateFilter, instance_.state = state := by
  simp only [getInstances, List.mem_flatMap, NamesGroup]
  have hpasses : (stateFilter = none || stateFilter = some instance_.state) = true ↔
      ∀ state ∈ stateFilter, instance_.state = state := by
    cases stateFilter with
    | none => simp
    | some state => simp [eq_comm]
  constructor
  · rintro ⟨reservation, hreservation, group, hgroup, hmem⟩
    split_ifs at hmem with hname
    · obtain ⟨hinstance, hstate⟩ := List.mem_filter.mp hmem
      exact ⟨reservation, hreservation, ⟨group, hgroup, hname⟩, hinstance, hpasses.mp hstate⟩
    · simp at hmem
  · rintro ⟨reservation, hreservation, ⟨group, hgroup, hname⟩, hinstance, hstate⟩
    refine ⟨reservation, hreservation, group, hgroup, ?_⟩
    rw [if_pos hname]
    exact List.mem_filter.mpr ⟨hinstance, hpasses.mpr hstate⟩

/-- The instances found are those of the group in the given state. -/
theorem mem_getInstances {name : Text} {state : InstanceState} {account : List Reservation}
    {instance_ : Instance} : instance_ ∈ getInstances name (some state) account ↔
      ∃ reservation ∈ account, NamesGroup name reservation.groups ∧
        instance_ ∈ reservation.instances ∧ instance_.state = state := by
  simp [mem_getInstances_iff]

/-- `terminate` returns, cancels nothing, and asks for the running instances of the group. -/
theorem terminate_eq (name : Text) (world : ClusterWorld) : terminate name world =
    (.ok (), { world with
      terminated := world.terminated ++
        (getInstances name (some .running) world.account).map Instance.id }) := by
  simp only [terminate, Py.bind_eq, Py.run_bind_ok (Py.run_get world), getSpotRequests_eq_nil,
    Py.run_bind_ok (Py.forEach_nil cancelRequest world)]
  by_cases hnone : getInstances name (some .running) world.account = []
  · simp [getClusterGroupName, hnone]
  · simp [getClusterGroupName, hnone, terminateInstances]

/-! ### Exactly when nothing is left -/

/-- What the items of a list yield without repetition is yielded by one item only. -/
theorem eq_of_nodup_flatMap {Item Yield : Type} {yields : Item → List Yield} {items : List Item}
    (hnodup : (items.flatMap yields).Nodup) {first second : Item} (hfirst : first ∈ items)
    (hsecond : second ∈ items) {yielded : Yield} (hleft : yielded ∈ yields first)
    (hright : yielded ∈ yields second) : first = second := by
  by_contra hdifferent
  have hsymm : Std.Symm (Function.onFun List.Disjoint yields) :=
    ⟨fun _ _ hdisjoint _ hleft hright ↦ hdisjoint hright hleft⟩
  have hdisjoint := (List.nodup_flatMap.mp hnodup).2.forall hfirst hsecond hdifferent
  exact hdisjoint hleft hright

section Ids

variable {world : ClusterWorld} {first second : Reservation} {instance_ other : Instance}

/-- Two listed instances with the same id are the same. -/
theorem ClusterWorld.eq_of_id_eq (hfirst : first ∈ world.account)
    (hinstance : instance_ ∈ first.instances) (hsecond : second ∈ world.account)
    (hother : other ∈ second.instances) (hid : instance_.id = other.id) : instance_ = other :=
  List.inj_on_of_nodup_map world.ids_nodup (List.mem_flatMap.mpr ⟨first, hfirst, hinstance⟩)
    (List.mem_flatMap.mpr ⟨second, hsecond, hother⟩) hid

/-- An instance is listed in one reservation only. -/
theorem ClusterWorld.reservation_eq (hfirst : first ∈ world.account)
    (hinstance : instance_ ∈ first.instances) (hsecond : second ∈ world.account)
    (hother : instance_ ∈ second.instances) : first = second :=
  eq_of_nodup_flatMap (List.Nodup.of_map _ world.ids_nodup) hfirst hsecond hinstance hother

end Ids

/-- `terminate` leaves nothing of the cluster that costs money, and touches nothing else, exactly
when the cluster's group has no instance that is pending, stopping or stopped and no open request.
-/
theorem terminate_iff (name : Text) {world : ClusterWorld} (hcancelled : world.cancelled = [])
    (hterminated : world.terminated = []) :
    (∃ after, terminate name world = (.ok (), after) ∧ LeavesNothing name after) ↔
      OnlyRunning name world := by
  rw [terminate_eq, hterminated, List.nil_append]
  have hasked {reservation : Reservation} (hreservation : reservation ∈ world.account)
      {instance_ : Instance} (hinstance : instance_ ∈ reservation.instances) :
      instance_.id ∈ (getInstances name (some .running) world.account).map Instance.id ↔
        NamesGroup name reservation.groups ∧ instance_.state = .running := by
    constructor
    · intro hid
      obtain ⟨found, hfound, hsame⟩ := List.mem_map.mp hid
      obtain ⟨listed, hlisted, hgroup, hmem, hstate⟩ := mem_getInstances.mp hfound
      obtain rfl := world.eq_of_id_eq hlisted hmem hreservation hinstance hsame
      obtain rfl := world.reservation_eq hlisted hmem hreservation hinstance
      exact ⟨hgroup, hstate⟩
    · rintro ⟨hgroup, hstate⟩
      exact List.mem_map.mpr ⟨instance_, mem_getInstances.mpr
        ⟨reservation, hreservation, hgroup, hinstance, hstate⟩, rfl⟩
  constructor
  · rintro ⟨after, hafter, hinstances, hrequests⟩
    cases hafter
    refine ⟨fun reservation hreservation hgroup instance_ hinstance ↦ ?_,
      fun request hrequest hgroup hopen ↦ ?_⟩
    · have hrunning : Billable instance_.state → instance_.state = .running := fun hbillable ↦
        ((hasked hreservation hinstance).mp
          ((hinstances reservation hreservation instance_ hinstance).1 hgroup hbillable)).2
      refine ⟨fun hstate ↦ ?_, fun hstate ↦ ?_, fun hstate ↦ ?_⟩ <;>
        simp [hstate, Billable] at hrunning
    · have hfound := (hrequests request hrequest).1 hgroup hopen
      simp [hcancelled] at hfound
  · rintro ⟨hinstances, hrequests⟩
    refine ⟨_, rfl, fun reservation hreservation instance_ hinstance ↦ ⟨fun hgroup hbillable ↦ ?_,
      fun hgroup hfound ↦ ?_⟩, fun request hrequest ↦ ⟨fun hgroup hopen ↦ ?_, fun _ ↦ ?_⟩⟩
    · obtain ⟨hpending, hstopping, hstopped⟩ :=
        hinstances reservation hreservation hgroup instance_ hinstance
      refine (hasked hreservation hinstance).mpr ⟨hgroup, ?_⟩
      rcases hbillable with hstate | hstate | hstate | hstate
      · exact absurd hstate hpending
      · exact hstate
      · exact absurd hstate hstopping
      · exact absurd hstate hstopped
    · exact hgroup ((hasked hreservation hinstance).mp hfound).1
    · exact absurd hopen (hrequests request hrequest hgroup)
    · simp [hcancelled]

/-- An instance in a state. -/
def clusterInstance (id : Text) (state : InstanceState) : Instance where
  id := id
  instanceType := "m1.large".toList
  keyName := some "cs61c-aa-default".toList
  state := state
  launchTime := 0
  spotInstanceRequestId := none

/-- A cluster with one instance in a state, and an instance of another cluster. -/
def sampleCluster (state : InstanceState) : ClusterWorld where
  account := [⟨[⟨"hadoop".toList⟩], [clusterInstance "i-1".toList state]⟩,
    ⟨[⟨"other".toList⟩], [clusterInstance "i-2".toList .running]⟩]
  requests := []
  cancelled := []
  terminated := []
  ids_nodup := by simp [clusterInstance]

theorem terminate_iff_running :
    ∃ after, terminate "hadoop".toList (sampleCluster .running) = (.ok (), after) ∧
      LeavesNothing "hadoop".toList after :=
  (terminate_iff "hadoop".toList rfl rfl).mpr (by decide +kernel)

/-- A pending instance of the cluster is not asked to terminate. -/
theorem pendingInstance_left : ∃ after,
    terminate "hadoop".toList (sampleCluster .pending) = (.ok (), after) ∧
      after.terminated = [] ∧ ¬ LeavesNothing "hadoop".toList after := by
  refine ⟨_, terminate_eq _ _, rfl, fun hleaves ↦ ?_⟩
  have hasked := (hleaves.1 _ List.mem_cons_self _ List.mem_cons_self).1
    ⟨⟨"hadoop".toList⟩, List.mem_cons_self, rfl⟩ (Or.inl rfl)
  exact absurd hasked (by decide +kernel)

end Ec2Wrappers.HadoopCloud
