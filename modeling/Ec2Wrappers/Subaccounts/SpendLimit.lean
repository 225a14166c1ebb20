import Ec2Wrappers.Foundations.Budget
import Ec2Wrappers.Subaccounts.Quota
import Mathlib.Algebra.BigOperators.Group.List.Basic
import Mathlib.Algebra.Order.BigOperators.Group.List
import Mathlib.Tactic.Linarith

/-!
# The spend limit over whole runs

The account of one user: the reservations of everybody else, the reservations that came from the
user's own calls, and the user's spot requests. A run is a sequence of completed
`User.run_instances` calls, fulfilments of open spot requests at any later moment, and state changes
of instances, terminations among them (`next`).

The check of `run_instances` is made against the quota view, which shows live instances whose key
name starts with the user's name and a dash. An open spot request is not in the view although it
becomes an instance without a further check, and `run_instances` accepts a key name with no dash
after the user's name although the instance it launches is not in the view either
(`spendLimit_exceeded`). `ViewComplete` says that neither has happened: no spot request is open and
the key name of every live instance has the prefix. When every call of a run is made in such a state
the account is a `Budget` that admits each request against everything committed (`move_next`), and
the live instances stay within the limit (`liveCost_le_spendLimit`).
-/

set_option autoImplicit false
set_option relaxedAutoImplicit false

namespace Ec2Wrappers.Subaccounts

open Foundations Aws

/-! ### The account and its steps -/

/-- The account as far as one user's calls go. `others` are the reservations that did not come from
these calls; `launched` and `requests` did. -/
structure Account where
  others : List Reservation
  launched : List Reservation
  requests : List SpotInstanceRequest
  deriving DecidableEq, Repr

/-- What EC2 lists: every instance of the account. -/
def Account.listing (account : Account) : List Reservation := account.others ++ account.launched

/-- A step of a run: a call, with the ids EC2 gives to what it creates and the moment; the
fulfilment of a request, with the id of the new instance and the moment; a state change of an
instance. -/
inductive Action
  | call (info : InstanceInfo) (ids : List Text) (moment : ℚ)
  | fulfil (request newId : Text) (moment : ℚ)
  | changeState (id : Text) (state : InstanceState)
  deriving DecidableEq, Repr

/-- A new instance. -/
def newInstance (keyName : Option Text) (instanceType : Text) (moment : ℚ)
    (spotRequest : Option Text) (id : Text) : Instance where
  id := id
  instanceType := instanceType
  keyName := keyName
  state := .pending
  launchTime := moment
  spotInstanceRequestId := spotRequest

/-- A new spot request. -/
def newRequest (keyName instanceType : Text) (groups : List InstanceGroup)
    (moment : ℚ) (id : Text) : SpotInstanceRequest where
  id := id
  state := .opened
  createTime := moment
  launchSpecification := ⟨some keyName, instanceType, groups⟩

/-- EC2 carries out a call: as many instances, or open requests, as the count says, one for each id.
There is no such step for another number of ids. -/
def Account.launch (account : Account) (ids : List Text) (moment : ℚ) :
    LaunchCall → Option Account
  | .runInstances _ _ maxCount keyName securityGroups _ instanceType _ =>
    if maxCount = .number (.int ids.length) then
      let reservation : Reservation :=
        ⟨securityGroups.map InstanceGroup.mk,
          ids.map (newInstance keyName instanceType moment none)⟩
      some { account with launched := account.launched ++ [reservation] }
    else none
  | .requestSpotInstances _ _ count keyName securityGroups _ instanceType _ =>
    if count = .number (.int ids.length) then
      let opened :=
        ids.map (newRequest keyName instanceType (securityGroups.map InstanceGroup.mk) moment)
      some { account with requests := account.requests ++ opened }
    else none

/-- Take the first open request with an id, and leave it active. -/
def takeOpen (id : Text) :
    List SpotInstanceRequest → Option (SpotInstanceRequest × List SpotInstanceRequest)
  | [] => none
  | request :: rest =>
    if request.id = id ∧ request.state = .opened then
      some (request, { request with state := .active } :: rest)
    else
      (takeOpen id rest).map fun taken ↦ (taken.1, request :: taken.2)

/-- One step of a run. A call that raises asks nothing of EC2. -/
def next (userName : Text) (account : Account) : Action → Option Account
  | .call info ids moment =>
    match runInstances userName account.listing info with
    | .ok call => account.launch ids moment call
    | .error _ => some account
  | .fulfil id newId moment =>
    (takeOpen id account.requests).map fun (request, requests) ↦
      let specification := request.launchSpecification
      let reservation : Reservation := ⟨specification.groups, [newInstance specification.keyName
        specification.instanceType moment (some request.id) newId]⟩
      { account with launched := account.launched ++ [reservation], requests := requests }
  | .changeState id state =>
    some { account with
      others := changeReservations id state account.others
      launched := changeReservations id state account.launched }

/-- The start of a run: whatever others have, and nothing of the user. -/
def Account.start (others : List Reservation) : Account := ⟨others, [], []⟩

/-! ### Costs -/

/-- `INSTANCE_COST` of a type, zero for a type with no price. -/
def price (instanceType : Text) : ℚ :=
  match instanceCostOf instanceType with
  | .ok cost => cost.toRat
  | .error _ => 0

/-- The sum of `INSTANCE_COST` over the instances that are not terminated. -/
def liveCost (reservations : List Reservation) : ℚ :=
  (((instancesOf reservations).filter (·.state ≠ .terminated)).map (price ·.instanceType)).sum

/-- The sum of `INSTANCE_COST` over the open requests. -/
def openCost (requests : List SpotInstanceRequest) : ℚ :=
  ((requests.filter (·.state = .opened)).map (price ·.launchSpecification.instanceType)).sum

theorem price_nonneg (instanceType : Text) : 0 ≤ price instanceType := by
  unfold price
  split
  · exact (instanceCostOf_pos ‹_›).le
  · exact le_refl 0

theorem price_eq {instanceType : Text} {cost : PyNumber}
    (hcost : instanceCostOf instanceType = .ok cost) : price instanceType = cost.toRat := by
  rw [price, hcost]

/-- A sum of prices is nonnegative. -/
theorem sum_price_nonneg {Item : Type} (items : List Item) (typeOf : Item → Text) :
    0 ≤ (items.map fun item ↦ price (typeOf item)).sum := by
  refine List.sum_nonneg fun amount hamount ↦ ?_
  obtain ⟨item, -, rfl⟩ := List.mem_map.mp hamount
  exact price_nonneg (typeOf item)

theorem openCost_nonneg (requests : List SpotInstanceRequest) : 0 ≤ openCost requests :=
  sum_price_nonneg _ _

@[simp] theorem liveCost_append (first second : List Reservation) :
    liveCost (first ++ second) = liveCost first + liveCost second := by
  simp [liveCost]

@[simp] theorem openCost_append (first second : List SpotInstanceRequest) :
    openCost (first ++ second) = openCost first + openCost second := by
  simp [openCost]

/-- The live cost, instance by instance. -/
theorem liveCost_eq_sum (reservations : List Reservation) :
    liveCost reservations = ((instancesOf reservations).map fun instance_ ↦
      if instance_.state ≠ .terminated then price instance_.instanceType else 0).sum := by
  rw [List.sum_map_ite, liveCost]
  simp

/-- The open cost, request by request. -/
theorem openCost_eq_sum (requests : List SpotInstanceRequest) :
    openCost requests = (requests.map fun request ↦
      if request.state = .opened then price request.launchSpecification.instanceType
      else 0).sum := by
  rw [List.sum_map_ite, openCost]
  simp

/-- What a launch of some instances of one type costs. -/
theorem liveCost_new (groups : List InstanceGroup) (keyName : Option Text) (instanceType : Text)
    (moment : ℚ) (spotRequest : Option Text) (ids : List Text) :
    liveCost [⟨groups, ids.map (newInstance keyName instanceType moment spotRequest)⟩] =
      ids.length * price instanceType := by
  rw [liveCost_eq_sum]
  simp [newInstance, Function.comp_def]

/-- What opening some requests of one type reserves. -/
theorem openCost_new (keyName instanceType : Text) (groups : List InstanceGroup) (moment : ℚ)
    (ids : List Text) :
    openCost (ids.map (newRequest keyName instanceType groups moment)) =
      ids.length * price instanceType := by
  rw [openCost_eq_sum]
  simp [newRequest, Function.comp_def]

/-- Taking an open request moves its price out of the open requests. -/
theorem openCost_takeOpen {id : Text} {requests rest : List SpotInstanceRequest}
    {request : SpotInstanceRequest} (htake : takeOpen id requests = some (request, rest)) :
    openCost requests = openCost rest + price request.launchSpecification.instanceType := by
  simp only [openCost_eq_sum]
  induction requests generalizing rest with
  | nil => cases htake
  | cons head tail ih =>
    rw [takeOpen] at htake
    split_ifs at htake with hhead
    · cases htake
      simp [hhead.2, add_comm]
    · obtain ⟨⟨taken, left⟩, htail, htaken⟩ := Option.map_eq_some_iff.mp htake
      cases htaken
      rw [List.map_cons, List.sum_cons, ih htail, List.map_cons, List.sum_cons, add_assoc]

/-- A state change leaves the type of an instance and does not revive a terminated one. -/
theorem changeInstance_price_le (id : Text) (state : InstanceState) (instance_ : Instance) :
    (if (changeInstance id state instance_).state ≠ .terminated then
      price (changeInstance id state instance_).instanceType else 0) ≤
    if instance_.state ≠ .terminated then price instance_.instanceType else 0 := by
  unfold changeInstance
  split_ifs with hchange hafter hbefore
  · exact le_refl _
  · exact absurd hchange.2 ‹_›
  · exact price_nonneg _
  all_goals simp_all

/-- A state change makes nothing dearer. -/
theorem liveCost_changeReservations_le (id : Text) (state : InstanceState)
    (reservations : List Reservation) :
    liveCost (changeReservations id state reservations) ≤ liveCost reservations := by
  rw [liveCost_eq_sum, liveCost_eq_sum, instancesOf_changeReservations, List.map_map]
  exact List.sum_le_sum fun instance_ _ ↦ changeInstance_price_le id state instance_

/-! ### What the view shows -/

/-- Nothing of the user's is missing from the quota view: no request is open, and the key name of
every live instance starts with the user's name and a dash. -/
def ViewComplete (userName : Text) (account : Account) : Prop :=
  (∀ request ∈ account.requests, request.state ≠ .opened) ∧
    ∀ instance_ ∈ instancesOf account.launched, instance_.state ≠ .terminated →
      instance_.keyStartsWith (keyPrefix userName) = true

instance (userName : Text) (account : Account) : Decidable (ViewComplete userName account) :=
  inferInstanceAs (Decidable (_ ∧ _))

/-- Every call is made in a state whose view is complete. -/
def CompleteAtCalls (userName : Text) (account : Account) : Action → Prop
  | .call _ _ _ => ViewComplete userName account
  | _ => True

instance (userName : Text) (account : Account) (action : Action) :
    Decidable (CompleteAtCalls userName account action) := by
  cases action <;> unfold CompleteAtCalls <;> infer_instance

/-- The sum the code computes is the sum of the prices. -/
theorem sumCosts_toRat {instances : List Instance} {total : PyNumber}
    (hsum : sumCosts instances = .ok total) :
    total.toRat = (instances.map (price ·.instanceType)).sum := by
  induction instances generalizing total with
  | nil =>
    cases hsum
    rfl
  | cons head tail ih =>
    obtain ⟨cost, hcost, hsum⟩ := ok_of_bind hsum
    obtain ⟨others, hrest, hsum⟩ := ok_of_bind hsum
    cases hsum
    rw [PyNumber.toRat_add, ih hrest, List.map_cons, List.sum_cons, price_eq hcost]

theorem runningInstances_append (userName : Text) (first second : List Reservation) :
    runningInstances userName (first ++ second) =
      runningInstances userName first ++ runningInstances userName second := by
  simp [runningInstances, instancesOf_getAllInstances]

/-- In a complete view the user's instances are listed in full. -/
theorem runningInstances_launched {userName : Text} {account : Account}
    (hview : ViewComplete userName account) : runningInstances userName account.launched =
      (instancesOf account.launched).filter (·.state ≠ .terminated) := by
  rw [runningInstances_eq, List.filter_filter]
  refine List.filter_congr fun instance_ hmem ↦ ?_
  by_cases hstate : instance_.state = .terminated
  · simp [hstate]
  · simp [hstate, hview.2 instance_ hmem hstate]

/-- In a complete view the cost the check sees covers everything committed. -/
theorem committed_le_costInstances {userName : Text} {account : Account} {oldCost : PyNumber}
    (hview : ViewComplete userName account)
    (hcost : costInstances userName account.listing = .ok oldCost) :
    liveCost account.launched + openCost account.requests ≤ oldCost.toRat := by
  have hopen : openCost account.requests = 0 := by
    rw [openCost, List.filter_eq_nil_iff.mpr fun request hmem ↦ by simpa using hview.1 request hmem]
    rfl
  rw [hopen, add_zero, sumCosts_toRat hcost, Account.listing, runningInstances_append,
    runningInstances_launched hview, List.map_append, List.sum_append]
  exact le_add_of_nonneg_left (sum_price_nonneg _ _)

/-! ### The account is a budget -/

/-- The budget of the account: live instances are spent, open requests are reserved. -/
def Account.budget (account : Account) : Budget ℚ :=
  ⟨liveCost account.launched, openCost account.requests⟩

/-- A call made in a complete view is admitted against everything committed. -/
theorem move_call {userName : Text} {before after : Account} {info : InstanceInfo}
    {ids : List Text} {moment : ℚ} (hview : ViewComplete userName before)
    (hnext : next userName before (.call info ids moment) = some after) :
    Budget.Move spendLimit before.budget after.budget := by
  rw [next] at hnext
  split at hnext
  · rename_i call hcall
    obtain ⟨keyName, oldCost, cost, count, -, -, hold, hcost, hcount, hlimit, hlaunch⟩ :=
      runInstances_accepted hcall
    have hprice := price_eq hcost
    have hcommitted := committed_le_costInstances hview hold
    have hadmitted (hnumber : info.count = .number (.int ids.length)) :
        liveCost before.launched + openCost before.requests +
          ids.length * price info.instanceType ≤ spendLimit := by
      have hlength : count.toRat = ids.length := by
        rw [hcount] at hnumber
        cases hnumber
        simp
      rw [hprice]
      rw [hlength] at hlimit
      linarith
    rcases launchCall_cases hlaunch with ⟨_, -, rfl⟩ | ⟨userData, rfl⟩
    · simp only [Account.launch] at hnext
      split_ifs at hnext with hnumber
      cases hnext
      simp only [Account.budget, openCost_append, openCost_new]
      exact .reserve _ (hadmitted hnumber)
    · simp only [Account.launch] at hnext
      split_ifs at hnext with hnumber
      cases hnext
      simp only [Account.budget, liveCost_append, liveCost_new]
      exact .spend _ (hadmitted hnumber)
  · cases hnext
    exact .idle _

/-- The fulfilment of a request settles its price. -/
theorem move_fulfil {userName : Text} {before after : Account} {id newId : Text} {moment : ℚ}
    (hnext : next userName before (.fulfil id newId moment) = some after) :
    Budget.Move spendLimit before.budget after.budget := by
  obtain ⟨⟨request, requests⟩, htake, hafter⟩ := Option.map_eq_some_iff.mp hnext
  subst hafter
  have hnew := liveCost_new request.launchSpecification.groups request.launchSpecification.keyName
    request.launchSpecification.instanceType moment (some request.id) [newId]
  simp only [List.map_cons, List.map_nil, List.length_singleton, Nat.cast_one, one_mul] at hnew
  simp only [Account.budget, liveCost_append, hnew, openCost_takeOpen htake]
  exact .settle _

/-- A state change releases what it ends. -/
theorem move_changeState {userName : Text} {before after : Account} {id : Text}
    {state : InstanceState} (hnext : next userName before (.changeState id state) = some after) :
    Budget.Move spendLimit before.budget after.budget := by
  cases hnext
  have hless := liveCost_changeReservations_le id state before.launched
  have hsplit : liveCost before.launched =
      liveCost (changeReservations id state before.launched) +
        (liveCost before.launched - liveCost (changeReservations id state before.launched)) := by
    ring
  simp only [Account.budget]
  rw [hsplit]
  exact .release _ (sub_nonneg.mpr hless)

/-- Every step whose calls are made in a complete view is a move of the budget. -/
theorem move_next {userName : Text} (before : Account) (action : Action) (after : Account)
    (hstep : guarded (stepsOf (next userName)) (CompleteAtCalls userName) before action after) :
    Budget.Move spendLimit before.budget after.budget := by
  obtain ⟨hnext, hguard⟩ := hstep
  cases action with
  | call info ids moment => exact move_call hguard hnext
  | fulfil id newId moment => exact move_fulfil hnext
  | changeState id state => exact move_changeState hnext

/-- In every run from a user with no instances whose calls are all made in a complete view, the live
instances that came from the user's calls stay within the limit. -/
theorem liveCost_le_spendLimit {userName : Text} {others : List Reservation}
    {actions : List Action} {account : Account}
    (hrun : Run (guarded (stepsOf (next userName)) (CompleteAtCalls userName))
      (Account.start others) actions account) :
    liveCost account.launched ≤ spendLimit := by
  refine Budget.run_spent_le Account.budget move_next hrun ?_ (openCost_nonneg account.requests)
  simp only [Budget.committed, Account.budget, Account.start]
  decide +kernel

/-- A request of user `cs61c-aa` for instances of type `m2.4xlarge`. -/
def sampleRequest (count : ℤ) (useSpot : Bool) : InstanceInfo where
  imageId := some "ami-a28c7ccb".toList
  count := .number (.int count)
  keyName := some "cs61c-aa-default".toList
  instanceType := "m2.4xlarge".toList
  securityGroups := []
  userData := some none
  availabilityZone := none
  useSpot := useSpot

/-- Two requests fulfilled before the next call, which is rejected, and one of the instances
terminated. -/
def sampleRun : List Action :=
  [.call (sampleRequest 2 true) ["sir-1".toList, "sir-2".toList] 0,
    .fulfil "sir-1".toList "i-1".toList 1,
    .fulfil "sir-2".toList "i-2".toList 1,
    .call (sampleRequest 1 false) ["i-3".toList] 2,
    .changeState "i-1".toList .terminated]

theorem liveCost_le_spendLimit_sampleRun : ∃ account,
    sampleRun.foldlM (checked (next "cs61c-aa".toList) (CompleteAtCalls "cs61c-aa".toList))
      (Account.start []) = some account ∧
      account.launched.length = 2 ∧ liveCost account.launched ≤ spendLimit := by
  have hany : (sampleRun.foldlM
      (checked (next "cs61c-aa".toList) (CompleteAtCalls "cs61c-aa".toList))
      (Account.start [])).any (fun account ↦ account.launched.length = 2) = true := by
    decide +kernel
  obtain ⟨account, hfold, hlength⟩ := (Option.any_eq_true _ _).mp hany
  exact ⟨account, hfold, by simpa using hlength,
    liveCost_le_spendLimit (Run.of_foldlM_checked hfold)⟩

/-- Two spot requests, two instances on demand, and the fulfilment of one of the requests. -/
def exceedingRun : List Action :=
  [.call (sampleRequest 2 true) ["sir-1".toList, "sir-2".toList] 0,
    .call (sampleRequest 2 false) ["i-1".toList, "i-2".toList] 1,
    .fulfil "sir-1".toList "i-3".toList 2]

/-- Both calls pass the check, since the open requests are not in the view, and the three instances
cost 70.8. -/
theorem spendLimit_exceeded : ∃ account,
    Run (stepsOf (next "cs61c-aa".toList)) (Account.start []) exceedingRun account ∧
      spendLimit < liveCost account.launched := by
  have hany : (exceedingRun.foldlM (next "cs61c-aa".toList) (Account.start [])).any
      (fun account ↦ spendLimit < liveCost account.launched) = true := by
    decide +kernel
  obtain ⟨account, hfold, hcost⟩ := (Option.any_eq_true _ _).mp hany
  exact ⟨account, Run.of_foldlM hfold, by simpa using hcost⟩

end Ec2Wrappers.Subaccounts
