import Ec2Wrappers.Aws.Ec2

/-!
# The quota check of `subaccounts.User`

`User.run_instances` of `subaccounts.py` and what it reads: the instance prices, the view of the
user's running instances, and the call it makes of EC2 on acceptance. A method of `User` takes the
user's name as its first argument.

`runInstances_accepted` is the specification the rest of the development uses: an accepted request
has a key name that starts with the user's name and an instance type with a price, its count is a
number, and the price of the listed instances plus that of the request is within the limit.
-/

set_option autoImplicit false
set_option relaxedAutoImplicit false

namespace Ec2Wrappers.Subaccounts

open Foundations Aws

/-! ### Prices -/

/-- `INSTANCE_COST`. -/
def instanceCost : List (Text × PyNumber) :=
  [("m1.small".toList, .int 1),
   ("m1.large".toList, .int 4),
   ("m1.xlarge".toList, .int 8),
   ("t1.micro".toList, .float (1 / 5)),
   ("m2.xlarge".toList, .float (59 / 10)),
   ("m2.2xlarge".toList, .float (118 / 10)),
   ("m2.4xlarge".toList, .float (236 / 10)),
   ("c1.medium".toList, .int 2),
   ("c1.xlarge".toList, .int 8),
   ("cc1.4xlarge".toList, .float (188 / 10))]

/-- `SPOT_BASE`. -/
def spotBase : ℚ := 86 / 1000

/-- `SPEND_LIMIT`. -/
def spendLimit : ℚ := 60

/-- `INSTANCE_COST[instance_type]`. -/
def instanceCostOf (instanceType : Text) : Except PyError PyNumber :=
  match instanceCost.lookup instanceType with
  | some cost => .ok cost
  | none => .error (.keyError instanceType)

/-- Every price is positive. -/
theorem instanceCost_pos : ∀ entry ∈ instanceCost, 0 < entry.2.toRat := by
  decide +kernel

/-- The price found is one of the table. -/
theorem mem_instanceCost {instanceType : Text} {cost : PyNumber}
    (hcost : instanceCostOf instanceType = .ok cost) : (instanceType, cost) ∈ instanceCost := by
  unfold instanceCostOf at hcost
  split at hcost
  · rename_i hlookup
    cases hcost
    obtain ⟨before, after, hsplit, -⟩ := List.lookup_eq_some_iff.mp hlookup
    rw [hsplit]
    simp
  · cases hcost

/-- The price of an instance type is positive. -/
theorem instanceCostOf_pos {instanceType : Text} {cost : PyNumber}
    (hcost : instanceCostOf instanceType = .ok cost) : 0 < cost.toRat :=
  instanceCost_pos _ (mem_instanceCost hcost)

/-! ### The views of a user -/

/-- The prefix of a user's key names. -/
def keyPrefix (userName : Text) : Text := userName ++ "-".toList

/-- `User.running_instances`. EC2's filter has dropped the instances with no key. -/
def runningInstances (userName : Text) (account : List Reservation) : List Instance :=
  (instancesOf (getAllInstances account (some userName)))
    |>.filter (·.keyStartsWith (keyPrefix userName))
    |>.filter (·.state ≠ .terminated)

/-- A text starts with a prefix extended by more text only if it starts with the prefix. -/
theorem isPrefixOf_of_append {first second whole : Text}
    (hstarts : (first ++ second).isPrefixOf whole = true) : first.isPrefixOf whole = true := by
  rw [List.isPrefixOf_iff_prefix] at hstarts ⊢
  exact (List.prefix_append first second).trans hstarts

/-- EC2's filter drops nothing that the check of the key name keeps. -/
theorem runningInstances_eq (userName : Text) (account : List Reservation) :
    runningInstances userName account =
      ((instancesOf account).filter (·.keyStartsWith (keyPrefix userName))).filter
        (·.state ≠ .terminated) := by
  have hweaken (instance_ : Instance) (hkey : instance_.keyStartsWith (keyPrefix userName) = true) :
      instance_.keyStartsWith userName = true := by
    unfold Instance.keyStartsWith at hkey ⊢
    cases hname : instance_.keyName with
    | none => simp [hname] at hkey
    | some key =>
      rw [hname] at hkey
      exact isPrefixOf_of_append hkey
  simp only [runningInstances, instancesOf_getAllInstances]
  refine congrArg (List.filter _) ?_
  rw [List.filter_filter]
  refine List.filter_congr fun instance_ _ ↦ ?_
  cases hkey : instance_.keyStartsWith (keyPrefix userName) with
  | true => simp [hweaken instance_ hkey]
  | false => simp

/-- The quota view: the listed instances that are not terminated and whose key name starts with the
user's name and a dash. -/
theorem mem_runningInstances (userName : Text) (account : List Reservation)
    (instance_ : Instance) : instance_ ∈ runningInstances userName account ↔
      instance_ ∈ instancesOf account ∧ instance_.keyStartsWith (keyPrefix userName) ∧
        instance_.state ≠ .terminated := by
  rw [runningInstances_eq, List.mem_filter, List.mem_filter, decide_eq_true_eq, and_assoc]

/-- The sum of `INSTANCE_COST` over a list of instances. -/
def sumCosts : List Instance → Except PyError PyNumber
  | [] => .ok (.int 0)
  | instance_ :: rest => do
    let cost ← instanceCostOf instance_.instanceType
    let others ← sumCosts rest
    return cost.add others

/-- `User.cost_instances`. -/
def costInstances (userName : Text) (account : List Reservation) : Except PyError PyNumber :=
  sumCosts (runningInstances userName account)

/-- `User.cost_proposal`. -/
def costProposal (instanceType : Text) (numInstances : PyValue) : Except PyError PyValue := do
  let cost ← instanceCostOf instanceType
  cost.mul numInstances

/-! ### Launching -/

/-- The entries of `instance_info` that `run_instances` reads. `userData` is none where the entry is
missing; `availabilityZone` is read by `get`, which makes no difference between missing and
`None`. -/
structure InstanceInfo where
  imageId : Option Text
  count : PyValue
  keyName : Option Text
  instanceType : Text
  securityGroups : List Text
  userData : Option (Option Text)
  availabilityZone : Option Text
  useSpot : Bool
  deriving DecidableEq, Repr

/-- A call of EC2 that launches instances at once or opens spot requests. -/
inductive LaunchCall
  | runInstances (imageId : Option Text) (minCount maxCount : PyValue) (keyName : Text)
      (securityGroups : List Text) (userData : Option Text) (instanceType : Text)
      (placement : Option Text)
  | requestSpotInstances (price : ℚ) (imageId : Option Text) (count : PyValue) (keyName : Text)
      (securityGroups : List Text) (userData : Option Text) (instanceType : Text)
      (placement : Option Text)
  deriving DecidableEq, Repr

/-- The call `run_instances` makes of EC2 once a request has passed its checks. -/
def launchCall (info : InstanceInfo) (keyName : Text) : Except PyError LaunchCall :=
  if info.useSpot then do
    let cost ← instanceCostOf info.instanceType
    .ok (.requestSpotInstances (cost.toRat * spotBase) info.imageId info.count keyName
      info.securityGroups info.userData.join info.instanceType info.availabilityZone)
  else
    match info.userData with
    | none => .error (.keyError "user_data".toList)
    | some userData => .ok (.runInstances info.imageId info.count info.count keyName
        info.securityGroups userData info.instanceType info.availabilityZone)

/-- `User.run_instances` from the point where it has the cost of the running instances. -/
def runInstancesWith (userName : Text) (oldCost : PyNumber) (info : InstanceInfo) :
    Except PyError LaunchCall := do
  let extraCost ← costProposal info.instanceType info.count
  match info.keyName with
  | none => .error (.attributeError "startswith".toList)
  | some keyName =>
    if !userName.isPrefixOf keyName then
      .error (.exception "Needs to be associated with SSH key".toList)
    else
      let total ← oldCost.addValue extraCost
      if total.toRat > spendLimit then
        .error (.exception "Excessive instance cost".toList)
      else
        launchCall info keyName

/-- `User.run_instances`, up to the call it makes of EC2. -/
def runInstances (userName : Text) (account : List Reservation) (info : InstanceInfo) :
    Except PyError LaunchCall := do
  let oldCost ← costInstances userName account
  runInstancesWith userName oldCost info

/-- The call of an accepted request is a spot request, or a launch that has user data. -/
theorem launchCall_cases {info : InstanceInfo} {keyName : Text} {call : LaunchCall}
    (hlaunch : launchCall info keyName = .ok call) :
    (∃ cost, instanceCostOf info.instanceType = .ok cost ∧
      call = .requestSpotInstances (cost.toRat * spotBase) info.imageId info.count keyName
        info.securityGroups info.userData.join info.instanceType info.availabilityZone) ∨
    ∃ userData, call = .runInstances info.imageId info.count info.count keyName
      info.securityGroups userData info.instanceType info.availabilityZone := by
  unfold launchCall at hlaunch
  split_ifs at hlaunch with hspot
  · obtain ⟨cost, hcost, hcall⟩ := ok_of_bind hlaunch
    exact Or.inl ⟨cost, hcost, (Except.ok.inj hcall).symm⟩
  · cases huserData : info.userData with
    | none => simp [huserData] at hlaunch
    | some userData =>
      simp only [huserData, Except.ok.injEq] at hlaunch
      exact Or.inr ⟨userData, hlaunch.symm⟩

/-- What a request has passed that is accepted over a cost: its key name starts with the user's
name, its type has a price, its count is a number, and the cost and the request together stay within
the limit. -/
theorem runInstancesWith_accepted {userName : Text} {oldCost : PyNumber} {info : InstanceInfo}
    {call : LaunchCall} (haccepted : runInstancesWith userName oldCost info = .ok call) :
    ∃ keyName cost count, info.keyName = some keyName ∧ userName <+: keyName ∧
      instanceCostOf info.instanceType = .ok cost ∧ info.count = .number count ∧
      oldCost.toRat + cost.toRat * count.toRat ≤ spendLimit ∧
      launchCall info keyName = .ok call := by
  obtain ⟨extraCost, hextra, haccepted⟩ := ok_of_bind haccepted
  obtain ⟨cost, hcost, hextra⟩ := ok_of_bind hextra
  cases hkey : info.keyName with
  | none => simp [hkey] at haccepted
  | some keyName =>
    simp only [hkey, Bool.not_eq_eq_eq_not, Bool.not_true] at haccepted
    split_ifs at haccepted with hstarts
    obtain ⟨total, hsum, hlaunch⟩ := ok_of_bind haccepted
    split_ifs at hlaunch with hlimit
    obtain ⟨extra, rfl, rfl⟩ := PyNumber.addValue_eq_ok hsum
    obtain ⟨count, hcount, hproduct⟩ := PyNumber.mul_eq_number hextra
    refine ⟨keyName, cost, count, rfl, ?_, hcost, hcount, ?_, hlaunch⟩
    · simpa using hstarts
    · rw [PyNumber.toRat_add, hproduct] at hlimit
      exact not_lt.mp hlimit

/-- What an accepted request has passed: its key name starts with the user's name, its type has a
price, its count is a number, and the listed instances and the request together stay within the
limit. -/
theorem runInstances_accepted {userName : Text} {account : List Reservation} {info : InstanceInfo}
    {call : LaunchCall} (haccepted : runInstances userName account info = .ok call) :
    ∃ keyName oldCost cost count, info.keyName = some keyName ∧ userName <+: keyName ∧
      costInstances userName account = .ok oldCost ∧ instanceCostOf info.instanceType = .ok cost ∧
      info.count = .number count ∧ oldCost.toRat + cost.toRat * count.toRat ≤ spendLimit ∧
      launchCall info keyName = .ok call := by
  obtain ⟨oldCost, hold, haccepted⟩ := ok_of_bind haccepted
  obtain ⟨keyName, cost, count, hkey, hstarts, hcost, hcount, hlimit, hlaunch⟩ :=
    runInstancesWith_accepted haccepted
  exact ⟨keyName, oldCost, cost, count, hkey, hstarts, hold, hcost, hcount, hlimit, hlaunch⟩

end Ec2Wrappers.Subaccounts
