import Ec2Wrappers.Subaccounts.SpendLimit

/-!
# The spend limit under concurrent launches

Any number of `ec2-run` processes of one user. A process reads the running instances, decides on the
cost it has read, and launches, in three steps with no lock between them, and the steps of different
processes interleave freely (`next`). `runInstancesWith` is `User.run_instances` behind the first
step, and a process that nobody interleaves with does what the function does
(`runInstances_run`).

Two processes that both read before either launches are both admitted, and together they exceed the
limit (`spendLimit_overrun`). `Runner.overtaken` says that another process has launched since this
one has read. As long as no overtaken process launches (`FreshLaunch`), what a process has read
still covers the user's live instances (`Admissible`), and they stay within the limit
(`userCost_le_spendLimit`). Costs are added exactly; the program adds doubles, which differs only
where a total is the limit to the last digit.
-/

set_option autoImplicit false
set_option relaxedAutoImplicit false

namespace Ec2Wrappers.Subaccounts

open Foundations Aws

/-! ### Processes and their steps -/

/-- A request for instances on demand: a positive count, and a key name that starts with the user's
name and a dash. -/
structure OnDemandRequest (userName : Text) where
  info : InstanceInfo
  onDemand : info.useSpot = false
  count : ℕ
  count_pos : 0 < count
  count_eq : info.count = .number (.int count)
  keyName : Text
  keyName_eq : info.keyName = some keyName
  starts : keyPrefix userName <+: keyName
  deriving DecidableEq

/-- How far a process has come: it has started, it has the cost of the running instances, it has
passed the check and is about to make its call of EC2, or it is over. -/
inductive Phase
  | started
  | counted (oldCost : PyNumber)
  | admitted (call : LaunchCall)
  | finished
  deriving DecidableEq

/-- A process, and whether another one has launched since this one has read. -/
structure Runner (userName : Text) where
  request : OnDemandRequest userName
  phase : Phase
  overtaken : Bool
  deriving DecidableEq

/-- The account and the processes. -/
structure Runners (userName : Text) where
  account : Account
  processes : List (Runner userName)
  deriving DecidableEq

/-- A step: a process starts; it reads the running instances; it decides; it launches, with the ids
EC2 gives to the instances and the moment; an instance changes its state. -/
inductive RunnerEvent (userName : Text)
  | start (request : OnDemandRequest userName)
  | read (index : ℕ)
  | check (index : ℕ)
  | launch (index : ℕ) (ids : List Text) (moment : ℚ)
  | changeState (id : Text) (state : InstanceState)
  deriving DecidableEq

section Steps

variable {userName : Text}

/-- The phase after a part of `run_instances` that returned or raised. -/
def Phase.after {Value : Type} (next : Value → Phase) : Except PyError Value → Phase
  | .ok value => next value
  | .error _ => .finished

/-- A process goes on to another phase. -/
def Runners.enter (runners : Runners userName) (index : ℕ) (process : Runner userName)
    (phase : Phase) : Runners userName :=
  { runners with processes := runners.processes.set index { process with phase := phase } }

/-- Another process has launched. -/
def Runner.overtake (process : Runner userName) : Runner userName :=
  { process with overtaken := true }

/-- A process reads the running instances. -/
def Runners.read (runners : Runners userName) (index : ℕ) (process : Runner userName) :
    Runners userName :=
  runners.enter index { process with overtaken := false }
    (.after .counted (costInstances userName runners.account.listing))

/-- A process launches: everybody else's reading is out of date. -/
def Runners.launch (runners : Runners userName) (index : ℕ) (process : Runner userName)
    (ids : List Text) (moment : ℚ) (call : LaunchCall) : Option (Runners userName) :=
  (runners.account.launch ids moment call).map fun account ↦
    { account := account
      processes := (runners.processes.map Runner.overtake).set index
        { process with phase := .finished } }

/-- One step. -/
def Runners.next (runners : Runners userName) : RunnerEvent userName → Option (Runners userName)
  | .start request =>
    some { runners with processes := runners.processes ++ [⟨request, .started, false⟩] }
  | .read index => do
    let process ← runners.processes[index]?
    match process.phase with
    | .started => some (runners.read index process)
    | _ => none
  | .check index => do
    let process ← runners.processes[index]?
    match process.phase with
    | .counted oldCost => some (runners.enter index process
        (.after .admitted (runInstancesWith userName oldCost process.request.info)))
    | _ => none
  | .launch index ids moment => do
    let process ← runners.processes[index]?
    match process.phase with
    | .admitted call => runners.launch index process ids moment call
    | _ => none
  | .changeState id state =>
    some { runners with account := { runners.account with
      others := changeReservations id state runners.account.others
      launched := changeReservations id state runners.account.launched } }

/-- The beginning: an account, and no process. -/
def Runners.start (account : Account) : Runners userName := ⟨account, []⟩

end Steps

/-! ### Costs -/

/-- The sum of `INSTANCE_COST` over the user's live instances. -/
def userCost (userName : Text) (listing : List Reservation) : ℚ :=
  ((runningInstances userName listing).map (price ·.instanceType)).sum

/-- What the instances of a call cost. -/
def LaunchCall.cost : LaunchCall → ℚ
  | .runInstances _ _ (.number count) _ _ _ instanceType _ => count.toRat * price instanceType
  | .requestSpotInstances _ _ (.number count) _ _ _ instanceType _ =>
    count.toRat * price instanceType
  | _ => 0

theorem userCost_append (userName : Text) (first second : List Reservation) :
    userCost userName (first ++ second) = userCost userName first + userCost userName second := by
  simp [userCost, runningInstances_append]

/-- The cost `cost_instances` computes is the cost of the live instances. -/
theorem toRat_costInstances {userName : Text} {listing : List Reservation} {cost : PyNumber}
    (hcost : costInstances userName listing = .ok cost) :
    cost.toRat = userCost userName listing := sumCosts_toRat hcost

/-- The cost of the user's live instances, instance by instance. -/
theorem userCost_eq_sum (userName : Text) (listing : List Reservation) :
    userCost userName listing =
      (((instancesOf listing).filter (·.keyStartsWith (keyPrefix userName))).map fun instance_ ↦
        if instance_.state ≠ .terminated then price instance_.instanceType else 0).sum := by
  rw [List.sum_map_ite, userCost, runningInstances_eq]
  simp

/-- The user's live instances among some reservations cost no more than all the live instances. -/
theorem userCost_le_liveCost (userName : Text) (reservations : List Reservation) :
    userCost userName reservations ≤ liveCost reservations := by
  rw [userCost_eq_sum, liveCost_eq_sum]
  refine List.Sublist.sum_le_sum (List.filter_sublist.map _) fun amount hamount ↦ ?_
  obtain ⟨instance_, -, rfl⟩ := List.mem_map.mp hamount
  split_ifs
  · exact price_nonneg instance_.instanceType
  · exact le_refl 0

/-- A call adds at most its cost to the cost of the user's live instances. -/
theorem userCost_launch {userName : Text} {before after : Account} {ids : List Text} {moment : ℚ}
    {call : LaunchCall} (hlaunch : before.launch ids moment call = some after) :
    userCost userName after.listing ≤ userCost userName before.listing + call.cost := by
  cases call with
  | runInstances imageId minCount maxCount keyName groups userData instanceType placement =>
    simp only [Account.launch] at hlaunch
    split_ifs at hlaunch with hcount
    cases hlaunch
    subst hcount
    have hnew := userCost_le_liveCost userName [⟨groups.map InstanceGroup.mk,
      ids.map (newInstance keyName instanceType moment none)⟩]
    rw [liveCost_new] at hnew
    simp only [Account.listing, LaunchCall.cost, userCost_append, PyNumber.toRat_int,
      Int.cast_natCast]
    linarith
  | requestSpotInstances amount imageId count keyName groups userData instanceType placement =>
    simp only [Account.launch] at hlaunch
    split_ifs at hlaunch with hcount
    cases hlaunch
    subst hcount
    simp only [Account.listing, LaunchCall.cost, PyNumber.toRat_int, Int.cast_natCast]
    have hprice := price_nonneg instanceType
    exact le_add_of_nonneg_right (by positivity)

/-- What an accepted request costs together with the cost it was accepted over. -/
theorem cost_runInstancesWith {userName : Text} {oldCost : PyNumber} {info : InstanceInfo}
    {call : LaunchCall} (haccepted : runInstancesWith userName oldCost info = .ok call) :
    oldCost.toRat + call.cost ≤ spendLimit := by
  obtain ⟨keyName, cost, count, -, -, hcost, hcount, hlimit, hlaunch⟩ :=
    runInstancesWith_accepted haccepted
  have hcall : call.cost = count.toRat * cost.toRat := by
    rw [← price_eq hcost]
    rcases launchCall_cases hlaunch with ⟨_, -, rfl⟩ | ⟨userData, rfl⟩
    · rw [hcount, LaunchCall.cost]
    · rw [hcount, LaunchCall.cost]
  rw [hcall, mul_comm]
  exact hlimit

/-- A state change makes the user's live instances no dearer. -/
theorem userCost_changeReservations_le (userName id : Text) (state : InstanceState)
    (reservations : List Reservation) :
    userCost userName (changeReservations id state reservations) ≤
      userCost userName reservations := by
  have hkey : (fun instance_ : Instance ↦ instance_.keyStartsWith (keyPrefix userName)) ∘
      changeInstance id state = fun instance_ ↦ instance_.keyStartsWith (keyPrefix userName) := by
    ext instance_
    simp only [Function.comp_apply, changeInstance]
    split_ifs <;> rfl
  rw [userCost_eq_sum, userCost_eq_sum, instancesOf_changeReservations, List.filter_map, hkey,
    List.map_map]
  exact List.sum_le_sum fun instance_ _ ↦ changeInstance_price_le id state instance_

/-! ### What a reading covers -/

section Steps

variable {userName : Text} {runners : Runners userName} {index : ℕ} {process : Runner userName}

/-- The cost of the user's live instances. -/
def Runners.cost (runners : Runners userName) : ℚ := userCost userName runners.account.listing

/-- No process launches that another launch has overtaken since it read the running instances. -/
def FreshLaunch (runners : Runners userName) : RunnerEvent userName → Prop
  | .launch index _ _ => ∀ process, runners.processes[index]? = some process →
      process.overtaken = false
  | _ => True

instance (runners : Runners userName) (event : RunnerEvent userName) :
    Decidable (FreshLaunch runners event) := by
  cases event <;> unfold FreshLaunch <;> infer_instance

/-- What the process has read, or been admitted over, is at least the cost. -/
def Runner.Covers (cost : ℚ) (process : Runner userName) : Prop :=
  match process.phase with
  | .counted oldCost => cost ≤ oldCost.toRat
  | .admitted call => cost + call.cost ≤ spendLimit
  | _ => True

/-- The live instances are within the limit, and covered by every process that has not been
overtaken. -/
structure Admissible (runners : Runners userName) : Prop where
  cost_le : runners.cost ≤ spendLimit
  covers : ∀ process ∈ runners.processes, process.overtaken = false → process.Covers runners.cost

/-- What covers a cost covers a smaller one. -/
theorem Runner.Covers.mono {cost less : ℚ} (hless : less ≤ cost) (hcovers : process.Covers cost) :
    process.Covers less := by
  unfold Runner.Covers at hcovers ⊢
  split at hcovers
  · exact hless.trans hcovers
  · linarith
  · trivial

/-- Entering a phase that covers the cost keeps the processes admissible. -/
theorem admissible_enter {phase : Phase} (hadmissible : Admissible runners)
    (hcovers : process.overtaken = false →
      Runner.Covers runners.cost { process with phase := phase }) :
    Admissible (runners.enter index process phase) := by
  refine ⟨hadmissible.cost_le, fun other hother hfresh ↦ ?_⟩
  rcases List.mem_or_eq_of_mem_set hother with hmem | rfl
  · exact hadmissible.covers other hmem hfresh
  · exact hcovers hfresh

/-- A reading covers the live instances. -/
theorem admissible_read (hadmissible : Admissible runners) :
    Admissible (runners.read index process) := by
  refine admissible_enter hadmissible fun _ ↦ ?_
  cases hcost : costInstances userName runners.account.listing with
  | ok oldCost => exact (toRat_costInstances hcost).ge
  | error error => trivial

/-- The check admits what fits over the cost that was read. -/
theorem admissible_check {oldCost : PyNumber} (hadmissible : Admissible runners)
    (hprocess : process ∈ runners.processes) (hphase : process.phase = .counted oldCost) :
    Admissible (runners.enter index process
      (.after .admitted (runInstancesWith userName oldCost process.request.info))) := by
  refine admissible_enter hadmissible fun hfresh ↦ ?_
  have hread := hadmissible.covers process hprocess hfresh
  rw [Runner.Covers, hphase] at hread
  cases hcall : runInstancesWith userName oldCost process.request.info with
  | ok call =>
    have hlimit := cost_runInstancesWith hcall
    show runners.cost + call.cost ≤ spendLimit
    linarith
  | error error => trivial

/-- A launch by a process that has not been overtaken stays within the limit. -/
theorem admissible_launch {ids : List Text} {moment : ℚ} {call : LaunchCall}
    {after : Runners userName} (hadmissible : Admissible runners)
    (hprocess : process ∈ runners.processes) (hphase : process.phase = .admitted call)
    (hfresh : process.overtaken = false)
    (hlaunch : runners.launch index process ids moment call = some after) : Admissible after := by
  obtain ⟨account, haccount, rfl⟩ := Option.map_eq_some_iff.mp hlaunch
  have hcovered := hadmissible.covers process hprocess hfresh
  rw [Runner.Covers, hphase] at hcovered
  refine ⟨(userCost_launch haccount).trans hcovered, fun other hother hnot ↦ ?_⟩
  rcases List.mem_or_eq_of_mem_set hother with hmem | rfl
  · obtain ⟨old, -, rfl⟩ := List.mem_map.mp hmem
    cases hnot
  · trivial

/-- Every step whose launch is not overtaken keeps the processes admissible. -/
theorem admissible_next (before : Runners userName) (event : RunnerEvent userName)
    (after : Runners userName)
    (hstep : guarded (stepsOf Runners.next) FreshLaunch before event after)
    (hadmissible : Admissible before) : Admissible after := by
  obtain ⟨hnext, hfresh⟩ := hstep
  cases event with
  | start request =>
    cases hnext
    refine ⟨hadmissible.cost_le, fun other hother hnot ↦ ?_⟩
    rcases List.mem_append.mp hother with hmem | hnew
    · exact hadmissible.covers other hmem hnot
    · rw [List.mem_singleton.mp hnew]
      trivial
  | read index =>
    obtain ⟨process, hprocess, hphase⟩ := Option.bind_eq_some_iff.mp hnext
    split at hphase
    · cases hphase
      exact admissible_read hadmissible
    · cases hphase
  | check index =>
    obtain ⟨process, hprocess, hphase⟩ := Option.bind_eq_some_iff.mp hnext
    split at hphase
    · cases hphase
      exact admissible_check hadmissible (List.mem_of_getElem? hprocess) ‹_›
    · cases hphase
  | launch index ids moment =>
    obtain ⟨process, hprocess, hphase⟩ := Option.bind_eq_some_iff.mp hnext
    split at hphase
    · exact admissible_launch hadmissible (List.mem_of_getElem? hprocess) ‹_›
        (hfresh process hprocess) hphase
    · cases hphase
  | changeState id state =>
    cases hnext
    have hless : userCost userName (changeReservations id state before.account.others ++
        changeReservations id state before.account.launched) ≤ before.cost := by
      rw [Runners.cost, Account.listing, userCost_append, userCost_append]
      exact add_le_add (userCost_changeReservations_le userName id state _)
        (userCost_changeReservations_le userName id state _)
    exact ⟨hless.trans hadmissible.cost_le,
      fun other hother hnot ↦ (hadmissible.covers other hother hnot).mono hless⟩

end Steps

/-! ### The steps and the function -/

/-- The steps of a process that nobody interleaves with leave the account as `run_instances` and the
call it makes do. -/
theorem runInstances_run {userName : Text} {account launched : Account}
    {request : OnDemandRequest userName} {call : LaunchCall} {ids : List Text} {moment : ℚ}
    (hcall : runInstances userName account.listing request.info = .ok call)
    (hlaunch : account.launch ids moment call = some launched) :
    ∃ last, Run (stepsOf Runners.next) (Runners.start account)
      [.start request, .read 0, .check 0, .launch 0 ids moment] last ∧ last.account = launched := by
  obtain ⟨oldCost, hold, haccepted⟩ := ok_of_bind hcall
  refine ⟨⟨launched, [⟨request, .finished, false⟩]⟩, Run.of_foldlM ?_, rfl⟩
  simp [Runners.next, Runners.start, Runners.read, Runners.enter, Runners.launch, Phase.after,
    hold, haccepted, hlaunch, Runner.overtake]

/-! ### Whole runs -/

/-- In every interleaving in which no overtaken process launches, the user's live instances stay
within the limit when they start within it. -/
theorem userCost_le_spendLimit {userName : Text} {account : Account}
    {events : List (RunnerEvent userName)} {runners : Runners userName}
    (hstart : userCost userName account.listing ≤ spendLimit)
    (hrun : Run (guarded (stepsOf Runners.next) FreshLaunch) (Runners.start account) events
      runners) :
    userCost userName runners.account.listing ≤ spendLimit := by
  have hadmissible : Admissible (Runners.start account : Runners userName) :=
    ⟨hstart, fun _ hprocess ↦ absurd hprocess List.not_mem_nil⟩
  exact (hrun.invariant admissible_next hadmissible).cost_le

/-- Two `m2.4xlarge` instances on demand for user `cs61c-aa`. -/
def sampleOnDemand : OnDemandRequest "cs61c-aa".toList where
  info := sampleRequest 2 false
  onDemand := rfl
  count := 2
  count_pos := by decide
  count_eq := rfl
  keyName := "cs61c-aa-default".toList
  keyName_eq := rfl
  starts := by decide

/-- One process launches before the other reads, and the other is rejected. -/
def orderlyEvents : List (RunnerEvent "cs61c-aa".toList) :=
  [.start sampleOnDemand, .start sampleOnDemand, .read 0, .check 0,
    .launch 0 ["i-1".toList, "i-2".toList] 0, .read 1, .check 1]

theorem userCost_le_spendLimit_orderly : ∃ runners : Runners "cs61c-aa".toList,
    orderlyEvents.foldlM (checked Runners.next FreshLaunch) (Runners.start (Account.start [])) =
      some runners ∧ runners.processes.map Runner.phase = [.finished, .finished] ∧
        userCost "cs61c-aa".toList runners.account.listing ≤ spendLimit := by
  have hany : (orderlyEvents.foldlM (checked Runners.next FreshLaunch)
      (Runners.start (Account.start []))).any
        (fun runners ↦ runners.processes.map Runner.phase = [.finished, .finished]) = true := by
    decide +kernel
  obtain ⟨runners, hfold, hphases⟩ := (Option.any_eq_true _ _).mp hany
  exact ⟨runners, hfold, of_decide_eq_true hphases,
    userCost_le_spendLimit (by decide +kernel) (Run.of_foldlM_checked hfold)⟩

/-- Two processes read before either launches. -/
def racingEvents : List (RunnerEvent "cs61c-aa".toList) :=
  [.start sampleOnDemand, .start sampleOnDemand, .read 0, .read 1, .check 0, .check 1,
    .launch 0 ["i-1".toList, "i-2".toList] 0, .launch 1 ["i-3".toList, "i-4".toList] 0]

/-- Both are admitted over a cost of 0, and the four instances cost 94.4. -/
theorem spendLimit_overrun : ∃ runners : Runners "cs61c-aa".toList,
    userCost "cs61c-aa".toList (Account.start []).listing ≤ spendLimit ∧
      Run (stepsOf Runners.next) (Runners.start (Account.start [])) racingEvents runners ∧
        spendLimit < userCost "cs61c-aa".toList runners.account.listing := by
  have hany : (racingEvents.foldlM Runners.next (Runners.start (Account.start []))).any
      (fun runners ↦ spendLimit < userCost "cs61c-aa".toList runners.account.listing) = true := by
    decide +kernel
  obtain ⟨runners, hfold, hcost⟩ := (Option.any_eq_true _ _).mp hany
  exact ⟨runners, by decide +kernel, Run.of_foldlM hfold, of_decide_eq_true hcost⟩

end Ec2Wrappers.Subaccounts
