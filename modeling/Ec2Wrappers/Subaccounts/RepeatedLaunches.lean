import Ec2Wrappers.Aws.RequestRetries
import Ec2Wrappers.Foundations.Numerals
import Ec2Wrappers.Subaccounts.ConcurrentLaunches
import Mathlib.Order.Bounds.Defs

/-!
# Launches that are sent again

A launch of `User.run_instances` as it goes over the network. boto sends the request again when the
connection has broken or EC2 has answered with a status of a passing failure, and the request has no
client token that would let EC2 recognise it. So EC2 may have carried out each of the requests it
got, whatever it answered; only an answer that redirects the client goes with no launch.

The check of the spend limit counts the instances once. After a call the user's live instances cost
what they did before and the price of the call for every request that EC2 carried out
(`userCost_sendLaunch`), and over all runs the greatest cost is the spend limit as many times as a
request may be sent (`isGreatest_retriedCost`).
-/

set_option autoImplicit false
set_option relaxedAutoImplicit false

namespace Ec2Wrappers.Subaccounts

open Foundations Aws

/-! ### Requests that EC2 carries out -/

/-- A request that is sent, and the ids and the moment of the instances if EC2 launches them. -/
structure LaunchAttempt where
  exchange : Exchange
  launched : Option (List Text × ℚ)
  redirect_idle : exchange.verdict = .moved → launched = none

/-- What a request changes. -/
def carryOut (call : LaunchCall) (account : Account) (attempt : LaunchAttempt) : Option Account :=
  match attempt.launched with
  | none => some account
  | some (ids, moment) => account.launch ids moment call

/-- A call of EC2 that launches, over the network. -/
def sendLaunch (connection : AuthConnection) (host path : Text) (call : LaunchCall)
    (account : Account) (attempts : List LaunchAttempt) : Option (Executed × Account) := do
  let executed ← multiExecute connection host path (attempts.map LaunchAttempt.exchange)
  let after ← (attempts.take executed.sent.length).foldlM (carryOut call) account
  return (executed, after)

/-- A step: a call of `run_instances` with what the network and EC2 make of its requests, or a state
change of an instance. -/
inductive RetriedAction (userName : Text)
  | call (request : OnDemandRequest userName) (attempts : List LaunchAttempt)
  | changeState (id : Text) (state : InstanceState)

/-- One step. -/
def nextRetried (connection : AuthConnection) (host path : Text) {userName : Text}
    (account : Account) : RetriedAction userName → Option Account
  | .call request attempts =>
    match runInstances userName account.listing request.info with
    | .ok call => (sendLaunch connection host path call account attempts).map Prod.snd
    | .error _ => some account
  | .changeState id state =>
    some { account with
      others := changeReservations id state account.others
      launched := changeReservations id state account.launched }

/-! ### What the requests of a call add -/

/-- A call for instances on demand with a key name of the user. -/
def LaunchCall.Visible (userName : Text) : LaunchCall → Prop
  | .runInstances _ _ _ keyName _ _ _ _ => keyPrefix userName <+: keyName
  | .requestSpotInstances .. => False

section Requests

variable {userName : Text} {call : LaunchCall} {before after : Account}

/-- New instances with a key name of the user cost what they cost. -/
theorem userCost_new {keyName : Text} (hstarts : keyPrefix userName <+: keyName)
    (groups : List InstanceGroup) (instanceType : Text) (moment : ℚ) (ids : List Text) :
    userCost userName [⟨groups, ids.map (newInstance keyName instanceType moment none)⟩] =
      ids.length * price instanceType := by
  rw [userCost_eq_sum]
  simp [newInstance, Instance.keyStartsWith, Function.comp_def, List.filter_map,
    List.isPrefixOf_iff_prefix.mpr hstarts]

/-- A launch adds the cost of the call. -/
theorem userCost_launch_visible (hvisible : call.Visible userName) {ids : List Text} {moment : ℚ}
    (hlaunch : before.launch ids moment call = some after) :
    userCost userName after.listing = userCost userName before.listing + call.cost := by
  cases call with
  | requestSpotInstances _ _ _ _ _ _ _ _ => exact hvisible.elim
  | runInstances imageId minCount maxCount keyName groups userData instanceType placement =>
    simp only [Account.launch] at hlaunch
    split_ifs at hlaunch with hcount
    cases hlaunch
    subst hcount
    simp only [Account.listing, LaunchCall.cost, userCost_append, PyNumber.toRat_int,
      Int.cast_natCast, userCost_new hvisible]
    ring

/-- Every request that is carried out adds the cost of the call. -/
theorem userCost_foldlM_carryOut (hvisible : call.Visible userName) {attempts : List LaunchAttempt}
    (hfold : attempts.foldlM (carryOut call) before = some after) :
    userCost userName after.listing = userCost userName before.listing +
      (attempts.filter (·.launched.isSome)).length * call.cost := by
  induction attempts generalizing before with
  | nil =>
    cases hfold
    simp
  | cons attempt rest ih =>
    obtain ⟨middle, hfirst, hrest⟩ := Option.bind_eq_some_iff.mp hfold
    rw [ih hrest]
    cases hlaunched : attempt.launched with
    | none =>
      simp only [carryOut, hlaunched, Option.some.injEq] at hfirst
      simp [hlaunched, hfirst]
    | some launch =>
      simp only [carryOut, hlaunched] at hfirst
      rw [userCost_launch_visible hvisible hfirst]
      simp only [hlaunched, Option.isSome_some, List.filter_cons_of_pos, List.length_cons,
        Nat.cast_succ]
      ring

/-- Requests that have all been carried out. -/
theorem exists_foldlM_carryOut {attempts : List LaunchAttempt} {count : ℕ}
    {keyName instanceType : Text} {imageId userData placement : Option Text} {minCount : PyValue}
    {groups : List Text}
    (hcall : call = .runInstances imageId minCount (.number (.int count)) keyName groups userData
      instanceType placement)
    (hlaunched : ∀ attempt ∈ attempts, ∃ ids moment, attempt.launched = some (ids, moment) ∧
      ids.length = count) :
    ∃ after, attempts.foldlM (carryOut call) before = some after := by
  induction attempts generalizing before with
  | nil => exact ⟨before, rfl⟩
  | cons attempt rest ih =>
    obtain ⟨⟨ids, moment, hids, rfl⟩, hrest⟩ := List.forall_mem_cons.mp hlaunched
    rw [List.foldlM_cons]
    simp only [carryOut, hids, hcall, Account.launch, if_true, Option.bind_eq_bind,
      Option.bind_some]
    rw [← hcall]
    exact ih hrest

end Requests

/-! ### What a call adds -/

section Calls

variable {connection : AuthConnection} {host path userName : Text} {call : LaunchCall}
  {before after : Account} {attempts : List LaunchAttempt} {executed : Executed}

/-- What a request means to the loop that sends it. -/
def LaunchAttempt.verdict (attempt : LaunchAttempt) : Verdict := attempt.exchange.verdict

/-- A call that has ended has sent the first requests, as `ask` does, and EC2 has carried these
out. -/
theorem sendLaunch_eq_some
    (hsend : sendLaunch connection host path call before attempts = some (executed, after)) :
    ∃ asked, ask LaunchAttempt.verdict connection.tries attempts = some asked ∧
      asked.answers.foldlM (carryOut call) before = some after ∧
        executed.sent.length = asked.answers.length := by
  obtain ⟨result, hexecuted, hsend⟩ := Option.bind_eq_some_iff.mp hsend
  obtain ⟨account, hfold, hsend⟩ := Option.bind_eq_some_iff.mp hsend
  cases hsend
  rw [multiExecute_eq, ask_map, Option.map_map] at hexecuted
  obtain ⟨asked, hasked, rfl⟩ := Option.map_eq_some_iff.mp hexecuted
  have hlength : asked.answers.length = (executedOf connection host path
      ⟨asked.answers.map LaunchAttempt.exchange,
        asked.final.map LaunchAttempt.exchange⟩).sent.length := by
    simp [executedOf, length_destinations]
  refine ⟨asked, hasked, ?_, hlength.symm⟩
  rw [List.prefix_iff_eq_take.mp (ask_spec hasked).1, hlength]
  exact hfold

/-- A call is sent as `ask` does. -/
theorem sendLaunch_of_ask {asked : Asked LaunchAttempt}
    (hasked : ask LaunchAttempt.verdict connection.tries attempts = some asked)
    (hfold : asked.answers.foldlM (carryOut call) before = some after) :
    ∃ executed, sendLaunch connection host path call before attempts = some (executed, after) := by
  have hexecuted : multiExecute connection host path (attempts.map LaunchAttempt.exchange) =
      some (executedOf connection host path
        ⟨asked.answers.map LaunchAttempt.exchange, asked.final.map LaunchAttempt.exchange⟩) := by
    rw [multiExecute_eq, ask_map, Option.map_map]
    exact Option.map_eq_some_iff.mpr ⟨asked, hasked, rfl⟩
  have htaken : (attempts.take (destinations connection ⟨host, connection.isSecure, path⟩
      (asked.answers.map LaunchAttempt.exchange)).length).foldlM (carryOut call) before =
        some after := by
    rw [length_destinations, List.length_map, ← List.prefix_iff_eq_take.mp (ask_spec hasked).1]
    exact hfold
  exact ⟨_, Option.bind_eq_some_iff.mpr
    ⟨_, hexecuted, Option.bind_eq_some_iff.mpr ⟨after, htaken, rfl⟩⟩⟩

/-- After a call the user's live instances cost what they did and the price of the call for every
request that EC2 has carried out, and these are no more than the tries. -/
theorem userCost_sendLaunch (hvisible : call.Visible userName)
    (hsend : sendLaunch connection host path call before attempts = some (executed, after)) :
    ∃ carriedOut ≤ connection.tries, userCost userName after.listing =
      userCost userName before.listing + carriedOut * call.cost := by
  obtain ⟨asked, hasked, hfold, -⟩ := sendLaunch_eq_some hsend
  refine ⟨_, ?_, userCost_foldlM_carryOut hvisible hfold⟩
  refine length_filter_le_of_ask (fun attempt hmoved ↦ ?_) hasked
  simp [attempt.redirect_idle hmoved]

end Calls

/-! ### Whole runs -/

section Runs

variable {connection : AuthConnection} {host path userName : Text}

/-- The user's live instances cost nothing or more. -/
theorem userCost_nonneg (userName : Text) (listing : List Reservation) :
    0 ≤ userCost userName listing := sum_price_nonneg _ _

/-- The call of an accepted request on demand is visible, has a cost, and costs no more than the
limit leaves. -/
theorem call_of_accepted {request : OnDemandRequest userName} {account : Account}
    {call : LaunchCall} (hcall : runInstances userName account.listing request.info = .ok call) :
    call.Visible userName ∧ 0 ≤ call.cost ∧
      userCost userName account.listing + call.cost ≤ spendLimit := by
  obtain ⟨oldCost, hold, haccepted⟩ := ok_of_bind hcall
  have hlimit := cost_runInstancesWith haccepted
  rw [toRat_costInstances hold] at hlimit
  obtain ⟨keyName, -, -, hkey, -, -, -, -, hlaunch⟩ := runInstancesWith_accepted haccepted
  cases Option.some.inj (hkey.symm.trans request.keyName_eq)
  rw [launchCall, request.onDemand, if_neg Bool.false_ne_true] at hlaunch
  split at hlaunch
  · cases hlaunch
  · cases hlaunch
    refine ⟨request.starts, ?_, hlimit⟩
    have hprice := price_nonneg request.info.instanceType
    rw [request.count_eq, LaunchCall.cost, PyNumber.toRat_int, Int.cast_natCast]
    positivity

/-- What fits into a limit once beside the start fits beside it as often as the limit is given. -/
theorem add_mul_le_mul_limit {start cost limit : ℚ} {times tries : ℕ} (hstart : 0 ≤ start)
    (hwithin : start ≤ tries * limit) (hcost : 0 ≤ cost) (hlimit : start + cost ≤ limit)
    (htimes : times ≤ tries) : start + times * cost ≤ tries * limit := by
  cases tries with
  | zero =>
    rw [Nat.le_zero.mp htimes, Nat.cast_zero, zero_mul, add_zero]
    simpa using hwithin
  | succ others =>
    -- one fits beside the start, and each of the others fits alone
    have hothers : (others : ℚ) * cost ≤ others * limit :=
      mul_le_mul_of_nonneg_left (by linarith) (Nat.cast_nonneg others)
    have htimes : (times : ℚ) ≤ others + 1 := by exact_mod_cast htimes
    have hall : (times : ℚ) * cost ≤ (others + 1) * cost :=
      mul_le_mul_of_nonneg_right htimes hcost
    push_cast
    linarith

/-- A call keeps the cost of the user's live instances within the limit for every try. -/
theorem userCost_call_le {before after : Account} {request : OnDemandRequest userName}
    {attempts : List LaunchAttempt}
    (hnext : nextRetried connection host path before (.call request attempts) = some after)
    (hbefore : userCost userName before.listing ≤ connection.tries * spendLimit) :
    userCost userName after.listing ≤ connection.tries * spendLimit := by
  rw [nextRetried] at hnext
  split at hnext
  · next call hcall =>
    obtain ⟨⟨executed, account⟩, hsend, rfl⟩ := Option.map_eq_some_iff.mp hnext
    obtain ⟨hvisible, hcost, hlimit⟩ := call_of_accepted hcall
    obtain ⟨carriedOut, htries, hafter⟩ := userCost_sendLaunch hvisible hsend
    rw [hafter]
    exact add_mul_le_mul_limit (userCost_nonneg userName _) hbefore hcost hlimit htries
  · cases hnext
    exact hbefore

/-- A step keeps the cost of the user's live instances within the limit for every try. -/
theorem userCost_nextRetried_le (before : Account) (action : RetriedAction userName)
    (after : Account) (hstep : stepsOf (nextRetried connection host path) before action after)
    (hbefore : userCost userName before.listing ≤ connection.tries * spendLimit) :
    userCost userName after.listing ≤ connection.tries * spendLimit := by
  cases action with
  | call request attempts => exact userCost_call_le hstep hbefore
  | changeState id state =>
    cases hstep
    refine le_trans ?_ hbefore
    rw [Account.listing, Account.listing, userCost_append, userCost_append]
    exact add_le_add (userCost_changeReservations_le userName id state _)
      (userCost_changeReservations_le userName id state _)

/-- In every run the cost of the user's live instances stays within the limit for every try. -/
theorem userCost_le_tries {account last : Account} {actions : List (RetriedAction userName)}
    (hstart : userCost userName account.listing ≤ connection.tries * spendLimit)
    (hrun : Run (stepsOf (nextRetried connection host path)) account actions last) :
    userCost userName last.listing ≤ connection.tries * spendLimit :=
  hrun.invariant userCost_nextRetried_le hstart

/-- A request for as many small instances as the limit allows. -/
def fullRequest (userName : Text) : OnDemandRequest userName where
  info := ⟨some "ami-a28c7ccb".toList, .number (.int 60), some (keyPrefix userName ++ "k".toList),
    "m1.small".toList, [], some none, none, false⟩
  onDemand := rfl
  count := 60
  count_pos := by decide
  count_eq := rfl
  keyName := keyPrefix userName ++ "k".toList
  keyName_eq := rfl
  starts := List.prefix_append _ _

/-- EC2 launches the instances and answers that it is unavailable. -/
def unansweredAttempt (index : ℕ) : LaunchAttempt where
  exchange := .answered ⟨503, "Service Unavailable".toList, none, .ok []⟩
  launched := some ((List.range 60).map fun place ↦
    "i-".toList ++ numeral Nat.digitChar 16 (60 * index + place), 0)
  redirect_idle hmoved := absurd hmoved (by decide)

/-- The attempts of a call none of which is answered well. -/
def unansweredAttempts (tries : ℕ) : List LaunchAttempt := (List.range tries).map unansweredAttempt

/-- The call of the full request. -/
def fullCall (userName : Text) : LaunchCall :=
  .runInstances (some "ami-a28c7ccb".toList) (.number (.int 60)) (.number (.int 60))
    (keyPrefix userName ++ "k".toList) [] none "m1.small".toList none

/-- The full request is accepted over nothing. -/
theorem runInstances_fullRequest (userName : Text) :
    runInstances userName [] (fullRequest userName).info = .ok (fullCall userName) := by
  have hcost : costInstances userName [] = .ok (.int 0) := rfl
  have hproposal : costProposal "m1.small".toList (.number (.int 60)) =
      .ok (.number (.int 60)) := by decide +kernel
  have hstarts : userName.isPrefixOf (keyPrefix userName ++ "k".toList) = true :=
    List.isPrefixOf_iff_prefix.mpr ((List.prefix_append _ _).trans (List.prefix_append _ _))
  have hlimit : ¬ (PyNumber.add (.int 0) (.int 60)).toRat > spendLimit := by decide +kernel
  rw [runInstances, hcost]
  change runInstancesWith userName (.int 0) (fullRequest userName).info = _
  simp only [runInstancesWith, fullRequest, hproposal, hstarts, bind, Except.bind,
    PyNumber.addValue, hlimit]
  rfl

/-- The cost of the full call is the limit. -/
theorem cost_fullCall (userName : Text) : (fullCall userName).cost = spendLimit := by
  have hprice : price "m1.small".toList = 1 := by decide +kernel
  rw [fullCall, LaunchCall.cost, hprice, spendLimit]
  norm_num

theorem verdict_unanswered (tries : ℕ) :
    ∀ attempt ∈ unansweredAttempts tries, attempt.verdict = .failed := by
  intro attempt hattempt
  obtain ⟨index, -, rfl⟩ := List.mem_map.mp hattempt
  rfl

theorem launched_unanswered (tries : ℕ) : ∀ attempt ∈ unansweredAttempts tries,
    ∃ ids moment, attempt.launched = some (ids, moment) ∧ ids.length = 60 := by
  intro attempt hattempt
  obtain ⟨index, -, rfl⟩ := List.mem_map.mp hattempt
  exact ⟨_, _, rfl, by simp⟩

/-- A call that is never answered well is carried out at every try. -/
theorem exists_sendLaunch_unanswered (connection : AuthConnection) (host path userName : Text)
    (before : Account) : ∃ executed after,
      sendLaunch connection host path (fullCall userName) before
        (unansweredAttempts connection.tries) = some (executed, after) ∧
      userCost userName after.listing =
        userCost userName before.listing + connection.tries * spendLimit := by
  have hlength : (unansweredAttempts connection.tries).length = connection.tries := by
    simp [unansweredAttempts]
  have hask : ask LaunchAttempt.verdict connection.tries (unansweredAttempts connection.tries) =
      some ⟨unansweredAttempts connection.tries, none⟩ := by
    have hfailed := ask_of_failed (verdict_unanswered connection.tries)
    rwa [hlength] at hfailed
  obtain ⟨after, hfold⟩ := exists_foldlM_carryOut rfl (launched_unanswered connection.tries)
  obtain ⟨executed, hsend⟩ := sendLaunch_of_ask hask hfold
  have hall : (unansweredAttempts connection.tries).filter (·.launched.isSome) =
      unansweredAttempts connection.tries := by
    refine List.filter_eq_self.mpr fun attempt hattempt ↦ ?_
    obtain ⟨ids, moment, hlaunched, -⟩ := launched_unanswered connection.tries attempt hattempt
    rw [hlaunched]
    rfl
  have hvisible : (fullCall userName).Visible userName := (fullRequest userName).starts
  refine ⟨executed, after, hsend, ?_⟩
  rw [userCost_foldlM_carryOut hvisible hfold, hall, hlength, cost_fullCall]

/-- Over all runs from an account with no instance, the greatest cost of the user's live instances
is the limit as many times as a request may be sent. -/
theorem isGreatest_retriedCost (connection : AuthConnection) (host path userName : Text) :
    IsGreatest {cost | ∃ (actions : List (RetriedAction userName)) (account : Account),
      Run (stepsOf (nextRetried connection host path)) (Account.start []) actions account ∧
        userCost userName account.listing = cost} (connection.tries * spendLimit) := by
  have hempty : userCost userName (Account.start []).listing = 0 := rfl
  constructor
  · obtain ⟨executed, after, hsend, hcost⟩ :=
      exists_sendLaunch_unanswered connection host path userName (Account.start [])
    refine ⟨[.call (fullRequest userName) (unansweredAttempts connection.tries)], after,
      Run.single ?_, ?_⟩
    · change (match runInstances userName [] (fullRequest userName).info with
        | .ok call => _
        | .error _ => _) = _
      rw [runInstances_fullRequest]
      exact congrArg (Option.map Prod.snd) hsend
    · rw [hcost, hempty, zero_add]
  · rintro cost ⟨actions, account, hrun, rfl⟩
    refine userCost_le_tries ?_ hrun
    rw [hempty, spendLimit]
    positivity

end Runs

end Ec2Wrappers.Subaccounts
