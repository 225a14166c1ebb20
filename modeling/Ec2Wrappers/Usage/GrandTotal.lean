import Ec2Wrappers.Foundations.Grouping
import Ec2Wrappers.Subaccounts.Quota
import Ec2Wrappers.Usage.Database
import Mathlib.Algebra.Order.BigOperators.Group.List
import Mathlib.Tactic.Linarith
import Mathlib.Tactic.Positivity

/-!
# The grand total of the usage report

`report_set`, `user_report` and `users` of `record_usage.py`, and the report of `usage_report.py`
for `ALL`, in exact arithmetic and at one moment. Of a report only the total is read here. The
report for `ALL` leaves out the live update and includes what is pending.

The users come from the table `instances` alone. Every finished and every pending instance is then
counted once, under its user; an open spot request is counted under its user, too, but only when the
user has an instance. `flatTotal` is the sum over the rows themselves, and the report falls short of
it by the requests of the users without an instance (`usageReportAll_eq`). The two agree exactly
when there is no such request (`usageReportAll_iff`).
-/

set_option autoImplicit false
set_option relaxedAutoImplicit false

namespace Ec2Wrappers.Usage

open Foundations Subaccounts

/-! ### The report -/

/-- `COST_BASE`. -/
def costBase : ℚ := 85 / 1000

/-- `SPOT_FACTOR`. -/
def spotFactor : ℚ := 7 / 10

/-- The price of an hour. The table `INSTANCE_COST` of `record_usage.py` is that of
`subaccounts.py`. -/
def estimate (isSpot : Bool) (instanceType : Text) : Except PyError ℚ := do
  let cost ← instanceCostOf instanceType
  let estimate := cost.toRat * costBase
  return if isSpot then estimate * spotFactor else estimate

/-- A group of a report: whether it is of spot instances, the type, and the hours. -/
abbrev ReportGroup := (Bool × Text) × ℚ

/-- What a group costs. -/
def subtotal (group : ReportGroup) : Except PyError ℚ := do
  let estimate ← estimate group.1.1 group.1.2
  return estimate * group.2

/-- `report_set`: the total. -/
def reportSet (instanceHourSet : List ReportGroup) : Except PyError ℚ :=
  instanceHourSet.foldlM (fun total group ↦ do
    let subtotal ← subtotal group
    return total + subtotal) 0

/-- A report that is only made when there is a group. -/
def reportNonempty (include_ : Bool) (instanceHourSet : List ReportGroup) : Except PyError ℚ :=
  if include_ ∧ instanceHourSet.length ≠ 0 then reportSet instanceHourSet else .ok 0

/-- The group of a row of one of the two views. -/
def HoursRow.group (row : HoursRow) : Bool × Text := (row.isSpot, row.instanceType)

/-- The group of a pending request: `1 AS is_spot`. -/
def SpotRow.group (row : SpotRow) : Bool × Text := (true, row.instanceType)

/-- `SELECT is_spot, instance_type, SUM(hours) … GROUP BY is_spot, instance_type`. -/
def groupHours (rows : List HoursRow) : List ReportGroup :=
  groupSums HoursRow.group (fun row ↦ (row.hours : ℚ)) rows

/-- `SELECT 1 AS is_spot, instance_type, COUNT(*) … GROUP BY instance_type`. -/
def groupRequests (rows : List SpotRow) : List ReportGroup :=
  groupSums SpotRow.group (fun _ ↦ (1 : ℚ)) rows

/-- `user_report` with `include_live=False`: the total. -/
def userReport (db : UsageDb) (now : ℚ) (username : Text) (includePending : Bool) :
    Except PyError ℚ := do
  let finishedInstances := groupHours (db.finishedInstanceTimes.filter (·.username = username))
  let pendingInstances := groupHours ((db.pendingInstanceTimes now).filter (·.username = username))
  let pendingSpotRequests :=
    groupRequests (db.pendingSpotRequests.rows.filter (·.username = username))
  let requests ← reportNonempty includePending pendingSpotRequests
  let running ← reportNonempty includePending pendingInstances
  let finished ← reportSet finishedInstances
  return requests + running + finished

/-- `users`. -/
def users (db : UsageDb) : List Text := (db.instances.rows.map InstanceRow.username).dedup

/-- The sum that `usage_report` prints for `ALL`. -/
def usageReportAll (db : UsageDb) (now : ℚ) : Except PyError ℚ :=
  (users db).foldlM (fun overallTotal user ↦ do
    let total ← userReport db now user true
    return overallTotal + total) 0

/-! ### The flat sum -/

/-- The price of an hour, zero for a type with no price. -/
def rate (group : Bool × Text) : ℚ :=
  match estimate group.1 group.2 with
  | .ok estimate => estimate
  | .error _ => 0

/-- What a row of one of the two views costs. -/
def HoursRow.cost (row : HoursRow) : ℚ := rate row.group * row.hours

/-- What a pending request costs: one spot hour. -/
def SpotRow.cost (row : SpotRow) : ℚ := rate row.group

/-- The sum over every row. -/
def flatTotal (db : UsageDb) (now : ℚ) : ℚ :=
  (db.pendingSpotRequests.rows.map SpotRow.cost).sum +
    ((db.pendingInstanceTimes now).map HoursRow.cost).sum +
      (db.finishedInstanceTimes.map HoursRow.cost).sum

/-- Every instance type in the tables has a price. -/
def Priced (db : UsageDb) : Prop :=
  (∀ row ∈ db.instances.rows, row.instanceType ∈ instanceCost.map Prod.fst) ∧
    ∀ row ∈ db.pendingSpotRequests.rows, row.instanceType ∈ instanceCost.map Prod.fst

instance (db : UsageDb) : Decidable (Priced db) := inferInstanceAs (Decidable (_ ∧ _))

/-- Every user with a pending request has an instance. -/
def RequestersListed (db : UsageDb) : Prop :=
  ∀ row ∈ db.pendingSpotRequests.rows, row.username ∈ users db

instance (db : UsageDb) : Decidable (RequestersListed db) :=
  inferInstanceAs (Decidable (∀ _ ∈ _, _))

/-! ### The totals -/

/-- A type in the table has an estimate. -/
theorem estimate_eq_rate {group : Bool × Text}
    (hpriced : group.2 ∈ instanceCost.map Prod.fst) :
    estimate group.1 group.2 = .ok (rate group) := by
  obtain ⟨entry, hentry, htype⟩ := List.mem_map.mp hpriced
  have hsome : (instanceCost.lookup group.2).isSome := by
    rw [List.lookup_isSome_iff]
    exact ⟨entry, hentry, by simp [htype]⟩
  obtain ⟨cost, hcost⟩ := Option.isSome_iff_exists.mp hsome
  simp only [rate, estimate, instanceCostOf, hcost, bind, Except.bind, pure, Except.pure]

/-- The rate of a type in the table is positive. -/
theorem rate_pos {group : Bool × Text} (hpriced : group.2 ∈ instanceCost.map Prod.fst) :
    0 < rate group := by
  have hestimate := estimate_eq_rate hpriced
  obtain ⟨cost, hcost, hestimate⟩ := ok_of_bind hestimate
  have hpos := instanceCostOf_pos hcost
  rw [← Except.ok.inj hestimate]
  unfold costBase spotFactor
  split_ifs <;> positivity

/-- A loop that adds up what returns. -/
theorem foldlM_add {Item : Type} {items : List Item} {body : Item → Except PyError ℚ}
    {value : Item → ℚ} (hbody : ∀ item ∈ items, body item = .ok (value item)) (total : ℚ) :
    (items.foldlM (fun total item ↦ do
      let amount ← body item
      return total + amount) total : Except PyError ℚ) = .ok (total + (items.map value).sum) := by
  induction items generalizing total with
  | nil => simp [pure, Except.pure]
  | cons item rest ih =>
    have hrest := ih (fun other hother ↦ hbody other (List.mem_cons_of_mem item hother))
      (total + value item)
    rw [List.foldlM_cons, hbody item List.mem_cons_self]
    rw [List.map_cons, List.sum_cons, ← add_assoc]
    exact hrest

/-- The total of a report over groups whose types have prices. -/
theorem reportSet_eq {groups : List ReportGroup}
    (hpriced : ∀ group ∈ groups, group.1.2 ∈ instanceCost.map Prod.fst) :
    reportSet groups = .ok (groups.map fun group ↦ rate group.1 * group.2).sum := by
  have hbody : ∀ group ∈ groups, subtotal group = .ok (rate group.1 * group.2) := by
    intro group hgroup
    rw [subtotal, estimate_eq_rate (hpriced group hgroup)]
    rfl
  rw [reportSet, foldlM_add hbody, zero_add]

/-- An empty report costs nothing. -/
theorem reportNonempty_true (groups : List ReportGroup) :
    reportNonempty true groups = reportSet groups := by
  unfold reportNonempty
  split_ifs with hnonempty
  · rfl
  · have hempty : groups = [] := by simpa using hnonempty
    rw [hempty]
    rfl

/-- The groups of some rows have the types of the rows. -/
theorem types_of_groupSums {Row : Type} {key : Row → Bool × Text} {amount : Row → ℚ}
    {rows : List Row} (hpriced : ∀ row ∈ rows, (key row).2 ∈ instanceCost.map Prod.fst) :
    ∀ group ∈ groupSums key amount rows, group.1.2 ∈ instanceCost.map Prod.fst := by
  intro group hgroup
  obtain ⟨k, hk, rfl⟩ := List.mem_map.mp hgroup
  obtain ⟨row, hrow, rfl⟩ := List.mem_map.mp (List.mem_dedup.mp hk)
  exact hpriced row hrow

/-- The total of a report is the sum of what the rows cost. -/
theorem reportSet_groupHours {rows : List HoursRow}
    (hpriced : ∀ row ∈ rows, row.instanceType ∈ instanceCost.map Prod.fst) :
    reportSet (groupHours rows) = .ok (rows.map HoursRow.cost).sum := by
  rw [groupHours, reportSet_eq (types_of_groupSums hpriced), sum_groups]
  rfl

theorem reportSet_groupRequests {rows : List SpotRow}
    (hpriced : ∀ row ∈ rows, row.instanceType ∈ instanceCost.map Prod.fst) :
    reportSet (groupRequests rows) = .ok (rows.map SpotRow.cost).sum := by
  rw [groupRequests, reportSet_eq (types_of_groupSums hpriced), sum_groups]
  simp only [mul_one]
  rfl

section Totals

variable {db : UsageDb} {now : ℚ}

/-- A row of the finished view comes from an instance. -/
theorem mem_finishedInstanceTimes {row : HoursRow} (hrow : row ∈ db.finishedInstanceTimes) :
    ∃ instance_ ∈ db.instances.rows, row.instanceType = instance_.instanceType ∧
      row.username = instance_.username := by
  obtain ⟨instance_, hmem, hended⟩ := List.mem_filterMap.mp hrow
  obtain ⟨finish, -, rfl⟩ := Option.map_eq_some_iff.mp hended
  exact ⟨instance_, hmem, rfl, rfl⟩

/-- A row of the pending view comes from an instance. -/
theorem mem_pendingInstanceTimes {row : HoursRow} (hrow : row ∈ db.pendingInstanceTimes now) :
    ∃ instance_ ∈ db.instances.rows, row.instanceType = instance_.instanceType ∧
      row.username = instance_.username := by
  obtain ⟨instance_, hmem, rfl⟩ := List.mem_map.mp hrow
  exact ⟨instance_, ((mem_pendingInstances db instance_).mp hmem).1, rfl, rfl⟩

/-- The user of an instance is listed. -/
theorem mem_users {instance_ : InstanceRow} (hmem : instance_ ∈ db.instances.rows) :
    instance_.username ∈ users db :=
  List.mem_dedup.mpr (List.mem_map_of_mem hmem)

/-- The total of a user is the sum of what the user's rows cost. -/
theorem userReport_eq (hpriced : Priced db) (username : Text) :
    userReport db now username true = .ok
      (((db.pendingSpotRequests.rows.filter (·.username = username)).map SpotRow.cost).sum +
        (((db.pendingInstanceTimes now).filter (·.username = username)).map HoursRow.cost).sum +
          ((db.finishedInstanceTimes.filter (·.username = username)).map HoursRow.cost).sum) := by
  have hrequests : ∀ row ∈ db.pendingSpotRequests.rows.filter (·.username = username),
      row.instanceType ∈ instanceCost.map Prod.fst := fun row hrow ↦
    hpriced.2 row (List.mem_filter.mp hrow).1
  have hpending : ∀ row ∈ (db.pendingInstanceTimes now).filter (·.username = username),
      row.instanceType ∈ instanceCost.map Prod.fst := by
    intro row hrow
    obtain ⟨instance_, hmem, htype, -⟩ := mem_pendingInstanceTimes (List.mem_filter.mp hrow).1
    exact htype ▸ hpriced.1 instance_ hmem
  have hfinished : ∀ row ∈ db.finishedInstanceTimes.filter (·.username = username),
      row.instanceType ∈ instanceCost.map Prod.fst := by
    intro row hrow
    obtain ⟨instance_, hmem, htype, -⟩ := mem_finishedInstanceTimes (List.mem_filter.mp hrow).1
    exact htype ▸ hpriced.1 instance_ hmem
  simp only [userReport, reportNonempty_true, reportSet_groupRequests hrequests,
    reportSet_groupHours hpending, reportSet_groupHours hfinished]
  rfl

/-- The report falls short of the flat sum by the requests of the users that are not listed. -/
theorem usageReportAll_eq (hpriced : Priced db) : ∃ total, usageReportAll db now = .ok total ∧
    total + ((db.pendingSpotRequests.rows.filter (·.username ∉ users db)).map SpotRow.cost).sum =
      flatTotal db now := by
  have hnodup : (users db).Nodup := List.nodup_dedup _
  have hpending : ∀ row ∈ db.pendingInstanceTimes now, row.username ∈ users db := by
    intro row hrow
    obtain ⟨instance_, hmem, -, huser⟩ := mem_pendingInstanceTimes hrow
    exact huser ▸ mem_users hmem
  have hfinished : ∀ row ∈ db.finishedInstanceTimes, row.username ∈ users db := by
    intro row hrow
    obtain ⟨instance_, hmem, -, huser⟩ := mem_finishedInstanceTimes hrow
    exact huser ▸ mem_users hmem
  have hrequests : ((users db).map fun user ↦
      ((db.pendingSpotRequests.rows.filter (·.username = user)).map SpotRow.cost).sum).sum +
        ((db.pendingSpotRequests.rows.filter (·.username ∉ users db)).map SpotRow.cost).sum =
          (db.pendingSpotRequests.rows.map SpotRow.cost).sum := by
    rw [← sum_over_keys_add_missed SpotRow.username SpotRow.cost hnodup
      db.pendingSpotRequests.rows]
    exact congrArg _ (congrArg _ (congrArg _ (List.filter_congr fun row _ ↦ by congr)))
  refine ⟨_, foldlM_add (fun user _ ↦ userReport_eq hpriced user) 0, ?_⟩
  rw [zero_add, List.sum_map_add, List.sum_map_add,
    sum_over_keys_all HoursRow.username HoursRow.cost hnodup hpending,
    sum_over_keys_all HoursRow.username HoursRow.cost hnodup hfinished, flatTotal, ← hrequests]
  ring

/-- The requests of the users that are not listed cost nothing only when there is none. -/
theorem sum_missed_eq_zero_iff (hpriced : Priced db) :
    ((db.pendingSpotRequests.rows.filter (·.username ∉ users db)).map SpotRow.cost).sum = 0 ↔
      RequestersListed db := by
  have hpos : ∀ row ∈ db.pendingSpotRequests.rows, 0 < row.cost := fun row hrow ↦
    rate_pos (hpriced.2 row hrow)
  constructor
  · intro hzero row hrow
    by_contra hmissed
    have hmem : row ∈ db.pendingSpotRequests.rows.filter (·.username ∉ users db) :=
      List.mem_filter.mpr ⟨hrow, by simpa using hmissed⟩
    have hnonneg : ∀ amount ∈
        (db.pendingSpotRequests.rows.filter (·.username ∉ users db)).map SpotRow.cost,
        0 ≤ amount := by
      intro amount hamount
      obtain ⟨other, hother, rfl⟩ := List.mem_map.mp hamount
      exact (hpos other (List.mem_filter.mp hother).1).le
    have hle := List.single_le_sum hnonneg row.cost (List.mem_map_of_mem hmem)
    rw [hzero] at hle
    exact absurd (hpos row hrow) (not_lt.mpr hle)
  · intro hlisted
    rw [List.filter_eq_nil_iff.mpr fun row hrow ↦ by simpa using hlisted row hrow]
    rfl

/-- The sum printed for `ALL` is the sum over every row exactly when every user with a pending
request has an instance. -/
theorem usageReportAll_iff (hpriced : Priced db) :
    usageReportAll db now = .ok (flatTotal db now) ↔ RequestersListed db := by
  obtain ⟨total, hreport, hmissed⟩ := @usageReportAll_eq db now hpriced
  rw [hreport, Except.ok.injEq, ← sum_missed_eq_zero_iff hpriced, ← hmissed, eq_comm,
    add_eq_left]

end Totals

/-- A database with one running instance of user `cs61c-aa`, and an open spot request of a user. -/
def requestingDb (username : Text) : UsageDb where
  instances := Table.empty.insertOrReplace
    ⟨"i-1".toList, "m1.large".toList, 0, none, 0, false, "cs61c-aa".toList⟩
  instanceStopped := Table.empty
  pendingSpotRequests := Table.empty.insertOrReplace
    ⟨"sir-1".toList, "m1.small".toList, 0, username⟩

theorem usageReportAll_iff_requestingDb :
    usageReportAll (requestingDb "cs61c-aa".toList) 1 =
      .ok (flatTotal (requestingDb "cs61c-aa".toList) 1) :=
  (usageReportAll_iff (by decide +kernel)).mpr (by decide +kernel)

/-- The request of a user with no instance is missing from the sum. -/
theorem usageReportAll_misses : Priced (requestingDb "cs61c-ab".toList) ∧
    usageReportAll (requestingDb "cs61c-ab".toList) 1 ≠
      .ok (flatTotal (requestingDb "cs61c-ab".toList) 1) := by
  have hpriced : Priced (requestingDb "cs61c-ab".toList) := by decide +kernel
  refine ⟨hpriced, fun hreport ↦ ?_⟩
  obtain ⟨total, hsum, hmissed⟩ := @usageReportAll_eq (requestingDb "cs61c-ab".toList) 1 hpriced
  rw [hsum, Except.ok.injEq] at hreport
  rw [hreport, add_eq_left, sum_missed_eq_zero_iff hpriced] at hmissed
  exact absurd hmissed (by decide +kernel)

end Ec2Wrappers.Usage
