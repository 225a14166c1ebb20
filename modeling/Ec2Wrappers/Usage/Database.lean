import Ec2Wrappers.Foundations.Doubles
import Ec2Wrappers.Foundations.Tables
import Ec2Wrappers.Aws.Ec2
import Mathlib.Data.Rat.Floor
import Mathlib.Tactic.NormNum

/-!
# The usage database

The tables and views that `record_usage.init_db` creates. A moment is an exact Julian day number.
Where a column holds the `julianday` of a moment the model has the moment itself, and the views,
which alone read these columns, take its `julianday`: a double, at a whole number of milliseconds.
On these doubles the arithmetic of the views is exact, as it is in SQLite for the dates of more than
two thousand years (`toDouble_hours`); the other SQL reals are exact rationals.

The columns `stopped_time` and `running_time` are declared `REAL` but are given the text of
`now.isoformat()`, which SQLite keeps as text because it is not a number. Such a text is
`SqlValue.text`, standing for the ISO text of its moment: two of them are equal when the moments
are. In arithmetic SQLite reads the longest numeric prefix of a text, and of an ISO text that is the
year (`yearOf`, the Gregorian year of a Julian day number).
-/

set_option autoImplicit false
set_option relaxedAutoImplicit false

namespace Ec2Wrappers.Usage

open Foundations Aws

/-! ### Values -/

/-- What the columns of `instance_stopped` hold: `text moment` is the ISO text of a moment. -/
inductive SqlValue
  | null
  | real (value : ℚ)
  | text (moment : ℚ)
  deriving DecidableEq, Repr

/-- The Gregorian year of a Julian day number. -/
def yearOf (moment : ℚ) : ℤ :=
  let a := ⌊moment + 1 / 2⌋ + 32044
  let b := (4 * a + 3) / 146097
  let c := a - 146097 * b / 4
  let d := (4 * c + 3) / 1461
  let m := (5 * (c - 1461 * d / 4) + 2) / 153
  100 * b + d - 4800 + m / 10

/-- The number SQLite reads in arithmetic; `NULL` has none. -/
def SqlValue.numeric : SqlValue → Option ℚ
  | .null => none
  | .real value => some value
  | .text moment => some (yearOf moment)

/-- `first - second`, `NULL` when either is. -/
def SqlValue.sub (first second : SqlValue) : Option ℚ :=
  match first.numeric, second.numeric with
  | some first, some second => some (first - second)
  | _, _ => none

/-- SQLite's `round`: to the nearest integer, halves away from zero. -/
def sqlRound (value : ℚ) : ℤ :=
  if 0 ≤ value then ⌊value + 1 / 2⌋ else -⌊-value + 1 / 2⌋

/-- The milliseconds that SQLite reads of a moment. -/
def milliseconds (moment : ℚ) : ℤ := ⌊86400000 * moment + 1 / 2⌋

/-- `julianday`. -/
def julianday (moment : ℚ) : ℚ := toDouble (milliseconds moment / 86400000)

/-! ### Tables -/

/-- A row of `instances`. -/
structure InstanceRow where
  instanceId : Text
  instanceType : Text
  startTime : ℚ
  endTime : Option ℚ
  lastSeen : ℚ
  isSpot : Bool
  username : Text
  deriving DecidableEq, Repr

/-- A row of `instance_stopped`. -/
structure StoppedRow where
  instanceId : Text
  stoppedTime : SqlValue
  runningTime : SqlValue
  deriving DecidableEq, Repr

/-- The primary key of `instance_stopped`. -/
def StoppedRow.key (row : StoppedRow) : Text × SqlValue := (row.instanceId, row.stoppedTime)

/-- A row of `pending_spot_requests`. -/
structure SpotRow where
  requestId : Text
  instanceType : Text
  requestTime : ℚ
  username : Text
  deriving DecidableEq, Repr

/-- The tables of the usage database. -/
structure UsageDb where
  instances : Table InstanceRow.instanceId
  instanceStopped : Table StoppedRow.key
  pendingSpotRequests : Table SpotRow.requestId
  deriving DecidableEq

/-- The database just created. -/
def UsageDb.empty : UsageDb := ⟨Table.empty, Table.empty, Table.empty⟩

/-- `SELECT end_time FROM instances WHERE instance_id = ?`, `NULL` when there is no row. -/
def UsageDb.endTime (db : UsageDb) (instanceId : Text) : Option ℚ :=
  (db.instances.find instanceId).bind InstanceRow.endTime

/-- The rows of `instance_stopped` of an instance. -/
def UsageDb.stoppedRows (db : UsageDb) (instanceId : Text) : List StoppedRow :=
  db.instanceStopped.rows.filter (·.instanceId = instanceId)

/-- `SELECT stopped_time FROM instance_stopped WHERE instance_id = ? AND running_time IS NULL`, the
last row of the answer. A `NULL` in it comes first, in the order of the primary key, and counts as
no answer. -/
def UsageDb.openStop (db : UsageDb) (instanceId : Text) : Option SqlValue :=
  ((db.stoppedRows instanceId).filter fun row ↦
    row.runningTime = .null ∧ row.stoppedTime ≠ .null).getLast?.map StoppedRow.stoppedTime

/-! ### Views -/

/-- The view `instance_stopped_time`: the sum of the known intervals of an instance in hours,
`NULL` when none is known. -/
def UsageDb.instanceStoppedTime (db : UsageDb) (instanceId : Text) : Option ℚ :=
  let intervals := ((db.stoppedRows instanceId).filter (·.stoppedTime ≠ .null)).filterMap
    fun row ↦ row.runningTime.sub row.stoppedTime
  if intervals = [] then none else some (intervals.map (· * 24)).sum

/-- A row of the views `finished_instance_times` and `pending_instance_times`. -/
structure HoursRow where
  instanceId : Text
  instanceType : Text
  hours : ℤ
  isSpot : Bool
  username : Text
  deriving DecidableEq, Repr

/-- The hours of an instance from its start to a moment, less what it was stopped. -/
def UsageDb.hoursUntil (db : UsageDb) (row : InstanceRow) (moment : ℚ) : ℤ :=
  sqlRound (24 * (julianday moment - julianday row.startTime) -
    (db.instanceStoppedTime row.instanceId).getD 0 + 1 / 2)

/-- A row of `instances` with the hours until a moment. -/
def UsageDb.hoursRow (db : UsageDb) (row : InstanceRow) (moment : ℚ) : HoursRow :=
  ⟨row.instanceId, row.instanceType, db.hoursUntil row moment, row.isSpot, row.username⟩

/-- The view `finished_instance_times`. -/
def UsageDb.finishedInstanceTimes (db : UsageDb) : List HoursRow :=
  db.instances.rows.filterMap fun row ↦ row.endTime.map (db.hoursRow row)

/-- The view `pending_instances`. -/
def UsageDb.pendingInstances (db : UsageDb) : List InstanceRow :=
  db.instances.rows.filter (·.endTime = none)

/-- The view `pending_instance_times` at a moment. -/
def UsageDb.pendingInstanceTimes (db : UsageDb) (now : ℚ) : List HoursRow :=
  db.pendingInstances.map fun row ↦ db.hoursRow row now

/-- An instance is pending exactly when its row has no end. -/
theorem mem_pendingInstances (db : UsageDb) (row : InstanceRow) :
    row ∈ db.pendingInstances ↔ row ∈ db.instances.rows ∧ row.endTime = none := by
  simp [UsageDb.pendingInstances]

/-! ### Julian days as doubles -/

/-- The dates from the year 1029 to the year 3900. -/
def IsDate (moment : ℚ) : Prop := 2 ^ 21 ≤ moment ∧ moment ≤ 3 * 2 ^ 20

section Doubles

variable {moment start finish : ℚ}

/-- A moment to the millisecond. -/
theorem abs_milliseconds_sub_le (moment : ℚ) :
    |(milliseconds moment : ℚ) / 86400000 - moment| ≤ 1 / 172800000 := by
  have hbelow := Int.floor_le (86400000 * moment + 1 / 2)
  have habove := Int.lt_floor_add_one (86400000 * moment + 1 / 2)
  rw [abs_le, milliseconds]
  constructor <;> linarith

/-- A date to the millisecond is a date. -/
theorem IsDate.milliseconds (hdate : IsDate moment) :
    IsDate ((Usage.milliseconds moment : ℚ) / 86400000) := by
  obtain ⟨hfirst, hlast⟩ := hdate
  have hlow : (86400000 * 2 ^ 21 : ℤ) ≤ Usage.milliseconds moment := by
    refine Int.le_floor.mpr ?_
    push_cast
    linarith
  have hhigh : Usage.milliseconds moment ≤ 86400000 * (3 * 2 ^ 20) := by
    refine Int.floor_le_iff.mpr ?_
    push_cast
    linarith
  have hlow : (86400000 * 2 ^ 21 : ℚ) ≤ Usage.milliseconds moment := by exact_mod_cast hlow
  have hhigh : (Usage.milliseconds moment : ℚ) ≤ 86400000 * (3 * 2 ^ 20) := by
    exact_mod_cast hhigh
  constructor <;> linarith

/-- The `julianday` of a date is a multiple of the last place of such dates. -/
theorem exists_julianday_eq (hdate : IsDate moment) :
    ∃ n : ℤ, julianday moment = n * 2 ^ (-31 : ℤ) := by
  obtain ⟨hfirst, hlast⟩ := hdate.milliseconds
  have hpos : (0 : ℚ) < (milliseconds moment : ℚ) / 86400000 := by linarith
  refine exists_toDouble_eq ?_
  have hlog : 21 ≤ Int.log 2 |(milliseconds moment : ℚ) / 86400000| := by
    refine (Int.zpow_le_iff_le_log one_lt_two (abs_pos.mpr hpos.ne')).mp ?_
    rw [abs_of_pos hpos]
    exact_mod_cast hfirst
  rw [lastPlace]
  omega

/-- What `julianday` changes a date by. -/
theorem abs_julianday_sub_le (hdate : IsDate moment) :
    |julianday moment - moment| ≤ 1 / 172800000 + 1 / 2 ^ 32 := by
  obtain ⟨hfirst, hlast⟩ := hdate.milliseconds
  have hread := abs_milliseconds_sub_le moment
  have hdouble : |julianday moment - (milliseconds moment : ℚ) / 86400000| ≤
      2 ^ (-31 : ℤ) / 2 := by
    refine abs_toDouble_sub_le ?_
    rw [abs_of_nonneg (by linarith)]
    refine lt_of_le_of_lt hlast ?_
    norm_num
  have hplace : (2 : ℚ) ^ (-31 : ℤ) / 2 = 1 / 2 ^ 32 := by norm_num
  rw [hplace] at hdouble
  rw [abs_le] at *
  constructor <;> linarith

/-- For dates the doubles of the views are exact: the difference, the hours, and the half more. -/
theorem toDouble_hours (hstart : IsDate start) (hfinish : IsDate finish) :
    toDouble (toDouble (24 * toDouble (julianday finish - julianday start)) + 1 / 2) =
      24 * (julianday finish - julianday start) + 1 / 2 := by
  obtain ⟨first, hfirst⟩ := exists_julianday_eq hstart
  obtain ⟨last, hlast⟩ := exists_julianday_eq hfinish
  have hnear : |julianday finish - julianday start| ≤ 2 ^ 20 + 1 := by
    have hstartError := abs_le.mp (abs_julianday_sub_le hstart)
    have hfinishError := abs_le.mp (abs_julianday_sub_le hfinish)
    obtain ⟨hstartLow, hstartHigh⟩ := hstart
    obtain ⟨hfinishLow, hfinishHigh⟩ := hfinish
    rw [abs_le]
    constructor <;> linarith
  have hdifference : julianday finish - julianday start =
      ((last - first : ℤ) : ℚ) * 2 ^ (-31 : ℤ) := by
    rw [hfirst, hlast]
    push_cast
    ring
  have hhours : 24 * (julianday finish - julianday start) =
      ((3 * (last - first) : ℤ) : ℚ) * 2 ^ (-28 : ℤ) := by
    rw [hdifference]
    push_cast
    ring
  have hmore : 24 * (julianday finish - julianday start) + 1 / 2 =
      ((3 * (last - first) + 2 ^ 27 : ℤ) : ℚ) * 2 ^ (-28 : ℤ) := by
    rw [hhours]
    push_cast
    ring
  have hkept {value : ℚ} {n e : ℤ} (hvalue : value = n * 2 ^ e) (hlt : |value| < 2 ^ (e + 53)) :
      toDouble value = value := by
    subst hvalue
    exact toDouble_eq_self hlt
  have hbounds := abs_le.mp hnear
  rw [hkept hdifference (hnear.trans_lt (by norm_num)), hkept hhours ?_, hkept hmore ?_]
  · rw [abs_lt]
    norm_num
    constructor <;> linarith
  · rw [abs_lt]
    norm_num
    constructor <;> linarith

end Doubles

end Ec2Wrappers.Usage
