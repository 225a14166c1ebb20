import Ec2Wrappers.Usage.Import
import Mathlib.Tactic.Linarith
import Mathlib.Tactic.NormNum

/-!
# The billed hours of a finished instance

One instance observed by a sequence of completed `update_instances` runs, each at its own moment and
in the state the listing shows, the last of them the first to see the instance terminated.
`stoppedHours` states what the ledger is for: the hours of the intervals that begin at the first
stopped observation of a block and end at the next observation that is not stopped.

No interval is ever closed. The statement that should close one when the instance runs again is
refused by SQLite, and nothing closes one on termination, so after a history that did not raise
every row of the instance in `instance_stopped` still has no `running_time` (`Tracks`) and the view
counts no stopped hours at all. A run raises exactly when it sees the instance alive and not stopped
after a stopped observation (`observeAll_alive`). The hours are those of the specification exactly
for the histories of `BilledInFull` (`billedHours_iff`): the instance has a key name, no such
observation occurs, and the time to the first stop, or to the end, rounds as the difference of the
doubles that the view has for the launch and the end. For an instance that never stops it does when
it is off every whole hour by more than the doubles are off (`billedInFull_of_clear`); a whole
number of hours may be billed one hour less.
-/

set_option autoImplicit false
set_option relaxedAutoImplicit false

namespace Ec2Wrappers.Usage

open Foundations Aws

/-! ### Observing one instance -/

/-- What one run sees of the instance: the argument of `update_instances`, the moment and the state
the listing shows. -/
structure Observation where
  username : Option Text
  now : ℚ
  state : InstanceState
  deriving DecidableEq, Repr

/-- The run lists the instance: it has no filter, or one that the key name of the instance meets. -/
def Observation.Lists (observation : Observation) (instance_ : Instance) : Prop :=
  ∀ username, truthy observation.username = some username → instance_.keyStartsWith username = true

instance (observation : Observation) (instance_ : Instance) :
    Decidable (observation.Lists instance_) :=
  inferInstanceAs (Decidable (∀ _, _ = some _ → _))

/-- The instance as a listing shows it in a state. -/
def showing (instance_ : Instance) (state : InstanceState) : Instance :=
  { instance_ with state := state }

@[simp] theorem showing_id (instance_ : Instance) (state : InstanceState) :
    (showing instance_ state).id = instance_.id := rfl

/-- One run of `update_instances` whose listing has the instance alone; the process ends with the
run. -/
def observe (groups : List InstanceGroup) (instance_ : Instance) (db : UsageDb)
    (observation : Observation) : Except PyError UsageDb :=
  let account : List Reservation := [⟨groups, [showing instance_ observation.state]⟩]
  match updateInstances observation.username account observation.now (.idle db) with
  | (.ok (), connection) => .ok connection.close
  | (.error error, _) => .error error

/-- The runs one after the other, up to the first that raises. -/
def observeAll (groups : List InstanceGroup) (instance_ : Instance) :
    UsageDb → List Observation → Except PyError UsageDb :=
  List.foldlM (observe groups instance_)

/-- The hours of an instance in `finished_instance_times`. -/
def UsageDb.finishedHours (db : UsageDb) (instanceId : Text) : List ℤ :=
  (db.finishedInstanceTimes.filter (·.instanceId = instanceId)).map HoursRow.hours

/-! ### What the ledger is for -/

/-- The hours of the stop intervals of a history that ends at `finish`. `since` is the beginning of
the interval that is open when the history begins. -/
def stoppedHours (since : Option ℚ) (finish : ℚ) : List Observation → ℚ
  | [] => (since.map fun start ↦ 24 * (finish - start)).getD 0
  | observation :: rest =>
    if observation.state = .stopped then
      stoppedHours (some (since.getD observation.now)) finish rest
    else
      (since.map fun start ↦ 24 * (observation.now - start)).getD 0 + stoppedHours none finish rest

/-- After a stopped observation the instance is seen alive only as stopped. -/
def StaysStopped (earlier later : Observation) : Prop :=
  earlier.state = .stopped → later.state = .stopped

instance (earlier later : Observation) : Decidable (StaysStopped earlier later) :=
  inferInstanceAs (Decidable (_ → _))

/-- The first stop of a history, or else its end. -/
def firstStop (history : List Observation) (finish : ℚ) : ℚ :=
  ((history.find? (·.state = .stopped)).map Observation.now).getD finish

/-- The histories whose hours are right: the instance has a key name, is never seen running again
after a stop, and the hours to its first stop round as those between the doubles of its launch and
its end. -/
def BilledInFull (instance_ : Instance) (history : List Observation) (finish : ℚ) : Prop :=
  instance_.keyName.isSome ∧ history.Pairwise StaysStopped ∧
    sqlRound (24 * (firstStop history finish - instance_.launchTime) + 1 / 2) =
      sqlRound (24 * (julianday finish - julianday instance_.launchTime) + 1 / 2)

/-! ### The specification on histories without a restart -/

/-- A history that only stays stopped lasts to its end. -/
theorem stoppedHours_of_stopped (start finish : ℚ) {history : List Observation}
    (hstopped : ∀ observation ∈ history, observation.state = .stopped) :
    stoppedHours (some start) finish history = 24 * (finish - start) := by
  induction history with
  | nil => rfl
  | cons observation rest ih =>
    rw [stoppedHours, if_pos (hstopped observation List.mem_cons_self), Option.getD_some]
    exact ih fun other hother ↦ hstopped other (List.mem_cons_of_mem observation hother)

/-- Without a restart the instance is stopped from its first stop to its end. -/
theorem stoppedHours_of_staysStopped (finish : ℚ) {history : List Observation}
    (hstays : history.Pairwise StaysStopped) :
    stoppedHours none finish history = 24 * (finish - firstStop history finish) := by
  induction history with
  | nil => simp [stoppedHours, firstStop]
  | cons observation rest ih =>
    obtain ⟨hfirst, hrest⟩ := List.pairwise_cons.mp hstays
    by_cases hstop : observation.state = .stopped
    · rw [stoppedHours, if_pos hstop, firstStop, List.find?_cons_of_pos (by simpa using hstop)]
      exact stoppedHours_of_stopped observation.now finish fun other hother ↦
        hfirst other hother hstop
    · rw [stoppedHours, if_neg hstop, firstStop, List.find?_cons_of_neg (by simpa using hstop),
        ← firstStop, ih hrest]
      exact zero_add _

/-! ### The tables along a history -/

/-- The row of `instance_stopped` that a stopped observation leaves. -/
def openRow (instanceId : Text) (observation : Observation) : StoppedRow :=
  ⟨instanceId, .text observation.now, .null⟩

/-- The tables after some observations: no end, and one open interval for each stopped
observation. -/
def Tracks (instanceId : Text) (seen : List Observation) (db : UsageDb) : Prop :=
  db.endTime instanceId = none ∧
    db.stoppedRows instanceId = (seen.filter (·.state = .stopped)).map (openRow instanceId)

section Steps

variable (groups : List InstanceGroup) {instance_ : Instance} {observation : Observation}
  {seen : List Observation} {db : UsageDb} {keyName : Text}

/-- A run that lists the instance imports it. -/
theorem observe_eq (hlists : observation.Lists instance_) :
    observe groups instance_ db observation =
      match importInstance observation.now (showing instance_ observation.state) db with
      | (.ok (), after) => .ok after
      | (.error error, _) => .error error := by
  have hlisted : instancesOf (getAllInstances
      [⟨groups, [showing instance_ observation.state]⟩] (truthy observation.username)) =
      [showing instance_ observation.state] := by
    cases hfilter : truthy observation.username with
    | none => rfl
    | some username =>
      rw [instancesOf_getAllInstances]
      have hmatch : (showing instance_ observation.state).keyStartsWith username =
          instance_.keyStartsWith username := rfl
      simp [hmatch, hlists username hfilter]
  simp only [observe, updateInstances, hlisted, importListing, Py.forEach_cons]
  rcases hrun :
    importInstance observation.now (showing instance_ observation.state) db with
      ⟨result, after⟩
  cases result with
  | ok value =>
    rw [Py.run_bind_ok (transaction_of_ok hrun)]
    rfl
  | error error =>
    rw [Py.run_bind_error (transaction_of_error hrun)]

@[simp] theorem stoppedRows_replaceInstance (row : InstanceRow) (instanceId : Text) :
    (db.replaceInstance row).stoppedRows instanceId = db.stoppedRows instanceId := rfl

/-- An interval is open exactly when the instance was seen stopped. -/
theorem openStop_eq_none_iff (htracks : Tracks instance_.id seen db) :
    db.openStop instance_.id = none ↔ ∀ earlier ∈ seen, earlier.state ≠ .stopped := by
  have hopen : ((db.stoppedRows instance_.id).filter fun row ↦
      row.runningTime = .null ∧ row.stoppedTime ≠ .null) =
        (seen.filter (·.state = .stopped)).map (openRow instance_.id) := by
    rw [htracks.2, List.filter_eq_self]
    intro row hrow
    obtain ⟨earlier, -, rfl⟩ := List.mem_map.mp hrow
    simp [openRow]
  rw [UsageDb.openStop, hopen, Option.map_eq_none_iff, List.getLast?_eq_none_iff,
    List.map_eq_nil_iff, List.filter_eq_nil_iff]
  simp

/-- A stopped observation at a new moment opens an interval. -/
theorem insertStopped_of_tracks (htracks : Tracks instance_.id seen db)
    (hlater : ∀ earlier ∈ seen, earlier.now < observation.now)
    (hstate : observation.state = .stopped) :
    ∃ after, insertStopped instance_.id observation.now db = (.ok (), after) ∧
      Tracks instance_.id (seen ++ [observation]) after := by
  have hfree : StoppedRow.key (openRow instance_.id observation) ∉
      db.instanceStopped.rows.map StoppedRow.key := by
    intro htaken
    obtain ⟨row, hrow, hkey⟩ := List.mem_map.mp htaken
    obtain ⟨hid, hmoment⟩ := Prod.mk.inj hkey
    have hown : row ∈ db.stoppedRows instance_.id :=
      List.mem_filter.mpr ⟨hrow, by simpa [openRow] using hid⟩
    rw [htracks.2] at hown
    obtain ⟨earlier, hearlier, rfl⟩ := List.mem_map.mp hown
    have hsame : earlier.now = observation.now := SqlValue.text.inj hmoment
    exact (hlater earlier (List.mem_filter.mp hearlier).1).ne hsame
  obtain ⟨rows, hinsert, hrows⟩ := db.instanceStopped.insert_of_free hfree
  refine ⟨{ db with instanceStopped := rows }, ?_, htracks.1, ?_⟩
  · rw [insertStopped]
    rw [openRow] at hinsert
    rw [hinsert]
  · have hold := htracks.2
    simp only [UsageDb.stoppedRows] at hold ⊢
    rw [hrows, List.filter_append, hold]
    simp [openRow, hstate]

/-- An observation that is not a restart returns, and the tables track it. -/
theorem observe_stays (hkey : instance_.keyName = some keyName)
    (hlists : observation.Lists instance_) (hstate : observation.state ≠ .terminated)
    (hlater : ∀ earlier ∈ seen, earlier.now < observation.now)
    (htracks : Tracks instance_.id seen db)
    (hstays : ∀ earlier ∈ seen, StaysStopped earlier observation) :
    ∃ after, observe groups instance_ db observation = .ok after ∧
      Tracks instance_.id (seen ++ [observation]) after := by
  have hreplaced : Tracks instance_.id seen (db.replaceInstance (instanceRow
      (showing instance_ observation.state) (userFromKey keyName) observation.now none)) :=
    ⟨endTime_replaceInstance db _, htracks.2⟩
  have hkey' : (showing instance_ observation.state).keyName = some keyName := hkey
  rw [observe_eq groups hlists]
  by_cases hstopped : observation.state = .stopped
  · obtain ⟨after, hinsert, hafter⟩ := insertStopped_of_tracks hreplaced hlater hstopped
    have hshown : (showing instance_ observation.state).state = .stopped := hstopped
    refine ⟨after, ?_, hafter⟩
    rw [importInstance_stopped hkey' hshown, showing_id, hinsert]
  · have hopen : db.openStop instance_.id = none :=
      (openStop_eq_none_iff htracks).mpr fun earlier hearlier hstop ↦
        hstopped (hstays earlier hearlier hstop)
    have hshown : (showing instance_ observation.state).state ≠ .stopped := hstopped
    rw [importInstance_running hkey' hshown hstate, showing_id, if_pos hopen]
    refine ⟨_, rfl, hreplaced.1, ?_⟩
    rw [List.filter_append, hreplaced.2]
    simp [hstopped]

/-- A restart raises. -/
theorem observe_restart (hkey : instance_.keyName = some keyName)
    (hlists : observation.Lists instance_) (hstate : observation.state ≠ .terminated)
    (htracks : Tracks instance_.id seen db)
    (hrestart : ¬ ∀ earlier ∈ seen, StaysStopped earlier observation) :
    ∃ error, observe groups instance_ db observation = .error error := by
  obtain ⟨earlier, hearlier, hstop, hstopped⟩ : ∃ earlier ∈ seen, earlier.state = .stopped ∧
      observation.state ≠ .stopped := by
    simpa [StaysStopped] using hrestart
  have hopen : db.openStop instance_.id ≠ none := fun hnone ↦
    (openStop_eq_none_iff htracks).mp hnone earlier hearlier hstop
  have hkey' : (showing instance_ observation.state).keyName = some keyName := hkey
  have hshown : (showing instance_ observation.state).state ≠ .stopped := hstopped
  rw [observe_eq groups hlists, importInstance_running hkey' hshown hstate, showing_id,
    if_neg hopen]
  exact ⟨_, rfl⟩

/-- The run that first sees the instance terminated gives it its end, and leaves the stop intervals
as they are. -/
theorem observe_terminated (hkey : instance_.keyName = some keyName)
    (hlists : observation.Lists instance_) (hstate : observation.state = .terminated)
    (htracks : Tracks instance_.id seen db) :
    observe groups instance_ db observation = .ok (db.replaceInstance (instanceRow
      (showing instance_ observation.state) (userFromKey keyName) observation.now
      (some observation.now))) := by
  have hend : db.endTime (showing instance_ observation.state).id = none := htracks.1
  have hkey' : (showing instance_ observation.state).keyName = some keyName := hkey
  have hshown : (showing instance_ observation.state).state = .terminated := hstate
  rw [observe_eq groups hlists, importInstance_terminated hkey' hshown, if_pos hend]

/-- Without a key name no run returns. -/
theorem observe_noKey (hkey : instance_.keyName = none) (hlists : observation.Lists instance_) :
    ∃ error, observe groups instance_ db observation = .error error := by
  have hkey' : (showing instance_ observation.state).keyName = none := hkey
  rw [observe_eq groups hlists, importInstance_noKey hkey']
  exact ⟨_, rfl⟩

end Steps

/-! ### Whole histories -/

section Histories

variable (groups : List InstanceGroup) {instance_ : Instance} {seen : List Observation}
  {db : UsageDb} {keyName : Text}

/-- A live history returns exactly when it has no restart, and then the tables track it. -/
theorem observeAll_alive (hkey : instance_.keyName = some keyName) {history : List Observation}
    (hlists : ∀ observation ∈ history, observation.Lists instance_)
    (halive : ∀ observation ∈ history, observation.state ≠ .terminated)
    (hmoments : (seen ++ history).Pairwise (·.now < ·.now))
    (hseen : seen.Pairwise StaysStopped) (htracks : Tracks instance_.id seen db) :
    ((seen ++ history).Pairwise StaysStopped ∧ ∃ after,
        observeAll groups instance_ db history = .ok after ∧
          Tracks instance_.id (seen ++ history) after) ∨
      ¬ (seen ++ history).Pairwise StaysStopped ∧ ∃ error,
        observeAll groups instance_ db history = .error error := by
  induction history generalizing seen db with
  | nil =>
    rw [List.append_nil]
    exact Or.inl ⟨hseen, db, rfl, htracks⟩
  | cons observation rest ih =>
    have hlater : ∀ earlier ∈ seen, earlier.now < observation.now := fun earlier hearlier ↦
      (List.pairwise_append.mp hmoments).2.2 earlier hearlier observation List.mem_cons_self
    have hsplit : seen ++ observation :: rest = (seen ++ [observation]) ++ rest := by simp
    by_cases hstays : ∀ earlier ∈ seen, StaysStopped earlier observation
    · obtain ⟨after, hobserve, hafter⟩ := observe_stays groups hkey
        (hlists observation List.mem_cons_self) (halive observation List.mem_cons_self) hlater
        htracks hstays
      have hstarts : (seen ++ [observation]).Pairwise StaysStopped := by
        refine List.pairwise_append.mpr ⟨hseen, List.pairwise_singleton _ _, ?_⟩
        intro earlier hearlier later hlater
        rw [List.mem_singleton.mp hlater]
        exact hstays earlier hearlier
      have hrun : observeAll groups instance_ db (observation :: rest) =
          observeAll groups instance_ after rest := by
        rw [observeAll, List.foldlM_cons, hobserve]
        rfl
      rw [hsplit] at hmoments ⊢
      rw [hrun]
      exact ih (fun other hother ↦ hlists other (List.mem_cons_of_mem _ hother))
        (fun other hother ↦ halive other (List.mem_cons_of_mem _ hother)) hmoments hstarts hafter
    · obtain ⟨error, hobserve⟩ := observe_restart groups hkey
        (hlists observation List.mem_cons_self) (halive observation List.mem_cons_self) htracks
        hstays
      refine Or.inr ⟨fun hpairwise ↦ hstays fun earlier hearlier ↦ ?_, error, ?_⟩
      · exact (List.pairwise_append.mp hpairwise).2.2 earlier hearlier observation
          List.mem_cons_self
      · rw [observeAll, List.foldlM_cons, hobserve]
        rfl

/-- While no interval is closed the view counts no stopped hours. -/
theorem instanceStoppedTime_of_open (hstops : db.stoppedRows instance_.id =
      (seen.filter (·.state = .stopped)).map (openRow instance_.id)) :
    db.instanceStoppedTime instance_.id = none := by
  have hnone : ((db.stoppedRows instance_.id).filter (·.stoppedTime ≠ .null)).filterMap
      (fun row ↦ row.runningTime.sub row.stoppedTime) = [] := by
    rw [List.filterMap_eq_nil_iff, hstops]
    intro row hrow
    obtain ⟨earlier, -, rfl⟩ := List.mem_map.mp (List.mem_filter.mp hrow).1
    rfl
  rw [UsageDb.instanceStoppedTime, hnone]
  rfl

/-- The hours of an instance with no stopped hours run from its launch. -/
theorem hoursUntil_of_open {row : InstanceRow}
    (hnone : db.instanceStoppedTime row.instanceId = none) (moment : ℚ) :
    db.hoursUntil row moment =
      sqlRound (24 * (julianday moment - julianday row.startTime) + 1 / 2) := by
  rw [UsageDb.hoursUntil, hnone, Option.getD_none, sub_zero]

/-- The finished hours of an instance are those of the row just put for it. -/
theorem finishedHours_replaceInstance (row : InstanceRow) {finish : ℚ}
    (hend : row.endTime = some finish) : (db.replaceInstance row).finishedHours row.instanceId =
      [(db.replaceInstance row).hoursUntil row finish] := by
  have hothers : ((db.instances.rows.filter (·.instanceId ≠ row.instanceId)).filterMap
      fun other ↦ other.endTime.map ((db.replaceInstance row).hoursRow other)).filter
        (·.instanceId = row.instanceId) = [] := by
    rw [List.filter_eq_nil_iff]
    intro hours hhours
    obtain ⟨other, hother, hrow⟩ := List.mem_filterMap.mp hhours
    obtain ⟨moment, -, rfl⟩ := Option.map_eq_some_iff.mp hrow
    have hid : other.instanceId ≠ row.instanceId := by simpa using (List.mem_filter.mp hother).2
    exact fun hsame ↦ hid (of_decide_eq_true hsame)
  have hrows : (db.replaceInstance row).instances.rows =
      db.instances.rows.filter (·.instanceId ≠ row.instanceId) ++ [row] := rfl
  rw [UsageDb.finishedHours, UsageDb.finishedInstanceTimes, hrows, List.filterMap_append,
    List.filter_append, hothers]
  simp [hend, UsageDb.hoursRow]

/-- What a whole history leaves: it returns exactly when the instance has a key name and no restart
is seen, and the hours then run from the launch to the end with nothing taken off. -/
theorem observeAll_terminated {history : List Observation} {last : Observation}
    (hlists : ∀ observation ∈ history ++ [last], observation.Lists instance_)
    (halive : ∀ observation ∈ history, observation.state ≠ .terminated)
    (hlast : last.state = .terminated)
    (hmoments : history.Pairwise (·.now < ·.now)) (hrow : db.endTime instance_.id = none)
    (hstops : db.stoppedRows instance_.id = []) (hours : ℤ) :
    (∃ after, observeAll groups instance_ db (history ++ [last]) = .ok after ∧
        after.finishedHours instance_.id = [hours]) ↔
      instance_.keyName.isSome ∧ history.Pairwise StaysStopped ∧
        hours = sqlRound (24 * (julianday last.now - julianday instance_.launchTime) + 1 / 2) := by
  have hlistsLast := hlists last (List.mem_append_right _ List.mem_cons_self)
  have htracks : Tracks instance_.id [] db := ⟨hrow, hstops⟩
  cases hkey : instance_.keyName with
  | none =>
    have hraises : ∃ error, observeAll groups instance_ db (history ++ [last]) = .error error := by
      cases history with
      | nil =>
        obtain ⟨error, hobserve⟩ := observe_noKey groups hkey hlistsLast
        exact ⟨error, by rw [List.nil_append, observeAll, List.foldlM_cons, hobserve]; rfl⟩
      | cons first rest =>
        obtain ⟨error, hobserve⟩ := observe_noKey groups hkey
          (hlists first List.mem_cons_self)
        exact ⟨error, by rw [List.cons_append, observeAll, List.foldlM_cons, hobserve]; rfl⟩
    obtain ⟨error, hraises⟩ := hraises
    simp [hraises]
  | some keyName =>
    have hrun := observeAll_alive groups hkey
      (fun other hother ↦ hlists other (List.mem_append_left _ hother)) halive
      (by simpa using hmoments) List.Pairwise.nil htracks
    rw [List.nil_append] at hrun
    rcases hrun with ⟨hstays, after, hafter, htracks⟩ | ⟨hrestart, error, hraises⟩
    · have hfinal := observe_terminated groups hkey hlistsLast hlast htracks
      have hwhole : observeAll groups instance_ db (history ++ [last]) =
          observe groups instance_ after last := by
        rw [observeAll] at hafter ⊢
        rw [List.foldlM_append, hafter]
        show (observe groups instance_ after last >>= pure) = _
        rw [bind_pure]
      have hbilled : (after.replaceInstance (instanceRow (showing instance_ last.state)
          (userFromKey keyName) last.now (some last.now))).finishedHours instance_.id =
            [sqlRound (24 * (julianday last.now - julianday instance_.launchTime) + 1 / 2)] := by
        refine (finishedHours_replaceInstance (instanceRow (showing instance_ last.state)
          (userFromKey keyName) last.now (some last.now)) rfl).trans ?_
        rw [hoursUntil_of_open (instanceStoppedTime_of_open htracks.2)]
        rfl
      rw [hwhole, hfinal]
      simp [hbilled, hstays, eq_comm]
    · have hwhole : observeAll groups instance_ db (history ++ [last]) = .error error := by
        rw [observeAll] at hraises ⊢
        rw [List.foldlM_append, hraises]
        rfl
      simp [hwhole, hrestart]

end Histories

/-! ### Off the whole hours -/

/-- Two positive durations round alike when no whole number is between them. -/
theorem sqlRound_add_half_eq {first second error : ℚ} (hnear : |second - first| ≤ error)
    (hpos : 0 < first) (hclear : ∀ hour : ℤ, error < |first - hour|) :
    sqlRound (first + 1 / 2) = sqlRound (second + 1 / 2) := by
  obtain ⟨hlow, hhigh⟩ := abs_le.mp hnear
  have hzero := hclear 0
  rw [Int.cast_zero, sub_zero, abs_of_pos hpos] at hzero
  have hround {value : ℚ} (hvalue : 0 < value) : sqlRound (value + 1 / 2) = ⌊value⌋ + 1 := by
    rw [sqlRound, if_pos (by linarith), add_assoc, add_halves, Int.floor_add_one]
  rw [hround hpos, hround (by linarith)]
  refine congrArg (· + 1) (Int.floor_eq_iff.mpr ?_).symm
  have hbelow := Int.floor_le first
  have habove := Int.lt_floor_add_one first
  have hfloor := hclear ⌊first⌋
  have hnext := hclear (⌊first⌋ + 1)
  rw [abs_of_nonneg (by linarith)] at hfloor
  rw [Int.cast_add, Int.cast_one, abs_of_neg (by linarith)] at hnext
  constructor <;> linarith

/-- An instance with a key name that is never seen stopped is billed in full when its duration is a
little more than a millisecond off every whole hour. -/
theorem billedInFull_of_clear {instance_ : Instance} {history : List Observation} {finish : ℚ}
    (hkey : instance_.keyName.isSome) (hnever : ∀ observation ∈ history,
      observation.state ≠ .stopped) (hstart : IsDate instance_.launchTime) (hfinish : IsDate finish)
    (hlater : instance_.launchTime < finish)
    (hclear : ∀ hour : ℤ, 1 / 3000000 < |24 * (finish - instance_.launchTime) - hour|) :
    BilledInFull instance_ history finish := by
  have hstop : firstStop history finish = finish := by
    have hnone : history.find? (·.state = .stopped) = none := by simpa using hnever
    rw [firstStop, hnone]
    rfl
  have hstays : history.Pairwise StaysStopped :=
    List.pairwise_of_forall_mem_list fun earlier hearlier _ _ hstopped ↦
      absurd hstopped (hnever earlier hearlier)
  refine ⟨hkey, hstays, ?_⟩
  rw [hstop]
  refine sqlRound_add_half_eq ?_ (by linarith) hclear
  have hstartError := abs_le.mp (abs_julianday_sub_le hstart)
  have hfinishError := abs_le.mp (abs_julianday_sub_le hfinish)
  rw [abs_le]
  constructor <;> linarith

/-- An instance launched at noon on the first of October 2011. -/
def sampleInstance : Instance where
  id := "i-1".toList
  instanceType := "m1.large".toList
  keyName := some "cs61c-aa-default".toList
  state := .pending
  launchTime := 2455836
  spotInstanceRequestId := none

/-- Some time after the launch. -/
def afterLaunch (days : ℚ) : ℚ := 2455836 + days

/-- Seen running and then stopped. -/
def stoppedAfter (days : ℚ) : List Observation :=
  [⟨none, afterLaunch (1 / 24), .running⟩, ⟨none, afterLaunch days, .stopped⟩]

/-- An instance that ran for one hour has one hour and not two, as one twenty-fourth of a day is no
double. -/
example : (observeAll [] sampleInstance .empty
    [⟨none, afterLaunch (1 / 24), .terminated⟩]).toOption.map
      (·.finishedHours sampleInstance.id) = some [1] := by
  decide +kernel

end Ec2Wrappers.Usage
