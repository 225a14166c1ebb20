import Ec2Wrappers.Foundations.Runs
import Ec2Wrappers.Usage.Import

/-!
# Stop intervals in the usage database

Sequences of `update_instances` runs over any listings. A run takes its listing and the moment and
then imports the listed instances one by one, each import a committed transaction, so the database
can be read after every import (`Ledger.next`); a run that raises ends there, and a run may be cut
short. `updateInstances_imports` ties the steps to the function.

An import of a stopped instance inserts an open interval whether or not one is open already, and no
statement ever closes one. An instance with an open interval therefore keeps it: when it is imported
as stopped at another moment it gets a second one, and when it is imported as terminated the
interval stays open behind it (`oneOpenStop_importOne`). The intervals are as they should be in
every state of a sequence of runs exactly when no step of it imports an instance so
(`oneOpenStop_iff`).
-/

set_option autoImplicit false
set_option relaxedAutoImplicit false

namespace Ec2Wrappers.Usage

open Foundations Aws

/-! ### Intervals -/

/-- The moment a value stands for. -/
def SqlValue.moment : SqlValue → Option ℚ
  | .null => none
  | .real value => some value
  | .text moment => some moment

/-- The rows of `instance_stopped` of an instance whose `running_time` is `NULL`. -/
def UsageDb.openRows (db : UsageDb) (instanceId : Text) : List StoppedRow :=
  (db.stoppedRows instanceId).filter (·.runningTime = .null)

/-- The beginning and the end of a row with both. -/
def StoppedRow.interval (row : StoppedRow) : Option (ℚ × ℚ) := do
  let start ← row.stoppedTime.moment
  let finish ← row.runningTime.moment
  return (start, finish)

/-- The closed stop intervals of an instance. -/
def UsageDb.closedIntervals (db : UsageDb) (instanceId : Text) : List (ℚ × ℚ) :=
  (db.stoppedRows instanceId).filterMap StoppedRow.interval

/-- One of two intervals ends before the other begins. -/
def Apart (first second : ℚ × ℚ) : Prop := first.2 ≤ second.1 ∨ second.2 ≤ first.1

/-! ### Runs import by import -/

/-- The database, the instances imported so far as they were listed, and the run that is under way:
its moment and the listed instances it has not imported yet. -/
structure Ledger where
  db : UsageDb
  imported : List Instance
  now : ℚ
  unread : List Instance
  deriving DecidableEq

/-- A run takes its listing, with its argument, the account and the moment; it imports its next
instance. -/
inductive LedgerEvent
  | takeListing (username : Option Text) (account : List Reservation) (now : ℚ)
  | importNext
  deriving DecidableEq

/-- The import of one instance. When it raises, the run is over. -/
def Ledger.importOne (ledger : Ledger) (instance_ : Instance) (rest : List Instance) : Ledger :=
  match transaction (importInstance ledger.now instance_) (.idle ledger.db) with
  | (.ok (), connection) =>
    { ledger with
      db := connection.close
      imported := ledger.imported ++ [instance_]
      unread := rest }
  | (.error _, connection) => { ledger with db := connection.close, unread := [] }

/-- One step. A new run may begin before the last one has imported all it has listed. -/
def Ledger.next (ledger : Ledger) : LedgerEvent → Option Ledger
  | .takeListing username account now =>
    some { ledger with
      now := now
      unread := instancesOf (getAllInstances account (truthy username)) }
  | .importNext =>
    match ledger.unread with
    | instance_ :: rest => some (ledger.importOne instance_ rest)
    | [] => none

/-- The database just created, and no run. -/
def Ledger.start : Ledger := ⟨.empty, [], 0, []⟩

/-- The state that the last import of an instance has seen it in. -/
def Ledger.lastImported (ledger : Ledger) (instanceId : Text) : Option InstanceState :=
  ((ledger.imported.filter (·.id = instanceId)).getLast?).map Instance.state

/-- The stop intervals of an instance are as they should be: at most one is open, one is open when
the instance was last imported as stopped and only then, and the closed ones do not overlap. -/
structure Ledger.OneOpenStop (ledger : Ledger) (instanceId : Text) : Prop where
  at_most_one : (ledger.db.openRows instanceId).length ≤ 1
  open_iff : ledger.db.openRows instanceId ≠ [] ↔ ledger.lastImported instanceId = some .stopped
  apart : (ledger.db.closedIntervals instanceId).Pairwise Apart

/-- The step imports no instance that has an open interval: when it comes to one, it is one that it
cannot import. -/
def LeavesOpenStops (ledger : Ledger) : LedgerEvent → Prop
  | .takeListing _ _ _ => True
  | .importNext => ∀ instance_, ledger.unread.head? = some instance_ →
      ledger.db.openStop instance_.id ≠ none → instance_.keyName ≠ none →
        instance_.state ≠ .terminated ∧ (instance_.state = .stopped →
          (instance_.id, .text ledger.now) ∈ ledger.db.instanceStopped.rows.map StoppedRow.key)

/-! ### What one import does to the intervals -/

/-- Every row is an open interval with a beginning. -/
def UsageDb.AllOpen (db : UsageDb) : Prop :=
  ∀ row ∈ db.instanceStopped.rows, row.runningTime = .null ∧ row.stoppedTime ≠ .null

section Database

variable {db : UsageDb} {instanceId : Text}

theorem openRows_of_allOpen (hopen : db.AllOpen) (instanceId : Text) :
    db.openRows instanceId = db.stoppedRows instanceId := by
  refine List.filter_eq_self.mpr fun row hrow ↦ ?_
  simpa using (hopen row (List.mem_filter.mp hrow).1).1

theorem closedIntervals_of_allOpen (hopen : db.AllOpen) (instanceId : Text) :
    db.closedIntervals instanceId = [] := by
  refine List.filterMap_eq_nil_iff.mpr fun row hrow ↦ ?_
  rw [StoppedRow.interval, (hopen row (List.mem_filter.mp hrow).1).1]
  cases row.stoppedTime.moment <;> rfl

/-- The query of the import finds an interval when the instance has a row. -/
theorem openStop_of_allOpen (hopen : db.AllOpen) (instanceId : Text) :
    db.openStop instanceId = none ↔ db.stoppedRows instanceId = [] := by
  have hall : ((db.stoppedRows instanceId).filter fun row ↦
      row.runningTime = .null ∧ row.stoppedTime ≠ .null) = db.stoppedRows instanceId := by
    refine List.filter_eq_self.mpr fun row hrow ↦ ?_
    simpa using hopen row (List.mem_filter.mp hrow).1
  rw [UsageDb.openStop, hall, Option.map_eq_none_iff, List.getLast?_eq_none_iff]

variable {now : ℚ} {instance_ : Instance} {after : UsageDb}

/-- What an import that returns has done to `instance_stopped`: for a stopped instance it inserted a
row at a new moment, and for another one nothing; then the instance was terminated, or it had no
open interval. -/
theorem stopped_of_importInstance (hrun : importInstance now instance_ db = (.ok (), after)) :
    if instance_.state = .stopped then
      (instance_.id, .text now) ∉ db.instanceStopped.rows.map StoppedRow.key ∧
        after.instanceStopped.rows =
          db.instanceStopped.rows ++ [⟨instance_.id, .text now, .null⟩]
    else after.instanceStopped = db.instanceStopped ∧
      (instance_.state = .terminated ∨ db.openStop instance_.id = none) := by
  obtain ⟨keyName, hkey, -, -⟩ := importInstance_ok hrun
  by_cases hterminated : instance_.state = .terminated
  · rw [importInstance_terminated hkey hterminated] at hrun
    rw [if_neg (by rw [hterminated]; decide)]
    cases hrun
    refine ⟨?_, .inl hterminated⟩
    split_ifs <;> rfl
  · by_cases hstopped : instance_.state = .stopped
    · rw [if_pos hstopped]
      rw [importInstance_stopped hkey hstopped, insertStopped] at hrun
      split at hrun
      · next rows hinsert =>
        cases hrun
        exact ⟨Table.free_of_insert hinsert, Table.rows_of_insert hinsert⟩
      · cases hrun
    · rw [if_neg hstopped]
      rw [importInstance_running hkey hstopped hterminated] at hrun
      split_ifs at hrun with hnone
      · cases hrun
        exact ⟨rfl, .inr hnone⟩
      · cases hrun

/-- When an import raises, the instance has no key, or it is seen running behind an open interval,
or it is seen stopped at a moment that is recorded already. -/
theorem raises_importInstance {error : PyError}
    (hrun : importInstance now instance_ db = (.error error, after))
    (hkey : instance_.keyName ≠ none) :
    instance_.state ≠ .terminated ∧ (instance_.state = .stopped →
      (instance_.id, .text now) ∈ db.instanceStopped.rows.map StoppedRow.key) := by
  obtain ⟨keyName, hkey⟩ := Option.ne_none_iff_exists'.mp hkey
  refine ⟨fun hterminated ↦ ?_, fun hstopped ↦ ?_⟩
  · rw [importInstance_terminated hkey hterminated] at hrun
    cases hrun
  · by_contra hfree
    have hkeyFree : StoppedRow.key ⟨instance_.id, .text now, .null⟩ ∉
        (db.replaceInstance (instanceRow instance_ (userFromKey keyName) now
          none)).instanceStopped.rows.map StoppedRow.key := hfree
    obtain ⟨rows, hinsert, -⟩ := Table.insert_of_free _ hkeyFree
    rw [importInstance_stopped hkey hstopped, insertStopped, hinsert] at hrun
    cases hrun

/-- An import that returns leaves every row open. -/
theorem allOpen_of_importInstance (hrun : importInstance now instance_ db = (.ok (), after))
    (hopen : db.AllOpen) : after.AllOpen := by
  have hstopped := stopped_of_importInstance hrun
  intro row hrow
  split_ifs at hstopped with hstate
  · rw [hstopped.2] at hrow
    rcases List.mem_append.mp hrow with hold | hnew
    · exact hopen row hold
    · rw [List.mem_singleton.mp hnew]
      exact ⟨rfl, nofun⟩
  · rw [hstopped.1] at hrow
    exact hopen row hrow

end Database

/-! ### One step -/

section Steps

variable {ledger : Ledger} {instance_ : Instance} {rest : List Instance}

theorem importOne_of_ok {after : UsageDb}
    (hrun : importInstance ledger.now instance_ ledger.db = (.ok (), after)) :
    ledger.importOne instance_ rest =
      ⟨after, ledger.imported ++ [instance_], ledger.now, rest⟩ := by
  rw [Ledger.importOne, transaction_of_ok hrun]
  rfl

theorem importOne_of_error {error : PyError} {left : UsageDb}
    (hrun : importInstance ledger.now instance_ ledger.db = (.error error, left)) :
    ledger.importOne instance_ rest = ⟨ledger.db, ledger.imported, ledger.now, []⟩ := by
  rw [Ledger.importOne, transaction_of_error hrun]
  rfl

/-- The last import of an instance after one more import. -/
theorem lastImported_append (db : UsageDb) (imported : List Instance) (now : ℚ)
    (unread : List Instance) (instanceId : Text) :
    Ledger.lastImported ⟨db, imported ++ [instance_], now, unread⟩ instanceId =
      if instance_.id = instanceId then some instance_.state
      else Ledger.lastImported ⟨db, imported, now, unread⟩ instanceId := by
  unfold Ledger.lastImported
  split_ifs with hid <;> simp [hid]

/-- While every row is open, an instance has the rows it should have when it has at most one, and
has one when it was last imported as stopped. -/
theorem oneOpenStop_of_allOpen (hopen : ledger.db.AllOpen) (instanceId : Text) :
    ledger.OneOpenStop instanceId ↔ (ledger.db.stoppedRows instanceId).length ≤ 1 ∧
      (ledger.db.stoppedRows instanceId ≠ [] ↔
        ledger.lastImported instanceId = some .stopped) := by
  constructor
  · rintro ⟨hone, hiff, -⟩
    rw [openRows_of_allOpen hopen] at hone hiff
    exact ⟨hone, hiff⟩
  · rintro ⟨hone, hiff⟩
    refine ⟨?_, ?_, ?_⟩
    · rwa [openRows_of_allOpen hopen]
    · rwa [openRows_of_allOpen hopen]
    · rw [closedIntervals_of_allOpen hopen]
      exact List.Pairwise.nil

/-- An import of one instance leaves the intervals of the others as they were. -/
theorem oneOpenStop_of_other {after : UsageDb} {instanceId : Text}
    (hrun : importInstance ledger.now instance_ ledger.db = (.ok (), after))
    (hopen : ledger.db.AllOpen) (hother : instance_.id ≠ instanceId) :
    Ledger.OneOpenStop ⟨after, ledger.imported ++ [instance_], ledger.now, rest⟩ instanceId ↔
      ledger.OneOpenStop instanceId := by
  have hrows : after.stoppedRows instanceId = ledger.db.stoppedRows instanceId := by
    have hstopped := stopped_of_importInstance hrun
    unfold UsageDb.stoppedRows
    split_ifs at hstopped with hstate
    · rw [hstopped.2, List.filter_append, List.filter_singleton]
      simp [hother]
    · rw [hstopped.1]
  rw [oneOpenStop_of_allOpen (allOpen_of_importInstance hrun hopen), oneOpenStop_of_allOpen hopen,
    lastImported_append, if_neg hother, hrows]
  exact Iff.rfl

/-- After an import the intervals of the imported instance are as they should be exactly when it had
none, or was imported as neither stopped nor terminated. -/
theorem oneOpenStop_of_imported {after : UsageDb}
    (hrun : importInstance ledger.now instance_ ledger.db = (.ok (), after))
    (hopen : ledger.db.AllOpen) (hbefore : ledger.OneOpenStop instance_.id) :
    Ledger.OneOpenStop ⟨after, ledger.imported ++ [instance_], ledger.now, rest⟩ instance_.id ↔
      (ledger.db.openStop instance_.id ≠ none →
        instance_.state ≠ .terminated ∧ instance_.state ≠ .stopped) := by
  have hstopped := stopped_of_importInstance hrun
  have hone := ((oneOpenStop_of_allOpen hopen _).mp hbefore).1
  have hnone := openStop_of_allOpen hopen instance_.id
  have hsome : ledger.db.openStop instance_.id ≠ none ↔ ledger.db.stoppedRows instance_.id ≠ [] :=
    hnone.not
  rw [oneOpenStop_of_allOpen (allOpen_of_importInstance hrun hopen), lastImported_append,
    if_pos rfl, hsome]
  split_ifs at hstopped with hstate
  · have hrows : after.stoppedRows instance_.id =
        ledger.db.stoppedRows instance_.id ++ [⟨instance_.id, .text ledger.now, .null⟩] := by
      unfold UsageDb.stoppedRows
      rw [hstopped.2, List.filter_append, List.filter_singleton]
      simp
    rw [hrows, List.length_append, List.length_singleton]
    constructor
    · rintro ⟨hlength, -⟩ hsome
      have hnone : (ledger.db.stoppedRows instance_.id).length = 0 := by omega
      exact absurd (List.length_eq_zero_iff.mp hnone) hsome
    · intro hnone
      have hempty : ledger.db.stoppedRows instance_.id = [] := by
        by_contra hsome
        exact (hnone hsome).2 hstate
      simp [hempty, hstate]
  · obtain ⟨htable, hcase⟩ := hstopped
    have hrows : after.stoppedRows instance_.id = ledger.db.stoppedRows instance_.id := by
      rw [UsageDb.stoppedRows, htable, UsageDb.stoppedRows]
    rw [hnone] at hcase
    rw [hrows]
    constructor
    · rintro ⟨-, hiff⟩ hsome
      exact absurd (Option.some.inj (hiff.mp hsome)) hstate
    · intro hnone
      have hempty : ledger.db.stoppedRows instance_.id = [] := by
        rcases hcase with hterminated | hempty
        · by_contra hsome
          exact (hnone hsome).1 hterminated
        · exact hempty
      simp [hempty, hstate]

/-- From a state whose intervals are as they should be, an import leaves them so exactly when it
imports no instance that has an open interval. -/
theorem oneOpenStop_importOne (hunread : ledger.unread = instance_ :: rest)
    (hopen : ledger.db.AllOpen) (hbefore : ∀ instanceId, ledger.OneOpenStop instanceId) :
    (∀ instanceId, (ledger.importOne instance_ rest).OneOpenStop instanceId) ↔
      LeavesOpenStops ledger .importNext := by
  have hguard : LeavesOpenStops ledger .importNext ↔
      (ledger.db.openStop instance_.id ≠ none → instance_.keyName ≠ none →
        instance_.state ≠ .terminated ∧ (instance_.state = .stopped →
          (instance_.id, .text ledger.now) ∈
            ledger.db.instanceStopped.rows.map StoppedRow.key)) := by
    simp [LeavesOpenStops, hunread]
  rw [hguard]
  rcases hrun : importInstance ledger.now instance_ ledger.db with ⟨result, after⟩
  cases result with
  | error error =>
    rw [importOne_of_error hrun]
    refine iff_of_true (fun instanceId ↦ ?_) fun _ hkey ↦ raises_importInstance hrun hkey
    exact ⟨(hbefore instanceId).1, (hbefore instanceId).2, (hbefore instanceId).3⟩
  | ok value =>
    rw [importOne_of_ok hrun]
    have hkey : instance_.keyName ≠ none := by
      obtain ⟨keyName, hsome, -⟩ := importInstance_ok hrun
      rw [hsome]
      exact Option.some_ne_none keyName
    have hfree : instance_.state = .stopped → (instance_.id, .text ledger.now) ∉
        ledger.db.instanceStopped.rows.map StoppedRow.key := fun hstate ↦ by
      have hstopped := stopped_of_importInstance hrun
      rw [if_pos hstate] at hstopped
      exact hstopped.1
    have himported : Ledger.OneOpenStop ⟨after, ledger.imported ++ [instance_], ledger.now, rest⟩
        instance_.id ↔ _ := oneOpenStop_of_imported hrun hopen (hbefore instance_.id)
    constructor
    · intro hafter hsome _
      obtain ⟨hterminated, hstopped⟩ := himported.mp (hafter instance_.id) hsome
      exact ⟨hterminated, fun hstate ↦ absurd hstate hstopped⟩
    · intro hleaves instanceId
      by_cases hid : instance_.id = instanceId
      · subst hid
        refine himported.mpr fun hsome ↦ ?_
        obtain ⟨hterminated, hstopped⟩ := hleaves hsome hkey
        exact ⟨hterminated, fun hstate ↦ hfree hstate (hstopped hstate)⟩
      · exact (oneOpenStop_of_other hrun hopen hid).mpr (hbefore instanceId)

/-- A step of importing has an instance left to import. -/
theorem next_importNext {after : Ledger} (hnext : ledger.next .importNext = some after) :
    ∃ instance_ rest, ledger.unread = instance_ :: rest ∧
      after = ledger.importOne instance_ rest := by
  cases hunread : ledger.unread with
  | nil => simp [Ledger.next, hunread] at hnext
  | cons instance_ rest =>
    simp only [Ledger.next, hunread, Option.some.injEq] at hnext
    exact ⟨instance_, rest, rfl, hnext.symm⟩

/-- A step leaves every row open. -/
theorem allOpen_next {after : Ledger} {event : LedgerEvent} (hnext : ledger.next event = some after)
    (hopen : ledger.db.AllOpen) : after.db.AllOpen := by
  cases event with
  | takeListing username account now =>
    cases hnext
    exact hopen
  | importNext =>
    obtain ⟨instance_, rest, -, rfl⟩ := next_importNext hnext
    rcases hrun : importInstance ledger.now instance_ ledger.db with ⟨result, left⟩
    cases result with
    | error error =>
      rw [importOne_of_error hrun]
      exact hopen
    | ok value =>
      rw [importOne_of_ok hrun]
      exact allOpen_of_importInstance hrun hopen

/-- From a state whose intervals are as they should be, a step leaves them so exactly when it
imports no instance that has an open interval. -/
theorem oneOpenStop_next {after : Ledger} {event : LedgerEvent}
    (hnext : ledger.next event = some after) (hopen : ledger.db.AllOpen)
    (hbefore : ∀ instanceId, ledger.OneOpenStop instanceId) :
    (∀ instanceId, after.OneOpenStop instanceId) ↔ LeavesOpenStops ledger event := by
  cases event with
  | takeListing username account now =>
    cases hnext
    refine iff_of_true (fun instanceId ↦ ?_) trivial
    exact ⟨(hbefore instanceId).1, (hbefore instanceId).2, (hbefore instanceId).3⟩
  | importNext =>
    obtain ⟨instance_, rest, hunread, rfl⟩ := next_importNext hnext
    exact oneOpenStop_importOne hunread hopen hbefore

end Steps

/-! ### The steps and the function -/

/-- Importing what is left of a listing step by step leaves the database as the loop does. -/
theorem importListing_imports (ledger : Ledger) :
    ∃ events last, Run (stepsOf Ledger.next) ledger events last ∧ last.unread = [] ∧
      last.db = (importListing ledger.now ledger.unread (.idle ledger.db)).2.close := by
  induction hunread : ledger.unread generalizing ledger with
  | nil => exact ⟨[], ledger, .refl ledger, hunread, rfl⟩
  | cons instance_ rest ih =>
    have hstep : stepsOf Ledger.next ledger .importNext (ledger.importOne instance_ rest) := by
      simp [stepsOf, Ledger.next, hunread]
    rw [importListing, Py.forEach_cons]
    rcases hrun : importInstance ledger.now instance_ ledger.db with ⟨result, after⟩
    cases result with
    | ok value =>
      rw [importOne_of_ok hrun] at hstep
      obtain ⟨events, last, htail, hempty, hdb⟩ :=
        ih ⟨after, ledger.imported ++ [instance_], ledger.now, rest⟩ rfl
      refine ⟨.importNext :: events, last, .head hstep htail, hempty, ?_⟩
      rw [hdb, Py.run_bind_ok (transaction_of_ok hrun)]
      rfl
    | error error =>
      rw [importOne_of_error hrun] at hstep
      refine ⟨[.importNext], _, .single hstep, rfl, ?_⟩
      rw [Py.run_bind_error (transaction_of_error hrun)]
      rfl

/-- A run of `update_instances` that is not cut short leaves the database as the function does. -/
theorem updateInstances_imports (ledger : Ledger) (username : Option Text)
    (account : List Reservation) (now : ℚ) :
    ∃ events last,
      Run (stepsOf Ledger.next) ledger (.takeListing username account now :: events) last ∧
        last.unread = [] ∧
          last.db = (updateInstances username account now (.idle ledger.db)).2.close := by
  obtain ⟨events, last, htail, hempty, hdb⟩ := importListing_imports
    { ledger with
      now := now
      unread := instancesOf (getAllInstances account (truthy username)) }
  exact ⟨events, last, .head rfl htail, hempty, hdb⟩

/-! ### Whole sequences of runs -/

theorem oneOpenStop_start (instanceId : Text) : Ledger.start.OneOpenStop instanceId := by
  have hopen : Ledger.start.db.AllOpen := by
    intro row hrow
    cases hrow
  rw [oneOpenStop_of_allOpen hopen]
  exact ⟨Nat.zero_le 1, iff_of_false (fun hsome ↦ hsome rfl) nofun⟩

/-- In every state that a sequence of runs goes through, the stop intervals of every instance are as
they should be, exactly when no step of it imports an instance that has an open interval. -/
theorem oneOpenStop_iff {events : List LedgerEvent} {last : Ledger}
    (hrun : Run (stepsOf Ledger.next) .start events last) :
    (∀ before rest middle, events = before ++ rest →
      Run (stepsOf Ledger.next) .start before middle →
        ∀ instanceId, middle.OneOpenStop instanceId) ↔
      Run (guarded (stepsOf Ledger.next) LeavesOpenStops) .start events last := by
  refine Run.guarded_iff (fun _ _ _ hnext hopen ↦ allOpen_next hnext hopen)
    (fun _ _ _ hnext hopen hbefore ↦ oneOpenStop_next hnext hopen hbefore) hrun ?_
    oneOpenStop_start
  intro row hrow
  cases hrow

/-- An account with one instance, in a state. -/
def accountShowing (state : InstanceState) : List Reservation :=
  [⟨[], [⟨"i-1".toList, "m1.large".toList, some "cs61c-aa-default".toList, state, 0, none⟩]⟩]

/-- A run that sees the instance running and one that sees it stopped. -/
def runningThenStopped : List LedgerEvent :=
  [.takeListing none (accountShowing .running) 1, .importNext,
    .takeListing none (accountShowing .stopped) 2, .importNext]

instance (ledger : Ledger) (event : LedgerEvent) : Decidable (LeavesOpenStops ledger event) :=
  match event with
  | .takeListing _ _ _ => isTrue trivial
  | .importNext => inferInstanceAs (Decidable (∀ _, _ = some _ → _))

theorem oneOpenStop_iff_runningThenStopped : ∃ last,
    Run (stepsOf Ledger.next) .start runningThenStopped last ∧
      ∀ instanceId, last.OneOpenStop instanceId := by
  obtain ⟨last, hlast⟩ := Option.isSome_iff_exists.mp (show (runningThenStopped.foldlM
    (checked Ledger.next LeavesOpenStops) Ledger.start).isSome by decide +kernel)
  have hguarded := Run.of_foldlM_checked hlast
  have hrun := hguarded.mono fun _ _ _ hstep ↦ hstep.1
  exact ⟨last, hrun, (oneOpenStop_iff hrun).mpr hguarded runningThenStopped [] last
    (List.append_nil _).symm hrun⟩

/-- Two runs that see the instance stopped leave two open intervals. -/
theorem stoppedTwice_open : ∃ last,
    Run (stepsOf Ledger.next) .start [.takeListing none (accountShowing .stopped) 1, .importNext,
        .takeListing none (accountShowing .stopped) 2, .importNext] last ∧
      ¬ last.OneOpenStop "i-1".toList := by
  have hany : ([LedgerEvent.takeListing none (accountShowing .stopped) 1, .importNext,
      .takeListing none (accountShowing .stopped) 2, .importNext].foldlM Ledger.next
        Ledger.start).any (fun last ↦ (last.db.openRows "i-1".toList).length = 2) = true := by
    decide +kernel
  obtain ⟨last, hlast, htwo⟩ := (Option.any_eq_true _ _).mp hany
  refine ⟨last, Run.of_foldlM hlast, fun hopen ↦ ?_⟩
  have hone := hopen.at_most_one
  rw [of_decide_eq_true htwo] at hone
  omega

end Ec2Wrappers.Usage
