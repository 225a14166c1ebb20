import Ec2Wrappers.Foundations.Isolation
import Ec2Wrappers.Usage.Import

/-!
# One instance and the imports of the others

`update_instances` imports every listed instance in a transaction of its own, and an import reads
and writes nothing but the rows of its instance (`isolated_importInstance`). `instanceRows` are
these rows, and `importedRows` says what an import that returns makes of them.

The loop has no handler. One import that raises leaves its transaction open, and the instances after
it in the listing are not imported. An instance is therefore imported as it would be alone exactly
when no listed instance fails (`importedAsAlone_iff`). `Importable` is the condition: the instance
has a key name, it does not run again after a recorded stop, and it has no stop recorded at this
very moment. An instance with no key is enough to stop the import of all that follow it
(`keyless_stops_import`).
-/

set_option autoImplicit false
set_option relaxedAutoImplicit false

namespace Ec2Wrappers.Usage

open Foundations Aws

/-! ### The rows of an instance -/

/-- The rows of an instance in `instances` and in `instance_stopped`. -/
def instanceRows (id : Text) (db : UsageDb) : Option InstanceRow × List StoppedRow :=
  (db.instances.find id, db.stoppedRows id)

/-- The row an import puts for an instance with a key. -/
def importedRow (now : ℚ) (instance_ : Instance) (endTime : Option ℚ) : InstanceRow :=
  instanceRow instance_ (userFromKey (instance_.keyName.getD [])) now endTime

/-- The rows of an instance after an import that returned. -/
def importedRows (now : ℚ) (instance_ : Instance)
    (rows : Option InstanceRow × List StoppedRow) : Option InstanceRow × List StoppedRow :=
  match instance_.state with
  | .terminated =>
    (if rows.1.bind InstanceRow.endTime = none then some (importedRow now instance_ (some now))
      else rows.1, rows.2)
  | .stopped =>
    (some (importedRow now instance_ none), rows.2 ++ [⟨instance_.id, .text now, .null⟩])
  | _ => (some (importedRow now instance_ none), rows.2)

/-- The import of the instance does not fail: it has a key name, no stop of it is open when it runs,
and no stop of it is recorded at this moment when it is stopped. -/
def Importable (now : ℚ) (db : UsageDb) (instance_ : Instance) : Prop :=
  instance_.keyName ≠ none ∧
    (instance_.state ≠ .stopped → instance_.state ≠ .terminated →
      db.openStop instance_.id = none) ∧
    (instance_.state = .stopped →
      ∀ row ∈ db.stoppedRows instance_.id, row.stoppedTime ≠ .text now)

instance (now : ℚ) (db : UsageDb) (instance_ : Instance) :
    Decidable (Importable now db instance_) :=
  inferInstanceAs (Decidable (_ ∧ _ ∧ _))

/-! ### One import -/

section OneImport

variable {now : ℚ} {db after : UsageDb} {instance_ : Instance}

/-- `INSERT INTO instance_stopped` fails exactly when the instance has a stop at this moment, and
otherwise appends the row. -/
theorem insertStopped_cases (db : UsageDb) (instanceId : Text) (now : ℚ) :
    (∃ row ∈ db.stoppedRows instanceId, row.stoppedTime = .text now) ∧
        ¬ Returns (insertStopped instanceId now) db ∨
      (∀ row ∈ db.stoppedRows instanceId, row.stoppedTime ≠ .text now) ∧
        ∃ after, insertStopped instanceId now db = (.ok (), after) ∧
          after.instances = db.instances ∧
          after.instanceStopped.rows =
            db.instanceStopped.rows ++ [⟨instanceId, .text now, .null⟩] := by
  have hkey : (instanceId, SqlValue.text now) ∈ db.instanceStopped.rows.map StoppedRow.key ↔
      ∃ row ∈ db.stoppedRows instanceId, row.stoppedTime = .text now := by
    simp only [List.mem_map, StoppedRow.key, Prod.mk.injEq, UsageDb.stoppedRows, List.mem_filter,
      decide_eq_true_eq, and_assoc]
  by_cases htaken : ∃ row ∈ db.stoppedRows instanceId, row.stoppedTime = .text now
  · refine Or.inl ⟨htaken, ?_⟩
    rintro ⟨after, hrun⟩
    have hinsert : db.instanceStopped.insert ⟨instanceId, .text now, .null⟩ = none :=
      dif_pos (hkey.mpr htaken)
    rw [insertStopped, hinsert] at hrun
    cases hrun
  · have hfree : StoppedRow.key ⟨instanceId, .text now, .null⟩ ∉
        db.instanceStopped.rows.map StoppedRow.key := fun hmem ↦ htaken (hkey.mp hmem)
    obtain ⟨rows, hinsert, hrows⟩ := db.instanceStopped.insert_of_free hfree
    refine Or.inr ⟨fun row hrow hsame ↦ htaken ⟨row, hrow, hsame⟩,
      { db with instanceStopped := rows }, ?_, rfl, hrows⟩
    rw [insertStopped, hinsert]

/-- The database `after` has the rows of the instance as `rows` says, and the rows of the others as
`db`. -/
def Puts (instance_ : Instance) (rows : Option InstanceRow × List StoppedRow)
    (db after : UsageDb) : Prop :=
  ∀ id, instanceRows id after = if id = instance_.id then rows else instanceRows id db

/-- What a row put for the instance changes. -/
theorem puts_replaceInstance (db : UsageDb) {row : InstanceRow}
    (hrow : row.instanceId = instance_.id) :
    Puts instance_ (some row, db.stoppedRows instance_.id) db (db.replaceInstance row) := by
  intro id
  unfold instanceRows UsageDb.replaceInstance
  rw [Table.find_insertOrReplace, hrow]
  split_ifs with hid
  · rw [hid]
    rfl
  · rfl

/-- What an appended stop of the instance changes. -/
theorem puts_append {stop : StoppedRow} (hstop : stop.instanceId = instance_.id)
    (hinstances : after.instances = db.instances)
    (hstops : after.instanceStopped.rows = db.instanceStopped.rows ++ [stop]) :
    Puts instance_ (db.instances.find instance_.id, db.stoppedRows instance_.id ++ [stop])
      db after := by
  intro id
  unfold instanceRows UsageDb.stoppedRows
  rw [hinstances, hstops, List.filter_append]
  split_ifs with hid
  · simp [hid, hstop]
  · simp [hstop, Ne.symm hid]

/-- Two changes of the rows of the instance, one after the other. -/
theorem Puts.trans {first second : Option InstanceRow × List StoppedRow} {middle : UsageDb}
    (hfirst : Puts instance_ first db middle) (hsecond : Puts instance_ second middle after) :
    Puts instance_ second db after := by
  intro id
  rw [hsecond id, hfirst id]
  split_ifs <;> rfl

/-- An import that fails, or one that returns and has changed only the rows of the instance. -/
def ImportSpec (now : ℚ) (db : UsageDb) (instance_ : Instance) : Prop :=
  ¬ Importable now db instance_ ∧ ¬ Returns (importInstance now instance_) db ∨
    Importable now db instance_ ∧ ∃ after, importInstance now instance_ db = (.ok (), after) ∧
      Puts instance_ (importedRows now instance_ (instanceRows instance_.id db)) db after

/-- The import of a terminated instance with a key. -/
theorem importSpec_terminated {keyName : Text} (hkey : instance_.keyName = some keyName)
    (hstate : instance_.state = .terminated) : ImportSpec now db instance_ := by
  have himportable : Importable now db instance_ := by simp [Importable, hkey, hstate]
  refine Or.inr ⟨himportable, _, importInstance_terminated hkey hstate, ?_⟩
  by_cases hend : db.endTime instance_.id = none
  · have hrows : importedRows now instance_ (instanceRows instance_.id db) =
        (some (instanceRow instance_ (userFromKey keyName) now (some now)),
          db.stoppedRows instance_.id) := by
      have hnone : (instanceRows instance_.id db).1.bind InstanceRow.endTime = none := hend
      simp only [importedRows, hstate, hnone, if_true, importedRow, hkey, Option.getD_some]
      rfl
    rw [if_pos hend, hrows]
    exact puts_replaceInstance db rfl
  · have hrows : importedRows now instance_ (instanceRows instance_.id db) =
        instanceRows instance_.id db := by
      have hsome : ¬ (instanceRows instance_.id db).1.bind InstanceRow.endTime = none := hend
      simp only [importedRows, hstate, hsome, if_false]
    rw [if_neg hend, hrows]
    intro id
    split_ifs with hid
    · rw [hid]
    · rfl

/-- The import of a stopped instance with a key. -/
theorem importSpec_stopped {keyName : Text} (hkey : instance_.keyName = some keyName)
    (hstate : instance_.state = .stopped) : ImportSpec now db instance_ := by
  let row := importedRow now instance_ none
  have hrun : importInstance now instance_ db =
      insertStopped instance_.id now (db.replaceInstance row) := by
    rw [importInstance_stopped hkey hstate]
    simp only [row, importedRow, hkey, Option.getD_some]
  rcases insertStopped_cases (db.replaceInstance row) instance_.id now with
    ⟨⟨stop, hmem, hsame⟩, hraises⟩ | ⟨hnew, after, hinsert, hinstances, hstops⟩
  · refine Or.inl ⟨fun himportable ↦ himportable.2.2 hstate stop hmem hsame, ?_⟩
    rwa [Returns, hrun]
  · refine Or.inr ⟨⟨by simp [hkey], fun hnot ↦ absurd hstate hnot, fun _ ↦ hnew⟩, after,
      hrun.trans hinsert, ?_⟩
    have hput : Puts instance_ (some row, db.stoppedRows instance_.id) db
        (db.replaceInstance row) := puts_replaceInstance db rfl
    have hfind : (db.replaceInstance row).instances.find instance_.id = some row := by
      rw [UsageDb.replaceInstance, Table.find_insertOrReplace]
      exact if_pos rfl
    have hboth := hput.trans (puts_append rfl hinstances hstops)
    rw [hfind] at hboth
    rw [importedRows, hstate]
    exact hboth

/-- The import of an instance with a key that is neither stopped nor terminated. -/
theorem importSpec_running {keyName : Text} (hkey : instance_.keyName = some keyName)
    (hstopped : instance_.state ≠ .stopped) (hterminated : instance_.state ≠ .terminated) :
    ImportSpec now db instance_ := by
  by_cases hopen : db.openStop instance_.id = none
  · refine Or.inr ⟨⟨by simp [hkey], fun _ _ ↦ hopen, fun hstop ↦ absurd hstop hstopped⟩, _,
      (importInstance_running hkey hstopped hterminated).trans (if_pos hopen), ?_⟩
    have hrows : importedRows now instance_ (instanceRows instance_.id db) =
        (some (instanceRow instance_ (userFromKey keyName) now none),
          db.stoppedRows instance_.id) := by
      unfold importedRows importedRow
      rw [hkey, Option.getD_some]
      split
      · exact absurd ‹_› hterminated
      · exact absurd ‹_› hstopped
      · rfl
    rw [hrows]
    exact puts_replaceInstance db rfl
  · refine Or.inl ⟨fun himportable ↦ hopen (himportable.2.1 hstopped hterminated), ?_⟩
    rintro ⟨after, hrun⟩
    rw [importInstance_running hkey hstopped hterminated, if_neg hopen] at hrun
    cases hrun

/-- An import returns exactly for an importable instance, and then it makes of the rows of the
instance what `importedRows` says and leaves the rows of the others. -/
theorem importSpec (now : ℚ) (db : UsageDb) (instance_ : Instance) :
    ImportSpec now db instance_ := by
  cases hkey : instance_.keyName with
  | none =>
    refine Or.inl ⟨fun himportable ↦ himportable.1 hkey, ?_⟩
    rintro ⟨after, hrun⟩
    rw [importInstance_noKey hkey] at hrun
    cases hrun
  | some keyName =>
    by_cases hterminated : instance_.state = .terminated
    · exact importSpec_terminated hkey hterminated
    · by_cases hstopped : instance_.state = .stopped
      · exact importSpec_stopped hkey hstopped
      · exact importSpec_running hkey hstopped hterminated

end OneImport

/-! ### The whole run -/

/-- Whether an import returns. -/
theorem returns_importInstance_iff (now : ℚ) (db : UsageDb) (instance_ : Instance) :
    Returns (importInstance now instance_) db ↔ Importable now db instance_ := by
  rcases importSpec now db instance_ with ⟨hnot, hraises⟩ | ⟨himportable, after, hrun, -⟩
  · exact iff_of_false hraises hnot
  · exact iff_of_true ⟨after, hrun⟩ himportable

/-- Importability depends on the rows of the instance alone. -/
theorem Importable.congr {now : ℚ} {first second : UsageDb} {instance_ : Instance}
    (hrows : instanceRows instance_.id first = instanceRows instance_.id second)
    (himportable : Importable now first instance_) : Importable now second instance_ := by
  obtain ⟨-, hstops⟩ := Prod.mk.inj hrows
  unfold Importable UsageDb.openStop at himportable ⊢
  rwa [← hstops]

/-- An import reads and changes nothing but the rows of its instance. -/
theorem isolated_importInstance (now : ℚ) :
    Isolated instanceRows Instance.id (importInstance now) where
  frame := by
    intro instance_ before after other hrun hother
    rcases importSpec now before instance_ with ⟨-, hraises⟩ | ⟨-, left, hleft, hputs⟩
    · exact absurd ⟨after, hrun⟩ hraises
    · rw [hrun] at hleft
      cases hleft
      rw [hputs other, if_neg hother]
  determined := by
    intro instance_ first second after hrows hrun
    rcases importSpec now first instance_ with ⟨-, hraises⟩ | ⟨himportable, left, hleft, hputs⟩
    · exact absurd ⟨after, hrun⟩ hraises
    · rw [hrun] at hleft
      cases hleft
      rcases importSpec now second instance_ with ⟨hnot, -⟩ | ⟨-, same, hsame, hputs'⟩
      · exact absurd (himportable.congr hrows) hnot
      · refine ⟨same, hsame, ?_⟩
        rw [hputs', hputs, if_pos rfl, if_pos rfl, hrows]

/-- After the run no transaction is open, and the rows of the instance are those that its import
alone leaves. -/
def ImportedAsAlone (username : Option Text) (account : List Reservation) (now : ℚ) (db : UsageDb)
    (instance_ : Instance) : Prop :=
  let connection := (updateInstances username account now (.idle db)).2
  connection.working = none ∧ instanceRows instance_.id connection.close =
    instanceRows instance_.id (importListing now [instance_] (.idle db)).2.close

instance (username : Option Text) (account : List Reservation) (now : ℚ) (db : UsageDb)
    (instance_ : Instance) : Decidable (ImportedAsAlone username account now db instance_) :=
  inferInstanceAs (Decidable (_ ∧ _))

/-- A listed instance whose own import would succeed is imported as it would be alone, with no
transaction left open, exactly when every listed instance is importable. -/
theorem importedAsAlone_iff {username : Option Text} {account : List Reservation} {now : ℚ}
    {db : UsageDb} {instance_ : Instance}
    (hnodup : ((instancesOf (getAllInstances account (truthy username))).map Instance.id).Nodup)
    (hlisted : instance_ ∈ instancesOf (getAllInstances account (truthy username)))
    (hown : Returns (importInstance now instance_) db) :
    ImportedAsAlone username account now db instance_ ↔
      ∀ other ∈ instancesOf (getAllInstances account (truthy username)),
        Importable now db other := by
  have hisolated := isolated_importInstance now
  constructor
  · intro himported other hother
    rw [← returns_importInstance_iff]
    by_contra hraises
    exact forEach_isolated_error hisolated hnodup ⟨other, hother, hraises⟩ himported.1
  · intro hall
    obtain ⟨after, hloop, hparts, -⟩ := forEach_isolated_ok hisolated hnodup fun other hother ↦
      (returns_importInstance_iff now db other).mpr (hall other hother)
    obtain ⟨alone, halone⟩ := hown
    have hrun : updateInstances username account now (.idle db) = (.ok (), .idle after) := hloop
    have hsingle : importListing now [instance_] (.idle db) = (.ok (), .idle alone) := by
      rw [importListing, Py.forEach_cons, Py.run_bind_ok (transaction_of_ok halone), Py.forEach_nil]
    unfold ImportedAsAlone
    rw [hrun, hsingle]
    exact ⟨rfl, hparts instance_ hlisted alone halone⟩

/-- A stopped instance, with a key name that may be absent. -/
def stoppedInstance (id : Text) (keyName : Option Text) : Instance where
  id := id
  instanceType := "m1.large".toList
  keyName := keyName
  state := .stopped
  launchTime := 0
  spotInstanceRequestId := none

/-- Two instances with a key. -/
def keyedListing : List Reservation :=
  [⟨[], [stoppedInstance "i-1".toList (some "cs61c-aa-default".toList)]⟩,
    ⟨[], [stoppedInstance "i-2".toList (some "cs61c-ab-default".toList)]⟩]

theorem importedAsAlone_keyed :
    ImportedAsAlone none keyedListing 1 .empty
      (stoppedInstance "i-2".toList (some "cs61c-ab-default".toList)) :=
  (importedAsAlone_iff (by decide +kernel) (by decide +kernel)
    ((returns_importInstance_iff _ _ _).mpr (by decide +kernel))).mpr (by decide +kernel)

/-- An instance with no key, and one with a key after it. -/
def keylessListing : List Reservation :=
  [⟨[], [stoppedInstance "i-1".toList none]⟩,
    ⟨[], [stoppedInstance "i-2".toList (some "cs61c-ab-default".toList)]⟩]

/-- The instance with a key could be imported, but the one before it ends the run. -/
theorem keyless_stops_import :
    ((instancesOf keylessListing).map Instance.id).Nodup ∧
      Returns (importInstance 1 (stoppedInstance "i-2".toList (some "cs61c-ab-default".toList)))
        .empty ∧
      ¬ ImportedAsAlone none keylessListing 1 .empty
        (stoppedInstance "i-2".toList (some "cs61c-ab-default".toList)) :=
  ⟨by decide +kernel, (returns_importInstance_iff _ _ _).mpr (by decide +kernel),
    by decide +kernel⟩

end Ec2Wrappers.Usage
