import Ec2Wrappers.Usage.Database

/-!
# Importing EC2 listings into the usage database

`record_usage.update_instances` and `record_usage.update_spot_requests`. `update_instances` imports
each listed instance in a transaction of its own; the body of the transaction is `importInstance`.
The statement that should close a stop interval, `UPDATE instance_stopped WHERE … SET …`, is not
SQL: SQLite refuses it when it is prepared, so the import of an instance that runs again after a
recorded stop raises (`importInstance_running`).

`importInstance_terminated`, `importInstance_stopped` and `importInstance_running` say what the body
does for each kind of observation, and the rest of the development uses nothing else about it.
-/

set_option autoImplicit false
set_option relaxedAutoImplicit false

namespace Ec2Wrappers.Usage

open Foundations Aws

/-! ### Attribution -/

/-- `user_from_key`. -/
def userFromKey (keyName : Text) : Text :=
  if "cs".toList.isPrefixOf keyName then
    ['-'].intercalate ((keyName.splitOn '-').take 2)
  else
    ((keyName.splitOn '-').take 1).flatten

/-- `user_from_key` of a key name that may be `None`. -/
def userFromKey? : Option Text → Except PyError Text
  | some keyName => .ok (userFromKey keyName)
  | none => .error (.attributeError "startswith".toList)

/-! ### Instances -/

/-- The row for an instance, with its end. -/
def instanceRow (instance_ : Instance) (username : Text) (now : ℚ) (endTime : Option ℚ) :
    InstanceRow where
  instanceId := instance_.id
  instanceType := instance_.instanceType
  startTime := instance_.launchTime
  endTime := endTime
  lastSeen := now
  isSpot := instance_.spotInstanceRequestId.isSome
  username := username

/-- `INSERT OR REPLACE INTO instances`. -/
def UsageDb.replaceInstance (db : UsageDb) (row : InstanceRow) : UsageDb :=
  { db with instances := db.instances.insertOrReplace row }

/-- `INSERT INTO instance_stopped (instance_id, stopped_time)`. -/
def insertStopped (instanceId : Text) (now : ℚ) : Py UsageDb Unit := fun db ↦
  match db.instanceStopped.insert ⟨instanceId, .text now, .null⟩ with
  | some rows => (.ok (), { db with instanceStopped := rows })
  | none => (.error (.library "IntegrityError".toList "columns are not unique".toList), db)

/-- `UPDATE instance_stopped WHERE instance_id = ? AND stopped_time = ? SET running_time = ?`: the
`SET` clause stands after the `WHERE` clause, which SQLite refuses. -/
def updateStopped (_instanceId : Text) (_oldStopTime : SqlValue) (_now : ℚ) : Py UsageDb Unit :=
  Py.raise (.library "OperationalError".toList "near \"WHERE\": syntax error".toList)

/-- The body of the transaction that imports one instance. -/
def importInstance (now : ℚ) (instance_ : Instance) : Py UsageDb Unit := do
  let username ← Py.ofExcept (userFromKey? instance_.keyName)
  let db ← Py.get
  let oldEndTime := db.endTime instance_.id
  let oldStopTime := db.openStop instance_.id
  if instance_.state = .terminated ∧ oldEndTime = none then
    Py.modify (·.replaceInstance (instanceRow instance_ username now (some now)))
  if instance_.state ≠ .stopped ∧ instance_.state ≠ .terminated then
    match oldStopTime with
    | some oldStopTime => updateStopped instance_.id oldStopTime now
    | none => pure ()
  if instance_.state ≠ .terminated then
    Py.modify (·.replaceInstance (instanceRow instance_ username now none))
  if instance_.state = .stopped then
    insertStopped instance_.id now

/-- A text that is empty is false, as `None` is. -/
def truthy : Option Text → Option Text
  | some (head :: tail) => some (head :: tail)
  | _ => none

/-- The imports of a listing, each in its own transaction. -/
def importListing (now : ℚ) (listing : List Instance) : Py (Connection UsageDb) Unit :=
  Py.forEach listing fun instance_ ↦ transaction (importInstance now instance_)

/-- `update_instances`, from the account as EC2 has it when it is listed and the moment after. -/
def updateInstances (username : Option Text) (account : List Reservation) (now : ℚ) :
    Py (Connection UsageDb) Unit :=
  importListing now (instancesOf (getAllInstances account (truthy username)))

/-! ### Spot requests -/

/-- The row for an open spot request. -/
def spotRow (request : SpotInstanceRequest) (username : Text) : SpotRow where
  requestId := request.id
  instanceType := request.launchSpecification.instanceType
  requestTime := request.createTime
  username := username

/-- One pass of the loop of `update_spot_requests`. -/
def importSpotRequest (request : SpotInstanceRequest) : Py UsageDb Unit := do
  let username ← Py.ofExcept (userFromKey? request.launchSpecification.keyName)
  if request.state = .opened then
    Py.modify fun db ↦
      { db with
        pendingSpotRequests := db.pendingSpotRequests.insertOrReplace (spotRow request username) }

/-- The `DELETE` that opens `update_spot_requests`. -/
def deletePending (username : Option Text) (db : UsageDb) : UsageDb :=
  { db with
    pendingSpotRequests := db.pendingSpotRequests.delete fun row ↦
      match truthy username with
      | some username => row.username = username
      | none => true }

/-- The requests that EC2 lists for `update_spot_requests`; it applies the filter on the key
name. -/
def listedRequests (username : Option Text) (requests : List SpotInstanceRequest) :
    List SpotInstanceRequest :=
  match truthy username with
  | some username => requests.filter fun request ↦
      match request.launchSpecification.keyName with
      | some key => username.isPrefixOf key
      | none => false
  | none => requests

/-- `update_spot_requests`, from the requests of the account. -/
def updateSpotRequests (username : Option Text) (requests : List SpotInstanceRequest) :
    Py (Connection UsageDb) Unit :=
  transaction do
    Py.modify (deletePending username)
    Py.forEach (listedRequests username requests) importSpotRequest

/-! ### What the import of one instance does -/

section ImportInstance

variable {now : ℚ} {instance_ : Instance} {keyName : Text} {db : UsageDb}

/-- An instance with no key cannot be imported. -/
theorem importInstance_noKey (hkey : instance_.keyName = none) :
    importInstance now instance_ db = (.error (.attributeError "startswith".toList), db) := by
  simp [importInstance, hkey, userFromKey?, Py.bind_eq, Py.bind]

/-- A terminated instance gets its end at the first import that sees it terminated. -/
theorem importInstance_terminated (hkey : instance_.keyName = some keyName)
    (hstate : instance_.state = .terminated) :
    importInstance now instance_ db = (.ok (), if db.endTime instance_.id = none then
      db.replaceInstance (instanceRow instance_ (userFromKey keyName) now (some now)) else db) := by
  by_cases hend : db.endTime instance_.id = none <;>
    simp [importInstance, hkey, hstate, hend, userFromKey?, Py.bind_eq, Py.bind]

/-- A stopped instance gets a row with no end and a stop interval beginning now. -/
theorem importInstance_stopped (hkey : instance_.keyName = some keyName)
    (hstate : instance_.state = .stopped) :
    importInstance now instance_ db = insertStopped instance_.id now
      (db.replaceInstance (instanceRow instance_ (userFromKey keyName) now none)) := by
  simp [importInstance, hkey, hstate, userFromKey?, Py.bind_eq, Py.bind]

/-- An instance that is neither stopped nor terminated gets a row with no end, unless a stop of it
is open: then the import raises. -/
theorem importInstance_running (hkey : instance_.keyName = some keyName)
    (hstopped : instance_.state ≠ .stopped) (hterminated : instance_.state ≠ .terminated) :
    importInstance now instance_ db =
      if db.openStop instance_.id = none then
        (.ok (), db.replaceInstance (instanceRow instance_ (userFromKey keyName) now none))
      else
        (.error (.library "OperationalError".toList "near \"WHERE\": syntax error".toList),
        db) := by
  cases hopen : db.openStop instance_.id <;>
    simp [importInstance, hkey, hstopped, hterminated, hopen, userFromKey?, updateStopped,
      Py.bind_eq, Py.bind]

/-- `INSERT INTO instance_stopped` touches no other table. -/
theorem insertStopped_ok {instanceId : Text} {after : UsageDb}
    (hrun : insertStopped instanceId now db = (.ok (), after)) :
    after.instances = db.instances ∧ after.pendingSpotRequests = db.pendingSpotRequests := by
  unfold insertStopped at hrun
  split at hrun
  · cases hrun
    exact ⟨rfl, rfl⟩
  · cases hrun

/-- What an import that returns has done to the tables `instances` and `pending_spot_requests`: it
put a row with no end for an instance that is not terminated, and a row with its end for a
terminated one that had none. -/
theorem importInstance_ok {after : UsageDb}
    (hrun : importInstance now instance_ db = (.ok (), after)) :
    ∃ keyName, instance_.keyName = some keyName ∧
      after.pendingSpotRequests = db.pendingSpotRequests ∧
      after.instances =
        if instance_.state = .terminated then
          if db.endTime instance_.id = none then
            db.instances.insertOrReplace
              (instanceRow instance_ (userFromKey keyName) now (some now))
          else db.instances
        else db.instances.insertOrReplace
          (instanceRow instance_ (userFromKey keyName) now none) := by
  cases hkey : instance_.keyName with
  | none =>
    rw [importInstance_noKey hkey] at hrun
    cases hrun
  | some keyName =>
    refine ⟨keyName, rfl, ?_⟩
    by_cases hterminated : instance_.state = .terminated
    · rw [importInstance_terminated hkey hterminated] at hrun
      cases hrun
      split_ifs <;> exact ⟨rfl, rfl⟩
    · rw [if_neg hterminated]
      by_cases hstopped : instance_.state = .stopped
      · rw [importInstance_stopped hkey hstopped] at hrun
        exact (insertStopped_ok hrun).symm
      · rw [importInstance_running hkey hstopped hterminated] at hrun
        split_ifs at hrun with hopen
        · cases hrun
          exact ⟨rfl, rfl⟩
        · cases hrun

end ImportInstance

/-! ### What a run of `update_spot_requests` leaves alone -/

/-- `update_spot_requests` leaves the tables about instances alone, whatever its outcome. -/
theorem tables_updateSpotRequests (db : UsageDb) (username : Option Text)
    (requests : List SpotInstanceRequest) :
    (updateSpotRequests username requests (.idle db)).2.close.instances = db.instances ∧
      (updateSpotRequests username requests (.idle db)).2.close.instanceStopped =
        db.instanceStopped := by
  have hpass (request : SpotInstanceRequest) :
      Py.Keeps (fun store : UsageDb ↦
        store.instances = db.instances ∧ store.instanceStopped = db.instanceStopped)
        (importSpotRequest request) := by
    refine Py.keeps_bind (Py.keeps_ofExcept _ _) fun keyName store hstore ↦ ?_
    split_ifs
    · exact hstore
    · exact hstore
  have hbody (listed : List SpotInstanceRequest) :
      Py.Keeps (fun store : UsageDb ↦
        store.instances = db.instances ∧ store.instanceStopped = db.instanceStopped)
        (do Py.modify (deletePending username); Py.forEach listed importSpotRequest) :=
    Py.keeps_bind (fun _ hstore ↦ hstore)
      fun _ ↦ Py.keeps_forEach listed fun request _ ↦ hpass request
  unfold updateSpotRequests
  exact transaction_keeps (hbody _) ⟨rfl, rfl⟩

/-! ### Ends -/

/-- The end of an instance after a row has been put. -/
theorem endTime_of_insertOrReplace {db after : UsageDb} {row : InstanceRow}
    (hinstances : after.instances = db.instances.insertOrReplace row) (id : Text) :
    after.endTime id = if id = row.instanceId then row.endTime else db.endTime id := by
  rw [UsageDb.endTime, hinstances, Table.find_insertOrReplace]
  split_ifs <;> rfl

/-- The end of an instance is that of the row put for it. -/
theorem endTime_replaceInstance (db : UsageDb) (row : InstanceRow) :
    (db.replaceInstance row).endTime row.instanceId = row.endTime := by
  rw [endTime_of_insertOrReplace rfl, if_pos rfl]

/-- The ends after an import that returned: the imported instance has an end exactly when it was
seen terminated, the one it had before if there was one, and the others have theirs. -/
theorem endTime_of_importInstance {now : ℚ} {instance_ : Instance} {db after : UsageDb}
    (hrun : importInstance now instance_ db = (.ok (), after)) (id : Text) :
    after.endTime id =
      if id = instance_.id then
        if instance_.state = .terminated then some ((db.endTime id).getD now) else none
      else db.endTime id := by
  obtain ⟨keyName, -, -, hinstances⟩ := importInstance_ok hrun
  have hsame : after.instances = db.instances → after.endTime id = db.endTime id := fun hkept ↦ by
    rw [UsageDb.endTime, hkept, UsageDb.endTime]
  split_ifs at hinstances with hterminated hend
  · rw [endTime_of_insertOrReplace hinstances, if_pos hterminated]
    by_cases hid : id = instance_.id
    · simp [hid, hend, instanceRow]
    · simp [hid, instanceRow]
  · rw [hsame hinstances, if_pos hterminated]
    split_ifs with hid
    · obtain ⟨finish, hfinish⟩ := Option.ne_none_iff_exists'.mp hend
      simp [hid, hfinish]
    · rfl
  · rw [endTime_of_insertOrReplace hinstances, if_neg hterminated]
    rfl

end Ec2Wrappers.Usage
