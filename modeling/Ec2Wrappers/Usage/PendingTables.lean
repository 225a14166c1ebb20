import Ec2Wrappers.Foundations.Runs
import Ec2Wrappers.Usage.Import

/-!
# The pending tables and EC2

The account and the usage database side by side. EC2 launches instances, changes their state, and
drops an instance from its listing at any time after its termination; spot requests open, change
state and disappear; and in between `update_instances` and `update_spot_requests` run, each of them
with or without a user name, to its end or up to an exception (`AccountState.next`).

`update_spot_requests` begins by deleting what it is about to read again, so whatever the table held
before, a completed run leaves the open requests of the listing
(`pendingSpot_of_updateSpotRequests`). `update_instances` only writes the rows of listed instances:
a pending row of an instance that is no longer listed stays as it is, as the README says. A
completed run therefore leaves exactly the listed live instances pending if and only if every row
that was pending before it is still listed (`mem_pending_updateInstances_iff`), and EC2 may drop an
instance before any run has seen it terminated (`droppedInstance_pending`). When EC2 drops no
instance whose row is pending (`DropRecorded`), every pending row is listed throughout, and each
pair of completed runs leaves the two tables in agreement with EC2 (`pendingTables_follow`).
-/

set_option autoImplicit false
set_option relaxedAutoImplicit false

namespace Ec2Wrappers.Usage

open Foundations Aws

/-! ### The pending views -/

/-- The instance is in the view `pending_instances`. -/
def UsageDb.Pending (db : UsageDb) (id : Text) : Prop :=
  id ∈ db.pendingInstances.map InstanceRow.instanceId

/-- The request is in the table `pending_spot_requests`. -/
def UsageDb.PendingSpot (db : UsageDb) (id : Text) : Prop :=
  id ∈ db.pendingSpotRequests.rows.map SpotRow.requestId

instance (db : UsageDb) (id : Text) : Decidable (db.Pending id) :=
  inferInstanceAs (Decidable (id ∈ _))

instance (db : UsageDb) (id : Text) : Decidable (db.PendingSpot id) :=
  inferInstanceAs (Decidable (id ∈ _))

/-- The listing shows the instance, and not as terminated. -/
def ListedAlive (listing : List Instance) (id : Text) : Prop :=
  ∃ instance_ ∈ listing, instance_.id = id ∧ instance_.state ≠ .terminated

/-- The listing shows the request as open. -/
def ListedOpen (requests : List SpotInstanceRequest) (id : Text) : Prop :=
  ∃ request ∈ requests, request.id = id ∧ request.state = .opened

instance (listing : List Instance) (id : Text) : Decidable (ListedAlive listing id) :=
  inferInstanceAs (Decidable (∃ _ ∈ _, _))

instance (requests : List SpotInstanceRequest) (id : Text) : Decidable (ListedOpen requests id) :=
  inferInstanceAs (Decidable (∃ _ ∈ _, _))

/-- A listing with one instance more. -/
theorem listedAlive_cons (instance_ : Instance) (rest : List Instance) (id : Text) :
    ListedAlive (instance_ :: rest) id ↔
      (instance_.id = id ∧ instance_.state ≠ .terminated) ∨ ListedAlive rest id := by
  simp [ListedAlive]

/-- A listing with one request more. -/
theorem listedOpen_cons (request : SpotInstanceRequest) (rest : List SpotInstanceRequest)
    (id : Text) : ListedOpen (request :: rest) id ↔
      (request.id = id ∧ request.state = .opened) ∨ ListedOpen rest id := by
  simp [ListedOpen]

/-- What is listed alive is listed. -/
theorem ListedAlive.mem {listing : List Instance} {id : Text} (halive : ListedAlive listing id) :
    id ∈ listing.map Instance.id := by
  obtain ⟨instance_, hmem, hid, -⟩ := halive
  exact List.mem_map.mpr ⟨instance_, hmem, hid⟩

/-- An instance is pending when its row has no end. -/
theorem pending_iff (db : UsageDb) (id : Text) :
    db.Pending id ↔ ∃ row ∈ db.instances.rows, row.instanceId = id ∧ row.endTime = none := by
  simp only [UsageDb.Pending, List.mem_map, mem_pendingInstances]
  exact exists_congr fun row ↦ and_assoc.trans (and_congr_right' and_comm)

/-- What is pending after a row has been put: the instance of the row when the row has no end, and
the others as before. -/
theorem pending_of_insertOrReplace {db after : UsageDb} {row : InstanceRow}
    (hinstances : after.instances = db.instances.insertOrReplace row) (id : Text) :
    after.Pending id ↔ if id = row.instanceId then row.endTime = none else db.Pending id := by
  rw [pending_iff, hinstances]
  simp only [Table.mem_insertOrReplace]
  split_ifs with hid
  · constructor
    · rintro ⟨other, ⟨-, hother⟩ | rfl, hsame, hend⟩
      · exact absurd (hsame.trans hid) hother
      · exact hend
    · exact fun hend ↦ ⟨row, Or.inr rfl, hid.symm, hend⟩
  · rw [pending_iff]
    constructor
    · rintro ⟨other, ⟨hmem, -⟩ | rfl, hsame, hend⟩
      · exact ⟨other, hmem, hsame, hend⟩
      · exact absurd hsame.symm hid
    · rintro ⟨other, hmem, hsame, hend⟩
      exact ⟨other, Or.inl ⟨hmem, fun hother ↦ hid (hsame.symm.trans hother)⟩, hsame, hend⟩

/-- An instance with a recorded end is not pending. -/
theorem not_pending_of_endTime {db : UsageDb} {id : Text} (hend : db.endTime id ≠ none) :
    ¬ db.Pending id := by
  rw [pending_iff]
  rintro ⟨row, hrow, hid, hnone⟩
  have hfind := (Table.find_eq_some_iff db.instances id row).mpr ⟨hrow, hid⟩
  simp [UsageDb.endTime, hfind, hnone] at hend

/-! ### What the runs do to the pending tables -/

section Runs

variable {now : ℚ} {db : UsageDb} {connection : Connection UsageDb}

/-- An import that returns leaves the imported instance pending exactly when it was not seen
terminated, and the others as they were. -/
theorem pending_of_importInstance {instance_ : Instance} {after : UsageDb}
    (hrun : importInstance now instance_ db = (.ok (), after)) (id : Text) :
    after.Pending id ↔
      if id = instance_.id then instance_.state ≠ .terminated else db.Pending id := by
  obtain ⟨keyName, -, -, hinstances⟩ := importInstance_ok hrun
  split_ifs at hinstances with hterminated hend
  · rw [pending_of_insertOrReplace hinstances]
    simp [instanceRow, hterminated]
  · have hkept : after.Pending id ↔ db.Pending id := by rw [pending_iff, hinstances, ← pending_iff]
    rw [hkept]
    split_ifs with hid
    · simpa [hterminated] using not_pending_of_endTime (hid ▸ hend)
    · exact Iff.rfl
  · rw [pending_of_insertOrReplace hinstances]
    simp [instanceRow, hterminated]

/-- A completed loop of imports over a listing whose ids are pairwise different: pending are the
instances the listing shows alive, and those that were pending and are not listed. -/
theorem pending_of_importListing {listing : List Instance}
    (hnodup : (listing.map Instance.id).Nodup)
    (hrun : importListing now listing (.idle db) = (.ok (), connection)) (id : Text) :
    connection.close.Pending id ↔
      ListedAlive listing id ∨ (db.Pending id ∧ id ∉ listing.map Instance.id) := by
  induction listing generalizing db with
  | nil =>
    cases hrun
    simp [ListedAlive, Connection.close, Connection.idle]
  | cons instance_ rest ih =>
    obtain ⟨hnew, hrest⟩ := List.nodup_cons.mp hnodup
    rw [importListing, Py.forEach_cons] at hrun
    rcases hbody : importInstance now instance_ db with ⟨result, middle⟩
    cases result with
    | error error =>
      rw [Py.run_bind_error (transaction_of_error hbody)] at hrun
      cases hrun
    | ok value =>
      rw [Py.run_bind_ok (transaction_of_ok hbody)] at hrun
      rw [ih hrest hrun, pending_of_importInstance hbody]
      by_cases hid : id = instance_.id
      · subst hid
        have hother : ¬ ListedAlive rest instance_.id := fun halive ↦ hnew halive.mem
        simp [listedAlive_cons, hother, hnew]
      · have hid' : instance_.id ≠ id := Ne.symm hid
        simp [listedAlive_cons, hid, hid']

/-- Whatever its outcome, a loop of imports leaves pending only what was pending or is listed. -/
theorem pending_importListing_subset (listing : List Instance) {listed : List Text}
    (hlisted : ∀ instance_ ∈ listing, instance_.id ∈ listed)
    (hbefore : ∀ id, db.Pending id → id ∈ listed) (id : Text)
    (hafter : (importListing now listing (.idle db)).2.close.Pending id) : id ∈ listed := by
  have hbody : ∀ instance_ ∈ listing, ∀ database after : UsageDb,
      (∀ id, database.Pending id → id ∈ listed) →
      importInstance now instance_ database = (.ok (), after) →
      ∀ id, after.Pending id → id ∈ listed := by
    intro instance_ hmem database after hdatabase hrun id hpending
    rw [pending_of_importInstance hrun] at hpending
    split_ifs at hpending with hid
    · exact hid ▸ hlisted instance_ hmem
    · exact hdatabase id hpending
  exact forEach_transaction_invariant listing hbody hbefore id hafter

/-- A completed unfiltered run leaves exactly the listed live instances pending if and only if every
row that was pending before is still listed. -/
theorem mem_pending_updateInstances_iff {account : List Reservation}
    (hnodup : ((instancesOf account).map Instance.id).Nodup)
    (hrun : updateInstances none account now (.idle db) = (.ok (), connection)) :
    (∀ id, connection.close.Pending id ↔ ListedAlive (instancesOf account) id) ↔
      ∀ id, db.Pending id → id ∈ (instancesOf account).map Instance.id := by
  have hpending := pending_of_importListing hnodup hrun
  constructor
  · intro hexact id hbefore
    by_contra hunlisted
    exact hunlisted ((hexact id).mp ((hpending id).mpr (Or.inr ⟨hbefore, hunlisted⟩))).mem
  · intro hlisted id
    rw [hpending id]
    refine or_iff_left_of_imp ?_
    rintro ⟨hbefore, hunlisted⟩
    exact absurd (hlisted id hbefore) hunlisted

/-- One pass of the loop of `update_spot_requests` that returns adds an open request. -/
theorem pendingSpot_of_importSpotRequest {request : SpotInstanceRequest} {after : UsageDb}
    (hrun : importSpotRequest request db = (.ok (), after)) (id : Text) :
    after.PendingSpot id ↔ (request.id = id ∧ request.state = .opened) ∨ db.PendingSpot id := by
  unfold importSpotRequest at hrun
  cases hkey : request.launchSpecification.keyName with
  | none => simp [hkey, userFromKey?, Py.bind_eq, Py.bind] at hrun
  | some keyName =>
    by_cases hopen : request.state = .opened
    · simp only [hkey, userFromKey?, Py.bind_eq, Py.bind, Py.run_ofExcept, hopen, if_true,
        Py.run_modify, Prod.mk.injEq, true_and] at hrun
      subst hrun
      simp only [UsageDb.PendingSpot, List.mem_map, Table.mem_insertOrReplace, hopen, and_true]
      constructor
      · rintro ⟨row, ⟨hmem, -⟩ | rfl, hid⟩
        · exact Or.inr ⟨row, hmem, hid⟩
        · exact Or.inl hid
      · rintro (hid | ⟨row, hmem, hid⟩)
        · exact ⟨spotRow request (userFromKey keyName), Or.inr rfl, hid⟩
        · by_cases hsame : row.requestId = request.id
          · exact ⟨spotRow request (userFromKey keyName), Or.inr rfl, hsame.symm.trans hid⟩
          · exact ⟨row, Or.inl ⟨hmem, hsame⟩, hid⟩
    · simp only [hkey, userFromKey?, Py.bind_eq, Py.bind, Py.run_ofExcept, hopen, if_false,
        Py.run_pure, Prod.mk.injEq, true_and] at hrun
      subst hrun
      simp [hopen]

/-- A completed unfiltered run of `update_spot_requests` leaves exactly the open requests of the
listing, whatever the table held. -/
theorem pendingSpot_of_updateSpotRequests {requests : List SpotInstanceRequest}
    (hrun : updateSpotRequests none requests (.idle db) = (.ok (), connection)) (id : Text) :
    connection.close.PendingSpot id ↔ ListedOpen requests id := by
  unfold updateSpotRequests at hrun
  rcases hbody : Py.forEach requests importSpotRequest (deletePending none db) with ⟨result, after⟩
  have hwhole : (do
      Py.modify (deletePending none)
      Py.forEach (listedRequests none requests) importSpotRequest : Py UsageDb Unit) db =
        (result, after) := hbody
  cases result with
  | error error =>
    rw [transaction_of_error hwhole] at hrun
    cases hrun
  | ok value =>
    rw [transaction_of_ok hwhole] at hrun
    cases hrun
    have hstart : ∀ id, ((deletePending none db).PendingSpot id ∨ ListedOpen requests id) ↔
        ListedOpen requests id := by
      intro id
      refine or_iff_right_of_imp fun hpending ↦ ?_
      obtain ⟨row, hrow, -⟩ := List.mem_map.mp hpending
      simp [deletePending, truthy] at hrow
    have hloop := Py.forEach_invariant (fun rest (store : UsageDb) ↦
      ∀ id, (store.PendingSpot id ∨ ListedOpen rest id) ↔ ListedOpen requests id)
      (fun request rest store after hstore hrun id ↦ by
        rw [pendingSpot_of_importSpotRequest hrun, ← hstore id, listedOpen_cons, or_assoc,
          or_left_comm]) requests hstart hbody
    have hnone : ¬ ListedOpen [] id := by simp [ListedOpen]
    exact (or_iff_left hnone).symm.trans (hloop id)

/-- `update_spot_requests` leaves the table of instances alone, whatever its outcome. -/
theorem instances_updateSpotRequests (db : UsageDb) (username : Option Text)
    (requests : List SpotInstanceRequest) :
    (updateSpotRequests username requests (.idle db)).2.close.instances = db.instances :=
  (tables_updateSpotRequests db username requests).1

end Runs

/-! ### The account and the database side by side -/

/-- What EC2 has and what the database records. No two listed instances have the same id. -/
structure AccountState where
  account : List Reservation
  requests : List SpotInstanceRequest
  db : UsageDb
  ids_nodup : ((instancesOf account).map Instance.id).Nodup

/-- A step: a launch, the state change of an instance, the drop of a terminated one; a new request,
its state change, its disappearance; a run of one of the two functions. -/
inductive AccountEvent
  | launch (reservation : Reservation)
  | changeState (id : Text) (state : InstanceState)
  | drop (id : Text)
  | openRequest (request : SpotInstanceRequest)
  | changeRequest (id : Text) (state : SpotState)
  | dropRequest (id : Text)
  | updateInstances (username : Option Text) (now : ℚ)
  | updateSpotRequests (username : Option Text)

/-- One step. A run that raises leaves what it has committed. -/
def AccountState.next (state : AccountState) : AccountEvent → Option AccountState
  | .launch reservation =>
    if hnew : ((instancesOf (state.account ++ [reservation])).map Instance.id).Nodup then
      some { state with
        account := state.account ++ [reservation]
        ids_nodup := hnew }
    else none
  | .changeState id changed =>
    some { state with
      account := changeReservations id changed state.account
      ids_nodup := by
        rw [instancesOf_changeReservations, List.map_map]
        exact (List.map_congr_left fun instance_ _ ↦ changeInstance_id id changed instance_).symm ▸
          state.ids_nodup }
  | .drop id =>
    some { state with
      account := dropTerminated id state.account
      ids_nodup := by
        rw [instancesOf_dropTerminated]
        exact state.ids_nodup.sublist (List.filter_sublist.map Instance.id) }
  | .openRequest request => some { state with requests := state.requests ++ [request] }
  | .changeRequest id changed =>
    some { state with
      requests := state.requests.map fun request ↦
        if request.id = id then { request with state := changed } else request }
  | .dropRequest id => some { state with requests := state.requests.filter (·.id ≠ id) }
  | .updateInstances username now =>
    some { state with
      db := (updateInstances username state.account now (.idle state.db)).2.close }
  | .updateSpotRequests username =>
    some { state with db := (updateSpotRequests username state.requests (.idle state.db)).2.close }

/-- The database after a pair of unfiltered runs, when both run to their end. -/
def completedPair (state : AccountState) (now : ℚ) : Option UsageDb :=
  match updateInstances none state.account now (.idle state.db) with
  | (.ok (), first) =>
    match updateSpotRequests none state.requests (.idle first.close) with
    | (.ok (), second) => some second.close
    | (.error _, _) => none
  | (.error _, _) => none

/-- EC2 drops no instance whose row is pending. -/
def DropRecorded (state : AccountState) : AccountEvent → Prop
  | .drop id => ¬ state.db.Pending id
  | _ => True

instance (state : AccountState) (event : AccountEvent) : Decidable (DropRecorded state event) := by
  cases event <;> unfold DropRecorded <;> infer_instance

/-- Every pending row is of a listed instance. -/
def AccountState.PendingListed (state : AccountState) : Prop :=
  ∀ id, state.db.Pending id → id ∈ (instancesOf state.account).map Instance.id

/-- The pending tables agree with what EC2 lists. -/
def UsageDb.Follows (db : UsageDb) (state : AccountState) : Prop :=
  (∀ id, db.Pending id ↔ ListedAlive (instancesOf state.account) id) ∧
    ∀ id, db.PendingSpot id ↔ ListedOpen state.requests id

/-- The beginning: any account, and the database just created. -/
def AccountState.start (account : List Reservation) (requests : List SpotInstanceRequest)
    (hnodup : ((instancesOf account).map Instance.id).Nodup) : AccountState :=
  ⟨account, requests, .empty, hnodup⟩

/-! ### Whole histories -/

/-- A step that does not drop an instance with a pending row keeps every pending row listed. -/
theorem pendingListed_next {before after : AccountState} {event : AccountEvent}
    (hstep : guarded (stepsOf AccountState.next) DropRecorded before event after)
    (hbefore : before.PendingListed) : after.PendingListed := by
  obtain ⟨hnext, hrecorded⟩ := hstep
  cases event with
  | launch reservation =>
    simp only [stepsOf, AccountState.next] at hnext
    split_ifs at hnext
    cases hnext
    intro id hpending
    rw [instancesOf_append, List.map_append]
    exact List.mem_append_left _ (hbefore id hpending)
  | changeState changed state =>
    cases hnext
    intro id hpending
    rw [instancesOf_changeReservations, List.map_map]
    obtain ⟨instance_, hmem, hid⟩ := List.mem_map.mp (hbefore id hpending)
    exact List.mem_map.mpr ⟨instance_, hmem, by simpa using hid⟩
  | drop dropped =>
    cases hnext
    intro id hpending
    rw [instancesOf_dropTerminated]
    obtain ⟨instance_, hmem, hid⟩ := List.mem_map.mp (hbefore id hpending)
    have hkept : instance_.id ≠ dropped := fun hsame ↦ hrecorded (hsame ▸ hid ▸ hpending)
    exact List.mem_map.mpr ⟨instance_, List.mem_filter.mpr ⟨hmem, by simp [hkept]⟩, hid⟩
  | openRequest request =>
    cases hnext
    exact hbefore
  | changeRequest id changed =>
    cases hnext
    exact hbefore
  | dropRequest id =>
    cases hnext
    exact hbefore
  | updateInstances username now =>
    cases hnext
    exact pending_importListing_subset _
      (fun _ hmem ↦ List.mem_map_of_mem (mem_of_getAllInstances hmem)) hbefore
  | updateSpotRequests username =>
    cases hnext
    intro id hpending
    refine hbefore id ?_
    rwa [pending_iff, instances_updateSpotRequests before.db, ← pending_iff] at hpending

/-- In every history in which EC2 drops no instance whose row is pending, a pair of completed
unfiltered runs leaves pending exactly the instances that the listing shows alive and the requests
that it shows open. -/
theorem pendingTables_follow {account : List Reservation} {requests : List SpotInstanceRequest}
    {hnodup : ((instancesOf account).map Instance.id).Nodup} {events : List AccountEvent}
    {state : AccountState} {now : ℚ} {db : UsageDb}
    (hrun : Run (guarded (stepsOf AccountState.next) DropRecorded)
      (.start account requests hnodup) events state)
    (hpair : completedPair state now = some db) : db.Follows state := by
  have hstep : ∀ before event after,
      guarded (stepsOf AccountState.next) DropRecorded before event after →
      before.PendingListed → after.PendingListed := fun _ _ _ ↦ pendingListed_next
  have hlisted : state.PendingListed := by
    refine hrun.invariant hstep fun id hpending ↦ ?_
    simp [pending_iff, AccountState.start, UsageDb.empty, Table.empty] at hpending
  unfold completedPair at hpair
  split at hpair
  · rename_i first hinstances
    split at hpair
    · rename_i second hspots
      cases hpair
      have hexact := (mem_pending_updateInstances_iff state.ids_nodup hinstances).mpr hlisted
      have hkept := instances_updateSpotRequests first.close none state.requests
      rw [hspots] at hkept
      refine ⟨fun id ↦ ?_, pendingSpot_of_updateSpotRequests hspots⟩
      rw [← hexact id, pending_iff, hkept, ← pending_iff]
    · cases hpair
  · cases hpair

/-- An instance of user `cs61c-aa`. -/
def pendingInstance (id : Text) : Instance where
  id := id
  instanceType := "m1.large".toList
  keyName := some "cs61c-aa-default".toList
  state := .pending
  launchTime := 0
  spotInstanceRequestId := none

/-- An open request of user `cs61c-aa`. -/
def openedRequest (id : Text) : SpotInstanceRequest where
  id := id
  state := .opened
  createTime := 0
  launchSpecification := ⟨some "cs61c-aa-default".toList, "m1.large".toList, []⟩

/-- Two instances and two requests, of which one each ends; the end of the instance is recorded
before EC2 drops it. -/
def recordedHistory : List AccountEvent :=
  [.launch ⟨[], [pendingInstance "i-1".toList, pendingInstance "i-2".toList]⟩,
    .openRequest (openedRequest "sir-1".toList), .openRequest (openedRequest "sir-2".toList),
    .updateInstances none 1, .updateSpotRequests none,
    .changeState "i-1".toList .terminated, .changeRequest "sir-1".toList .active,
    .updateInstances none 2, .drop "i-1".toList, .dropRequest "sir-1".toList]

theorem pendingTables_follow_recordedHistory : ∃ state db,
    recordedHistory.foldlM (checked AccountState.next DropRecorded)
        (.start [] [] List.nodup_nil) = some state ∧
      completedPair state 3 = some db ∧ db.Pending "i-2".toList ∧ db.Follows state := by
  have hany : (recordedHistory.foldlM (checked AccountState.next DropRecorded)
      (.start [] [] List.nodup_nil)).any
        (fun state ↦ (completedPair state 3).any fun db ↦ db.Pending "i-2".toList) = true := by
    decide +kernel
  obtain ⟨state, hstate, hlater⟩ := (Option.any_eq_true _ _).mp hany
  obtain ⟨db, hpair, hpending⟩ := (Option.any_eq_true _ _).mp hlater
  exact ⟨state, db, hstate, hpair, of_decide_eq_true hpending,
    pendingTables_follow (Run.of_foldlM_checked hstate) hpair⟩

/-- An instance that ends and is dropped before any run has seen it terminated. -/
def unrecordedHistory : List AccountEvent :=
  [.launch ⟨[], [pendingInstance "i-1".toList]⟩, .updateInstances none 1,
    .changeState "i-1".toList .terminated, .drop "i-1".toList]

/-- The row of the dropped instance is still pending after the next pair of completed runs. -/
theorem droppedInstance_pending : ∃ state db,
    Run (stepsOf AccountState.next) (.start [] [] List.nodup_nil) unrecordedHistory state ∧
      completedPair state 2 = some db ∧ db.Pending "i-1".toList ∧
        ¬ ListedAlive (instancesOf state.account) "i-1".toList := by
  have hany : (unrecordedHistory.foldlM AccountState.next (.start [] [] List.nodup_nil)).any
      (fun state ↦ (completedPair state 2).any fun db ↦ db.Pending "i-1".toList ∧
        ¬ ListedAlive (instancesOf state.account) "i-1".toList) = true := by
    decide +kernel
  obtain ⟨state, hstate, hlater⟩ := (Option.any_eq_true _ _).mp hany
  obtain ⟨db, hpair, hwrong⟩ := (Option.any_eq_true _ _).mp hlater
  obtain ⟨hpending, hunlisted⟩ := of_decide_eq_true hwrong
  exact ⟨state, db, Run.of_foldlM hstate, hpair, hpending, hunlisted⟩

end Ec2Wrappers.Usage
