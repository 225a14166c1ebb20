import Ec2Wrappers.Usage.ImportIsolation

/-!
# The refresh of one user and of all users

`user_report` runs `update_instances` and `update_spot_requests` with a user name, the unfiltered
runs read everything (`refresh`). EC2 filters by a prefix of the key name, while `user_from_key`
takes the owner from the dashes in it; the owner is a prefix of the key name
(`isPrefix_userFromKey`), so the filter drops nothing of the user's, and what it lists of other
users is left to them.

The database remembers the owner of an instance. As EC2 never changes the key name of an instance,
every row there is keeps the owner that its key name says (`owned_databaseAfter`), and both
refreshes leave the same rows to the user (`refresh_agrees`).
-/

set_option autoImplicit false
set_option relaxedAutoImplicit false

namespace Ec2Wrappers.Usage

open Foundations Aws

/-! ### Refreshes -/

/-- The two runs of `user_report`, or of all users, one after the other. -/
def refresh (username : Option Text) (account : List Reservation)
    (requests : List SpotInstanceRequest) (now : ℚ) : Py (Connection UsageDb) Unit := do
  updateInstances username account now
  updateSpotRequests username requests

/-- A run of one of the two functions, with what EC2 has at that time. -/
inductive Refresh
  | instances (username : Option Text) (account : List Reservation) (now : ℚ)
  | spotRequests (username : Option Text) (requests : List SpotInstanceRequest)

/-- The database after a run; one that raises leaves what it has committed. -/
def UsageDb.refreshed (db : UsageDb) : Refresh → UsageDb
  | .instances username account now => (updateInstances username account now (.idle db)).2.close
  | .spotRequests username requests => (updateSpotRequests username requests (.idle db)).2.close

/-- The database after some runs. -/
def databaseAfter (refreshes : List Refresh) : UsageDb :=
  refreshes.foldl UsageDb.refreshed .empty

/-- Every instance of the account has the key name that belongs to its id. -/
def KeepsKeys (keys : Text → Option Text) (account : List Reservation) : Prop :=
  ∀ instance_ ∈ instancesOf account, instance_.keyName = keys instance_.id

/-- EC2 has shown every instance with the key name that belongs to its id. -/
def Refresh.KeepsKeys (keys : Text → Option Text) : Refresh → Prop
  | .instances _ account _ => Usage.KeepsKeys keys account
  | .spotRequests _ _ => True

/-- Two databases have the same rows of a user: in `instances`, in `instance_stopped` for the user's
instances, and in `pending_spot_requests`. -/
structure SameRowsOf (username : Text) (first second : UsageDb) : Prop where
  instances : ∀ row : InstanceRow, row.username = username →
    (row ∈ first.instances.rows ↔ row ∈ second.instances.rows)
  instanceStopped : ∀ row ∈ first.instances.rows, row.username = username →
    first.stoppedRows row.instanceId = second.stoppedRows row.instanceId
  pendingSpotRequests : ∀ row : SpotRow, row.username = username →
    (row ∈ first.pendingSpotRequests.rows ↔ row ∈ second.pendingSpotRequests.rows)

/-! ### The owner and the key name -/

/-- The owner is a prefix of the key name. -/
theorem isPrefix_userFromKey (keyName : Text) : userFromKey keyName <+: keyName := by
  have hsplit : ['-'].intercalate (keyName.splitOn '-') = keyName :=
    List.intercalate_splitOn '-'
  unfold userFromKey
  match hparts : keyName.splitOn '-' with
  | [] => exact absurd hparts (List.splitOn_ne_nil '-' keyName)
  | [only] =>
    rw [hparts] at hsplit
    split_ifs
    · rw [← hsplit]
      exact List.prefix_refl _
    · rw [← hsplit]
      simp [List.intercalate]
  | first :: second :: rest =>
    rw [hparts] at hsplit
    split_ifs
    · rw [← hsplit]
      cases rest with
      | nil => exact List.prefix_refl _
      | cons third rest => simp [List.intercalate, List.intersperse]
    · rw [← hsplit]
      simp [List.intercalate]

/-- EC2's filter lists the instances of its user. -/
theorem keyStartsWith_of_owner {instance_ : Instance} {keyName : Text}
    (hkey : instance_.keyName = some keyName) :
    instance_.keyStartsWith (userFromKey keyName) = true := by
  rw [Instance.keyStartsWith, hkey]
  exact List.isPrefixOf_iff_prefix.mpr (isPrefix_userFromKey keyName)

/-! ### Owners in the database -/

/-- Every row of `instances` has the owner that the key name of its instance says. -/
def Owned (keys : Text → Option Text) (db : UsageDb) : Prop :=
  ∀ row ∈ db.instances.rows, ∃ keyName, keys row.instanceId = some keyName ∧
    row.username = userFromKey keyName

section Owners

variable {keys : Text → Option Text} {now : ℚ} {db : UsageDb}

/-- An import puts a row with the owner that the key name says. -/
theorem owned_importInstance {instance_ : Instance} {after : UsageDb}
    (hkeeps : instance_.keyName = keys instance_.id) (howned : Owned keys db)
    (hrun : importInstance now instance_ db = (.ok (), after)) : Owned keys after := by
  obtain ⟨keyName, hkey, -, hinstances⟩ := importInstance_ok hrun
  have hput (endTime : Option ℚ) : ∀ row ∈ (db.instances.insertOrReplace
      (instanceRow instance_ (userFromKey keyName) now endTime)).rows,
      ∃ keyName, keys row.instanceId = some keyName ∧ row.username = userFromKey keyName := by
    intro row hrow
    rcases (Table.mem_insertOrReplace _ _ row).mp hrow with ⟨hmem, -⟩ | rfl
    · exact howned row hmem
    · exact ⟨keyName, hkeeps.symm.trans hkey, rfl⟩
  unfold Owned
  rw [hinstances]
  split_ifs
  · exact hput _
  · exact howned
  · exact hput _

/-- A loop of imports keeps the owners. -/
theorem owned_importListing {listing : List Instance}
    (hkeeps : ∀ instance_ ∈ listing, instance_.keyName = keys instance_.id)
    (howned : Owned keys db) : Owned keys (importListing now listing (.idle db)).2.close :=
  forEach_transaction_invariant listing
    (fun instance_ hmem _ _ hdatabase hrun ↦
      owned_importInstance (hkeeps instance_ hmem) hdatabase hrun) howned

/-- A filtered listing shows the instances it lists with their key names. -/
theorem keepsKeys_getAllInstances {account : List Reservation} (hkeeps : KeepsKeys keys account)
    (username : Option Text) : KeepsKeys keys (getAllInstances account (truthy username)) :=
  fun instance_ hmem ↦ hkeeps instance_ (mem_of_getAllInstances hmem)

/-- Every run keeps the owners. -/
theorem owned_refreshed {event : Refresh} (hkeeps : event.KeepsKeys keys) (howned : Owned keys db) :
    Owned keys (db.refreshed event) := by
  cases event with
  | instances username account now =>
    exact owned_importListing (keepsKeys_getAllInstances hkeeps username) howned
  | spotRequests username requests =>
    unfold Owned UsageDb.refreshed
    rw [(tables_updateSpotRequests db username requests).1]
    exact howned

/-- After any runs every row has the owner that the key name of its instance says. -/
theorem owned_databaseAfter {refreshes : List Refresh}
    (hkeeps : ∀ event ∈ refreshes, event.KeepsKeys keys) :
    Owned keys (databaseAfter refreshes) := by
  induction refreshes using List.reverseRecOn with
  | nil =>
    intro row hrow
    exact absurd hrow List.not_mem_nil
  | append_singleton before last ih =>
    rw [List.forall_mem_append, List.forall_mem_singleton] at hkeeps
    rw [databaseAfter, List.foldl_append]
    exact owned_refreshed hkeeps.2 (ih hkeeps.1)

end Owners

/-! ### The rows about instances -/

section Instances

variable {keys : Text → Option Text} {now : ℚ} {db : UsageDb} {username : Text}
variable {account : List Reservation}

/-- Both runs of `update_instances` leave the same rows to the instances of the user. -/
theorem instanceRows_updateInstances {own whole : Connection UsageDb}
    (husername : truthy (some username) = some username)
    (hnodup : ((instancesOf account).map Instance.id).Nodup) (hkeeps : KeepsKeys keys account)
    (hown : updateInstances (some username) account now (.idle db) = (.ok (), own))
    (hwhole : updateInstances none account now (.idle db) = (.ok (), whole)) {id keyName : Text}
    (hkey : keys id = some keyName) (howner : userFromKey keyName = username) :
    instanceRows id own.close = instanceRows id whole.close := by
  rw [updateInstances, husername, instancesOf_getAllInstances] at hown
  have hownNodup : (((instancesOf account).filter (·.keyStartsWith username)).map
      Instance.id).Nodup := hnodup.sublist (List.filter_sublist.map Instance.id)
  obtain ⟨hownParts, hownOthers⟩ :=
    forEach_isolated_of_ok (isolated_importInstance now) hownNodup hown
  obtain ⟨hwholeParts, hwholeOthers⟩ :=
    forEach_isolated_of_ok (isolated_importInstance now) hnodup hwhole
  by_cases hlisted : id ∈ (instancesOf account).map Instance.id
  · obtain ⟨instance_, hmem, rfl⟩ := List.mem_map.mp hlisted
    have hstarts : instance_.keyStartsWith username = true :=
      howner ▸ keyStartsWith_of_owner ((hkeeps instance_ hmem).trans hkey)
    obtain ⟨alone, halone, hrows⟩ :=
      hownParts instance_ (List.mem_filter.mpr ⟨hmem, hstarts⟩)
    obtain ⟨same, hsame, hrows'⟩ := hwholeParts instance_ hmem
    rw [halone] at hsame
    cases hsame
    rw [hrows, hrows']
  · have hunlisted : id ∉ ((instancesOf account).filter (·.keyStartsWith username)).map
        Instance.id := fun hmem ↦ hlisted ((List.filter_sublist.map Instance.id).subset hmem)
    rw [hownOthers id hunlisted, hwholeOthers id hlisted]

end Instances

/-- A row of an instance is in every database with the same rows of the instance. -/
theorem mem_of_instanceRows_eq {first second : UsageDb} {row : InstanceRow}
    (hrows : instanceRows row.instanceId first = instanceRows row.instanceId second)
    (hrow : row ∈ first.instances.rows) : row ∈ second.instances.rows := by
  have hfind : first.instances.find row.instanceId = second.instances.find row.instanceId :=
    (Prod.mk.inj hrows).1
  rw [(Table.find_eq_some_iff _ _ row).mpr ⟨hrow, rfl⟩] at hfind
  exact ((Table.find_eq_some_iff _ _ row).mp hfind.symm).1

/-! ### The rows of spot requests -/

section Requests

variable {db after : UsageDb} {username : Text}

/-- One pass of the loop of `update_spot_requests` that returns puts the row of an open request. -/
theorem importSpotRequest_ok {request : SpotInstanceRequest}
    (hrun : importSpotRequest request db = (.ok (), after)) :
    ∃ keyName, request.launchSpecification.keyName = some keyName ∧
      after.pendingSpotRequests = if request.state = .opened then
        db.pendingSpotRequests.insertOrReplace (spotRow request (userFromKey keyName))
      else db.pendingSpotRequests := by
  unfold importSpotRequest at hrun
  cases hkey : request.launchSpecification.keyName with
  | none => simp [hkey, userFromKey?, Py.bind_eq, Py.bind] at hrun
  | some keyName =>
    refine ⟨keyName, rfl, ?_⟩
    by_cases hopen : request.state = .opened
    · simp only [hkey, userFromKey?, Py.bind_eq, Py.bind, Py.run_ofExcept, hopen, if_true,
        Py.run_modify, Prod.mk.injEq, true_and] at hrun
      rw [if_pos hopen, ← hrun]
    · simp only [hkey, userFromKey?, Py.bind_eq, Py.bind, Py.run_ofExcept, hopen, if_false,
        Py.run_pure, Prod.mk.injEq, true_and] at hrun
      rw [if_neg hopen, hrun]

/-- The row is one that the loop puts for an open request of the list. -/
def PutFor (requests : List SpotInstanceRequest) (row : SpotRow) : Prop :=
  ∃ request ∈ requests, request.state = .opened ∧ ∃ keyName,
    request.launchSpecification.keyName = some keyName ∧ row = spotRow request (userFromKey keyName)

/-- A list with one request more. -/
theorem putFor_cons (request : SpotInstanceRequest) (rest : List SpotInstanceRequest)
    (row : SpotRow) : PutFor (request :: rest) row ↔
      PutFor [request] row ∨ PutFor rest row := by
  simp [PutFor]

/-- After the loop the rows are those put for open requests, and the ones there were whose id no
open request of the list has. -/
theorem mem_pending_of_forEach {requests : List SpotInstanceRequest}
    (hnodup : (requests.map SpotInstanceRequest.id).Nodup)
    (hrun : Py.forEach requests importSpotRequest db = (.ok (), after)) (row : SpotRow) :
    row ∈ after.pendingSpotRequests.rows ↔ PutFor requests row ∨
      row ∈ db.pendingSpotRequests.rows ∧
        ∀ request ∈ requests, request.state = .opened → request.id ≠ row.requestId := by
  induction requests generalizing db with
  | nil =>
    cases hrun
    simp [PutFor]
  | cons request rest ih =>
    obtain ⟨hnew, hrest⟩ := List.nodup_cons.mp hnodup
    rw [Py.forEach_cons] at hrun
    rcases hbody : importSpotRequest request db with ⟨result, middle⟩
    cases result with
    | error error =>
      rw [Py.run_bind_error hbody] at hrun
      cases hrun
    | ok value =>
      rw [Py.run_bind_ok hbody] at hrun
      obtain ⟨keyName, hkey, hpending⟩ := importSpotRequest_ok hbody
      rw [ih hrest hrun, hpending, putFor_cons, List.forall_mem_cons]
      have hsingle : PutFor [request] row ↔
          request.state = .opened ∧ row = spotRow request (userFromKey keyName) := by
        simp [PutFor, hkey]
      have hlater : row = spotRow request (userFromKey keyName) →
          ∀ other ∈ rest, other.state = .opened → other.id ≠ row.requestId := by
        rintro rfl other hother - hsame
        exact hnew (List.mem_map.mpr ⟨other, hother, hsame⟩)
      rw [hsingle]
      by_cases hopen : request.state = .opened
      · rw [if_pos hopen, Table.mem_insertOrReplace]
        have hother : row.requestId ≠ (spotRow request (userFromKey keyName)).requestId ↔
            request.id ≠ row.requestId := ne_comm
        rw [hother]
        constructor
        · rintro (hput | ⟨⟨hold, hne⟩ | hnew, hothers⟩)
          · exact .inl (.inr hput)
          · exact .inr ⟨hold, fun _ ↦ hne, hothers⟩
          · exact .inl (.inl ⟨hopen, hnew⟩)
        · rintro ((⟨-, hnew⟩ | hput) | ⟨hold, hne, hothers⟩)
          · exact .inr ⟨.inr hnew, hlater hnew⟩
          · exact .inl hput
          · exact .inr ⟨.inl ⟨hold, hne hopen⟩, hothers⟩
      · rw [if_neg hopen]
        constructor
        · rintro (hput | ⟨hold, hothers⟩)
          · exact .inl (.inr hput)
          · exact .inr ⟨hold, fun hopened ↦ absurd hopened hopen, hothers⟩
        · rintro ((⟨hopened, -⟩ | hput) | ⟨hold, -, hothers⟩)
          · exact absurd hopened hopen
          · exact .inl hput
          · exact .inr ⟨hold, hothers⟩

/-- The rows of `pending_spot_requests` after a run that returned. -/
theorem mem_pending_updateSpotRequests {username : Option Text} {connection : Connection UsageDb}
    {requests : List SpotInstanceRequest} (hnodup : (requests.map SpotInstanceRequest.id).Nodup)
    (hrun : updateSpotRequests username requests (.idle db) = (.ok (), connection))
    (row : SpotRow) : row ∈ connection.close.pendingSpotRequests.rows ↔
      PutFor (listedRequests username requests) row ∨
        row ∈ (deletePending username db).pendingSpotRequests.rows ∧
          ∀ request ∈ listedRequests username requests, request.state = .opened →
            request.id ≠ row.requestId := by
  have hloop : Py.forEach (listedRequests username requests) importSpotRequest
      (deletePending username db) = (.ok (), connection.close) := (transaction_eq_ok hrun).1
  have hlisted : ((listedRequests username requests).map SpotInstanceRequest.id).Nodup := by
    refine hnodup.sublist (List.Sublist.map _ ?_)
    unfold listedRequests
    split
    · exact List.filter_sublist
    · exact List.Sublist.refl _
  exact mem_pending_of_forEach hlisted hloop row

/-- The rows of a user after a run with the user's name: those of the open requests. -/
theorem mem_pending_of_user {connection : Connection UsageDb}
    {requests : List SpotInstanceRequest}
    (husername : truthy (some username) = some username)
    (hnodup : (requests.map SpotInstanceRequest.id).Nodup)
    (hrun : updateSpotRequests (some username) requests (.idle db) = (.ok (), connection))
    {row : SpotRow} (howner : row.username = username) :
    row ∈ connection.close.pendingSpotRequests.rows ↔ PutFor requests row := by
  have hdeleted : row ∉ (deletePending (some username) db).pendingSpotRequests.rows := by
    simp [deletePending, husername, howner]
  rw [mem_pending_updateSpotRequests hnodup hrun, or_iff_left fun hold ↦ hdeleted hold.1]
  -- the filter drops only requests of others
  constructor
  · rintro ⟨request, hrequest, hput⟩
    rw [listedRequests, husername] at hrequest
    exact ⟨request, (List.mem_filter.mp hrequest).1, hput⟩
  · rintro ⟨request, hrequest, hopen, keyName, hkey, rfl⟩
    refine ⟨request, ?_, hopen, keyName, hkey, rfl⟩
    rw [listedRequests, husername]
    refine List.mem_filter.mpr ⟨hrequest, ?_⟩
    rw [hkey, List.isPrefixOf_iff_prefix, ← howner]
    exact isPrefix_userFromKey keyName

/-- The rows after an unfiltered run: those of the open requests. -/
theorem mem_pending_of_all {connection : Connection UsageDb} {requests : List SpotInstanceRequest}
    (hnodup : (requests.map SpotInstanceRequest.id).Nodup)
    (hrun : updateSpotRequests none requests (.idle db) = (.ok (), connection)) {row : SpotRow} :
    row ∈ connection.close.pendingSpotRequests.rows ↔ PutFor requests row := by
  have hdeleted : row ∉ (deletePending none db).pendingSpotRequests.rows := by
    simp [deletePending, truthy]
  rw [mem_pending_updateSpotRequests hnodup hrun, or_iff_left fun hold ↦ hdeleted hold.1]
  exact Iff.rfl

end Requests

/-! ### Both refreshes -/

/-- A refresh that returned is two runs that returned, the second over what the first left. -/
theorem refresh_eq_ok {username : Option Text} {account : List Reservation}
    {requests : List SpotInstanceRequest} {now : ℚ} {db : UsageDb}
    {connection : Connection UsageDb}
    (hrun : refresh username account requests now (.idle db) = (.ok (), connection)) :
    ∃ middle : Connection UsageDb,
      updateInstances username account now (.idle db) = (.ok (), middle) ∧
        updateSpotRequests username requests (.idle middle.close) = (.ok (), connection) := by
  rw [refresh, Py.bind_eq] at hrun
  rcases hfirst : updateInstances username account now (.idle db) with ⟨result, middle⟩
  cases result with
  | error error =>
    rw [Py.run_bind_error hfirst] at hrun
    cases hrun
  | ok value =>
    rw [Py.run_bind_ok hfirst] at hrun
    have hidle : middle = .idle middle.close := by
      have hworking := working_of_forEach_ok hfirst
      cases middle
      cases hworking
      rfl
    exact ⟨middle, rfl, hidle ▸ hrun⟩

/-- From any database that refreshes have left, the refresh of a user and the refresh of all users
leave the same rows to the user. -/
theorem refresh_agrees {keys : Text → Option Text} {refreshes : List Refresh}
    {account : List Reservation} {requests : List SpotInstanceRequest} {now : ℚ} {username : Text}
    {own whole : Connection UsageDb} (hkeeps : ∀ event ∈ refreshes, event.KeepsKeys keys)
    (haccount : KeepsKeys keys account) (hids : ((instancesOf account).map Instance.id).Nodup)
    (hrequestIds : (requests.map SpotInstanceRequest.id).Nodup) (husername : username ≠ [])
    (hown : refresh (some username) account requests now (.idle (databaseAfter refreshes)) =
      (.ok (), own))
    (hwhole : refresh none account requests now (.idle (databaseAfter refreshes)) =
      (.ok (), whole)) :
    SameRowsOf username own.close whole.close := by
  have htruthy : truthy (some username) = some username := by
    obtain ⟨head, tail, rfl⟩ := List.exists_cons_of_ne_nil husername
    rfl
  obtain ⟨ownFirst, hownFirst, hownSecond⟩ := refresh_eq_ok hown
  obtain ⟨wholeFirst, hwholeFirst, hwholeSecond⟩ := refresh_eq_ok hwhole
  have howned := owned_databaseAfter hkeeps
  have hownOwned : Owned keys ownFirst.close := by
    have hafter := @owned_importListing keys now _ _
      (keepsKeys_getAllInstances haccount (some username)) howned
    rwa [← updateInstances, hownFirst] at hafter
  have hwholeOwned : Owned keys wholeFirst.close := by
    have hafter := @owned_importListing keys now _ _
      (keepsKeys_getAllInstances haccount none) howned
    rwa [← updateInstances, hwholeFirst] at hafter
  have hrows {id keyName : Text} (hkey : keys id = some keyName)
      (howner : userFromKey keyName = username) :
      instanceRows id ownFirst.close = instanceRows id wholeFirst.close :=
    instanceRows_updateInstances htruthy hids haccount hownFirst hwholeFirst hkey howner
  obtain ⟨hownInstances, hownStopped⟩ :=
    tables_updateSpotRequests ownFirst.close (some username) requests
  obtain ⟨hwholeInstances, hwholeStopped⟩ :=
    tables_updateSpotRequests wholeFirst.close none requests
  rw [hownSecond] at hownInstances hownStopped
  rw [hwholeSecond] at hwholeInstances hwholeStopped
  constructor
  · intro row howner
    rw [hownInstances, hwholeInstances]
    constructor
    · intro hrow
      obtain ⟨keyName, hkey, husers⟩ := hownOwned row hrow
      exact mem_of_instanceRows_eq (hrows hkey (husers.symm.trans howner)) hrow
    · intro hrow
      obtain ⟨keyName, hkey, husers⟩ := hwholeOwned row hrow
      exact mem_of_instanceRows_eq (hrows hkey (husers.symm.trans howner)).symm hrow
  · intro row hrow howner
    rw [hownInstances] at hrow
    obtain ⟨keyName, hkey, husers⟩ := hownOwned row hrow
    unfold UsageDb.stoppedRows
    rw [hownStopped, hwholeStopped]
    exact (Prod.mk.inj (hrows hkey (husers.symm.trans howner))).2
  · intro row howner
    rw [mem_pending_of_user htruthy hrequestIds hownSecond howner,
      mem_pending_of_all hrequestIds hwholeSecond]

/-- Instances of `cs61c-aa` and of `cs61c-aab`. -/
def overlappingAccount : List Reservation :=
  [⟨[], [stoppedInstance "i-1".toList (some "cs61c-aa-default".toList)]⟩,
    ⟨[], [stoppedInstance "i-2".toList (some "cs61c-aab-default".toList)]⟩]

/-- Open spot requests of the same users. -/
def overlappingRequests : List SpotInstanceRequest :=
  [⟨"sir-1".toList, .opened, 0, ⟨some "cs61c-aa-default".toList, "m1.large".toList, []⟩⟩,
    ⟨"sir-2".toList, .opened, 0, ⟨some "cs61c-aab-default".toList, "m1.large".toList, []⟩⟩]

/-- A refresh of everything that has read both. -/
def overlappingRefreshes : List Refresh :=
  [.instances none overlappingAccount 1, .spotRequests none overlappingRequests]

/-- The key names of the two instances. -/
def overlappingKeys (id : Text) : Option Text :=
  if id = "i-1".toList then some "cs61c-aa-default".toList
  else some "cs61c-aab-default".toList

theorem refresh_agrees_overlapping :
    SameRowsOf "cs61c-aa".toList
      (refresh (some "cs61c-aa".toList) overlappingAccount overlappingRequests 2
        (.idle (databaseAfter overlappingRefreshes))).2.close
      (refresh none overlappingAccount overlappingRequests 2
        (.idle (databaseAfter overlappingRefreshes))).2.close := by
  have hkeeps : KeepsKeys overlappingKeys overlappingAccount :=
    show ∀ _ ∈ _, _ from by decide +kernel
  have hevents : ∀ event ∈ overlappingRefreshes, event.KeepsKeys overlappingKeys :=
    List.forall_mem_cons.mpr ⟨hkeeps, List.forall_mem_singleton.mpr trivial⟩
  refine refresh_agrees hevents hkeeps (by decide +kernel) (by decide +kernel)
    (List.cons_ne_nil _ _) (Prod.ext ?_ rfl) (Prod.ext ?_ rfl)
  · decide +kernel
  · decide +kernel

end Ec2Wrappers.Usage
