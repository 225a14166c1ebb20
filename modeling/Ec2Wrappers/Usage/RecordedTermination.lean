import Ec2Wrappers.Foundations.Runs
import Ec2Wrappers.Usage.Import

/-!
# Recorded terminations under interleaved runs

Any number of `update_instances` runs over one database, the cron job and the users' reports among
them. A run first takes its listing and the moment, and then imports the listed instances one by
one; `BEGIN IMMEDIATE` makes each import atomic, so an import is one step and the steps of different
runs interleave freely (`next`). A run that raises ends there. EC2 never lists an instance as alive
after it has listed it as terminated: `World.reported` are the instances it has listed so.

The listing is read outside the transaction that writes it. When a run has listed an instance alive
and another run imports its termination before the first one comes to the instance, the first run
replaces the row and the end is gone (`recordedEnd_lost`). `Process.overtaken` are the instances
whose termination some run has imported since this run's listing. As long as no run imports an
instance alive that it has been overtaken on (`FreshImport`), a live instance in a listing still has
no recorded end (`Consistent`), and every recorded end stays what it is (`recordedEnd_permanent`).

`updateInstances_run` ties the steps to the function: a run that nobody interleaves with leaves the
database as `update_instances` does.
-/

set_option autoImplicit false
set_option relaxedAutoImplicit false

namespace Ec2Wrappers.Usage

open Foundations Aws

/-! ### Interleaved runs -/

/-- A run of `update_instances`: its moment, the listed instances it has not imported yet, and those
whose termination has been imported since its listing. -/
structure Process where
  now : ℚ
  unread : List Instance
  overtaken : List Text
  deriving DecidableEq

/-- The database, the instances EC2 has listed as terminated, and the runs. -/
structure World where
  db : UsageDb
  reported : List Text
  processes : List Process
  deriving DecidableEq

/-- A step: a new run takes its listing, with its argument, the account as it is then and the
moment; a run imports its next instance; a run ends early. -/
inductive Event
  | takeListing (username : Option Text) (account : List Reservation) (now : ℚ)
  | importNext (index : ℕ)
  | abandon (index : ℕ)
  deriving DecidableEq

/-- The instances a run lists. -/
def listedFor (username : Option Text) (account : List Reservation) : List Instance :=
  instancesOf (getAllInstances account (truthy username))

/-- The ids of the instances shown as terminated. -/
def terminatedIds (listed : List Instance) : List Text :=
  (listed.filter (·.state = .terminated)).map Instance.id

/-- EC2 shows no instance alive that it has shown terminated. -/
def NoRevival (reported : List Text) (listed : List Instance) : Prop :=
  ∀ instance_ ∈ listed, instance_.id ∈ reported → instance_.state = .terminated

instance (reported : List Text) (listed : List Instance) : Decidable (NoRevival reported listed) :=
  inferInstanceAs (Decidable (∀ _ ∈ _, _ → _))

/-- The process and the instance that an import step is about. -/
def World.reading (world : World) (index : ℕ) : Option (Process × Instance) := do
  let process ← world.processes[index]?
  let instance_ ← process.unread.head?
  return (process, instance_)

/-- The termination of an instance has been imported. -/
def Process.overtake (id : Text) (process : Process) : Process :=
  { process with overtaken := id :: process.overtaken }

/-- The processes after an import that returned. -/
def World.readOn (world : World) (index : ℕ) (process : Process) (instance_ : Instance) :
    List Process :=
  let processes := world.processes.set index { process with unread := process.unread.tail }
  if instance_.state = .terminated then processes.map (Process.overtake instance_.id) else processes

/-- A run imports its next instance. -/
def World.importBy (world : World) (index : ℕ) (process : Process) (instance_ : Instance) : World :=
  match transaction (importInstance process.now instance_) (.idle world.db) with
  | (.ok (), connection) =>
    { world with
      db := connection.close
      processes := world.readOn index process instance_ }
  | (.error _, connection) =>
    { world with
      db := connection.close
      processes := world.processes.set index { process with unread := [] } }

/-- One step. -/
def World.next (world : World) : Event → Option World
  | .takeListing username account now =>
    let listed := listedFor username account
    if NoRevival world.reported listed then
      some { world with
        reported := world.reported ++ terminatedIds listed
        processes := world.processes ++ [⟨now, listed, []⟩] }
    else none
  | .importNext index =>
    (world.reading index).map fun (process, instance_) ↦ world.importBy index process instance_
  | .abandon index =>
    (world.processes[index]?).map fun process ↦
      { world with processes := world.processes.set index { process with unread := [] } }

/-- The beginning: a database whose recorded ends EC2 has reported, and no run. -/
def World.start (db : UsageDb) : World where
  db := db
  reported := (db.instances.rows.filter (·.endTime.isSome)).map InstanceRow.instanceId
  processes := []

/-! ### What keeps recorded ends -/

/-- No run imports an instance alive whose termination has been imported since the run's listing. -/
def FreshImport (world : World) : Event → Prop
  | .importNext index => ∀ reading, world.reading index = some reading →
      reading.2.state ≠ .terminated → reading.2.id ∉ reading.1.overtaken
  | _ => True

instance (world : World) (event : Event) : Decidable (FreshImport world event) := by
  cases event <;> unfold FreshImport <;> infer_instance

/-- Every recorded end has been reported; what a run has listed as terminated has been reported; and
what a run has listed alive has no recorded end unless the run was overtaken on it. -/
structure Consistent (world : World) : Prop where
  ends_reported : ∀ id, world.db.endTime id ≠ none → id ∈ world.reported
  terminated_reported : ∀ process ∈ world.processes, ∀ instance_ ∈ process.unread,
    instance_.state = .terminated → instance_.id ∈ world.reported
  alive_open : ∀ process ∈ world.processes, ∀ instance_ ∈ process.unread,
    instance_.state ≠ .terminated → instance_.id ∉ process.overtaken →
      world.db.endTime instance_.id = none

/-- Every recorded end is kept. -/
def KeepsEnds (before after : World) : Prop :=
  ∀ id finish, before.db.endTime id = some finish → after.db.endTime id = some finish

/-- The reading of an import step is the first unread instance of one of the runs. -/
theorem reading_eq_some {world : World} {index : ℕ} {process : Process} {instance_ : Instance}
    (hreading : world.reading index = some (process, instance_)) :
    process ∈ world.processes ∧ ∃ rest, process.unread = instance_ :: rest := by
  simp only [World.reading, Option.bind_eq_bind, Option.bind_eq_some_iff, pure,
    Option.some.injEq, Prod.mk.injEq] at hreading
  obtain ⟨found, hfound, head, hhead, rfl, rfl⟩ := hreading
  refine ⟨List.mem_of_getElem? hfound, ?_⟩
  cases hunread : found.unread with
  | nil => simp [hunread] at hhead
  | cons first rest =>
    rw [hunread] at hhead
    cases hhead
    exact ⟨rest, rfl⟩

theorem consistent_start (db : UsageDb) : Consistent (World.start db) := by
  refine ⟨fun id hend ↦ ?_, by simp [World.start], by simp [World.start]⟩
  obtain ⟨finish, hfinish⟩ := Option.ne_none_iff_exists'.mp hend
  obtain ⟨row, hrow, hended⟩ := Option.bind_eq_some_iff.mp hfinish
  obtain ⟨hmem, hid⟩ := (Table.find_eq_some_iff _ _ _).mp hrow
  refine List.mem_map.mpr ⟨row, List.mem_filter.mpr ⟨hmem, ?_⟩, hid⟩
  simp [hended]

/-! ### One step -/

section Steps

variable {world : World} {index : ℕ} {process : Process} {instance_ : Instance}

theorem importBy_of_ok {after : UsageDb}
    (hrun : importInstance process.now instance_ world.db = (.ok (), after)) :
    world.importBy index process instance_ =
      { world with db := after, processes := world.readOn index process instance_ } := by
  rw [World.importBy, transaction_of_ok hrun]
  rfl

theorem importBy_of_error {error : PyError} {left : UsageDb}
    (hrun : importInstance process.now instance_ world.db = (.error error, left)) :
    world.importBy index process instance_ =
      { world with processes := world.processes.set index { process with unread := [] } } := by
  rw [World.importBy, transaction_of_error hrun]
  rfl

/-- Ending a run keeps the world consistent. -/
theorem consistent_end (hconsistent : Consistent world) :
    Consistent
      { world with processes := world.processes.set index { process with unread := [] } } := by
  have hold : ∀ other ∈ world.processes.set index { process with unread := [] },
      other ∈ world.processes ∨ other.unread = [] := by
    intro other hother
    rcases List.mem_or_eq_of_mem_set hother with hmem | rfl
    · exact Or.inl hmem
    · exact Or.inr rfl
  refine ⟨hconsistent.ends_reported, fun other hother ↦ ?_, fun other hother ↦ ?_⟩
  · rcases hold other hother with hmem | hempty
    · exact hconsistent.terminated_reported other hmem
    · simp [hempty]
  · rcases hold other hother with hmem | hempty
    · exact hconsistent.alive_open other hmem
    · simp [hempty]

/-- Every process after an import was there before, with no less to read and no more that it was
overtaken on, and it has been overtaken on the imported instance if that was terminated. -/
theorem mem_readOn (hprocess : process ∈ world.processes) {other : Process}
    (hother : other ∈ world.readOn index process instance_) :
    ∃ old ∈ world.processes, other.unread ⊆ old.unread ∧ old.overtaken ⊆ other.overtaken ∧
      (instance_.state = .terminated → instance_.id ∈ other.overtaken) := by
  have hset : ∀ next ∈ world.processes.set index { process with unread := process.unread.tail },
      ∃ old ∈ world.processes, next.unread ⊆ old.unread ∧ old.overtaken ⊆ next.overtaken := by
    intro next hnext
    rcases List.mem_or_eq_of_mem_set hnext with hmem | rfl
    · exact ⟨next, hmem, fun _ ↦ id, fun _ ↦ id⟩
    · exact ⟨process, hprocess, fun _ ↦ List.mem_of_mem_tail, fun _ ↦ id⟩
  unfold World.readOn at hother
  split_ifs at hother with hterminated
  · obtain ⟨next, hnext, rfl⟩ := List.mem_map.mp hother
    obtain ⟨old, hold, hunread, hovertaken⟩ := hset next hnext
    exact ⟨old, hold, hunread, fun _ hmem ↦ List.mem_cons_of_mem _ (hovertaken hmem),
      fun _ ↦ List.mem_cons_self⟩
  · obtain ⟨old, hold, hunread, hovertaken⟩ := hset other hother
    exact ⟨old, hold, hunread, hovertaken, fun hstate ↦ absurd hstate hterminated⟩

/-- An import that meets the condition keeps the world consistent and every recorded end. -/
theorem importBy_keeps (hconsistent : Consistent world)
    (hreading : world.reading index = some (process, instance_))
    (hfresh : instance_.state ≠ .terminated → instance_.id ∉ process.overtaken) :
    Consistent (world.importBy index process instance_) ∧
      KeepsEnds world (world.importBy index process instance_) := by
  obtain ⟨hprocess, rest, hunread⟩ := reading_eq_some hreading
  have hlisted : instance_ ∈ process.unread := by simp [hunread]
  have hopen : instance_.state ≠ .terminated → world.db.endTime instance_.id = none :=
    fun hstate ↦ hconsistent.alive_open process hprocess instance_ hlisted hstate (hfresh hstate)
  rcases hrun : importInstance process.now instance_ world.db with ⟨result, after⟩
  cases result with
  | error error =>
    rw [importBy_of_error hrun]
    exact ⟨consistent_end hconsistent, fun _ _ hend ↦ hend⟩
  | ok value =>
    have hends := endTime_of_importInstance hrun
    rw [importBy_of_ok hrun]
    refine ⟨⟨fun id hend ↦ ?_, fun other hother ↦ ?_, fun other hother ↦ ?_⟩,
      fun id finish hend ↦ ?_⟩
    · by_cases hid : id = instance_.id
      · subst hid
        by_cases hstate : instance_.state = .terminated
        · exact hconsistent.terminated_reported process hprocess instance_ hlisted hstate
        · simp [hends, hstate] at hend
      · refine hconsistent.ends_reported id ?_
        simpa [hends, hid] using hend
    · obtain ⟨old, hold, hsub, -, -⟩ := mem_readOn hprocess hother
      exact fun item hitem ↦ hconsistent.terminated_reported old hold item (hsub hitem)
    · obtain ⟨old, hold, hsub, hovertaken, hself⟩ := mem_readOn hprocess hother
      intro item hitem hstate hnew
      have hitemOpen := hconsistent.alive_open old hold item (hsub hitem) hstate
        fun hmem ↦ hnew (hovertaken hmem)
      by_cases hid : item.id = instance_.id
      · have hstate' : instance_.state ≠ .terminated := fun hterminated ↦
          hnew (hid ▸ hself hterminated)
        simp [hends, hid, hstate']
      · simpa [hends, hid] using hitemOpen
    · by_cases hid : id = instance_.id
      · subst hid
        have hstate : instance_.state = .terminated := by
          by_contra hstate
          rw [hopen hstate] at hend
          cases hend
        simp [hends, hstate, hend]
      · simpa [hends, hid] using hend

/-- A new listing keeps the world consistent. -/
theorem consistent_takeListing (hconsistent : Consistent world) {listed : List Instance} {now : ℚ}
    (hrevival : NoRevival world.reported listed) :
    Consistent { world with
      reported := world.reported ++ terminatedIds listed
      processes := world.processes ++ [⟨now, listed, []⟩] } := by
  refine ⟨fun id hend ↦ List.mem_append_left _ (hconsistent.ends_reported id hend),
    fun other hother ↦ ?_, fun other hother ↦ ?_⟩
  · intro item hitem hstate
    rcases List.mem_append.mp hother with hmem | hnew
    · exact List.mem_append_left _ (hconsistent.terminated_reported other hmem item hitem hstate)
    · rw [List.mem_singleton.mp hnew] at hitem
      refine List.mem_append_right _ (List.mem_map.mpr ⟨item, List.mem_filter.mpr ⟨hitem, ?_⟩, rfl⟩)
      simpa using hstate
  · intro item hitem hstate hovertaken
    rcases List.mem_append.mp hother with hmem | hnew
    · exact hconsistent.alive_open other hmem item hitem hstate hovertaken
    · rw [List.mem_singleton.mp hnew] at hitem
      by_contra hend
      exact hstate (hrevival item hitem (hconsistent.ends_reported item.id hend))

/-- Every step that meets the condition keeps the world consistent and every recorded end. -/
theorem next_keeps {before after : World} {event : Event}
    (hstep : guarded (stepsOf World.next) FreshImport before event after)
    (hconsistent : Consistent before) : Consistent after ∧ KeepsEnds before after := by
  obtain ⟨hnext, hfresh⟩ := hstep
  cases event with
  | takeListing username account now =>
    simp only [stepsOf, World.next] at hnext
    split_ifs at hnext with hrevival
    cases hnext
    exact ⟨consistent_takeListing hconsistent hrevival, fun _ _ hend ↦ hend⟩
  | importNext index =>
    obtain ⟨⟨process, instance_⟩, hreading, rfl⟩ := Option.map_eq_some_iff.mp hnext
    exact importBy_keeps hconsistent hreading (hfresh _ hreading)
  | abandon index =>
    obtain ⟨process, -, rfl⟩ := Option.map_eq_some_iff.mp hnext
    exact ⟨consistent_end hconsistent, fun _ _ hend ↦ hend⟩

end Steps

/-! ### The steps and the function -/

/-- The process of an import that returned is still there, with the rest of its listing. -/
theorem getElem?_readOn {world : World} {index : ℕ} {process : Process} (instance_ : Instance)
    (hprocess : world.processes[index]? = some process) :
    ∃ left, (world.readOn index process instance_)[index]? = some left ∧
      left.now = process.now ∧ left.unread = process.unread.tail := by
  obtain ⟨hindex, -⟩ := List.getElem?_eq_some_iff.mp hprocess
  unfold World.readOn
  split_ifs
  · exact ⟨Process.overtake instance_.id { process with unread := process.unread.tail },
      by simp [hindex], rfl, rfl⟩
  · exact ⟨{ process with unread := process.unread.tail }, by simp [hindex], rfl, rfl⟩

/-- A process whose imports nobody interleaves with does to the database what the loop of imports
does. -/
theorem importListing_run {world : World} {index : ℕ} {process : Process}
    (hprocess : world.processes[index]? = some process) :
    ∃ events last, Run (stepsOf World.next) world events last ∧
      last.db = (importListing process.now process.unread (.idle world.db)).2.close := by
  induction hunread : process.unread generalizing world process with
  | nil => exact ⟨[], world, .refl world, rfl⟩
  | cons instance_ rest ih =>
    have hreading : world.reading index = some (process, instance_) := by
      simp [World.reading, hprocess, hunread]
    have hstep : stepsOf World.next world (.importNext index)
        (world.importBy index process instance_) := by
      simp [stepsOf, World.next, hreading]
    rw [importListing, Py.forEach_cons]
    rcases hrun : importInstance process.now instance_ world.db with ⟨result, after⟩
    cases result with
    | ok value =>
      rw [importBy_of_ok hrun] at hstep
      obtain ⟨left, hleft, hnow, hrest⟩ := getElem?_readOn instance_ hprocess
      rw [hunread, List.tail_cons] at hrest
      have hfound : ({ world with db := after, processes := world.readOn index process instance_ } :
          World).processes[index]? = some left := hleft
      obtain ⟨events, last, htail, hdb⟩ := ih hfound hrest
      refine ⟨.importNext index :: events, last, .head hstep htail, ?_⟩
      rw [hdb, hnow, Py.run_bind_ok (transaction_of_ok hrun)]
      rfl
    | error error =>
      rw [importBy_of_error hrun] at hstep
      refine ⟨[.importNext index], _, .single hstep, ?_⟩
      rw [Py.run_bind_error (transaction_of_error hrun)]
      rfl

/-- A run of `update_instances` that nobody interleaves with: its steps leave the database as the
function does. -/
theorem updateInstances_run {world : World} {username : Option Text} {account : List Reservation}
    (now : ℚ) (hrevival : NoRevival world.reported (listedFor username account)) :
    ∃ events last,
      Run (stepsOf World.next) world (.takeListing username account now :: events) last ∧
        last.db = (updateInstances username account now (.idle world.db)).2.close := by
  let process : Process := ⟨now, listedFor username account, []⟩
  let listed : World :=
    { world with
      reported := world.reported ++ terminatedIds (listedFor username account)
      processes := world.processes ++ [process] }
  have hstep : stepsOf World.next world (.takeListing username account now) listed := by
    simp [stepsOf, World.next, hrevival, listed, process]
  have hprocess : listed.processes[world.processes.length]? = some process :=
    List.getElem?_concat_length
  obtain ⟨events, last, htail, hdb⟩ := importListing_run hprocess
  exact ⟨events, last, .head hstep htail, hdb⟩

/-! ### Whole runs -/

/-- In every interleaving in which no run imports an instance alive that it was overtaken on, a
recorded end is never changed or cleared, from any state of the interleaving on. -/
theorem recordedEnd_permanent {db : UsageDb} {earlier later : List Event} {world last : World}
    (hreached : Run (guarded (stepsOf World.next) FreshImport) (World.start db) earlier world)
    (hrun : Run (guarded (stepsOf World.next) FreshImport) world later last)
    {id : Text} {finish : ℚ} (hend : world.db.endTime id = some finish) :
    last.db.endTime id = some finish := by
  have hstep : ∀ before event after, guarded (stepsOf World.next) FreshImport before event after →
      Consistent before → Consistent after := fun _ _ _ hstep hbefore ↦ (next_keeps hstep hbefore).1
  have hkeeps : KeepsEnds world last :=
    hrun.relates (fun _ _ _ hkept ↦ hkept)
      (fun _ _ _ hfirst hsecond id finish hkept ↦ hsecond id finish (hfirst id finish hkept)) hstep
      (fun _ _ _ hstep hbefore ↦ (next_keeps hstep hbefore).2)
      (hreached.invariant hstep (consistent_start db))
  exact hkeeps id finish hend

/-- An account with one instance, in a state. -/
def oneInstance (state : InstanceState) : List Reservation :=
  [⟨[], [⟨"i-1".toList, "m1.large".toList, some "cs61c-aa-default".toList, state, 0, none⟩]⟩]

/-- A run lists and imports the instance alive, and two more list it terminated and import it one
after the other. -/
def freshRuns : List Event :=
  [.takeListing none (oneInstance .running) 1,
    .importNext 0,
    .takeListing none (oneInstance .terminated) 2,
    .takeListing (some "cs61c-aa".toList) (oneInstance .terminated) 3,
    .importNext 1]

theorem recordedEnd_permanent_freshRuns : ∃ world last,
    freshRuns.foldlM (checked World.next FreshImport) (World.start .empty) = some world ∧
      [Event.importNext 2].foldlM (checked World.next FreshImport) world = some last ∧
        last.db.endTime "i-1".toList = some 2 := by
  have hany : (freshRuns.foldlM (checked World.next FreshImport) (World.start .empty)).any
      (fun world ↦ world.db.endTime "i-1".toList = some 2 ∧
        ([Event.importNext 2].foldlM (checked World.next FreshImport) world).isSome) = true := by
    decide +kernel
  obtain ⟨world, hworld, hlater⟩ := (Option.any_eq_true _ _).mp hany
  obtain ⟨hend, hsome⟩ := of_decide_eq_true hlater
  obtain ⟨last, hlast⟩ := Option.isSome_iff_exists.mp hsome
  exact ⟨world, last, hworld, hlast, recordedEnd_permanent (Run.of_foldlM_checked hworld)
    (Run.of_foldlM_checked hlast) hend⟩

/-- A run lists the instance alive, another lists it terminated and imports it, and then the first
imports what it listed: the recorded end is gone. -/
theorem recordedEnd_lost : ∃ world last,
    Run (stepsOf World.next) (World.start .empty)
        [.takeListing none (oneInstance .running) 1,
          .takeListing (some "cs61c-aa".toList) (oneInstance .terminated) 2, .importNext 1] world ∧
      Run (stepsOf World.next) world [.importNext 0] last ∧
        world.db.endTime "i-1".toList = some 2 ∧ last.db.endTime "i-1".toList = none := by
  have hany : ([Event.takeListing none (oneInstance .running) 1,
      .takeListing (some "cs61c-aa".toList) (oneInstance .terminated) 2,
      .importNext 1].foldlM World.next (World.start .empty)).any
        (fun world ↦ world.db.endTime "i-1".toList = some 2 ∧
          ([Event.importNext 0].foldlM World.next world).any
            fun last ↦ last.db.endTime "i-1".toList = none) = true := by
    decide +kernel
  obtain ⟨world, hworld, hlater⟩ := (Option.any_eq_true _ _).mp hany
  obtain ⟨hend, hany⟩ := of_decide_eq_true hlater
  obtain ⟨last, hlast, hnone⟩ := (Option.any_eq_true _ _).mp hany
  exact ⟨world, last, Run.of_foldlM hworld, Run.of_foldlM hlast, hend, of_decide_eq_true hnone⟩

end Ec2Wrappers.Usage
