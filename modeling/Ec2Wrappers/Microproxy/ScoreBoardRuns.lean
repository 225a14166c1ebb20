import Ec2Wrappers.Microproxy.ScoreBoard
import Mathlib.Data.List.Perm.Subperm

/-!
# Runs of the scoreboard engine

`Change` says what an event does to the kids, the pipe, the children and the lock, and
`change_of_next` that it says it of every event; the invariants are read off it.

`Safe` holds in every reached state (`children_bounded`): there are at most `max_clients` children,
the parent has each of them among its kids, at most one of them is between taking the lock and
giving it back, and none has accepted more than `max_requests_per_child` connections.
-/

set_option autoImplicit false
set_option relaxedAutoImplicit false

namespace Ec2Wrappers.Microproxy

open Foundations

namespace ProxyState

/-! ### What an event changes -/

/-- What an event does to the kids, the pipe, the children and the lock. -/
inductive Change (limits : Limits) (before after : ProxyState) : ProxyEvent → Prop
  | nothing {event : ProxyEvent} (hkids : after.kids = before.kids)
      (hpipe : after.pipe = before.pipe) (hchildren : after.children = before.children)
      (hlock : after.lock = before.lock) : Change limits before after event
  | read {event : ProxyEvent} (reports : List (ℕ × Text))
      (hreports : unpackBuffer (before.pipe.take 50) = some reports)
      (hkids : after.kids = before.kids.settled reports)
      (hpipe : after.pipe = before.pipe.drop 50) (hchildren : after.children = before.children)
      (hlock : after.lock = before.lock) : Change limits before after event
  | reaped {event : ProxyEvent} (pid : ℕ) (hevent : event = .reap pid ∨ event = .stopReap pid)
      (hended : before.ended pid)
      (hkids : after.kids = before.kids.delete fun kid ↦ kid.1 = pid)
      (hpipe : after.pipe = before.pipe)
      (hchildren : after.children = before.children.delete fun child ↦ child.pid = pid)
      (hlock : after.lock = before.lock) : Change limits before after event
  | verified {event : ProxyEvent} (missing : List ℕ)
      (hmissing : ∀ child ∈ before.children.rows, child.pid ∉ missing)
      (hkids : after.kids = before.kids.delete fun kid ↦ kid.1 ∈ missing)
      (hpipe : after.pipe = before.pipe) (hchildren : after.children = before.children)
      (hlock : after.lock = before.lock) : Change limits before after event
  | forked (pid : ℕ) (hroom : before.kids.rows.length < limits.maxClients)
      (hpid : pid < 256 ^ 4) (hnew : ∀ child ∈ before.children.rows, child.pid ≠ pid)
      (hkids : after.kids = before.kids.insertOrReplace (pid, idle))
      (hpipe : after.pipe = before.pipe)
      (hchildren : after.children =
        before.children.insertOrReplace ⟨pid, .opening, 0, before.loop, idle, 0⟩)
      (hlock : after.lock = before.lock) : Change limits before after (.fork pid)
  | signalled {event : ProxyEvent} (pids : List ℕ) (hkids : after.kids = before.kids)
      (hpipe : after.pipe = before.pipe)
      (hchildren : after.children = signal before.children pids)
      (hlock : after.lock = before.lock) : Change limits before after event
  | stepped (pid : ℕ) (event : ChildEvent) (child stepped : Child) (written : Text)
      (hchild : child ∈ before.children.rows) (hpid : child.pid = pid)
      (hstep : before.childStep limits child event = some (stepped, written, after.lock))
      (hkids : after.kids = before.kids) (hpipe : after.pipe = before.pipe ++ written)
      (hchildren : after.children = before.children.insertOrReplace stepped) :
      Change limits before after (.child pid event)

variable {limits : Limits} {before after : ProxyState} {event : ProxyEvent}

theorem change_of_reap {pid : ℕ} (hevent : event = .reap pid ∨ event = .stopReap pid)
    (hreap : before.reap pid = some after) : Change limits before after event := by
  unfold reap at hreap
  split_ifs at hreap with hended
  cases hreap
  exact .reaped pid hevent hended rfl rfl rfl rfl

theorem change_of_verify {missing : List ℕ}
    (hverify : before.verifyLiveKids limits missing = some after) :
    Change limits before after event := by
  unfold verifyLiveKids at hverify
  split_ifs at hverify with htime hmissing
  · cases hverify
    exact .verified missing hmissing rfl rfl rfl rfl
  · cases hverify
    exact .nothing rfl rfl rfl rfl

theorem change_of_read (hread : before.readChanges = some after) :
    Change limits before after event := by
  unfold readChanges at hread
  obtain ⟨-, -, hread⟩ := Option.bind_eq_some_iff.mp hread
  obtain ⟨reports, hreports, hafter⟩ := Option.bind_eq_some_iff.mp hread
  cases hafter
  exact .read reports hreports rfl rfl rfl rfl

theorem change_of_childStep {pid : ℕ} {event : ChildEvent}
    (hnext : before.next limits (.child pid event) = some after) :
    Change limits before after (.child pid event) := by
  obtain ⟨child, hfind, hrest⟩ := Option.bind_eq_some_iff.mp hnext
  obtain ⟨⟨stepped, written, lock⟩, hstep, hafter⟩ := Option.bind_eq_some_iff.mp hrest
  obtain ⟨hchild, hpid⟩ := (Table.find_eq_some_iff _ _ _).mp hfind
  cases hafter
  exact .stepped pid event child stepped written hchild hpid hstep rfl rfl rfl

/-- Every event makes one of the changes. -/
theorem change_of_next (hnext : before.next limits event = some after) :
    Change limits before after event := by
  cases event with
  | child pid event => exact change_of_childStep hnext
  | readChanges =>
    simp only [next, Option.ite_none_right_eq_some] at hnext
    exact change_of_read hnext.2
  | reap pid =>
    simp only [next, Option.ite_none_right_eq_some] at hnext
    exact change_of_reap (.inl rfl) hnext.2
  | stopReap pid =>
    simp only [next, Option.ite_none_right_eq_some] at hnext
    exact change_of_reap (.inr rfl) hnext.2
  | verify missing =>
    simp only [next, Option.ite_none_right_eq_some] at hnext
    exact change_of_verify hnext.2
  | fork pid =>
    simp only [next, fork, Option.ite_none_right_eq_some, Option.some.injEq] at hnext
    obtain ⟨-, ⟨hlaunches, -, hpid, hnew⟩, rfl⟩ := hnext
    exact .forked pid hlaunches.2.1 hpid hnew rfl rfl rfl rfl
  | killIdler victim =>
    simp only [next, killIdler, Option.ite_none_right_eq_some, Option.some.injEq] at hnext
    obtain ⟨-, -, rfl⟩ := hnext
    exact .signalled [victim] rfl rfl rfl rfl
  | killKids =>
    simp only [next, Option.ite_none_right_eq_some, Option.some.injEq] at hnext
    obtain ⟨-, rfl⟩ := hnext
    exact .signalled _ rfl rfl rfl rfl
  | tick | interrupt =>
    cases hnext
    exact .nothing rfl rfl rfl rfl
  | testLoop | noChanges | noneToReap | cannotFork | noLaunch | countConnections | stopWait
  | stopNoChild | noKids =>
    simp only [next, Option.ite_none_right_eq_some, Option.some.injEq] at hnext
    obtain ⟨-, rfl⟩ := hnext
    exact .nothing rfl rfl rfl rfl

/-! ### One step of a child -/

section Child

variable {child stepped : Child} {act : ChildEvent} {written : Text} {lock : Option ℕ}

@[simp] theorem nextRequest_pid : (nextRequest limits child).pid = child.pid := by
  unfold nextRequest
  split_ifs <;> rfl

@[simp] theorem nextRequest_told : (nextRequest limits child).told = child.told := by
  unfold nextRequest
  split_ifs <;> rfl

@[simp] theorem nextRequest_holdsLock : (nextRequest limits child).point.holdsLock = false := by
  unfold nextRequest
  split_ifs <;> rfl

theorem childStep_pid (hstep : before.childStep limits child act = some (stepped, written, lock)) :
    stepped.pid = child.pid := by
  cases act with
  | signalled =>
    cases hstep
    rfl
  | openLock | interrupted =>
    simp only [childStep, Option.ite_none_right_eq_some, Option.some.injEq] at hstep
    cases hstep.2
    exact nextRequest_pid
  | takeLock | accept | unlock | serve | exit =>
    simp only [childStep, Option.ite_none_right_eq_some, Option.some.injEq] at hstep
    cases hstep.2
    rfl
  | reportAccept through | reportBusy through =>
    simp only [childStep, Option.ite_none_right_eq_some, Option.some.injEq] at hstep
    cases through <;> cases hstep.2 <;> rfl
  | reportIdle through =>
    simp only [childStep, Option.ite_none_right_eq_some, Option.some.injEq] at hstep
    cases through <;> cases hstep.2 <;> exact nextRequest_pid

/-- A step that writes writes one report, and has then told the parent the status in it. -/
theorem childStep_written
    (hstep : before.childStep limits child act = some (stepped, written, lock)) :
    written = [] ∧ stepped.told = child.told ∨
      ∃ status ∈ [accepting, busy, idle],
        written = packStatus (child.pid, status) ∧ stepped.told = status := by
  cases act with
  | signalled =>
    cases hstep
    exact .inl ⟨rfl, rfl⟩
  | openLock | interrupted =>
    simp only [childStep, Option.ite_none_right_eq_some, Option.some.injEq] at hstep
    cases hstep.2
    exact .inl ⟨rfl, nextRequest_told⟩
  | takeLock | accept | unlock | serve | exit =>
    simp only [childStep, Option.ite_none_right_eq_some, Option.some.injEq] at hstep
    cases hstep.2
    exact .inl ⟨rfl, rfl⟩
  | reportAccept through =>
    simp only [childStep, Option.ite_none_right_eq_some, Option.some.injEq] at hstep
    cases through <;> cases hstep.2
    · exact .inl ⟨rfl, rfl⟩
    · exact .inr ⟨accepting, by simp, rfl, rfl⟩
  | reportBusy through =>
    simp only [childStep, Option.ite_none_right_eq_some, Option.some.injEq] at hstep
    cases through <;> cases hstep.2
    · exact .inl ⟨rfl, rfl⟩
    · exact .inr ⟨busy, by simp, rfl, rfl⟩
  | reportIdle through =>
    simp only [childStep, Option.ite_none_right_eq_some, Option.some.injEq] at hstep
    cases through <;> cases hstep.2
    · exact .inl ⟨rfl, nextRequest_told⟩
    · exact .inr ⟨idle, by simp, rfl, nextRequest_told⟩

/-- A child takes the lock when it is free, and frees it when it no longer holds it. -/
theorem childStep_lock (hstep : before.childStep limits child act = some (stepped, written, lock))
    (hholds : child.point.holdsLock = true → before.lock = some child.pid) :
    lock = before.lock ∧ stepped.point.holdsLock = child.point.holdsLock ∨
      before.lock = none ∧ lock = some child.pid ∧ stepped.point.holdsLock = true ∨
      before.lock = some child.pid ∧ lock = none ∧ stepped.point.holdsLock = false ∨
      before.lock ≠ some child.pid ∧ lock = before.lock ∧ stepped.point.holdsLock = false := by
  cases act with
  | signalled =>
    cases hstep
    exact .inl ⟨rfl, rfl⟩
  | openLock | interrupted =>
    simp only [childStep, Option.ite_none_right_eq_some, Option.some.injEq] at hstep
    obtain ⟨hpoint, hafter⟩ := hstep
    cases hafter
    exact .inl ⟨rfl, by rw [nextRequest_holdsLock, hpoint]; rfl⟩
  | takeLock =>
    simp only [childStep, Option.ite_none_right_eq_some, Option.some.injEq] at hstep
    obtain ⟨⟨-, hfree⟩, hafter⟩ := hstep
    cases hafter
    exact .inr (.inl ⟨hfree, rfl, rfl⟩)
  | accept | serve =>
    simp only [childStep, Option.ite_none_right_eq_some, Option.some.injEq] at hstep
    obtain ⟨hpoint, hafter⟩ := hstep
    cases hafter
    exact .inl ⟨rfl, by rw [hpoint]; rfl⟩
  | unlock =>
    simp only [childStep, Option.ite_none_right_eq_some, Option.some.injEq] at hstep
    obtain ⟨hpoint, hafter⟩ := hstep
    cases hafter
    exact .inr (.inr (.inl ⟨hholds (by rw [hpoint]; rfl), rfl, rfl⟩))
  | exit =>
    simp only [childStep, Option.ite_none_right_eq_some, Option.some.injEq] at hstep
    cases hstep.2
    by_cases howner : before.lock = some child.pid
    · exact .inr (.inr (.inl ⟨howner, if_pos howner, rfl⟩))
    · exact .inr (.inr (.inr ⟨howner, if_neg howner, rfl⟩))
  | reportAccept through =>
    simp only [childStep, Option.ite_none_right_eq_some, Option.some.injEq] at hstep
    obtain ⟨⟨hpoint, -⟩, hafter⟩ := hstep
    cases through <;> cases hafter <;> exact .inl ⟨rfl, by rw [hpoint]; rfl⟩
  | reportBusy through =>
    simp only [childStep, Option.ite_none_right_eq_some, Option.some.injEq] at hstep
    obtain ⟨hpoint, hafter⟩ := hstep
    cases through <;> cases hafter <;> exact .inl ⟨rfl, by rw [hpoint]; rfl⟩
  | reportIdle through =>
    simp only [childStep, Option.ite_none_right_eq_some, Option.some.injEq] at hstep
    obtain ⟨hpoint, hafter⟩ := hstep
    cases through <;> cases hafter <;>
      exact .inl ⟨rfl, by rw [nextRequest_holdsLock, hpoint]; rfl⟩

end Child

/-! ### Signals -/

/-- A signal changes the loop flags and nothing else. -/
theorem signal_keeps {children : Table Child.pid} (pids : List ℕ) {property : Child → Prop}
    (hproperty : ∀ child loop, property child → property { child with loop := loop }) :
    ((∀ child ∈ children.rows, property child) →
        ∀ child ∈ (signal children pids).rows, property child) ∧
      ((∃ child ∈ children.rows, property child) →
        ∃ child ∈ (signal children pids).rows, property child) := by
  induction pids generalizing children with
  | nil => exact ⟨id, id⟩
  | cons pid rest ih =>
    rw [signal, List.foldl_cons]
    cases hfind : children.find pid with
    | none => exact ih
    | some sought =>
      obtain ⟨hsought, hpid⟩ := (Table.find_eq_some_iff _ _ _).mp hfind
      refine ⟨fun hall ↦ ih.1 fun child hchild ↦ ?_, fun hsome ↦ ih.2 ?_⟩
      · rcases (Table.mem_insertOrReplace _ _ _).mp hchild with ⟨hold, -⟩ | rfl
        · exact hall child hold
        · exact hproperty _ _ (hall sought hsought)
      · obtain ⟨child, hchild, hholds⟩ := hsome
        by_cases hsame : child.pid = pid
        · obtain rfl := children.eq_of_key_eq hchild hsought (hsame.trans hpid.symm)
          exact ⟨_, (Table.mem_insertOrReplace _ _ _).mpr (.inr rfl), hproperty _ _ hholds⟩
        · refine ⟨child, (Table.mem_insertOrReplace _ _ _).mpr (.inl ⟨hchild, ?_⟩), hholds⟩
          exact fun hkey ↦ hsame (hkey.trans hpid)

/-- Whether some child has a property that signals do not touch. -/
theorem exists_signal_iff {children : Table Child.pid} (pids : List ℕ) {property : Child → Prop}
    (hproperty : ∀ child loop, property child ↔ property { child with loop := loop }) :
    (∃ child ∈ (signal children pids).rows, property child) ↔
      ∃ child ∈ children.rows, property child := by
  constructor
  · intro hafter
    by_contra hbefore
    push Not at hbefore
    obtain ⟨child, hchild, hholds⟩ := hafter
    have hnot := (signal_keeps pids fun child loop hnot hloop ↦
      hnot ((hproperty child loop).mpr hloop)).1 hbefore
    exact hnot child hchild hholds
  · exact (signal_keeps pids fun child loop ↦ (hproperty child loop).mp).2

/-! ### The children are bounded and known -/

/-- The process ids that the kernel knows as children of the parent. -/
def pids (state : ProxyState) : List ℕ := state.children.rows.map Child.pid

/-- The keys of `%$kids`. -/
def kidPids (state : ProxyState) : List ℕ := state.kids.rows.map Prod.fst

theorem mem_pids {state : ProxyState} {pid : ℕ} :
    pid ∈ state.pids ↔ ∃ child ∈ state.children.rows, child.pid = pid := List.mem_map

theorem mem_kidPids {state : ProxyState} {pid : ℕ} :
    pid ∈ state.kidPids ↔ ∃ kid ∈ state.kids.rows, kid.1 = pid := List.mem_map

theorem pids_nodup (state : ProxyState) : state.pids.Nodup := state.children.keys_nodup

/-- Where a step of a child leads: the other children are as before. -/
theorem mem_pids_stepped {child stepped : Child} (hchild : child ∈ before.children.rows)
    (hpid : stepped.pid = child.pid)
    (hchildren : after.children = before.children.insertOrReplace stepped) (pid : ℕ) :
    pid ∈ after.pids ↔ pid ∈ before.pids := by
  rw [mem_pids, mem_pids, hchildren]
  constructor
  · rintro ⟨other, hother, rfl⟩
    rcases (Table.mem_insertOrReplace _ _ _).mp hother with ⟨hold, -⟩ | rfl
    · exact ⟨other, hold, rfl⟩
    · exact ⟨child, hchild, hpid.symm⟩
  · rintro ⟨other, hother, rfl⟩
    by_cases hsame : other.pid = stepped.pid
    · exact ⟨stepped, (Table.mem_insertOrReplace _ _ _).mpr (.inr rfl), hsame.symm⟩
    · exact ⟨other, (Table.mem_insertOrReplace _ _ _).mpr (.inl ⟨hother, hsame⟩), rfl⟩

theorem mem_pids_signalled (sent : List ℕ)
    (hchildren : after.children = signal before.children sent) (pid : ℕ) :
    pid ∈ after.pids ↔ pid ∈ before.pids := by
  rw [mem_pids, mem_pids, hchildren]
  exact exists_signal_iff sent fun _ _ ↦ Iff.rfl

theorem mem_pids_reaped {gone : ℕ}
    (hchildren : after.children = before.children.delete fun child ↦ child.pid = gone) (pid : ℕ) :
    pid ∈ after.pids ↔ pid ∈ before.pids ∧ pid ≠ gone := by
  simp only [mem_pids, hchildren, Table.mem_delete, decide_eq_false_iff_not]
  constructor
  · rintro ⟨child, ⟨hchild, hother⟩, rfl⟩
    exact ⟨⟨child, hchild, rfl⟩, hother⟩
  · rintro ⟨⟨child, hchild, rfl⟩, hother⟩
    exact ⟨child, ⟨hchild, hother⟩, rfl⟩

theorem mem_pids_forked {child : Child}
    (hchildren : after.children = before.children.insertOrReplace child) (pid : ℕ) :
    pid ∈ after.pids ↔ pid ∈ before.pids ∨ pid = child.pid := by
  simp only [mem_pids, hchildren, Table.mem_insertOrReplace]
  constructor
  · rintro ⟨other, ⟨hold, -⟩ | rfl, rfl⟩
    · exact .inl ⟨other, hold, rfl⟩
    · exact .inr rfl
  · rintro (⟨other, hold, rfl⟩ | rfl)
    · by_cases hsame : other.pid = child.pid
      · exact ⟨child, .inr rfl, hsame.symm⟩
      · exact ⟨other, .inl ⟨hold, hsame⟩, rfl⟩
    · exact ⟨child, .inr rfl, rfl⟩

theorem mem_kidPids_deleted (condition : ℕ → Prop) [DecidablePred condition]
    (hkids : after.kids = before.kids.delete fun kid ↦ condition kid.1) (pid : ℕ) :
    pid ∈ after.kidPids ↔ pid ∈ before.kidPids ∧ ¬ condition pid := by
  simp only [mem_kidPids, hkids, Table.mem_delete, decide_eq_false_iff_not]
  constructor
  · rintro ⟨kid, ⟨hkid, hkept⟩, rfl⟩
    exact ⟨⟨kid, hkid, rfl⟩, hkept⟩
  · rintro ⟨⟨kid, hkid, rfl⟩, hkept⟩
    exact ⟨kid, ⟨hkid, hkept⟩, rfl⟩

theorem mem_kidPids_read {reports : List (ℕ × Text)}
    (hkids : after.kids = before.kids.settled reports) (pid : ℕ) :
    pid ∈ after.kidPids ↔ pid ∈ before.kidPids ∨ ∃ report ∈ reports, report.1 = pid := by
  rw [mem_kidPids, mem_kidPids, hkids]
  generalize before.kids = table
  clear hkids
  induction reports generalizing table with
  | nil => simp [Table.settled]
  | cons report rest ih =>
    refine (ih (table.insertOrReplace report)).trans ?_
    rw [List.exists_mem_cons_iff, ← or_assoc]
    refine or_congr_left ?_
    simp only [Table.mem_insertOrReplace]
    constructor
    · rintro ⟨kid, ⟨hold, -⟩ | rfl, rfl⟩
      · exact .inl ⟨kid, hold, rfl⟩
      · exact .inr rfl
    · rintro (⟨kid, hkid, rfl⟩ | rfl)
      · by_cases hsame : kid.1 = report.1
        · exact ⟨report, .inr rfl, hsame.symm⟩
        · exact ⟨kid, .inl ⟨hkid, hsame⟩, rfl⟩
      · exact ⟨report, .inr rfl, rfl⟩

theorem mem_kidPids_forked {pid : ℕ} {status : Text}
    (hkids : after.kids = before.kids.insertOrReplace (pid, status)) (other : ℕ) :
    other ∈ after.kidPids ↔ other ∈ before.kidPids ∨ other = pid := by
  have hread : after.kids = before.kids.settled [(pid, status)] := hkids
  rw [mem_kidPids_read hread, List.exists_mem_cons_iff]
  simp [eq_comm]

/-- Every child is a kid of the parent's. -/
def Known (state : ProxyState) : Prop := ∀ pid ∈ state.pids, pid ∈ state.kidPids

theorem known_of_change (hchange : Change limits before after event) (hknown : before.Known) :
    after.Known := by
  intro pid hpid
  cases hchange with
  | nothing hkids _ hchildren _ =>
    rw [pids, hchildren] at hpid
    rw [kidPids, hkids]
    exact hknown pid hpid
  | read reports _ hkids _ hchildren _ =>
    rw [pids, hchildren] at hpid
    exact (mem_kidPids_read hkids pid).mpr (.inl (hknown pid hpid))
  | reaped gone _ _ hkids _ hchildren _ =>
    obtain ⟨hbefore, hother⟩ := (mem_pids_reaped hchildren pid).mp hpid
    exact (mem_kidPids_deleted (· = gone) hkids pid).mpr ⟨hknown pid hbefore, hother⟩
  | verified missing hmissing hkids _ hchildren _ =>
    rw [pids, hchildren] at hpid
    obtain ⟨child, hchild, hchildPid⟩ := mem_pids.mp hpid
    have hkept : pid ∉ missing := hchildPid ▸ hmissing child hchild
    exact (mem_kidPids_deleted (· ∈ missing) hkids pid).mpr ⟨hknown pid hpid, hkept⟩
  | forked new _ _ _ hkids _ hchildren _ =>
    exact (mem_kidPids_forked hkids pid).mpr
      (((mem_pids_forked hchildren pid).mp hpid).imp_left (hknown pid))
  | signalled sent hkids _ hchildren _ =>
    rw [kidPids, hkids]
    exact hknown pid ((mem_pids_signalled sent hchildren pid).mp hpid)
  | stepped _ _ child _ _ hchild _ hstep hkids _ hchildren =>
    rw [kidPids, hkids]
    exact hknown pid ((mem_pids_stepped hchild (childStep_pid hstep) hchildren pid).mp hpid)

/-- A fork needs room among the kids, and every child is a kid. -/
theorem length_pids_of_change (hchange : Change limits before after event)
    (hknown : before.Known) (hbounded : before.pids.length ≤ limits.maxClients) :
    after.pids.length ≤ limits.maxClients := by
  have hfewer (hsubset : ∀ pid ∈ after.pids, pid ∈ before.pids) :
      after.pids.length ≤ limits.maxClients :=
    (List.subperm_of_subset after.pids_nodup hsubset).length_le.trans hbounded
  cases hchange with
  | nothing _ _ hchildren _ | read _ _ _ _ hchildren _ | verified _ _ _ _ hchildren _ =>
    rw [pids, hchildren]
    exact hbounded
  | reaped _ _ _ _ _ hchildren _ =>
    exact hfewer fun pid hpid ↦ ((mem_pids_reaped hchildren pid).mp hpid).1
  | signalled sent _ _ hchildren _ =>
    exact hfewer fun pid ↦ (mem_pids_signalled sent hchildren pid).mp
  | stepped _ _ child _ _ hchild _ hstep _ _ hchildren =>
    exact hfewer fun pid ↦ (mem_pids_stepped hchild (childStep_pid hstep) hchildren pid).mp
  | forked new hroom _ _ _ _ hchildren _ =>
    have hsubset : after.pids ⊆ new :: before.kidPids := by
      intro pid hpid
      rcases (mem_pids_forked hchildren pid).mp hpid with hold | rfl
      · exact List.mem_cons_of_mem _ (hknown pid hold)
      · exact List.mem_cons_self
    refine (List.subperm_of_subset after.pids_nodup hsubset).length_le.trans ?_
    rw [List.length_cons, kidPids, List.length_map]
    exact hroom

/-! ### The lock -/

/-- The lock has an owner when some child is between taking it and giving it back, and it is that
child. -/
def Locked (state : ProxyState) : Prop :=
  ∀ pid, state.lock = some pid ↔
    ∃ child ∈ state.children.rows, child.pid = pid ∧ child.point.holdsLock = true

/-- Which children are in the locked part after one of them has made a step. -/
theorem exists_holds_stepped {child stepped : Child} (hpid : stepped.pid = child.pid) (pid : ℕ) :
    (∃ other ∈ (before.children.insertOrReplace stepped).rows,
        other.pid = pid ∧ other.point.holdsLock = true) ↔
      if pid = child.pid then stepped.point.holdsLock = true
      else ∃ other ∈ before.children.rows, other.pid = pid ∧ other.point.holdsLock = true := by
  simp only [Table.mem_insertOrReplace, hpid]
  split_ifs with hsame
  · constructor
    · rintro ⟨other, ⟨-, hother⟩ | rfl, hkey, hholds⟩
      · exact absurd (hkey.trans hsame) hother
      · exact hholds
    · exact fun hholds ↦ ⟨stepped, .inr rfl, hpid.trans hsame.symm, hholds⟩
  · constructor
    · rintro ⟨other, ⟨hold, -⟩ | rfl, hkey, hholds⟩
      · exact ⟨other, hold, hkey, hholds⟩
      · exact absurd (hkey.symm.trans hpid) hsame
    · rintro ⟨other, hold, rfl, hholds⟩
      exact ⟨other, .inl ⟨hold, hsame⟩, rfl, hholds⟩

theorem locked_of_stepped {child stepped : Child} {act : ChildEvent} {written : Text}
    (hchild : child ∈ before.children.rows)
    (hstep : before.childStep limits child act = some (stepped, written, after.lock))
    (hchildren : after.children = before.children.insertOrReplace stepped)
    (hlocked : before.Locked) : after.Locked := by
  intro pid
  rw [hchildren, exists_holds_stepped (childStep_pid hstep), ← hlocked pid]
  have howner : before.lock = some child.pid ↔ child.point.holdsLock = true := by
    rw [hlocked child.pid]
    refine ⟨fun ⟨other, hother, hkey, hholds⟩ ↦ ?_, fun hholds ↦ ⟨child, hchild, rfl, hholds⟩⟩
    exact before.children.eq_of_key_eq hother hchild hkey ▸ hholds
  rcases childStep_lock hstep howner.mpr with
    ⟨hlock, hpoint⟩ | ⟨hfree, hlock, hpoint⟩ | ⟨hown, hlock, hpoint⟩ | ⟨hother, hlock, hpoint⟩
  · rw [hlock, hpoint]
    split_ifs with hsame
    · rw [hsame, howner]
    · rfl
  · simp [hlock, hpoint, hfree, eq_comm]
  · simp only [hlock, hpoint, hown, Option.some.injEq, reduceCtorEq, false_iff]
    split_ifs with hsame
    · exact not_false
    · exact fun hkey ↦ hsame hkey.symm
  · rw [hlock, hpoint]
    split_ifs with hsame
    · simp [hsame, hother]
    · rfl

theorem locked_of_change (hchange : Change limits before after event) (hlocked : before.Locked) :
    after.Locked := by
  cases hchange with
  | nothing _ _ hchildren hlock | read _ _ _ _ hchildren hlock
  | verified _ _ _ _ hchildren hlock =>
    intro pid
    rw [hlock, hchildren]
    exact hlocked pid
  | signalled sent _ _ hchildren hlock =>
    intro pid
    rw [hlock, hchildren, exists_signal_iff sent fun _ _ ↦ Iff.rfl]
    exact hlocked pid
  | stepped _ _ child _ _ hchild _ hstep _ _ hchildren =>
    exact locked_of_stepped hchild hstep hchildren hlocked
  | reaped gone _ hended _ _ hchildren hlock =>
    intro pid
    rw [hlock, hlocked pid, hchildren]
    refine exists_congr fun child ↦ ?_
    rw [Table.mem_delete]
    -- the child that is gone had ended, and did not hold the lock
    refine ⟨fun ⟨hchild, hkey, hholds⟩ ↦ ⟨⟨hchild, ?_⟩, hkey, hholds⟩,
      fun ⟨hchild, hrest⟩ ↦ ⟨hchild.1, hrest⟩⟩
    obtain ⟨dead, hdead, hpid, hpoint⟩ := hended
    rw [decide_eq_false_iff_not]
    intro hsame
    obtain rfl := before.children.eq_of_key_eq hchild hdead (hsame.trans hpid.symm)
    rw [hpoint] at hholds
    exact Bool.false_ne_true hholds
  | forked new _ _ hnew _ _ hchildren hlock =>
    intro pid
    rw [hlock, hlocked pid, hchildren]
    refine exists_congr fun child ↦ ?_
    rw [Table.mem_insertOrReplace]
    constructor
    · exact fun ⟨hchild, hrest⟩ ↦ ⟨.inl ⟨hchild, hnew child hchild⟩, hrest⟩
    · rintro ⟨⟨hchild, -⟩ | rfl, hrest⟩
      · exact ⟨hchild, hrest⟩
      · exact absurd hrest.2 Bool.false_ne_true

/-! ### Requests of one child -/

/-- A child that has yet to accept in this round. -/
def mayAccept : ChildPoint → Bool
  | .waiting | .locked | .accepting => true
  | _ => false

/-- What a child has accepted so far, compared with the rounds it has begun. -/
structure WithinLimit (limits : Limits) (child : Child) : Prop where
  round : mayAccept child.point = true → child.taken < child.did
  counted : child.taken ≤ child.did
  begun : child.point ≠ .exited → child.did ≤ limits.maxRequestsPerChild
  accepted : child.taken ≤ limits.maxRequestsPerChild

theorem withinLimit_nextRequest {child : Child} (hwithin : WithinLimit limits child) :
    WithinLimit limits (nextRequest limits child) := by
  have hcounted := hwithin.counted
  have haccepted := hwithin.accepted
  unfold nextRequest
  split_ifs with hmore
  · exact ⟨fun _ ↦ Nat.lt_succ_of_le hcounted, Nat.le_succ_of_le hcounted, fun _ ↦ hmore,
      haccepted⟩
  · refine ⟨fun hmay ↦ absurd hmay Bool.false_ne_true, Nat.le_succ_of_le hcounted,
      fun hlive ↦ absurd rfl hlive, haccepted⟩

/-- The flag, the status told and a step to a point of the same round do not matter. -/
theorem WithinLimit.move {child moved : Child} (hwithin : WithinLimit limits child)
    (hdid : moved.did = child.did) (htaken : moved.taken = child.taken)
    (hround : mayAccept moved.point = true → mayAccept child.point = true)
    (hlive : moved.point ≠ .exited → child.point ≠ .exited) : WithinLimit limits moved where
  round hmay := by rw [hdid, htaken]; exact hwithin.round (hround hmay)
  counted := by rw [hdid, htaken]; exact hwithin.counted
  begun hpoint := by rw [hdid]; exact hwithin.begun (hlive hpoint)
  accepted := by rw [htaken]; exact hwithin.accepted

theorem withinLimit_childStep {child stepped : Child} {act : ChildEvent} {written : Text}
    {lock : Option ℕ} (hwithin : WithinLimit limits child)
    (hstep : before.childStep limits child act = some (stepped, written, lock)) :
    WithinLimit limits stepped := by
  cases act with
  | signalled =>
    cases hstep
    exact hwithin.move rfl rfl id id
  | openLock | interrupted =>
    simp only [childStep, Option.ite_none_right_eq_some, Option.some.injEq] at hstep
    cases hstep.2
    exact withinLimit_nextRequest hwithin
  | takeLock =>
    simp only [childStep, Option.ite_none_right_eq_some, Option.some.injEq] at hstep
    obtain ⟨⟨hpoint, -⟩, hafter⟩ := hstep
    cases hafter
    exact hwithin.move rfl rfl (fun _ ↦ by rw [hpoint]; rfl) fun _ ↦ by simp [hpoint]
  | accept =>
    simp only [childStep, Option.ite_none_right_eq_some, Option.some.injEq] at hstep
    obtain ⟨hpoint, hafter⟩ := hstep
    cases hafter
    have hround : child.taken < child.did := hwithin.round (by rw [hpoint]; rfl)
    have hbegun : child.did ≤ limits.maxRequestsPerChild := hwithin.begun (by simp [hpoint])
    exact ⟨fun hmay ↦ absurd hmay Bool.false_ne_true, hround, fun _ ↦ hbegun,
      hround.trans_le hbegun⟩
  | unlock | serve =>
    simp only [childStep, Option.ite_none_right_eq_some, Option.some.injEq] at hstep
    obtain ⟨hpoint, hafter⟩ := hstep
    cases hafter
    exact hwithin.move rfl rfl (fun hmay ↦ absurd hmay Bool.false_ne_true)
      fun _ ↦ by simp [hpoint]
  | exit =>
    simp only [childStep, Option.ite_none_right_eq_some, Option.some.injEq] at hstep
    cases hstep.2
    exact hwithin.move rfl rfl (fun hmay ↦ absurd hmay Bool.false_ne_true)
      fun hlive ↦ absurd rfl hlive
  | reportAccept through =>
    simp only [childStep, Option.ite_none_right_eq_some, Option.some.injEq] at hstep
    obtain ⟨⟨hpoint, -⟩, hafter⟩ := hstep
    cases through <;> cases hafter <;>
      exact hwithin.move rfl rfl (fun _ ↦ by rw [hpoint]; rfl) fun _ ↦ by simp [hpoint]
  | reportBusy through =>
    simp only [childStep, Option.ite_none_right_eq_some, Option.some.injEq] at hstep
    obtain ⟨hpoint, hafter⟩ := hstep
    cases through <;> cases hafter <;>
      exact hwithin.move rfl rfl (fun hmay ↦ absurd hmay Bool.false_ne_true)
        fun _ ↦ by simp [hpoint]
  | reportIdle through =>
    simp only [childStep, Option.ite_none_right_eq_some, Option.some.injEq] at hstep
    obtain ⟨-, hafter⟩ := hstep
    cases through <;> cases hafter
    · exact withinLimit_nextRequest hwithin
    · exact withinLimit_nextRequest (hwithin.move rfl rfl id id)

theorem withinLimit_of_change (hchange : Change limits before after event)
    (hwithin : ∀ child ∈ before.children.rows, WithinLimit limits child) :
    ∀ child ∈ after.children.rows, WithinLimit limits child := by
  cases hchange with
  | nothing _ _ hchildren _ | read _ _ _ _ hchildren _ | verified _ _ _ _ hchildren _ =>
    rw [hchildren]
    exact hwithin
  | reaped _ _ _ _ _ hchildren _ =>
    rw [hchildren]
    exact fun child hchild ↦ hwithin child ((Table.mem_delete _ _ _).mp hchild).1
  | signalled sent _ _ hchildren _ =>
    rw [hchildren]
    exact (signal_keeps sent fun child _ hchild ↦ hchild.move rfl rfl id id).1 hwithin
  | forked new _ _ _ _ _ hchildren _ =>
    rw [hchildren]
    intro child hchild
    rcases (Table.mem_insertOrReplace _ _ _).mp hchild with ⟨hold, -⟩ | rfl
    · exact hwithin child hold
    · exact ⟨fun hmay ↦ absurd hmay Bool.false_ne_true, le_rfl, fun _ ↦ Nat.zero_le _,
        Nat.zero_le _⟩
  | stepped _ _ child _ _ hchild _ hstep _ _ hchildren =>
    rw [hchildren]
    intro other hother
    rcases (Table.mem_insertOrReplace _ _ _).mp hother with ⟨hold, -⟩ | rfl
    · exact hwithin other hold
    · exact withinLimit_childStep (hwithin child hchild) hstep

/-! ### Every reached state is safe -/

/-- What holds in every state that a run reaches. -/
structure Safe (limits : Limits) (state : ProxyState) : Prop where
  known : state.Known
  bounded : state.pids.length ≤ limits.maxClients
  locked : state.Locked
  within : ∀ child ∈ state.children.rows, WithinLimit limits child

theorem safe_start (limits : Limits) (time : ℕ) : Safe limits (start time) where
  known := fun _ hpid ↦ absurd hpid List.not_mem_nil
  bounded := Nat.zero_le _
  locked := fun pid ↦ by simp [start, Table.empty]
  within := fun _ hchild ↦ absurd hchild List.not_mem_nil

theorem Safe.of_change (hsafe : Safe limits before) (hchange : Change limits before after event) :
    Safe limits after where
  known := known_of_change hchange hsafe.known
  bounded := length_pids_of_change hchange hsafe.known hsafe.bounded
  locked := locked_of_change hchange hsafe.locked
  within := withinLimit_of_change hchange hsafe.within

/-- A run of the engine from its start. -/
def Reached (limits : Limits) (time : ℕ) (events : List ProxyEvent) (state : ProxyState) : Prop :=
  Run (stepsOf (next limits)) (start time) events state

theorem Reached.safe {time : ℕ} {events : List ProxyEvent} {state : ProxyState}
    (hrun : Reached limits time events state) : Safe limits state :=
  Run.invariant (fun _ _ _ hnext hsafe ↦ hsafe.of_change (change_of_next hnext)) hrun
    (safe_start limits time)

/-- In every interleaving there are at most `max_clients` children, ended ones that are not reaped
included; each of them is among the parent's kids; at most one is between taking the lock and giving
it back; and none has accepted more than `max_requests_per_child` connections. -/
theorem children_bounded {limits : Limits} {time : ℕ} {events : List ProxyEvent}
    {state : ProxyState} (hrun : Reached limits time events state) :
    state.children.rows.length ≤ limits.maxClients ∧
      (∀ child ∈ state.children.rows, child.pid ∈ state.kids.rows.map Prod.fst) ∧
      (∀ first ∈ state.children.rows, ∀ second ∈ state.children.rows,
        first.point.holdsLock = true → second.point.holdsLock = true → first = second) ∧
      ∀ child ∈ state.children.rows, child.taken ≤ limits.maxRequestsPerChild := by
  have hsafe := hrun.safe
  refine ⟨?_, fun child hchild ↦ hsafe.known _ (mem_pids.mpr ⟨child, hchild, rfl⟩), ?_,
    fun child hchild ↦ (hsafe.within child hchild).accepted⟩
  · exact (List.length_map _).symm.trans_le hsafe.bounded
  · intro first hfirst second hsecond hholdsFirst hholdsSecond
    have howner := (hsafe.locked first.pid).mpr ⟨first, hfirst, rfl, hholdsFirst⟩
    have hother := (hsafe.locked second.pid).mpr ⟨second, hsecond, rfl, hholdsSecond⟩
    exact state.children.eq_of_key_eq hfirst hsecond
      (Option.some.inj (howner.symm.trans hother))

/-- Two children, one of them accepting, the other one waiting for the lock. -/
def twoChildren : List ProxyEvent :=
  [.tick, .testLoop, .noChanges, .noneToReap, .verify [], .fork 7, .countConnections,
    .child 7 .openLock, .child 7 .takeLock, .tick, .testLoop, .noChanges, .noneToReap, .verify [],
    .fork 8, .child 8 .openLock, .child 7 (.reportAccept true)]

/-- The state they lead to. -/
def withTwoChildren : ProxyState :=
  (twoChildren.foldlM (next {}) (start 0)).getD (start 0)

theorem reached_withTwoChildren : Reached {} 0 twoChildren withTwoChildren :=
  Run.of_foldlM (by decide +kernel)

theorem children_bounded_of_two :
    withTwoChildren.children.rows.length ≤ 16 ∧
      (∀ child ∈ withTwoChildren.children.rows,
        child.pid ∈ withTwoChildren.kids.rows.map Prod.fst) ∧
      (∀ first ∈ withTwoChildren.children.rows, ∀ second ∈ withTwoChildren.children.rows,
        first.point.holdsLock = true → second.point.holdsLock = true → first = second) ∧
      ∀ child ∈ withTwoChildren.children.rows, child.taken ≤ 250 :=
  children_bounded reached_withTwoChildren

end ProxyState

end Ec2Wrappers.Microproxy
