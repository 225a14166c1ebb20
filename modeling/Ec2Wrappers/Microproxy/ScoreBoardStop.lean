import Ec2Wrappers.Microproxy.ScoreBoardReports

/-!
# Stopping the scoreboard engine

`stop` waits until there are no kids. It can come to an end exactly when every kid is a child
(`stop_ends_iff`). A report of a child that is read after the child was reaped makes a kid that is
none; where children are reaped only after their reports have been read, there is no such kid
(`kids_are_children`).
-/

set_option autoImplicit false
set_option relaxedAutoImplicit false

namespace Ec2Wrappers.Microproxy

open Foundations

namespace ProxyState

variable {limits : Limits} {before after : ProxyState} {event : ProxyEvent}

/-! ### Stopping -/

/-- No child appears while the parent stops. -/
theorem mem_pids_of_change (hchange : Change limits before after event)
    (hevent : ∀ pid, event ≠ .fork pid) {pid : ℕ} (hpid : pid ∈ after.pids) :
    pid ∈ before.pids := by
  cases hchange with
  | nothing _ _ hchildren _ | read _ _ _ _ hchildren _ | verified _ _ _ _ hchildren _ =>
    rw [pids, hchildren] at hpid
    exact hpid
  | reaped _ _ _ _ _ hchildren _ => exact ((mem_pids_reaped hchildren pid).mp hpid).1
  | signalled sent _ _ hchildren _ => exact (mem_pids_signalled sent hchildren pid).mp hpid
  | stepped _ _ _ _ _ hchild _ hstep _ _ hchildren =>
    exact (mem_pids_stepped hchild (childStep_pid hstep) hchildren pid).mp hpid
  | forked new _ _ _ _ _ _ _ => exact absurd rfl (hevent new)

/-- The parent is in `stop`, and a kid that is no child is left. -/
structure Stuck (pid : ℕ) (state : ProxyState) : Prop where
  stopping : state.parent = .stopping
  kid : pid ∈ state.kidPids
  noChild : pid ∉ state.pids

theorem kidPids_ne_nil {state : ProxyState} {pid : ℕ} (hkid : pid ∈ state.kidPids) :
    state.kids.rows ≠ [] := by
  intro hempty
  rw [kidPids, hempty] at hkid
  exact absurd hkid List.not_mem_nil

/-- `waitpid` returns children only, so that the kid stays. -/
theorem Stuck.of_next {pid : ℕ} (hnext : before.next limits event = some after)
    (hstuck : Stuck pid before) : Stuck pid after := by
  obtain ⟨hstopping, hkid, hnoChild⟩ := hstuck
  have hnonempty := kidPids_ne_nil hkid
  have hnoFork : ∀ new, event ≠ .fork new := by
    rintro new rfl
    simp [next, hstopping] at hnext
  have hleft : pid ∉ after.pids := fun hpid ↦
    hnoChild (mem_pids_of_change (change_of_next hnext) hnoFork hpid)
  cases event with
  | tick | interrupt =>
    cases hnext
    exact ⟨hstopping, hkid, hnoChild⟩
  | stopReap gone =>
    simp only [next, Option.ite_none_right_eq_some] at hnext
    obtain ⟨-, hreap⟩ := hnext
    unfold reap at hreap
    split_ifs at hreap with hended
    cases hreap
    refine ⟨hstopping, (mem_kidPids_deleted (· = gone) rfl pid).mpr ⟨hkid, ?_⟩, hleft⟩
    rintro rfl
    obtain ⟨child, hchild, hpid, -⟩ := hended
    exact hnoChild (mem_pids.mpr ⟨child, hchild, hpid⟩)
  | stopWait | stopNoChild =>
    simp only [next, Option.ite_none_right_eq_some, Option.some.injEq] at hnext
    obtain ⟨-, rfl⟩ := hnext
    exact ⟨hstopping, hkid, hnoChild⟩
  | noKids =>
    simp only [next, Option.ite_none_right_eq_some] at hnext
    exact absurd hnext.1.2 hnonempty
  | child who act =>
    obtain ⟨child, -, hrest⟩ := Option.bind_eq_some_iff.mp hnext
    obtain ⟨⟨stepped, written, lock⟩, -, hafter⟩ := Option.bind_eq_some_iff.mp hrest
    cases hafter
    exact ⟨hstopping, hkid, hleft⟩
  | testLoop | readChanges | noChanges | reap _ | noneToReap | verify _ | fork _ | cannotFork
  | killIdler _ | noLaunch | countConnections | killKids => simp [next, hstopping] at hnext

/-- A child can end, unless it has. -/
theorem run_exit {state : ProxyState} {pid : ℕ} (hpid : pid ∈ state.pids) :
    ∃ events after, Run (stepsOf (next limits)) state events after ∧ after.ended pid ∧
      after.parent = state.parent ∧ after.kids = state.kids ∧
      ∀ other, other ∈ after.pids ↔ other ∈ state.pids := by
  obtain ⟨child, hchild, rfl⟩ := mem_pids.mp hpid
  by_cases hpoint : child.point = .exited
  · exact ⟨[], state, .refl state, ⟨child, hchild, rfl, hpoint⟩, rfl, rfl, fun _ ↦ Iff.rfl⟩
  · have hfind : state.children.find child.pid = some child :=
      (Table.find_eq_some_iff _ _ _).mpr ⟨hchild, rfl⟩
    have hnext : state.next limits (.child child.pid .exit) =
        some { state with
          children := state.children.insertOrReplace { child with point := .exited }
          pipe := state.pipe ++ []
          lock := if state.lock = some child.pid then none else state.lock } := by
      simp [next, hfind, childStep, hpoint]
    have hsame : ({ child with point := .exited } : Child).pid = child.pid := rfl
    exact ⟨_, _, .single hnext, ⟨_, (Table.mem_insertOrReplace _ _ _).mpr (.inr rfl), rfl, rfl⟩,
      rfl, rfl, mem_pids_stepped hchild hsame rfl⟩

/-- While the parent stops, a child can end and be reaped. -/
theorem run_stopReap {state : ProxyState} {pid : ℕ} (hstopping : state.parent = .stopping)
    (hkids : state.kids.rows ≠ []) (hpid : pid ∈ state.pids) :
    ∃ events after, Run (stepsOf (next limits)) state events after ∧ after.parent = .stopping ∧
      after.kids = (state.kids.delete fun kid ↦ kid.1 = pid) ∧
      ∀ other, other ∈ after.pids ↔ other ∈ state.pids ∧ other ≠ pid := by
  obtain ⟨events, middle, hrun, hended, hparent, hsame, hpids⟩ := @run_exit limits _ _ hpid
  have hreap : middle.reap pid = some { middle with
      conn := middle.conn + 1
      kids := middle.kids.delete fun kid ↦ kid.1 = pid
      children := middle.children.delete fun child ↦ child.pid = pid } := if_pos hended
  have hpossible : middle.parent = .stopping ∧ middle.kids.rows ≠ [] :=
    ⟨hparent.trans hstopping, hsame ▸ hkids⟩
  have hnext : middle.next limits (.stopReap pid) = middle.reap pid := if_pos hpossible
  refine ⟨_, _, hrun.append (.single (hnext.trans hreap)), hpossible.1, ?_, fun other ↦ ?_⟩
  · rw [hsame]
  · rw [mem_pids_reaped rfl, hpids]

/-- Where every kid is a child, the children can end and be reaped one after another. -/
theorem run_stop {state : ProxyState} (hstopping : state.parent = .stopping)
    (hkids : ∀ pid ∈ state.kidPids, pid ∈ state.pids) :
    ∃ events last, Run (stepsOf (next limits)) state events last ∧ last.parent = .stopped := by
  induction hlength : state.kids.rows.length using Nat.strongRecOn generalizing state with
  | ind count ih =>
    by_cases hempty : state.kids.rows = []
    · refine ⟨[.noKids], { state with parent := .stopped }, .single ?_, rfl⟩
      simp [stepsOf, next, hstopping, hempty]
    · obtain ⟨kid, hkid⟩ := List.exists_mem_of_ne_nil _ hempty
      have hchild := hkids kid.1 (mem_kidPids.mpr ⟨kid, hkid, rfl⟩)
      obtain ⟨events, after, hrun, hparent, hrows, hpids⟩ :=
        @run_stopReap limits _ _ hstopping hempty hchild
      have hfewer : after.kids.rows.length < count := by
        rw [hrows, ← hlength]
        exact List.length_filter_lt_length_iff_exists.mpr ⟨kid, hkid, by simp⟩
      have hrest : ∀ pid ∈ after.kidPids, pid ∈ after.pids := by
        intro pid hpid
        obtain ⟨hold, hdifferent⟩ := (mem_kidPids_deleted (· = kid.1) hrows pid).mp hpid
        exact (hpids pid).mpr ⟨hkids pid hold, hdifferent⟩
      obtain ⟨more, last, hmore, hlast⟩ := ih _ hfewer hparent hrest rfl
      exact ⟨events ++ more, last, hrun.append hmore, hlast⟩

/-- From any state in which the parent stops, it can come to an end exactly when every kid is a
child. Otherwise no run ends: `waitpid` has nothing to return for such a kid. -/
theorem stop_ends_iff {limits : Limits} {state : ProxyState}
    (hstopping : state.parent = .stopping) :
    (∃ events last, Run (stepsOf (next limits)) state events last ∧ last.parent = .stopped) ↔
      ∀ kid ∈ state.kids.rows, ∃ child ∈ state.children.rows, child.pid = kid.1 := by
  constructor
  · rintro ⟨events, last, hrun, hstopped⟩ kid hkid
    by_contra hnoChild
    have hstuck : Stuck kid.1 state :=
      ⟨hstopping, mem_kidPids.mpr ⟨kid, hkid, rfl⟩, fun hpid ↦ hnoChild (mem_pids.mp hpid)⟩
    have hlast : Stuck kid.1 last :=
      Run.invariant (fun _ _ _ hnext hstuck ↦ hstuck.of_next hnext) hrun hstuck
    rw [hlast.stopping] at hstopped
    exact absurd hstopped (by decide)
  · intro hkids
    refine run_stop hstopping fun pid hpid ↦ ?_
    obtain ⟨kid, hkid, rfl⟩ := mem_kidPids.mp hpid
    exact mem_pids.mpr (hkids kid hkid)

/-- A child reports `A` and dies; it is reaped before the report is read, and `stop` follows. -/
def lateReport : List ProxyEvent :=
  [.tick, .testLoop, .noChanges, .noneToReap, .verify [], .fork 7, .countConnections,
    .child 7 .openLock, .child 7 .takeLock, .testLoop, .noChanges, .child 7 (.reportAccept true),
    .child 7 .exit, .reap 7, .noneToReap, .verify [], .noLaunch, .countConnections, .testLoop,
    .readChanges, .noneToReap, .verify [], .interrupt, .noLaunch, .countConnections, .testLoop,
    .killKids]

/-- The state it leads to, in which process 7 is a kid and no child. -/
def afterLateReport : ProxyState := (lateReport.foldlM (next {}) (start 0)).getD (start 0)

theorem reached_afterLateReport : Reached {} 0 lateReport afterLateReport :=
  Run.of_foldlM (by decide +kernel)

theorem stop_ends_iff_afterLateReport : Reached {} 0 lateReport afterLateReport ∧
    ((∃ events last, Run (stepsOf (next {})) afterLateReport events last ∧
        last.parent = .stopped) ↔
      ∀ kid ∈ afterLateReport.kids.rows, ∃ child ∈ afterLateReport.children.rows,
        child.pid = kid.1) :=
  ⟨reached_afterLateReport, stop_ends_iff (by decide +kernel)⟩

example : afterLateReport.kids.rows = [(7, accepting)] ∧ afterLateReport.children.rows = [] := by
  decide +kernel

/-! ### Kids that are no children -/

/-- A child is reaped only when none of its reports is in the pipe. -/
def ReapedLate (state : ProxyState) : ProxyEvent → Prop
  | .reap pid | .stopReap pid => ∀ report ∈ state.unread, report.1 ≠ pid
  | _ => True

instance (state : ProxyState) (event : ProxyEvent) : Decidable (ReapedLate state event) := by
  unfold ReapedLate
  split <;> infer_instance

/-- Every kid, and every process that has a report in the pipe, is a child. -/
structure Children (state : ProxyState) : Prop where
  framed : state.Framed
  kids : ∀ pid ∈ state.kidPids, pid ∈ state.pids
  reports : ∀ report ∈ state.unread, report.1 ∈ state.pids

theorem Children.of_change (hchildren : before.Children)
    (hchange : Change limits before after event) (hlate : ReapedLate before event) :
    after.Children := by
  obtain ⟨hframed, hkidsBefore, hreports⟩ := hchildren
  have hafter := hframed.of_change hchange
  cases hchange with
  | nothing hkids hpipe hsame _ =>
    refine ⟨hafter, ?_, ?_⟩
    · rw [kidPids, pids, hkids, hsame]
      exact hkidsBefore
    · rw [unread_of_pipe_eq hpipe, pids, hsame]
      exact hreports
  | read reports hread hkids hpipe hsame _ =>
    obtain ⟨rfl, hunread, -⟩ := unread_of_read hframed hread hpipe
    refine ⟨hafter, fun pid hpid ↦ ?_, fun report hreport ↦ ?_⟩
    · rw [pids, hsame]
      rcases (mem_kidPids_read hkids pid).mp hpid with hold | ⟨report, hreport, rfl⟩
      · exact hkidsBefore pid hold
      · exact hreports report (List.mem_of_mem_take hreport)
    · rw [hunread] at hreport
      rw [pids, hsame]
      exact hreports report (List.mem_of_mem_drop hreport)
  | reaped gone hevent _ hkids hpipe hgone _ =>
    have hnone : ∀ report ∈ before.unread, report.1 ≠ gone := by
      rcases hevent with rfl | rfl <;> exact hlate
    refine ⟨hafter, fun pid hpid ↦ ?_, fun report hreport ↦ ?_⟩
    · obtain ⟨hold, hother⟩ := (mem_kidPids_deleted (· = gone) hkids pid).mp hpid
      exact (mem_pids_reaped hgone pid).mpr ⟨hkidsBefore pid hold, hother⟩
    · rw [unread_of_pipe_eq hpipe] at hreport
      exact (mem_pids_reaped hgone _).mpr ⟨hreports report hreport, hnone report hreport⟩
  | verified missing _ hkids hpipe hsame _ =>
    refine ⟨hafter, fun pid hpid ↦ ?_, ?_⟩
    · rw [pids, hsame]
      exact hkidsBefore pid ((mem_kidPids_deleted (· ∈ missing) hkids pid).mp hpid).1
    · rw [unread_of_pipe_eq hpipe, pids, hsame]
      exact hreports
  | forked new _ _ _ hkids hpipe hforked _ =>
    refine ⟨hafter, fun pid hpid ↦ ?_, fun report hreport ↦ ?_⟩
    · exact (mem_pids_forked hforked pid).mpr
        (((mem_kidPids_forked hkids pid).mp hpid).imp_left (hkidsBefore pid))
    · rw [unread_of_pipe_eq hpipe] at hreport
      exact (mem_pids_forked hforked _).mpr (.inl (hreports report hreport))
  | signalled sent hkids hpipe hsignal _ =>
    refine ⟨hafter, fun pid hpid ↦ ?_, fun report hreport ↦ ?_⟩
    · rw [kidPids, hkids] at hpid
      exact (mem_pids_signalled sent hsignal pid).mpr (hkidsBefore pid hpid)
    · rw [unread_of_pipe_eq hpipe] at hreport
      exact (mem_pids_signalled sent hsignal _).mpr (hreports report hreport)
  | stepped _ _ child stepped written hchild _ hstep hkids hpipe hstepped =>
    have hpids := mem_pids_stepped hchild (childStep_pid hstep) hstepped
    refine ⟨hafter, fun pid hpid ↦ ?_, fun report hreport ↦ (hpids _).mpr ?_⟩
    · rw [kidPids, hkids] at hpid
      exact (hpids pid).mpr (hkidsBefore pid hpid)
    · rcases childStep_written hstep with ⟨rfl, -⟩ | ⟨status, hstatus, rfl, -⟩
      · rw [unread_of_pipe_eq (hpipe.trans (List.append_nil _))] at hreport
        exact hreports report hreport
      · rw [(unread_of_written hframed hchild hstatus hpipe).2.1] at hreport
        rcases List.mem_append.mp hreport with hold | hlast
        · exact hreports report hold
        · rw [List.mem_singleton.mp hlast]
          exact mem_pids.mpr ⟨child, hchild, rfl⟩

/-- In every interleaving in which children are reaped only after their reports have been read, the
kids are the children that the kernel knows, neither more nor fewer; so a parent that stops can come
to an end. -/
theorem kids_are_children {limits : Limits} {time : ℕ} {events : List ProxyEvent}
    {state : ProxyState}
    (hrun : Run (guarded (stepsOf (next limits)) ReapedLate) (start time) events state) :
    (∀ pid, (∃ kid ∈ state.kids.rows, kid.1 = pid) ↔
        ∃ child ∈ state.children.rows, child.pid = pid) ∧
      (state.parent = .stopping → ∃ more last,
        Run (stepsOf (next limits)) state more last ∧ last.parent = .stopped) := by
  have hchildren : state.Children :=
    Run.invariant (fun _ _ _ hstep hbefore ↦ hbefore.of_change (change_of_next hstep.1) hstep.2)
      hrun ⟨framed_start time, fun _ hkid ↦ absurd hkid List.not_mem_nil,
        fun _ hreport ↦ absurd hreport List.not_mem_nil⟩
  have hreached : Reached limits time events state := hrun.mono fun _ _ _ hstep ↦ hstep.1
  refine ⟨fun pid ↦ ?_, fun hstopping ↦ run_stop hstopping hchildren.kids⟩
  rw [← mem_kidPids, ← mem_pids]
  exact ⟨hchildren.kids pid, hreached.safe.known pid⟩

/-- A child reports `A`, its report is read, and it dies and is reaped; another child is left when
`stop` begins. -/
def readAndReaped : List ProxyEvent :=
  [.tick, .testLoop, .noChanges, .noneToReap, .verify [], .fork 7, .countConnections,
    .child 7 .openLock, .child 7 .takeLock, .child 7 (.reportAccept true), .tick, .testLoop,
    .readChanges, .noneToReap, .verify [], .fork 8, .countConnections, .child 8 .openLock,
    .child 7 .exit, .testLoop, .noChanges, .reap 7, .noneToReap, .verify [], .interrupt, .noLaunch,
    .countConnections, .testLoop, .killKids]

/-- The state it leads to. -/
def afterReaping : ProxyState := (readAndReaped.foldlM (next {}) (start 0)).getD (start 0)

theorem kids_are_children_afterReaping :
    (∀ pid, (∃ kid ∈ afterReaping.kids.rows, kid.1 = pid) ↔
        ∃ child ∈ afterReaping.children.rows, child.pid = pid) ∧
      ∃ more last, Run (stepsOf (next {})) afterReaping more last ∧ last.parent = .stopped := by
  have hkids := kids_are_children (@Run.of_foldlM_checked _ _ (next {}) ReapedLate _ (start 0)
    afterReaping readAndReaped (by decide +kernel))
  exact ⟨hkids.1, hkids.2 (by decide +kernel)⟩

example : afterReaping.kids.rows = [(8, idle)] := by
  decide +kernel

end ProxyState

end Ec2Wrappers.Microproxy
