import Ec2Wrappers.Microproxy.ScoreBoardRuns

/-!
# The scoreboard follows the children

The pipe holds whole reports at all times (`Framed`): they are written five bytes at a time and read
ten at a time, so that `unpack` never meets a piece cut short.

The kids, once the reports in the pipe have been read, show of every child where it is
(`kids_follow`), in runs in which no report gets lost and no process id is given to a new child
while a report of its former owner is in the pipe.
-/

set_option autoImplicit false
set_option relaxedAutoImplicit false

namespace Ec2Wrappers.Microproxy

open Foundations

namespace ProxyState

variable {limits : Limits} {before after : ProxyState} {event : ProxyEvent}

/-! ### The reports in the pipe -/

/-- A report that some child can write. -/
def IsReport (report : ℕ × Text) : Prop :=
  report.1 < 256 ^ 4 ∧ report.2 ∈ [accepting, busy, idle]

theorem length_packStatus (report : ℕ × Text) : (packStatus report).length = 5 := by
  rw [packStatus, List.length_append, length_bigEndian, List.length_take, List.length_append,
    List.length_singleton]
  omega

theorem unpackStatus_packStatus {report : ℕ × Text} (hreport : IsReport report) :
    unpackStatus (packStatus report) = some report := by
  obtain ⟨pid, status⟩ := report
  obtain ⟨hpid, hstatus⟩ := hreport
  have hletter : ((status ++ [' ']).take 1).rdropWhile isPadding = status := by
    simp only [List.mem_cons, List.not_mem_nil, or_false] at hstatus
    rcases hstatus with rfl | rfl | rfl <;> decide
  rw [unpackStatus, if_pos (length_packStatus _), packStatus,
    List.take_left' (length_bigEndian 4 pid), List.drop_left' (length_bigEndian 4 pid), hletter,
    ofBigEndian_bigEndian hpid]

theorem mapM_unpackStatus {reports : List (ℕ × Text)} (hreports : ∀ report ∈ reports,
    IsReport report) : (reports.map packStatus).mapM unpackStatus = some reports := by
  induction reports with
  | nil => rfl
  | cons report rest ih =>
    obtain ⟨hreport, hrest⟩ := List.forall_mem_cons.mp hreports
    rw [List.map_cons, List.mapM_cons, unpackStatus_packStatus hreport, ih hrest]
    rfl

/-- The bytes of reports one after another. -/
def packed (reports : List (ℕ × Text)) : Text := (reports.map packStatus).flatten

theorem length_of_mem_map_packStatus {reports : List (ℕ × Text)} :
    ∀ piece ∈ reports.map packStatus, piece.length = 5 := by
  intro piece hpiece
  obtain ⟨report, -, rfl⟩ := List.mem_map.mp hpiece
  exact length_packStatus report

/-- At most ten reports are read at a time, and they are whole. -/
theorem unpackBuffer_packed {reports : List (ℕ × Text)}
    (hreports : ∀ report ∈ reports, IsReport report) :
    unpackBuffer (packed reports) = some reports ∧
      unpackBuffer ((packed reports).take 50) = some (reports.take 10) ∧
      (packed reports).drop 50 = packed (reports.drop 10) := by
  have hwhole := @length_of_mem_map_packStatus reports
  refine ⟨?_, ?_, ?_⟩
  · rw [unpackBuffer, packed, cutEvery_flatten (by decide) hwhole]
    exact mapM_unpackStatus hreports
  · rw [unpackBuffer, packed, cutEvery_take_flatten (by decide) hwhole 10, ← List.map_take]
    exact mapM_unpackStatus fun report hreport ↦ hreports report (List.mem_of_mem_take hreport)
  · rw [packed, (take_flatten_of_width hwhole 10).2, ← List.map_drop, packed]

/-- The reports that are in the pipe. -/
def unread (state : ProxyState) : List (ℕ × Text) := (unpackBuffer state.pipe).getD []

/-- The pipe holds whole reports, and the children have ids that fit into them. -/
structure Framed (state : ProxyState) : Prop where
  pipe_eq : state.pipe = packed state.unread
  reports : ∀ report ∈ state.unread, IsReport report
  fits : ∀ pid ∈ state.pids, pid < 256 ^ 4

theorem unread_of_packed {state : ProxyState} {reports : List (ℕ × Text)}
    (hpipe : state.pipe = packed reports) (hreports : ∀ report ∈ reports, IsReport report) :
    state.unread = reports := by
  rw [unread, hpipe, (unpackBuffer_packed hreports).1, Option.getD_some]

theorem unread_of_pipe_eq (hpipe : after.pipe = before.pipe) : after.unread = before.unread := by
  rw [unread, unread, hpipe]

/-- At most ten reports are read, from the front of the pipe. -/
theorem unread_of_read {reports : List (ℕ × Text)} (hframed : before.Framed)
    (hreports : unpackBuffer (before.pipe.take 50) = some reports)
    (hpipe : after.pipe = before.pipe.drop 50) :
    reports = before.unread.take 10 ∧ after.unread = before.unread.drop 10 ∧
      after.pipe = packed after.unread := by
  obtain ⟨-, htaken, hleft⟩ := unpackBuffer_packed hframed.reports
  rw [← hframed.pipe_eq] at htaken hleft
  have hrest : after.unread = before.unread.drop 10 :=
    unread_of_packed (hpipe.trans hleft) fun report hreport ↦
      hframed.reports report (List.mem_of_mem_drop hreport)
  exact ⟨Option.some.inj (hreports.symm.trans htaken), hrest, by rw [hrest, hpipe, hleft]⟩

/-- A report is written at the end of the pipe. -/
theorem unread_of_written {child : Child} {status : Text} (hframed : before.Framed)
    (hchild : child ∈ before.children.rows) (hstatus : status ∈ [accepting, busy, idle])
    (hpipe : after.pipe = before.pipe ++ packStatus (child.pid, status)) :
    IsReport (child.pid, status) ∧ after.unread = before.unread ++ [(child.pid, status)] ∧
      after.pipe = packed after.unread := by
  have hreport : IsReport (child.pid, status) :=
    ⟨hframed.fits _ (mem_pids.mpr ⟨child, hchild, rfl⟩), hstatus⟩
  have hafter : after.pipe = packed (before.unread ++ [(child.pid, status)]) := by
    rw [hpipe, packed, List.map_append, List.flatten_append, ← packed, ← hframed.pipe_eq]
    simp
  have hunread : after.unread = before.unread ++ [(child.pid, status)] := by
    refine unread_of_packed hafter fun report hmem ↦ ?_
    rcases List.mem_append.mp hmem with hold | hlast
    · exact hframed.reports report hold
    · rwa [List.mem_singleton.mp hlast]
  exact ⟨hreport, hunread, by rw [hunread, hafter]⟩

/-- The ids of new children fit into a report. -/
theorem fits_of_change (hchange : Change limits before after event)
    (hfits : ∀ pid ∈ before.pids, pid < 256 ^ 4) : ∀ pid ∈ after.pids, pid < 256 ^ 4 := by
  intro pid hpid
  cases hchange with
  | nothing _ _ hchildren _ | read _ _ _ _ hchildren _ | verified _ _ _ _ hchildren _ =>
    rw [pids, hchildren] at hpid
    exact hfits pid hpid
  | reaped _ _ _ _ _ hchildren _ => exact hfits pid ((mem_pids_reaped hchildren pid).mp hpid).1
  | signalled sent _ _ hchildren _ =>
    exact hfits pid ((mem_pids_signalled sent hchildren pid).mp hpid)
  | stepped _ _ _ _ _ hchild _ hstep _ _ hchildren =>
    exact hfits pid ((mem_pids_stepped hchild (childStep_pid hstep) hchildren pid).mp hpid)
  | forked new _ hnew _ _ _ hchildren _ =>
    rcases (mem_pids_forked hchildren pid).mp hpid with hold | rfl
    · exact hfits pid hold
    · exact hnew

theorem Framed.of_change (hframed : before.Framed) (hchange : Change limits before after event) :
    after.Framed := by
  have hfits := fits_of_change hchange hframed.fits
  have hsame (hpipe : after.pipe = before.pipe) : after.Framed := by
    refine ⟨?_, ?_, hfits⟩
    · rw [unread_of_pipe_eq hpipe, hpipe]
      exact hframed.pipe_eq
    · rw [unread_of_pipe_eq hpipe]
      exact hframed.reports
  cases hchange with
  | nothing _ hpipe _ _ | reaped _ _ _ _ hpipe _ _ | verified _ _ _ hpipe _ _
  | forked _ _ _ _ _ hpipe _ _ | signalled _ _ hpipe _ _ => exact hsame hpipe
  | read reports hreports _ hpipe _ _ =>
    obtain ⟨-, hunread, hpacked⟩ := unread_of_read hframed hreports hpipe
    refine ⟨hpacked, fun report hreport ↦ ?_, hfits⟩
    rw [hunread] at hreport
    exact hframed.reports report (List.mem_of_mem_drop hreport)
  | stepped _ _ child stepped written hchild _ hstep _ hpipe _ =>
    rcases childStep_written hstep with ⟨rfl, -⟩ | ⟨status, hstatus, rfl, -⟩
    · exact hsame (hpipe.trans (List.append_nil _))
    · obtain ⟨hnew, hunread, hpacked⟩ := unread_of_written hframed hchild hstatus hpipe
      refine ⟨hpacked, fun report hreport ↦ ?_, hfits⟩
      rw [hunread] at hreport
      rcases List.mem_append.mp hreport with hold | hlast
      · exact hframed.reports report hold
      · rwa [List.mem_singleton.mp hlast]

theorem framed_start (time : ℕ) : (start time).Framed where
  pipe_eq := rfl
  reports := fun _ hreport ↦ absurd hreport List.not_mem_nil
  fits := fun _ hpid ↦ absurd hpid List.not_mem_nil

/-! ### The kids follow the children -/

/-- No report gets lost, and no new child gets the id that a report in the pipe has. -/
def Undisturbed (state : ProxyState) : ProxyEvent → Prop
  | .fork pid => ∀ report ∈ state.unread, report.1 ≠ pid
  | .child _ (.reportAccept through) => through = true
  | .child _ (.reportBusy through) => through = true
  | .child _ (.reportIdle through) => through = true
  | _ => True

instance (state : ProxyState) (event : ProxyEvent) : Decidable (Undisturbed state event) := by
  unfold Undisturbed
  split <;> infer_instance

/-- The parent knows the status of the child once it has read the pipe. -/
def Told (state : ProxyState) (child : Child) : Prop :=
  (state.kids.settled state.unread).find child.pid = some (child.pid, child.told)

/-- What a child has told is where it is. -/
def Shown (child : Child) : Prop := child.point ≠ .exited → child.told = child.point.status

theorem shown_nextRequest {child : Child} (htold : child.told = idle) :
    Shown (nextRequest limits child) := by
  unfold nextRequest
  split_ifs
  · exact fun _ ↦ htold
  · exact fun hlive ↦ absurd rfl hlive

theorem shown_childStep {child stepped : Child} {act : ChildEvent} {written : Text}
    {lock : Option ℕ} {pid : ℕ} (hshown : Shown child)
    (hundisturbed : Undisturbed before (.child pid act))
    (hstep : before.childStep limits child act = some (stepped, written, lock)) :
    Shown stepped := by
  have hat {point : ChildPoint} (hpoint : child.point = point) (hlive : point ≠ .exited) :
      child.told = point.status := by
    subst hpoint
    exact hshown hlive
  cases act with
  | signalled =>
    cases hstep
    exact hshown
  | openLock | interrupted =>
    simp only [childStep, Option.ite_none_right_eq_some, Option.some.injEq] at hstep
    obtain ⟨hpoint, hafter⟩ := hstep
    cases hafter
    exact shown_nextRequest (hat hpoint (by decide))
  | takeLock =>
    simp only [childStep, Option.ite_none_right_eq_some, Option.some.injEq] at hstep
    obtain ⟨⟨hpoint, -⟩, hafter⟩ := hstep
    cases hafter
    have htold := hat hpoint (by decide)
    exact fun _ ↦ htold
  | accept | unlock | serve =>
    simp only [childStep, Option.ite_none_right_eq_some, Option.some.injEq] at hstep
    obtain ⟨hpoint, hafter⟩ := hstep
    cases hafter
    have htold := hat hpoint (by decide)
    exact fun _ ↦ htold
  | exit =>
    simp only [childStep, Option.ite_none_right_eq_some, Option.some.injEq] at hstep
    cases hstep.2
    exact fun hlive ↦ absurd rfl hlive
  | reportAccept through | reportBusy through =>
    simp only [childStep, Option.ite_none_right_eq_some, Option.some.injEq] at hstep
    obtain rfl : through = true := hundisturbed
    cases hstep.2
    exact fun _ ↦ rfl
  | reportIdle through =>
    simp only [childStep, Option.ite_none_right_eq_some, Option.some.injEq] at hstep
    obtain rfl : through = true := hundisturbed
    cases hstep.2
    exact shown_nextRequest rfl

theorem told_of_stepped {act : ChildEvent} {child stepped : Child} {written : Text}
    (hchild : child ∈ before.children.rows)
    (hstep : before.childStep limits child act = some (stepped, written, after.lock))
    (hkids : after.kids = before.kids) (hpipe : after.pipe = before.pipe ++ written)
    (hchildren : after.children = before.children.insertOrReplace stepped)
    (hframed : before.Framed) (htold : ∀ child ∈ before.children.rows, Told before child) :
    ∀ child ∈ after.children.rows, Told after child := by
  intro other hother
  rw [hchildren] at hother
  rw [Told, hkids]
  rcases childStep_written hstep with ⟨rfl, hsame⟩ | ⟨status, hstatus, rfl, hnew⟩
  · rw [unread_of_pipe_eq (hpipe.trans (List.append_nil _))]
    rcases (Table.mem_insertOrReplace _ _ _).mp hother with ⟨hold, -⟩ | rfl
    · exact htold other hold
    · rw [childStep_pid hstep, hsame]
      exact htold child hchild
  · obtain ⟨-, hunread, -⟩ := unread_of_written hframed hchild hstatus hpipe
    rw [hunread, Table.find_settled_concat]
    rcases (Table.mem_insertOrReplace _ _ _).mp hother with ⟨hold, hdifferent⟩ | rfl
    · rw [childStep_pid hstep] at hdifferent
      rw [if_neg hdifferent]
      exact htold other hold
    · rw [if_pos (childStep_pid hstep), childStep_pid hstep, hnew]

theorem told_of_change (hchange : Change limits before after event)
    (hundisturbed : Undisturbed before event) (hframed : before.Framed)
    (htold : ∀ child ∈ before.children.rows, Told before child) :
    ∀ child ∈ after.children.rows, Told after child := by
  cases hchange with
  | nothing hkids hpipe hchildren _ =>
    intro child hchild
    rw [hchildren] at hchild
    rw [Told, hkids, unread_of_pipe_eq hpipe]
    exact htold child hchild
  | read reports hreports hkids hpipe hchildren _ =>
    obtain ⟨rfl, hunread, -⟩ := unread_of_read hframed hreports hpipe
    intro child hchild
    rw [hchildren] at hchild
    rw [Told, hkids, hunread, Table.settled_append, List.take_append_drop]
    exact htold child hchild
  | reaped gone _ _ hkids hpipe hchildren _ =>
    intro child hchild
    rw [hchildren, Table.mem_delete, decide_eq_false_iff_not] at hchild
    rw [Told, hkids, unread_of_pipe_eq hpipe, ← htold child hchild.1]
    refine Table.find_settled_congr (Table.find_delete_of_not fun kid _ hkey ↦ ?_) _
    rw [decide_eq_false_iff_not, hkey]
    exact hchild.2
  | verified missing hmissing hkids hpipe hchildren _ =>
    intro child hchild
    rw [hchildren] at hchild
    rw [Told, hkids, unread_of_pipe_eq hpipe, ← htold child hchild]
    refine Table.find_settled_congr (Table.find_delete_of_not fun kid _ hkey ↦ ?_) _
    rw [decide_eq_false_iff_not, hkey]
    exact hmissing child hchild
  | forked new _ _ hnew hkids hpipe hchildren _ =>
    intro child hchild
    rw [hchildren] at hchild
    rw [Told, hkids, unread_of_pipe_eq hpipe]
    rcases (Table.mem_insertOrReplace _ _ _).mp hchild with ⟨hold, hother⟩ | rfl
    · rw [← htold child hold]
      refine Table.find_settled_congr ?_ _
      rw [Table.find_insertOrReplace, if_neg hother]
    · rw [Table.find_settled_of_not_mem _ hundisturbed, Table.find_insertOrReplace, if_pos rfl]
  | signalled sent hkids hpipe hchildren _ =>
    rw [hchildren]
    refine (signal_keeps sent fun child _ hchild ↦ hchild).1 fun child hchild ↦ ?_
    rw [Told, hkids, unread_of_pipe_eq hpipe]
    exact htold child hchild
  | stepped _ _ child stepped written hchild _ hstep hkids hpipe hchildren =>
    exact told_of_stepped hchild hstep hkids hpipe hchildren hframed htold

theorem shown_of_change (hchange : Change limits before after event)
    (hundisturbed : Undisturbed before event)
    (hshown : ∀ child ∈ before.children.rows, Shown child) :
    ∀ child ∈ after.children.rows, Shown child := by
  cases hchange with
  | nothing _ _ hchildren _ | read _ _ _ _ hchildren _ | verified _ _ _ _ hchildren _ =>
    rw [hchildren]
    exact hshown
  | reaped _ _ _ _ _ hchildren _ =>
    rw [hchildren]
    exact fun child hchild ↦ hshown child ((Table.mem_delete _ _ _).mp hchild).1
  | signalled sent _ _ hchildren _ =>
    rw [hchildren]
    exact (signal_keeps sent fun child _ hchild ↦ hchild).1 hshown
  | forked new _ _ _ _ _ hchildren _ =>
    rw [hchildren]
    intro child hchild
    rcases (Table.mem_insertOrReplace _ _ _).mp hchild with ⟨hold, -⟩ | rfl
    · exact hshown child hold
    · exact fun _ ↦ rfl
  | stepped _ _ child _ _ hchild _ hstep _ _ hchildren =>
    rw [hchildren]
    intro other hother
    rcases (Table.mem_insertOrReplace _ _ _).mp hother with ⟨hold, -⟩ | rfl
    · exact hshown other hold
    · exact shown_childStep (hshown child hchild) hundisturbed hstep

/-- The invariant of the runs in which no report gets lost. -/
structure Followed (state : ProxyState) : Prop where
  framed : state.Framed
  told : ∀ child ∈ state.children.rows, Told state child
  shown : ∀ child ∈ state.children.rows, Shown child

/-- In every interleaving in which no report gets lost and no id comes back too early, the pipe
holds whole reports, and once they are read the kids show for every child that has not ended where
it is: `A` from the report before `accept` to the one after it, `B` while it serves, `I` otherwise.
-/
theorem kids_follow {limits : Limits} {time : ℕ} {events : List ProxyEvent} {state : ProxyState}
    (hrun : Run (guarded (stepsOf (next limits)) Undisturbed) (start time) events state) :
    ∃ reports, unpackBuffer state.pipe = some reports ∧
      ∀ child ∈ state.children.rows, child.point ≠ .exited →
        (child.pid, child.point.status) ∈ (state.kids.settled reports).rows := by
  have hfollowed : Followed state := by
    refine Run.invariant (fun before _ after hstep hbefore ↦ ?_) hrun
      ⟨framed_start time, fun _ hchild ↦ absurd hchild List.not_mem_nil,
        fun _ hchild ↦ absurd hchild List.not_mem_nil⟩
    have hchange := change_of_next hstep.1
    exact ⟨hbefore.framed.of_change hchange,
      told_of_change hchange hstep.2 hbefore.framed hbefore.told,
      shown_of_change hchange hstep.2 hbefore.shown⟩
  refine ⟨state.unread, ?_, fun child hchild hlive ↦ ?_⟩
  · have hwhole := (unpackBuffer_packed hfollowed.framed.reports).1
    rw [← hfollowed.framed.pipe_eq] at hwhole
    exact hwhole
  · rw [← hfollowed.shown child hchild hlive]
    exact ((Table.find_eq_some_iff _ _ _).mp (hfollowed.told child hchild)).1

theorem followed_twoChildren :
    Run (guarded (stepsOf (next {})) Undisturbed) (start 0) twoChildren withTwoChildren :=
  Run.of_foldlM_checked (by decide +kernel)

theorem kids_follow_two : ∃ reports, unpackBuffer withTwoChildren.pipe = some reports ∧
    ∀ child ∈ withTwoChildren.children.rows, child.point ≠ .exited →
      (child.pid, child.point.status) ∈ (withTwoChildren.kids.settled reports).rows :=
  kids_follow followed_twoChildren

end ProxyState

end Ec2Wrappers.Microproxy
