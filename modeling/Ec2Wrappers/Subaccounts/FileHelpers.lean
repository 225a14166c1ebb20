import Ec2Wrappers.Foundations.Python

/-!
# Files written as the real user

The wrappers run with the effective user id of their owner. `safe_open_write` and `safe_make_dir`
exchange the real and the effective user id of the process around an `os.open` or an `os.mkdir`, so
that a file belongs to the caller, and exchange them again in a `finally`. The exchange is always
permitted, whoever the two users are (`setreuid_exchange`).

`safe_make_dir` prints its progress message before it exchanges the ids, `safe_open_write` after it
and before the `try`. When that message cannot be printed, the ids stay exchanged, and everything
the process does from then on runs with the wrong privileges. A sequence of calls gives the ids back
after every call exactly when the two ids are equal or no `safe_open_write` of the sequence fails to
print (`givesIdsBack_iff`).
-/

set_option autoImplicit false
set_option relaxedAutoImplicit false

namespace Ec2Wrappers.Subaccounts

open Foundations

/-! ### User ids and files -/

/-- What a process asks the operating system to open or to create. -/
inductive FileRequest
  | openWrite (path : Text) (exclusive : Bool) (mode : ℕ)
  | makeDirectory (path : Text)
  deriving DecidableEq, Repr

/-- Something opened or created, with the effective user id of the process at that moment. -/
structure FileAccess where
  request : FileRequest
  effectiveUid : ℕ
  deriving DecidableEq, Repr

/-- The user ids of a process, the lines it has printed and what it has opened or created. -/
structure Process where
  realUid : ℕ
  effectiveUid : ℕ
  savedUid : ℕ
  printed : List Text
  accesses : List FileAccess
  deriving DecidableEq, Repr

/-- A process that has not printed or opened anything yet. -/
def Process.started (realUid effectiveUid savedUid : ℕ) : Process :=
  ⟨realUid, effectiveUid, savedUid, [], []⟩

/-- Whether the process may set its ids: the superuser may set any, others only permute theirs. -/
def Process.MaySetreuid (process : Process) (realUid effectiveUid : ℕ) : Prop :=
  process.effectiveUid = 0 ∨
    (realUid = process.realUid ∨ realUid = process.effectiveUid) ∧
      (effectiveUid = process.realUid ∨ effectiveUid = process.effectiveUid ∨
        effectiveUid = process.savedUid)

instance (process : Process) (realUid effectiveUid : ℕ) :
    Decidable (process.MaySetreuid realUid effectiveUid) :=
  inferInstanceAs (Decidable (_ ∨ _))

/-- The process with other ids. The saved id follows the effective one. -/
def Process.withUids (process : Process) (realUid effectiveUid : ℕ) : Process :=
  { process with
    realUid := realUid
    effectiveUid := effectiveUid
    savedUid := effectiveUid }

/-- The `errno` of a call that is not permitted. -/
def notPermitted : Text := "EPERM".toList

/-- `os.setreuid`. -/
def setreuid (realUid effectiveUid : ℕ) : Py Process Unit := fun process ↦
  if process.MaySetreuid realUid effectiveUid then
    (.ok (), process.withUids realUid effectiveUid)
  else (.error (.osError notPermitted), process)

/-- `os.getuid`. -/
def getuid : Py Process ℕ := fun process ↦ (.ok process.realUid, process)

/-- `os.geteuid`. -/
def geteuid : Py Process ℕ := fun process ↦ (.ok process.effectiveUid, process)

/-- `print`, which fails where the output is closed or cannot hold the message. -/
def printMessage (outcome : Except PyError Unit) (message : Text) : Py Process Unit := fun process ↦
  match outcome with
  | .ok () => (.ok (), { process with printed := process.printed ++ [message] })
  | .error error => (.error error, process)

/-- How a request ended. An exception can come after the file was opened or created. -/
structure Attempt (Value : Type) where
  result : Except PyError Value
  made : Bool

/-- Pass a request to the operating system. -/
def request {Value : Type} (attempt : Attempt Value) (asked : FileRequest) : Py Process Value :=
  fun process ↦
    (attempt.result,
      if attempt.made then
        { process with accesses := process.accesses ++ [⟨asked, process.effectiveUid⟩] }
      else process)

/-! ### The two helpers -/

/-- How the steps of a `safe_open_write` end: its message, `os.open` and `os.fdopen`. -/
structure OpenOutcomes where
  printed : Except PyError Unit
  opened : Attempt ℕ
  wrapped : Except PyError Unit

/-- How the steps of a `safe_make_dir` end: its message and `os.mkdir`. -/
structure MakeOutcomes where
  printed : Except PyError Unit
  made : Attempt Unit

/-- A file object open for writing. -/
structure FileObject where
  descriptor : ℤ
  deriving DecidableEq, Repr

def writingText : Text := "Writing ".toList

def possiblyOverwritingText : Text := " (possibly overwriting)...".toList

def ifItDoesNotExistText : Text := " (if it doesn't exist)...".toList

def creatingDirectoryText : Text := "Creating directory ".toList

/-- The message of `safe_open_write`. -/
def openMessage (theFile : Text) (mayOverwrite : Bool) : Text :=
  if mayOverwrite then writingText ++ theFile ++ possiblyOverwritingText
  else writingText ++ theFile ++ ifItDoesNotExistText

/-- The `os.open` of `safe_open_write`: without `may_overwrite` it is exclusive. -/
def openRequest (theFile : Text) (mayOverwrite : Bool) : FileRequest :=
  if mayOverwrite then .openWrite theFile false 0o600 else .openWrite theFile true 0o600

/-- The inner `try`: the descriptor, or -1 after an `OSError`. -/
def openDescriptor (opened : Attempt ℕ) (theFile : Text) (mayOverwrite : Bool) : Py Process ℤ :=
  Py.exceptOSError
    (do
      let fd ← request opened (openRequest theFile mayOverwrite)
      return (fd : ℤ))
    fun _ _ ↦ Py.ret (-1)

/-- `os.fdopen(fd, 'w')` for a descriptor that was opened. -/
def fileOf (wrapped : Except PyError Unit) (fd : ℤ) : Py Process (Option FileObject) :=
  if fd ≠ -1 then do
    Py.ofExcept wrapped
    return some ⟨fd⟩
  else return none

/-- `safe_open_write`: the message is printed with the ids already exchanged, outside the `try`. -/
def safeOpenWrite (outcomes : OpenOutcomes) (theFile : Text) (mayOverwrite : Bool) :
    Py Process (Option FileObject) := do
  let realUid ← getuid
  let effectiveUid ← geteuid
  setreuid effectiveUid realUid
  printMessage outcomes.printed (openMessage theFile mayOverwrite)
  let fd ← Py.tryFinally (openDescriptor outcomes.opened theFile mayOverwrite)
    (setreuid realUid effectiveUid)
  fileOf outcomes.wrapped fd

def isDirectoryErrno : Text := "EISDIR".toList

def existsErrno : Text := "EEXIST".toList

/-- The inner `try`: a directory that exists already is no error. -/
def makeDirectory (made : Attempt Unit) (theDir : Text) : Py Process Unit :=
  Py.exceptOSError (request made (.makeDirectory theDir)) fun errno error ↦
    if errno ≠ isDirectoryErrno ∧ errno ≠ existsErrno then Py.raise error else Py.ret ()

/-- `safe_make_dir`: the message is printed before the ids are exchanged. -/
def safeMakeDir (outcomes : MakeOutcomes) (theDir : Text) : Py Process Unit := do
  printMessage outcomes.printed (creatingDirectoryText ++ theDir ++ ifItDoesNotExistText)
  let realUid ← getuid
  let effectiveUid ← geteuid
  setreuid effectiveUid realUid
  Py.tryFinally (makeDirectory outcomes.made theDir) (setreuid realUid effectiveUid)

/-! ### Sequences of calls -/

/-- A call of one of the helpers with the outcomes of its steps. -/
inductive FileCall
  | safeOpenWrite (outcomes : OpenOutcomes) (theFile : Text) (mayOverwrite : Bool)
  | safeMakeDir (outcomes : MakeOutcomes) (theDir : Text)

/-- The process after a call, whether it returned or raised. -/
def FileCall.after (call : FileCall) (process : Process) : Process :=
  match call with
  | .safeOpenWrite outcomes theFile mayOverwrite =>
    (Subaccounts.safeOpenWrite outcomes theFile mayOverwrite process).2
  | .safeMakeDir outcomes theDir => (Subaccounts.safeMakeDir outcomes theDir process).2

/-- The process after some calls. -/
def afterCalls (process : Process) (calls : List FileCall) : Process :=
  calls.foldl (fun process call ↦ call.after process) process

/-- The process has these ids, and all that it opened or created so far was opened or created as
the real user `owner`. -/
structure RunsAs (realUid effectiveUid owner : ℕ) (process : Process) : Prop where
  realUid_eq : process.realUid = realUid
  effectiveUid_eq : process.effectiveUid = effectiveUid
  accesses_as : ∀ access ∈ process.accesses, access.effectiveUid = owner

/-- After each call of a sequence the ids are the initial ones, and everything was opened or created
as the caller. -/
def GivesIdsBack (realUid effectiveUid savedUid : ℕ) (calls : List FileCall) : Prop :=
  ∀ before rest, calls = before ++ rest →
    RunsAs realUid effectiveUid realUid
      (afterCalls (Process.started realUid effectiveUid savedUid) before)

/-- The call is a `safe_open_write` whose message cannot be printed. -/
def FileCall.FailsToPrint : FileCall → Prop
  | .safeOpenWrite outcomes _ _ => ∃ error, outcomes.printed = .error error
  | .safeMakeDir _ _ => False

/-! ### One call -/

theorem afterCalls_append (process : Process) (calls : List FileCall) (call : FileCall) :
    afterCalls process (calls ++ [call]) = call.after (afterCalls process calls) := by
  rw [afterCalls, List.foldl_append]
  rfl

/-- Exchanging the two ids is always permitted. -/
theorem setreuid_exchange (process : Process) :
    setreuid process.effectiveUid process.realUid process =
      (.ok (), process.withUids process.effectiveUid process.realUid) :=
  if_pos (.inr ⟨.inr rfl, .inl rfl⟩)

section Owner

variable {process : Process} {realUid effectiveUid : ℕ}

/-- The exchange turns the ids of a process around and changes nothing else. -/
theorem runsAs_exchanged {owner : ℕ} (hruns : RunsAs realUid effectiveUid owner process) :
    ∃ after, setreuid effectiveUid realUid process = (.ok (), after) ∧
      RunsAs effectiveUid realUid owner after := by
  have hset := setreuid_exchange process
  rw [hruns.realUid_eq, hruns.effectiveUid_eq] at hset
  exact ⟨_, hset, rfl, rfl, hruns.accesses_as⟩

/-- What a process asks for while its effective id is the owner's is opened as the owner. -/
theorem keeps_request {Value : Type} (attempt : Attempt Value) (asked : FileRequest) :
    Py.Keeps (RunsAs effectiveUid realUid realUid) (request attempt asked) := by
  intro process hruns
  unfold request
  cases attempt.made with
  | false => exact hruns
  | true =>
    refine ⟨hruns.realUid_eq, hruns.effectiveUid_eq, fun access haccess ↦ ?_⟩
    rcases List.mem_append.mp haccess with hold | hnew
    · exact hruns.accesses_as access hold
    · rw [List.mem_singleton.mp hnew]
      exact hruns.effectiveUid_eq

theorem keeps_printMessage (outcome : Except PyError Unit) (message : Text) (owner : ℕ) :
    Py.Keeps (RunsAs realUid effectiveUid owner) (printMessage outcome message) := by
  intro process hruns
  cases outcome with
  | ok _ => exact ⟨hruns.realUid_eq, hruns.effectiveUid_eq, hruns.accesses_as⟩
  | error _ => exact hruns

theorem keeps_openDescriptor (opened : Attempt ℕ) (theFile : Text) (mayOverwrite : Bool) :
    Py.Keeps (RunsAs effectiveUid realUid realUid) (openDescriptor opened theFile mayOverwrite) :=
  Py.keeps_exceptOSError
    (Py.keeps_bind (keeps_request opened _) fun _ ↦ Py.keeps_ret _ _) fun _ _ ↦ Py.keeps_ret _ _

theorem keeps_makeDirectory (made : Attempt Unit) (theDir : Text) :
    Py.Keeps (RunsAs effectiveUid realUid realUid) (makeDirectory made theDir) := by
  refine Py.keeps_exceptOSError (keeps_request made _) fun errno error ↦ ?_
  split_ifs with hother
  · exact Py.keeps_raise _ error
  · exact Py.keeps_ret _ _

theorem keeps_fileOf (wrapped : Except PyError Unit) (fd : ℤ) (owner : ℕ) :
    Py.Keeps (RunsAs realUid effectiveUid owner) (fileOf wrapped fd) := by
  unfold fileOf
  split_ifs with hopened
  · exact Py.keeps_bind (Py.keeps_ofExcept _ wrapped) fun _ ↦ Py.keeps_ret _ _
  · exact Py.keeps_ret _ _

/-- The `finally` turns the ids back, however the part under it ended. -/
theorem runsAs_tryFinally {Value : Type} {body : Py Process Value} {owner : ℕ}
    (hbody : Py.Keeps (RunsAs effectiveUid realUid owner) body)
    (hruns : RunsAs effectiveUid realUid owner process) :
    RunsAs realUid effectiveUid owner
      (Py.tryFinally body (setreuid realUid effectiveUid) process).2 := by
  refine Py.holds_tryFinally hbody (fun middle hmiddle ↦ ?_) hruns
  obtain ⟨after, hset, hafter⟩ := runsAs_exchanged hmiddle
  rw [hset]
  exact hafter

/-- `safe_open_write` up to its message: it prints with the ids exchanged. -/
theorem safeOpenWrite_eq {owner : ℕ} (hruns : RunsAs realUid effectiveUid owner process)
    (outcomes : OpenOutcomes) (theFile : Text) (mayOverwrite : Bool) :
    ∃ exchanged, RunsAs effectiveUid realUid owner exchanged ∧
      safeOpenWrite outcomes theFile mayOverwrite process =
        Py.bind (printMessage outcomes.printed (openMessage theFile mayOverwrite))
          (fun _ ↦ Py.bind
            (Py.tryFinally (openDescriptor outcomes.opened theFile mayOverwrite)
              (setreuid realUid effectiveUid))
            fun fd ↦ fileOf outcomes.wrapped fd) exchanged := by
  obtain ⟨exchanged, hset, hexchanged⟩ := runsAs_exchanged hruns
  refine ⟨exchanged, hexchanged, ?_⟩
  rw [safeOpenWrite, Py.bind_eq, Py.run_bind_ok (show getuid process = (.ok realUid, process) by
      rw [getuid, hruns.realUid_eq]), Py.bind_eq,
    Py.run_bind_ok (show geteuid process = (.ok effectiveUid, process) by
      rw [geteuid, hruns.effectiveUid_eq]), Py.bind_eq, Py.run_bind_ok hset]
  rfl

/-- A `safe_open_write` whose message is printed gives the ids back. -/
theorem runsAs_safeOpenWrite (hruns : RunsAs realUid effectiveUid realUid process)
    {outcomes : OpenOutcomes} (hprinted : outcomes.printed = .ok ()) (theFile : Text)
    (mayOverwrite : Bool) :
    RunsAs realUid effectiveUid realUid
      (safeOpenWrite outcomes theFile mayOverwrite process).2 := by
  obtain ⟨exchanged, hexchanged, hrun⟩ := safeOpenWrite_eq hruns outcomes theFile mayOverwrite
  have hmessage := keeps_printMessage outcomes.printed (openMessage theFile mayOverwrite) realUid
    exchanged hexchanged
  rw [hrun, Py.run_bind_ok (show printMessage outcomes.printed _ exchanged = (.ok (), _) by
    rw [hprinted]; rfl)]
  rw [hprinted] at hmessage
  exact Py.holds_bind (runsAs_tryFinally (keeps_openDescriptor _ _ _) hmessage)
    fun fd ↦ keeps_fileOf outcomes.wrapped fd realUid

/-- A `safe_open_write` whose message cannot be printed leaves the ids exchanged. -/
theorem runsAs_safeOpenWrite_unprinted {owner : ℕ}
    (hruns : RunsAs realUid effectiveUid owner process) {outcomes : OpenOutcomes} {error : PyError}
    (hprinted : outcomes.printed = .error error) (theFile : Text) (mayOverwrite : Bool) :
    RunsAs effectiveUid realUid owner
      (safeOpenWrite outcomes theFile mayOverwrite process).2 := by
  obtain ⟨exchanged, hexchanged, hrun⟩ := safeOpenWrite_eq hruns outcomes theFile mayOverwrite
  rw [hrun, Py.run_bind_error (show printMessage outcomes.printed _ exchanged =
    (.error error, exchanged) by rw [hprinted]; rfl)]
  exact hexchanged

/-- A `safe_make_dir` gives the ids back. -/
theorem runsAs_safeMakeDir (hruns : RunsAs realUid effectiveUid realUid process)
    (outcomes : MakeOutcomes) (theDir : Text) :
    RunsAs realUid effectiveUid realUid (safeMakeDir outcomes theDir process).2 := by
  refine Py.keeps_bind (keeps_printMessage _ _ _) (fun _ middle hmiddle ↦ ?_) process hruns
  obtain ⟨exchanged, hset, hexchanged⟩ := runsAs_exchanged hmiddle
  rw [Py.bind_eq, Py.run_bind_ok (show getuid middle = (.ok realUid, middle) by
      rw [getuid, hmiddle.realUid_eq]), Py.bind_eq,
    Py.run_bind_ok (show geteuid middle = (.ok effectiveUid, middle) by
      rw [geteuid, hmiddle.effectiveUid_eq]), Py.bind_eq, Py.run_bind_ok hset]
  exact runsAs_tryFinally (keeps_makeDirectory _ _) hexchanged

/-- A call gives the ids back where they are equal or its message is printed. -/
theorem runsAs_after {call : FileCall} (hruns : RunsAs realUid effectiveUid realUid process)
    (hcall : realUid = effectiveUid ∨ ¬ call.FailsToPrint) :
    RunsAs realUid effectiveUid realUid (call.after process) := by
  cases call with
  | safeMakeDir outcomes theDir => exact runsAs_safeMakeDir hruns outcomes theDir
  | safeOpenWrite outcomes theFile mayOverwrite =>
    cases hprinted : outcomes.printed with
    | ok _ => exact runsAs_safeOpenWrite hruns hprinted theFile mayOverwrite
    | error error =>
      rcases hcall with rfl | hprints
      · exact runsAs_safeOpenWrite_unprinted hruns hprinted theFile mayOverwrite
      · exact absurd ⟨error, hprinted⟩ hprints

/-- A call whose message cannot be printed leaves the ids exchanged. -/
theorem runsAs_after_failsToPrint {call : FileCall} {owner : ℕ}
    (hruns : RunsAs realUid effectiveUid owner process) (hcall : call.FailsToPrint) :
    RunsAs effectiveUid realUid owner (call.after process) := by
  cases call with
  | safeMakeDir _ _ => exact hcall.elim
  | safeOpenWrite outcomes theFile mayOverwrite =>
    obtain ⟨error, hprinted⟩ := hcall
    exact runsAs_safeOpenWrite_unprinted hruns hprinted theFile mayOverwrite

end Owner

/-! ### Every sequence of calls -/

/-- The calls of a sequence give the ids back when each of them does. -/
theorem runsAs_afterCalls {realUid effectiveUid : ℕ} {calls : List FileCall}
    (hcalls : realUid = effectiveUid ∨ ∀ call ∈ calls, ¬ call.FailsToPrint) {process : Process}
    (hruns : RunsAs realUid effectiveUid realUid process) :
    RunsAs realUid effectiveUid realUid (afterCalls process calls) := by
  induction calls generalizing process with
  | nil => exact hruns
  | cons call rest ih =>
    have hcall : realUid = effectiveUid ∨ ¬ call.FailsToPrint :=
      hcalls.imp_right fun hprints ↦ hprints call List.mem_cons_self
    have hrest : realUid = effectiveUid ∨ ∀ other ∈ rest, ¬ other.FailsToPrint :=
      hcalls.imp_right fun hprints other hother ↦ hprints other (List.mem_cons_of_mem call hother)
    exact ih hrest (runsAs_after hruns hcall)

/-- The ids are given back after every call of a sequence exactly when they are equal or no
`safe_open_write` fails to print its message. -/
theorem givesIdsBack_iff (realUid effectiveUid savedUid : ℕ) (calls : List FileCall) :
    GivesIdsBack realUid effectiveUid savedUid calls ↔
      realUid = effectiveUid ∨ ∀ call ∈ calls, ¬ call.FailsToPrint := by
  constructor
  · intro hback
    by_contra hnot
    push Not at hnot
    obtain ⟨hdiffer, call, hmem, hfails⟩ := hnot
    obtain ⟨before, rest, rfl⟩ := List.append_of_mem hmem
    have hbefore := hback before (call :: rest) rfl
    have hafter := hback (before ++ [call]) rest (by rw [List.append_assoc]; rfl)
    rw [afterCalls_append] at hafter
    have hexchanged := runsAs_after_failsToPrint hbefore hfails
    exact hdiffer (hexchanged.effectiveUid_eq.symm.trans hafter.effectiveUid_eq)
  · rintro hcalls before rest rfl
    refine runsAs_afterCalls (hcalls.imp_right fun hprints call hmem ↦
      hprints call (List.mem_append_left rest hmem)) ⟨rfl, rfl, fun access haccess ↦ ?_⟩
    cases haccess

/-- The error of a `print` to a closed pipe. -/
def brokenPipe : PyError := .library "IOError".toList "EPIPE".toList

/-- A `safe_open_write` with the output closed. -/
def unprintedCall : FileCall :=
  .safeOpenWrite ⟨.error brokenPipe, ⟨.ok 3, true⟩, .ok ()⟩ "/home/ada/.boto".toList true

/-- With the output closed, a wrapper that user 1000 runs with the effective id 0 is left with the
real id 0 and the effective id 1000. -/
theorem not_givesIdsBack_unprintedCall : ¬ GivesIdsBack 1000 0 0 [unprintedCall] := by
  intro hback
  have hafter := (hback [unprintedCall] [] rfl).effectiveUid_eq
  revert hafter
  decide +kernel

end Ec2Wrappers.Subaccounts
