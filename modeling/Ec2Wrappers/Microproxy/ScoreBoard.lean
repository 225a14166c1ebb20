import Ec2Wrappers.Foundations.Reports
import Ec2Wrappers.Foundations.Runs

/-!
# The scoreboard engine of the proxy

`HTTP::Proxy::Engine::ScoreBoard` runs the proxy as one parent and several children. A child waits
for the lock file, accepts a connection, gives the lock back and serves the connection; on the way
it tells the parent by reports of five bytes, its process id and a status `A`, `B` or `I`, through
one pipe. The parent keeps the reports in `kids`, reaps the children that have ended, forks new ones
and kills idle ones.

A state is the parent, the pipe, the lock and the children that the kernel still knows, those that
have ended and are not reaped among them. An event is one step of the parent, of a child or of the
world around them, so that a run is any interleaving of their steps. `told` is what a child has last
got through to the parent and `taken` how many connections it has accepted; no step reads them.

The texts that are logged, and `scoreboard`, which only decides what is logged, are left out. A
child may end at any step: it cannot open or lock the file, cannot accept, dies while it serves, or
is killed.
-/

set_option autoImplicit false
set_option relaxedAutoImplicit false

namespace Ec2Wrappers.Microproxy

open Foundations

/-! ### Reports on the pipe -/

/-- `pack "NA", $$, $status`. -/
def packStatus (report : ℕ × Text) : Text :=
  bigEndian 4 report.1 ++ (report.2 ++ [' ']).take 1

/-- What `unpack "A"` strips. -/
def isPadding (c : Char) : Bool := c.isWhitespace || c.toNat = 0

/-- `unpack "NA"` of one piece; nothing for a piece that is cut short. -/
def unpackStatus (piece : Text) : Option (ℕ × Text) :=
  if piece.length = 5 then
    some (ofBigEndian (piece.take 4), (piece.drop 4).rdropWhile isPadding)
  else none

/-- `while ( length $buf ) { … unpack "NA", substr( $buf, 0, 5, "" ) }`. -/
def unpackBuffer (buf : Text) : Option (List (ℕ × Text)) := (cutEvery 5 buf).mapM unpackStatus

def accepting : Text := "A".toList
def busy : Text := "B".toList
def idle : Text := "I".toList

/-! ### The parties -/

/-- The accessors of `%defaults`, and `max_connections` of the proxy, with their defaults. -/
structure Limits where
  startServers : ℕ := 8
  maxClients : ℕ := 16
  maxRequestsPerChild : ℕ := 250
  minSpareServers : ℕ := 4
  maxSpareServers : ℕ := 12
  verifyDelay : ℕ := 30
  maxConnections : ℕ := 0

/-- Where a child is in `_run_child`. -/
inductive ChildPoint
  /-- before `open my $lockfh` -/
  | opening
  /-- in `flock $lockfh, LOCK_EX` -/
  | waiting
  /-- with the lock, before `last unless $proxy->loop()` -/
  | locked
  /-- in `$daemon->accept()` -/
  | accepting
  /-- with a connection, before `flock $lockfh, LOCK_UN` -/
  | accepted
  /-- before the status `B` is written -/
  | unlocked
  /-- in `serve_connections` -/
  | serving
  /-- before the status `I` is written -/
  | served
  /-- ended, and not reaped -/
  | exited
  deriving DecidableEq

/-- A child between `flock LOCK_EX` and `flock LOCK_UN`. -/
def ChildPoint.holdsLock : ChildPoint → Bool
  | .locked | .accepting | .accepted => true
  | _ => false

/-- What a child has told the parent when nothing of it got lost. -/
def ChildPoint.status : ChildPoint → Text
  | .accepting | .accepted | .unlocked => Microproxy.accepting
  | .serving | .served => busy
  | .opening | .waiting | .locked | .exited => idle

structure Child where
  pid : ℕ
  point : ChildPoint
  did : ℕ
  loop : Bool
  told : Text
  taken : ℕ
  deriving DecidableEq

/-- Where the parent is in `start` of the proxy and in `run` and `stop` of the engine. -/
inductive ParentPoint
  /-- `while( $self->loop )` -/
  | looping
  /-- first phase of `run` -/
  | reading
  /-- second phase -/
  | reaping
  /-- third phase -/
  | verifying
  /-- fourth phase -/
  | launching
  /-- `last if $self->max_connections && …` -/
  | counting
  /-- `kill 'INT' => keys %$kids` -/
  | killing
  /-- `while (%$kids)` in `stop` -/
  | stopping
  | stopped
  deriving DecidableEq

structure ProxyState where
  clock : ℕ
  parent : ParentPoint
  loop : Bool
  conn : ℕ
  kids : Table (Prod.fst : ℕ × Text → ℕ)
  verifyLiveKidsTime : ℕ
  lastActiveTime : ℕ
  lastForkTime : ℕ
  pipe : Text
  lock : Option ℕ
  children : Table Child.pid
  deriving DecidableEq

/-- `start`. -/
def ProxyState.start (time : ℕ) : ProxyState where
  clock := time
  parent := .looping
  loop := true
  conn := 0
  kids := .empty
  verifyLiveKidsTime := time
  lastActiveTime := time
  lastForkTime := time
  pipe := []
  lock := none
  children := .empty

/-! ### Events -/

/-- One step of a child. A report gets through or, interrupted by a signal, does not. -/
inductive ChildEvent
  | openLock
  | takeLock
  | interrupted
  | reportAccept (through : Bool)
  | accept
  | unlock
  | reportBusy (through : Bool)
  | serve
  | reportIdle (through : Bool)
  /-- `SIGINT` or `SIGTERM` from elsewhere. -/
  | signalled
  | exit
  deriving DecidableEq

inductive ProxyEvent
  | tick
  /-- `SIGINT` or `SIGTERM` to the parent. -/
  | interrupt
  | testLoop
  | readChanges
  /-- `can_read(1)` is false. -/
  | noChanges
  | reap (pid : ℕ)
  | noneToReap
  /-- The kids that `kill 0` does not find. -/
  | verify (missing : List ℕ)
  | fork (pid : ℕ)
  | cannotFork
  | killIdler (victim : ℕ)
  | noLaunch
  | countConnections
  | killKids
  /-- `waitpid` in `stop` returns a child, `0` or `-1`. -/
  | stopReap (pid : ℕ)
  | stopWait
  | stopNoChild
  | noKids
  | child (pid : ℕ) (event : ChildEvent)
  deriving DecidableEq

namespace ProxyState

variable (limits : Limits) (state : ProxyState)

/-- `@idlers`. -/
def idlers : List ℕ := (state.kids.rows.filter fun kid ↦ kid.2 = idle).map Prod.fst

/-- Not enough idlers or not enough overall, not too many, and not too fast. -/
def launches : Prop :=
  (state.idlers.length < limits.minSpareServers ∨
      state.kids.rows.length < limits.startServers) ∧
    state.kids.rows.length < limits.maxClients ∧ state.lastForkTime < state.clock

/-- Too many idlers, or too many lazy ones, and not too few overall. -/
def kills : Prop :=
  (limits.maxSpareServers < state.idlers.length ∨
      limits.minSpareServers < state.idlers.length ∧
        state.lastActiveTime + limits.verifyDelay < state.clock) ∧
    limits.startServers < state.kids.rows.length

instance : Decidable (state.launches limits) := by unfold launches; infer_instance
instance : Decidable (state.kills limits) := by unfold kills; infer_instance

/-- A signal sets the loop flag of the children that it reaches. -/
def signal (children : Table Child.pid) (pids : List ℕ) : Table Child.pid :=
  pids.foldl (fun children pid ↦
    match children.find pid with
    | some child => children.insertOrReplace { child with loop := false }
    | none => children) children

/-! ### Steps of the parent -/

/-- First phase: at most the first ten changes. -/
def readChanges : Option ProxyState := do
  guard (state.pipe ≠ [])
  let reports ← unpackBuffer (state.pipe.take 50)
  some { state with
    kids := state.kids.settled reports
    pipe := state.pipe.drop 50
    lastActiveTime := state.clock
    parent := .reaping }

/-- The child has ended, and `waitpid` returns it. -/
def ended (pid : ℕ) : Prop := ∃ child ∈ state.children.rows, child.pid = pid ∧ child.point = .exited

instance (pid : ℕ) : Decidable (state.ended pid) := by unfold ended; infer_instance

/-- `$proxy->{conn}++` and `delete $kids->{$kid}` for a child that `waitpid` returned. -/
def reap (pid : ℕ) : Option ProxyState :=
  if state.ended pid then
    some { state with
      conn := state.conn + 1
      kids := state.kids.delete fun kid ↦ kid.1 = pid
      children := state.children.delete fun child ↦ child.pid = pid }
  else none

/-- Third phase: the kids that do not exist are deleted. `kill 0` finds every child; another process
may have the id of a kid that is no child. -/
def verifyLiveKids (missing : List ℕ) : Option ProxyState :=
  if state.verifyLiveKidsTime + limits.verifyDelay < state.clock then
    if ∀ child ∈ state.children.rows, child.pid ∉ missing then
      some { state with
        kids := state.kids.delete fun kid ↦ kid.1 ∈ missing
        verifyLiveKidsTime := state.clock
        parent := .launching }
    else none
  else if missing = [] then some { state with parent := .launching }
  else none

/-- Fourth phase: `fork` succeeds. The kernel gives an id that no child has. -/
def fork (pid : ℕ) : Option ProxyState :=
  if state.launches limits ∧ 0 < pid ∧ pid < 256 ^ 4 ∧
      ∀ child ∈ state.children.rows, child.pid ≠ pid then
    some { state with
      kids := state.kids.insertOrReplace (pid, idle)
      lastForkTime := state.clock
      children := state.children.insertOrReplace ⟨pid, .opening, 0, state.loop, idle, 0⟩
      parent := .counting }
  else none

/-- Fourth phase: one of the idlers is killed. -/
def killIdler (victim : ℕ) : Option ProxyState :=
  if ¬ state.launches limits ∧ state.kills limits ∧ victim ∈ state.idlers then
    some { state with
      children := signal state.children [victim]
      lastActiveTime := state.clock
      parent := .counting }
  else none

/-! ### Steps of a child -/

/-- `while ( ++$did <= $self->max_requests_per_child() )`. -/
def nextRequest (child : Child) : Child :=
  if child.did + 1 ≤ limits.maxRequestsPerChild then
    { child with did := child.did + 1, point := .waiting }
  else { child with did := child.did + 1, point := .exited }

/-- `5 == syswrite $status_write, pack "NA", $$, $status`. -/
def report (child : Child) (status : Text) (through : Bool) : Child × Text :=
  if through then ({ child with told := status }, packStatus (child.pid, status)) else (child, [])

/-- The child after the step, what it writes to the pipe, and the lock. -/
def childStep (child : Child) : ChildEvent → Option (Child × Text × Option ℕ)
  | .openLock =>
    if child.point = .opening then some (nextRequest limits child, [], state.lock) else none
  | .takeLock =>
    if child.point = .waiting ∧ state.lock = none then
      some ({ child with point := .locked }, [], some child.pid)
    else none
  | .interrupted =>
    if child.point = .waiting then some (nextRequest limits child, [], state.lock) else none
  | .reportAccept through =>
    if child.point = .locked ∧ child.loop then
      let (child, written) := report child accepting through
      some ({ child with point := .accepting }, written, state.lock)
    else none
  | .accept =>
    if child.point = .accepting then
      some ({ child with point := .accepted, taken := child.taken + 1 }, [], state.lock)
    else none
  | .unlock =>
    if child.point = .accepted then some ({ child with point := .unlocked }, [], none) else none
  | .reportBusy through =>
    if child.point = .unlocked then
      let (child, written) := report child busy through
      some ({ child with point := .serving }, written, state.lock)
    else none
  | .serve =>
    if child.point = .serving then some ({ child with point := .served }, [], state.lock) else none
  | .reportIdle through =>
    if child.point = .served then
      let (child, written) := report child idle through
      some (nextRequest limits child, written, state.lock)
    else none
  | .signalled => some ({ child with loop := false }, [], state.lock)
  | .exit =>
    if child.point ≠ .exited then
      some ({ child with point := .exited }, [],
        if state.lock = some child.pid then none else state.lock)
    else none

/-! ### Steps of the system -/

/-- The state after an event, where it is possible. -/
def next : ProxyEvent → Option ProxyState
  | .tick => some { state with clock := state.clock + 1 }
  | .interrupt => some { state with loop := false }
  | .testLoop =>
    if state.parent = .looping then
      some { state with parent := if state.loop then .reading else .killing }
    else none
  | .readChanges => if state.parent = .reading then state.readChanges else none
  | .noChanges =>
    if state.parent = .reading then some { state with parent := .reaping } else none
  | .reap pid => if state.parent = .reaping then state.reap pid else none
  | .noneToReap =>
    if state.parent = .reaping ∧ ∀ child ∈ state.children.rows, child.point ≠ .exited then
      some { state with parent := .verifying }
    else none
  | .verify missing =>
    if state.parent = .verifying then state.verifyLiveKids limits missing else none
  | .fork pid => if state.parent = .launching then state.fork limits pid else none
  | .cannotFork =>
    if state.parent = .launching ∧ state.launches limits then
      some { state with parent := .counting }
    else none
  | .killIdler victim =>
    if state.parent = .launching then state.killIdler limits victim else none
  | .noLaunch =>
    if state.parent = .launching ∧ ¬ state.launches limits ∧ ¬ state.kills limits then
      some { state with parent := .counting }
    else none
  | .countConnections =>
    if state.parent = .counting then
      some { state with
        parent := if limits.maxConnections ≠ 0 ∧ limits.maxConnections ≤ state.conn then .killing
          else .looping }
    else none
  | .killKids =>
    if state.parent = .killing then
      some { state with
        children := signal state.children (state.kids.rows.map Prod.fst)
        parent := .stopping }
    else none
  | .stopReap pid =>
    if state.parent = .stopping ∧ state.kids.rows ≠ [] then state.reap pid else none
  | .stopWait =>
    if state.parent = .stopping ∧ state.kids.rows ≠ [] ∧ state.children.rows ≠ [] ∧
        ∀ child ∈ state.children.rows, child.point ≠ .exited then
      some state
    else none
  -- `waitpid` returns `-1`, which is counted as a connection and deletes no kid
  | .stopNoChild =>
    if state.parent = .stopping ∧ state.kids.rows ≠ [] ∧ state.children.rows = [] then
      some { state with conn := state.conn + 1 }
    else none
  | .noKids =>
    if state.parent = .stopping ∧ state.kids.rows = [] then
      some { state with parent := .stopped }
    else none
  | .child pid event => do
    let child ← state.children.find pid
    let (child, written, lock) ← state.childStep limits child event
    some { state with
      children := state.children.insertOrReplace child
      pipe := state.pipe ++ written
      lock := lock }

end ProxyState

end Ec2Wrappers.Microproxy
