import Ec2Wrappers.Foundations.Retries
import Ec2Wrappers.Foundations.Text
import Mathlib.Tactic.Ring

/-!
# Sending a request of boto

`AWSAuthConnection._mexe` of the vendored boto, through which every request of the wrappers goes. It
sends the request again after a connection that broke and after the statuses 500, 503 and 408, with
a pause that doubles each time, and follows redirects. The exchanges with the service are given: an
answer, whose body may break off while it is read, an exception of `http_exceptions`, or the
user's interrupt. `urlparse` is a parameter; the locations of redirects are taken to be well-formed,
so that it does not raise. There is no proxy. A connection is its host and whether it is secure; the
pool of connections is left out, which may hand out one of other security, as a connection of a
redirect is put back under that of the first request.

`multiExecute_eq_some_iff` is the specification, in terms of `ask`: a redirect uses up no try, and
what is raised in the end is the error of the last answer received, although the exchanges after it
may have broken.
-/

set_option autoImplicit false
set_option relaxedAutoImplicit false

namespace Ec2Wrappers.Aws

open Foundations

/-! ### Exchanges -/

/-- An exception of `http_exceptions`. -/
structure NetworkError where
  exceptionClass : Text
  reason : Text
  deriving DecidableEq, Repr

/-- A response: its status line, its `location` header, and what `read()` gives. -/
structure HttpResponse where
  status : ℕ
  reason : Text
  location : Option Text
  body : Except NetworkError Text
  deriving DecidableEq, Repr

/-- What comes of sending a request once. -/
inductive Exchange
  | answered (response : HttpResponse)
  | broken (error : NetworkError)
  | interrupted
  deriving DecidableEq, Repr

/-- The parts of a location that are used. -/
structure Location where
  scheme : Text
  host : Text
  path : Text
  query : Text
  deriving DecidableEq, Repr

/-- A connection: `is_secure`, `num_retries`, and the `urlparse` of the library. -/
structure AuthConnection where
  isSecure : Bool
  numRetries : ℤ
  urlparse : Text → Location

/-- How often a request may be sent, redirects apart. -/
def AuthConnection.tries (connection : AuthConnection) : ℕ := (connection.numRetries + 1).toNat

/-- Where a request is sent. -/
structure Destination where
  host : Text
  secure : Bool
  path : Text
  deriving DecidableEq, Repr

/-- How `_mexe` ends: it returns a response, raises a `BotoServerError`, the exception of the
network or a `BotoClientError`, or leaves the program. -/
inductive Finish
  | returned (response : HttpResponse)
  | serverError (status : ℕ) (reason : Text) (body : Option Text)
  | raised (error : NetworkError)
  | clientError (reason : Text)
  | exited
  deriving DecidableEq, Repr

/-! ### The loop -/

/-- The variables of the loop, the requests sent so far and the seconds slept. -/
structure Progress where
  i : ℕ
  destination : Destination
  response : Option HttpResponse
  body : Option Text
  error : Option NetworkError
  sent : List Destination
  slept : ℕ
  deriving DecidableEq, Repr

/-- Before the first request. -/
def Progress.start (connection : AuthConnection) (host path : Text) : Progress where
  i := 0
  destination := ⟨host, connection.isSecure, path⟩
  response := none
  body := none
  error := none
  sent := []
  slept := 0

/-- `time.sleep(2 ** i)`, `i += 1`. -/
def Progress.pause (progress : Progress) : Progress :=
  { progress with slept := progress.slept + 2 ^ progress.i, i := progress.i + 1 }

/-- `connection.request(..)`. -/
def Progress.send (progress : Progress) : Progress :=
  { progress with sent := progress.sent ++ [progress.destination] }

/-- The handler of `http_exceptions`. -/
def Progress.reconnect (connection : AuthConnection) (error : NetworkError) (progress : Progress) :
    Progress :=
  { progress with
    error := some error
    destination := { progress.destination with secure := connection.isSecure } }

/-- The target of a redirect. -/
def redirected (connection : AuthConnection) (location : Text) : Destination :=
  let parts := connection.urlparse location
  { host := parts.host
    secure := parts.scheme = "https".toList
    path := if parts.query = [] then parts.path else parts.path ++ '?' :: parts.query }

/-- The statuses after which the request is sent again. -/
def HttpResponse.isTransient (response : HttpResponse) : Bool :=
  response.status = 500 ∨ response.status = 503 ∨ response.status = 408

/-- The location that a response sends the client to. -/
def HttpResponse.redirect? (response : HttpResponse) : Option Text :=
  if response.status < 300 ∨ 400 ≤ response.status then none
  else response.location.filter (· ≠ [])

/-- One pass of the loop: the end, or how it goes on. -/
def Progress.pass (connection : AuthConnection) (progress : Progress) :
    Exchange → Finish ⊕ Progress
  | .answered response =>
    let progress := { progress.send with response := some response }
    if response.isTransient then
      match response.body with
      | .ok body => .inr { progress with body := some body }.pause
      | .error error => .inr (progress.reconnect connection error).pause
    else match response.redirect? with
      | none => .inl (.returned response)
      | some location => .inr { progress with destination := redirected connection location }
  | .broken error => .inr (progress.send.reconnect connection error).pause
  | .interrupted => .inl .exited

/-- What is raised when no try is left. -/
def Progress.giveUp (progress : Progress) : Finish :=
  match progress.response, progress.error with
  | some response, _ => .serverError response.status response.reason progress.body
  | none, some error => .raised error
  | none, none => .clientError "Please report this exception as a Boto Issue!".toList

/-- The end of a request, with the requests sent and the seconds slept. -/
structure Executed where
  finish : Finish
  sent : List Destination
  slept : ℕ
  deriving DecidableEq, Repr

/-- The loop; none while it waits for an exchange. -/
def multiExecuteFrom (connection : AuthConnection) : Progress → List Exchange → Option Executed
  | progress, [] =>
    if progress.i ≤ connection.numRetries then none
    else some ⟨progress.giveUp, progress.sent, progress.slept⟩
  | progress, exchange :: rest =>
    if progress.i ≤ connection.numRetries then
      match progress.pass connection exchange with
      | .inl finish => some ⟨finish, progress.send.sent, progress.slept⟩
      | .inr next => multiExecuteFrom connection next rest
    else some ⟨progress.giveUp, progress.sent, progress.slept⟩

/-- `_mexe`. -/
def multiExecute (connection : AuthConnection) (host path : Text) (exchanges : List Exchange) :
    Option Executed :=
  multiExecuteFrom connection (.start connection host path) exchanges

/-! ### The exchanges of a request -/

/-- What an exchange means to the loop. -/
def Exchange.verdict : Exchange → Verdict
  | .answered response =>
    if response.isTransient then .failed
    else if response.redirect?.isSome then .moved
    else .final
  | .broken _ => .failed
  | .interrupted => .final

/-- The response of an exchange. -/
def Exchange.response? : Exchange → Option HttpResponse
  | .answered response => some response
  | _ => none

/-- The body that the loop has read in an exchange. -/
def Exchange.body? : Exchange → Option Text
  | .answered response => if response.isTransient then response.body.toOption else none
  | _ => none

/-- The exception that the loop has caught in an exchange. -/
def Exchange.error? : Exchange → Option NetworkError
  | .answered response =>
    match response.body with
    | .error error => if response.isTransient then some error else none
    | .ok _ => none
  | .broken error => some error
  | .interrupted => none

/-- Where the request is sent after an exchange. -/
def nextDestination (connection : AuthConnection) (destination : Destination)
    (exchange : Exchange) : Destination :=
  match exchange.error?, exchange.response?.bind HttpResponse.redirect? with
  | some _, _ => { destination with secure := connection.isSecure }
  | none, some location => redirected connection location
  | none, none => destination

/-- Where the requests of some exchanges are sent. -/
def destinations (connection : AuthConnection) (first : Destination) :
    List Exchange → List Destination
  | [] => []
  | exchange :: rest =>
    first :: destinations connection (nextDestination connection first exchange) rest

/-- The last value that some exchanges give. -/
def lastOf {Value : Type} (value? : Exchange → Option Value) (exchanges : List Exchange) :
    Option Value :=
  (exchanges.filterMap value?).getLast?

/-- The error of the last answer, or of the last broken connection when there was no answer. -/
def finalError (exchanges : List Exchange) : Finish :=
  match lastOf Exchange.response? exchanges, lastOf Exchange.error? exchanges with
  | some response, _ =>
    .serverError response.status response.reason (lastOf Exchange.body? exchanges)
  | none, some error => .raised error
  | none, none => .clientError "Please report this exception as a Boto Issue!".toList

/-- What a client that has stopped makes of the exchanges. -/
def executedOf (connection : AuthConnection) (host path : Text) (asked : Asked Exchange) :
    Executed where
  finish := match asked.final with
    | some (.answered response) => .returned response
    | some _ => .exited
    | none => finalError asked.answers
  sent := destinations connection ⟨host, connection.isSecure, path⟩ asked.answers
  slept := 2 ^ (failures Exchange.verdict asked.answers).length - 1

/-- The variables of the loop after some exchanges. -/
structure Records (connection : AuthConnection) (first : Destination) (exchanges : List Exchange)
    (progress : Progress) : Prop where
  i_eq : progress.i = (failures Exchange.verdict exchanges).length
  destination_eq : progress.destination = exchanges.foldl (nextDestination connection) first
  response_eq : progress.response = lastOf Exchange.response? exchanges
  body_eq : progress.body = lastOf Exchange.body? exchanges
  error_eq : progress.error = lastOf Exchange.error? exchanges
  sent_eq : progress.sent = destinations connection first exchanges
  slept_eq : progress.slept = 2 ^ (failures Exchange.verdict exchanges).length - 1

variable {connection : AuthConnection} {first : Destination} {exchanges : List Exchange}
  {progress : Progress} {exchange : Exchange}

theorem lastOf_concat {Value : Type} (value? : Exchange → Option Value) :
    lastOf value? (exchanges ++ [exchange]) = (value? exchange).or (lastOf value? exchanges) := by
  unfold lastOf
  cases hvalue : value? exchange with
  | none => simp [hvalue]
  | some value => simp [hvalue]

theorem destinations_concat : destinations connection first (exchanges ++ [exchange]) =
    destinations connection first exchanges ++
      [exchanges.foldl (nextDestination connection) first] := by
  induction exchanges generalizing first with
  | nil => rfl
  | cons other rest ih => simp [destinations, ih]

theorem failures_concat : failures Exchange.verdict (exchanges ++ [exchange]) =
    failures Exchange.verdict exchanges ++
      if exchange.verdict = .failed then [exchange] else [] := by
  simp [failures, List.filter_cons]

theorem records_start (host path : Text) :
    Records connection ⟨host, connection.isSecure, path⟩ [] (.start connection host path) :=
  ⟨rfl, rfl, rfl, rfl, rfl, rfl, rfl⟩

/-- The loop ends at a final exchange. -/
theorem pass_final (hfinal : exchange.verdict = .final) : progress.pass connection exchange =
    .inl (match exchange with
      | .answered response => .returned response
      | _ => .exited) := by
  cases exchange with
  | answered response =>
    simp only [Exchange.verdict] at hfinal
    split_ifs at hfinal with htransient hmoved
    simp only [Progress.pass, htransient, Option.not_isSome_iff_eq_none.mp hmoved]
    rfl
  | broken error => cases hfinal
  | interrupted => rfl

/-- A status after which the request is sent again is not that of a redirect. -/
theorem redirect?_of_isTransient {response : HttpResponse}
    (htransient : response.isTransient = true) : response.redirect? = none := by
  simp only [HttpResponse.isTransient, decide_eq_true_eq] at htransient
  exact if_pos (.inr (by omega))

/-- The variables after one more exchange, but for the counter and the pauses. -/
structure Notes (connection : AuthConnection) (progress : Progress) (exchange : Exchange)
    (next : Progress) : Prop where
  destination_eq : next.destination = nextDestination connection progress.destination exchange
  response_eq : next.response = exchange.response?.or progress.response
  body_eq : next.body = exchange.body?.or progress.body
  error_eq : next.error = exchange.error?.or progress.error
  sent_eq : next.sent = progress.sent ++ [progress.destination]

theorem records_concat {next : Progress} (hrecords : Records connection first exchanges progress)
    (hnotes : Notes connection progress exchange next)
    (hi : next.i = (failures Exchange.verdict (exchanges ++ [exchange])).length)
    (hslept : next.slept = 2 ^ (failures Exchange.verdict (exchanges ++ [exchange])).length - 1) :
    Records connection first (exchanges ++ [exchange]) next := by
  refine ⟨hi, ?_, ?_, ?_, ?_, ?_, hslept⟩
  · simp [hnotes.destination_eq, hrecords.destination_eq]
  · rw [lastOf_concat, ← hrecords.response_eq, hnotes.response_eq]
  · rw [lastOf_concat, ← hrecords.body_eq, hnotes.body_eq]
  · rw [lastOf_concat, ← hrecords.error_eq, hnotes.error_eq]
  · rw [destinations_concat, ← hrecords.sent_eq, ← hrecords.destination_eq, hnotes.sent_eq]

/-- The exchanges with one that uses up a try. -/
theorem records_pause {next : Progress} (hrecords : Records connection first exchanges progress)
    (hfailed : exchange.verdict = .failed) (hnotes : Notes connection progress exchange next)
    (hi : next.i = progress.i) (hslept : next.slept = progress.slept) :
    Records connection first (exchanges ++ [exchange]) next.pause := by
  have hfailures : (failures Exchange.verdict (exchanges ++ [exchange])).length =
      (failures Exchange.verdict exchanges).length + 1 := by
    rw [failures_concat, if_pos hfailed, List.length_append, List.length_singleton]
  refine records_concat hrecords ⟨hnotes.1, hnotes.2, hnotes.3, hnotes.4, hnotes.5⟩ ?_ ?_
  · rw [hfailures, ← hrecords.i_eq, ← hi, Progress.pause]
  · have hpos := Nat.one_le_two_pow (n := (failures Exchange.verdict exchanges).length)
    rw [hfailures, pow_succ, Progress.pause]
    simp only [hi, hslept, hrecords.i_eq, hrecords.slept_eq]
    omega

/-- The exchanges with a redirect. -/
theorem records_moved {next : Progress} (hrecords : Records connection first exchanges progress)
    (hmoved : exchange.verdict = .moved) (hnotes : Notes connection progress exchange next)
    (hi : next.i = progress.i) (hslept : next.slept = progress.slept) :
    Records connection first (exchanges ++ [exchange]) next := by
  have hfailures : failures Exchange.verdict (exchanges ++ [exchange]) =
      failures Exchange.verdict exchanges := by
    rw [failures_concat, if_neg (by simp [hmoved]), List.append_nil]
  refine records_concat hrecords hnotes ?_ ?_
  · rw [hfailures, hi, hrecords.i_eq]
  · rw [hfailures, hslept, hrecords.slept_eq]

/-- The loop goes on after any other exchange. -/
theorem pass_records (hrecords : Records connection first exchanges progress)
    (hfinal : exchange.verdict ≠ .final) : ∃ next, progress.pass connection exchange = .inr next ∧
      Records connection first (exchanges ++ [exchange]) next := by
  cases exchange with
  | interrupted => exact absurd rfl hfinal
  | broken error => exact ⟨_, rfl, records_pause hrecords rfl ⟨rfl, rfl, rfl, rfl, rfl⟩ rfl rfl⟩
  | answered response =>
    by_cases htransient : response.isTransient = true
    · have hfailed : (Exchange.answered response).verdict = .failed := by
        simp [Exchange.verdict, htransient]
      have hmoved := redirect?_of_isTransient htransient
      cases hbody : response.body with
      | ok body =>
        have hpass : progress.pass connection (.answered response) =
            .inr { progress.send with response := some response, body := some body }.pause := by
          simp only [Progress.pass, htransient, hbody, if_true]
        refine ⟨_, hpass, records_pause hrecords hfailed ⟨?_, rfl, ?_, ?_, rfl⟩ rfl rfl⟩ <;>
          simp [nextDestination, Exchange.error?, Exchange.body?, Exchange.response?, htransient,
            hbody, hmoved, Except.toOption, Progress.send]
      | error error =>
        have hpass : progress.pass connection (.answered response) =
            .inr ({ progress.send with response := some response }.reconnect
              connection error).pause := by
          simp only [Progress.pass, htransient, hbody, if_true]
        refine ⟨_, hpass, records_pause hrecords hfailed ⟨?_, rfl, ?_, ?_, rfl⟩ rfl rfl⟩ <;>
          simp [nextDestination, Exchange.error?, Exchange.body?, htransient, hbody,
            Except.toOption, Progress.send, Progress.reconnect]
    · cases hredirect : response.redirect? with
      | none => exact absurd (by simp [Exchange.verdict, htransient, hredirect]) hfinal
      | some location =>
        have hmoved : (Exchange.answered response).verdict = .moved := by
          simp [Exchange.verdict, htransient, hredirect]
        have hpass : progress.pass connection (.answered response) = .inr { progress.send with
            response := some response, destination := redirected connection location } := by
          simp [Progress.pass, htransient, hredirect]
        refine ⟨_, hpass, records_moved hrecords hmoved ⟨?_, rfl, ?_, ?_, rfl⟩ rfl rfl⟩ <;>
          cases hbody : response.body <;>
            simp [nextDestination, Exchange.error?, Exchange.body?, Exchange.response?, htransient,
              hbody, hredirect, Progress.send]

/-- The end of a loop with no try left. -/
theorem giveUp_eq (hrecords : Records connection first exchanges progress) :
    progress.giveUp = finalError exchanges := by
  rw [Progress.giveUp, finalError, hrecords.response_eq, hrecords.error_eq, hrecords.body_eq]

/-- A loop that gives up. -/
theorem executedOf_none {host path : Text}
    (hrecords : Records connection ⟨host, connection.isSecure, path⟩ exchanges progress) :
    executedOf connection host path ⟨exchanges, none⟩ =
      ⟨progress.giveUp, progress.sent, progress.slept⟩ := by
  rw [executedOf, giveUp_eq hrecords, hrecords.sent_eq, hrecords.slept_eq]

/-- A loop that ends at a final exchange. -/
theorem executedOf_final {host path : Text}
    (hrecords : Records connection ⟨host, connection.isSecure, path⟩ exchanges progress)
    (hfinal : exchange.verdict = .final) :
    executedOf connection host path ⟨exchanges ++ [exchange], some exchange⟩ =
      ⟨match exchange with
        | .answered response => .returned response
        | _ => .exited, progress.send.sent, progress.slept⟩ := by
  rw [executedOf, failures_concat, if_neg (by simp [hfinal]), List.append_nil, destinations_concat,
    ← hrecords.sent_eq, ← hrecords.destination_eq, ← hrecords.slept_eq]
  cases exchange <;> rfl

/-- The loop, from the variables that some exchanges have left, asks for the others. -/
theorem multiExecuteFrom_eq {host path : Text} {before : List Exchange}
    (hrecords : Records connection ⟨host, connection.isSecure, path⟩ before progress)
    (exchanges : List Exchange) : multiExecuteFrom connection progress exchanges =
      (ask Exchange.verdict (connection.numRetries + 1 - progress.i).toNat exchanges).map
        fun asked ↦ executedOf connection host path ⟨before ++ asked.answers, asked.final⟩ := by
  induction exchanges generalizing before progress with
  | nil =>
    rw [multiExecuteFrom]
    split_ifs with hleft
    · obtain ⟨tries, htries⟩ :
          ∃ tries, (connection.numRetries + 1 - progress.i).toNat = tries + 1 :=
        ⟨(connection.numRetries - progress.i).toNat, by omega⟩
      rw [htries]
      rfl
    · have htries : (connection.numRetries + 1 - progress.i).toNat = 0 := by omega
      rw [htries, ask, Option.map_some, List.append_nil, executedOf_none hrecords]
  | cons exchange rest ih =>
    rw [multiExecuteFrom]
    split_ifs with hleft
    · obtain ⟨tries, htries⟩ :
          ∃ tries : ℕ, connection.numRetries + 1 - progress.i = (tries : ℤ) + 1 :=
        ⟨(connection.numRetries - progress.i).toNat, by omega⟩
      have hnow : (connection.numRetries + 1 - progress.i).toNat = tries + 1 := by omega
      rw [hnow, ask]
      cases hverdict : exchange.verdict with
      | final =>
        rw [pass_final hverdict, Option.map_some, executedOf_final hrecords hverdict]
      | failed =>
        have hnot : exchange.verdict ≠ .final := by simp [hverdict]
        obtain ⟨next, hpass, hnext⟩ := pass_records hrecords hnot
        have hlater : (connection.numRetries + 1 - next.i).toNat = tries := by
          rw [hnext.i_eq, failures_concat, if_pos hverdict, List.length_append, ← hrecords.i_eq,
            List.length_singleton]
          omega
        rw [hpass]
        simp only
        rw [ih hnext, hlater, Option.map_map]
        simp [Function.comp_def, Asked.after]
      | moved =>
        have hnot : exchange.verdict ≠ .final := by simp [hverdict]
        obtain ⟨next, hpass, hnext⟩ := pass_records hrecords hnot
        have hlater : (connection.numRetries + 1 - next.i).toNat = tries + 1 := by
          rw [hnext.i_eq, failures_concat, if_neg (by simp [hverdict]), List.append_nil,
            ← hrecords.i_eq]
          exact hnow
        rw [hpass]
        simp only
        rw [ih hnext, hlater, Option.map_map]
        simp [Function.comp_def, Asked.after]
    · have htries : (connection.numRetries + 1 - progress.i).toNat = 0 := by omega
      rw [htries, ask, Option.map_some, List.append_nil, executedOf_none hrecords]

/-- `_mexe` asks with one try more than `num_retries`. -/
theorem multiExecute_eq (connection : AuthConnection) (host path : Text)
    (exchanges : List Exchange) : multiExecute connection host path exchanges =
      (ask Exchange.verdict connection.tries exchanges).map (executedOf connection host path) := by
  rw [multiExecute, multiExecuteFrom_eq (records_start host path)]
  simp [Progress.start, AuthConnection.tries]

/-- A request has ended when the client has stopped on the first exchanges, and only then; what it
has sent, slept and raised are those of `executedOf`. -/
theorem multiExecute_eq_some_iff (connection : AuthConnection) (host path : Text)
    (exchanges : List Exchange) (executed : Executed) :
    multiExecute connection host path exchanges = some executed ↔
      ∃ asked, asked.answers <+: exchanges ∧ Stopped Exchange.verdict connection.tries asked ∧
        executed = executedOf connection host path asked := by
  rw [multiExecute_eq, Option.map_eq_some_iff]
  constructor
  · rintro ⟨asked, hasked, rfl⟩
    exact ⟨asked, (ask_spec hasked).1, (ask_spec hasked).2, rfl⟩
  · rintro ⟨asked, hstart, hstopped, rfl⟩
    exact ⟨asked, ask_eq_some_iff.mpr ⟨hstart, hstopped⟩, rfl⟩

/-- A request has ended after as many exchanges as tries that do not redirect it. -/
theorem exists_executed (connection : AuthConnection) (host path : Text)
    {exchanges : List Exchange}
    (hexchanges : connection.tries ≤ (charged Exchange.verdict exchanges).length) :
    ∃ executed, multiExecute connection host path exchanges = some executed := by
  obtain ⟨asked, hasked⟩ := exists_ask hexchanges
  exact ⟨_, (multiExecute_eq connection host path exchanges).trans (congrArg _ hasked)⟩

theorem length_destinations (first : Destination) (exchanges : List Exchange) :
    (destinations connection first exchanges).length = exchanges.length := by
  induction exchanges generalizing first with
  | nil => rfl
  | cons exchange rest ih => rw [destinations, List.length_cons, ih, List.length_cons]

end Ec2Wrappers.Aws
