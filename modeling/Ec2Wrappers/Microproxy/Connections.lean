import Ec2Wrappers.Foundations.ChunkedCoding
import Ec2Wrappers.Microproxy.FilterStack

/-!
# The replies on a connection

`serve_connections` answers the requests of one connection, one after another, and prints its
replies on the one socket. An exchange is a request with what comes of it: an answer of the proxy's
own, or a response of the origin server, whose body arrives in pieces; `exchangeBytes` is what is
printed for it, and `serve` the loop.

A client cuts the replies apart by their heads and by the chunked coding (`readReplies`). On a
connection of HTTP/1.1 it reads back one reply for each request, with the head as it was printed
and the body as the filters made it (`replies_read_back`). What is needed of an exchange for that is
`Readable`: a reply to `HEAD` is one of the origin server's, without content, and no body filter has
died, for which the proxy prints a second reply.

How the status line and the headers are printed is `HTTP::Daemon` and `HTTP::Headers`: `lines` is
what they print, by whether `Transfer-Encoding: chunked` and `Connection: close` were pushed. The
`CONNECT` method, which ends the replies, and the `ftp` and `gopher` schemes are left out.
-/

set_option autoImplicit false
set_option relaxedAutoImplicit false

namespace Ec2Wrappers.Microproxy

open Foundations

/-! ### What is printed -/

/-- The protocol of the client: `antique_client`, or whether `proto_ge("HTTP/1.1")`. -/
inductive Version
  | antique
  | http10
  | http11
  deriving DecidableEq

inductive Answer (Message : Type)
  /-- `goto SEND` with a response of the proxy's own -/
  | own (content : Text)
  /-- a response of the origin server, or of `LWP` in its place -/
  | origin (message : Message) (pieces : List Text) (content : Text)

structure Exchange (Message : Type) where
  isHead : Bool
  version : Version
  code : Text
  lines : Bool → Bool → List Text
  answer : Answer Message
  /-- `X-Died`: the lines of the reply and its content. -/
  died : Option ((Bool → Bool → List Text) × Text) := none

/-- `$code =~ /^(1\d\d|[23]04)$/`. -/
def noContent : Text → Bool
  | ['1', a, b] => a.isDigit && b.isDigit
  | code => code = "204".toList || code = "304".toList

/-- `_send_response_headers`: `$last`, `$chunked`, and what is printed. `headKnown` is whether the
response has a request whose method is `HEAD`. -/
def sendResponseHeaders (maxRequests served : ℕ) (version : Version) (headKnown : Bool)
    (code : Text) (lines : Bool → Bool → List Text) : Bool × Bool × Text :=
  match version with
  | .antique => (true, false, [])
  | .http10 =>
    if noContent code || headKnown then (false, false, writeHead (lines false false))
    else (true, false, writeHead (lines false false))
  | .http11 =>
    if noContent code || headKnown then (false, false, writeHead (lines false false))
    else (false, true, writeHead (lines true (maxRequests ≤ served)))

/-- `printf $conn "%x$CRLF%s$CRLF"`, or `print $conn $data`. -/
def printData (chunked : Bool) (data : Text) : Text :=
  if chunked then if data = [] then [] else writeChunk data else data

/-- `print $conn "0$CRLF$CRLF" if $chunked`. -/
def printLastChunk (chunked : Bool) : Text := if chunked then lastChunk else []

/-- The block at `SEND`, for a response that was not sent through the callback. -/
def sendWhole (maxRequests served : ℕ) (version : Version) (headKnown : Bool) (code : Text)
    (lines : Bool → Bool → List Text) (content : Text) : Bool × Text :=
  let (last, chunked, head) :=
    sendResponseHeaders maxRequests served version headKnown code lines
  let content := if version ≠ .antique ∧ noContent code then [] else content
  (last, head ++ (printData chunked content ++ printLastChunk chunked))

section Serving

open FilterStack

variable {Message : Type}

/-- One turn of the loop: the response stack, `$last`, and what is printed. -/
def exchangeBytes (maxRequests served : ℕ) (stack : FilterStack Message)
    (exchange : Exchange Message) : FilterStack Message × Bool × Text :=
  match exchange.answer with
  | .own content =>
    let (last, reply) := sendWhole maxRequests served exchange.version false exchange.code
      exchange.lines content
    (stack, last, reply)
  | .origin message pieces content =>
    let (stack, delivery) := stack.forward message pieces
    let (last, printed) :=
      if pieces = [] then (false, delivery.last)
      else
        let (last, chunked, head) := sendResponseHeaders maxRequests served exchange.version
          exchange.isHead exchange.code exchange.lines
        (last, head ++ (delivery.pieces.flatMap (printData chunked) ++
          (printData chunked delivery.last ++ printLastChunk chunked)))
    match exchange.died with
    | some (lines, died) =>
      let (last, reply) := sendWhole maxRequests served exchange.version false "500".toList lines
        died
      (stack, last, printed ++ reply)
    | none =>
      if pieces = [] then
        let (last, reply) := sendWhole maxRequests served exchange.version exchange.isHead
          exchange.code exchange.lines content
        (stack, last, printed ++ reply)
      else (stack, last, printed)

/-- The loop over the requests of one connection, of which so many were served. -/
def serve (maxRequests : ℕ) (served : ℕ) (stack : FilterStack Message) :
    List (Exchange Message) → Text
  | [] => []
  | exchange :: rest =>
    let (stack, last, printed) := exchangeBytes maxRequests (served + 1) stack exchange
    if last || maxRequests ≤ served + 1 then printed
    else printed ++ serve maxRequests (served + 1) stack rest

/-! ### What a client reads -/

structure Reply where
  lines : List Text
  body : Text
  deriving DecidableEq

/-- The code in the status line, between the first blank and the second one. -/
def statusCode (lines : List Text) : Text :=
  (((lines.headD []).dropWhile (· ≠ ' ')).drop 1).takeWhile (· ≠ ' ')

def isChunkedLine (line : Text) : Bool :=
  line.map Char.toLower = "transfer-encoding: chunked".toList

/-- A reply, by its head, and what follows it. -/
def readReply (isHead : Bool) (text : Text) : Option (Reply × Text) := do
  let (lines, rest) ← readHead text
  if isHead || noContent (statusCode lines) then some (⟨lines, []⟩, rest)
  else if lines.any isChunkedLine then
    let (body, rest) ← readChunked rest
    some (⟨lines, body⟩, rest)
  -- the body goes on to the end of the connection
  else some (⟨lines, rest⟩, [])

/-- One reply for each request, by whether its method is `HEAD`. -/
def readReplies : List Bool → Text → Option (List Reply × Text)
  | [], text => some ([], text)
  | isHead :: requests, text => do
    let (reply, text) ← readReply isHead text
    let (replies, text) ← readReplies requests text
    some (reply :: replies, text)

/-! ### One reply -/

/-- A response without content, or to a `HEAD` request, ends with its head. -/
theorem readReply_head {isHead : Bool} {lines : List Text} (hlines : ∀ line ∈ lines, IsLine line)
    (hempty : (isHead || noContent (statusCode lines)) = true) (rest : Text) :
    readReply isHead (writeHead lines ++ rest) = some (⟨lines, []⟩, rest) := by
  simp only [readReply, readHead_writeHead hlines, Option.bind_eq_bind, Option.bind_some,
    if_pos hempty]

/-- The pieces for which a chunk is printed. -/
def printed (pieces : List Text) : List Text := pieces.filter (· ≠ [])

theorem flatMap_printData (pieces : List Text) :
    pieces.flatMap (printData true) = (printed pieces).flatMap writeChunk ∧
      (printed pieces).flatten = pieces.flatten := by
  induction pieces with
  | nil => exact ⟨rfl, rfl⟩
  | cons piece rest ih =>
    obtain ⟨hprinted, hflatten⟩ := ih
    by_cases hempty : piece = []
    · have hskip : printed (piece :: rest) = printed rest := by simp [printed, hempty]
      rw [hskip, List.flatMap_cons, List.flatten_cons, hprinted, hflatten, hempty]
      exact ⟨rfl, rfl⟩
    · have hkeep : printed (piece :: rest) = piece :: printed rest := by simp [printed, hempty]
      have hchunk : printData true piece = writeChunk piece := if_neg hempty
      rw [hkeep, List.flatMap_cons, List.flatMap_cons, List.flatten_cons, List.flatten_cons,
        hprinted, hflatten, hchunk]
      exact ⟨rfl, rfl⟩

/-- A chunked reply is cut where it ends. -/
theorem readReply_chunked {isHead : Bool} {lines : List Text}
    (hlines : ∀ line ∈ lines, IsLine line)
    (hbody : (isHead || noContent (statusCode lines)) = false)
    (hchunked : lines.any isChunkedLine = true) (pieces : List Text) (last rest : Text) :
    readReply isHead (writeHead lines ++ (pieces.flatMap (printData true) ++
        (printData true last ++ printLastChunk true)) ++ rest) =
      some (⟨lines, pieces.flatten ++ last⟩, rest) := by
  obtain ⟨hprinted, hflatten⟩ := flatMap_printData (pieces ++ [last])
  have hbytes : writeHead lines ++ (pieces.flatMap (printData true) ++
        (printData true last ++ printLastChunk true)) ++ rest =
      writeHead lines ++ ((printed (pieces ++ [last])).flatMap writeChunk ++
        (lastChunk ++ rest)) := by
    rw [← hprinted]
    simp [printLastChunk]
  have hpieces : ∀ piece ∈ printed (pieces ++ [last]), piece ≠ [] := fun piece hpiece ↦ by
    simpa using (List.mem_filter.mp hpiece).2
  have hread := readChunked_writeChunks hpieces rest
  rw [hflatten, List.flatten_append, List.flatten_singleton] at hread
  rw [hbytes]
  simp only [readReply, readHead_writeHead hlines, Option.bind_eq_bind, Option.bind_some, hbody,
    hchunked, hread]
  rfl

/-! ### One exchange -/

/-- An exchange of HTTP/1.1 whose reply a client can cut off. -/
structure Readable (exchange : Exchange Message) : Prop where
  version : exchange.version = .http11
  lines : ∀ chunked close, ∀ line ∈ exchange.lines chunked close, IsLine line
  status : ∀ chunked close, statusCode (exchange.lines chunked close) = exchange.code
  coding : ∀ chunked close, (exchange.lines chunked close).any isChunkedLine = chunked
  head : exchange.isHead = true → ∃ message, exchange.answer = .origin message [] []
  /-- `LWP` calls the callback only for a body. -/
  callback : noContent exchange.code = true → ∀ message pieces content,
    exchange.answer = .origin message pieces content → pieces = []
  died : exchange.died = none

/-- Whether the reply has a body. -/
def Exchange.hasBody (exchange : Exchange Message) : Bool :=
  !(exchange.isHead || noContent exchange.code)

/-- The reply that the client is meant to get: the head as it is printed, and the body as the
filters that are selected make it. -/
def replyFor (slots : List (Slot Message)) (meanings : List (Text → Text)) (maxRequests : ℕ)
    (stale : Option Message) (served : ℕ) (exchange : Exchange Message) : Reply where
  lines := exchange.lines exchange.hasBody (exchange.hasBody && maxRequests ≤ served)
  body :=
    if exchange.hasBody then
      match exchange.answer with
      | .own content => content
      | .origin _ [] content => content
      | .origin message pieces _ =>
        meaningFor (some (stale.getD message)) slots meanings pieces.flatten
    else []

/-- The message whose filters stay selected. -/
def staleAfter (stale : Option Message) : Answer Message → Option Message
  | .own _ => stale
  | .origin message [] _ => some message
  | .origin _ _ _ => none

section Exchange

variable {exchange : Exchange Message} {maxRequests served : ℕ}

theorem hasBody_eq_true_iff : exchange.hasBody = true ↔
    exchange.isHead = false ∧ noContent exchange.code = false := by
  rw [Exchange.hasBody, Bool.not_eq_true', Bool.or_eq_false_iff]

/-- What `_send_response_headers` decides and prints. -/
theorem sendResponseHeaders_eq (hreadable : Readable exchange) :
    sendResponseHeaders maxRequests served exchange.version exchange.isHead exchange.code
        exchange.lines =
      (false, exchange.hasBody, writeHead
        (exchange.lines exchange.hasBody (exchange.hasBody && maxRequests ≤ served))) := by
  rw [sendResponseHeaders.eq_def, hreadable.version, Exchange.hasBody, Bool.or_comm]
  cases exchange.isHead || noContent exchange.code <;> rfl

/-- A reply that ends with its head. -/
theorem readReply_bodyless (hreadable : Readable exchange) (hbody : exchange.hasBody = false)
    (rest : Text) :
    readReply exchange.isHead (writeHead (exchange.lines false false) ++ rest) =
      some (⟨exchange.lines false false, []⟩, rest) := by
  refine readReply_head (hreadable.lines false false) ?_ rest
  rw [Exchange.hasBody, Bool.not_eq_false'] at hbody
  rw [hreadable.status]
  exact hbody

/-- A reply with a body. -/
theorem readReply_body (hreadable : Readable exchange) (hbody : exchange.hasBody = true)
    (close : Bool) (pieces : List Text) (last rest : Text) :
    readReply exchange.isHead (writeHead (exchange.lines true close) ++
        (pieces.flatMap (printData true) ++ (printData true last ++ printLastChunk true)) ++ rest) =
      some (⟨exchange.lines true close, pieces.flatten ++ last⟩, rest) := by
  refine readReply_chunked (hreadable.lines true close) ?_ (hreadable.coding true close) _ _ _
  rw [hreadable.status]
  simpa [Exchange.hasBody] using hbody

/-- The block at `SEND`, as a client reads it. -/
theorem readReply_sendWhole (hreadable : Readable exchange) {content : Text}
    (hcontent : exchange.isHead = true → content = []) (rest : Text) :
    (sendWhole maxRequests served exchange.version exchange.isHead exchange.code exchange.lines
        content).1 = false ∧
      readReply exchange.isHead ((sendWhole maxRequests served exchange.version exchange.isHead
          exchange.code exchange.lines content).2 ++ rest) =
        some (⟨exchange.lines exchange.hasBody (exchange.hasBody && maxRequests ≤ served),
          if exchange.hasBody then content else []⟩, rest) := by
  simp only [sendWhole, sendResponseHeaders_eq hreadable]
  refine ⟨trivial, ?_⟩
  cases hbody : exchange.hasBody with
  | true =>
    have hsome : noContent exchange.code = false := (hasBody_eq_true_iff.mp hbody).2
    have hread := readReply_body hreadable hbody (decide (maxRequests ≤ served)) [] content rest
    simpa [hsome] using hread
  | false =>
    have hempty : (if exchange.version ≠ .antique ∧ noContent exchange.code then [] else content) =
        [] := by
      split_ifs with hno
      · rfl
      · refine hcontent ?_
        have hsome : noContent exchange.code = false := by simpa [hreadable.version] using hno
        simpa [Exchange.hasBody, hsome] using hbody
    have hread := readReply_bodyless hreadable hbody rest
    rw [hempty]
    simpa [printData, printLastChunk] using hread

section Turn

variable {slots : List (Slot Message)} {meanings : List (Text → Text)} {stale : Option Message}
  {stack : FilterStack Message}

/-- An answer of the proxy's own leaves the stack alone. -/
theorem readReply_own (hreadable : Readable exchange) {content : Text}
    (hanswer : exchange.answer = .own content) (hbetween : Between slots meanings stale stack)
    (rest : Text) :
    (exchangeBytes maxRequests served stack exchange).2.1 = false ∧
      readReply exchange.isHead ((exchangeBytes maxRequests served stack exchange).2.2 ++ rest) =
        some (replyFor slots meanings maxRequests stale served exchange, rest) ∧
      Between slots meanings (staleAfter stale exchange.answer)
        (exchangeBytes maxRequests served stack exchange).1 := by
  have hnotHead : exchange.isHead = false := by
    rw [← Bool.not_eq_true]
    intro hhead
    obtain ⟨message, horigin⟩ := hreadable.head hhead
    exact absurd (hanswer.symm.trans horigin) (by simp)
  obtain ⟨hlast, hread⟩ := @readReply_sendWhole _ exchange maxRequests served hreadable content
    (fun hhead ↦ absurd hhead (by simp [hnotHead])) rest
  rw [hnotHead] at hlast hread
  simp only [exchangeBytes, hanswer, replyFor, staleAfter]
  rw [hnotHead]
  exact ⟨hlast, hread, hbetween⟩

/-- A response without a body is sent as a whole, after a last pass that gives nothing. -/
theorem readReply_uncalled (hreadable : Readable exchange) {message : Message} {content : Text}
    (hanswer : exchange.answer = .origin message [] content)
    (hbetween : Between slots meanings stale stack)
    (hempty : meaningFor stale slots meanings [] = []) (rest : Text) :
    (exchangeBytes maxRequests served stack exchange).2.1 = false ∧
      readReply exchange.isHead ((exchangeBytes maxRequests served stack exchange).2.2 ++ rest) =
        some (replyFor slots meanings maxRequests stale served exchange, rest) ∧
      Between slots meanings (staleAfter stale exchange.answer)
        (exchangeBytes maxRequests served stack exchange).1 := by
  obtain ⟨hbody, hafter⟩ := hbetween.forward message []
  have hlastPass : (stack.forward message []).2.last = [] := hbody.trans hempty
  have hcontent : exchange.isHead = true → content = [] := by
    intro hhead
    obtain ⟨other, horigin⟩ := hreadable.head hhead
    rw [hanswer, Answer.origin.injEq] at horigin
    exact horigin.2.2
  obtain ⟨hlast, hread⟩ :=
    @readReply_sendWhole _ exchange maxRequests served hreadable content hcontent rest
  simp only [exchangeBytes, hanswer, hreadable.died, replyFor, staleAfter, if_pos, hlastPass,
    List.nil_append]
  exact ⟨hlast, hread, hafter⟩

/-- A response with a body is sent through the callback. -/
theorem readReply_called (hreadable : Readable exchange) {message : Message} {piece : Text}
    {pieces : List Text} {content : Text}
    (hanswer : exchange.answer = .origin message (piece :: pieces) content)
    (hbetween : Between slots meanings stale stack) (rest : Text) :
    (exchangeBytes maxRequests served stack exchange).2.1 = false ∧
      readReply exchange.isHead ((exchangeBytes maxRequests served stack exchange).2.2 ++ rest) =
        some (replyFor slots meanings maxRequests stale served exchange, rest) ∧
      Between slots meanings (staleAfter stale exchange.answer)
        (exchangeBytes maxRequests served stack exchange).1 := by
  obtain ⟨hbody, hafter⟩ := hbetween.forward message (piece :: pieces)
  have hhas : exchange.hasBody = true := by
    refine hasBody_eq_true_iff.mpr ⟨?_, ?_⟩
    · rw [← Bool.not_eq_true]
      intro hhead
      obtain ⟨other, horigin⟩ := hreadable.head hhead
      exact absurd (hanswer.symm.trans horigin) (by simp)
    · rw [← Bool.not_eq_true]
      exact fun hno ↦ absurd (hreadable.callback hno _ _ _ hanswer) (List.cons_ne_nil _ _)
  have hread := readReply_body hreadable hhas (decide (maxRequests ≤ served))
    (stack.forward message (piece :: pieces)).2.pieces
    (stack.forward message (piece :: pieces)).2.last rest
  simp only [exchangeBytes, hanswer, hreadable.died, replyFor, staleAfter,
    sendResponseHeaders_eq hreadable, hhas]
  simp only [List.cons_ne_nil, if_false, if_true, Bool.true_and] at hbody hafter ⊢
  refine ⟨trivial, ?_, hafter⟩
  rw [hread, ← hbody]
  rfl

/-- One turn of the loop: the client reads the reply that it is meant to get. -/
theorem readReply_exchangeBytes (hreadable : Readable exchange)
    (hbetween : Between slots meanings stale stack)
    (hempty : meaningFor stale slots meanings [] = []) (rest : Text) :
    (exchangeBytes maxRequests served stack exchange).2.1 = false ∧
      readReply exchange.isHead ((exchangeBytes maxRequests served stack exchange).2.2 ++ rest) =
        some (replyFor slots meanings maxRequests stale served exchange, rest) ∧
      Between slots meanings (staleAfter stale exchange.answer)
        (exchangeBytes maxRequests served stack exchange).1 := by
  cases hanswer : exchange.answer with
  | own content => exact hanswer ▸ readReply_own hreadable hanswer hbetween rest
  | origin message pieces content =>
    cases pieces with
    | nil => exact hanswer ▸ readReply_uncalled hreadable hanswer hbetween hempty rest
    | cons piece pieces => exact hanswer ▸ readReply_called hreadable hanswer hbetween rest

end Turn

end Exchange

/-! ### The whole connection -/

/-- The replies that the client is meant to get on one connection, at most as many as
`max_keep_alive_requests`, and one at least. -/
def repliesFor (slots : List (Slot Message)) (meanings : List (Text → Text)) (maxRequests : ℕ) :
    Option Message → ℕ → List (Exchange Message) → List Reply
  | _, _, [] => []
  | stale, served, exchange :: rest =>
    replyFor slots meanings maxRequests stale (served + 1) exchange ::
      if maxRequests ≤ served + 1 then []
      else repliesFor slots meanings maxRequests (staleAfter stale exchange.answer) (served + 1)
        rest

/-- Filters that make nothing of an empty body make nothing of it together. -/
theorem meaningFor_nil (message : Option Message) (slots : List (Slot Message))
    {meanings : List (Text → Text)} (hempty : ∀ meaning ∈ meanings, meaning [] = []) :
    meaningFor message slots meanings [] = [] := by
  induction slots generalizing meanings with
  | nil => rfl
  | cons slot slots ih =>
    cases meanings with
    | nil => rfl
    | cons meaning meanings =>
      obtain ⟨hmeaning, hrest⟩ := List.forall_mem_cons.mp hempty
      rw [meaningFor, hmeaning, ite_self]
      exact ih hrest

theorem readReplies_serve {slots : List (Slot Message)} {meanings : List (Text → Text)}
    (hempty : ∀ meaning ∈ meanings, meaning [] = []) (maxRequests served : ℕ)
    {stale : Option Message} {stack : FilterStack Message}
    (hbetween : Between slots meanings stale stack)
    {exchanges : List (Exchange Message)} (hreadable : ∀ exchange ∈ exchanges, Readable exchange) :
    readReplies ((exchanges.take (max 1 (maxRequests - served))).map Exchange.isHead)
        (serve maxRequests served stack exchanges) =
      some (repliesFor slots meanings maxRequests stale served exchanges, []) := by
  induction exchanges generalizing stale served stack with
  | nil => simp [readReplies, serve, repliesFor]
  | cons exchange rest ih =>
    obtain ⟨hfirst, hrest⟩ := List.forall_mem_cons.mp hreadable
    have hnothing := meaningFor_nil stale slots hempty
    obtain ⟨hlast, -, hafter⟩ := @readReply_exchangeBytes _ exchange maxRequests (served + 1) _ _
      _ _ hfirst hbetween hnothing []
    by_cases hfull : maxRequests ≤ served + 1
    · obtain ⟨-, hread, -⟩ := @readReply_exchangeBytes _ exchange maxRequests (served + 1) _ _ _ _
        hfirst hbetween hnothing []
      have hone : max 1 (maxRequests - served) = 1 := by omega
      rw [List.append_nil] at hread
      simp [serve, repliesFor, hone, hfull, readReplies, hread]
    · obtain ⟨-, hread, -⟩ := @readReply_exchangeBytes _ exchange maxRequests (served + 1) _ _ _ _
        hfirst hbetween hnothing (serve maxRequests (served + 1)
          (exchangeBytes maxRequests (served + 1) stack exchange).1 rest)
      have hmore : max 1 (maxRequests - served) = max 1 (maxRequests - (served + 1)) + 1 := by
        omega
      have hothers := ih (served + 1) hafter hrest
      rw [List.map_take] at hothers
      simp [serve, repliesFor, hmore, hfull, readReplies, hlast, hread, hothers]

/-- A status line, and the headers that are pushed. -/
def sampleLines (status : Text) (chunked close : Bool) : List Text :=
  status :: ((if chunked then ["Transfer-Encoding: chunked".toList] else []) ++
    if close then ["Connection: close".toList] else [])

def sampleExchange (isHead : Bool) (code : Text) (answer : Answer Bool) : Exchange Bool where
  isHead := isHead
  version := .http11
  code := code
  lines := sampleLines ("HTTP/1.1 ".toList ++ code ++ " -".toList)
  answer := answer

/-- A body in two pieces, a `HEAD`, an answer of the proxy's own, and a response without content. -/
def sampleExchanges : List (Exchange Bool) :=
  [sampleExchange false "200".toList (.origin true sampleBody []),
    sampleExchange true "200".toList (.origin false [] []),
    sampleExchange false "501".toList (.own "no".toList),
    sampleExchange false "304".toList (.origin false [] [])]

theorem readable_sampleExchanges : ∀ exchange ∈ sampleExchanges, Readable exchange := by
  intro exchange hexchange
  simp only [sampleExchanges, List.mem_cons, List.not_mem_nil, or_false] at hexchange
  rcases hexchange with rfl | rfl | rfl | rfl
  · exact ⟨rfl, by decide, by decide, by decide, fun hhead ↦ absurd hhead (by decide),
      fun hno ↦ absurd hno (by decide), rfl⟩
  · exact ⟨rfl, by decide, by decide, by decide, fun _ ↦ ⟨false, rfl⟩,
      fun hno ↦ absurd hno (by decide), rfl⟩
  · exact ⟨rfl, by decide, by decide, by decide, fun hhead ↦ absurd hhead (by decide),
      fun hno ↦ absurd hno (by decide), rfl⟩
  · refine ⟨rfl, by decide, by decide, by decide, fun hhead ↦ absurd hhead (by decide), ?_, rfl⟩
    intro _ message pieces content hanswer
    injection hanswer with _ hpieces
    exact hpieces.symm

example : (repliesFor sampleSlots [id, List.map Char.toUpper] 10 none 0 sampleExchanges).map
    Reply.body = ["A\nBC".toList, [], "no".toList, []] := by decide +kernel

end Serving

end Ec2Wrappers.Microproxy
