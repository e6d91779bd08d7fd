import ApplianceAdmin.Ipc.Daemon

/-!
# The client's end of a connection

`DaemonClient.call`, and the two ends joined by a socket that loses nothing.

* `DaemonClient.call`: one call, with the stream as its calls;
* `answerTo`, `callDaemon`: what the daemon writes, and what a call comes to, when its handler has
  a given outcome;
* `transport_faithful_iff`: the caller sees that outcome exactly when the line of the response
  keeps to the limit.
-/

namespace ApplianceAdmin.Ipc

open Async Async.Prog Python

/-! ### The client -/

/-- `DaemonClientError` -/
structure DaemonClientError where
  message : String
  code : String
  deriving DecidableEq

/-- `DaemonClientError(message)` -/
def DaemonClientError.unavailable (message : String) : DaemonClientError :=
  ⟨message, "daemon_unavailable"⟩

/-- What a call can raise. -/
inductive ClientExc
  | client (error : DaemonClientError)
  | other (exc : Exc)
  deriving DecidableEq

/-- The attribute of a client that bounds its messages. -/
structure DaemonClient where
  maxBytes : ℕ

/-- `DaemonClient(socket_path)` -/
def DaemonClient.default : DaemonClient := ⟨65536⟩

/-- What the client does with its connection. -/
inductive ClientCall
  | openUnixConnection
  | write (payload : List UInt8)
  | drain
  | readline
  | close
  | waitClosed

def ClientReply : ClientCall → Type
  | .readline => List UInt8
  | .openUnixConnection | .write _ | .drain | .close | .waitClosed => Unit

/-- Caught by `except (TimeoutError, OSError, ValueError)`. -/
def isCommunicationError : Exc → Bool
  | .py e => e.cls ∈ [.timeout, .value, .fileNotFound, .permission, .connection, .os]
  | .pydantic _ _ => true
  | _ => false

/-- An exception of the language or its libraries -/
def raised {α : Type} (r : Except Exc α) : Prog ClientReply ClientExc α :=
  lift (r.mapError .other)

section Call

variable (json : Json) (rt : Runtime) (client : DaemonClient)

/-- `exchange()` -/
def exchange (payload : List UInt8) : Prog ClientReply ClientExc (IPCResponse Value) := do
  perform ClientCall.openUnixConnection
  let body : Prog ClientReply ClientExc (IPCResponse Value) := do
    perform (ClientCall.write payload)
    perform ClientCall.drain
    let line : List UInt8 ← perform ClientCall.readline
    if line = [] ∨ client.maxBytes < line.length then
      raise (.client (.unavailable "Invalid response from daemon"))
    else raised (IPCResponse.modelValidateJson json rt line)
  body.ensure (do
    perform ClientCall.close
    perform ClientCall.waitClosed)

/-- The `except` clause around `asyncio.wait_for(exchange(), timeout)`, where a cancelled exchange
has timed out -/
def communicationFailed {α : Type} : ClientExc → Prog ClientReply ClientExc α
  | .client error => raise (.client error)
  | .other exc =>
      let exc := if exc.isException then exc else .timeoutError
      if isCommunicationError exc then
        raise (.client (.unavailable ("Daemon communication failed: " ++ exc.text)))
      else raise (.other exc)

/-- The end of `call` -/
def unwrap (response : IPCResponse Value) : Except ClientExc Value :=
  if response.ok then .ok (response.result.getD .none)
  else match response.error with
    | some error => .error (.client ⟨error.message, error.code⟩)
    | none => .error (.client ⟨"Unknown daemon error", "daemon_error"⟩)

/-- `DaemonClient.call`; `fresh` is what `uuid4()` returns. -/
def DaemonClient.call (fresh action : String) (params : Option Dict) (auditUser : Option String) :
    Prog ClientReply ClientExc Value := do
  let request ← raised
    (IPCRequest.validate rt fresh (IPCRequest.fields action (params.getD []) auditUser))
  let payload ← raised (request.line json)
  if client.maxBytes < List.length payload then
    raise (.client (.unavailable "Request is too large"))
  else do
    let response ← (exchange json rt client payload).tryCatch communicationFailed
    lift (unwrap response)

end Call

/-! ### Both ends -/

/-- The limit of a stream that is opened without one -/
def defaultLimit : ℕ := 65536

/-- A daemon with a peer, where the handler that is called has the outcome `outcome`; the streams
may notice an oversized line before or after its newline. -/
structure Daemon (η : Type) where
  server : IPCServer η
  peer : Connection
  outcome : Except Exc Value
  separatorSeen : Bool

section Ends

variable (json : Json) (rt : Runtime) {η : Type} (daemon : Daemon η)

/-- The connection on which these bytes arrive -/
def Daemon.connection (bytes : List UInt8) : Connection :=
  { daemon.peer with stream := ⟨bytes, .stall, daemon.separatorSeen⟩ }

/-- The writer takes every byte. -/
def Daemon.reply (_ : Unit) : (c : Call η) → Except Exc (Reply c) × Unit
  | .handle _ _ => (daemon.outcome, ())
  | .write _ | .drain | .close | .waitClosed => (.ok (), ())

/-- The bytes that are written -/
def writtenBytes (tr : List (Event (Reply (η := η)) Exc)) : List UInt8 :=
  tr.flatMap fun e => match e.call with
    | .write line => line
    | _ => []

/-- What the daemon writes on the connection on which these bytes arrive -/
def Daemon.answerTo (bytes : List UInt8) : List UInt8 :=
  writtenBytes (exec daemon.reply (handleClient json rt daemon.server (daemon.connection bytes)) ()).1

/-- The socket between the two ends; its state are the bytes from the client. -/
def Daemon.socket (sent : List UInt8) :
    (c : ClientCall) → Except ClientExc (ClientReply c) × List UInt8
  | .write payload => (.ok (), sent ++ payload)
  | .readline =>
      ((Stream.readline defaultLimit ⟨daemon.answerTo json rt sent, .eof, daemon.separatorSeen⟩).mapError
        .other, sent)
  | .openUnixConnection | .drain | .close | .waitClosed => (.ok (), sent)

/-- What a call comes to -/
def Daemon.callDaemon (client : DaemonClient) (fresh action : String) (params : Option Dict)
    (auditUser : Option String) : Option (Except ClientExc Value) :=
  (exec (daemon.socket json rt) (client.call json rt fresh action params auditUser) []).2

end Ends

/-! ### What each end does -/

section Transport

variable {json : Json} {rt : Runtime} {η : Type} {daemon : Daemon η} {request : IPCRequest}
  {bytes payload line : List UInt8} {fresh action : String} {params : Option Dict}
  {auditUser : Option String} {client : DaemonClient}

/-- The daemon writes the line of the response. -/
theorem answerTo_handled {handler : η}
    (h : Requested json rt daemon.server (daemon.connection bytes) request)
    (hhandler : daemon.server.handler? request.action = some handler)
    (hline : (handled request.id daemon.outcome).line json = .ok line) :
    daemon.answerTo json rt bytes = line := by
  rw [Daemon.answerTo, handleClient_handled h hhandler]
  show writtenBytes (⟨.handle handler request.params, daemon.outcome⟩ ::
    (exec daemon.reply (send json (handled request.id daemon.outcome)) ()).1) = line
  rw [send, hline]
  exact List.append_nil line

/-- A line within the limit is accepted from an authorized peer. -/
theorem requested_of_line {text : String} (htext : OneLine text)
    (hauthorized : Authorized daemon.server.settings daemon.peer)
    (hsize : (messageLine text).length ≤ daemon.server.settings.maxRequestBytes)
    (hparse : IPCRequest.modelValidateJson json rt daemon.peer.fresh (messageLine text) =
      .ok request) :
    Requested json rt daemon.server (daemon.connection (messageLine text)) request := by
  refine ⟨hauthorized, messageLine text, ⟨?_, hsize, ?_⟩, hparse⟩
  · have hlength : (messageLine text).length = (encode text).length + 1 := List.length_append
    have hread := @readline_messageLine daemon.server.settings.maxRequestBytes
      (daemon.connection (messageLine text)).stream text [] htext (List.append_nil _).symm
    rw [hread, if_neg (by omega)]
  · rw [messageLine, List.getLast?_append]
    rfl

/-- What the client reads -/
def Daemon.answer (json : Json) (rt : Runtime) (daemon : Daemon η) (payload : List UInt8) :
    Except Exc (List UInt8) :=
  Stream.readline defaultLimit ⟨daemon.answerTo json rt payload, .eof, daemon.separatorSeen⟩

/-- What the client makes of the line, or of the exception, that it reads -/
def received (json : Json) (rt : Runtime) (client : DaemonClient) (read : Except Exc (List UInt8)) :
    Prog ClientReply ClientExc Value := do
  let body : Prog ClientReply ClientExc (IPCResponse Value) := do
    let line : List UInt8 ← raised read
    if line = [] ∨ client.maxBytes < line.length then
      raise (.client (.unavailable "Invalid response from daemon"))
    else raised (IPCResponse.modelValidateJson json rt line)
  let response ← (body.ensure (do
    perform ClientCall.close
    perform ClientCall.waitClosed)).tryCatch communicationFailed
  lift (unwrap response)

/-- A call that is sent comes down to what is read. -/
theorem callDaemon_eq
    (hrequest : IPCRequest.validate rt fresh (IPCRequest.fields action (params.getD []) auditUser) =
      .ok request)
    (hpayload : request.line json = .ok payload) (hsize : payload.length ≤ client.maxBytes) :
    daemon.callDaemon json rt client fresh action params auditUser =
      (exec (daemon.socket json rt) (received json rt client (daemon.answer json rt payload))
        payload).2 := by
  rw [Daemon.callDaemon, DaemonClient.call, hrequest]
  show (exec _ ((raised (request.line json)) >>= fun payload => _) []).2 = _
  rw [hpayload]
  show (exec _ (if client.maxBytes < payload.length then _ else _) []).2 = _
  rw [if_neg (not_lt.2 hsize)]
  show (exec (daemon.socket json rt) (.call .openUnixConnection _) []).2 = _
  rw [exec_call]
  show (exec (daemon.socket json rt) (.call (.write payload) _) []).2 = _
  rw [exec_call]
  show (exec (daemon.socket json rt) (.call .drain _) payload).2 = _
  rw [exec_call]
  show (exec (daemon.socket json rt) (.call .readline _) payload).2 = _
  rw [exec_call]
  rfl

theorem exec_received_ok {response : IPCResponse Value} (hne : line ≠ [])
    (hsize : line.length ≤ client.maxBytes)
    (hparse : IPCResponse.modelValidateJson json rt line = .ok response) :
    (exec (daemon.socket json rt) (received json rt client (.ok line)) bytes).2 =
      some (unwrap response) := by
  unfold received
  show (exec _ ((((if line = [] ∨ client.maxBytes < line.length then _ else _ :
    Prog ClientReply ClientExc (IPCResponse Value)).ensure _).tryCatch _) >>= _) bytes).2 = _
  rw [if_neg (by simp [hne, hsize]), hparse]
  rfl

theorem exec_received_long (hsize : client.maxBytes < line.length) :
    (exec (daemon.socket json rt) (received json rt client (.ok line)) bytes).2 =
      some (.error (.client (.unavailable "Invalid response from daemon"))) := by
  unfold received
  show (exec _ ((((if line = [] ∨ client.maxBytes < line.length then _ else _ :
    Prog ClientReply ClientExc (IPCResponse Value)).ensure _).tryCatch _) >>= _) bytes).2 = _
  rw [if_pos (.inr hsize)]
  rfl

theorem exec_received_overrun (message : String) :
    (exec (daemon.socket json rt) (received json rt client (.error (.py ⟨.value, message⟩))) bytes).2 =
      some (.error (.client (.unavailable ("Daemon communication failed: " ++ message)))) := rfl

/-! ### Faithful transport -/

/-- The text is written for the value, and read back as the value. -/
structure Carries (json : Json) (v : Value) (text : String) : Prop where
  dumps : json.dumps v = .ok text
  loads : json.loads (messageLine text) = some v

/-- The outcome of a handler that returns or raises an `AdminError` -/
def handlerOutcome (outcome : Except (AdminClass × String) Value) : Except Exc Value :=
  outcome.mapError fun error => .admin error.1 error.2

/-- What the caller is to see of it -/
def reported (outcome : Except (AdminClass × String) Value) : Except ClientExc Value :=
  outcome.mapError fun error => .client ⟨error.2, error.1.code⟩

theorem unwrap_handled (id : String) (outcome : Except (AdminClass × String) Value) :
    unwrap { handled id (handlerOutcome outcome) with
      result := some ((handled id (handlerOutcome outcome)).result.getD .none) } =
      reported outcome := by
  cases outcome <;> rfl

theorem reported_ne_unavailable (outcome : Except (AdminClass × String) Value) (message : String) :
    reported outcome ≠ .error (.client (.unavailable message)) := by
  cases outcome with
  | ok result => exact nofun
  | error error =>
    obtain ⟨cls, text⟩ := error
    intro h
    have hcode : cls.code = "daemon_unavailable" :=
      congrArg DaemonClientError.code (ClientExc.client.inj (Except.error.inj h))
    cases cls <;> exact absurd hcode (by decide)

/-- What the client reads of a response -/
theorem answer_of_response {handler : η} {text : String}
    (h : Requested json rt daemon.server (daemon.connection payload) request)
    (hhandler : daemon.server.handler? request.action = some handler)
    (hresponse : Carries json (handled request.id daemon.outcome).toValue text) :
    daemon.answer json rt payload =
      if defaultLimit < (encode text).length then
        .error (.py ⟨.value, overrunText daemon.separatorSeen⟩)
      else .ok (messageLine text) := by
  have hline : (handled request.id daemon.outcome).line json = .ok (messageLine text) := by
    rw [IPCResponse.line, hresponse.dumps]
    rfl
  rw [Daemon.answer, answerTo_handled h hhandler hline]
  exact @readline_messageLine _ ⟨messageLine text, .eof, daemon.separatorSeen⟩ text []
    (json.oneLine_dumps _ _ hresponse.dumps) (List.append_nil _).symm

/-- The response is read back from its line. -/
theorem modelValidateJson_of_carries {response : IPCResponse Value} {text : String}
    (h : Carries json response.toValue text) :
    IPCResponse.modelValidateJson json rt (messageLine text) =
      .ok { response with result := some (response.result.getD .none) } := by
  rw [IPCResponse.modelValidateJson, h.loads]
  exact IPCResponse.validate_toValue rt response rfl

/-- A request that is sent to a default server and reaches a handler -/
structure Reaches (json : Json) (rt : Runtime) (daemon : Daemon η) (fresh action : String)
    (params : Option Dict) (auditUser : Option String) (request : IPCRequest) (text : String) :
    Prop where
  default : daemon.server.settings.maxRequestBytes = DaemonSettings.default.maxRequestBytes
  made : IPCRequest.validate rt fresh (IPCRequest.fields action (params.getD []) auditUser) =
    .ok request
  carried : Carries json request.toValue text
  size : (messageLine text).length ≤ DaemonClient.default.maxBytes
  authorized : Authorized daemon.server.settings daemon.peer
  registered : (daemon.server.handler? action).isSome = true

section Reaches

variable {outcome : Except (AdminClass × String) Value} {requestText text : String}

/-- What such a call reads decides what it comes to. -/
theorem Reaches.callDaemon_eq
    (h : Reaches json rt daemon fresh action params auditUser request requestText)
    (houtcome : daemon.outcome = handlerOutcome outcome)
    (hresponse : Carries json (handled fresh (handlerOutcome outcome)).toValue text) :
    daemon.callDaemon json rt .default fresh action params auditUser =
      (exec (daemon.socket json rt) (received json rt .default
        (if defaultLimit < (encode text).length then
          .error (.py ⟨.value, overrunText daemon.separatorSeen⟩)
        else .ok (messageLine text))) (messageLine requestText)).2 := by
  obtain ⟨hfields, hvalidate⟩ := IPCRequest.validate_toValue h.made
  have hpayload : request.line json = .ok (messageLine requestText) := by
    rw [IPCRequest.line, h.carried.dumps]
    rfl
  have hparse : IPCRequest.modelValidateJson json rt daemon.peer.fresh (messageLine requestText) =
      .ok request := by
    rw [IPCRequest.modelValidateJson, h.carried.loads]
    exact hvalidate _ _ rfl
  have hrequested := requested_of_line (json.oneLine_dumps _ _ h.carried.dumps) h.authorized
    (h.size.trans_eq h.default.symm) hparse
  obtain ⟨handler, hhandler⟩ := Option.isSome_iff_exists.1 h.registered
  have haction : request.action = action := by rw [hfields]
  have hid : request.id = fresh := by rw [hfields]
  rw [← haction] at hhandler
  rw [← houtcome, ← hid] at hresponse
  rw [Ipc.callDaemon_eq h.made hpayload h.size, answer_of_response hrequested hhandler hresponse]

theorem Reaches.callDaemon_short
    (h : Reaches json rt daemon fresh action params auditUser request requestText)
    (houtcome : daemon.outcome = handlerOutcome outcome)
    (hresponse : Carries json (handled fresh (handlerOutcome outcome)).toValue text)
    (hshort : (messageLine text).length ≤ DaemonClient.default.maxBytes) :
    daemon.callDaemon json rt .default fresh action params auditUser = some (reported outcome) := by
  have hlength : (messageLine text).length = (encode text).length + 1 := List.length_append
  have hmax : DaemonClient.default.maxBytes = defaultLimit := rfl
  rw [h.callDaemon_eq houtcome hresponse, if_neg (by omega),
    exec_received_ok (by simp [messageLine]) hshort (modelValidateJson_of_carries hresponse),
    unwrap_handled]

theorem Reaches.callDaemon_long
    (h : Reaches json rt daemon fresh action params auditUser request requestText)
    (houtcome : daemon.outcome = handlerOutcome outcome)
    (hresponse : Carries json (handled fresh (handlerOutcome outcome)).toValue text)
    (hlong : DaemonClient.default.maxBytes < (messageLine text).length) : ∃ message,
      daemon.callDaemon json rt .default fresh action params auditUser =
        some (.error (.client (.unavailable message))) := by
  rw [h.callDaemon_eq houtcome hresponse]
  split_ifs
  · exact ⟨_, exec_received_overrun _⟩
  · exact ⟨_, exec_received_long hlong⟩

/-- **A call sees what the handler did exactly when the line of the response keeps to the limit of
the client; of a longer response it says that the daemon is unavailable.** -/
theorem transport_faithful_iff
    (h : Reaches json rt daemon fresh action params auditUser request requestText)
    (houtcome : daemon.outcome = handlerOutcome outcome)
    (hresponse : Carries json (handled fresh (handlerOutcome outcome)).toValue text) :
    (daemon.callDaemon json rt .default fresh action params auditUser = some (reported outcome) ↔
      (messageLine text).length ≤ DaemonClient.default.maxBytes) ∧
    (DaemonClient.default.maxBytes < (messageLine text).length → ∃ message,
      daemon.callDaemon json rt .default fresh action params auditUser =
        some (.error (.client (.unavailable message)))) := by
  refine ⟨⟨fun hreported => ?_, h.callDaemon_short houtcome hresponse⟩,
    h.callDaemon_long houtcome hresponse⟩
  by_contra hlong
  obtain ⟨message, hmessage⟩ := h.callDaemon_long houtcome hresponse (not_le.1 hlong)
  rw [hmessage] at hreported
  exact reported_ne_unavailable outcome message (Option.some.inj hreported).symm

end Reaches

end Transport

/-! ### Runs -/

/-- A daemon whose handler has this outcome -/
def capabilitiesDaemon (outcome : Except (AdminClass × String) Value) : Daemon String where
  server := capabilitiesServer
  peer := rootConnection "alice"
  outcome := handlerOutcome outcome
  separatorSeen := true

/-- The response to `capabilitiesRequest` -/
def capabilitiesResponse (outcome : Except (AdminClass × String) Value) : IPCResponse Value :=
  handled "1" (handlerOutcome outcome)

/-- A library that knows the request and the response -/
def transportJson (outcome : Except (AdminClass × String) Value) : Json :=
  .knowing [(capabilitiesRequest "alice").toValue, (capabilitiesResponse outcome).toValue]

/-- The text of the request -/
def capabilitiesText : String :=
  "\x7b\"id\":\"1\",\"action\":\"system.capabilities\",\"params\":\x7b\x7d,\"audit_user\":\"alice\"\x7d"

theorem loads_knowing_head {v : Value} {vs : List Value} {text : String}
    (h : Json.writer.dumps v = .ok text) :
    (Json.knowing (v :: vs)).loads (messageLine text) = some v := by
  simp [Json.knowing, h, messageLine]

theorem loads_knowing_tail {v : Value} {vs : List Value} {text : String} {line : List UInt8}
    (h : Json.writer.dumps v = .ok text) (hne : messageLine text ≠ line) :
    (Json.knowing (v :: vs)).loads line = (Json.knowing vs).loads line := by
  rw [messageLine] at hne
  simp [Json.knowing, h, hne]

theorem dumps_capabilitiesRequest :
    Json.writer.dumps (capabilitiesRequest "alice").toValue = .ok capabilitiesText := by
  decide +kernel

theorem carries_request (outcome : Except (AdminClass × String) Value) :
    Carries (transportJson outcome) (capabilitiesRequest "alice").toValue capabilitiesText where
  dumps := dumps_capabilitiesRequest
  loads := loads_knowing_head dumps_capabilitiesRequest

theorem carries_response {outcome : Except (AdminClass × String) Value} {text : String}
    (h : Json.writer.dumps (capabilitiesResponse outcome).toValue = .ok text)
    (h' : (transportJson outcome).dumps (capabilitiesResponse outcome).toValue = .ok text)
    (hne : messageLine capabilitiesText ≠ messageLine text) :
    Carries (transportJson outcome) (capabilitiesResponse outcome).toValue text where
  dumps := h'
  loads := (loads_knowing_tail dumps_capabilitiesRequest hne).trans (loads_knowing_head h)

theorem reaches_capabilities (outcome : Except (AdminClass × String) Value) :
    Reaches (transportJson outcome) .ascii (capabilitiesDaemon outcome) "1" "system.capabilities" none
      (some "alice") (capabilitiesRequest "alice") capabilitiesText where
  default := rfl
  made := rfl
  carried := carries_request outcome
  size := by decide +kernel
  authorized := requested_alice.1
  registered := rfl

/-- The call for which the handler has this outcome -/
def capabilitiesCall (outcome : Except (AdminClass × String) Value) :
    Option (Except ClientExc Value) :=
  (capabilitiesDaemon outcome).callDaemon (transportJson outcome) .ascii .default "1"
    "system.capabilities" none (some "alice")

/-- A refusal -/
def refusal : Except (AdminClass × String) Value := .error (.busyError, "Another change is running")

def refusalText : String :=
  "\x7b\"id\":\"1\",\"ok\":false,\"result\":null,\"error\":\x7b\"code\":\"busy\",\"message\":\"Another change is running\"\x7d\x7d"

/-- The caller sees the refusal. -/
theorem refusal_faithful :
    (messageLine refusalText).length ≤ 65536 ∧ capabilitiesCall refusal = some (reported refusal) := by
  have hdumps : Json.writer.dumps (capabilitiesResponse refusal).toValue = .ok refusalText := by
    decide +kernel
  have hcarries := carries_response hdumps hdumps (by decide +kernel)
  have hlength : (messageLine refusalText).length ≤ 65536 := by decide +kernel
  exact ⟨hlength, (transport_faithful_iff (reaches_capabilities refusal) rfl hcarries).1.2 hlength⟩

theorem length_jsonString_ge (s : String) : s.length ≤ (jsonString s).length := by
  have hchar : ∀ c, 1 ≤ (jsonChar c).length := by
    intro c
    unfold jsonChar
    split_ifs <;> simp
  have hchars : ∀ cs : List Char, cs.length ≤ (cs.flatMap jsonChar).length := by
    intro cs
    induction cs with
    | nil => exact le_rfl
    | cons c cs ih =>
      rw [List.flatMap_cons, List.length_append, List.length_cons]
      have := hchar c
      omega
  have hlist := hchars s.toList
  rw [String.length_toList] at hlist
  rw [jsonString, String.length_ofList, List.length_append, List.length_cons]
  omega

/-- A response with a long text is long. -/
theorem dumps_text (s : String) : ∃ text,
    Json.writer.dumps (capabilitiesResponse (.ok (.str s))).toValue = .ok text ∧
    (transportJson (.ok (.str s))).dumps (capabilitiesResponse (.ok (.str s))).toValue = .ok text ∧
    s.length < (messageLine text).length := by
  refine ⟨"\x7b" ++ ",".intercalate [jsonString "id" ++ ":" ++ jsonString "1",
    jsonString "ok" ++ ":" ++ "true", jsonString "result" ++ ":" ++ jsonString s,
    jsonString "error" ++ ":" ++ "null"] ++ "\x7d", rfl, rfl, ?_⟩
  have hjson := length_jsonString_ge s
  rw [messageLine, List.length_append]
  refine Nat.lt_succ_of_le (le_trans ?_ (length_encode_ge _))
  simp only [String.intercalate_cons_cons, String.intercalate_singleton, String.length_append]
  omega

theorem text_unavailable {s : String} (hlong : 65536 ≤ s.length) : ∃ message,
    capabilitiesCall (.ok (.str s)) = some (.error (.client (.unavailable message))) := by
  obtain ⟨text, hdumps, hdumps', hlength⟩ := dumps_text s
  have hne : messageLine capabilitiesText ≠ messageLine text := fun heq => by
    have hshort : (messageLine capabilitiesText).length ≤ 65536 := by decide +kernel
    rw [heq] at hshort
    omega
  exact (reaches_capabilities (.ok (.str s))).callDaemon_long rfl
    (carries_response hdumps hdumps' hne) (hlong.trans_lt hlength)

/-- The daemon completes the call with a text of 65536 letters, and the caller is told that it is
unavailable. -/
theorem long_text_unavailable : ∃ message,
    capabilitiesCall (.ok (.str (String.ofList (List.replicate 65536 'a')))) =
      some (.error (.client (.unavailable message))) :=
  text_unavailable (by rw [String.length_ofList, List.length_replicate])

end ApplianceAdmin.Ipc
