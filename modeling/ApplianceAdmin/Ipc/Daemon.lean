import ApplianceAdmin.Ipc.Messages
import ApplianceAdmin.Server

/-!
# The daemon's end of a connection

`IPCServer._handle_client`, from the credentials of the peer to the closed connection.

* `Connection`: what a connection brings; `admitted`: the request on it, if the peer may make one;
* `handleClient`: one connection, with the handler as a call; `handleClient_refused`,
  `handleClient_unknown`, `handleClient_handled`: its three courses;
* `Sent`: one line is written and the connection closed;
* `handleClient_gate`: no handler runs that was not asked for by an authorized peer, and every
  connection is answered once.
-/

namespace ApplianceAdmin.Ipc

open Async Async.Prog Python

/-! ### The request on a connection -/

/-- The settings of the daemon that a connection depends on -/
structure DaemonSettings where
  socketGroup : String
  allowedUids : List ℤ
  maxRequestBytes : ℕ

/-- The settings without an environment file -/
def DaemonSettings.default : DaemonSettings := ⟨"appliance-web", [], 65536⟩

/-- `pwd.struct_passwd` -/
structure Passwd where
  name : String
  gid : ℤ

/-- `grp.struct_group` -/
structure Group where
  gid : ℤ
  members : List String

/-- What a connection brings: the credentials of the peer (process, user and group) unless the
transport has no socket, the user database, the bytes that are sent, and a `uuid4()`. -/
structure Connection where
  credentials : Option (Except PyError (ℤ × ℤ × ℤ))
  getpwuid : ℤ → Except PyError Passwd
  getgrnam : String → Except PyError Group
  stream : Stream
  fresh : String

/-- `handlers` is a dictionary of actions. -/
structure IPCServer (η : Type) where
  settings : DaemonSettings
  handlers : List (String × η)

/-- `AuthorizationError(message)` -/
def unauthorized (message : String) : Exc := .admin .authorizationError message

/-- `IPCServer._peer_credentials` -/
def peerCredentials (conn : Connection) : Except Exc (ℤ × ℤ × ℤ) :=
  match conn.credentials with
  | none => .error (unauthorized "Peer socket unavailable")
  | some credentials => credentials.mapError .py

/-- `except KeyError` around the user database -/
def knownIdentity {α : Type} (r : Except PyError α) : Except Exc α :=
  r.mapError fun e => if e.cls = .key then unauthorized "Unknown peer identity" else .py e

/-- `IPCServer._authorize` -/
def authorize (settings : DaemonSettings) (conn : Connection) (uid : ℤ) : Except Exc Unit :=
  if uid = 0 ∨ uid ∈ settings.allowedUids then .ok ()
  else do
    let user ← knownIdentity (conn.getpwuid uid)
    let group ← knownIdentity (conn.getgrnam settings.socketGroup)
    if user.gid = group.gid ∨ user.name ∈ group.members then .ok ()
    else .error (unauthorized ("UID " ++ toString uid ++ " is not allowed"))

/-- `IPCServer._read_request_line` -/
def readRequestLine (settings : DaemonSettings) (conn : Connection) : Except Exc (List UInt8) :=
  match conn.stream.readline settings.maxRequestBytes with
  | .error exc =>
      .error (if exc.isValueError then .validation "Malformed or oversized request" else exc)
  | .ok line =>
      if line = [] ∨ settings.maxRequestBytes < line.length ∨ line.getLast? ≠ some newline then
        .error (.validation "Malformed or oversized request")
      else .ok line

section Admit

variable (json : Json) (rt : Runtime) {η : Type} (server : IPCServer η) (conn : Connection)

/-- The request on the connection -/
def admitted : Except Exc IPCRequest := do
  let (_, uid, _) ← peerCredentials conn
  authorize server.settings conn uid
  let line ← readRequestLine server.settings conn
  IPCRequest.modelValidateJson json rt conn.fresh line

/-- `self.handlers.get(action)` -/
def IPCServer.handler? (action : String) : Option η :=
  (server.handlers.find? (·.1 = action)).map (·.2)

end Admit

/-! ### One connection -/

/-- What `_handle_client` does besides: it calls a handler under `wait_for`, which a
`CancelledError` in answer says has outlasted the timeout, and it uses the writer. -/
inductive Call (η : Type)
  | handle (handler : η) (params : Dict)
  | write (line : List UInt8)
  | drain
  | close
  | waitClosed

def Reply {η : Type} : Call η → Type
  | .handle _ _ => Value
  | .write _ | .drain | .close | .waitClosed => Unit

/-- Caught by `except (ConnectionError, BrokenPipeError)`. -/
def isConnectionError : Exc → Bool
  | .py e => e.cls = .connection
  | _ => false

/-- The `except` clauses around `body`, which `request_id` is known to -/
def answer {C : Type} {R : C → Type} {α : Type} (requestId : String)
    (body : Prog R Exc (IPCResponse α)) : Prog R Exc (IPCResponse α) :=
  body.tryCatch fun exc => if exc.isException then return errorResponse requestId exc else raise exc

section HandleClient

variable (json : Json) (rt : Runtime) {η : Type} (server : IPCServer η) (conn : Connection)

/-- The first `try` from the parsed request on -/
def dispatch (request : IPCRequest) : Prog (Reply (η := η)) Exc (IPCResponse Value) := do
  let handler ← lift (match server.handler? request.action with
    | some handler => .ok handler
    | none => .error (.validation "Unknown action"))
  let result ← waitFor (perform (Call.handle handler request.params))
  return ⟨request.id, true, some result, none⟩

/-- The first `try`; `request_id` is set once the line is parsed. -/
def respondTo : Prog (Reply (η := η)) Exc (IPCResponse Value) :=
  match admitted json rt server conn with
  | .error exc => answer "unknown" (raise exc)
  | .ok request => answer request.id (dispatch server request)

/-- The second `try` -/
def send (response : IPCResponse Value) : Prog (Reply (η := η)) Exc Unit :=
  let body : Prog (Reply (η := η)) Exc Unit := do
    let encoded ← lift (response.line json)
    perform (Call.write encoded)
    perform Call.drain
  (body.tryCatch fun exc => if isConnectionError exc then return () else raise exc).ensure (do
    perform Call.close
    perform Call.waitClosed)

/-- `IPCServer._handle_client` -/
def handleClient : Prog (Reply (η := η)) Exc Unit := do
  let response ← respondTo json rt server conn
  send json response

end HandleClient

/-! ### Who is admitted -/

/-- The peer is root, listed by its user ID, or of the group of the socket. -/
def Authorized (settings : DaemonSettings) (conn : Connection) : Prop :=
  ∃ pid uid gid, conn.credentials = some (.ok (pid, uid, gid)) ∧
    (uid = 0 ∨ uid ∈ settings.allowedUids ∨ ∃ user group, conn.getpwuid uid = .ok user ∧
      conn.getgrnam settings.socketGroup = .ok group ∧
      (user.gid = group.gid ∨ user.name ∈ group.members))

/-- The peer sends a line within the limit. -/
def Accepted (settings : DaemonSettings) (conn : Connection) (line : List UInt8) : Prop :=
  conn.stream.readline settings.maxRequestBytes = .ok line ∧
    line.length ≤ settings.maxRequestBytes ∧ line.getLast? = some newline

/-- An authorized peer sends a line that is parsed to the request. -/
def Requested (json : Json) (rt : Runtime) {η : Type} (server : IPCServer η) (conn : Connection)
    (request : IPCRequest) : Prop :=
  Authorized server.settings conn ∧ ∃ line, Accepted server.settings conn line ∧
    IPCRequest.modelValidateJson json rt conn.fresh line = .ok request

section Admitted

variable {json : Json} {rt : Runtime} {η : Type} {server : IPCServer η}
  {settings : DaemonSettings} {conn : Connection} {request : IPCRequest}

theorem authorize_eq_ok_iff {uid : ℤ} : authorize settings conn uid = .ok () ↔
    uid = 0 ∨ uid ∈ settings.allowedUids ∨ ∃ user group, conn.getpwuid uid = .ok user ∧
      conn.getgrnam settings.socketGroup = .ok group ∧
      (user.gid = group.gid ∨ user.name ∈ group.members) := by
  unfold authorize
  by_cases hlisted : uid = 0 ∨ uid ∈ settings.allowedUids
  · rw [if_pos hlisted]
    exact iff_of_true rfl (hlisted.imp id .inl)
  rw [if_neg hlisted, ← or_assoc, or_iff_right hlisted]
  cases huser : conn.getpwuid uid with
  | error e => exact iff_of_false nofun (by simp)
  | ok user =>
    cases hgroup : conn.getgrnam settings.socketGroup with
    | error e => exact iff_of_false nofun (by simp)
    | ok group =>
      show (if user.gid = group.gid ∨ user.name ∈ group.members then Except.ok ()
        else .error _) = .ok () ↔ _
      split_ifs with hmember
      · exact iff_of_true rfl ⟨user, group, rfl, rfl, hmember⟩
      · refine iff_of_false nofun ?_
        rintro ⟨_, _, huser', hgroup', h⟩
        cases huser'
        cases hgroup'
        exact hmember h

theorem readRequestLine_eq_ok_iff {line : List UInt8} :
    readRequestLine settings conn = .ok line ↔ Accepted settings conn line := by
  unfold readRequestLine Accepted
  cases hread : conn.stream.readline settings.maxRequestBytes with
  | error exc => exact iff_of_false nofun (by simp)
  | ok read =>
    simp only
    split_ifs with hbad
    · refine iff_of_false nofun ?_
      rintro ⟨hline, hlength, hlast⟩
      cases hline
      rcases hbad with rfl | hlong | hopen
      · cases hlast
      · omega
      · exact hopen hlast
    · simp only [not_or, not_lt, not_not] at hbad
      refine ⟨fun h => ?_, fun h => h.1⟩
      cases h
      exact ⟨rfl, hbad.2.1, hbad.2.2⟩

/-- **The requests that are admitted.** -/
theorem admitted_eq_ok_iff :
    admitted json rt server conn = .ok request ↔ Requested json rt server conn request := by
  unfold admitted Requested Authorized peerCredentials
  cases hcredentials : conn.credentials with
  | none => exact iff_of_false nofun (by simp)
  | some credentials =>
    cases credentials with
    | error e => exact iff_of_false nofun (by simp)
    | ok credentials =>
      obtain ⟨pid, uid, gid⟩ := credentials
      show (authorize server.settings conn uid >>= fun _ => _) = _ ↔ _
      cases hauthorize : authorize server.settings conn uid with
      | error exc =>
        refine iff_of_false nofun ?_
        rintro ⟨⟨_, _, _, huid, h⟩, -⟩
        cases huid
        rw [authorize_eq_ok_iff.2 h] at hauthorize
        cases hauthorize
      | ok _ =>
        have hauthorized := authorize_eq_ok_iff.1 hauthorize
        show (readRequestLine server.settings conn >>= fun line => _) = _ ↔ _
        cases hline : readRequestLine server.settings conn with
        | error exc =>
          refine iff_of_false nofun ?_
          rintro ⟨-, line, haccepted, -⟩
          rw [readRequestLine_eq_ok_iff.2 haccepted] at hline
          cases hline
        | ok line =>
          refine ⟨fun h => ⟨⟨_, _, _, rfl, hauthorized⟩, line, readRequestLine_eq_ok_iff.1 hline, h⟩,
            ?_⟩
          rintro ⟨-, line', haccepted, h⟩
          rw [readRequestLine_eq_ok_iff.2 haccepted] at hline
          cases hline
          exact h

theorem error_of_bind {ε α β : Type} {r : Except ε α} {f : α → Except ε β} {e : ε}
    (h : (r >>= f) = .error e) : r = .error e ∨ ∃ a, r = .ok a ∧ f a = .error e := by
  cases r with
  | error e' => cases h; exact .inl rfl
  | ok a => exact .inr ⟨a, rfl, h⟩

theorem isException_of_knownIdentity {α : Type} {r : Except PyError α} {exc : Exc}
    (h : knownIdentity r = .error exc) : exc.isException = true := by
  cases r with
  | ok a => cases h
  | error e =>
    cases h
    show (if e.cls = .key then unauthorized "Unknown peer identity" else .py e).isException = true
    split <;> rfl

theorem isException_of_authorize {uid : ℤ} {exc : Exc}
    (h : authorize settings conn uid = .error exc) : exc.isException = true := by
  unfold authorize at h
  split_ifs at h
  rcases error_of_bind h with h | ⟨user, -, h⟩
  · exact isException_of_knownIdentity h
  rcases error_of_bind h with h | ⟨group, -, h⟩
  · exact isException_of_knownIdentity h
  split_ifs at h
  cases h
  rfl

theorem isException_of_readline {limit : ℕ} {s : Stream} {exc : Exc}
    (h : s.readline limit = .error exc) : exc.isException = true := by
  unfold Stream.readline at h
  simp only at h
  split_ifs at h
  · cases h
    rfl
  · cases hending : s.ending <;> rw [hending] at h <;> cases h <;> rfl

theorem isException_of_readRequestLine {exc : Exc}
    (h : readRequestLine settings conn = .error exc) : exc.isException = true := by
  unfold readRequestLine at h
  cases hread : conn.stream.readline settings.maxRequestBytes with
  | error exc' =>
    rw [hread] at h
    cases h
    split
    · rfl
    · exact isException_of_readline hread
  | ok line =>
    rw [hread] at h
    simp only at h
    split_ifs at h
    cases h
    rfl

theorem isException_of_modelValidateJson {fresh : String} {line : List UInt8} {exc : Exc}
    (h : IPCRequest.modelValidateJson json rt fresh line = .error exc) : exc.isException = true := by
  unfold IPCRequest.modelValidateJson IPCRequest.validate at h
  split at h
  · simp only at h
    split at h
    · cases h
    · cases h
      rfl
  · cases h
    rfl
  · cases h
    rfl

/-- What keeps a request from being admitted is an `Exception`. -/
theorem isException_of_admitted {exc : Exc} (h : admitted json rt server conn = .error exc) :
    exc.isException = true := by
  rcases error_of_bind h with h | ⟨⟨pid, uid, gid⟩, -, h⟩
  · unfold peerCredentials at h
    cases hcredentials : conn.credentials with
    | none =>
      rw [hcredentials] at h
      cases h
      rfl
    | some credentials =>
      rw [hcredentials] at h
      cases credentials <;> cases h
      rfl
  rcases error_of_bind h with h | ⟨_, -, h⟩
  · exact isException_of_authorize h
  rcases error_of_bind h with h | ⟨line, -, h⟩
  · exact isException_of_readRequestLine h
  · exact isException_of_modelValidateJson h

/-! ### The three courses -/

/-- The response to a request whose handler has this outcome -/
def handled (id : String) : Except Exc Value → IPCResponse Value
  | .ok result => ⟨id, true, some result, none⟩
  | .error exc => errorResponse id (if exc.isException then exc else .timeoutError)

theorem answer_raise {C : Type} {R : C → Type} {α : Type} {id : String} {exc : Exc}
    (h : exc.isException = true) :
    answer (R := R) (α := α) id (raise exc) = pure (errorResponse id exc) := if_pos h

/-- Nothing was parsed. -/
theorem handleClient_refused {exc : Exc} (h : admitted json rt server conn = .error exc) :
    handleClient json rt server conn = send json (errorResponse "unknown" exc) := by
  rw [handleClient, respondTo, h]
  show (answer "unknown" (raise exc) >>= send json) = _
  rw [answer_raise (isException_of_admitted h)]
  rfl

/-- The action is not registered. -/
theorem handleClient_unknown (h : Requested json rt server conn request)
    (hhandler : server.handler? request.action = none) :
    handleClient json rt server conn =
      send json (errorResponse request.id (.validation "Unknown action")) := by
  rw [handleClient, respondTo, admitted_eq_ok_iff.2 h]
  show (answer request.id (dispatch server request) >>= send json) = _
  rw [dispatch, hhandler]
  rfl

/-- The handler is called, and what it does is the response. -/
theorem handleClient_handled {handler : η} (h : Requested json rt server conn request)
    (hhandler : server.handler? request.action = some handler) :
    handleClient json rt server conn =
      .call (.handle handler request.params) fun r => send json (handled request.id r) := by
  rw [handleClient, respondTo, admitted_eq_ok_iff.2 h]
  show (answer request.id (dispatch server request) >>= send json) = _
  rw [dispatch, hhandler]
  show Prog.call _ _ = Prog.call _ _
  congr 1
  funext r
  cases r with
  | ok result => rfl
  | error exc => cases exc <;> rfl

end Admitted

/-! ### Writing the response -/

/-- One line is written, and the connection is closed after it. -/
def Sent {η : Type} (line : List UInt8) (tr : List (Event (Reply (η := η)) Exc)) : Prop :=
  ∃ w drained c closed, tr = ⟨.write line, w⟩ :: (drained ++ ⟨.close, c⟩ :: closed) ∧
    (∀ e ∈ drained, e.call = .drain) ∧ ∀ e ∈ closed, e.call = .waitClosed

section Send

variable {json : Json} {η : Type} {tr : List (Event (Reply (η := η)) Exc)} {r : Except Exc Unit}
  {line : List UInt8}

theorem path_closing {u : Except Exc Unit}
    (h : Path ((Prog.done u).ensure (do perform Call.close; perform Call.waitClosed)) tr
      (.done r)) : ∃ c closed, tr = ⟨.close, c⟩ :: closed ∧ ∀ e ∈ closed, e.call = .waitClosed := by
  cases h with
  | @cons _ _ c _ _ h =>
    refine ⟨c, _, rfl, ?_⟩
    cases c with
    | error exc =>
      obtain ⟨rfl, -⟩ := Path.of_done (r := .error exc) h
      exact fun e he => absurd he List.not_mem_nil
    | ok _ =>
      cases h with
      | @cons _ _ c' _ _ h =>
        cases c' with
        | ok _ =>
          obtain ⟨rfl, -⟩ := Path.of_done (r := u) h
          simp
        | error exc =>
          obtain ⟨rfl, -⟩ := Path.of_done (r := .error exc) h
          simp

/-- The outcome of the `except` clause -/
theorem caught_eq (exc : Exc) : (if isConnectionError exc then return () else raise exc :
    Prog (Reply (η := η)) Exc Unit) =
      .done (if isConnectionError exc then .ok () else .error exc) := by
  split <;> rfl

theorem sent_of_path {response : IPCResponse Value} (hline : response.line json = .ok line)
    (h : Path (send json response) tr (.done r)) : Sent line tr := by
  rw [send, hline] at h
  cases h with
  | @cons _ _ w _ _ h =>
    cases w with
    | ok _ =>
      cases h with
      | @cons _ _ d _ _ h =>
        cases d with
        | ok _ =>
          obtain ⟨c, closed, rfl, hclosed⟩ := path_closing (u := .ok ()) h
          exact ⟨_, [⟨.drain, _⟩], c, closed, rfl, by simp, hclosed⟩
        | error exc =>
          have hcaught : Path ((if isConnectionError exc then return () else raise exc :
            Prog (Reply (η := η)) Exc Unit).ensure _) _ (.done r) := h
          rw [caught_eq] at hcaught
          obtain ⟨c, closed, rfl, hclosed⟩ := path_closing hcaught
          exact ⟨_, [⟨.drain, _⟩], c, closed, rfl, by simp, hclosed⟩
    | error exc =>
      have hcaught : Path ((if isConnectionError exc then return () else raise exc :
        Prog (Reply (η := η)) Exc Unit).ensure _) _ (.done r) := h
      rw [caught_eq] at hcaught
      obtain ⟨c, closed, rfl, hclosed⟩ := path_closing hcaught
      exact ⟨_, [], c, closed, rfl, by simp, hclosed⟩

theorem ends_send (json : Json) (response : IPCResponse Value) :
    Ends (send json response : Prog (Reply (η := η)) Exc Unit) := by
  refine ends_ensure (ends_tryCatch ?_ fun exc => ?_) ?_
  · exact ends_bind (ends_done _) fun _ => ends_bind (ends_perform _) fun _ => ends_perform _
  · rw [caught_eq]
    exact ends_done _
  · exact ends_bind (ends_perform _) fun _ => ends_perform _

/-- Is the call one of a handler? -/
def handlerCall {η : Type} : Call η → Option (η × Dict)
  | .handle handler params => some (handler, params)
  | _ => none

/-- No handler is called any more. -/
theorem calls_send (json : Json) (response : IPCResponse Value) :
    Calls (fun c => handlerCall c = none)
      (send json response : Prog (Reply (η := η)) Exc Unit) := by
  refine calls_ensure (calls_tryCatch ?_ fun exc => ?_) ?_
  · exact calls_bind (calls_done _) fun _ =>
      calls_bind ((calls_perform _).2 rfl) fun _ => (calls_perform _).2 rfl
  · rw [caught_eq]
    exact calls_done _
  · exact calls_bind ((calls_perform _).2 rfl) fun _ => (calls_perform _).2 rfl

end Send

/-! ### The gate -/

section Gate

variable {json : Json} {rt : Runtime} {η : Type} {server : IPCServer η} {conn : Connection}
  {request : IPCRequest} {tr : List (Event (Reply (η := η)) Exc)} {q : Prog (Reply (η := η)) Exc Unit}

/-- The handlers that are called, with their parameters -/
def handlerCalls (tr : List (Event (Reply (η := η)) Exc)) : List (η × Dict) :=
  tr.filterMap fun e => handlerCall e.call

/-- A handler returns this value in time. -/
def Returns (tr : List (Event (Reply (η := η)) Exc)) (result : Value) : Prop :=
  ∃ handler params, ⟨.handle handler params, .ok result⟩ ∈ tr

/-- The values that are returned can be written as JSON. -/
def Serialisable (json : Json) (tr : List (Event (Reply (η := η)) Exc)) : Prop :=
  ∀ result, Returns tr result → ∃ s, json.dumps result = .ok s

/-- The response says what the handler returned, if it did, and which request it is for. -/
structure Fits (json : Json) (rt : Runtime) (server : IPCServer η) (conn : Connection)
    (tr : List (Event (Reply (η := η)) Exc)) (response : IPCResponse Value) : Prop where
  ok : response.ok = true ↔ ∃ result, Returns tr result
  result : ∀ result, Returns tr result → response.result = some result
  parsed : ∀ request, Requested json rt server conn request → response.id = request.id
  unparsed : (∀ request, ¬Requested json rt server conn request) → response.id = "unknown"

/-- Handlers are called, then one line with a fitting response is written, and the connection is
closed. -/
def Answered (json : Json) (rt : Runtime) (server : IPCServer η) (conn : Connection)
    (tr : List (Event (Reply (η := η)) Exc)) : Prop :=
  ∃ response text calls sent, Fits json rt server conn tr response ∧
    response.line json = .ok (messageLine text) ∧ newline ∉ encode text ∧ tr = calls ++ sent ∧
    (∀ e ∈ calls, (handlerCall e.call).isSome = true) ∧ Sent (messageLine text) sent

theorem requested_unique {request' : IPCRequest} (h : Requested json rt server conn request)
    (h' : Requested json rt server conn request') : request = request' :=
  Except.ok.inj ((admitted_eq_ok_iff.2 h).symm.trans (admitted_eq_ok_iff.2 h'))

/-- A connection takes one of three courses. -/
theorem courses (json : Json) (rt : Runtime) (server : IPCServer η) (conn : Connection) :
    (∃ exc, (∀ request, ¬Requested json rt server conn request) ∧
      handleClient json rt server conn = send json (errorResponse "unknown" exc)) ∨
    ∃ request, Requested json rt server conn request ∧
      (server.handler? request.action = none ∧ handleClient json rt server conn =
          send json (errorResponse request.id (.validation "Unknown action")) ∨
        ∃ handler, server.handler? request.action = some handler ∧
          handleClient json rt server conn =
            .call (.handle handler request.params) fun r => send json (handled request.id r)) := by
  cases hadmitted : admitted json rt server conn with
  | error exc =>
    refine .inl ⟨exc, fun request h => ?_, handleClient_refused hadmitted⟩
    rw [admitted_eq_ok_iff.2 h] at hadmitted
    cases hadmitted
  | ok request =>
    have h := admitted_eq_ok_iff.1 hadmitted
    refine .inr ⟨request, h, ?_⟩
    cases hhandler : server.handler? request.action with
    | none => exact .inl ⟨rfl, handleClient_unknown h hhandler⟩
    | some handler => exact .inr ⟨handler, rfl, handleClient_handled h hhandler⟩

theorem errorResponse_eq (id : String) (exc : Exc) : ∃ code message,
    (errorResponse id exc : IPCResponse Value) = ⟨id, false, none, some ⟨code, message⟩⟩ := by
  unfold errorResponse
  split
  · exact ⟨_, _, rfl⟩
  · exact ⟨_, _, rfl⟩
  · split
    · exact ⟨_, _, rfl⟩
    · exact ⟨_, _, rfl⟩

theorem handlerCalls_send {response : IPCResponse Value} {q : Prog (Reply (η := η)) Exc Unit}
    (h : Path (send json response) tr q) : handlerCalls tr = [] :=
  List.filterMap_eq_nil_iff.2 (h.calls (calls_send json response))

theorem not_returns_send {response : IPCResponse Value} {q : Prog (Reply (η := η)) Exc Unit}
    (h : Path (send json response) tr q) (result : Value) : ¬Returns tr result := by
  rintro ⟨handler, params, hmem⟩
  cases h.calls (calls_send json response) _ hmem

/-- A response that is sent without a handler -/
theorem answered_of_send {id : String} {exc : Exc} {r : Except Exc Unit}
    (hparsed : ∀ request, Requested json rt server conn request → id = request.id)
    (hunparsed : (∀ request, ¬Requested json rt server conn request) → id = "unknown")
    (h : Path (send json (errorResponse id exc)) tr (.done r)) :
    Answered json rt server conn tr := by
  obtain ⟨code, message, heq⟩ := errorResponse_eq id exc
  obtain ⟨text, htext, hline⟩ := IPCResponse.line_failure json id code message
  have hnone := not_returns_send h
  rw [heq] at h
  refine ⟨⟨id, false, none, some ⟨code, message⟩⟩, text, [], tr, ⟨?_, ?_, hparsed, hunparsed⟩, hline,
    newline_notMem_encode htext, rfl, by simp, sent_of_path hline h⟩
  · exact iff_of_false nofun fun ⟨result, hresult⟩ => hnone result hresult
  · exact fun result hresult => absurd hresult (hnone result)

/-- Which handler is called -/
theorem gate (h : Path (handleClient json rt server conn) tr q) : handlerCalls tr = [] ∨
    ∃ request handler, Requested json rt server conn request ∧
      server.handler? request.action = some handler ∧
      handlerCalls tr = [(handler, request.params)] := by
  rcases courses json rt server conn with ⟨exc, -, heq⟩ | ⟨request, hrequest, ⟨-, heq⟩ |
    ⟨handler, hhandler, heq⟩⟩
  · rw [heq] at h
    exact .inl (handlerCalls_send h)
  · rw [heq] at h
    exact .inl (handlerCalls_send h)
  · rw [heq] at h
    cases h with
    | nil => exact .inl rfl
    | cons h =>
      refine .inr ⟨request, handler, hrequest, hhandler, ?_⟩
      exact congrArg (List.cons (handler, request.params)) (handlerCalls_send h)

/-- A response after the handler -/
theorem answered_of_handled {handler : η} {r : Except Exc Value} {r' : Except Exc Unit}
    (hrequest : Requested json rt server conn request)
    (hserialisable : Serialisable json (⟨.handle handler request.params, r⟩ :: tr))
    (h : Path (send json (handled request.id r)) tr (.done r')) :
    Answered json rt server conn (⟨.handle handler request.params, r⟩ :: tr) := by
  have hparsed : ∀ request', Requested json rt server conn request' → request.id = request'.id :=
    fun request' h' => congrArg IPCRequest.id (requested_unique hrequest h')
  have hunparsed : (∀ request, ¬Requested json rt server conn request) → request.id = "unknown" :=
    fun hnone => absurd hrequest (hnone request)
  have hcalls : ∀ e ∈ [(⟨.handle handler request.params, r⟩ : Event (Reply (η := η)) Exc)],
      (handlerCall e.call).isSome = true := by simp [handlerCall]
  have hnone := not_returns_send h
  cases r with
  | ok result =>
    have hreturns : Returns (⟨.handle handler request.params, .ok result⟩ :: tr) result :=
      ⟨handler, request.params, List.mem_cons_self⟩
    obtain ⟨s, hs⟩ := hserialisable result hreturns
    obtain ⟨text, htext, hline⟩ := IPCResponse.line_success hs request.id
    refine ⟨⟨request.id, true, some result, none⟩, text, [_], tr,
      ⟨iff_of_true rfl ⟨result, hreturns⟩, ?_, hparsed, hunparsed⟩, hline,
      newline_notMem_encode htext, rfl, hcalls, sent_of_path hline h⟩
    rintro result' ⟨handler', params', hmem⟩
    rcases List.mem_cons.1 hmem with heq | hmem
    · cases heq
      rfl
    · exact absurd ⟨handler', params', hmem⟩ (hnone result')
  | error exc =>
    obtain ⟨code, message, heq⟩ :=
      errorResponse_eq request.id (if exc.isException then exc else .timeoutError)
    obtain ⟨text, htext, hline⟩ := IPCResponse.line_failure json request.id code message
    rw [handled, heq] at h
    have hnot : ∀ result, ¬Returns (⟨.handle handler request.params, .error exc⟩ :: tr) result := by
      rintro result ⟨handler', params', hmem⟩
      rcases List.mem_cons.1 hmem with heq | hmem
      · cases heq
      · exact hnone result ⟨handler', params', hmem⟩
    exact ⟨⟨request.id, false, none, some ⟨code, message⟩⟩, text, [_], tr,
      ⟨iff_of_false nofun fun ⟨result, h⟩ => hnot result h,
        fun result h => absurd h (hnot result), hparsed, hunparsed⟩, hline,
      newline_notMem_encode htext, rfl, hcalls, sent_of_path hline h⟩

/-- How a connection is answered -/
theorem answered {r : Except Exc Unit} (h : Path (handleClient json rt server conn) tr (.done r))
    (hserialisable : Serialisable json tr) : Answered json rt server conn tr := by
  rcases courses json rt server conn with ⟨exc, hnone, heq⟩ | ⟨request, hrequest, ⟨-, heq⟩ |
    ⟨handler, hhandler, heq⟩⟩
  · rw [heq] at h
    exact answered_of_send (fun request h => absurd h (hnone request)) (fun _ => rfl) h
  · rw [heq] at h
    exact answered_of_send (fun request' h' => congrArg IPCRequest.id (requested_unique hrequest h'))
      (fun hnone => absurd hrequest (hnone request)) h
  · rw [heq] at h
    cases h with
    | cons h => exact answered_of_handled hrequest hserialisable h

theorem ends_handleClient (json : Json) (rt : Runtime) (server : IPCServer η) (conn : Connection) :
    Ends (handleClient json rt server conn) := by
  rcases courses json rt server conn with ⟨exc, -, heq⟩ | ⟨request, -, ⟨-, heq⟩ | ⟨handler, -, heq⟩⟩
  · exact heq ▸ ends_send json _
  · exact heq ▸ ends_send json _
  · exact heq ▸ fun r => ends_send json _

/-- The name that is logged makes no difference. -/
theorem handleClient_congr {conn' : Connection} {request' : IPCRequest}
    (h : Requested json rt server conn request) (h' : Requested json rt server conn' request')
    (hsame : { request' with auditUser := request.auditUser } = request) :
    handleClient json rt server conn = handleClient json rt server conn' := by
  rw [handleClient, handleClient, respondTo, respondTo, admitted_eq_ok_iff.2 h, admitted_eq_ok_iff.2 h',
    ← hsame]
  rfl

/-- **At most one handler is called, once, and only for an authorized request that was accepted,
parsed and is of a registered action; a connection whose handler returns a value that can be written
is answered by one line and closed; every connection comes to an end; and requests that differ in
`audit_user` only are handled the same.** -/
theorem handleClient_gate (json : Json) (rt : Runtime) (server : IPCServer η) (conn : Connection) :
    (∀ tr q, Path (handleClient json rt server conn) tr q → handlerCalls tr = [] ∨
      ∃ request handler, Requested json rt server conn request ∧
        server.handler? request.action = some handler ∧
        handlerCalls tr = [(handler, request.params)]) ∧
    (∀ tr r, Path (handleClient json rt server conn) tr (.done r) → Serialisable json tr →
      Answered json rt server conn tr) ∧
    (∀ (σ : Type) (o : σ → (c : Call η) → Except Exc (Reply c) × σ) (s : σ),
      ∃ r, (exec o (handleClient json rt server conn) s).2 = some r) ∧
    ∀ conn' request request', Requested json rt server conn request →
      Requested json rt server conn' request' →
      { request' with auditUser := request.auditUser } = request →
      handleClient json rt server conn = handleClient json rt server conn' := by
  exact ⟨fun tr q h => gate h, fun tr r h hserialisable => answered h hserialisable,
    fun σ o s => exec_of_ends o (ends_handleClient json rt server conn) s,
    fun conn' request request' h h' hsame => handleClient_congr h h' hsame⟩

end Gate

/-! ### Runs -/

/-- A request that names the user -/
def capabilitiesRequest (user : String) : IPCRequest :=
  ⟨"1", "system.capabilities", [], some user⟩

def capabilitiesJson : Json :=
  .knowing [(capabilitiesRequest "alice").toValue, (capabilitiesRequest "bob").toValue]

/-- A server with one action -/
def capabilitiesServer : IPCServer String :=
  ⟨.default, [("system.capabilities", "SystemManager.capabilities")]⟩

/-- Root makes the request. -/
def rootConnection (user : String) : Connection where
  credentials := some (.ok (100, 0, 0))
  getpwuid _ := .error ⟨.key, "getpwuid(): uid not found: 0"⟩
  getgrnam _ := .error ⟨.key, "getgrnam(): name not found: 'appliance-web'"⟩
  stream := ⟨(capabilitiesRequest user).line .writer |>.toOption.getD [], .stall, true⟩
  fresh := "2"

/-- The handler returns. -/
def capabilitiesRun : List (Event (Reply (η := String)) Exc) × Option (Except Exc Unit) :=
  exec (fun (_ : Unit) c => (match c with
    | .handle _ _ => .ok (.dict [("reboot", .bool true)])
    | .write _ | .drain | .close | .waitClosed => .ok (), ()))
    (handleClient capabilitiesJson .ascii capabilitiesServer (rootConnection "alice")) ()

theorem requested_alice : Requested capabilitiesJson .ascii capabilitiesServer
    (rootConnection "alice") (capabilitiesRequest "alice") := admitted_eq_ok_iff.1 rfl

theorem requested_bob : Requested capabilitiesJson .ascii capabilitiesServer
    (rootConnection "bob") (capabilitiesRequest "bob") := admitted_eq_ok_iff.1 rfl

/-- The request is answered, and it is handled in the same way for another user. -/
theorem capabilities_gate :
    Answered capabilitiesJson .ascii capabilitiesServer (rootConnection "alice") capabilitiesRun.1 ∧
      handleClient capabilitiesJson .ascii capabilitiesServer (rootConnection "alice") =
        handleClient capabilitiesJson .ascii capabilitiesServer (rootConnection "bob") := by
  obtain ⟨-, hanswered, -, hsame⟩ :=
    handleClient_gate capabilitiesJson .ascii capabilitiesServer (rootConnection "alice")
  have hpath : Path (handleClient capabilitiesJson .ascii capabilitiesServer (rootConnection "alice"))
      capabilitiesRun.1 (.done (.ok ())) := path_of_exec _ _ _ (by decide +kernel)
  refine ⟨hanswered _ _ hpath ?_, hsame _ _ _ requested_alice requested_bob rfl⟩
  rintro result ⟨handler, params, hmem⟩
  have hresult : ∀ e ∈ capabilitiesRun.1, ∀ handler params result,
      e = ⟨.handle handler params, .ok result⟩ → result = .dict [("reboot", .bool true)] := by
    refine forall_exec (fun _ c handler params result heq => ?_) _ ()
    cases c with
    | handle _ _ => cases heq; rfl
    | _ => cases heq
  rw [hresult _ hmem _ _ _ rfl]
  exact ⟨_, rfl⟩

end ApplianceAdmin.Ipc
