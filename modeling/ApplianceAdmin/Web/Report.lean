import ApplianceAdmin.Web.Contract

/-!
# What the web interface reports

A request of an administrator, the client, the socket, the daemon and the handler of the action,
from one end to the other.

* `errorOf`: the error that an exception of a handler is reported as;
* `callDaemon_reported`: what the client makes of any outcome of a handler;
* `presented`: a result of a handler passes the response model of its route unchanged;
* `web_reports`: the response tells the outcome of the handler, when the line of the daemon keeps to
  the limit, and that the daemon is unavailable when it does not.
-/

namespace ApplianceAdmin.Web

open Async Async.Prog Daemon Ipc Python

/-! ### Outcomes of a handler -/

/-- The error that the client reports of an exception of a handler -/
def errorOf (exc : Exc) : DaemonClientError :=
  match exc with
  | .pydantic message _ => ⟨message, "invalid_request"⟩
  | .admin cls message => ⟨message, cls.code⟩
  | .cancelled => ⟨"Operation timed out", "timeout"⟩
  | .py e =>
      if e.cls = .timeout then ⟨"Operation timed out", "timeout"⟩
      else ⟨"Internal daemon error", "internal_error"⟩

/-- What the caller of an action is to see of the outcome of its handler -/
def seen (r : Except Exc Value) : Except ClientExc Value := r.mapError fun exc => .client (errorOf exc)

/-- The exceptions for which the daemon counts as unavailable -/
def MakesUnavailable (exc : Exc) : Prop :=
  exc.isBackendUnavailable = true ∨ exc.isTimeout = true ∨ exc = .cancelled

instance (exc : Exc) : Decidable (MakesUnavailable exc) := inferInstanceAs (Decidable (_ ∨ _ ∨ _))

theorem isUnavailable_errorOf (exc : Exc) :
    isUnavailable (errorOf exc).code = true ↔ MakesUnavailable exc := by
  cases exc with
  | pydantic message errors =>
    refine ⟨fun h => ?_, fun h => ?_⟩
    · cases h
    · rcases h with h | h | h <;> cases h
  | cancelled => exact ⟨fun _ => .inr (.inr rfl), fun _ => rfl⟩
  | admin cls message =>
    constructor
    · intro h
      cases cls <;> first | exact .inl rfl | cases h
    · rintro (h | h | h)
      · cases cls <;> first | rfl | cases h
      · cases h
      · cases h
  | py e =>
    by_cases htimeout : e.cls = .timeout
    · rw [errorOf, if_pos htimeout]
      exact ⟨fun _ => .inr (.inl (decide_eq_true htimeout)), fun _ => rfl⟩
    · rw [errorOf, if_neg htimeout]
      refine ⟨fun h => ?_, ?_⟩
      · cases h
      rintro (h | h | h)
      · cases h
      · exact absurd (of_decide_eq_true h) htimeout
      · cases h

theorem unwrap_seen (id : String) (r : Except Exc Value) :
    unwrap { handled id r with result := some ((handled id r).result.getD .none) } = seen r := by
  cases r with
  | ok v => rfl
  | error exc =>
    cases exc with
    | py e =>
      by_cases htimeout : e.cls = .timeout
      · simp [handled, errorResponse, Exc.isException, Exc.isTimeout, htimeout, seen, errorOf, unwrap,
          Except.mapError]
      · simp [handled, errorResponse, Exc.isException, Exc.isTimeout, htimeout, seen, errorOf, unwrap,
          Except.mapError]
    | _ => rfl

/-! ### The socket -/

section Socket

variable {json : Json} {rt : Runtime} {η : Type} {daemon : Ipc.Daemon η} {fresh action : String}
  {params : Option Dict} {auditUser : Option String} {request : IPCRequest}
  {requestText text : String}

/-- Whatever the outcome of its handler, a request that reaches the daemon is answered with it; of a
response that is too long the client says that the daemon is unavailable. -/
theorem callDaemon_reported
    (h : Reaches json rt daemon fresh action params auditUser request requestText)
    (hresponse : Carries json (handled fresh daemon.outcome).toValue text) :
    ((messageLine text).length ≤ 65536 →
      daemon.callDaemon json rt .default fresh action params auditUser = some (seen daemon.outcome)) ∧
    (65536 < (messageLine text).length → ∃ message,
      daemon.callDaemon json rt .default fresh action params auditUser =
        some (.error (.client (.unavailable message)))) := by
  obtain ⟨hfields, hvalidate⟩ := IPCRequest.validate_toValue h.made
  have hpayload : request.line json = .ok (messageLine requestText) := by
    rw [IPCRequest.line, h.carried.dumps]
    rfl
  have hparse : IPCRequest.modelValidateJson json rt daemon.peer.fresh (messageLine requestText) =
      .ok request := by
    rw [IPCRequest.modelValidateJson, h.carried.loads]
    exact hvalidate _ _ rfl
  have hrequested := requested_of_line (json.oneLine_dumps _ _ h.carried.dumps) h.authorized
    (h.size.trans_eq h.default.symm) hparse
  obtain ⟨handler, hhandler⟩ := Option.isSome_iff_exists.1 h.registered
  have haction : request.action = action := by rw [hfields]
  have hid : request.id = fresh := by rw [hfields]
  rw [← haction] at hhandler
  rw [← hid] at hresponse
  have hlength : (messageLine text).length = (encode text).length + 1 := List.length_append
  have hmax : DaemonClient.default.maxBytes = 65536 := rfl
  have hlimit : defaultLimit = 65536 := rfl
  rw [Ipc.callDaemon_eq h.made hpayload h.size, answer_of_response hrequested hhandler hresponse]
  refine ⟨fun hshort => ?_, fun hlong => ?_⟩
  · rw [if_neg (by omega), exec_received_ok (by simp [messageLine]) (by omega)
      (modelValidateJson_of_carries hresponse), unwrap_seen]
  · split_ifs
    · exact ⟨_, exec_received_overrun _⟩
    · exact ⟨_, exec_received_long (by omega)⟩

end Socket

theorem exec_follow {C : Type} {R : C → Type} {ε α β σ : Type}
    (o : σ → (c : C) → Except ε (R c) × σ) (p : Prog R ε α) (g : Except ε α → β) (s : σ) :
    (exec o (p.follow fun r => pure (g r)) s).2 = (exec o p s).2.map fun r => .ok (g r) := by
  induction p generalizing s with
  | done r => rfl
  | spin => rfl
  | call c k ih => exact ih _ _

/-! ### Results -/

/-- The content of the response to a request, for a result of the handler -/
def Content (result : Value) : Request → Value → Prop
  | .networkProfiles, content => result = .dict [("profiles", content)]
  | _, content => content = result

/-- The status code of the response to a request that succeeds -/
def Request.statusCode : Request → ℕ
  | .healthz | .networkStatus | .wifiScan _ | .networkProfiles | .deleteProfile _
  | .serviceStatus _ => 200
  | .wifiConnect _ | .wifiDisconnect | .activateProfile _ | .serviceAction _ _ | .reboot
  | .poweroff => 202

section Results

variable {app : WebApp} {d : Managers} {action : String} {params : Dict} {request : Request}
  {p : Daemon.Proc Value} {tr : List (Event Daemon.Reply Exc)} {result : Value}

theorem exists_of_bind {C : Type} {R : C → Type} {α : Type} {p : Prog R Exc α} {f : α → Value}
    {tr : List (Event R Exc)} {v : Value}
    (h : Path (p >>= fun a => pure (f a)) tr (.done (.ok v))) : ∃ a, v = f a := by
  obtain ⟨a, first, rest, rfl, -, ha⟩ := h.of_bind
  obtain ⟨-, hv⟩ := Path.of_done (r := .ok (f a)) ha
  cases hv
  exact ⟨a, rfl⟩

/-- What the operation of an action returns -/
theorem Handling.of_operation {op : Network.Operation} (hp : Handling d action params p)
    (hsystem : System.handler d.system d.rt d.fuel action params = none)
    (hasked : d.operation? action params = some op)
    (hrun : Path p tr (.done (.ok result))) :
    ∃ inner, Path (op.handle d.network d.rt d.fuel) inner (.done (.ok result)) := by
  cases hp with
  | network op' asked eq =>
    subst eq
    obtain rfl := Option.some.inj (hasked.symm.trans asked)
    obtain ⟨inner, p', hpath, rfl, hp'⟩ := Path.of_onNetwork hrun
    obtain rfl := of_onNetwork_done hp'.symm
    exact ⟨inner, hpath⟩
  | system q asked eq =>
    rw [hsystem] at asked
    cases asked

theorem of_serviceStatus (hp : Handling d "service.status" params p)
    (hrun : Path p tr (.done (.ok result))) : ∃ reported : ServiceStatus, result = reported.modelDump := by
  cases hp with
  | network op asked eq => cases asked
  | system q asked eq =>
    subst eq
    cases asked
    obtain ⟨inner, p', hpath, rfl, hp'⟩ := Path.of_onSystem hrun
    obtain rfl := of_onSystem_done hp'.symm
    obtain ⟨r, first, rest, rfl, hfirst, hrest⟩ := Path.of_bind hpath
    obtain ⟨-, hresult⟩ := Path.of_done (r := .ok r.modelDump) hrest
    cases hresult
    obtain ⟨reported, -, last, -, -, hlast⟩ := Path.of_bind hfirst
    obtain ⟨-, hr⟩ := Path.of_done (r := .ok (System.Result.status reported)) hlast
    cases hr
    exact ⟨reported, rfl⟩

/-- The result of a handler passes the response model of the route. -/
theorem presented (hasks : request.asks app = some (action, params))
    (hp : Handling d action params p) (hrun : Path p tr (.done (.ok result))) : ∃ content,
      Content result request content ∧
      request.answer app (.ok result) = .success request.statusCode content := by
  cases request with
  | healthz => cases hasks
  | networkStatus =>
    cases hasks
    obtain ⟨inner, hinner⟩ := Handling.of_operation hp rfl rfl hrun
    obtain ⟨status, rfl⟩ := exists_of_bind hinner
    refine ⟨_, rfl, ?_⟩
    rw [Request.answer, invoked, toResponse, statusModel, NetworkStatus.modelField_modelDump]
    rfl
  | networkProfiles =>
    cases hasks
    obtain ⟨inner, hinner⟩ := Handling.of_operation hp rfl rfl hrun
    obtain ⟨profiles, rfl⟩ := exists_of_bind hinner
    refine ⟨_, rfl, ?_⟩
    have hprofiles : profilesOf (invoked (.ok (Network.profilesDump profiles))) =
        .ok (.list (profiles.map NetworkProfile.modelDump)) := rfl
    rw [Request.answer, hprofiles, toResponse, profilesModel,
      listField_map NetworkProfile.modelField_modelDump]
    rfl
  | serviceStatus service =>
    obtain ⟨_, -, heq⟩ := Option.map_eq_some_iff.1 hasks
    cases heq
    obtain ⟨reported, rfl⟩ := of_serviceStatus hp hrun
    refine ⟨_, rfl, ?_⟩
    rw [Request.answer, invoked, toResponse, serviceModel, ServiceStatus.modelField_modelDump]
    rfl
  | _ => exact ⟨result, rfl, rfl⟩

theorem answer_error (error : DaemonClientError) :
    request.answer app (.error (.client error)) = .failure (clientFailure error) := by
  cases request <;> rfl

end Results

/-! ### From one end to the other -/

/-- An administrator makes a request whose line reaches the daemon. -/
structure Delivered (app : WebApp) (d : Managers) (settings : DaemonSettings) (peer : Connection)
    (credentials : Option Credentials) (request : Request) (fresh action : String) (params : Dict)
    (requestText : String) : Prop where
  client : app.client = .default
  limit : settings.maxRequestBytes = DaemonSettings.default.maxRequestBytes
  authorized : Authorized settings peer
  asked : request.asks app = some (action, params)
  admitted : ∃ user, requireAdmin app.rt app.jwt app.settings credentials = .ok user ∧
    Carries app.json (IPCRequest.toValue ⟨fresh, action, params, some user.username⟩) requestText
  size : (messageLine requestText).length ≤ DaemonClient.default.maxBytes

/-- The response tells the outcome of the handler. -/
def Tells (request : Request) : Except Exc Value → Response → Prop
  | .ok result, response => ∃ content, Content result request content ∧
      response = .success request.statusCode content
  | .error exc, response =>
      response = .failure (.http (if MakesUnavailable exc then 503 else 400)
        (.dict [("error", .str (errorOf exc).code), ("detail", .str (errorOf exc).message)]) [])

/-- What comes back to the web interface over a socket to a daemon whose handler has this outcome;
the streams may notice an oversized line before or after its newline. -/
def responseTo (app : WebApp) (d : Managers) (settings : DaemonSettings) (peer : Connection)
    (credentials : Option Credentials) (request : Request) (fresh : String) (r : Except Exc Value)
    (separatorSeen : Bool) : Option (Except ClientExc Response) :=
  (exec (Ipc.Daemon.socket app.json app.rt ⟨d.server settings, peer, r, separatorSeen⟩)
    (app.respond fresh credentials request) []).2

section Reports

variable {app : WebApp} {d : Managers} {settings : DaemonSettings} {peer : Connection}
  {credentials : Option Credentials} {request : Request} {fresh action : String} {params : Dict}
  {requestText text : String} {p : Daemon.Proc Value} {tr : List (Event Daemon.Reply Exc)}
  {r : Except Exc Value} {separatorSeen : Bool}

/-- A delivered request reaches the handler of its action. -/
theorem Delivered.reaches
    (h : Delivered app d settings peer credentials request fresh action params requestText)
    (r : Except Exc Value) (separatorSeen : Bool) :
    ∃ user, requireAdmin app.rt app.jwt app.settings credentials = .ok user ∧
      Reaches app.json app.rt ⟨d.server settings, peer, r, separatorSeen⟩ fresh action (some params)
        (some user.username) ⟨fresh, action, params, some user.username⟩ requestText := by
  obtain ⟨user, hadmin, hcarries⟩ := h.admitted
  obtain ⟨haction, -⟩ := understood_of_asks (d := d) h.asked
  obtain ⟨hmin, hmax⟩ := length_of_mem_webActions haction
  exact ⟨user, hadmin, {
    default := h.limit
    made := IPCRequest.validate_fields hmin hmax (length_username_le hadmin)
    carried := hcarries
    size := h.size
    authorized := h.authorized
    registered := registered_of_mem_webActions haction }⟩

/-- **The web interface reports what has been done.**  An administrator's request that is delivered,
and for which the handler of its action runs to an end, gets a response that tells the outcome of
that run: its result, which passes the response model of the route, or its exception, as unavailable
exactly for a backend that is, a timeout and a cancellation.  Only where the line of the daemon is
too long, the response says that the daemon is unavailable. -/
theorem web_reports
    (h : Delivered app d settings peer credentials request fresh action params requestText)
    (hp : Handling d action params p) (hrun : Path p tr (.done r))
    (hresponse : Carries app.json (handled fresh r).toValue text) : ∃ response,
      responseTo app d settings peer credentials request fresh r separatorSeen =
        some (.ok response) ∧
      ((messageLine text).length ≤ 65536 → Tells request r response) ∧
      (65536 < (messageLine text).length → ∃ message,
        response = .failure (clientFailure (.unavailable message))) := by
  obtain ⟨user, hadmin, hreaches⟩ := h.reaches r separatorSeen
  obtain ⟨hshort, hlong⟩ := callDaemon_reported hreaches hresponse
  have heq : responseTo app d settings peer credentials request fresh r separatorSeen =
      (Ipc.Daemon.callDaemon app.json app.rt ⟨d.server settings, peer, r, separatorSeen⟩ .default
        fresh action (some params) (some user.username)).map fun r => .ok (request.answer app r) := by
    rw [responseTo, respond_eq hadmin h.asked, asking, exec_follow, h.client]
    rfl
  by_cases hlength : (messageLine text).length ≤ 65536
  · rw [heq, hshort hlength]
    refine ⟨_, rfl, fun _ => ?_, fun hlong => absurd hlength (not_le.2 hlong)⟩
    cases r with
    | ok result => exact presented h.asked hp hrun
    | error exc =>
      refine (answer_error _).trans ?_
      rw [clientFailure]
      simp only [isUnavailable_errorOf]
  · obtain ⟨message, hmessage⟩ := hlong (not_le.1 hlength)
    rw [heq, hmessage]
    exact ⟨_, rfl, fun hshort => absurd hshort hlength, fun _ => ⟨message, answer_error _⟩⟩

end Reports

/-! ### A run -/

/-- What `systemctl show` writes of a unit that has no unit file -/
def shown : System.Completed := ⟨0, encode "ActiveState=active\nSubState=running\nUnitFileState=\n", []⟩

/-- The answers on a machine where that is written -/
def showing : (c : Daemon.Call) → Except Exc (Daemon.Reply c)
  | .system (.spawn _ _) => .ok 7
  | .system (.communicate _ _) => .ok shown
  | c => calm c

/-- A request for the status of the service -/
def statusTimer : Request := .serviceStatus "ninja-timer.service"

/-- The request to the daemon that it stands for -/
def statusTimerMade : IPCRequest :=
  ⟨"1", "service.status", [("service", .str "ninja-timer.service")], some "alice"⟩

/-- The coroutine of the action -/
def statusTimerHandler : Daemon.Proc Value := systemHandler (fun params =>
  do return .status (← System.serviceStatus defaultManagers.system defaultManagers.rt params))
    statusTimerMade.params

/-- What the daemon reports -/
def timerStatus : Value :=
  .dict [("service", .str "ninja-timer.service"), ("active_state", .str "active"),
    ("sub_state", .str "running"), ("unit_file_state", .none)]

/-- A process whose library knows the request and the response -/
def statusTimerApp : WebApp :=
  { webApp with json := .knowing [statusTimerMade.toValue, (handled "1" (.ok timerStatus)).toValue] }

/-- The texts of both messages -/
def statusTimerText : String := (Json.writer.dumps statusTimerMade.toValue).toOption.getD ""

def timerStatusText : String :=
  (Json.writer.dumps (handled "1" (.ok timerStatus)).toValue).toOption.getD ""

theorem statusTimer_run :
    Path statusTimerHandler (exec (fun (_ : Unit) c => (showing c, ())) statusTimerHandler ()).1
      (.done (.ok timerStatus)) :=
  path_of_exec _ _ _ (by rfl)

theorem statusTimer_reported : ∃ response,
    responseTo statusTimerApp defaultManagers .default (rootConnection "alice")
      (some aliceCredentials) statusTimer "1" (.ok timerStatus) true = some (.ok response) ∧
    response = .success 200 timerStatus := by
  have hrequest : Json.writer.dumps statusTimerMade.toValue = .ok statusTimerText := by
    decide +kernel
  have hresponse : Json.writer.dumps (handled "1" (.ok timerStatus)).toValue = .ok timerStatusText := by
    decide +kernel
  have hne : messageLine statusTimerText ≠ messageLine timerStatusText := by decide +kernel
  have hmade : Carries statusTimerApp.json statusTimerMade.toValue statusTimerText :=
    ⟨by decide +kernel, loads_knowing_head hrequest⟩
  have hdelivered : Delivered statusTimerApp defaultManagers .default (rootConnection "alice")
      (some aliceCredentials) statusTimer "1" "service.status" statusTimerMade.params
      statusTimerText := {
    client := rfl
    limit := rfl
    authorized := requested_alice.1
    asked := rfl
    admitted := ⟨⟨"alice", true⟩, rfl, hmade⟩
    size := by decide +kernel }
  have hcarries : Carries statusTimerApp.json (handled "1" (.ok timerStatus)).toValue
      timerStatusText :=
    ⟨by decide +kernel, (loads_knowing_tail hrequest hne).trans (loads_knowing_head hresponse)⟩
  have hhandling : Handling defaultManagers "service.status" statusTimerMade.params
      statusTimerHandler := .system _ rfl rfl
  obtain ⟨response, heq, htells, -⟩ :=
    web_reports hdelivered hhandling statusTimer_run hcarries
  obtain ⟨content, rfl, hresponse⟩ := htells (by decide +kernel)
  exact ⟨response, heq, hresponse⟩

end ApplianceAdmin.Web
