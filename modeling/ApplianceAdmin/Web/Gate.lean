import ApplianceAdmin.Ipc.Conversation
import ApplianceAdmin.Web.App

/-!
# Who reaches the daemon

A request to the web interface makes at most one call to the daemon, and only for an administrator.

* `Request.asks`: the action and the parameters that a request stands for, when it passes the checks
  of the route; `Request.answer`: the response to what the call comes to;
* `respond_eq`, `respond_idle`: a request is this one call, or none;
* `admins_only`: what is said on the socket, and for whom.
-/

namespace ApplianceAdmin.Web

open Async Async.Prog Ipc Python

/-! ### What a request stands for -/

/-- The parameters of an action on a service -/
def serviceParams (rt : Runtime) (service : String) : Option Dict :=
  (ServiceActionRequest.make rt service).toOption.map ServiceActionRequest.modelDump

/-- The action and the parameters that a request asks the daemon for -/
def Request.asks (app : WebApp) : Request → Option (String × Dict)
  | .healthz => none
  | .networkStatus => some ("network.status", [])
  | .wifiScan force => (forceParam force).map fun force => ("wifi.scan", [("force", .bool force)])
  | .wifiConnect body => (bodyParam app.rt body).map fun body => ("wifi.connect", body.modelDump)
  | .wifiDisconnect => some ("wifi.disconnect", [])
  | .networkProfiles => some ("network.profiles", [])
  | .activateProfile profileUuid => (app.readUuid profileUuid).map fun profileUuid =>
      ("network.profile.activate", [("uuid", .str (uuidText profileUuid.int))])
  | .deleteProfile profileUuid => (app.readUuid profileUuid).map fun profileUuid =>
      ("network.profile.delete", [("uuid", .str (uuidText profileUuid.int))])
  | .serviceStatus service => (serviceParams app.rt service).map fun params =>
      ("service.status", params)
  | .serviceAction service action =>
      if action ∈ ["start", "stop", "restart"] then
        (serviceParams app.rt service).map fun params => ("service." ++ action, params)
      else none
  | .reboot => some ("system.reboot", [])
  | .poweroff => some ("system.poweroff", [])

/-- The response to what the call to the daemon comes to -/
def Request.answer (app : WebApp) : Request → Except ClientExc Value → Response
  | .networkStatus, r => toResponse 200 (statusModel app.readInt) (invoked r)
  | .networkProfiles, r => toResponse 200 profilesModel (profilesOf (invoked r))
  | .serviceStatus _, r => toResponse 200 serviceModel (invoked r)
  | .healthz, r | .wifiScan _, r | .deleteProfile _, r => toResponse 200 some (invoked r)
  | .wifiConnect _, r | .wifiDisconnect, r | .activateProfile _, r | .serviceAction _ _, r
  | .reboot, r | .poweroff, r => toResponse 202 some (invoked r)

/-! ### One call or none -/

section Course

variable {app : WebApp} {fresh : String} {credentials : Option Credentials} {user : WebUser}
  {α : Type}

/-- The call to the daemon, with what is made of its outcome -/
def asking (app : WebApp) (fresh action : String) (params : Dict) (user : WebUser) {β : Type}
    (g : Except ClientExc Value → β) : Proc β :=
  (app.client.call app.json app.rt fresh action (some params) (some user.username)).follow fun r =>
    return g r

theorem follow_bind {C : Type} {R : C → Type} {ε α β γ : Type} (p : Prog R ε α)
    (k : Except ε α → Prog R ε β) (f : β → Prog R ε γ) :
    p.follow k >>= f = p.follow fun r => k r >>= f := by
  induction p with
  | done r => rfl
  | spin => rfl
  | call c k' ih => exact congrArg (Prog.call c) (funext ih)

theorem asking_bind {action : String} {params : Dict} {β γ : Type}
    (g : Except ClientExc Value → β) (f : β → γ) :
    (asking app fresh action params user g >>= fun b => return f b) =
      asking app fresh action params user fun r => f (g r) :=
  follow_bind _ _ _

/-- A route whose user is let in and whose parameters are accepted -/
theorem route_eq {argument : Option α} {statusCode : ℕ} {present : Present}
    {endpoint : WebUser → α → Endpoint} {a : α}
    (hadmin : requireAdmin app.rt app.jwt app.settings credentials = .ok user)
    (hargument : argument = some a) : route app credentials argument statusCode present endpoint = (do
      let result ← endpoint user a
      return toResponse statusCode present result) := by
  rw [route, hadmin, hargument]

/-- A route whose user is not let in -/
theorem route_refused {argument : Option α} {statusCode : ℕ} {present : Present}
    {endpoint : WebUser → α → Endpoint} {failure : Failure}
    (h : requireAdmin app.rt app.jwt app.settings credentials = .error failure) :
    route app credentials argument statusCode present endpoint = return .failure failure := by
  rw [route, h]

theorem invokeService_eq {service action : String} {params : Dict}
    (h : serviceParams app.rt service = some params) :
    invokeService app fresh user action service = asking app fresh action params user invoked := by
  unfold serviceParams at h
  unfold invokeService
  cases hbody : ServiceActionRequest.make app.rt service with
  | ok body =>
    rw [hbody] at h
    cases h
    rfl
  | error exc =>
    rw [hbody] at h
    cases h

/-- **A request with accepted parameters is the call that it stands for.** -/
theorem respond_eq {request : Request} {action : String} {params : Dict}
    (hadmin : requireAdmin app.rt app.jwt app.settings credentials = .ok user)
    (hasks : request.asks app = some (action, params)) :
    app.respond fresh credentials request =
      asking app fresh action params user (request.answer app) := by
  cases request with
  | healthz => cases hasks
  | networkStatus =>
    cases hasks
    exact (route_eq hadmin rfl).trans (asking_bind _ _)
  | wifiScan force =>
    obtain ⟨force', hforce, heq⟩ := Option.map_eq_some_iff.1 hasks
    cases heq
    exact (route_eq hadmin hforce).trans (asking_bind _ _)
  | wifiConnect body =>
    obtain ⟨body', hbody, heq⟩ := Option.map_eq_some_iff.1 hasks
    cases heq
    cases body with
    | malformed => cases hbody
    | absent => cases hbody
    | json v => exact (route_eq hadmin hbody).trans (asking_bind _ _)
  | wifiDisconnect =>
    cases hasks
    exact (route_eq hadmin rfl).trans (asking_bind _ _)
  | networkProfiles =>
    cases hasks
    refine (route_eq hadmin rfl).trans ?_
    have hprofiles : networkProfiles app fresh user =
        asking app fresh "network.profiles" [] user fun r => profilesOf (invoked r) :=
      asking_bind _ _
    exact (congrArg (· >>= _) hprofiles).trans (asking_bind _ _)
  | activateProfile profileUuid =>
    obtain ⟨profileUuid', huuid, heq⟩ := Option.map_eq_some_iff.1 hasks
    cases heq
    exact (route_eq hadmin huuid).trans (asking_bind _ _)
  | deleteProfile profileUuid =>
    obtain ⟨profileUuid', huuid, heq⟩ := Option.map_eq_some_iff.1 hasks
    cases heq
    exact (route_eq hadmin huuid).trans (asking_bind _ _)
  | serviceStatus service =>
    obtain ⟨_, hparams, heq⟩ := Option.map_eq_some_iff.1 hasks
    cases heq
    refine (route_eq hadmin rfl).trans ?_
    exact (congrArg (· >>= _) (invokeService_eq hparams)).trans (asking_bind _ _)
  | serviceAction service action' =>
    rw [Request.asks] at hasks
    split_ifs at hasks with haction
    obtain ⟨_, hparams, heq⟩ := Option.map_eq_some_iff.1 hasks
    cases heq
    refine (route_eq hadmin rfl).trans ?_
    have hservice : serviceAction app fresh user service action' =
        asking app fresh ("service." ++ action') params user invoked := by
      rw [serviceAction, if_neg (not_not.2 haction), invokeService_eq hparams]
    exact (congrArg (· >>= _) hservice).trans (asking_bind _ _)
  | reboot =>
    cases hasks
    exact (route_eq hadmin rfl).trans (asking_bind _ _)
  | poweroff =>
    cases hasks
    exact (route_eq hadmin rfl).trans (asking_bind _ _)

/-- The response to a request of somebody who is not let in -/
theorem respond_refused {request : Request} {failure : Failure}
    (h : requireAdmin app.rt app.jwt app.settings credentials = .error failure)
    (hrequest : request ≠ .healthz) : ∃ failure', app.respond fresh credentials request =
      (return .failure failure') ∧ (failure' = failure ∨
        failure' = .unprocessable ∧ request = .wifiConnect .malformed) := by
  cases request with
  | healthz => exact absurd rfl hrequest
  | wifiConnect body =>
    cases body with
    | malformed => exact ⟨.unprocessable, rfl, .inr ⟨rfl, rfl⟩⟩
    | absent | json v =>
      rw [WebApp.respond, route_refused h]
      · exact ⟨failure, rfl, .inl rfl⟩
      · rintro ⟨⟩
  | _ =>
    rw [WebApp.respond, route_refused h]
    exact ⟨failure, rfl, .inl rfl⟩

theorem route_rejected {argument : Option α} {statusCode : ℕ} {present : Present}
    {endpoint : WebUser → α → Endpoint}
    (hadmin : requireAdmin app.rt app.jwt app.settings credentials = .ok user)
    (h : ∀ a, argument = some a → ∃ failure, endpoint user a = return .error failure) :
    ∃ failure, route app credentials argument statusCode present endpoint =
      return .failure failure := by
  rw [route, hadmin]
  cases hargument : argument with
  | none => exact ⟨.unprocessable, rfl⟩
  | some a =>
    obtain ⟨failure, heq⟩ := h a hargument
    refine ⟨failure, ?_⟩
    simp only [heq]
    rfl

theorem invokeService_rejected {service action : String} (h : serviceParams app.rt service = none) :
    ∃ failure, invokeService app fresh user action service = return .error failure := by
  unfold serviceParams at h
  unfold invokeService
  cases hbody : ServiceActionRequest.make app.rt service with
  | ok body =>
    rw [hbody] at h
    cases h
  | error exc => exact ⟨.unhandled exc, rfl⟩

/-- The response to a request whose parameters do not pass the checks -/
theorem respond_rejected {request : Request}
    (hadmin : requireAdmin app.rt app.jwt app.settings credentials = .ok user)
    (hasks : request.asks app = none) (hrequest : request ≠ .healthz) : ∃ failure,
      app.respond fresh credentials request = return .failure failure := by
  have hnone {α : Type} {argument : Option α} {endpoint : WebUser → α → Endpoint}
      (h : argument = none) (a : α) (ha : argument = some a) :
      ∃ failure, endpoint user a = return .error failure := by
    rw [h] at ha
    cases ha
  cases request with
  | healthz => exact absurd rfl hrequest
  | wifiScan force => exact route_rejected hadmin (hnone (Option.map_eq_none_iff.1 hasks))
  | wifiConnect body =>
    cases body with
    | malformed => exact ⟨.unprocessable, rfl⟩
    | absent =>
      rw [WebApp.respond]
      · exact route_rejected hadmin (hnone rfl)
      · rintro ⟨⟩
    | json v => exact route_rejected hadmin (hnone (Option.map_eq_none_iff.1 hasks))
  | activateProfile profileUuid => exact route_rejected hadmin (hnone (Option.map_eq_none_iff.1 hasks))
  | deleteProfile profileUuid => exact route_rejected hadmin (hnone (Option.map_eq_none_iff.1 hasks))
  | serviceStatus service =>
    rw [WebApp.respond]
    exact route_rejected hadmin fun _ _ => invokeService_rejected (Option.map_eq_none_iff.1 hasks)
  | serviceAction service action =>
    rw [WebApp.respond]
    refine route_rejected hadmin fun _ _ => ?_
    unfold serviceAction
    rw [Request.asks] at hasks
    split_ifs at hasks with haction
    · rw [if_neg (not_not.2 haction)]
      exact invokeService_rejected (Option.map_eq_none_iff.1 hasks)
    · rw [if_pos haction]
      exact ⟨_, rfl⟩
  | networkStatus => cases hasks
  | wifiDisconnect => cases hasks
  | networkProfiles => cases hasks
  | reboot => cases hasks
  | poweroff => cases hasks

/-- A request is a complete response, or the one call that it stands for. -/
theorem respond_cases (app : WebApp) (fresh : String) (credentials : Option Credentials)
    (request : Request) : (∃ response, app.respond fresh credentials request = return response) ∨
      ∃ user action params, requireAdmin app.rt app.jwt app.settings credentials = .ok user ∧
        request.asks app = some (action, params) ∧ app.respond fresh credentials request =
          asking app fresh action params user (request.answer app) := by
  by_cases hrequest : request = .healthz
  · subst hrequest
    exact .inl ⟨_, rfl⟩
  cases hadmin : requireAdmin app.rt app.jwt app.settings credentials with
  | error failure =>
    obtain ⟨failure', heq, -⟩ := respond_refused hadmin hrequest
    exact .inl ⟨_, heq⟩
  | ok user =>
    cases hasks : request.asks app with
    | none =>
      obtain ⟨failure, heq⟩ := respond_rejected hadmin hasks hrequest
      exact .inl ⟨_, heq⟩
    | some asked => exact .inr ⟨user, asked.1, asked.2, rfl, rfl, respond_eq hadmin hasks⟩

/-- What is asked is one call of the client, from whose outcome the response is made. -/
theorem path_of_asking {action : String} {params : Dict} {β : Type}
    {g : Except ClientExc Value → β} {tr : List (Event ClientReply ClientExc)} {q : Proc β}
    (h : Path (asking app fresh action params user g) tr q) : ∃ q',
      Path (app.client.call app.json app.rt fresh action (some params) (some user.username)) tr q' ∧
      ∀ r, q = .done r → ∃ r', q' = .done r' ∧ r = .ok (g r') := by
  rcases h.of_follow with ⟨q', hq', rfl⟩ | ⟨r, first, rest, rfl, hfirst, hrest⟩
  · refine ⟨q', hq', fun r hr => ?_⟩
    cases q' with
    | done r' =>
      cases hr
      exact ⟨r', rfl, rfl⟩
    | spin => cases hr
    | call c k => cases hr
  · obtain ⟨rfl, rfl⟩ := hrest.of_done
    refine ⟨.done r, by rwa [List.append_nil], fun r' hr' => ?_⟩
    cases hr'
    exact ⟨r, rfl, rfl⟩

/-- A request that calls anything speaks with the line of the request that it stands for. -/
theorem speaks_of_respond {request : Request} {tr : List (Event ClientReply ClientExc)}
    {q : Proc Response} (h : Path (app.respond fresh credentials request) tr q) (hne : tr ≠ []) :
    ∃ given username claims action params line, credentials = some given ∧
      Admits app.rt app.jwt app.settings given username claims ∧
      request.asks app = some (action, params) ∧
      IPCRequest.line app.json ⟨fresh, action, params, some (firstChars 128 username)⟩ = .ok line ∧
      line.length ≤ app.client.maxBytes ∧ Speaks line tr ∧
      ∀ r, q = .done r → Phase.after tr = .ended := by
  rcases respond_cases app fresh credentials request with ⟨response, heq⟩ |
    ⟨user, action, params, hadmin, hasks, heq⟩
  · rw [heq] at h
    exact absurd h.of_done.1 hne
  · rw [heq] at h
    obtain ⟨q', hcall, hr⟩ := path_of_asking h
    obtain ⟨given, username, claims, hcredentials, hadmits, rfl⟩ := requireAdmin_eq_ok_iff.1 hadmin
    rcases speaks_of_call hcall with rfl | ⟨made, line, hmade, hline, hsize, hspeaks, hended⟩
    · exact absurd rfl hne
    obtain ⟨rfl, -⟩ := IPCRequest.validate_toValue hmade
    refine ⟨given, username, claims, action, params, line, hcredentials, hadmits, hasks, hline,
      hsize, hspeaks, fun r hdone => ?_⟩
    obtain ⟨r', hq', -⟩ := hr r hdone
    exact hended r' hq'

/-- **Only administrators reach the daemon.**  Somebody else gets the failure of the dependency and
nothing is called.  A request that calls anything is one that passes the checks of its route, and it
speaks with one line, which is the request that it stands for in the name of the administrator; when
it comes to its end, the connection is over, and there is a response. -/
theorem admins_only {request : Request} {tr : List (Event ClientReply ClientExc)} {q : Proc Response}
    (h : Path (app.respond fresh credentials request) tr q) :
    (∀ r, q = .done r → ∃ response, r = .ok response) ∧
    (∀ failure, requireAdmin app.rt app.jwt app.settings credentials = .error failure →
      request ≠ .healthz → tr = [] ∧ ∃ failure', q = .done (.ok (.failure failure')) ∧
        (failure' = failure ∨ failure' = .unprocessable ∧ request = .wifiConnect .malformed)) ∧
    (tr ≠ [] → ∃ given username claims action params line, credentials = some given ∧
      Admits app.rt app.jwt app.settings given username claims ∧
      request.asks app = some (action, params) ∧
      IPCRequest.line app.json ⟨fresh, action, params, some (firstChars 128 username)⟩ = .ok line ∧
      line.length ≤ app.client.maxBytes ∧ Speaks line tr ∧
      ∀ r, q = .done r → Phase.after tr = .ended) := by
  refine ⟨?_, fun failure hfailure hrequest => ?_, fun hne => ?_⟩
  · rintro r rfl
    rcases respond_cases app fresh credentials request with ⟨response, heq⟩ |
      ⟨user, action, params, -, -, heq⟩
    · rw [heq] at h
      obtain ⟨-, hr⟩ := h.of_done
      cases hr
      exact ⟨response, rfl⟩
    · rw [heq] at h
      obtain ⟨q', -, hr⟩ := path_of_asking h
      obtain ⟨r', -, rfl⟩ := hr _ rfl
      exact ⟨_, rfl⟩
  · obtain ⟨failure', heq, hfailure'⟩ := respond_refused hfailure hrequest
    rw [heq] at h
    obtain ⟨rfl, rfl⟩ := h.of_done
    exact ⟨rfl, failure', rfl, hfailure'⟩
  · exact speaks_of_respond h hne

end Course

/-! ### A run -/

/-- A process that knows one token -/
def webApp : WebApp where
  settings := .default "0123456789abcdef0123456789abcdef"
  client := .default
  json := .writer
  rt := .ascii
  jwt token _ :=
    if token = "token" then
      .ok [("sub", .str "alice"), ("role", .str "admin"), ("exp", .int 4102444800)]
    else .error .pyJwt
  readUuid := UUID.parse .ascii
  readInt := parseInt .ascii

/-- The credentials with that token -/
def aliceCredentials : Credentials := ⟨"Bearer", "token"⟩

/-- A socket on which everything is sent -/
def sending (_ : Unit) : (c : ClientCall) → Except ClientExc (ClientReply c) × Unit
  | .readline => (.ok [], ())
  | .openUnixConnection | .write _ | .drain | .close | .waitClosed => (.ok (), ())

/-- A request to disconnect, whose line has been sent -/
def disconnecting : List (Event ClientReply ClientExc) :=
  (advance sending 2 (webApp.respond "1" (some aliceCredentials) .wifiDisconnect) ()).1

theorem disconnecting_admitted : disconnecting.length = 2 ∧
    ∃ given username claims action params line, some aliceCredentials = some given ∧
      Admits .ascii webApp.jwt webApp.settings given username claims ∧
      Request.wifiDisconnect.asks webApp = some (action, params) ∧
      IPCRequest.line .writer ⟨"1", action, params, some (firstChars 128 username)⟩ = .ok line ∧
      line.length ≤ 65536 ∧ Speaks line disconnecting := by
  have hlength : disconnecting.length = 2 := by decide +kernel
  have hne : disconnecting ≠ [] := fun hnil => by
    rw [hnil] at hlength
    cases hlength
  obtain ⟨given, username, claims, action, params, line, hgiven, hadmits, hasks, hline, hsize,
    hspeaks, -⟩ := (admins_only (path_advance sending 2 _ ())).2.2 hne
  exact ⟨hlength, given, username, claims, action, params, line, hgiven, hadmits, hasks, hline,
    hsize, hspeaks⟩

end ApplianceAdmin.Web
