import ApplianceAdmin.Async.Interpret
import ApplianceAdmin.Daemon.Results
import ApplianceAdmin.Ipc.Client
import ApplianceAdmin.Web.Auth

/-!
# The web interface

`create_app` of `web/app.py`: the routes, and what the framework does around an endpoint, which is
to let the user in, to check the parameters and to check the result.

* `Request`: a request, as it is routed, with its raw parameters;
* `invoke`: the call to the daemon; the endpoints under their names;
* `WebApp.respond`: the whole course of a request.
-/

namespace ApplianceAdmin

open Python

/-! ### Requests to the daemon -/

/-- `body.model_dump()` -/
def WifiConnectRequest.modelDump (body : WifiConnectRequest) : Dict :=
  [("ssid", .str body.ssid), ("password", optionalText body.password),
    ("hidden", .bool body.hidden)]

/-- `body.model_dump()` -/
def ServiceActionRequest.modelDump (body : ServiceActionRequest) : Dict :=
  [("service", .str body.service)]

namespace Web

open Async Async.Prog Ipc

/-- The body of a request -/
inductive Body
  | absent
  /-- A text that is not JSON -/
  | malformed
  | json (v : Value)

/-- A request, as it is routed. -/
inductive Request
  | healthz
  | networkStatus
  | wifiScan (force : Option String)
  | wifiConnect (body : Body)
  | wifiDisconnect
  | networkProfiles
  | activateProfile (profileUuid : String)
  | deleteProfile (profileUuid : String)
  | serviceStatus (service : String)
  | serviceAction (service action : String)
  | reboot
  | poweroff

/-- What is sent back. -/
inductive Response
  | success (statusCode : ℕ) (content : Value)
  | failure (failure : Failure)

/-- The application, with the client it makes and what it takes from its libraries: pydantic's
reading of UUIDs and integers among them -/
structure WebApp where
  settings : WebSettings
  client : DaemonClient
  json : Json
  rt : Runtime
  jwt : Jwt
  readUuid : String → Option UUID
  readInt : String → Option ℤ

/-- A coroutine of the web process, which calls on a connection to the daemon. -/
abbrev Proc := Prog ClientReply ClientExc

/-- What an endpoint returns or raises. -/
abbrev Endpoint := Proc (Except Failure Value)

/-! ### Endpoints -/

/-- The errors of the client for which the daemon counts as unavailable -/
def isUnavailable (code : String) : Bool :=
  code ∈ ["daemon_unavailable", "network_backend_unavailable", "timeout"]

/-- The `HTTPException` for an error of the client -/
def clientFailure (error : DaemonClientError) : Failure :=
  .http (if isUnavailable error.code then 503 else 400)
    (.dict [("error", .str error.code), ("detail", .str error.message)]) []

/-- `result[key]` -/
def subscript (key : String) : Value → Except PyError Value
  | .dict kv => Dict.item kv key
  | .list _ => .error ⟨.type, "list indices must be integers or slices, not str"⟩
  | .bytes _ => .error ⟨.type, "byte indices must be integers or slices, not str"⟩
  | .str _ => .error ⟨.type, "string indices must be integers, not 'str'"⟩
  | .none => .error ⟨.type, "'NoneType' object is not subscriptable"⟩
  | .bool _ => .error ⟨.type, "'bool' object is not subscriptable"⟩
  | .int _ => .error ⟨.type, "'int' object is not subscriptable"⟩
  | .float _ => .error ⟨.type, "'float' object is not subscriptable"⟩

/-- `result["profiles"]`, of a result -/
def profilesOf (result : Except Failure Value) : Except Failure Value :=
  result.bind fun result => (subscript "profiles" result).mapError fun e => .unhandled (.py e)

/-- What follows the call to the daemon -/
def invoked : Except ClientExc Value → Except Failure Value
  | .ok result => .ok result
  | .error (.client error) => .error (clientFailure error)
  | .error (.other exc) => .error (.unhandled exc)

section Endpoints

variable (app : WebApp) (fresh : String) (user : WebUser)

/-- `invoke` -/
def invoke (action : String) (params : Dict) : Endpoint :=
  (app.client.call app.json app.rt fresh action (some params) (some user.username)).follow fun r =>
    return invoked r

/-- `healthz` -/
def healthz : Endpoint := return .ok (.dict [("ok", .bool true)])

/-- `network_status` -/
def networkStatus : Endpoint := invoke app fresh user "network.status" []

/-- `wifi_scan` -/
def wifiScan (force : Bool) : Endpoint := invoke app fresh user "wifi.scan" [("force", .bool force)]

/-- `wifi_connect` -/
def wifiConnect (body : WifiConnectRequest) : Endpoint :=
  invoke app fresh user "wifi.connect" body.modelDump

/-- `wifi_disconnect` -/
def wifiDisconnect : Endpoint := invoke app fresh user "wifi.disconnect" []

/-- `network_profiles` -/
def networkProfiles : Endpoint := do
  let result ← invoke app fresh user "network.profiles" []
  return profilesOf result

/-- `activate_profile` -/
def activateProfile (profileUuid : UUID) : Endpoint :=
  invoke app fresh user "network.profile.activate" [("uuid", .str (uuidText profileUuid.int))]

/-- `delete_profile` -/
def deleteProfile (profileUuid : UUID) : Endpoint :=
  invoke app fresh user "network.profile.delete" [("uuid", .str (uuidText profileUuid.int))]

/-- The call with a `ServiceActionRequest(service=service)` as its parameters -/
def invokeService (action service : String) : Endpoint :=
  match ServiceActionRequest.make app.rt service with
  | .ok body => invoke app fresh user action body.modelDump
  | .error exc => return .error (.unhandled exc)

/-- `service_status` -/
def serviceStatus (service : String) : Endpoint :=
  invokeService app fresh user "service.status" service

/-- `service_action` -/
def serviceAction (service action : String) : Endpoint :=
  if action ∉ ["start", "stop", "restart"] then
    return .error (.http 404 (.str "Unknown service action") [])
  else invokeService app fresh user ("service." ++ action) service

/-- `reboot` -/
def reboot : Endpoint := invoke app fresh user "system.reboot" []

/-- `poweroff` -/
def poweroff : Endpoint := invoke app fresh user "system.poweroff" []

end Endpoints

/-! ### Routes -/

section Routes

variable (app : WebApp) (fresh : String) (credentials : Option Credentials)

/-- `force: bool = Query(default=False)` -/
def forceParam : Option String → Option Bool
  | none => some false
  | some text => (boolText text).toOption

/-- `body: WifiConnectRequest` -/
def bodyParam (rt : Runtime) : Body → Option WifiConnectRequest
  | .json (.dict params) => (WifiConnectRequest.validate rt params).toOption
  | _ => none

/-- The content of a response: the result, or what a response model makes of it -/
abbrev Present := Value → Option Value

/-- `response_model=NetworkStatus` -/
def statusModel (parse : String → Option ℤ) : Present := fun v =>
  ((modelField (NetworkStatus.modelValidate parse) v).toOption).map NetworkStatus.modelDump

/-- `response_model=list[NetworkProfile]` -/
def profilesModel : Present := fun v =>
  ((listField (modelField NetworkProfile.modelValidate) v).toOption).map fun profiles =>
    .list (profiles.map NetworkProfile.modelDump)

/-- `response_model=ServiceStatus` -/
def serviceModel : Present := fun v =>
  ((modelField ServiceStatus.modelValidate v).toOption).map ServiceStatus.modelDump

/-- The response to what an endpoint returns or raises -/
def toResponse (statusCode : ℕ) (present : Present) : Except Failure Value → Response
  | .ok result =>
      match present result with
      | some content => .success statusCode content
      | none => .failure .responseModel
  | .error failure => .failure failure

/-- A route with the dependency `require_admin`: the user comes first, then the parameters. -/
def route {α : Type} (argument : Option α) (statusCode : ℕ) (present : Present)
    (endpoint : WebUser → α → Endpoint) : Proc Response :=
  match requireAdmin app.rt app.jwt app.settings credentials with
  | .error failure => return .failure failure
  | .ok user =>
      match argument with
      | none => return .failure .unprocessable
      | some a => do
          let result ← endpoint user a
          return toResponse statusCode present result

/-- The course of a request -/
def WebApp.respond : Request → Proc Response
  | .healthz => do
      let result ← healthz
      return toResponse 200 some result
  | .networkStatus =>
      route app credentials (some ()) 200 (statusModel app.readInt) fun user _ =>
        networkStatus app fresh user
  | .wifiScan force =>
      route app credentials (forceParam force) 200 some fun user force =>
        wifiScan app fresh user force
  -- a body that is not JSON is rejected before the dependencies are solved
  | .wifiConnect .malformed => return .failure .unprocessable
  | .wifiConnect body =>
      route app credentials (bodyParam app.rt body) 202 some fun user body =>
        wifiConnect app fresh user body
  | .wifiDisconnect =>
      route app credentials (some ()) 202 some fun user _ => wifiDisconnect app fresh user
  | .networkProfiles =>
      route app credentials (some ()) 200 profilesModel fun user _ => networkProfiles app fresh user
  | .activateProfile profileUuid =>
      route app credentials (app.readUuid profileUuid) 202 some fun user profileUuid =>
        activateProfile app fresh user profileUuid
  | .deleteProfile profileUuid =>
      route app credentials (app.readUuid profileUuid) 200 some fun user profileUuid =>
        deleteProfile app fresh user profileUuid
  | .serviceStatus service =>
      route app credentials (some ()) 200 serviceModel fun user _ =>
        serviceStatus app fresh user service
  | .serviceAction service action =>
      route app credentials (some ()) 202 some fun user _ =>
        serviceAction app fresh user service action
  | .reboot => route app credentials (some ()) 202 some fun user _ => reboot app fresh user
  | .poweroff => route app credentials (some ()) 202 some fun user _ => poweroff app fresh user

end Routes

end Web

end ApplianceAdmin
