import ApplianceAdmin.Daemon.Served
import ApplianceAdmin.Network.Surface
import ApplianceAdmin.System.Surface
import ApplianceAdmin.Web.Gate

/-!
# The web interface and the daemon agree

Both ends check the parameters of an action, each in its own way.  What passes the checks of a route
passes those of the daemon, and means the same there.

* `validate_modelDump`, `validatedUuid_uuidText`: the parameters of one kind are read back;
* `Understood`: the daemon takes the parameters for what the request has said;
* `web_understood`: every request of the web interface is accepted and understood, but for the
  services that the daemon does not allow.
-/

namespace ApplianceAdmin

open Python

/-! ### Parameters that are read back -/

theorem strField_str {b : StrBounds} {s : String} (hmin : b.minLength ≤ s.length)
    (hmax : s.length ≤ b.maxLength) : strField b anyText (.str s) = .ok s :=
  checkText_eq_ok_iff.2 ⟨rfl, hmin, hmax, rfl⟩

/-- A validated request to join a network is read back from its parameters. -/
theorem WifiConnectRequest.validate_modelDump {rt rt' : Runtime} {params : Dict}
    {body : WifiConnectRequest} (h : validate rt params = .ok body) :
    validate rt' body.modelDump = .ok body := by
  have hfields : (1 ≤ body.ssid.length ∧ body.ssid.length ≤ 32) ∧
      ∀ password ∈ body.password, 8 ≤ password.length ∧ password.length ≤ 63 := by
    unfold validate at h
    simp only at h
    split at h
    · rename_i ssid password hidden hssid hpassword hhidden
      cases h
      refine ⟨?_, fun s hs => ?_⟩
      · obtain ⟨v, hv⟩ := required_eq_ok hssid
        obtain ⟨hmin, hmax, -⟩ := strField_spec hv
        exact ⟨hmin, hmax⟩
      · cases hs
        rcases optional_eq_ok hpassword with hnone | ⟨v, hv⟩
        · cases hnone
        · obtain ⟨hmin, hmax, -⟩ := strField_spec (nullable_eq_ok hv)
          exact ⟨hmin, hmax⟩
    · cases h
  obtain ⟨ssid, password, hidden⟩ := body
  obtain ⟨⟨hmin, hmax⟩, hpassword⟩ := hfields
  have hssid : required (modelDump ⟨ssid, password, hidden⟩) "ssid" (strField ssidBounds anyText) =
      .ok ssid := by
    show (strField ssidBounds anyText (.str ssid)).mapError _ = _
    rw [strField_str hmin hmax]
    rfl
  have hpass : optional (modelDump ⟨ssid, password, hidden⟩) "password" none
      (nullable (strField passwordBounds anyText)) = .ok password := by
    cases password with
    | none => rfl
    | some s =>
      obtain ⟨hmin, hmax⟩ := hpassword s rfl
      show ((strField passwordBounds anyText (.str s)).map some).mapError _ = _
      rw [strField_str hmin hmax]
      rfl
  unfold validate
  rw [hssid, hpass]
  rfl

/-- The canonical text of a UUID is accepted as itself. -/
theorem Network.validatedUuid_uuidText (rt : Runtime) (uuid : UUID) (action : String) :
    Network.validatedUuid rt [("uuid", .str (uuidText uuid.int))] action =
      .ok (uuidText uuid.int) := by
  rw [Network.validatedUuid]
  simp only [toStr, Value.toStr_str]
  rw [parseUuid_uuidText uuid.int_lt]

/-- The fields of a request within the bounds are accepted. -/
theorem IPCRequest.validate_fields {rt : Runtime} {fresh action : String} {params : Dict}
    {user : String} (hmin : 1 ≤ action.length) (hmax : action.length ≤ 128)
    (huser : user.length ≤ 128) : validate rt fresh (fields action params (some user)) =
      .ok ⟨fresh, action, params, some user⟩ := by
  have haction : required (fields action params (some user)) "action"
      (strField actionBounds anyText) = .ok action := by
    show (strField actionBounds anyText (.str action)).mapError _ = _
    rw [strField_str hmin hmax]
    rfl
  have hauditUser : optional (fields action params (some user)) "audit_user" none
      (nullable (strField auditUserBounds anyText)) = .ok (some user) := by
    show ((strField auditUserBounds anyText (.str user)).map some).mapError _ = _
    rw [strField_str (Nat.zero_le _) huser]
    rfl
  unfold validate
  rw [haction, hauditUser]
  rfl

namespace Web

open Async Async.Prog Daemon Ipc

/-! ### What the daemon understands -/

/-- What the daemon makes of a service: it is refused exactly when its name is not that of a unit or
is not in the allowlist. -/
def ServiceUnderstood (d : Managers) (params : Dict) (service : String) : Prop :=
  System.serviceParam d.rt params = service ∧
    ∀ unit, System.validateService d.system d.rt service = .ok unit ↔
      unit = service ∧ System.serviceRe service.toList = true ∧ service ∈ d.system.allowedServices

/-- The daemon takes the parameters of the action for what has been asked on the web. -/
def Understood (app : WebApp) (d : Managers) (action : String) (params : Dict) : Request → Prop
  | .healthz => False
  | .networkStatus => d.operation? action params = some (.status [])
  | .wifiScan force => d.operation? action params = some (.scan params) ∧
      ∃ asked, forceParam force = some asked ∧ params = [("force", .bool asked)]
  | .wifiConnect body => d.operation? action params = some (.connect d.uuid params) ∧
      ∃ asked, bodyParam app.rt body = some asked ∧
        WifiConnectRequest.validate d.rt params = .ok asked
  | .wifiDisconnect => d.operation? action params = some (.disconnect [])
  | .networkProfiles => d.operation? action params = some (.profiles [])
  | .activateProfile profileUuid => d.operation? action params = some (.activateProfile params) ∧
      ∃ uuid, app.readUuid profileUuid = some uuid ∧
        Network.validatedUuid d.rt params "network.profile.activate" = .ok (uuidText uuid.int)
  | .deleteProfile profileUuid => d.operation? action params = some (.deleteProfile params) ∧
      ∃ uuid, app.readUuid profileUuid = some uuid ∧
        Network.validatedUuid d.rt params "network.profile.delete" = .ok (uuidText uuid.int)
  | .serviceStatus service => action = "service.status" ∧ ServiceUnderstood d params service
  | .serviceAction service verb => action = "service." ++ verb ∧
      verb ∈ ["start", "stop", "restart"] ∧ ServiceUnderstood d params service
  | .reboot => action = "system.reboot" ∧ System.Valid d.system d.rt params action
  | .poweroff => action = "system.poweroff" ∧ System.Valid d.system d.rt params action

section Understood

variable {app : WebApp} {d : Managers} {settings : DaemonSettings} {request : Request}
  {action fresh user : String} {params : Dict}

theorem serviceUnderstood {service : String} (h : serviceParams app.rt service = some params) :
    ServiceUnderstood d params service := by
  unfold serviceParams at h
  cases hbody : ServiceActionRequest.make app.rt service with
  | error exc =>
    rw [hbody] at h
    cases h
  | ok body =>
    rw [hbody] at h
    cases h
    have hcheck : strField ServiceActionRequest.serviceBounds anyText (.str service) =
        .ok body.service := by
      unfold ServiceActionRequest.make at hbody
      split at hbody
      · rename_i text htext
        cases hbody
        exact htext
      · cases hbody
    obtain ⟨heq, hmin, hmax, -⟩ := checkText_eq_ok_iff.1 hcheck
    have hmake : ServiceActionRequest.make d.rt service = .ok ⟨service⟩ := by
      rw [ServiceActionRequest.make, strField_str hmin hmax]
    refine ⟨?_, fun unit => ?_⟩
    · show body.service = service
      rw [heq]
    · rw [System.validateService, hmake]
      simp only
      split_ifs with hre hallowed
      · refine ⟨fun h => ?_, fun h => ?_⟩
        · cases h
        · rw [h.2.1] at hre
          cases hre
      · refine ⟨fun h => ?_, fun h => by rw [h.1]⟩
        cases h
        exact ⟨rfl, by simpa using hre, hallowed⟩
      · refine ⟨fun h => ?_, fun h => absurd h.2.2 hallowed⟩
        cases h

/-- A body that is accepted has been validated. -/
theorem exists_of_bodyParam {rt : Runtime} {body : Body} {asked : WifiConnectRequest}
    (h : bodyParam rt body = some asked) :
    ∃ rt fields, WifiConnectRequest.validate rt fields = .ok asked := by
  unfold bodyParam at h
  split at h
  · rename_i fields
    refine ⟨rt, fields, ?_⟩
    cases hvalid : WifiConnectRequest.validate rt fields with
    | ok made =>
      rw [hvalid] at h
      cases h
      rfl
    | error exc =>
      rw [hvalid] at h
      cases h
  · cases h

/-- The actions that the web interface asks for -/
def webActions : List String :=
  ["network.status", "wifi.scan", "wifi.connect", "wifi.disconnect", "network.profiles",
    "network.profile.activate", "network.profile.delete", "service.status", "service.start",
    "service.stop", "service.restart", "system.reboot", "system.poweroff"]

/-- What a request asks for is understood. -/
theorem understood_of_asks (h : request.asks app = some (action, params)) :
    action ∈ webActions ∧ Understood app d action params request := by
  cases request with
  | healthz => cases h
  | networkStatus =>
    cases h
    exact ⟨by decide, rfl⟩
  | wifiScan force =>
    obtain ⟨asked, hforce, heq⟩ := Option.map_eq_some_iff.1 h
    cases heq
    exact ⟨by decide, rfl, asked, hforce, rfl⟩
  | wifiConnect body =>
    obtain ⟨asked, hbody, heq⟩ := Option.map_eq_some_iff.1 h
    cases heq
    obtain ⟨rt, fields, hvalid⟩ := exists_of_bodyParam hbody
    exact ⟨by decide, rfl, asked, hbody, WifiConnectRequest.validate_modelDump hvalid⟩
  | wifiDisconnect =>
    cases h
    exact ⟨by decide, rfl⟩
  | networkProfiles =>
    cases h
    exact ⟨by decide, rfl⟩
  | activateProfile profileUuid =>
    obtain ⟨uuid, huuid, heq⟩ := Option.map_eq_some_iff.1 h
    cases heq
    exact ⟨by decide, rfl, uuid, huuid, Network.validatedUuid_uuidText d.rt uuid _⟩
  | deleteProfile profileUuid =>
    obtain ⟨uuid, huuid, heq⟩ := Option.map_eq_some_iff.1 h
    cases heq
    exact ⟨by decide, rfl, uuid, huuid, Network.validatedUuid_uuidText d.rt uuid _⟩
  | serviceStatus service =>
    obtain ⟨_, hparams, heq⟩ := Option.map_eq_some_iff.1 h
    cases heq
    exact ⟨by decide, rfl, serviceUnderstood hparams⟩
  | serviceAction service verb =>
    rw [Request.asks] at h
    split_ifs at h with hverb
    obtain ⟨_, hparams, heq⟩ := Option.map_eq_some_iff.1 h
    cases heq
    refine ⟨?_, rfl, hverb, serviceUnderstood hparams⟩
    fin_cases hverb <;> decide
  | reboot =>
    cases h
    exact ⟨by decide, rfl, rfl⟩
  | poweroff =>
    cases h
    exact ⟨by decide, rfl, rfl⟩

theorem length_of_mem_webActions (h : action ∈ webActions) :
    1 ≤ action.length ∧ action.length ≤ 128 := by
  have hall : ∀ action ∈ webActions, 1 ≤ action.length ∧ action.length ≤ 128 := by decide
  exact hall action h

/-- Every action of the web interface has a handler. -/
theorem registered_of_mem_webActions (h : action ∈ webActions) :
    ((d.server settings).handler? action).isSome = true := by
  unfold webActions at h
  fin_cases h <;> rfl

/-- The parameters pass the checks of the operation. -/
theorem valid_of_understood {op : Network.Operation} (h : Understood app d action params request)
    (hop : d.operation? action params = some op) : op.Valid d.rt := by
  have hsame {op' : Network.Operation} (h' : d.operation? action params = some op') : op = op' :=
    Option.some.inj (hop.symm.trans h')
  cases request with
  | healthz => cases h
  | networkStatus | wifiDisconnect | networkProfiles =>
    rw [hsame h]
    exact rfl
  | wifiScan force =>
    obtain ⟨hscan, asked, -, rfl⟩ := h
    rw [hsame hscan]
    exact fun entry hentry => by rw [List.mem_singleton.1 hentry]
  | wifiConnect body =>
    obtain ⟨hconnect, asked, -, hvalid⟩ := h
    rw [hsame hconnect]
    exact ⟨asked, hvalid⟩
  | activateProfile profileUuid | deleteProfile profileUuid =>
    obtain ⟨hprofile, uuid, -, hvalid⟩ := h
    rw [hsame hprofile]
    exact ⟨_, hvalid⟩
  | serviceStatus service =>
    rw [h.1] at hop
    cases hop
  | serviceAction service verb =>
    obtain ⟨rfl, hverb, -⟩ := h
    fin_cases hverb <;> cases hop
  | reboot | poweroff =>
    rw [h.1] at hop
    cases hop

/-- **What the web interface sends is understood.**  The one line that a request sends to the daemon
is that of a request which the model of the daemon's end accepts as the same one, whose action has a
handler, whose parameters pass the checks of the operation, and which the daemon takes for what has
been asked on the web; of a service it checks in addition that it is allowed. -/
theorem lines_understood {credentials : Option Credentials} {tr : List (Event ClientReply ClientExc)}
    {q : Proc Response} (h : Path (app.respond fresh credentials request) tr q)
    {e : Event ClientReply ClientExc} (he : e ∈ tr) {line : List UInt8} (hwrite : e.call = .write line) :
    ∃ made : IPCRequest, made.id = fresh ∧ made.line app.json = .ok line ∧
      (∀ json fresh', json.loads line = some made.toValue →
        IPCRequest.modelValidateJson json d.rt fresh' line = .ok made) ∧
      ((d.server settings).handler? made.action).isSome = true ∧
      (∀ op, d.operation? made.action made.params = some op → op.Valid d.rt) ∧
      Understood app d made.action made.params request := by
  obtain ⟨given, username, claims, action, params, line', -, -, hasks, hline, -, hspeaks, -⟩ :=
    speaks_of_respond h (List.ne_nil_of_mem he)
  obtain rfl := hspeaks.write_eq he hwrite
  obtain ⟨haction, hunderstood⟩ := understood_of_asks (d := d) hasks
  obtain ⟨hmin, hmax⟩ := length_of_mem_webActions haction
  have huser : (firstChars 128 username).length ≤ 128 := by
    rw [firstChars, String.length_ofList, List.length_take]
    exact min_le_left _ _
  refine ⟨⟨fresh, action, params, some (firstChars 128 username)⟩, rfl, hline, fun json fresh' hloads => ?_,
    registered_of_mem_webActions haction, fun op => valid_of_understood hunderstood, hunderstood⟩
  rw [IPCRequest.modelValidateJson, hloads]
  exact (IPCRequest.validate_toValue (IPCRequest.validate_fields hmin hmax huser)).2 fresh' _ rfl

end Understood

/-! ### A run -/

/-- A request to join a network -/
def joinHome : Request :=
  .wifiConnect (.json (.dict [("ssid", .str "home"), ("password", .str "password-one")]))

/-- The request, whose line has been sent -/
def joining : List (Event ClientReply ClientExc) :=
  (advance sending 2 (webApp.respond "1" (some aliceCredentials) joinHome) ()).1

/-- Is this the write of a line? -/
def isWrite (e : Event ClientReply ClientExc) : Bool :=
  match e.call with
  | .write _ => true
  | _ => false

theorem joining_understood : ∃ e ∈ joining, ∃ line made, e.call = .write line ∧
    IPCRequest.id made = "1" ∧ made.line .writer = .ok line ∧
    ((defaultManagers.server .default).handler? made.action).isSome = true ∧
    Understood webApp defaultManagers made.action made.params joinHome := by
  have hwritten : ∃ e ∈ joining, isWrite e = true := by decide +kernel
  obtain ⟨e, he, hwrite⟩ := hwritten
  obtain ⟨line, hline⟩ : ∃ line, e.call = .write line := by
    unfold isWrite at hwrite
    split at hwrite
    · exact ⟨_, by assumption⟩
    · cases hwrite
  obtain ⟨made, hid, hmade, -, hregistered, -, hunderstood⟩ :=
    lines_understood (path_advance sending 2 _ ()) he hline
  exact ⟨e, he, line, made, hline, hid, hmade, hregistered, hunderstood⟩

end Web

end ApplianceAdmin
