import ApplianceAdmin.Ipc.Messages
import ApplianceAdmin.Network.Connect
import ApplianceAdmin.Network.Scan
import ApplianceAdmin.System.Hostname

/-!
# What the handlers return

The results of both managers as the values that go over the socket, which are the `model_dump()` of
the models and the dictionaries around them, and the models as pydantic reads them back.

* `modelDump`: the value of a result;
* `Writable v`: the value can be written as JSON; every result is;
* `modelValidate`: what pydantic makes of a value; `modelField_modelDump`: a result is read back.
-/

namespace ApplianceAdmin

open Python Ipc

/-- The value of an optional integer -/
def optionalNumber : Option ℤ → Value
  | some n => .int n
  | none => .none

/-- The value of an optional truth value -/
def optionalFlag : Option Bool → Value
  | some b => .bool b
  | none => .none

/-- The value of a list of texts -/
def texts (xs : List String) : Value := .list (xs.map .str)

/-! ### Models -/

def WifiAccessPoint.modelDump (item : WifiAccessPoint) : Value :=
  .dict [("ssid", .str item.ssid), ("bssid", .str item.bssid), ("bssids", texts item.bssids),
    ("strength", .int item.strength), ("frequency_mhz", .int item.frequencyMhz),
    ("secured", .bool item.secured), ("active", .bool item.active)]

def InterfaceAddress.modelDump (item : InterfaceAddress) : Value :=
  .dict [("address", .str item.address), ("prefix", .int item.prefixLen)]

def NetworkRoute.modelDump (item : NetworkRoute) : Value :=
  .dict [("destination", .str item.destination), ("prefix", .int item.prefixLen),
    ("next_hop", optionalText item.nextHop), ("metric", optionalNumber item.metric)]

/-- The `Literal` of a kind -/
def InterfaceKind.name : InterfaceKind → String
  | .wifi => "wifi"
  | .ethernet => "ethernet"
  | .other => "other"

def NetworkInterface.modelDump (item : NetworkInterface) : Value :=
  .dict [("name", .str item.name), ("kind", .str item.kind.name), ("state", .str item.state),
    ("state_reason", optionalNumber item.stateReason), ("managed", .bool item.managed),
    ("carrier", optionalFlag item.carrier),
    ("active_connection", optionalText item.activeConnection),
    ("ipv4", .list (item.ipv4.map InterfaceAddress.modelDump)),
    ("gateway4", optionalText item.gateway4), ("dns4", texts item.dns4),
    ("routes4", .list (item.routes4.map NetworkRoute.modelDump))]

def NetworkStatus.modelDump (status : NetworkStatus) : Value :=
  .dict [("connectivity", .str status.connectivity),
    ("primary_connection", optionalText status.primaryConnection),
    ("wifi_ssid", optionalText status.wifiSsid),
    ("interfaces", .list (status.interfaces.map NetworkInterface.modelDump))]

def NetworkProfile.modelDump (item : NetworkProfile) : Value :=
  .dict [("id", .str item.id), ("uuid", .str item.uuid), ("type", .str item.type),
    ("interface_name", optionalText item.interfaceName), ("ssid", optionalText item.ssid),
    ("autoconnect", .bool item.autoconnect), ("active", .bool item.active)]

def ServiceStatus.modelDump (status : ServiceStatus) : Value :=
  .dict [("service", .str status.service), ("active_state", .str status.activeState),
    ("sub_state", .str status.subState), ("unit_file_state", optionalText status.unitFileState)]

/-! ### Dictionaries -/

namespace Network

def ScanResponse.modelDump (response : ScanResponse) : Value :=
  .dict [("cached", .bool response.cached),
    ("access_points", .list (response.accessPoints.map WifiAccessPoint.modelDump))]

/-- The items of `**details` -/
def ActivationDetails.items (details : ActivationDetails) : Dict :=
  [("connectivity", .str details.connectivity),
    ("addresses", .list (details.addresses.map InterfaceAddress.modelDump)),
    ("gateway", .str details.gateway), ("dns", texts details.dns)]

def ConnectResult.modelDump (result : ConnectResult) : Value :=
  .dict ([("accepted", .bool result.accepted), ("ssid", .str result.ssid),
    ("connection_path", .str result.connectionPath),
    ("active_connection_path", .str result.activeConnectionPath)] ++ result.details.items)

def DisconnectResult.modelDump (result : DisconnectResult) : Value :=
  .dict [("accepted", .bool result.accepted), ("interface", .str result.interface)]

/-- The result of `profiles` -/
def profilesDump (profiles : List NetworkProfile) : Value :=
  .dict [("profiles", .list (profiles.map NetworkProfile.modelDump))]

def ActivateResult.modelDump (result : ActivateResult) : Value :=
  .dict ([("accepted", .bool result.accepted), ("uuid", .str result.uuid),
    ("active_connection_path", .str result.activeConnectionPath)] ++ result.details.items)

def DeleteResult.modelDump (result : DeleteResult) : Value :=
  .dict [("deleted", .bool result.deleted), ("uuid", .str result.uuid)]

end Network

namespace System

def HostnameResult.modelDump (result : HostnameResult) : Value :=
  .dict [("hostname", .str result.hostname), ("local_hostname", .str result.localHostname),
    ("mdns_updated", .bool result.mdnsUpdated),
    ("recovery_local_hostname", .str result.recoveryLocalHostname),
    ("accepted", .bool result.accepted)]

def Capabilities.modelDump (result : Capabilities) : Value :=
  .dict [("hostname_live_mdns", .bool result.hostnameLiveMdns),
    ("hostname_transactional", .bool result.hostnameTransactional),
    ("recovery_local_hostname", .str result.recoveryLocalHostname)]

def Result.modelDump : Result → Value
  | .accepted => .dict [("accepted", .bool true)]
  | .service unit => .dict [("service", .str unit), ("accepted", .bool true)]
  | .status reported => reported.modelDump
  | .hostname change => change.modelDump
  | .capabilities known => known.modelDump

end System

/-! ### Writing -/

/-- The value can be written as JSON. -/
def Writable (v : Value) : Prop := ∀ json : Json, ∃ s, json.dumps v = .ok s

section Writable

@[simp] theorem writable_none : Writable .none := fun _ => ⟨_, rfl⟩

@[simp] theorem writable_bool (b : Bool) : Writable (.bool b) := fun _ => ⟨_, rfl⟩

@[simp] theorem writable_int (n : ℤ) : Writable (.int n) := fun _ => ⟨_, rfl⟩

@[simp] theorem writable_str (s : String) : Writable (.str s) := fun _ => ⟨_, rfl⟩

@[simp] theorem writable_optionalText (s : Option String) : Writable (optionalText s) := by
  cases s <;> exact fun _ => ⟨_, rfl⟩

@[simp] theorem writable_optionalNumber (n : Option ℤ) : Writable (optionalNumber n) := by
  cases n <;> exact fun _ => ⟨_, rfl⟩

@[simp] theorem writable_optionalFlag (b : Option Bool) : Writable (optionalFlag b) := by
  cases b <;> exact fun _ => ⟨_, rfl⟩

theorem writable_list {xs : List Value} (h : ∀ x ∈ xs, Writable x) : Writable (.list xs) := by
  intro json
  have hitems : ∃ items, json.dumpsList xs = .ok items := by
    induction xs with
    | nil => exact ⟨[], rfl⟩
    | cons x xs ih =>
      obtain ⟨hx, hxs⟩ := List.forall_mem_cons.1 h
      obtain ⟨s, hs⟩ := hx json
      obtain ⟨items, hitems⟩ := ih hxs
      exact ⟨s :: items, by rw [Json.dumpsList, hs, hitems]; rfl⟩
  obtain ⟨items, hitems⟩ := hitems
  exact ⟨_, by rw [Json.dumps, hitems]; rfl⟩

theorem writable_dict {kv : Dict} (h : ∀ e ∈ kv, Writable e.2) : Writable (.dict kv) := by
  intro json
  have hitems : ∃ items, json.dumpsDict kv = .ok items := by
    induction kv with
    | nil => exact ⟨[], rfl⟩
    | cons e kv ih =>
      obtain ⟨he, hkv⟩ := List.forall_mem_cons.1 h
      obtain ⟨s, hs⟩ := he json
      obtain ⟨items, hitems⟩ := ih hkv
      exact ⟨_ :: items, by rw [Json.dumpsDict, hs, hitems]; rfl⟩
  obtain ⟨items, hitems⟩ := hitems
  exact ⟨_, by rw [Json.dumps, hitems]; rfl⟩

theorem writable_map {α : Type} {dump : α → Value} (h : ∀ a, Writable (dump a)) (xs : List α) :
    Writable (.list (xs.map dump)) :=
  writable_list fun v hv => by
    obtain ⟨a, -, rfl⟩ := List.mem_map.1 hv
    exact h a

@[simp] theorem writable_texts (xs : List String) : Writable (texts xs) :=
  writable_map writable_str xs

@[simp] theorem writable_accessPoint (item : WifiAccessPoint) : Writable item.modelDump :=
  writable_dict (by simp)

@[simp] theorem writable_address (item : InterfaceAddress) : Writable item.modelDump :=
  writable_dict (by simp)

@[simp] theorem writable_route (item : NetworkRoute) : Writable item.modelDump :=
  writable_dict (by simp)

@[simp] theorem writable_interface (item : NetworkInterface) : Writable item.modelDump :=
  writable_dict (by simp [writable_map])

@[simp] theorem writable_status (status : NetworkStatus) : Writable status.modelDump :=
  writable_dict (by simp [writable_map])

@[simp] theorem writable_profile (item : NetworkProfile) : Writable item.modelDump :=
  writable_dict (by simp)

theorem writable_serviceStatus (status : ServiceStatus) : Writable status.modelDump :=
  writable_dict (by simp)

namespace Network

theorem writable_scan (response : ScanResponse) : Writable response.modelDump :=
  writable_dict (by simp [writable_map])

theorem writable_connect (result : ConnectResult) : Writable result.modelDump :=
  writable_dict (by simp [ActivationDetails.items, writable_map])

theorem writable_disconnect (result : DisconnectResult) : Writable result.modelDump :=
  writable_dict (by simp)

theorem writable_profiles (profiles : List NetworkProfile) : Writable (profilesDump profiles) :=
  writable_dict (by simp [writable_map])

theorem writable_activate (result : ActivateResult) : Writable result.modelDump :=
  writable_dict (by simp [ActivationDetails.items, writable_map])

theorem writable_delete (result : DeleteResult) : Writable result.modelDump :=
  writable_dict (by simp)

end Network

theorem System.writable_result (result : System.Result) : Writable result.modelDump := by
  cases result with
  | accepted => exact writable_dict (by simp)
  | service unit => exact writable_dict (by simp)
  | status reported => exact writable_serviceStatus reported
  | hostname change => exact writable_dict (by simp)
  | capabilities known => exact writable_dict (by simp)

end Writable

/-! ### Reading -/

/-- An `int` field; `parse` is how the library reads a text. -/
def intField (parse : String → Option ℤ) : Value → Except String ℤ
  | .int n => .ok n
  | .bool b => .ok (if b then 1 else 0)
  | .float x =>
      match x.value with
      | some q => if q.den = 1 then .ok q.num else .error "int_from_float"
      | none => .error "finite_number"
  | .str s =>
      match parse s with
      | some n => .ok n
      | none => .error "int_parsing"
  | .bytes bs =>
      match (String.fromUTF8? ⟨bs.toArray⟩).bind parse with
      | some n => .ok n
      | none => .error "int_parsing"
  | _ => .error "int_type"

/-- A `list` field; an error inside is one of the list. -/
def listField {α : Type} (check : Value → Except String α) : Value → Except String (List α)
  | .list xs => xs.mapM check
  | _ => .error "list_type"

/-- A field that is a model; an error of the model is one of the field. -/
def modelField {α : Type} (check : Dict → Except FieldError α) : Value → Except String α
  | .dict kv => (check kv).mapError (·.kind)
  | _ => .error "model_type"

/-- `Literal["wifi", "ethernet", "other"]` -/
def kindField : Value → Except String InterfaceKind
  | .str s =>
      if s = "wifi" then .ok .wifi
      else if s = "ethernet" then .ok .ethernet
      else if s = "other" then .ok .other
      else .error "literal_error"
  | _ => .error "literal_error"

section Models

variable (parse : String → Option ℤ)

def InterfaceAddress.modelValidate (kv : Dict) : Except FieldError InterfaceAddress := do
  let address ← required kv "address" textField
  let prefixLen ← required kv "prefix" (intField parse)
  return ⟨address, prefixLen⟩

def NetworkRoute.modelValidate (kv : Dict) : Except FieldError NetworkRoute := do
  let destination ← required kv "destination" textField
  let prefixLen ← required kv "prefix" (intField parse)
  let nextHop ← optional kv "next_hop" none (nullable textField)
  let metric ← optional kv "metric" none (nullable (intField parse))
  return ⟨destination, prefixLen, nextHop, metric⟩

def NetworkInterface.modelValidate (kv : Dict) : Except FieldError NetworkInterface := do
  let name ← required kv "name" textField
  let kind ← required kv "kind" kindField
  let state ← required kv "state" textField
  let stateReason ← optional kv "state_reason" none (nullable (intField parse))
  let managed ← required kv "managed" boolField
  let carrier ← optional kv "carrier" none (nullable boolField)
  let activeConnection ← optional kv "active_connection" none (nullable textField)
  let ipv4 ← optional kv "ipv4" []
    (listField (modelField (InterfaceAddress.modelValidate parse)))
  let gateway4 ← optional kv "gateway4" none (nullable textField)
  let dns4 ← optional kv "dns4" [] (listField textField)
  let routes4 ← optional kv "routes4" [] (listField (modelField (NetworkRoute.modelValidate parse)))
  return ⟨name, kind, state, stateReason, managed, carrier, activeConnection, ipv4, gateway4, dns4,
    routes4⟩

def NetworkStatus.modelValidate (kv : Dict) : Except FieldError NetworkStatus := do
  let connectivity ← required kv "connectivity" textField
  let primaryConnection ← optional kv "primary_connection" none (nullable textField)
  let wifiSsid ← optional kv "wifi_ssid" none (nullable textField)
  let interfaces ← optional kv "interfaces" []
    (listField (modelField (NetworkInterface.modelValidate parse)))
  return ⟨connectivity, primaryConnection, wifiSsid, interfaces⟩

def NetworkProfile.modelValidate (kv : Dict) : Except FieldError NetworkProfile := do
  let id ← required kv "id" textField
  let uuid ← required kv "uuid" textField
  let type ← required kv "type" textField
  let interfaceName ← optional kv "interface_name" none (nullable textField)
  let ssid ← optional kv "ssid" none (nullable textField)
  let autoconnect ← optional kv "autoconnect" false boolField
  let active ← optional kv "active" false boolField
  return ⟨id, uuid, type, interfaceName, ssid, autoconnect, active⟩

def ServiceStatus.modelValidate (kv : Dict) : Except FieldError ServiceStatus := do
  let service ← required kv "service" textField
  let activeState ← required kv "active_state" textField
  let subState ← required kv "sub_state" textField
  let unitFileState ← optional kv "unit_file_state" none (nullable textField)
  return ⟨service, activeState, subState, unitFileState⟩

end Models

section RoundTrip

variable {parse : String → Option ℤ} {α β : Type}

theorem required_bind {kv : Dict} {loc : String} {v : Value} {check : Value → Except String α} {a : α}
    (hget : kv.get? loc = some v) (hv : check v = .ok a) (f : α → Except FieldError β) :
    (required kv loc check >>= f) = f a := by
  rw [required, hget]
  simp only [hv]
  rfl

theorem optional_bind {kv : Dict} {loc : String} {v : Value} {default : α}
    {check : Value → Except String α} {a : α} (hget : kv.get? loc = some v) (hv : check v = .ok a)
    (f : α → Except FieldError β) : (optional kv loc default check >>= f) = f a := by
  rw [optional, hget]
  simp only [hv]
  rfl

theorem nullable_optionalText (s : Option String) :
    nullable textField (optionalText s) = .ok s := by cases s <;> rfl

theorem nullable_optionalNumber (n : Option ℤ) :
    nullable (intField parse) (optionalNumber n) = .ok n := by cases n <;> rfl

theorem nullable_optionalFlag (b : Option Bool) :
    nullable boolField (optionalFlag b) = .ok b := by cases b <;> rfl

theorem kindField_name (kind : InterfaceKind) : kindField (.str kind.name) = .ok kind := by
  cases kind <;> rfl

/-- The items of a list are read back when each one is. -/
theorem listField_map {dump : α → Value} {check : Value → Except String α}
    (h : ∀ a, check (dump a) = .ok a) (xs : List α) :
    listField check (.list (xs.map dump)) = .ok xs := by
  show (xs.map dump).mapM check = .ok xs
  induction xs with
  | nil => rfl
  | cons x xs ih =>
    rw [List.map_cons, List.mapM_cons, h, ih]
    rfl

theorem listField_texts (xs : List String) : listField textField (texts xs) = .ok xs :=
  @listField_map _ .str textField (fun _ => rfl) xs

theorem InterfaceAddress.modelField_modelDump (item : InterfaceAddress) :
    modelField (modelValidate parse) item.modelDump = .ok item := rfl

theorem NetworkRoute.modelField_modelDump (item : NetworkRoute) :
    modelField (modelValidate parse) item.modelDump = .ok item := by
  rw [modelDump, modelField, modelValidate, required_bind (by rfl) (by rfl), required_bind (by rfl) (by rfl),
    optional_bind (by rfl) (nullable_optionalText _), optional_bind (by rfl) (nullable_optionalNumber _)]
  rfl

theorem NetworkInterface.modelField_modelDump (item : NetworkInterface) :
    modelField (modelValidate parse) item.modelDump = .ok item := by
  rw [modelDump, modelField, modelValidate, required_bind (by rfl) (by rfl),
    required_bind (by rfl) (kindField_name _), required_bind (by rfl) (by rfl),
    optional_bind (by rfl) (nullable_optionalNumber _), required_bind (by rfl) (by rfl),
    optional_bind (by rfl) (nullable_optionalFlag _), optional_bind (by rfl) (nullable_optionalText _),
    optional_bind (by rfl) (listField_map InterfaceAddress.modelField_modelDump _),
    optional_bind (by rfl) (nullable_optionalText _), optional_bind (by rfl) (listField_texts _),
    optional_bind (by rfl) (listField_map NetworkRoute.modelField_modelDump _)]
  rfl

theorem NetworkStatus.modelField_modelDump (status : NetworkStatus) :
    modelField (modelValidate parse) status.modelDump = .ok status := by
  rw [modelDump, modelField, modelValidate, required_bind (by rfl) (by rfl),
    optional_bind (by rfl) (nullable_optionalText _), optional_bind (by rfl) (nullable_optionalText _),
    optional_bind (by rfl) (listField_map NetworkInterface.modelField_modelDump _)]
  rfl

theorem NetworkProfile.modelField_modelDump (item : NetworkProfile) :
    modelField modelValidate item.modelDump = .ok item := by
  rw [modelDump, modelField, modelValidate, required_bind (by rfl) (by rfl), required_bind (by rfl) (by rfl),
    required_bind (by rfl) (by rfl), optional_bind (by rfl) (nullable_optionalText _),
    optional_bind (by rfl) (nullable_optionalText _), optional_bind (by rfl) (by rfl), optional_bind (by rfl) (by rfl)]
  rfl

theorem ServiceStatus.modelField_modelDump (status : ServiceStatus) :
    modelField modelValidate status.modelDump = .ok status := by
  rw [modelDump, modelField, modelValidate, required_bind (by rfl) (by rfl), required_bind (by rfl) (by rfl),
    required_bind (by rfl) (by rfl), optional_bind (by rfl) (nullable_optionalText _)]
  rfl

end RoundTrip

end ApplianceAdmin
