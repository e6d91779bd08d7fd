import ApplianceAdmin.Network.Frame
import ApplianceAdmin.Network.Lookup
import ApplianceAdmin.Python.Utf8

/-!
# The status of the network

What `status` reports of the devices that the bus lists.

* `Adapter`, `Machine`: a device, and all that the bus shows while `status` reads it;
* `Adapter.entry`, `Adapter.ssid`: what one device is reported as;
* `Machine.status`, `status_showing`: the report, in which the last Wi-Fi device with an access
  point decides on the SSID;
* `status_ssid_iff`: when that is the SSID of the configured interface.
-/

namespace ApplianceAdmin.Network

open Async Async.Prog Async.Monitor Python

/-! ### Devices -/

/-- An object on the bus, with what is read from it; the path `/` stands for none. -/
structure BusObject (α : Type) where
  path : String
  value : α
  exists_path : path ≠ "/"

/-- The path by which a property refers to an object, or to none -/
def pathOf {α : Type} : Option (BusObject α) → String
  | none => "/"
  | some object => object.path

/-- A device as it is on the bus. -/
structure Adapter where
  path : String
  name : String
  deviceType : ℤ
  state : ℤ
  /-- The reason for the state. -/
  reason : ℤ
  managed : Bool
  carrier : Bool
  /-- The active connection, with its name. -/
  connection : Option (BusObject String)
  ip4 : Option (BusObject Ip4Details)
  /-- The active access point, with the octets of its SSID. -/
  accessPoint : Option (BusObject (List UInt8))

namespace Adapter

def kind (d : Adapter) : InterfaceKind := interfaceKind d.deviceType

/-- The SSID of the access point of a Wi-Fi device -/
def ssid (d : Adapter) : Option String :=
  if d.kind = .wifi then d.accessPoint.map fun ap => decodeReplace ap.value else none

def details (d : Adapter) : Ip4Details := (d.ip4.map (·.value)).getD ⟨[], none, [], []⟩

/-- The interface that the device is reported as -/
def entry (d : Adapter) : NetworkInterface where
  name := d.name
  kind := d.kind
  state := deviceStateName d.state
  stateReason := some d.reason
  managed := d.managed
  carrier := if d.kind = .ethernet then some d.carrier else none
  activeConnection := d.connection.map (·.value)
  ipv4 := d.details.addresses
  gateway4 := d.details.gateway
  dns4 := d.details.dns
  routes4 := d.details.routes

/-- The properties of the device -/
structure Shows (d : Adapter) (props : Dict) : Prop where
  interface : props.get? "Interface" = some (.str d.name)
  deviceType : props.get? "DeviceType" = some (.int d.deviceType)
  state : props.get? "State" = some (.int d.state)
  reason : ∃ before, props.get? "StateReason" = some (.list [.int before, .int d.reason])
  managed : props.get? "Managed" = some (.bool d.managed)
  connection : props.get? "ActiveConnection" = some (.str (pathOf d.connection))
  ip4 : props.get? "Ip4Config" = some (.str (pathOf d.ip4))

/-- A device that `_wifi_device` takes for the one that is configured -/
def IsConfigured (m : NetworkManager) (d : Adapter) : Prop :=
  d.deviceType = deviceTypeWifi ∧ d.name = m.wifiInterface

instance (m : NetworkManager) (d : Adapter) : Decidable (d.IsConfigured m) :=
  inferInstanceAs (Decidable (_ ∧ _))

/-- The device is managed and can be used. -/
structure IsReady (d : Adapter) : Prop where
  managed : d.managed = true
  state : d.state ≠ deviceStateUnmanaged ∧ d.state ≠ deviceStateUnavailable

end Adapter

/-! ### The bus -/

/-- What the bus shows. -/
structure Machine where
  devices : List Adapter
  /-- The primary connection, with its name. -/
  primary : Option (BusObject String)
  connectivity : ℤ

namespace Machine

/-- The SSID after the devices: the one of the last device that has one -/
def lastSsid (devices : List Adapter) (before : Option String) : Option String :=
  devices.foldl (fun found d => d.ssid.or found) before

/-- The report on the machine -/
def status (machine : Machine) : NetworkStatus where
  connectivity := connectivityName machine.connectivity
  primaryConnection := machine.primary.map (·.value)
  wifiSsid := lastSsid machine.devices none
  interfaces := machine.devices.map Adapter.entry

/-- The properties at a path -/
structure Shows (rt : Runtime) (machine : Machine) (path interface : String) (props : Dict) :
    Prop where
  manager : path = NM_PATH → interface = NM_IFACE →
    props.get? "PrimaryConnection" = some (.str (pathOf machine.primary)) ∧
    props.get? "Connectivity" = some (.int machine.connectivity)
  primary : interface = ACTIVE → ∀ c ∈ machine.primary, c.path = path →
    props.get? "Id" = some (.str c.value)
  device : interface = DEVICE → ∀ d ∈ machine.devices, d.path = path → d.Shows props
  connection : interface = ACTIVE → ∀ d ∈ machine.devices, ∀ c ∈ d.connection, c.path = path →
    props.get? "Id" = some (.str c.value)
  ip4 : interface = IP4 → ∀ d ∈ machine.devices, ∀ c ∈ d.ip4, c.path = path →
    Ip4Details.ofProps rt props = .ok c.value
  wired : interface = WIRED → ∀ d ∈ machine.devices, d.kind = .ethernet → d.path = path →
    props.get? "Carrier" = some (.bool d.carrier)
  wireless : interface = WIRELESS → ∀ d ∈ machine.devices, d.kind = .wifi → d.path = path →
    props.get? "ActiveAccessPoint" = some (.str (pathOf d.accessPoint))
  accessPoint : interface = AP → ∀ d ∈ machine.devices, d.kind = .wifi → ∀ ap ∈ d.accessPoint,
    ap.path = path → props.get? "Ssid" = some (.bytes ap.value)

end Machine

/-- The bus answers every call and shows the machine, as it stays. -/
def showing (rt : Runtime) (machine : Machine) : Monitor Reply Exc Unit where
  pre _ _ := True
  next _ c r _ :=
    match c, r with
    | .nameHasOwner _, .ok owned => owned = true
    | .getDevices, .ok paths => paths = machine.devices.map (·.path)
    | .getAll path interface, .ok props => machine.Shows rt path interface props
    | _, .ok _ => True
    | _, .error _ => False

section Showing

variable {rt : Runtime} {machine : Machine} {d : Adapter} {α β : Type}

theorem not_next_error {c : Call} {x : Exc} {s s' : Unit} :
    ¬(showing rt machine).next s c (.error x) s' := by
  intro h
  cases c <;> exact h

theorem prompt_showing : Prompt (showing rt machine) := fun _ _ _ _ _ => not_next_error

/-- While the bus shows the machine, `p` raises nothing and returns a value in `V`. -/
def Gives (rt : Runtime) (machine : Machine) (V : α → Prop) (p : Proc α) : Prop :=
  (showing rt machine).wp p (fun r _ => ∃ a, r = .ok a ∧ V a) ()

theorem gives_pure {V : α → Prop} {a : α} (h : V a) : Gives rt machine V (pure a : Proc α) :=
  ⟨a, rfl, h⟩

theorem gives_py {r : Except PyError α} {a : α} (hr : r = .ok a) :
    Gives rt machine (· = a) (py r) := by
  subst hr
  exact ⟨a, rfl, rfl⟩

theorem Gives.bind {V : α → Prop} {W : β → Prop} {p : Proc α} {f : α → Proc β}
    (hp : Gives rt machine V p) (hf : ∀ a, V a → Gives rt machine W (f a)) :
    Gives rt machine W (p >>= f) := by
  unfold Gives
  rw [wp_bind]
  refine wp_mono hp fun r s hr => ?_
  obtain ⟨a, rfl, ha⟩ := hr
  exact hf a ha

/-- The same, when the value is known -/
theorem Gives.seq {W : β → Prop} {p : Proc α} {f : α → Proc β} {a : α}
    (hp : Gives rt machine (· = a) p) (hf : Gives rt machine W (f a)) :
    Gives rt machine W (p >>= f) :=
  hp.bind fun _ hb => hb ▸ hf

/-- A call with what the bus answers to it -/
theorem gives_perform {c : Call} {V : Reply c → Prop}
    (h : ∀ a, (showing rt machine).next () c (.ok a) () → V a) :
    Gives rt machine V (perform c : Proc (Reply c)) := by
  unfold Gives
  rw [wp_perform]
  refine ⟨trivial, fun r s hn => ?_⟩
  cases r with
  | ok a => exact ⟨a, rfl, h a hn⟩
  | error x => exact absurd hn not_next_error

/-- `except Exception` around what does not raise -/
theorem Gives.replace {V : α → Prop} {p : Proc α} {x : Exc} (hp : Gives rt machine V p) :
    Gives rt machine V
      (p.tryCatch fun exc => if exc.isException then raise x else raise exc) := by
  unfold Gives
  rw [wp_tryCatch]
  refine wp_mono hp fun r s hr => ?_
  obtain ⟨a, rfl, ha⟩ := hr
  exact ⟨a, rfl, ha⟩

theorem leads_showing {c : Call} {G : Reply c → Unit → Prop}
    (h : ∀ a, (showing rt machine).next () c (.ok a) () → G a ()) :
    Leads (showing rt machine) (fun _ => True) (fun _ => False) c G := by
  intro s _
  refine ⟨trivial, fun r s' hn => ⟨?_, ?_⟩⟩
  · rintro a rfl
    exact h a hn
  · rintro x rfl
    exact not_next_error hn

theorem leads_looksUp (c : Call) (_ : c.looksUp = true) :
    Leads (showing rt machine) (fun _ => True) (fun _ => False) c fun _ _ => True :=
  leads_showing fun _ _ => trivial

theorem gives_of_looked {G : α → Unit → Prop} {p : Proc α}
    (h : (showing rt machine).wp p (Looked G fun _ => False) ()) : Gives rt machine (G · ()) p := by
  refine wp_mono h fun r s hr => ?_
  cases r with
  | ok a => exact ⟨a, rfl, hr⟩
  | error x => exact hr.1.elim

theorem gives_interfaces (path : String) (names : List String) :
    Gives rt machine (fun _ => True) (interfaces path names) :=
  gives_of_looked (wp_interfaces leads_looksUp _ _ trivial)

theorem gives_properties (path interface : String) :
    Gives rt machine (machine.Shows rt path interface) (properties path interface) :=
  gives_of_looked (G := fun props _ => machine.Shows rt path interface props)
    (wp_properties leads_looksUp (leads_showing fun _ hn => hn) trivial)

/-! ### Values -/

section Values

variable {props : Dict} {key : String}

theorem gives_item {v : Value} (h : props.get? key = some v) :
    Gives rt machine (· = v) (item props key) := gives_py (by rw [Dict.item, h])

theorem gives_intItem {n : ℤ} (h : props.get? key = some (.int n)) :
    Gives rt machine (· = n) (intItem rt props key) := by
  refine (gives_item h).seq ?_
  exact gives_py rfl

theorem gives_strItem {s : String} (h : props.get? key = some (.str s)) :
    Gives rt machine (· = s) (strItem rt props key) := by
  refine (gives_item h).seq ?_
  exact gives_pure rfl

end Values

/-! ### One device -/

theorem gives_activeConnectionName {c : Option (BusObject String)}
    (h : ∀ props, ∀ object ∈ c, machine.Shows rt object.path ACTIVE props →
      props.get? "Id" = some (.str object.value)) :
    Gives rt machine (· = c.map (·.value)) (activeConnectionName rt (pathOf c)) := by
  unfold activeConnectionName
  cases c with
  | none => exact gives_pure rfl
  | some object =>
    rw [if_neg (show pathOf (some object) ≠ "/" from object.exists_path)]
    refine (gives_properties object.path ACTIVE).bind fun props hprops => ?_
    refine (gives_strItem (h props object rfl hprops)).seq ?_
    exact gives_pure rfl

variable (hd : d ∈ machine.devices)

include hd

theorem gives_ip4Details : Gives rt machine (· = d.details) (ip4Details rt (pathOf d.ip4)) := by
  unfold ip4Details
  cases hip4 : d.ip4 with
  | none =>
    refine gives_pure ?_
    rw [Adapter.details, hip4]
    rfl
  | some object =>
    rw [if_neg (show pathOf (some object) ≠ "/" from object.exists_path)]
    refine (gives_properties object.path IP4).bind fun props hprops => ?_
    have hvalue := hprops.ip4 rfl d hd object hip4 rfl
    have hdetails : d.details = object.value := by
      rw [Adapter.details, hip4]
      rfl
    rw [hdetails]
    exact gives_py hvalue

theorem gives_readCarrier (hkind : d.kind = .ethernet) :
    Gives rt machine (· = some d.carrier) (readCarrier d.path) := by
  unfold readCarrier
  refine (gives_properties d.path WIRED).bind fun props hprops => ?_
  refine (gives_item (hprops.wired rfl d hd hkind rfl)).seq ?_
  exact gives_pure rfl

/-- The SSID of a Wi-Fi device, or the one that was found before -/
theorem gives_activeSsid (hkind : d.kind = .wifi) (found : Option String) :
    Gives rt machine (· = d.ssid.or found) (activeSsid rt d.path found) := by
  unfold activeSsid
  refine (gives_properties d.path WIRELESS).bind fun wireless hwireless => ?_
  refine (gives_strItem (hwireless.wireless rfl d hd hkind rfl)).seq ?_
  cases hap : d.accessPoint with
  | none =>
    refine gives_pure ?_
    rw [Adapter.ssid, if_pos hkind, hap]
    rfl
  | some ap =>
    rw [if_neg (show pathOf (some ap) ≠ "/" from ap.exists_path)]
    refine (gives_properties ap.path AP).bind fun props hprops => ?_
    refine (gives_item (hprops.accessPoint rfl d hd hkind ap hap rfl)).seq ?_
    refine (gives_py (r := (toBytes (.bytes ap.value)).map decodeReplace) rfl).seq ?_
    refine gives_pure ?_
    rw [Adapter.ssid, if_pos hkind, hap]
    rfl

/-- The carrier, of an Ethernet device only -/
theorem gives_deviceCarrier : Gives rt machine (· = if d.kind = .ethernet then some d.carrier else none)
    (if interfaceKind d.deviceType = .ethernet then readCarrier d.path else pure none) := by
  by_cases hkind : d.kind = .ethernet
  · rw [if_pos hkind, if_pos (show interfaceKind d.deviceType = .ethernet from hkind)]
    exact gives_readCarrier hd hkind
  · rw [if_neg hkind, if_neg (show interfaceKind d.deviceType ≠ .ethernet from hkind)]
    exact gives_pure rfl

/-- The SSID, of a Wi-Fi device only -/
theorem gives_deviceSsid (found : Option String) : Gives rt machine (· = d.ssid.or found)
    (if interfaceKind d.deviceType = .wifi then activeSsid rt d.path found else pure found) := by
  by_cases hkind : d.kind = .wifi
  · rw [if_pos (show interfaceKind d.deviceType = .wifi from hkind)]
    exact gives_activeSsid hd hkind found
  · rw [if_neg (show interfaceKind d.deviceType ≠ .wifi from hkind)]
    refine gives_pure ?_
    rw [Adapter.ssid, if_neg hkind]
    rfl

omit hd in
/-- The second item of `StateReason` -/
theorem gives_stateReason {props : Dict} {before : Value}
    (hreason : props.get? "StateReason" = some (.list [before, .int d.reason])) :
    Gives rt machine (· = some d.reason) (optionalInt rt (stateReason props)) := by
  have hvalue : stateReason props = .int d.reason := by
    rw [stateReason, unwrapGet, hreason]
    rfl
  rw [hvalue]
  exact (gives_py (r := Value.toInt rt.toUnicode (.int d.reason)) rfl).seq (gives_pure rfl)

/-- One round of the loop -/
theorem gives_readDevice (found : Option String) :
    Gives rt machine (· = (d.entry, d.ssid.or found)) (readDevice rt d.path found) := by
  unfold readDevice
  refine (gives_properties d.path DEVICE).bind fun props hprops => ?_
  have hshows := hprops.device rfl d hd rfl
  refine (gives_intItem hshows.deviceType).seq ?_
  refine (gives_strItem hshows.connection).seq ?_
  refine (gives_activeConnectionName fun props object hobject hshows =>
    hshows.connection rfl d hd object hobject rfl).seq ?_
  refine (gives_strItem hshows.ip4).seq ?_
  refine (gives_ip4Details hd).seq ?_
  refine (gives_deviceCarrier hd).seq ?_
  refine (gives_deviceSsid hd found).seq ?_
  refine (gives_strItem hshows.interface).seq ?_
  refine (gives_intItem hshows.state).seq ?_
  obtain ⟨before, hreason⟩ := hshows.reason
  refine (gives_stateReason hreason).seq (gives_pure ?_)
  rw [unwrapGet, hshows.managed]
  rfl

end Showing

/-! ### All devices -/

section Status

variable {m : NetworkManager} {rt : Runtime} {machine : Machine} {d : Adapter}

/-- The loop, over some of the devices -/
theorem gives_readDevices (devices : List Adapter) (hdevices : ∀ d ∈ devices, d ∈ machine.devices)
    (interfaces : List NetworkInterface) (found : Option String) :
    Gives rt machine
      (· = (interfaces ++ devices.map Adapter.entry, Machine.lastSsid devices found))
      (readDevices rt (devices.map (·.path)) interfaces found) := by
  induction devices generalizing interfaces found with
  | nil => exact gives_pure (by rw [List.map_nil, List.append_nil]; rfl)
  | cons d devices ih =>
    obtain ⟨hd, hdevices⟩ := List.forall_mem_cons.1 hdevices
    show Gives rt machine _ (readDevice rt d.path found >>= fun read =>
      readDevices rt (devices.map (·.path)) (interfaces ++ [read.1]) read.2)
    refine (gives_readDevice hd found).seq ?_
    have hrest := ih hdevices (interfaces ++ [d.entry]) (d.ssid.or found)
    rwa [List.append_assoc, List.singleton_append] at hrest

theorem gives_nameHasOwner : Gives rt machine (· = true) nameHasOwner := by
  have hstart : Gives rt machine (fun _ => True) start :=
    gives_of_looked (wp_start leads_looksUp trivial)
  refine hstart.bind fun _ _ => ?_
  have hasked : Gives rt machine (· = true) (do
      perform (Call.introspect DBUS DBUS_PATH [DBUS])
      perform (Call.nameHasOwner NM)) :=
    (gives_perform (V := fun _ => True) fun _ _ => trivial).bind fun _ _ =>
      gives_perform (c := .nameHasOwner NM) (V := (· = true)) fun _ hn => hn
  exact hasked.replace

theorem gives_devicePaths :
    Gives rt machine (· = machine.devices.map (·.path)) devicePaths :=
  (gives_interfaces _ _).bind fun _ _ =>
    gives_perform (c := .getDevices) (V := (· = machine.devices.map (·.path))) fun _ hn => hn

/-- The configured device is found, when it is ready. -/
theorem gives_findWifiDevice (devices : List Adapter)
    (hdevices : ∀ d ∈ devices, d ∈ machine.devices)
    (hfind : devices.find? (·.IsConfigured m) = some d) (hready : d.IsReady) :
    Gives rt machine (fun _ => True) (findWifiDevice m rt true (devices.map (·.path))) := by
  induction devices with
  | nil => cases hfind
  | cons e devices ih =>
    obtain ⟨he, hdevices⟩ := List.forall_mem_cons.1 hdevices
    rw [List.map_cons, findWifiDevice]
    refine (gives_properties e.path DEVICE).bind fun props hprops => ?_
    have hshows := hprops.device rfl e he rfl
    rw [unwrapGet, hshows.deviceType]
    refine (gives_py (r := Value.toInt rt.toUnicode (.int e.deviceType)) rfl).seq ?_
    have hname : toStr rt (unwrapGet props "Interface" (.str "")) = e.name := by
      rw [unwrapGet, hshows.interface]
      rfl
    rw [hname]
    by_cases hconfigured : e.IsConfigured m
    · rw [List.find?_cons_of_pos (by simpa using hconfigured)] at hfind
      cases hfind
      rw [if_pos (show d.deviceType = deviceTypeWifi ∧ d.name = m.wifiInterface from hconfigured)]
      have hmanaged : (unwrapGet props "Managed" (.bool false)).truthy = true := by
        rw [unwrapGet, hshows.managed, hready.managed]
        rfl
      have hstate : unwrapGet props "State" (.int 0) = .int d.state := by
        rw [unwrapGet, hshows.state]
        rfl
      rw [hmanaged, hstate]
      refine (gives_py (r := Value.toInt rt.toUnicode (.int d.state)) rfl).seq ?_
      rw [if_neg (by simp [hready.state])]
      exact gives_pure trivial
    · rw [List.find?_cons_of_neg (by simpa using hconfigured)] at hfind
      rw [if_neg (show ¬(e.deviceType = deviceTypeWifi ∧ e.name = m.wifiInterface) from hconfigured)]
      exact ih hdevices hfind

theorem gives_status (hfind : machine.devices.find? (·.IsConfigured m) = some d)
    (hready : d.IsReady) : Gives rt machine (· = machine.status) (status m rt []) := by
  unfold status
  refine Gives.bind (V := fun _ => True) ?_ fun _ _ => ?_
  · refine gives_nameHasOwner.seq ?_
    refine gives_devicePaths.seq ?_
    exact gives_findWifiDevice machine.devices (fun _ h => h) hfind hready
  refine (gives_properties NM_PATH NM_IFACE).bind fun props hprops => ?_
  obtain ⟨hprimary, hconnectivity⟩ := hprops.manager rfl rfl
  refine (gives_strItem hprimary).seq ?_
  refine (gives_activeConnectionName fun props object hobject hshows =>
    hshows.primary rfl object hobject rfl).seq ?_
  refine gives_devicePaths.seq ?_
  refine (gives_readDevices machine.devices (fun _ h => h) [] none).seq ?_
  refine (gives_intItem hconnectivity).seq ?_
  exact gives_pure rfl

/-! ### The SSID of the configured interface -/

/-- Where the last device with an SSID is, it has this one. -/
def LastHas (ssid : Option String) (devices : List Adapter) : Prop :=
  ∀ before last after, devices = before ++ last :: after → last.ssid ≠ none →
    (∀ e ∈ after, e.ssid = none) → last.ssid = ssid

theorem lastSsid_append (devices devices' : List Adapter) (found : Option String) :
    Machine.lastSsid (devices ++ devices') found =
      Machine.lastSsid devices' (Machine.lastSsid devices found) := List.foldl_append

theorem lastSsid_of_forall_none {devices : List Adapter} (h : ∀ d ∈ devices, d.ssid = none)
    (found : Option String) : Machine.lastSsid devices found = found := by
  induction devices with
  | nil => rfl
  | cons d devices ih =>
    obtain ⟨hd, hdevices⟩ := List.forall_mem_cons.1 h
    show Machine.lastSsid devices (d.ssid.or found) = found
    rw [hd, Option.none_or, ih hdevices]

/-- The last device with an SSID decides. -/
theorem lastSsid_split {before after : List Adapter} {last : Adapter} (hlast : last.ssid ≠ none)
    (hafter : ∀ e ∈ after, e.ssid = none) (found : Option String) :
    Machine.lastSsid (before ++ last :: after) found = last.ssid := by
  rw [lastSsid_append]
  show Machine.lastSsid after (last.ssid.or _) = last.ssid
  rw [lastSsid_of_forall_none hafter]
  cases hssid : last.ssid with
  | none => exact absurd hssid hlast
  | some ssid => rfl

/-- Either no device has an SSID, or there is a last one. -/
theorem exists_last (devices : List Adapter) : (∀ d ∈ devices, d.ssid = none) ∨
    ∃ before last after, devices = before ++ last :: after ∧ last.ssid ≠ none ∧
      ∀ e ∈ after, e.ssid = none := by
  induction devices with
  | nil => exact .inl fun _ hd => absurd hd List.not_mem_nil
  | cons d devices ih =>
    rcases ih with hnone | ⟨before, last, after, rfl, hlast, hafter⟩
    · -- no device after `d` has one, so that `d` is the last one if it has
      by_cases hd : d.ssid = none
      · exact .inl (List.forall_mem_cons.2 ⟨hd, hnone⟩)
      · exact .inr ⟨[], d, devices, rfl, hd, hnone⟩
    · exact .inr ⟨d :: before, last, after, rfl, hlast, hafter⟩

theorem lastSsid_eq_iff {devices : List Adapter} (hd : d ∈ devices) :
    Machine.lastSsid devices none = d.ssid ↔ LastHas d.ssid devices := by
  constructor
  · rintro h before last after rfl hlast hafter
    rw [← h, lastSsid_split hlast hafter]
  · intro h
    rcases exists_last devices with hnone | ⟨before, last, after, rfl, hlast, hafter⟩
    · rw [lastSsid_of_forall_none hnone, hnone d hd]
    · rw [lastSsid_split hlast hafter, h before last after rfl hlast hafter]

/-- **`status` tells the SSID of the configured interface exactly when no other one comes last.**
It always ends with one entry for each device, in the order of the list. -/
theorem status_ssid_iff (hfind : machine.devices.find? (·.IsConfigured m) = some d)
    (hready : d.IsReady) :
    (∀ tr s, (showing rt machine).Trail () tr s → ¬Path (status m rt []) tr .spin) ∧
    ∀ tr s r, (showing rt machine).Trail () tr s → Path (status m rt []) tr (.done r) →
      ∃ report, r = .ok report ∧ report.interfaces = machine.devices.map Adapter.entry ∧
        (report.wifiSsid = d.ssid ↔ LastHas d.ssid machine.devices) := by
  have hgives : Gives rt machine (· = machine.status) (status m rt []) := gives_status hfind hready
  constructor
  · exact fun tr s htrail => ((searches_settles prompt_showing).status [] s).not_spin htrail
  · intro tr s r htrail hpath
    obtain ⟨report, rfl, rfl⟩ := wp_outcome hpath htrail hgives
    exact ⟨_, rfl, rfl, lastSsid_eq_iff (List.mem_of_find?_eq_some hfind)⟩

end Status

/-! ### Runs -/

/-- The properties of a device with neither a connection nor an address -/
def Adapter.props (d : Adapter) : Dict :=
  [("Interface", .str d.name), ("DeviceType", .int d.deviceType), ("State", .int d.state),
    ("StateReason", .list [.int d.state, .int d.reason]), ("Managed", .bool d.managed),
    ("ActiveConnection", .str (pathOf d.connection)), ("Ip4Config", .str (pathOf d.ip4))]

/-- The properties at a path of a machine whose devices are all for Wi-Fi -/
def Machine.props (machine : Machine) (path interface : String) : Dict :=
  let device := machine.devices.find? (·.path = path)
  if interface = DEVICE then device.elim [] Adapter.props
  else if interface = WIRELESS then
    device.elim [] fun d => [("ActiveAccessPoint", .str (pathOf d.accessPoint))]
  else if interface = AP then
    ((machine.devices.filterMap (·.accessPoint)).find? (·.path = path)).elim [] fun ap =>
      [("Ssid", .bytes ap.value)]
  else
    [("PrimaryConnection", .str (pathOf machine.primary)),
      ("Connectivity", .int machine.connectivity)]

/-- A bus that shows the machine -/
def Machine.answer (machine : Machine) (_ : Unit) : (c : Call) → Except Exc (Reply c) × Unit
  | .getDevices => (.ok (machine.devices.map (·.path)), ())
  | .getAll path interface => (.ok (machine.props path interface), ())
  | c => (.ok (quiet c), ())

/-- A Wi-Fi device that is ready, with its access point -/
def wifiAdapter (path name : String) (accessPoint : Option (BusObject (List UInt8))) : Adapter where
  path := path
  name := name
  deviceType := 2
  state := 100
  reason := 0
  managed := true
  carrier := false
  connection := none
  ip4 := none
  accessPoint := accessPoint

/-- The configured device, at the shop's network -/
def shopDevice : Adapter :=
  wifiAdapter "/device/1" "wlp1s0" (some ⟨"/ap/1", encode "Shop", by decide⟩)

/-- A second device, which may be at the guests' network -/
def guestDevice (guest : Bool) : Adapter :=
  wifiAdapter "/device/2" "wlan1" (if guest then some ⟨"/ap/2", encode "Guest", by decide⟩ else none)

def twoRadios (guest : Bool) : Machine := ⟨[shopDevice, guestDevice guest], none, 4⟩

theorem shows_twoRadios (guest : Bool) (path interface : String) :
    (twoRadios guest).Shows .ascii path interface ((twoRadios guest).props path interface) := by
  have hdevices : ∀ d ∈ (twoRadios guest).devices, d = shopDevice ∨ d = guestDevice guest := by
    simp [twoRadios]
  constructor
  · rintro rfl rfl
    exact ⟨rfl, rfl⟩
  · exact fun _ c hc => nomatch hc
  · rintro rfl d hd rfl
    rcases hdevices d hd with rfl | rfl
    · exact ⟨rfl, rfl, rfl, ⟨100, rfl⟩, rfl, rfl, rfl⟩
    · exact ⟨rfl, rfl, rfl, ⟨100, rfl⟩, rfl, rfl, rfl⟩
  · intro _ d hd c hc
    rcases hdevices d hd with rfl | rfl <;> cases hc
  · intro _ d hd c hc
    rcases hdevices d hd with rfl | rfl <;> cases hc
  · intro _ d hd hkind
    rcases hdevices d hd with rfl | rfl <;> cases hkind
  · rintro rfl d hd _ rfl
    rcases hdevices d hd with rfl | rfl
    · rfl
    · rfl
  · rintro rfl d hd _ ap hap rfl
    rcases hdevices d hd with rfl | rfl
    · cases hap
      rfl
    · cases guest with
      | true =>
        cases hap
        rfl
      | false => cases hap

theorem answer_next (guest : Bool) (s : Unit) (c : Call) :
    (showing .ascii (twoRadios guest)).next s c ((twoRadios guest).answer s c).1
      ((twoRadios guest).answer s c).2 := by
  cases c with
  | getAll path interface => exact shows_twoRadios guest path interface
  | getDevices => exact rfl
  | nameHasOwner name => exact rfl
  | _ => trivial

/-- `status` on this machine -/
def twoRadiosRun (guest : Bool) : List (Event Reply Exc) × Option (Except Exc NetworkStatus) :=
  exec (twoRadios guest).answer (status .default .ascii []) ()

theorem isReady_shopDevice : shopDevice.IsReady := ⟨rfl, by decide⟩

theorem ssid_shopDevice : shopDevice.ssid = some "Shop" := congrArg some (decodeReplace_encode "Shop")

/-- The SSID that is reported is the one of the other device. -/
theorem guest_reported : ∃ tr s report, (showing .ascii (twoRadios true)).Trail () tr s ∧
    Path (status .default .ascii []) tr (.done (.ok report)) ∧
    (twoRadios true).devices.find? (·.IsConfigured .default) = some shopDevice ∧
    shopDevice.IsReady ∧ report.wifiSsid ≠ shopDevice.ssid := by
  obtain ⟨s, htrail⟩ := trail_exec (answer_next true) (status .default .ascii []) ()
  refine ⟨_, s, _, htrail, path_of_exec (twoRadios true).answer _ () rfl, rfl, isReady_shopDevice, ?_⟩
  decide +kernel

/-- With the other device at no access point the report is right. -/
theorem shop_reported : ∃ tr s report, (showing .ascii (twoRadios false)).Trail () tr s ∧
    Path (status .default .ascii []) tr (.done (.ok report)) ∧
    report.interfaces.length = 2 ∧ report.wifiSsid = some "Shop" := by
  obtain ⟨s, htrail⟩ := trail_exec (answer_next false) (status .default .ascii []) ()
  obtain ⟨r, hr⟩ : ∃ r, (twoRadiosRun false).2 = some r := ⟨_, rfl⟩
  have hpath := path_of_exec (twoRadios false).answer _ () hr
  have hfind : (twoRadios false).devices.find? (·.IsConfigured .default) = some shopDevice := rfl
  have hd : shopDevice ∈ (twoRadios false).devices := List.mem_cons_self
  obtain ⟨report, rfl, hinterfaces, hssid⟩ :=
    (status_ssid_iff hfind isReady_shopDevice).2 _ _ _ htrail hpath
  refine ⟨_, s, report, htrail, hpath, ?_, ?_⟩
  · rw [hinterfaces]
    rfl
  · rw [← ssid_shopDevice, hssid, ← lastSsid_eq_iff hd]
    rfl

end ApplianceAdmin.Network
