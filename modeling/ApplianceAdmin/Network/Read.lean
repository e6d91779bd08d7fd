import ApplianceAdmin.Network.Bus
import Mathlib.Data.List.Sort

/-!
# Reading the state of the network

The operations of `NetworkManager` that only read: `readiness`, `status`, `profiles` and the list
of access points behind `scan`.

* `ip4Details`, `readDevice`, `status`;
* `merge`: one access point into the networks found so far; `readAccessPoints`;
* `readProfile`, `profiles`.
-/

namespace ApplianceAdmin.Network

open Async Async.Prog Python

/-- Is the value `None`? -/
def isNone : Value → Bool
  | .none => true
  | _ => false

section Read

variable (rt : Runtime)

/-- `int(props[key].value)` -/
def intItem (props : Dict) (key : String) : Proc ℤ := do
  let v ← item props key
  toInt rt v

/-- `str(props[key].value)` -/
def strItem (props : Dict) (key : String) : Proc String := do
  let v ← item props key
  return toStr rt v

/-! ### IPv4 -/

/-- One item of `AddressData` -/
def interfaceAddress (v : Value) : Except PyError (Option InterfaceAddress) := do
  let item ← v.asDict
  let address := unwrapGet item "address" .none
  let prefixLen := unwrapGet item "prefix" .none
  if isNone address || isNone prefixLen then return none
  else
    let n ← prefixLen.toInt rt.toUnicode
    return some ⟨toStr rt address, n⟩

/-- One item of `NameserverData` -/
def nameserver (v : Value) : Except PyError (Option String) := do
  let item ← v.asDict
  let address := unwrapGet item "address" .none
  return if isNone address then none else some (toStr rt address)

/-- `str(IPv4Address(n.to_bytes(4, "little")))` -/
def littleEndianAddress (n : ℤ) : Except PyError String :=
  if n < 0 then .error ⟨.overflow, "can't convert negative int to unsigned"⟩
  else if 2 ^ 32 ≤ n then .error ⟨.overflow, "int too big to convert"⟩
  else
    let octet (k : ℕ) : String := toString (n.toNat / 256 ^ k % 256)
    .ok (octet 0 ++ "." ++ octet 1 ++ "." ++ octet 2 ++ "." ++ octet 3)

/-- One item of `Nameservers`; only a `ValueError` is suppressed. -/
def packedNameserver (raw : Value) : Except PyError (Option String) :=
  match (raw.toInt rt.toUnicode).bind littleEndianAddress with
  | .ok s => .ok (some s)
  | .error e => if e.cls = .value then .ok none else .error e

/-- One item of `RouteData` -/
def route (v : Value) : Except PyError NetworkRoute := do
  let item ← v.asDict
  let destination := unwrapGet item "dest" (.str "0.0.0.0")
  let nextHop := unwrapGet item "next-hop" .none
  let metric := unwrapGet item "metric" .none
  let prefixLen ← (unwrapGet item "prefix" (.int 0)).toInt rt.toUnicode
  let metric ← if isNone metric then pure none else (metric.toInt rt.toUnicode).map some
  return {
    destination := toStr rt destination
    prefixLen := prefixLen
    nextHop := if nextHop.truthy then some (toStr rt nextHop) else none
    metric := metric }

structure Ip4Details where
  addresses : List InterfaceAddress
  gateway : Option String
  dns : List String
  routes : List NetworkRoute

/-- What `_ip4_details` makes of the properties of an `IP4Config`. -/
def Ip4Details.ofProps (props : Dict) : Except PyError Ip4Details := do
  let items ← (unwrapGet props "AddressData" (.list [])).iter
  let addresses ← items.mapM (interfaceAddress rt)
  let gateway := toStr rt (unwrapGet props "Gateway" (.str ""))
  let items ← (unwrapGet props "NameserverData" (.list [])).iter
  let dns ← items.mapM (nameserver rt)
  let dns := dns.reduceOption
  let dns ← if dns.isEmpty then do
      let raws ← (unwrapGet props "Nameservers" (.list [])).iter
      let packed ← raws.mapM (packedNameserver rt)
      pure packed.reduceOption
    else pure dns
  let items ← (unwrapGet props "RouteData" (.list [])).iter
  let routes ← items.mapM (route rt)
  return ⟨addresses.reduceOption, if gateway = "" then none else some gateway, dns, routes⟩

/-- `NetworkManager._ip4_details` -/
def ip4Details (path : String) : Proc Ip4Details :=
  if path = "/" then return ⟨[], none, [], []⟩
  else do
    let props ← properties path IP4
    py (Ip4Details.ofProps rt props)

/-- `NetworkManager._active_connection_name` -/
def activeConnectionName (path : String) : Proc (Option String) :=
  if path = "/" then return none
  else do
    let props ← properties path ACTIVE
    let id ← strItem rt props "Id"
    return some id

/-! ### Status -/

def interfaceKind (deviceType : ℤ) : InterfaceKind :=
  if deviceType = deviceTypeWifi then .wifi
  else if deviceType = deviceTypeEthernet then .ethernet
  else .other

/-- `state_reason` of an interface: the second item of a pair, or the value itself. -/
def stateReason (props : Dict) : Value :=
  match unwrapGet props "StateReason" .none with
  | .list (_ :: reason :: _) => reason
  | v => v

/-- `int(value) if value is not None else None` -/
def optionalInt (v : Value) : Proc (Option ℤ) :=
  if isNone v then return none
  else do
    let n ← toInt rt v
    return some n

/-- The SSID of the access point at which a Wi-Fi device is, or the one known before. -/
def activeSsid (path : String) (currentSsid : Option String) : Proc (Option String) := do
  let wireless ← properties path WIRELESS
  let activeAp ← strItem rt wireless "ActiveAccessPoint"
  if activeAp = "/" then return currentSsid
  else do
    let props ← properties activeAp AP
    let raw ← item props "Ssid"
    let s ← ssid raw
    return some s

/-- `carrier`, which only an Ethernet device has -/
def readCarrier (path : String) : Proc (Option Bool) := do
  let props ← properties path WIRED
  let carrier ← item props "Carrier"
  return some carrier.truthy

/-- One round of the loop of `status` -/
def readDevice (path : String) (currentSsid : Option String) :
    Proc (NetworkInterface × Option String) := do
  let props ← properties path DEVICE
  let kindNum ← intItem rt props "DeviceType"
  let kind := interfaceKind kindNum
  let active ← strItem rt props "ActiveConnection"
  let activeName ← activeConnectionName rt active
  let config ← strItem rt props "Ip4Config"
  let ip4 ← ip4Details rt config
  let carrier ← (if kind = .ethernet then readCarrier path else pure none)
  let currentSsid ← (if kind = .wifi then activeSsid rt path currentSsid else pure currentSsid)
  let name ← strItem rt props "Interface"
  let state ← intItem rt props "State"
  let reason ← optionalInt rt (stateReason props)
  return ({
    name := name
    kind := kind
    state := deviceStateName state
    stateReason := reason
    managed := (unwrapGet props "Managed" (.bool false)).truthy
    carrier := carrier
    activeConnection := activeName
    ipv4 := ip4.addresses
    gateway4 := ip4.gateway
    dns4 := ip4.dns
    routes4 := ip4.routes }, currentSsid)

/-- The loop of `status` -/
def readDevices : List String → List NetworkInterface → Option String →
    Proc (List NetworkInterface × Option String)
  | [], interfaces, currentSsid => return (interfaces, currentSsid)
  | path :: paths, interfaces, currentSsid => do
      let read ← readDevice rt path currentSsid
      readDevices paths (interfaces ++ [read.1]) read.2

/-! ### Access points -/

/-- The entry of a network after another of its access points, `item`. -/
def mergeInto (item old : WifiAccessPoint) : WifiAccessPoint :=
  if old.strength < item.strength then
    { item with bssids := old.bssids ++ [item.bssid], active := item.active || old.active }
  else if item.bssid ∉ old.bssids then
    { old with bssids := old.bssids ++ [item.bssid], active := old.active || item.active }
  else old

/-- `by_network` after `item`; the key of an entry is its SSID and whether it is secured. -/
def merge (item : WifiAccessPoint) : List WifiAccessPoint → List WifiAccessPoint
  | [] => [item]
  | old :: rest =>
      if (old.ssid, old.secured) = (item.ssid, item.secured) then mergeInto item old :: rest
      else old :: merge item rest

/-- `bool(int(Flags) or int(WpaFlags) or int(RsnFlags))` -/
def isSecured (props : Dict) : Proc Bool := do
  let flags ← intItem rt props "Flags"
  if flags ≠ 0 then return true
  else do
    let wpaFlags ← intItem rt props "WpaFlags"
    if wpaFlags ≠ 0 then return true
    else do
      let rsnFlags ← intItem rt props "RsnFlags"
      return rsnFlags ≠ 0

/-- The access point at `path`; none when its SSID is hidden -/
def readAccessPoint (activePath path : String) : Proc (Option WifiAccessPoint) := do
  let props ← properties path AP
  let raw ← item props "Ssid"
  let s ← ssid raw
  if s = "" then return none
  else do
    let secured ← isSecured rt props
    let bssid ← strItem rt props "HwAddress"
    let strength ← intItem rt props "Strength"
    let frequency ← intItem rt props "Frequency"
    let accessPoint ← lift (WifiAccessPoint.make rt {
      ssid := s
      bssid := bssid
      bssids := [bssid]
      strength := strength
      frequencyMhz := frequency
      secured := secured
      active := path = activePath })
    return some accessPoint

/-- The loop of `_read_access_points` -/
def readNetworks (activePath : String) : List String → List WifiAccessPoint →
    Proc (List WifiAccessPoint)
  | [], byNetwork => return byNetwork
  | path :: paths, byNetwork => do
      let found ← readAccessPoint rt activePath path
      match found with
      | none => readNetworks activePath paths byNetwork
      | some item => readNetworks activePath paths (merge item byNetwork)

/-- `sorted(…, key=lambda item: item.strength, reverse=True)`, which keeps the order of equals -/
def byStrength (byNetwork : List WifiAccessPoint) : List WifiAccessPoint :=
  byNetwork.insertionSort fun a b => b.strength ≤ a.strength

/-- `NetworkManager._read_access_points` -/
def readAccessPoints (device : String) : Proc (List WifiAccessPoint) := do
  interfaces device [WIRELESS]
  let props ← properties device WIRELESS
  let activePath ← strItem rt props "ActiveAccessPoint"
  let paths ← perform (Call.getAllAccessPoints device)
  let byNetwork ← readNetworks rt activePath paths []
  return byStrength byNetwork

/-! ### Profiles -/

/-- `NetworkManager._settings_interface` -/
def settingsInterface : Proc Unit := interfaces SETTINGS_PATH [SETTINGS]

/-- `settings.get(section, {})` -/
def Settings.section (settings : Settings) (name : String) : Dict :=
  ((settings.find? (·.1 = name)).map (·.2)).getD []

/-- `_ssid(raw) if raw is not None else None` -/
def optionalSsid (raw : Value) : Proc (Option String) :=
  if isNone raw then return none
  else do
    let s ← ssid raw
    return some s

/-- One round of the loop of `profiles`; none for a profile of another type -/
def readProfile (activeUuids : List String) (path : String) : Proc (Option NetworkProfile) := do
  interfaces path [SETTINGS_CONNECTION]
  let values ← perform (Call.getSettings path)
  let connection := values.section "connection"
  let profileType := toStr rt (unwrapGet connection "type" (.str ""))
  if profileType ∉ ["802-11-wireless", "802-3-ethernet"] then return none
  else do
    let uuid := toStr rt (unwrapGet connection "uuid" (.str ""))
    let rawSsid := unwrapGet (values.section "802-11-wireless") "ssid" .none
    let s ← optionalSsid rawSsid
    let rawName := unwrapGet connection "interface-name" .none
    let interfaceName ← lift ((nullable textField rawName).mapError fun kind =>
      pydanticError rt "NetworkProfile" (.dict [("interface_name", rawName)])
        [⟨"interface_name", kind⟩])
    return some {
      id := toStr rt (unwrapGet connection "id" (.str ""))
      uuid := uuid
      type := profileType
      interfaceName := interfaceName
      ssid := s
      autoconnect := (unwrapGet connection "autoconnect" (.bool true)).truthy
      active := uuid ∈ activeUuids }

/-- `active_uuids`; a path that is not a `str` is one that the bus library refuses -/
def activeUuids (paths : List Value) : Proc (List String) :=
  collect (fun path => do
    let props ← properties (toStr rt path) ACTIVE
    let uuid ← strItem rt props "Uuid"
    return some uuid) paths

end Read

/-! ### The operations -/

section Operations

variable (m : NetworkManager) (rt : Runtime)

structure Readiness where
  ready : Bool
  interface : String
  state : String
  deriving DecidableEq

/-- `NetworkManager.readiness` -/
def readiness : Proc Readiness := do
  let path ← wifiDevice m rt true
  let props ← properties path DEVICE
  let state ← intItem rt props "State"
  return ⟨true, m.wifiInterface, deviceStateName state⟩

/-- `NetworkManager.status` -/
def status (params : Dict) : Proc NetworkStatus :=
  if !params.isEmpty then raise (.validation "network.status does not accept parameters")
  else do
    let _ ← wifiDevice m rt true
    let nmProps ← properties NM_PATH NM_IFACE
    let primary ← strItem rt nmProps "PrimaryConnection"
    let primaryName ← activeConnectionName rt primary
    let paths ← devicePaths
    let read ← readDevices rt paths [] none
    let connectivity ← intItem rt nmProps "Connectivity"
    return {
      connectivity := connectivityName connectivity
      primaryConnection := primaryName
      wifiSsid := read.2
      interfaces := read.1 }

/-- `NetworkManager.profiles` -/
def profiles (params : Dict) : Proc (List NetworkProfile) :=
  if !params.isEmpty then raise (.validation "network.profiles does not accept parameters")
  else do
    let _ ← wifiDevice m rt true
    let nmProps ← properties NM_PATH NM_IFACE
    let active ← py (unwrapGet nmProps "ActiveConnections" (.list [])).iter
    let uuids ← activeUuids rt active
    settingsInterface
    let paths ← perform Call.listConnections
    collect (readProfile rt uuids) paths

end Operations

end ApplianceAdmin.Network
