import ApplianceAdmin.Async.Prog
import ApplianceAdmin.Models

/-!
# NetworkManager on the bus

The calls that `NetworkManager` of `managers/network.py` makes, and the functions that every
operation uses to look up an object and read its properties.

* `Fields`: the attributes of the manager that change;
* `Call`, `Reply`: the calls to the bus, to the event loop and to the manager's own state; the
  variants of a property dictionary are the values inside them;
* `start`, `interfaces`, `properties`, `nameHasOwner`, `devicePaths`, `wifiDevice`.
-/

namespace ApplianceAdmin.Network

open Async Async.Prog Python

/-! ### Constants -/

def NM : String := "org.freedesktop.NetworkManager"
def NM_PATH : String := "/org/freedesktop/NetworkManager"
def SETTINGS_PATH : String := "/org/freedesktop/NetworkManager/Settings"
def DBUS : String := "org.freedesktop.DBus"
def DBUS_PATH : String := "/org/freedesktop/DBus"
def PROPS : String := "org.freedesktop.DBus.Properties"
def NM_IFACE : String := "org.freedesktop.NetworkManager"
def DEVICE : String := "org.freedesktop.NetworkManager.Device"
def WIRELESS : String := "org.freedesktop.NetworkManager.Device.Wireless"
def WIRED : String := "org.freedesktop.NetworkManager.Device.Wired"
def AP : String := "org.freedesktop.NetworkManager.AccessPoint"
def ACTIVE : String := "org.freedesktop.NetworkManager.Connection.Active"
def IP4 : String := "org.freedesktop.NetworkManager.IP4Config"
def SETTINGS : String := "org.freedesktop.NetworkManager.Settings"
def SETTINGS_CONNECTION : String := "org.freedesktop.NetworkManager.Settings.Connection"

def deviceTypeEthernet : ℤ := 1
def deviceTypeWifi : ℤ := 2
def deviceStateUnmanaged : ℤ := 10
def deviceStateUnavailable : ℤ := 20
def deviceStateActivated : ℤ := 100
def deviceStateFailed : ℤ := 120
def activeStateActivated : ℤ := 2
def activeStateDeactivated : ℤ := 4
def checkpointDestroyAll : ℕ := 0x01
def checkpointDeleteNewConnections : ℕ := 0x02

/-- `DEVICE_STATE_NAMES.get(state, "unknown")` -/
def deviceStateName : ℤ → String
  | 10 => "unmanaged"
  | 20 => "unavailable"
  | 30 => "disconnected"
  | 40 => "prepare"
  | 50 => "config"
  | 60 => "need-auth"
  | 70 => "ip-config"
  | 80 => "ip-check"
  | 90 => "secondaries"
  | 100 => "activated"
  | 110 => "deactivating"
  | 120 => "failed"
  | _ => "unknown"

/-- `CONNECTIVITY_NAMES.get(connectivity, "unknown")` -/
def connectivityName : ℤ → String
  | 1 => "none"
  | 2 => "portal"
  | 3 => "limited"
  | 4 => "full"
  | _ => "unknown"

/-! ### Calls -/

/-- The two locks of the manager. -/
inductive Lock
  | scan
  | connection
  deriving DecidableEq

/-- The attributes of the manager that change. -/
structure Fields where
  /-- Is there a connected `bus`? -/
  bus : Bool
  lastScanRequest : ℚ
  lastScanResult : ℚ
  scanCache : List WifiAccessPoint
  deriving DecidableEq

/-- The attributes after `__init__` -/
def Fields.init : Fields := ⟨false, 0, 0, []⟩

/-- The settings of a connection profile, by section. -/
abbrev Settings := List (String × Dict)

inductive Call
  /-- Read the attributes of `self`. -/
  | fields
  | setBus (connected : Bool)
  | setLastScanRequest (time : ℚ)
  | setLastScanResult (time : ℚ)
  | setScanCache (accessPoints : List WifiAccessPoint)
  /-- `lock.acquire()`, and `lock.release()` at the end of `async with` -/
  | acquire (lock : Lock)
  | release (lock : Lock)
  /-- `time.monotonic()` -/
  | monotonic
  /-- `asyncio.get_running_loop().time()` -/
  | loopTime
  /-- `MessageBus(bus_type=BusType.SYSTEM).connect()` -/
  | connectBus
  /-- `bus.introspect(dest, path)`, and `get_interface` for each name -/
  | introspect (dest path : String) (names : List String)
  /-- `call_get_all(interface)` on the object at `path` -/
  | getAll (path interface : String)
  | nameHasOwner (name : String)
  | getDevices
  | getAllAccessPoints (device : String)
  | requestScan (device : String)
  /-- `on_properties_changed(changed)`; with `previous`, only another `LastScan` sets the event -/
  | subscribe (path : String) (previous : Option ℤ)
  | unsubscribe (path : String)
  /-- `changed_event.clear()` -/
  | clearEvent
  /-- `asyncio.wait_for(event.wait(), timeout)` -/
  | waitEvent (timeout : ℚ)
  | checkpointCreate (devices : List String) (timeout flags : ℕ)
  | checkpointDestroy (checkpoint : String)
  | checkpointRollback (checkpoint : String)
  | addAndActivateConnection2 (connection : Settings) (device specificObject : String)
      (options : Dict)
  | activateConnection (connection device specificObject : String)
  | checkConnectivity
  | disconnect (device : String)
  | listConnections
  | getSettings (path : String)
  | getConnectionByUuid (uuid : String)
  | delete (path : String)

/-- What a call returns. -/
@[reducible] def Reply : Call → Type
  | .fields => Fields
  | .monotonic => ℚ
  | .loopTime => ℚ
  | .getAll _ _ => Dict
  | .nameHasOwner _ => Bool
  | .getDevices => List String
  | .getAllAccessPoints _ => List String
  | .checkpointCreate _ _ _ => String
  | .addAndActivateConnection2 _ _ _ _ => String × String
  | .activateConnection _ _ _ => String
  | .checkConnectivity => ℤ
  | .listConnections => List String
  | .getSettings _ => Settings
  | .getConnectionByUuid _ => String
  | _ => Unit

/-- Does the caller wait for the call? -/
def Call.awaited : Call → Bool
  | .fields | .setBus _ | .setLastScanRequest _ | .setLastScanResult _ | .setScanCache _
  | .release _ | .monotonic | .loopTime | .subscribe _ _ | .unsubscribe _ | .clearEvent => false
  | _ => true

/-- What a machine with one managed Wi-Fi device answers -/
def quiet : (c : Call) → Reply c
  | .fields => { Fields.init with bus := true }
  | .monotonic => 0
  | .loopTime => 0
  | .getAll _ _ => [("DeviceType", .int 2), ("Interface", .str "wlp1s0"), ("Managed", .bool true),
      ("State", .int 100), ("ActiveAccessPoint", .str "/"), ("LastScan", .int 0)]
  | .nameHasOwner _ => true
  | .getDevices => ["/device/wifi"]
  | .getAllAccessPoints _ => []
  | .checkpointCreate _ _ _ => "/checkpoint/1"
  | .addAndActivateConnection2 _ _ _ _ => ("/settings/1", "/active/1")
  | .activateConnection _ _ _ => "/active/1"
  | .checkConnectivity => 4
  | .listConnections => ["/settings/1"]
  | .getSettings _ => [("connection", [("type", .str "802-11-wireless")])]
  | .getConnectionByUuid _ => "/settings/1"
  | .setBus _ | .setLastScanRequest _ | .setLastScanResult _ | .setScanCache _ | .acquire _
  | .release _ | .connectBus | .introspect _ _ _ | .requestScan _ | .subscribe _ _
  | .unsubscribe _ | .clearEvent | .waitEvent _ | .checkpointDestroy _ | .checkpointRollback _
  | .disconnect _ | .delete _ => ()

/-- What a machine with a usable connection answers, where the next checkpoint is `checkpoint` -/
def online (checkpoint : String) : (c : Call) → Reply c
  | .checkpointCreate _ _ _ => checkpoint
  | .getAll path interface =>
      if interface = IP4 then
        [("AddressData", .list [.dict [("address", .str "192.0.2.7"), ("prefix", .int 24)]]),
          ("Gateway", .str "192.0.2.1"),
          ("NameserverData", .list [.dict [("address", .str "192.0.2.1")]])]
      else if interface = ACTIVE then [("State", .int 2)]
      else ("Ip4Config", .str "/ip4/1") :: quiet (.getAll path interface)
  | c => quiet c

/-- A coroutine of the manager. -/
abbrev Proc := Prog Reply Exc

/-- A computation of the language, whose exceptions are not of the daemon. -/
def py {α : Type} (r : Except PyError α) : Proc α := lift (r.mapError .py)

/-- `with suppress(Exception): …` -/
def suppress (p : Proc Unit) : Proc Unit :=
  p.tryCatch fun exc => if exc.isException then return () else raise exc

/-- `async with lock: …` -/
def withLock {α : Type} (lock : Lock) (body : Proc α) : Proc α := do
  perform (Call.acquire lock)
  body.ensure (ask (Call.release lock))

/-- `[f(x) for x in xs]` with the items that `f` leaves out. -/
def collect {α β : Type} (f : α → Proc (Option β)) : List α → Proc (List β)
  | [] => return []
  | x :: xs => do
      let y ← f x
      let ys ← collect f xs
      return y.toList ++ ys

/-! ### The manager -/

/-- The configuration of the manager. -/
structure NetworkManager where
  scanMinInterval : ℚ
  scanCacheSeconds : ℚ
  wifiInterface : String
  checkpointTimeout : ℕ
  activationTimeout : ℚ

/-- The defaults of `__init__` -/
def NetworkManager.default : NetworkManager := ⟨12, 8, "wlp1s0", 45, 25⟩

/-- `NetworkManager.start` -/
def start : Proc Unit := do
  let self ← ask Call.fields
  if self.bus then return ()
  else do
    (perform Call.connectBus).tryCatch fun exc =>
      if exc.isException then raise (.backendUnavailable "Could not connect to the system D-Bus")
      else raise exc
    ask (Call.setBus true)

/-- `NetworkManager._interfaces`; the assertion after `start` cannot fail, as nothing runs in
between -/
def interfaces (path : String) (names : List String) : Proc Unit := do
  start
  (perform (Call.introspect NM path names)).tryCatch fun exc =>
    if exc.isException then
      raise (.backendUnavailable "NetworkManager is unavailable on the system D-Bus")
    else raise exc

/-- `NetworkManager._properties` -/
def properties (path interface : String) : Proc Dict := do
  interfaces path [PROPS]
  (perform (Call.getAll path interface)).tryCatch fun exc =>
    if exc.isException then
      raise (.backendUnavailable ("Could not read NetworkManager object " ++ path))
    else raise exc

/-- `NetworkManager._name_has_owner` -/
def nameHasOwner : Proc Bool := do
  start
  (do
    perform (Call.introspect DBUS DBUS_PATH [DBUS])
    perform (Call.nameHasOwner NM)).tryCatch fun exc =>
    if exc.isException then raise (.backendUnavailable "Could not query the system D-Bus")
    else raise exc

/-- `NetworkManager._device_paths` -/
def devicePaths : Proc (List String) := do
  interfaces NM_PATH [NM_IFACE]
  perform Call.getDevices

/-! ### Property values -/

section Values

variable (rt : Runtime)

/-- `_unwrap(props.get(key), default)` -/
def unwrapGet (props : Dict) (key : String) (default : Value) : Value :=
  (props.get? key).getD default

/-- `props[key].value` -/
def item (props : Dict) (key : String) : Proc Value := py (props.item key)

/-- `int(value)` -/
def toInt (v : Value) : Proc ℤ := py (v.toInt rt.toUnicode)

/-- `str(value)` -/
def toStr (v : Value) : String := v.toStr rt.toUnicode

/-- `bytes(raw)`: the octets of one item -/
def toByte : Value → Except PyError UInt8
  | .int n =>
      if 0 ≤ n ∧ n < 256 then .ok (UInt8.ofNat n.toNat)
      else .error ⟨.value, "bytes must be in range(0, 256)"⟩
  | .bool b => .ok (if b then 1 else 0)
  | _ => .error ⟨.type, "object cannot be interpreted as an integer"⟩

/-- `bytes(raw)` -/
def toBytes : Value → Except PyError (List UInt8)
  | .bytes bs => .ok bs
  | .int n =>
      if 0 ≤ n then .ok (List.replicate n.toNat 0) else .error ⟨.value, "negative count"⟩
  | .bool b => .ok (List.replicate (if b then 1 else 0) 0)
  | .str _ => .error ⟨.type, "string argument without an encoding"⟩
  | v => v.iter >>= List.mapM toByte

/-- `_ssid(raw)` -/
def ssid (raw : Value) : Proc String := py ((toBytes raw).map decodeReplace)

end Values

/-! ### The Wi-Fi device -/

section Device

variable (m : NetworkManager) (rt : Runtime)

/-- The loop of `_wifi_device` -/
def findWifiDevice (requireReady : Bool) : List String → Proc String
  | [] =>
      raise (.backendUnavailable
        ("NetworkManager Wi-Fi device " ++ m.wifiInterface ++ " does not exist"))
  | path :: paths => do
      let props ← properties path DEVICE
      let deviceType ← toInt rt (unwrapGet props "DeviceType" (.int 0))
      if deviceType = deviceTypeWifi ∧
          toStr rt (unwrapGet props "Interface" (.str "")) = m.wifiInterface then do
        let managed := (unwrapGet props "Managed" (.bool false)).truthy
        let state ← toInt rt (unwrapGet props "State" (.int 0))
        if requireReady ∧ (!managed ∨ state = deviceStateUnmanaged ∨ state = deviceStateUnavailable) then
          raise (.backendUnavailable ("NetworkManager does not manage " ++ m.wifiInterface))
        else return path
      else findWifiDevice requireReady paths

/-- `NetworkManager._wifi_device` -/
def wifiDevice (requireReady : Bool) : Proc String := do
  let owned ← nameHasOwner
  if !owned then raise (.backendUnavailable "NetworkManager service is not active")
  else do
    let paths ← devicePaths
    findWifiDevice m rt requireReady paths

end Device

end ApplianceAdmin.Network
