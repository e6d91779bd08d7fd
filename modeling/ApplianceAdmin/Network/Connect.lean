import ApplianceAdmin.Network.Read
import ApplianceAdmin.Python.Uuid

/-!
# Changing the connection

The operations of `NetworkManager` that change something: `connect` and `activate_profile`, which
are transactions around a NetworkManager checkpoint, `disconnect` and `delete_profile`.

* `createCheckpoint`, `verifyActivation`, `finishTransaction`;
* `transact`: what `connect` and `activate_profile` have in common, from the creation of the
  checkpoint on;
* `fuel` bounds the rounds of the polling loop in `verifyActivation`.
-/

namespace ApplianceAdmin.Network

open Async Async.Prog Python

/-! ### Activation -/

structure ActivationDetails where
  connectivity : String
  addresses : List InterfaceAddress
  gateway : String
  dns : List String
  deriving DecidableEq

section Activation

variable (m : NetworkManager) (rt : Runtime)

/-- `NetworkManager._create_checkpoint` -/
def createCheckpoint (device : String) : Proc String := do
  interfaces NM_PATH [NM_IFACE]
  perform (Call.checkpointCreate [device] m.checkpointTimeout
    (checkpointDestroyAll ||| checkpointDeleteNewConnections))

/-- The details of a connection that is activated, once it is usable -/
def usableDetails (deviceProps : Dict) : Proc (Option ActivationDetails) := do
  let config ← strItem rt deviceProps "Ip4Config"
  let ip4 ← ip4Details rt config
  match ip4.gateway with
  | none => return none
  | some gateway =>
      if ip4.addresses.isEmpty || ip4.dns.isEmpty then return none
      else do
        interfaces NM_PATH [NM_IFACE]
        let connectivity ← perform Call.checkConnectivity
        if connectivity ∈ [1, 2, 3] then
          raise (.activation "Connection did not reach full NetworkManager connectivity")
        else return some ⟨connectivityName connectivity, ip4.addresses, gateway, ip4.dns⟩

/-- One look at the device and the connection: the details when they are usable, and what was
seen. -/
def observe (device activePath : String) :
    Proc (Option ActivationDetails × ℤ × Value) := do
  let deviceProps ← properties device DEVICE
  let lastState ← intItem rt deviceProps "State"
  let reason := unwrapGet deviceProps "StateReason" .none
  let activeProps ← properties activePath ACTIVE
  let activeState ← intItem rt activeProps "State"
  if lastState = deviceStateFailed ∨ activeState = activeStateDeactivated then
    raise (.activation
      ("Connection activation failed (device reason=" ++ toStr rt reason ++ ")"))
  else if lastState = deviceStateActivated ∧ activeState = activeStateActivated then do
    let details ← usableDetails rt deviceProps
    return (details, lastState, reason)
  else return (none, lastState, reason)

/-- The loop of `_verify_activation`: the details, or the last state and reason seen before the
deadline passed -/
def pollActivation (device activePath : String) (deadline : ℚ) :
    ℕ → ℤ → Value → Proc (ActivationDetails ⊕ ℤ × Value)
  | 0, _, _ => .spin
  | fuel + 1, lastState, reason => do
      let time ← ask Call.loopTime
      if time < deadline then do
        ask Call.clearEvent
        let seen ← observe rt device activePath
        match seen.1 with
        | some details => return .inl details
        | none => do
            let time ← ask Call.loopTime
            (perform (Call.waitEvent (min 1 (deadline - time)))).tryCatch fun exc =>
              if exc.isTimeout then return () else raise exc
            pollActivation device activePath deadline fuel seen.2.1 seen.2.2
      else return .inr (lastState, reason)

/-- `NetworkManager._verify_activation` -/
def verifyActivation (fuel : ℕ) (device activePath : String) : Proc ActivationDetails := do
  let time ← ask Call.loopTime
  let deadline := time + m.activationTimeout
  interfaces device [PROPS]
  interfaces activePath [PROPS]
  ask (Call.subscribe device none)
  ask (Call.subscribe activePath none)
  let unsubscribe : Proc Unit := do
    ask (Call.unsubscribe device)
    ask (Call.unsubscribe activePath)
  let outcome ← (pollActivation rt device activePath deadline fuel 0 .none).ensure unsubscribe
  match outcome with
  | .inl details => return details
  | .inr (lastState, reason) =>
      raise (.activation ("Connection did not become usable before timeout (state=" ++
        toString lastState ++ ", reason=" ++ toStr rt reason ++ ")"))

/-! ### Transactions -/

/-- `with suppress(Exception): await nm[NM_IFACE].call_checkpoint_rollback(checkpoint)` -/
def rollback (checkpoint : String) : Proc Unit :=
  suppress (perform (Call.checkpointRollback checkpoint))

/-- `NetworkManager._finish_transaction` -/
def finishTransaction (fuel : ℕ) (checkpoint device activePath : String) :
    Proc ActivationDetails := do
  interfaces NM_PATH [NM_IFACE]
  (do
    let details ← verifyActivation m rt fuel device activePath
    perform (Call.checkpointDestroy checkpoint)
    return details).tryCatch fun exc =>
    if exc.isException then do
      rollback checkpoint
      raise exc
    else raise exc

/-- The handlers of `connect` and `activate_profile` around the activation -/
def undo {α : Type} (checkpoint rejected : String) (exc : Exc) : Proc α :=
  if exc.isActivation || exc.isBackendUnavailable then do
    rollback checkpoint
    raise exc
  else if exc.isException then do
    rollback checkpoint
    raise (.activation rejected)
  else raise exc

/-- `connect` and `activate_profile` from the creation of the checkpoint on: `activate` returns
its result together with the path of the active connection. -/
def transact {α : Type} (fuel : ℕ) (device rejected : String) (activate : Proc (α × String)) :
    Proc ((α × String) × ActivationDetails) := do
  let checkpoint ← createCheckpoint m device
  interfaces NM_PATH [NM_IFACE]
  (do
    let active ← activate
    let details ← finishTransaction m rt fuel checkpoint device active.2
    return (active, details)).tryCatch (undo checkpoint rejected)

end Activation

/-! ### The operations -/

section Operations

variable (m : NetworkManager) (rt : Runtime)

structure ConnectResult where
  accepted : Bool
  ssid : String
  connectionPath : String
  activeConnectionPath : String
  details : ActivationDetails
  deriving DecidableEq

/-- The profile that `connect` adds -/
def wifiConnection (uuid : String) (request : WifiConnectRequest) : Settings :=
  let connection : Settings := [
    ("connection", [
      ("id", .str ("wifi-" ++ request.ssid)),
      ("uuid", .str uuid),
      ("type", .str "802-11-wireless"),
      ("autoconnect", .bool true)]),
    ("802-11-wireless", [
      ("ssid", .bytes request.ssid.toUTF8.toList),
      ("mode", .str "infrastructure"),
      ("hidden", .bool request.hidden)]),
    ("ipv4", [("method", .str "auto")]),
    ("ipv6", [("method", .str "auto")])]
  match request.password with
  | none => connection
  | some password =>
      if password = "" then connection
      else connection ++ [("802-11-wireless-security", [
        ("key-mgmt", .str "wpa-psk"),
        ("psk", .str password)])]

/-- `NetworkManager.connect`; `uuid` is what `uuid4()` returns. -/
def connect (fuel : ℕ) (uuid : String) (params : Dict) : Proc ConnectResult := do
  let request ← lift (WifiConnectRequest.validate rt params)
  withLock .connection do
    let device ← wifiDevice m rt true
    let activate : Proc (String × String) :=
      perform (Call.addAndActivateConnection2 (wifiConnection uuid request) device "/"
        [("persist", .str "disk")])
    let result ← transact m rt fuel device "NetworkManager rejected the Wi-Fi connection" activate
    return {
      accepted := true
      ssid := request.ssid
      connectionPath := result.1.1
      activeConnectionPath := result.1.2
      details := result.2 }

structure DisconnectResult where
  accepted : Bool
  interface : String
  deriving DecidableEq

/-- `NetworkManager.disconnect` -/
def disconnect (params : Dict) : Proc DisconnectResult :=
  if !params.isEmpty then raise (.validation "wifi.disconnect does not accept parameters")
  else do
    let device ← wifiDevice m rt true
    interfaces device [DEVICE]
    perform (Call.disconnect device)
    return ⟨true, m.wifiInterface⟩

/-- `_validated_uuid` -/
def validatedUuid (params : Dict) (action : String) : Except Exc String :=
  match params with
  | [("uuid", v)] =>
      match parseUuid rt.toUnicode (toStr rt v) with
      | some n => .ok (uuidText n)
      | none => .error (.validation "Invalid profile UUID")
  | _ => .error (.validation (action ++ " requires only 'uuid'"))

structure ActivateResult where
  accepted : Bool
  uuid : String
  activeConnectionPath : String
  details : ActivationDetails
  deriving DecidableEq

/-- `NetworkManager.activate_profile` -/
def activateProfile (fuel : ℕ) (params : Dict) : Proc ActivateResult := do
  let profileUuid ← lift (validatedUuid rt params "network.profile.activate")
  withLock .connection do
    let device ← wifiDevice m rt true
    settingsInterface
    let connectionPath ← (perform (Call.getConnectionByUuid profileUuid)).tryCatch fun exc =>
      if exc.isException then
        raise (.notFound ("Network profile " ++ profileUuid ++ " was not found"))
      else raise exc
    interfaces connectionPath [SETTINGS_CONNECTION]
    let settings ← perform (Call.getSettings connectionPath)
    let profileType := toStr rt (unwrapGet (settings.section "connection") "type" (.str ""))
    if profileType ≠ "802-11-wireless" then
      raise (.validation "Only Wi-Fi profiles can be activated here")
    else do
      let activate : Proc (Unit × String) := do
        let activePath ← perform (Call.activateConnection connectionPath device "/")
        return ((), activePath)
      let result ← transact m rt fuel device
        ("NetworkManager rejected profile " ++ profileUuid) activate
      return {
        accepted := true
        uuid := profileUuid
        activeConnectionPath := result.1.2
        details := result.2 }

structure DeleteResult where
  deleted : Bool
  uuid : String
  deriving DecidableEq

/-- `NetworkManager.delete_profile` -/
def deleteProfile (params : Dict) : Proc DeleteResult := do
  let profileUuid ← lift (validatedUuid rt params "network.profile.delete")
  settingsInterface
  (do
    let path ← perform (Call.getConnectionByUuid profileUuid)
    interfaces path [SETTINGS_CONNECTION]
    perform (Call.delete path)).tryCatch fun exc =>
    if exc.isBackendUnavailable then raise exc
    else if exc.isException then
      raise (.notFound ("Network profile " ++ profileUuid ++ " was not found"))
    else raise exc
  return ⟨true, profileUuid⟩

end Operations

end ApplianceAdmin.Network
