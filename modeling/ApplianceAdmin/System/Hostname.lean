import ApplianceAdmin.System.Manager

/-!
# The hostname transaction

`SystemManager.hostname_set` with its helpers, and the table of handlers.  The polling loop takes
its iterations from `fuel`; with none left the program is at `spin`.
-/

namespace ApplianceAdmin.System

open Async Async.Prog Python

def recoveryHostname : String := "43a9-9ed7"

def recoveryLocalHostname : String := recoveryHostname ++ ".local"

def avahiRunning : ℤ := 2

/-! ### Avahi -/

/-- The arguments of `SystemManager._avahi_call` -/
def avahiArgs (method : String) : List String :=
  ["/usr/bin/busctl", "--system", "call", "org.freedesktop.Avahi", "/",
    "org.freedesktop.Avahi.Server", method]

/-- `SystemManager._avahi_call` -/
def avahiCall (method : String) : Proc String := runCommand (avahiArgs method) 2

/-- `shlex.split(text)` -/
def split (text : String) : Except Exc (List String) :=
  (shlexSplit text).mapError fun message => .py ⟨.value, message⟩

/-- `int(parts[-1]) if parts else -1` -/
def lastInt (rt : Runtime) (parts : List String) : Except Exc ℤ :=
  match parts.getLast? with
  | none => .ok (-1)
  | some part => (Value.intOfText rt.toUnicode part (rt.repr part)).mapError .py

/-- The state in the reply to `GetState` -/
def parseState (rt : Runtime) (reply : String) : Except Exc ℤ := split reply >>= lastInt rt

/-- The name in the reply to `GetHostNameFqdn`, when it is a single string -/
def parseFqdn (rt : Runtime) (reply : String) : Except Exc (Option String) :=
  (split reply).map fun
    | ["s", name] => some (rt.lower (rstripDots name))
    | _ => none

/-- The body of the `try` in `_wait_for_avahi_hostname`; a name is what it returns -/
def avahiAttempt (rt : Runtime) : Proc (Option String) := do
  let state ← lift (parseState rt (← avahiCall "GetState"))
  if state = avahiRunning then do
    let reply ← avahiCall "GetHostNameFqdn"
    lift (parseFqdn rt reply)
  else return none

/-- `except (NotFoundError, TimeoutError, ValueError)` -/
def isTransient (exc : Exc) : Bool := exc.isNotFound || exc.isTimeout || exc.isValueError

/-- `f": {last_error}" if last_error else ""` -/
def errorDetail : Option Exc → String
  | some exc => ": " ++ exc.text
  | none => ""

/-- The loop of `_wait_for_avahi_hostname` -/
def avahiLoop (rt : Runtime) (deadline : ℚ) : ℕ → Option Exc → Proc String
  | 0, _ => .spin
  | fuel + 1, lastError => do
      let outcome ← (do return (← avahiAttempt rt, lastError)).tryCatch fun exc =>
        if isTransient exc then return (none, some exc) else raise exc
      match outcome with
      | (some hostname, _) => return hostname
      | (none, lastError) => do
          let now ← time
          if deadline ≤ now then
            raise (.validation
              ("Avahi did not finish registering its hostname" ++ errorDetail lastError))
          else do
            sleep (1 / 10)
            avahiLoop rt deadline fuel lastError

/-- `SystemManager._wait_for_avahi_hostname` -/
def waitForAvahiHostname (rt : Runtime) (fuel : ℕ) : Proc String := do
  let now ← time
  avahiLoop rt (now + 4) fuel none

/-! ### Rollback -/

def hostnamectlArgs (hostname : String) : List String :=
  ["/usr/bin/hostnamectl", "set-hostname", hostname]

def avahiSetArgs (hostname : String) : List String := ["/usr/bin/avahi-set-host-name", hostname]

/-- `except (NotFoundError, TimeoutError)` -/
def isCommandError (exc : Exc) : Bool := exc.isNotFound || exc.isTimeout

/-- `except (NotFoundError, TimeoutError, ValidationError)` -/
def isPublishError (exc : Exc) : Bool := isCommandError exc || exc.isValidation

/-- The first `try` of `_restore_hostname`, with the errors it appends -/
def restoreLinux (hostname : String) : Proc (List String) :=
  (do
    let _ ← runCommand (hostnamectlArgs hostname) 10
    return []).tryCatch fun exc =>
    if isCommandError exc then return ["Linux rollback failed: " ++ exc.text] else raise exc

/-- The second `try` of `_restore_hostname`, with the errors it appends -/
def restoreAvahi (rt : Runtime) (fuel : ℕ) (hostname : String) : Proc (List String) :=
  (do
    let _ ← runCommand (avahiSetArgs hostname) 10
    let restoredHostname ← waitForAvahiHostname rt fuel
    if restoredHostname ≠ hostname ++ ".local" then
      raise (.validation ("Avahi restored the unexpected hostname " ++ restoredHostname))
    else return []).tryCatch fun exc =>
    if isPublishError exc then return ["mDNS rollback failed: " ++ exc.text] else raise exc

/-- `SystemManager._restore_hostname` -/
def restoreHostname (rt : Runtime) (fuel : ℕ) (hostname : String) : Proc (List String) := do
  let linuxErrors ← restoreLinux hostname
  let avahiErrors ← restoreAvahi rt fuel hostname
  return linuxErrors ++ avahiErrors

def restoredStatus : String := "the original hostname was restored"

/-- `"; ".join(rollback_errors) if rollback_errors else "the original hostname was restored"` -/
def rollbackStatus (rollbackErrors : List String) : String :=
  if rollbackErrors = [] then restoredStatus else "; ".intercalate rollbackErrors

/-- The message of a change that failed with `exc` and was rolled back -/
def failedMessage (what : String) (exc : Exc) (rollbackErrors : List String) : String :=
  what ++ exc.text ++ "; " ++ rollbackStatus rollbackErrors

/-- What both `except` clauses of `hostname_set` do after the original name is known -/
def failAfterRollback {α : Type} (rt : Runtime) (fuel : ℕ) (original what : String) (exc : Exc) :
    Proc α := do
  let rollbackErrors ← restoreHostname rt fuel original
  raise (.validation (failedMessage what exc rollbackErrors))

/-! ### The change -/

def readFailed : String := "Failed to read the current Linux hostname: "

def linuxFailed : String := "Failed to set Linux hostname: "

def publishFailed : String := "Failed to publish the requested hostname: "

/-- The result of an accepted `hostname.set` -/
structure HostnameResult where
  hostname : String
  localHostname : String
  mdnsUpdated : Bool
  recoveryLocalHostname : String
  accepted : Bool
  deriving DecidableEq

/-- `(await self._run_command("/usr/bin/hostname", timeout=2.0)).strip().lower()` -/
def readHostname (rt : Runtime) : Proc String :=
  (do return rt.lower (strip (← runCommand ["/usr/bin/hostname"] 2))).tryCatch fun exc =>
    if isCommandError exc then raise (.validation (readFailed ++ exc.text)) else raise exc

/-- The `try` that publishes the requested name -/
def publish (rt : Runtime) (fuel : ℕ) (requested : String) : Proc Unit := do
  let _ ← runCommand (avahiSetArgs requested) 10
  let publishedHostname ← waitForAvahiHostname rt fuel
  if publishedHostname ≠ requested ++ ".local" then
    raise (.validation ("The requested mDNS hostname is already in use; Avahi selected " ++
      publishedHostname ++ " instead"))
  else return ()

/-- `SystemManager.hostname_set` -/
def hostnameSet (rt : Runtime) (fuel : ℕ) (params : Dict) : Proc HostnameResult := do
  let request ← lift (HostnameSetRequest.validate rt params)
  let requested := rt.lower request.hostname
  let original ← readHostname rt
  (do
    let _ ← runCommand (hostnamectlArgs requested) 10
    return ()).tryCatch fun exc =>
    if isCommandError exc then failAfterRollback rt fuel original linuxFailed exc else raise exc
  (publish rt fuel requested).tryCatch fun exc =>
    if isPublishError exc then failAfterRollback rt fuel original publishFailed exc else raise exc
  return {
    hostname := requested
    localHostname := requested ++ ".local"
    mdnsUpdated := true
    recoveryLocalHostname
    accepted := true }

/-! ### Handlers -/

/-- The result of `system.capabilities` -/
structure Capabilities where
  hostnameLiveMdns : Bool
  hostnameTransactional : Bool
  recoveryLocalHostname : String
  deriving DecidableEq

/-- `SystemManager.capabilities` -/
def capabilities (params : Dict) : Proc Capabilities :=
  if params ≠ [] then raise (.validation "System capabilities do not accept parameters")
  else return {
    hostnameLiveMdns := true
    hostnameTransactional := true
    recoveryLocalHostname }

/-- What the handlers of the manager return -/
inductive Result
  | accepted
  | service (service : String)
  | status (status : ServiceStatus)
  | hostname (hostname : HostnameResult)
  | capabilities (capabilities : Capabilities)

/-- The handler of `main.py` for an action of this manager -/
def handler (m : SystemManager) (rt : Runtime) (fuel : ℕ) (action : String) (params : Dict) :
    Option (Proc Result) :=
  match action with
  | "system.capabilities" => some do return .capabilities (← capabilities params)
  | "system.reboot" => some do
      reboot params
      return .accepted
  | "system.poweroff" => some do
      poweroff params
      return .accepted
  | "hostname.set" => some do return .hostname (← hostnameSet rt fuel params)
  | "service.status" => some do return .status (← serviceStatus m rt params)
  | "service.start" => some do return .service (← serviceStart m rt params)
  | "service.stop" => some do return .service (← serviceStop m rt params)
  | "service.restart" => some do return .service (← serviceRestart m rt params)
  | _ => none

end ApplianceAdmin.System
