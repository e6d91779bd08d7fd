import ApplianceAdmin.Network.Read

/-!
# Scanning

`NetworkManager.scan` with its cache and its rate limit.
-/

namespace ApplianceAdmin.Network

open Async Async.Prog Python

variable (m : NetworkManager) (rt : Runtime)

/-- `int(_unwrap(props.get("LastScan"), -1))` -/
def lastScanOf (props : Dict) : Except PyError ℤ :=
  (unwrapGet props "LastScan" (.int (-1))).toInt rt.toUnicode

/-- The property `LastScan` of a device -/
def lastScan (device : String) : Proc ℤ := do
  let props ← properties device WIRELESS
  py (lastScanOf rt props)

/-- The handler of `_request_scan_and_wait` for a `TimeoutError`: a completed scan can race with
the subscription to the signal. -/
def recheckScan (device : String) (previous : ℤ) : Proc Unit := do
  let current ← lastScan rt device
  if current = previous ∨ current < 0 then
    raise (.busy "Wi-Fi scan did not complete before timeout")
  else return ()

/-- `NetworkManager._request_scan_and_wait` -/
def requestScanAndWait (device : String) : Proc Unit := do
  interfaces device [WIRELESS, PROPS]
  let previous ← lastScan rt device
  ask (Call.subscribe device (some previous))
  let wait : Proc Unit := do
    perform (Call.requestScan device)
    perform (Call.waitEvent (min 8 m.activationTimeout))
  (wait.tryCatch fun exc =>
    if exc.isTimeout then recheckScan rt device previous else raise exc).ensure
      (ask (Call.unsubscribe device))

structure ScanResponse where
  cached : Bool
  accessPoints : List WifiAccessPoint
  deriving DecidableEq

/-- A scan attempt; what it raises is dropped when the cache has something to show. -/
def attemptScan (device : String) (now : ℚ) : Proc Unit :=
  (do
    requestScanAndWait m rt device
    ask (Call.setLastScanRequest now)).tryCatch fun exc =>
    if exc.isBackendUnavailable then raise exc
    else if exc.isException then do
      let self ← ask Call.fields
      if self.scanCache = [] then raise (.busy ("Wi-Fi scan was rejected: " ++ exc.text))
      else return ()
    else raise exc

/-- What `scan` does under the scan lock -/
def lockedScan : Proc ScanResponse := do
  let device ← wifiDevice m rt true
  let now ← ask Call.monotonic
  let self ← ask Call.fields
  if m.scanMinInterval ≤ now - self.lastScanRequest then attemptScan m rt device now
  let result ← readAccessPoints rt device
  ask (Call.setScanCache result)
  let time ← ask Call.monotonic
  ask (Call.setLastScanResult time)
  return ⟨false, result⟩

/-- `NetworkManager.scan` -/
def scan (params : Dict) : Proc ScanResponse :=
  let force := ((params.get? "force").getD (.bool false)).truthy
  if params.any (·.1 ≠ "force") then raise (.validation "wifi.scan accepts only 'force'")
  else do
    let now ← ask Call.monotonic
    let self ← ask Call.fields
    if !force && !self.scanCache.isEmpty && now - self.lastScanResult < m.scanCacheSeconds then
      return ⟨true, self.scanCache⟩
    else withLock .scan (lockedScan m rt)

end ApplianceAdmin.Network
