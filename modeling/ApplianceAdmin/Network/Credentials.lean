import ApplianceAdmin.Network.Identity

/-!
# The octets of credentials

`WifiConnectRequest` bounds an SSID and a passphrase in characters, at the numbers that a radio
bounds them at in octets.

* `Fits`, `Sized`, `Suits`: a profile, a request and a call of `connect` within the bounds;
* `Narrow`: the characters that take more than one octet leave a request within them;
* `suits_iff_narrow`: `connect` keeps to the bounds for exactly these of the accepted requests.
-/

namespace ApplianceAdmin.Network

open Async Async.Prog Python

/-! ### The bounds in octets -/

/-- The security section of a profile -/
def security (settings : Settings) : Option Dict := settings.lookup "802-11-wireless-security"

/-- A profile within the bounds of the radio, which is secured exactly for a request with a
password. -/
structure Fits (password : Option String) (settings : Settings) : Prop where
  ssid : ∃ raw, submitted settings = some (.bytes raw) ∧ 1 ≤ raw.length ∧ raw.length ≤ 32
  secured : ∀ text, password = some text → ∃ keys psk, security settings = some keys ∧
    keys.get? "key-mgmt" = some (.str "wpa-psk") ∧ keys.get? "psk" = some (.str psk) ∧
    8 ≤ (encode psk).length ∧ (encode psk).length ≤ 63
  unsecured : password = none → security settings = none

/-- A request within the bounds of the radio. -/
structure Sized (request : WifiConnectRequest) : Prop where
  ssid_pos : 1 ≤ (encode request.ssid).length
  ssid_le : (encode request.ssid).length ≤ 32
  password_ge : ∀ text, request.password = some text → 8 ≤ (encode text).length
  password_le : ∀ text, request.password = some text → (encode text).length ≤ 63

/-- A checkpoint is created for a request within the bounds only, and so is a profile. -/
def Suits (request : WifiConnectRequest) : Call → Prop
  | .checkpointCreate _ _ _ => Sized request
  | .addAndActivateConnection2 settings _ _ _ => Fits request.password settings
  | _ => True

/-- What the characters of a request take beyond one octet each is the room that their number
leaves, at most. -/
structure Narrow (request : WifiConnectRequest) : Prop where
  ssid : request.ssid.length + surplus request.ssid ≤ 32
  password : ∀ text, request.password = some text → text.length + surplus text ≤ 63

/-! ### Accepted requests -/

section Accepted

variable {rt : Runtime} {params : Dict} {request : WifiConnectRequest}

/-- The bounds in characters, which an accepted request keeps -/
structure Counted (request : WifiConnectRequest) : Prop where
  ssid_pos : 1 ≤ request.ssid.length
  ssid_le : request.ssid.length ≤ 32
  password_ge : ∀ text, request.password = some text → 8 ≤ text.length
  password_le : ∀ text, request.password = some text → text.length ≤ 63

theorem counted_of_validate (h : WifiConnectRequest.validate rt params = .ok request) :
    Counted request := by
  unfold WifiConnectRequest.validate at h
  simp only at h
  split at h
  · rename_i ssid password hidden hssid hpassword _
    cases h
    obtain ⟨_, hssid⟩ := required_eq_ok hssid
    obtain ⟨hpos, hle, -⟩ := strField_spec hssid
    have hbounds : ∀ text, password = some text → 8 ≤ text.length ∧ text.length ≤ 63 := by
      rintro text rfl
      rcases optional_eq_ok hpassword with hnone | ⟨v, hv⟩
      · cases hnone
      · obtain ⟨hge, hle, -⟩ := strField_spec (nullable_eq_ok hv)
        exact ⟨hge, hle⟩
    exact ⟨hpos, hle, fun text ht => (hbounds text ht).1, fun text ht => (hbounds text ht).2⟩
  · cases h

/-- The lower bounds hold in octets as they do in characters, and the upper ones leave the room
for what the characters take beyond one octet each. -/
theorem sized_iff_narrow (h : Counted request) : Sized request ↔ Narrow request := by
  constructor
  · intro hsized
    constructor
    · rw [← length_encode]
      exact hsized.ssid_le
    · intro text htext
      rw [← length_encode]
      exact hsized.password_le text htext
  · intro hnarrow
    constructor
    · exact h.ssid_pos.trans (length_encode_ge _)
    · rw [length_encode]
      exact hnarrow.ssid
    · exact fun text htext => (h.password_ge text htext).trans (length_encode_ge _)
    · intro text htext
      rw [length_encode]
      exact hnarrow.password text htext

/-- The profile of a request is within the bounds when the request is. -/
theorem fits_iff_sized (uuid : String) (h : Counted request) :
    Fits request.password (wifiConnection uuid request) ↔ Sized request := by
  have hsecurity : ∀ text, request.password = some text →
      security (wifiConnection uuid request) =
        some [("key-mgmt", .str "wpa-psk"), ("psk", .str text)] := by
    intro text htext
    have hne : text ≠ "" := by
      rintro rfl
      have := h.password_ge "" htext
      simp at this
    unfold wifiConnection
    rw [htext]
    simp only [if_neg hne]
    rfl
  constructor
  · -- the profile carries the octets of the SSID and the text of the password
    intro hfits
    obtain ⟨raw, hraw, hpos, hle⟩ := hfits.ssid
    rw [submitted_wifiConnection] at hraw
    cases hraw
    have hpassword : ∀ text, request.password = some text →
        8 ≤ (encode text).length ∧ (encode text).length ≤ 63 := by
      intro text htext
      obtain ⟨keys, psk, hkeys, -, hpsk, hbounds⟩ := hfits.secured text htext
      rw [hsecurity text htext] at hkeys
      cases hkeys
      cases hpsk
      exact hbounds
    exact ⟨hpos, hle, fun text ht => (hpassword text ht).1, fun text ht => (hpassword text ht).2⟩
  · intro hsized
    constructor
    · exact ⟨_, submitted_wifiConnection uuid request, hsized.ssid_pos, hsized.ssid_le⟩
    · intro text htext
      exact ⟨_, text, hsecurity text htext, rfl, rfl, hsized.password_ge text htext,
        hsized.password_le text htext⟩
    · intro hnone
      unfold wifiConnection
      rw [hnone]
      rfl

end Accepted

/-! ### The calls of `connect` -/

section Connect

variable {m : NetworkManager} {rt : Runtime} {params : Dict} {request : WifiConnectRequest}

theorem suits_of_attends {c : Call} (hc : c.attends = true) : Suits request c := by
  cases c <;> trivial

theorem within_suits (fuel : ℕ) (uuid : String)
    (h : WifiConnectRequest.validate rt params = .ok request) (hsized : Sized request) :
    Within (Suits request) (fun _ => True) (connect m rt fuel uuid params) := by
  refine within_connect fuel uuid (fun _ => suits_of_attends) ⟨trivial, trivial⟩
    (fun _ _ _ _ _ => hsized) fun request' hrequest' _ _ _ => ?_
  rw [h] at hrequest'
  cases hrequest'
  exact (fits_iff_sized uuid (counted_of_validate h)).2 hsized

/-- A lookup on a bus that is connected -/
def lookedUp (dest path : String) (names : List String) : List (Event Reply Exc) :=
  [⟨.fields, .ok { Fields.init with bus := true }⟩, ⟨.introspect dest path names, .ok ()⟩]

/-- The properties of the device that is configured, which is ready -/
def readyProps (m : NetworkManager) : Dict :=
  [("DeviceType", .int 2), ("Interface", .str m.wifiInterface), ("Managed", .bool true),
    ("State", .int 100)]

theorem path_interfaces (path : String) (names : List String) :
    Path (interfaces path names) (lookedUp NM path names) (.done (.ok ())) :=
  .cons (.cons (.nil _))

theorem path_properties (path interface : String) (props : Dict) :
    Path (properties path interface)
      (lookedUp NM path [PROPS] ++ [⟨.getAll path interface, .ok props⟩]) (.done (.ok props)) :=
  (path_interfaces path [PROPS]).seq (.cons (.nil _))

theorem path_wifiDevice : ∃ tr, Path (wifiDevice m rt true) tr (.done (.ok "/device/wifi")) := by
  have howner : Path nameHasOwner
      (lookedUp DBUS DBUS_PATH [DBUS] ++ [⟨.nameHasOwner NM, .ok true⟩]) (.done (.ok true)) :=
    .cons (.cons (.cons (.nil _)))
  have hpaths : Path devicePaths
      (lookedUp NM NM_PATH [NM_IFACE] ++ [⟨.getDevices, .ok ["/device/wifi"]⟩])
      (.done (.ok ["/device/wifi"])) := (path_interfaces _ _).seq (.cons (.nil _))
  have hready : Path (findWifiDevice m rt true ["/device/wifi"])
      (lookedUp NM "/device/wifi" [PROPS] ++
        [⟨.getAll "/device/wifi" DEVICE, .ok (readyProps m)⟩] ++ [])
      (.done (.ok "/device/wifi")) := by
    refine (path_properties _ _ (readyProps m)).seq ?_
    show Path (if deviceTypeWifi = deviceTypeWifi ∧ m.wifiInterface = m.wifiInterface then _ else _)
      [] _
    rw [if_pos ⟨rfl, rfl⟩]
    exact .nil _
  exact ⟨_, howner.seq (hpaths.seq hready)⟩

/-- The checkpoint that is created on that device -/
def created (m : NetworkManager) : Event Reply Exc :=
  ⟨.checkpointCreate ["/device/wifi"] m.checkpointTimeout
    (checkpointDestroyAll ||| checkpointDeleteNewConnections), .ok "/checkpoint/1"⟩

theorem path_createCheckpoint : Path (createCheckpoint m "/device/wifi")
    (lookedUp NM NM_PATH [NM_IFACE] ++ [created m]) (.done (.ok "/checkpoint/1")) :=
  (path_interfaces _ _).seq (.cons (.nil _))

/-- A request that is accepted can reach the creation of a checkpoint. -/
theorem exists_checkpoint (fuel : ℕ) (uuid : String)
    (h : WifiConnectRequest.validate rt params = .ok request) :
    ∃ tr q, Path (connect m rt fuel uuid params) tr q ∧ created m ∈ tr := by
  obtain ⟨looked, hlooked⟩ : ∃ tr, Path (wifiDevice m rt true) tr (.done (.ok "/device/wifi")) :=
    path_wifiDevice
  unfold connect
  rw [h]
  refine ⟨_, _, .cons (r := .ok ())
    ((hlooked.seq (.bind (path_createCheckpoint.bind _) _)).ensure _), ?_⟩
  simp

/-- **An accepted request keeps to the octets of the radio exactly when its characters leave the
room.** -/
theorem suits_iff_narrow (fuel : ℕ) (uuid : String)
    (h : WifiConnectRequest.validate rt params = .ok request) :
    (∀ tr q, Path (connect m rt fuel uuid params) tr q → ∀ e ∈ tr, Suits request e.call) ↔
      Narrow request := by
  rw [← sized_iff_narrow (counted_of_validate h)]
  constructor
  · intro hsuits
    obtain ⟨tr, q, hpath, hcreated⟩ := exists_checkpoint (m := m) fuel uuid h
    exact hsuits tr q hpath (created m) hcreated
  · intro hsized tr q hpath
    exact hpath.within (within_suits fuel uuid h hsized)

end Connect

/-! ### Runs -/

/-- A request with an SSID of 32 characters and a password of 63, each of two octets -/
def wideRequest : WifiConnectRequest where
  ssid := String.ofList (List.replicate 32 'é')
  password := some (String.ofList (List.replicate 63 'é'))
  hidden := false

def wideParams : Dict :=
  [("ssid", .str (String.ofList (List.replicate 32 'é'))),
    ("password", .str (String.ofList (List.replicate 63 'é')))]

theorem not_sized_wide : ¬Sized wideRequest := fun h => absurd h.ssid_le (by decide +kernel)

/-- The request where NetworkManager refuses to activate -/
def wideRun : List (Event Reply Exc) × Option (Except Exc ConnectResult) :=
  exec refusing (connect .default .ascii 1 "uuid" wideParams) ()

/-- The request is accepted and asks for a checkpoint, and for a profile with an SSID of 64 octets
and a passphrase of 126. -/
theorem wide_submitted :
    WifiConnectRequest.validate .ascii wideParams = .ok wideRequest ∧
    ∃ tr r, Path (connect .default .ascii 1 "uuid" wideParams) tr (.done r) ∧
      (∃ e ∈ tr, e.call = (created .default).call ∧ ¬Suits wideRequest e.call) ∧
      ∃ e ∈ tr, e.call = .addAndActivateConnection2 (wifiConnection "uuid" wideRequest)
        "/device/wifi" "/" [("persist", .str "disk")] ∧ ¬Suits wideRequest e.call := by
  refine ⟨rfl, wideRun.1, _, path_of_exec refusing _ () rfl, ?_, ?_⟩
  · have hcall : (wideRun.1.map (·.call))[12]? = some (created .default).call := rfl
    obtain ⟨e, he, hcall⟩ := List.mem_map.1 (List.mem_of_getElem? hcall)
    refine ⟨e, he, hcall, fun hsuits => ?_⟩
    rw [hcall] at hsuits
    exact not_sized_wide hsuits
  · have hcall : (wideRun.1.map (·.call))[15]? = some (.addAndActivateConnection2
        (wifiConnection "uuid" wideRequest) "/device/wifi" "/" [("persist", .str "disk")]) := rfl
    obtain ⟨e, he, hcall⟩ := List.mem_map.1 (List.mem_of_getElem? hcall)
    refine ⟨e, he, hcall, fun hsuits => ?_⟩
    rw [hcall] at hsuits
    have hvalid : WifiConnectRequest.validate .ascii wideParams = .ok wideRequest := rfl
    exact not_sized_wide ((fits_iff_sized "uuid" (counted_of_validate hvalid)).1 hsuits)

/-- An SSID of eleven characters and thirteen octets, with a password in ASCII -/
def cafeParams : Dict := [("ssid", .str "Café Zürich"), ("password", .str "flat white")]

/-- This request is accepted and keeps to the bounds. -/
theorem cafe_suits :
    WifiConnectRequest.validate .ascii cafeParams =
      .ok ⟨"Café Zürich", some "flat white", false⟩ ∧
    ∀ tr q, Path (connect .default .ascii 1 "uuid" cafeParams) tr q →
      ∀ e ∈ tr, Suits ⟨"Café Zürich", some "flat white", false⟩ e.call := by
  refine ⟨rfl, (suits_iff_narrow 1 "uuid" rfl).2 ⟨by decide +kernel, fun text htext => ?_⟩⟩
  cases htext
  decide +kernel

end ApplianceAdmin.Network
