import ApplianceAdmin.Async.Composition
import ApplianceAdmin.Network.Connect
import ApplianceAdmin.Network.Scan

/-!
# One walk over the functions

A property that is kept when programs are put together holds of a function of the manager when it
holds of the calls of the function.  Each function is taken apart here, once for all such properties.

* `Looks E P`: `P` is such a property and holds of every lookup; `Searches P`: and of what looks for
  the Wi-Fi device;
* `Records E P`: and of the use of the manager's attributes; `Polls E P`, `Signals E P`: and of what
  is done to wait for a signal;
* `Looks.readDevice`, `Searches.wifiDevice`, `Signals.verifyActivation`, …: one lemma for each
  function, with the calls that it makes besides as hypotheses.
-/

namespace ApplianceAdmin.Network

open Async Async.Prog Python

/-! ### Properties -/

/-- An exception for a cause other than an unavailable backend -/
def Ordinary (x : Exc) : Prop := x.isException = true ∧ x.isBackendUnavailable = false

theorem ordinary_of_isTimeout {x : Exc} (h : x.isTimeout = true) : Ordinary x := by
  cases x <;> first | exact ⟨rfl, rfl⟩ | cases h

/-- A call that asks for a list of objects -/
def Call.lists : Call → Bool
  | .getDevices | .getAllAccessPoints _ | .listConnections => true
  | _ => false

/-- A call by which an object is found or read once there is a bus -/
def Call.inquires : Call → Bool
  | .introspect _ _ _ | .getAll _ _ | .nameHasOwner _ | .getDevices | .getAllAccessPoints _
  | .listConnections => true
  | _ => false

/-- A use of the manager's own attributes, or of the clock that they are compared with -/
def Call.records : Call → Bool
  | .fields | .monotonic | .setLastScanRequest _ | .setLastScanResult _ | .setScanCache _ => true
  | _ => false

/-- What is done between two waits for a signal -/
def Call.ticks : Call → Bool
  | .loopTime | .clearEvent => true
  | _ => false

/-- The call that stands in a `finally` -/
def Call.unsubscribes : Call → Bool
  | .unsubscribe _ => true
  | _ => false

/-- `P` is kept by what raises and catches exceptions in `E`, and holds of every lookup. -/
structure Looks (E : Exc → Prop) (P : {α : Type} → Proc α → Prop) : Prop extends Composes E P where
  ordinary : ∀ x, Ordinary x → E x
  interfaces : ∀ path names, P (interfaces path names)
  properties : ∀ path interface, P (properties path interface)
  list : ∀ c : Call, c.lists = true → P (perform c : Proc (Reply c))

/-- The same for all `Exception`s, and `P` holds of what looks for the Wi-Fi device. -/
structure Searches (P : {α : Type} → Proc α → Prop) : Prop
    extends Looks (fun x => x.isException = true) P where
  start : P start
  nameHasOwner : P nameHasOwner

/-- `P` holds of the use of the manager's attributes. -/
structure Records (E : Exc → Prop) (P : {α : Type} → Proc α → Prop) : Prop extends Looks E P where
  own : ∀ c : Call, c.records = true → P (ask c : Proc (Reply c))

/-- `P` holds of waiting for a signal in a loop. -/
structure Polls (E : Exc → Prop) (P : {α : Type} → Proc α → Prop) : Prop extends Looks E P where
  spin : ∀ {α : Type}, P (.spin : Proc α)
  tick : ∀ c : Call, c.ticks = true → P (ask c : Proc (Reply c))
  waitEvent : ∀ timeout, P (perform (Call.waitEvent timeout))

/-- `P` holds of what handles the signals, with a `finally` around it. -/
structure Signals (E : Exc → Prop) (P : {α : Type} → Proc α → Prop) : Prop extends Polls E P where
  subscribe : ∀ path previous, P (ask (Call.subscribe path previous))
  ensure : ∀ {α : Type} {p : Proc α} {q : Proc Unit}, P p →
    Cleans (fun c : Call => c.unsubscribes = true) q → P (p.ensure q)

section Walk

variable {m : NetworkManager} {rt : Runtime} {E : Exc → Prop} {P : {α : Type} → Proc α → Prop}
  {α β : Type}

/-! ### Handlers and loops -/

/-- `except Exception` with another exception in place of the one that is caught -/
theorem composes_replace (hP : Composes (fun x : Exc => x.isException = true) P) {p : Proc α} (hp : P p)
    {x : Exc} (hx : x.isException = true) :
    P (p.tryCatch fun exc => if exc.isException then raise x else raise exc) := by
  refine hP.tryCatch hp (fun exc hexc => ?_) fun exc hexc => if_neg hexc
  rw [if_pos hexc]
  exact hP.raise hx

theorem composes_suppress (hP : Composes (fun x : Exc => x.isException = true) P) {p : Proc Unit}
    (hp : P p) : P (suppress p) := by
  refine hP.tryCatch hp (fun exc hexc => ?_) fun exc hexc => if_neg hexc
  rw [if_pos hexc]
  exact hP.pure ()

theorem composes_collect (hP : Composes E P) {f : α → Proc (Option β)} {xs : List α}
    (hf : ∀ a ∈ xs, P (f a)) : P (collect f xs) := by
  induction xs with
  | nil => exact hP.pure []
  | cons x xs ih =>
    obtain ⟨hx, hxs⟩ := List.forall_mem_cons.1 hf
    exact hP.bind hx fun _ => hP.bind (ih hxs) fun _ => hP.pure _

/-! ### Lookups -/

/-- The lookups from the calls on an open bus -/
theorem Searches.of_start (hP : Composes (fun x : Exc => x.isException = true) P)
    (hstart : P Network.start) (hcall : ∀ c : Call, c.inquires = true → P (perform c : Proc (Reply c))) :
    Searches P := by
  have hinterfaces : ∀ path names, P (interfaces path names) := fun path names =>
    hP.bind hstart fun _ => composes_replace hP (hcall _ rfl) rfl
  exact {
    hP with
    ordinary := fun x hx => hx.1
    interfaces := hinterfaces
    properties := fun path interface =>
      hP.bind (hinterfaces path _) fun _ => composes_replace hP (hcall _ rfl) rfl
    list := fun c hc => hcall c (by cases c <;> first | rfl | cases hc)
    start := hstart
    nameHasOwner := hP.bind hstart fun _ =>
      composes_replace hP (hP.bind (hcall _ rfl) fun _ => hcall _ rfl) rfl }

/-- The lookups from the calls, those that open the bus among them -/
theorem Searches.of_calls (hP : Composes (fun x : Exc => x.isException = true) P)
    (hfields : P (ask Call.fields)) (hset : P (ask (Call.setBus true)))
    (hconnect : P (perform Call.connectBus))
    (hcall : ∀ c : Call, c.inquires = true → P (perform c : Proc (Reply c))) : Searches P := by
  refine .of_start hP (hP.bind hfields fun self => ?_) hcall
  -- a bus that is there is used; otherwise one is opened
  split
  · exact hP.pure ()
  · exact hP.bind (composes_replace hP hconnect rfl) fun _ => hset

namespace Looks

variable (hP : Looks E P)

include hP

theorem mapError {ε : Type} {f : ε → Exc} (hf : ∀ x, Ordinary (f x)) (r : Except ε α) :
    P (lift (r.mapError f)) := by
  refine hP.lift fun e he => hP.ordinary e ?_
  cases r with
  | ok a => cases he
  | error x =>
    cases he
    exact hf x

theorem py (r : Except PyError α) : P (py r) := hP.mapError (fun _ => ⟨rfl, rfl⟩) r

theorem intItem (props : Dict) (key : String) : P (intItem rt props key) :=
  hP.bind (hP.py _) fun _ => hP.py _

theorem strItem (props : Dict) (key : String) : P (strItem rt props key) :=
  hP.bind (hP.py _) fun _ => hP.pure _

theorem optionalInt (v : Value) : P (optionalInt rt v) := by
  unfold Network.optionalInt
  split
  · exact hP.pure none
  · exact hP.bind (hP.py _) fun _ => hP.pure _

theorem optionalSsid (v : Value) : P (optionalSsid v) := by
  unfold Network.optionalSsid
  split
  · exact hP.pure none
  · exact hP.bind (hP.py _) fun _ => hP.pure _

theorem devicePaths : P devicePaths := hP.bind (hP.interfaces _ _) fun _ => hP.list _ rfl

theorem settingsInterface : P settingsInterface := hP.interfaces _ _

/-! ### Status -/

theorem activeConnectionName (path : String) : P (activeConnectionName rt path) := by
  unfold Network.activeConnectionName
  split
  · exact hP.pure none
  · exact hP.bind (hP.properties path ACTIVE) fun _ => hP.bind (hP.strItem _ _) fun _ => hP.pure _

theorem ip4Details (path : String) : P (ip4Details rt path) := by
  unfold Network.ip4Details
  split
  · exact hP.pure _
  · exact hP.bind (hP.properties path IP4) fun _ => hP.py _

theorem activeSsid (path : String) (currentSsid : Option String) :
    P (activeSsid rt path currentSsid) := by
  refine hP.bind (hP.properties path WIRELESS) fun wireless => ?_
  refine hP.bind (hP.strItem _ _) fun activeAp => ?_
  split
  · exact hP.pure currentSsid
  · refine hP.bind (hP.properties activeAp AP) fun props => ?_
    exact hP.bind (hP.py _) fun raw => hP.bind (hP.py _) fun _ => hP.pure _

theorem readCarrier (path : String) : P (readCarrier path) :=
  hP.bind (hP.properties path WIRED) fun _ => hP.bind (hP.py _) fun _ => hP.pure _

theorem readDevice (path : String) (currentSsid : Option String) :
    P (readDevice rt path currentSsid) := by
  refine hP.bind (hP.properties path DEVICE) fun props => ?_
  refine hP.bind (hP.intItem _ _) fun kindNum => ?_
  refine hP.bind (hP.strItem _ _) fun active => ?_
  refine hP.bind (hP.activeConnectionName active) fun activeName => ?_
  refine hP.bind (hP.strItem _ _) fun config => ?_
  refine hP.bind (hP.ip4Details config) fun ip4 => ?_
  -- the carrier is read of an Ethernet device only, the SSID of a Wi-Fi device only
  refine hP.bind ?_ fun carrier => ?_
  · split
    · exact hP.readCarrier path
    · exact hP.pure none
  refine hP.bind ?_ fun currentSsid => ?_
  · split
    · exact hP.activeSsid path currentSsid
    · exact hP.pure currentSsid
  refine hP.bind (hP.strItem _ _) fun name => ?_
  refine hP.bind (hP.intItem _ _) fun state => ?_
  exact hP.bind (hP.optionalInt _) fun reason => hP.pure _

theorem readDevices (paths : List String) (interfaces : List NetworkInterface)
    (currentSsid : Option String) : P (readDevices rt paths interfaces currentSsid) := by
  induction paths generalizing interfaces currentSsid with
  | nil => exact hP.pure _
  | cons path paths ih => exact hP.bind (hP.readDevice path currentSsid) fun _ => ih _ _

/-- `status`, with the search for the device -/
theorem status_of_wifiDevice (hdevice : P (wifiDevice m rt true)) (params : Dict) :
    P (status m rt params) := by
  unfold status
  split
  · exact hP.raise (hP.ordinary _ ⟨rfl, rfl⟩)
  · refine hP.bind hdevice fun _ => ?_
    refine hP.bind (hP.properties _ _) fun nmProps => ?_
    refine hP.bind (hP.strItem _ _) fun primary => ?_
    refine hP.bind (hP.activeConnectionName primary) fun primaryName => ?_
    refine hP.bind hP.devicePaths fun paths => ?_
    refine hP.bind (hP.readDevices paths [] none) fun read => ?_
    exact hP.bind (hP.intItem _ _) fun _ => hP.pure _

/-! ### Access points -/

theorem isSecured (props : Dict) : P (isSecured rt props) := by
  refine hP.bind (hP.intItem _ _) fun flags => ?_
  split
  · exact hP.pure true
  · refine hP.bind (hP.intItem _ _) fun wpaFlags => ?_
    split
    · exact hP.pure true
    · exact hP.bind (hP.intItem _ _) fun _ => hP.pure _

theorem make (item : WifiAccessPoint) :
    P (lift (WifiAccessPoint.make rt item) : Proc WifiAccessPoint) := by
  refine hP.lift fun e he => hP.ordinary e ?_
  unfold WifiAccessPoint.make at he
  dsimp only at he
  split_ifs at he <;> cases he <;> exact ⟨rfl, rfl⟩

theorem readAccessPoint (activePath path : String) : P (readAccessPoint rt activePath path) := by
  refine hP.bind (hP.properties path AP) fun props => ?_
  refine hP.bind (hP.py _) fun raw => hP.bind (hP.py _) fun s => ?_
  split
  · exact hP.pure none
  · refine hP.bind (hP.isSecured props) fun secured => ?_
    refine hP.bind (hP.strItem _ _) fun bssid => ?_
    refine hP.bind (hP.intItem _ _) fun strength => ?_
    refine hP.bind (hP.intItem _ _) fun frequency => ?_
    exact hP.bind (hP.make _) fun _ => hP.pure _

theorem readNetworks (activePath : String) (paths : List String)
    (byNetwork : List WifiAccessPoint) : P (readNetworks rt activePath paths byNetwork) := by
  induction paths generalizing byNetwork with
  | nil => exact hP.pure byNetwork
  | cons path paths ih =>
    refine hP.bind (hP.readAccessPoint activePath path) fun found => ?_
    cases found with
    | none => exact ih byNetwork
    | some item => exact ih (merge item byNetwork)

theorem readAccessPoints (device : String) : P (readAccessPoints rt device) := by
  refine hP.bind (hP.interfaces device [WIRELESS]) fun _ => ?_
  refine hP.bind (hP.properties device WIRELESS) fun props => ?_
  refine hP.bind (hP.strItem _ _) fun activePath => ?_
  refine hP.bind (hP.list _ rfl) fun paths => ?_
  exact hP.bind (hP.readNetworks activePath paths []) fun _ => hP.pure _

/-! ### Profiles -/

theorem activeUuids (paths : List Value) : P (activeUuids rt paths) :=
  composes_collect hP.toComposes fun _ _ => hP.bind (hP.properties _ _) fun _ =>
    hP.bind (hP.strItem _ _) fun _ => hP.pure _

theorem readProfile {path : String} (hsettings : P (perform (Call.getSettings path)))
    (activeUuids : List String) : P (readProfile rt activeUuids path) := by
  refine hP.bind (hP.interfaces path [SETTINGS_CONNECTION]) fun _ => ?_
  refine hP.bind hsettings fun values => ?_
  dsimp only
  split
  · exact hP.pure none
  · refine hP.bind (hP.optionalSsid _) fun s => ?_
    exact hP.bind (hP.mapError (fun _ => ⟨rfl, rfl⟩) _) fun _ => hP.pure _

theorem profiles_of_wifiDevice (hdevice : P (wifiDevice m rt true))
    (hsettings : ∀ path, P (perform (Call.getSettings path))) (params : Dict) :
    P (profiles m rt params) := by
  unfold profiles
  split
  · exact hP.raise (hP.ordinary _ ⟨rfl, rfl⟩)
  · refine hP.bind hdevice fun _ => ?_
    refine hP.bind (hP.properties _ _) fun nmProps => ?_
    refine hP.bind (hP.py _) fun active => ?_
    refine hP.bind (hP.activeUuids active) fun uuids => ?_
    refine hP.bind hP.settingsInterface fun _ => ?_
    refine hP.bind (hP.list _ rfl) fun paths => ?_
    exact composes_collect hP.toComposes fun path _ => hP.readProfile (hsettings path) uuids

/-! ### Scans -/

theorem lastScan (device : String) : P (lastScan rt device) :=
  hP.bind (hP.properties device WIRELESS) fun _ => hP.py _

theorem recheckScan (device : String) (previous : ℤ) : P (recheckScan rt device previous) := by
  refine hP.bind (hP.lastScan device) fun current => ?_
  split
  · exact hP.raise (hP.ordinary _ ⟨rfl, rfl⟩)
  · exact hP.pure ()

/-! ### Activations -/

theorem usableDetails (hcheck : P (perform Call.checkConnectivity)) (props : Dict) :
    P (usableDetails rt props) := by
  unfold Network.usableDetails
  refine hP.bind (hP.strItem _ _) fun config => ?_
  refine hP.bind (hP.ip4Details config) fun ip4 => ?_
  split
  · exact hP.pure none
  split
  · exact hP.pure none
  refine hP.bind (hP.interfaces _ _) fun _ => hP.bind hcheck fun connectivity => ?_
  split
  · exact hP.raise (hP.ordinary _ ⟨rfl, rfl⟩)
  · exact hP.pure _

theorem observe (hcheck : P (perform Call.checkConnectivity)) (device activePath : String) :
    P (observe rt device activePath) := by
  unfold Network.observe
  refine hP.bind (hP.properties _ _) fun deviceProps => ?_
  refine hP.bind (hP.intItem _ _) fun lastState => ?_
  refine hP.bind (hP.properties _ _) fun activeProps => ?_
  refine hP.bind (hP.intItem _ _) fun activeState => ?_
  split
  · exact hP.raise (hP.ordinary _ ⟨rfl, rfl⟩)
  split
  · exact hP.bind (hP.usableDetails hcheck _) fun _ => hP.pure _
  · exact hP.pure _

end Looks

/-! ### The Wi-Fi device -/

theorem validatedUuid_error {params : Dict} {action : String} {x : Exc}
    (h : validatedUuid rt params action = .error x) : ∃ message, x = .validation message := by
  unfold validatedUuid at h
  split at h
  · split at h
    · cases h
    · cases h
      exact ⟨_, rfl⟩
  · cases h
    exact ⟨_, rfl⟩

/-- A cancellation is passed on. -/
theorem undo_of_not_isException (checkpoint rejected : String) {exc : Exc}
    (h : ¬exc.isException = true) : (undo checkpoint rejected exc : Proc α) = raise exc := by
  obtain rfl := Exc.isException_eq_false.1 (Bool.eq_false_of_not_eq_true h)
  rfl

section Undo

variable (hP : Composes (fun x : Exc => x.isException = true) P) {checkpoint : String}
  (hrollback : P (perform (Call.checkpointRollback checkpoint)))

include hP hrollback

theorem rollback_of_composes : P (rollback checkpoint) := composes_suppress hP hrollback

theorem undo_of_isException (rejected : String) {exc : Exc} (hexc : exc.isException = true) :
    P (undo checkpoint rejected exc : Proc α) := by
  unfold undo
  split
  · exact hP.bind (rollback_of_composes hP hrollback) fun _ => hP.raise hexc
  · exact hP.bind (rollback_of_composes hP hrollback) fun _ => hP.raise rfl

/-- Whatever is passed on -/
theorem undo_of_composes (hraise : ∀ exc, P (raise exc : Proc α)) (rejected : String) (exc : Exc) :
    P (undo checkpoint rejected exc : Proc α) := by
  by_cases hexc : exc.isException = true
  · exact undo_of_isException hP hrollback rejected hexc
  · rw [undo_of_not_isException checkpoint rejected hexc]
    exact hraise exc

end Undo

namespace Searches

variable (hP : Searches P)

include hP

theorem findWifiDevice (requireReady : Bool) (paths : List String) :
    P (findWifiDevice m rt requireReady paths) := by
  induction paths with
  | nil => exact hP.raise rfl
  | cons path paths ih =>
    unfold Network.findWifiDevice
    refine hP.bind (hP.properties path DEVICE) fun props => ?_
    refine hP.bind (hP.py _) fun deviceType => ?_
    split
    · refine hP.bind (hP.py _) fun state => ?_
      split
      · exact hP.raise rfl
      · exact hP.pure path
    · exact ih

theorem wifiDevice (requireReady : Bool) : P (wifiDevice m rt requireReady) := by
  refine hP.bind hP.nameHasOwner fun owned => ?_
  split
  · exact hP.raise rfl
  · exact hP.bind hP.devicePaths fun paths => hP.findWifiDevice requireReady paths

theorem readiness : P (readiness m rt) := by
  refine hP.bind (hP.wifiDevice true) fun path => ?_
  refine hP.bind (hP.properties path DEVICE) fun props => ?_
  exact hP.bind (hP.intItem _ _) fun _ => hP.pure _

theorem status (params : Dict) : P (status m rt params) :=
  hP.status_of_wifiDevice (hP.wifiDevice true) params

theorem profiles (hsettings : ∀ path, P (perform (Call.getSettings path))) (params : Dict) :
    P (profiles m rt params) :=
  hP.profiles_of_wifiDevice (hP.wifiDevice true) hsettings params

/-! ### Operations -/

theorem disconnect (hdisconnect : ∀ device, P (perform (Call.disconnect device)))
    (params : Dict) : P (disconnect m rt params) := by
  unfold Network.disconnect
  split
  · exact hP.raise rfl
  · refine hP.bind (hP.wifiDevice true) fun device => ?_
    refine hP.bind (hP.interfaces _ _) fun _ => ?_
    exact hP.bind (hdisconnect device) fun _ => hP.pure _

theorem validatedUuid (params : Dict) (action : String) :
    P (lift (validatedUuid rt params action) : Proc String) := by
  refine hP.lift fun x hx => ?_
  obtain ⟨message, rfl⟩ := validatedUuid_error hx
  rfl

theorem deleteProfile (hfind : ∀ uuid, P (perform (Call.getConnectionByUuid uuid)))
    (hdelete : ∀ path, P (perform (Call.delete path))) (params : Dict) :
    P (deleteProfile rt params) := by
  refine hP.bind (hP.validatedUuid _ _) fun profileUuid => ?_
  refine hP.bind hP.settingsInterface fun _ => ?_
  refine hP.bind (hP.tryCatch ?_ (fun exc hexc => ?_) fun exc hexc => ?_) fun _ => hP.pure _
  -- the handler keeps an unavailable backend and replaces every other exception
  · refine hP.bind (hfind _) fun path => ?_
    exact hP.bind (hP.interfaces _ _) fun _ => hdelete path
  · split
    · exact hP.raise hexc
    · exact hP.raise rfl
  · split
    · rfl
    · rfl

/-! ### Transactions -/

theorem finishTransaction {fuel : ℕ} {checkpoint device activePath : String}
    (hverify : P (verifyActivation m rt fuel device activePath))
    (hdestroy : P (perform (Call.checkpointDestroy checkpoint)))
    (hrollback : P (perform (Call.checkpointRollback checkpoint))) :
    P (finishTransaction m rt fuel checkpoint device activePath) := by
  refine hP.bind (hP.interfaces _ _) fun _ => ?_
  refine hP.tryCatch ?_ (fun exc hexc => ?_) fun exc hexc => if_neg hexc
  · exact hP.bind hverify fun details => hP.bind hdestroy fun _ => hP.pure details
  · rw [if_pos hexc]
    exact hP.bind (rollback_of_composes hP.toComposes hrollback) fun _ => hP.raise hexc

theorem transact {fuel : ℕ} {device rejected : String} {activate : Proc (α × String)}
    (hcreate : ∀ timeout flags, P (perform (Call.checkpointCreate [device] timeout flags)))
    (hdestroy : ∀ checkpoint, P (perform (Call.checkpointDestroy checkpoint)))
    (hrollback : ∀ checkpoint, P (perform (Call.checkpointRollback checkpoint)))
    (hverify : ∀ activePath, P (verifyActivation m rt fuel device activePath))
    (hactivate : P activate) : P (transact m rt fuel device rejected activate) := by
  refine hP.bind ?_ fun checkpoint => hP.bind (hP.interfaces _ _) fun _ => ?_
  · exact hP.bind (hP.interfaces _ _) fun _ => hcreate _ _
  refine hP.tryCatch ?_ (fun exc => undo_of_isException hP.toComposes (hrollback _) rejected)
    fun exc => undo_of_not_isException checkpoint rejected
  refine hP.bind hactivate fun active => ?_
  exact hP.bind (hP.finishTransaction (hverify _) (hdestroy _) (hrollback _)) fun _ => hP.pure _

end Searches

/-! ### The manager's attributes -/

namespace Records

variable (hP : Records E P)

include hP

theorem attemptScan {device : String} (hwait : P (requestScanAndWait m rt device)) (now : ℚ) :
    P (attemptScan m rt device now) := by
  refine hP.tryCatch (hP.bind hwait fun _ => hP.own _ rfl) (fun exc hexc => ?_) fun exc hexc => ?_
  · split
    · exact hP.raise hexc
    -- a scan that is rejected is an error only where there is no cache to show
    split
    · refine hP.bind (hP.own _ rfl) fun self => ?_
      split
      · exact hP.raise (hP.ordinary _ ⟨rfl, rfl⟩)
      · exact hP.pure ()
    · exact hP.raise hexc
  · split
    · rfl
    · rename_i hbackend
      refine if_neg fun hexception => hexc (hP.ordinary exc ⟨hexception, ?_⟩)
      exact Bool.eq_false_of_not_eq_true hbackend

/-- What `scan` does with the device -/
theorem scanOn {device : String} (hwait : P (requestScanAndWait m rt device)) :
    P (do
      let now ← ask Call.monotonic
      let self ← ask Call.fields
      if m.scanMinInterval ≤ now - self.lastScanRequest then Network.attemptScan m rt device now
      let result ← readAccessPoints rt device
      ask (Call.setScanCache result)
      let time ← ask Call.monotonic
      ask (Call.setLastScanResult time)
      return (⟨false, result⟩ : ScanResponse) : Proc ScanResponse) := by
  refine hP.bind (hP.own _ rfl) fun now => hP.bind (hP.own _ rfl) fun self => ?_
  -- what follows the attempt, whether or not there is one
  have hshow : P (do
      let result ← readAccessPoints rt device
      ask (Call.setScanCache result)
      let time ← ask Call.monotonic
      ask (Call.setLastScanResult time)
      return (⟨false, result⟩ : ScanResponse) : Proc ScanResponse) := by
    refine hP.bind (hP.readAccessPoints device) fun result => ?_
    refine hP.bind (hP.own _ rfl) fun _ => hP.bind (hP.own _ rfl) fun time => ?_
    exact hP.bind (hP.own _ rfl) fun _ => hP.pure _
  split
  · exact hP.bind (hP.attemptScan hwait now) fun _ => hshow
  · exact hshow

theorem lockedScan (hdevice : P (wifiDevice m rt true))
    (hwait : ∀ device, P (requestScanAndWait m rt device)) : P (lockedScan m rt) :=
  hP.bind hdevice fun device => hP.scanOn (hwait device)

theorem scan (hlocked : P (withLock .scan (Network.lockedScan m rt))) (params : Dict) :
    P (scan m rt params) := by
  unfold Network.scan
  dsimp only
  split
  · exact hP.raise (hP.ordinary _ ⟨rfl, rfl⟩)
  · refine hP.bind (hP.own _ rfl) fun now => hP.bind (hP.own _ rfl) fun self => ?_
    split
    · exact hP.pure _
    · exact hlocked

end Records

/-! ### Signals -/

/-- The loop asks for the time, and waits for a signal between two looks. -/
theorem Polls.pollActivation (hP : Polls (fun x => x.isException = true) P)
    (hcheck : P (perform Call.checkConnectivity)) (device activePath : String) (deadline : ℚ)
    (fuel : ℕ) (lastState : ℤ) (reason : Value) :
    P (pollActivation rt device activePath deadline fuel lastState reason) := by
  -- a round changes what the next one starts from, so that the induction is for all of it
  induction fuel generalizing lastState reason with
  | zero => exact hP.spin
  | succ fuel ih =>
    unfold Network.pollActivation
    refine hP.bind (hP.tick _ rfl) fun time => ?_
    split
    · refine hP.bind (hP.tick _ rfl) fun _ => ?_
      refine hP.bind (hP.observe hcheck device activePath) fun seen => ?_
      split
      · exact hP.pure _
      · refine hP.bind (hP.tick _ rfl) fun now => hP.bind ?_ fun _ => ih _ _
        refine hP.tryCatch (hP.waitEvent _) (fun exc hexc => ?_) fun exc hexc => if_neg ?_
        · split
          · exact hP.pure ()
          · exact hP.raise hexc
        · exact fun htimeout => hexc (ordinary_of_isTimeout htimeout).1
    · exact hP.pure _

namespace Signals

theorem requestScanAndWait (hP : Signals E P) {device : String}
    (hrequest : P (perform (Call.requestScan device))) : P (requestScanAndWait m rt device) := by
  refine hP.bind (hP.interfaces _ _) fun _ => hP.bind (hP.lastScan device) fun previous => ?_
  refine hP.bind (hP.subscribe _ _) fun _ => ?_
  refine hP.ensure (hP.tryCatch ?_ (fun exc hexc => ?_) fun exc hexc => if_neg fun htimeout => ?_)
    ⟨rfl, fun _ => rfl, fun _ => rfl⟩
  · exact hP.bind hrequest fun _ => hP.waitEvent _
  · split
    · exact hP.recheckScan device previous
    · exact hP.raise hexc
  · exact hexc (hP.ordinary exc (ordinary_of_isTimeout htimeout))

theorem verifyActivation (hP : Signals (fun x => x.isException = true) P)
    (hcheck : P (perform Call.checkConnectivity)) (fuel : ℕ) (device activePath : String) :
    P (verifyActivation m rt fuel device activePath) := by
  refine hP.bind (hP.tick _ rfl) fun time => ?_
  refine hP.bind (hP.interfaces _ _) fun _ => hP.bind (hP.interfaces _ _) fun _ => ?_
  refine hP.bind (hP.subscribe _ _) fun _ => hP.bind (hP.subscribe _ _) fun _ => ?_
  refine hP.bind (hP.ensure (hP.pollActivation hcheck _ _ _ _ _ _) ?_) fun outcome => ?_
  -- both handlers are taken away, whether or not the loop raises
  · exact cleans_ask_bind rfl fun _ => ⟨rfl, fun _ => rfl, fun _ => rfl⟩
  · cases outcome with
    | inl details => exact hP.pure details
    | inr seen => exact hP.raise rfl

end Signals

end Walk

end ApplianceAdmin.Network
