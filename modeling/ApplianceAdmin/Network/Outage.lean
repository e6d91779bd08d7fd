import ApplianceAdmin.Network.Walk

/-!
# Objects that vanish

`scan`, `status` and `profiles` while NetworkManager is there and the Wi-Fi device is ready, and
everything else on the bus comes and goes.

* `Healthy`: the answers that are possible then; `vanished`: a read of an object that is gone;
* `Tracks`: a program that ends in `network_backend_unavailable` exactly when such a read was made;
* `outage_iff`: the operations are such programs;
* `vanishing_outage`: an access point that vanishes during a scan.
-/

namespace ApplianceAdmin.Network

open Async Async.Prog Async.Monitor Python

/-! ### Answers -/

/-- A value, or a cancellation -/
def Answered {α : Type} (r : Except Exc α) : Prop := ∀ x, r = .error x → x.isException = false

/-- The properties of the configured interface -/
def Configured (m : NetworkManager) (rt : Runtime) (props : Dict) : Prop :=
  (unwrapGet props "DeviceType" (.int 0)).toInt rt.toUnicode = .ok deviceTypeWifi ∧
    toStr rt (unwrapGet props "Interface" (.str "")) = m.wifiInterface

/-- The properties of the configured interface while it is managed and ready -/
structure Ready (m : NetworkManager) (rt : Runtime) (props : Dict) : Prop where
  configured : Configured m rt props
  managed : (unwrapGet props "Managed" (.bool false)).truthy = true
  state : ∃ n, (unwrapGet props "State" (.int 0)).toInt rt.toUnicode = .ok n ∧
    n ≠ deviceStateUnmanaged ∧ n ≠ deviceStateUnavailable

/-- The bus answers, NetworkManager is owned, and the device at `device` is the configured interface
and ready.  What the bus library raises is no `AdminError`. -/
def Healthy (m : NetworkManager) (rt : Runtime) (device : String) (e : Event Reply Exc) : Prop :=
  (∀ x, e.reply = .error x → ∀ cls, x.isAdmin cls = false) ∧
    match e with
    | ⟨.connectBus, r⟩ => Answered r
    | ⟨.introspect _ path _, r⟩ => path ∈ [DBUS_PATH, NM_PATH, SETTINGS_PATH, device] → Answered r
    | ⟨.nameHasOwner _, r⟩ => Answered r ∧ r ≠ .ok false
    | ⟨.getDevices, r⟩ => ∀ paths, r = .ok paths → device ∈ paths
    | ⟨.getAll path interface, r⟩ =>
        (path ∈ [NM_PATH, device] → Answered r) ∧
          ∀ props, r = .ok props → interface = DEVICE →
            (path = device → Ready m rt props) ∧ (path ≠ device → ¬Configured m rt props)
    | _ => True

/-- Introspection or `GetAll` fails: the object is gone. -/
def vanished : Event Reply Exc → Bool
  | ⟨.introspect _ _ _, .error x⟩ => x.isException
  | ⟨.getAll _ _, .error x⟩ => x.isException
  | _ => false

@[simp] theorem vanished_ok (c : Call) (a : Reply c) : vanished ⟨c, .ok a⟩ = false := by
  cases c <;> rfl

/-- Does the operation end in `network_backend_unavailable`? -/
def outage {α : Type} : Except Exc α → Bool
  | .ok _ => false
  | .error x => x.isBackendUnavailable

/-! ### Programs that track what vanishes -/

section Tracks

variable {m : NetworkManager} {rt : Runtime} {device : String} {α β : Type}

/-- The monitor that remembers whether an object has vanished -/
def watching (m : NetworkManager) (rt : Runtime) (device : String) : Monitor Reply Exc Bool :=
  .ofFold (fun _ _ => True) (fun _ e => Healthy m rt device e) fun v e => v || vanished e

theorem watching_next {v v' : Bool} {c : Call} {r : Except Exc (Reply c)} :
    (watching m rt device).next v c r v' ↔
      Healthy m rt device ⟨c, r⟩ ∧ v' = (v || vanished ⟨c, r⟩) := Iff.rfl

/-- `p` ends in an outage exactly when an object vanishes, and otherwise with a value in `V`. -/
def Tracks (m : NetworkManager) (rt : Runtime) (device : String) (V : α → Prop) (p : Proc α) :
    Prop :=
  (watching m rt device).wp p (fun r v => outage r = v ∧ ∀ a, r = .ok a → V a) false

/-- The same without a condition on the value -/
abbrev Tracked (m : NetworkManager) (rt : Runtime) (device : String) (p : Proc α) : Prop :=
  Tracks m rt device (fun _ => True) p

variable {V : α → Prop} {p : Proc α}

theorem tracks_pure {a : α} (h : V a) : Tracks m rt device V (pure a : Proc α) :=
  ⟨rfl, fun _ ha => by cases ha; exact h⟩

theorem tracks_raise {x : Exc} (h : x.isBackendUnavailable = false) :
    Tracks m rt device V (raise x : Proc α) :=
  ⟨h, fun _ ha => (by cases ha)⟩

theorem tracks_py (r : Except PyError α) : Tracks m rt device (fun a => r = .ok a) (py r) := by
  cases r with
  | ok a => exact tracks_pure rfl
  | error e => exact tracks_raise rfl

theorem Tracks.mono {W : α → Prop} (h : Tracks m rt device V p) (hVW : ∀ a, V a → W a) :
    Tracks m rt device W p :=
  wp_mono h fun _ _ hr => hr.imp_right fun hr a ha => hVW a (hr a ha)

theorem Tracks.bind {f : α → Proc β} {W : β → Prop} (hp : Tracks m rt device V p)
    (hf : ∀ a, V a → Tracks m rt device W (f a)) : Tracks m rt device W (p >>= f) := by
  unfold Tracks
  rw [wp_bind]
  refine wp_mono hp fun r v hr => ?_
  cases r with
  | ok a =>
    obtain rfl : false = v := hr.1
    exact hf a (hr.2 a rfl)
  | error x => exact ⟨hr.1, fun _ ha => (by cases ha)⟩

/-- A handler that lets an outage through -/
theorem Tracks.tryCatch {h : Exc → Proc α} (hp : Tracks m rt device V p)
    (hout : ∀ x, x.isBackendUnavailable = true → h x = raise x)
    (hother : ∀ x, x.isBackendUnavailable = false → Tracks m rt device V (h x)) :
    Tracks m rt device V (p.tryCatch h) := by
  unfold Tracks
  rw [wp_tryCatch]
  refine wp_mono hp fun r v hr => ?_
  cases r with
  | ok a => exact hr
  | error x =>
    rw [orElse_error]
    have hv : x.isBackendUnavailable = v := hr.1
    cases hx : x.isBackendUnavailable with
    | true =>
      rw [hout x hx]
      exact ⟨hv, fun _ ha => (by cases ha)⟩
    | false =>
      rw [hx] at hv
      subst hv
      exact hother x hx

theorem tracks_ask {c : Call} :
    Tracks m rt device (fun a => Healthy m rt device ⟨c, .ok a⟩) (ask c) := by
  unfold Tracks
  rw [wp_ask]
  refine ⟨trivial, fun a v hn => ?_⟩
  obtain ⟨hhealthy, rfl⟩ := watching_next.1 hn
  exact ⟨(vanished_ok c a).symm, fun _ ha => by cases ha; exact hhealthy⟩

/-- A call that does not read an object -/
theorem tracks_perform {c : Call} (hc : ∀ x, vanished ⟨c, .error x⟩ = false) :
    Tracks m rt device (fun a => Healthy m rt device ⟨c, .ok a⟩) (perform c) := by
  unfold Tracks
  rw [wp_perform]
  refine ⟨trivial, fun r v hn => ?_⟩
  obtain ⟨hhealthy, rfl⟩ := watching_next.1 hn
  cases r with
  | ok a => exact ⟨(vanished_ok c a).symm, fun _ ha => by cases ha; exact hhealthy⟩
  | error x =>
    refine ⟨?_, fun _ ha => (by cases ha)⟩
    rw [Bool.false_or, hc]
    exact hhealthy.1 x rfl _

/-- A call with `except Exception` around it, which only what vanishes can make fail -/
theorem tracks_lookup {c : Call} (message : String)
    (hc : ∀ x, Healthy m rt device ⟨c, .error x⟩ → vanished ⟨c, .error x⟩ = x.isException) :
    Tracks m rt device (fun a => Healthy m rt device ⟨c, .ok a⟩)
      ((perform c).tryCatch fun exc =>
        if exc.isException then raise (.backendUnavailable message) else raise exc) := by
  unfold Tracks
  rw [wp_tryCatch, wp_perform]
  refine ⟨trivial, fun r v hn => ?_⟩
  obtain ⟨hhealthy, rfl⟩ := watching_next.1 hn
  cases r with
  | ok a => exact ⟨(vanished_ok c a).symm, fun _ ha => by cases ha; exact hhealthy⟩
  | error x =>
    rw [orElse_error, wp_ite, Bool.false_or, hc x hhealthy]
    split
    · rename_i hx
      exact ⟨hx.symm, fun _ ha => (by cases ha)⟩
    · rename_i hx
      obtain rfl := Exc.isException_eq_false.1 (by simpa using hx)
      exact ⟨rfl, fun _ ha => (by cases ha)⟩

/-- A cleanup that cannot fail -/
theorem Tracks.ensure {q : Proc Unit} (hp : Tracks m rt device V p)
    (hq : ∀ v, (watching m rt device).wp q (fun r v' => r = .ok () ∧ v' = v) v) :
    Tracks m rt device V (p.ensure q) := by
  unfold Tracks
  rw [wp_ensure]
  refine wp_mono hp fun r v hr => ?_
  unfold andFinally
  refine wp_mono (hq v) fun r' v' hr' => ?_
  obtain ⟨rfl, rfl⟩ := hr'
  exact hr

theorem wp_cleans {K : Call → Prop} {q : Proc Unit} (hq : Cleans K q) (v : Bool) :
    (watching m rt device).wp q (fun r v' => r = .ok () ∧ v' = v) v := by
  refine wp_of_cleans (fun w c _ hw => ⟨trivial, fun a w' hn => ?_⟩) hq rfl
  obtain ⟨-, rfl⟩ := watching_next.1 hn
  rw [hw, vanished_ok, Bool.or_false]

/-! ### Lookups -/

theorem tracked_start : Tracked m rt device start := by
  refine tracks_ask.bind fun self _ => ?_
  split
  · exact tracks_pure trivial
  · refine (tracks_lookup _ fun x hx => ?_).bind fun _ _ => tracks_ask.mono fun _ _ => trivial
    exact (hx.2 x rfl).symm

theorem tracked_interfaces (path : String) (names : List String) :
    Tracked m rt device (interfaces path names) :=
  tracked_start.bind fun _ _ => (tracks_lookup _ fun _ _ => rfl).mono fun _ _ => trivial

theorem tracks_properties (path interface : String) : Tracks m rt device
    (fun props => Healthy m rt device ⟨.getAll path interface, .ok props⟩)
    (properties path interface) :=
  (tracked_interfaces path [PROPS]).bind fun _ _ => tracks_lookup _ fun _ _ => rfl

/-- The bus itself answers. -/
theorem tracks_nameHasOwner : Tracks m rt device (fun owned => owned = true) nameHasOwner := by
  refine tracked_start.bind fun _ _ => ?_
  unfold Tracks
  rw [wp_tryCatch, wp_bind, wp_perform]
  refine ⟨trivial, fun r v hn => ?_⟩
  obtain ⟨hintrospect, rfl⟩ := watching_next.1 hn
  cases r with
  | error x =>
    obtain rfl := Exc.isException_eq_false.1 (hintrospect.2 (by simp) x rfl)
    exact ⟨rfl, fun _ ha => (by cases ha)⟩
  | ok a =>
    rw [andThen_ok, wp_perform]
    refine ⟨trivial, fun r v hn => ?_⟩
    obtain ⟨howner, rfl⟩ := watching_next.1 hn
    cases r with
    | error x =>
      obtain rfl := Exc.isException_eq_false.1 (howner.2.1 x rfl)
      exact ⟨rfl, fun _ ha => (by cases ha)⟩
    | ok owned =>
      refine ⟨rfl, fun _ ha => ?_⟩
      cases ha
      cases owned with
      | true => rfl
      | false => exact absurd rfl howner.2.2

theorem tracks_devicePaths : Tracks m rt device (fun paths => device ∈ paths) devicePaths :=
  (tracked_interfaces _ _).bind fun _ _ =>
    (tracks_perform fun _ => rfl).mono fun paths h => h.2 paths rfl

theorem tracks_findWifiDevice (requireReady : Bool) {paths : List String} (h : device ∈ paths) :
    Tracked m rt device (findWifiDevice m rt requireReady paths) := by
  induction paths with
  | nil => cases h
  | cons path paths ih =>
    unfold findWifiDevice
    refine (tracks_properties path DEVICE).bind fun props hprops => ?_
    obtain ⟨hready, hother⟩ := hprops.2.2 props rfl rfl
    refine (tracks_py _).bind fun deviceType htype => ?_
    split
    · rename_i hconf
      obtain ⟨rfl, hinterface⟩ := hconf
      have hpath : path = device := by
        by_contra hne
        exact hother hne ⟨htype, hinterface⟩
      obtain ⟨-, hmanaged, n, hn, hunmanaged, hunavailable⟩ := hready hpath
      refine (tracks_py _).bind fun state hstate => ?_
      obtain rfl : state = n := Except.ok.inj (hstate.symm.trans hn)
      split
      · rename_i hnot
        simp [hmanaged, hunmanaged, hunavailable] at hnot
      · exact tracks_pure trivial
    · rename_i hconf
      refine ih ((List.mem_cons.1 h).resolve_left fun hpath => hconf ?_)
      obtain ⟨htype', hinterface⟩ := (hready hpath.symm).configured
      exact ⟨Except.ok.inj (htype.symm.trans htype'), hinterface⟩

theorem tracks_wifiDevice (requireReady : Bool) :
    Tracked m rt device (wifiDevice m rt requireReady) := by
  refine tracks_nameHasOwner.bind fun owned howned => ?_
  subst howned
  exact tracks_devicePaths.bind fun paths hpaths => tracks_findWifiDevice requireReady hpaths

/-! ### The operations -/

theorem tracked_perform {c : Call} (hc : ∀ x, vanished ⟨c, .error x⟩ = false) :
    Tracked m rt device (perform c) :=
  (tracks_perform hc).mono fun _ _ => trivial

theorem tracked_ask (c : Call) : Tracked m rt device (ask c) := tracks_ask.mono fun _ _ => trivial

/-- Only what is no outage is caught. -/
theorem tracked_composes : Composes Ordinary (Tracked m rt device) where
  lift {_ r} h := ⟨by
    cases r with
    | ok a => rfl
    | error x => exact (h x rfl).2, fun _ _ => trivial⟩
  bind hp hf := hp.bind fun a _ => hf a
  tryCatch hp hh hpass := hp.tryCatch (fun x hx => hpass x fun h => by simp [h.2] at hx) fun x hx => by
    by_cases hcaught : Ordinary x
    · exact hh x hcaught
    · rw [hpass x hcaught]
      exact tracks_raise hx

theorem tracked_looks : Looks Ordinary (Tracked m rt device) :=
  { tracked_composes with
    ordinary := fun _ hx => hx
    interfaces := tracked_interfaces
    properties := fun path interface =>
      (tracks_properties path interface).mono fun _ _ => trivial
    list := fun c hc => tracked_perform fun _ => by cases c <;> first | rfl | cases hc }

theorem tracked_records : Records Ordinary (Tracked m rt device) :=
  { tracked_looks with own := fun c _ => tracked_ask c }

theorem tracked_signals : Signals Ordinary (Tracked m rt device) :=
  { tracked_looks with
    spin := trivial
    tick := fun c _ => tracked_ask c
    waitEvent := fun _ => tracked_perform fun _ => rfl
    subscribe := fun _ _ => tracked_ask _
    ensure := fun hp hq => hp.ensure (wp_cleans hq) }

theorem tracked_scan (params : Dict) : Tracked m rt device (scan m rt params) := by
  refine tracked_records.scan ((tracked_perform fun _ => rfl).bind fun _ _ => ?_) params
  refine Tracks.ensure ?_ (wp_cleans (K := fun _ => True) ⟨trivial, fun _ => rfl, fun _ => rfl⟩)
  exact tracked_records.lockedScan (tracks_wifiDevice true) fun _ =>
    tracked_signals.requestScanAndWait (tracked_perform fun _ => rfl)

theorem tracked_status (params : Dict) : Tracked m rt device (status m rt params) :=
  tracked_looks.status_of_wifiDevice (tracks_wifiDevice true) params

theorem tracked_profiles (params : Dict) : Tracked m rt device (profiles m rt params) :=
  tracked_looks.profiles_of_wifiDevice (tracks_wifiDevice true)
    (fun _ => tracked_perform fun _ => rfl) params

end Tracks

/-- The operations that only read -/
inductive Reader
  | scan (params : Dict)
  | status (params : Dict)
  | profiles (params : Dict)

namespace Reader

/-- What an operation returns -/
@[reducible] def Result : Reader → Type
  | .scan _ => ScanResponse
  | .status _ => NetworkStatus
  | .profiles _ => List NetworkProfile

def handle (m : NetworkManager) (rt : Runtime) : (op : Reader) → Proc op.Result
  | .scan params => Network.scan m rt params
  | .status params => Network.status m rt params
  | .profiles params => Network.profiles m rt params

variable {m : NetworkManager} {rt : Runtime} {device : String}

theorem tracked_handle : (op : Reader) → Tracked m rt device (op.handle m rt)
  | .scan params => tracked_scan params
  | .status params => tracked_status params
  | .profiles params => tracked_profiles params

end Reader

section Outage

variable {m : NetworkManager} {rt : Runtime} {device : String} {tr : List (Event Reply Exc)}

theorem trail_watching (h : ∀ e ∈ tr, Healthy m rt device e) (v : Bool) :
    (watching m rt device).Trail v tr (v || tr.any vanished) := by
  induction tr generalizing v with
  | nil => exact Bool.or_false v
  | cons e tr ih =>
    obtain ⟨he, htr⟩ := List.forall_mem_cons.1 h
    refine ⟨v || vanished e, ⟨he, rfl⟩, ?_⟩
    rw [List.any_cons, ← Bool.or_assoc]
    exact ih htr _

/-- **While NetworkManager is there and the device is ready, an operation ends in
`network_backend_unavailable` exactly when it reads another object that has vanished.** -/
theorem outage_iff (op : Reader) {r : Except Exc op.Result} (hp : Path (op.handle m rt) tr (.done r))
    (hhealthy : ∀ e ∈ tr, Healthy m rt device e) :
    (∃ x, r = .error x ∧ x.isBackendUnavailable = true) ↔ ∃ e ∈ tr, vanished e = true := by
  have hend := wp_outcome hp (trail_watching hhealthy false) (op.tracked_handle)
  have htrack : outage r = tr.any vanished := by simpa using hend.1
  rw [← List.any_eq_true, ← htrack]
  cases r with
  | ok a => simp [outage]
  | error x => simp [outage]

end Outage

/-! ### Runs -/

/-- The properties of an open access point -/
def openNetwork : Dict :=
  [("Ssid", .bytes [104, 111, 109, 101]), ("Flags", .int 0), ("WpaFlags", .int 0),
    ("RsnFlags", .int 0), ("HwAddress", .str "02:00:00:00:00:01"), ("Strength", .int 70),
    ("Frequency", .int 2412)]

/-- A machine with one Wi-Fi device and one access point, which may be `gone` when it is read -/
def house (gone : Bool) (_ : Unit) : (c : Call) → Except Exc (Reply c) × Unit
  | .getAllAccessPoints _ => (.ok ["/ap/1"], ())
  | .getAll path interface =>
      (if path = "/device/wifi" then .ok (quiet (.getAll path interface))
        else if path = "/ap/1" ∧ gone then .error (.py ⟨.dbus, "no such object"⟩)
        else .ok openNetwork, ())
  | c => (.ok (quiet c), ())

/-- The Wi-Fi device of a quiet machine is ready. -/
theorem ready_quiet (path interface : String) :
    Ready .default .ascii (quiet (.getAll path interface)) :=
  ⟨⟨rfl, rfl⟩, rfl, 100, rfl, by decide, by decide⟩

theorem not_configured_openNetwork : ¬Configured .default .ascii openNetwork := fun h => by
  have htype : (unwrapGet openNetwork "DeviceType" (.int 0)).toInt Runtime.ascii.toUnicode =
      .ok 0 := rfl
  rw [Configured, htype] at h
  exact absurd (Except.ok.inj h.1) (by decide)

theorem house_getAll (gone : Bool) (path interface : String) :
    Healthy .default .ascii "/device/wifi"
      ⟨.getAll path interface, (house gone () (.getAll path interface)).1⟩ := by
  by_cases hdevice : path = "/device/wifi"
  · subst hdevice
    have hreply : (house gone () (.getAll "/device/wifi" interface)).1 =
        .ok (quiet (.getAll "/device/wifi" interface)) := by simp [house]
    rw [hreply]
    refine ⟨fun x hx => (by cases hx), fun _ x hx => (by cases hx), fun props hprops _ => ?_⟩
    cases hprops
    exact ⟨fun _ => ready_quiet _ interface, fun h => absurd rfl h⟩
  · by_cases hgone : path = "/ap/1" ∧ gone = true
    · have hreply : (house gone () (.getAll path interface)).1 =
          .error (.py ⟨.dbus, "no such object"⟩) := by simp [house, hgone]
      rw [hreply]
      refine ⟨fun x hx cls => by cases hx; rfl, fun hpath => ?_, fun props hprops => nomatch hprops⟩
      rw [hgone.1] at hpath
      exact absurd hpath (by decide)
    · have hreply : (house gone () (.getAll path interface)).1 = .ok openNetwork :=
        (if_neg hdevice).trans (if_neg hgone)
      rw [hreply]
      refine ⟨fun x hx => (by cases hx), fun _ x hx => (by cases hx), fun props hprops _ => ?_⟩
      cases hprops
      exact ⟨fun h => absurd h hdevice, fun _ => not_configured_openNetwork⟩

theorem house_healthy (gone : Bool) (s : Unit) (c : Call) :
    Healthy .default .ascii "/device/wifi" ⟨c, (house gone s c).1⟩ := by
  cases c with
  | getAll path interface => exact house_getAll gone path interface
  | connectBus => exact ⟨fun x hx => (by cases hx), fun x hx => (by cases hx)⟩
  | introspect dest path names => exact ⟨fun x hx => (by cases hx), fun _ x hx => (by cases hx)⟩
  | nameHasOwner name =>
    exact ⟨fun x hx => (by cases hx), fun x hx => (by cases hx), fun h => (by cases h)⟩
  | getDevices =>
    refine ⟨fun x hx => (by cases hx), fun paths hpaths => ?_⟩
    cases hpaths
    exact List.mem_cons_self
  | _ => exact ⟨fun x hx => (by cases hx), trivial⟩

/-- A scan while the access point may be gone -/
def houseScan (gone : Bool) : List (Event Reply Exc) × Option (Except Exc ScanResponse) :=
  exec (house gone) ((Reader.scan []).handle .default .ascii) ()

theorem isSome_houseScan (gone : Bool) : (houseScan gone).2.isSome = true := by
  cases gone <;> decide +kernel

theorem path_houseScan (gone : Bool) : Path ((Reader.scan []).handle .default .ascii)
    (houseScan gone).1 (.done ((houseScan gone).2.get (isSome_houseScan gone))) :=
  path_of_exec _ _ _ (Option.some_get _).symm

/-- The access point is there. -/
theorem house_available : ¬∃ x, (houseScan false).2.get (isSome_houseScan false) = .error x ∧
    x.isBackendUnavailable = true := by
  have hnone : (houseScan false).1.any vanished = false := by decide +kernel
  intro h
  obtain ⟨e, he, hv⟩ := (outage_iff (.scan []) (path_houseScan false)
    (forall_exec (fun s c => house_healthy false s c) _ ())).1 h
  rw [List.any_eq_true.2 ⟨e, he, hv⟩] at hnone
  cases hnone

/-- An access point that vanishes between the list and the read is reported as an outage. -/
theorem vanishing_outage :
    ∃ tr r, Path ((Reader.scan []).handle .default .ascii) tr (.done r) ∧
      (∀ e ∈ tr, Healthy .default .ascii "/device/wifi" e) ∧
      r = .error (.backendUnavailable "Could not read NetworkManager object /ap/1") :=
  ⟨_, _, path_houseScan true, forall_exec (fun s c => house_healthy true s c) _ (), by
    decide +kernel⟩

end ApplianceAdmin.Network
