import ApplianceAdmin.Async.Monitor
import ApplianceAdmin.Lists.Grouping
import ApplianceAdmin.Network.Read

/-!
# The access points of a scan

What `_read_access_points` makes of the access points that NetworkManager lists.

* `Radio`: an access point on the bus; `Radio.item`: the entry that it has by itself;
* `listing`: the bus while it lists some radios; `read_listing`: what is returned then;
* `networkKey`, `merge_eq_upsert`: the networks are the groups of the items;
* `Ranked`: one entry for each network, the strongest first.
-/

namespace ApplianceAdmin.Network

open Async Async.Prog Async.Monitor Python ApplianceAdmin.Lists

/-! ### Radios -/

/-- An access point as it is on the bus. -/
structure Radio where
  path : String
  /-- The octets of the SSID. -/
  ssid : List UInt8
  hwAddress : String
  strength : ℤ
  frequency : ℤ
  flags : ℤ
  wpaFlags : ℤ
  rsnFlags : ℤ

namespace Radio

/-- `_ssid` of the radio -/
def name (radio : Radio) : String := decodeReplace radio.ssid

def secured (radio : Radio) : Bool :=
  radio.flags ≠ 0 || radio.wpaFlags ≠ 0 || radio.rsnFlags ≠ 0

/-- The properties of the radio -/
structure Shows (radio : Radio) (props : Dict) : Prop where
  ssid : props.get? "Ssid" = some (.bytes radio.ssid)
  hwAddress : props.get? "HwAddress" = some (.str radio.hwAddress)
  strength : props.get? "Strength" = some (.int radio.strength)
  frequency : props.get? "Frequency" = some (.int radio.frequency)
  flags : props.get? "Flags" = some (.int radio.flags)
  wpaFlags : props.get? "WpaFlags" = some (.int radio.wpaFlags)
  rsnFlags : props.get? "RsnFlags" = some (.int radio.rsnFlags)

/-- The entry of the radio by itself -/
def item (activePath : String) (radio : Radio) : WifiAccessPoint where
  ssid := radio.name
  bssid := radio.hwAddress
  bssids := [radio.hwAddress]
  strength := radio.strength
  frequencyMhz := radio.frequency
  secured := radio.secured
  active := radio.path = activePath

/-- Is the strength one that an entry may have? -/
def InRange (radio : Radio) : Prop := 0 ≤ radio.strength ∧ radio.strength ≤ 100

end Radio

/-- The radios that are no hidden networks, each as an entry -/
def items (activePath : String) (radios : List Radio) : List WifiAccessPoint :=
  (radios.filter (·.name ≠ "")).map (Radio.item activePath)

/-- The networks after the radios, or the error of the first one whose strength is out of range -/
def readAll (rt : Runtime) (activePath : String) :
    List Radio → List WifiAccessPoint → Except Exc (List WifiAccessPoint)
  | [], byNetwork => .ok byNetwork
  | radio :: radios, byNetwork =>
      if radio.name = "" then readAll rt activePath radios byNetwork
      else (WifiAccessPoint.make rt (radio.item activePath)).bind fun item =>
        readAll rt activePath radios (merge item byNetwork)

section Read

variable {rt : Runtime} {device activePath : String} {radios : List Radio}

theorem make_of_inRange {radio : Radio} (h : radio.InRange) :
    WifiAccessPoint.make rt (radio.item activePath) = .ok (radio.item activePath) := by
  unfold WifiAccessPoint.make
  rw [if_neg (show ¬(radio.item activePath).strength < 0 from not_lt.2 h.1),
    if_neg (show ¬100 < (radio.item activePath).strength from not_lt.2 h.2)]

theorem inRange_of_make {radio : Radio} {item : WifiAccessPoint}
    (h : WifiAccessPoint.make rt (radio.item activePath) = .ok item) :
    radio.InRange ∧ item = radio.item activePath := by
  unfold WifiAccessPoint.make at h
  split_ifs at h with h₁ h₂
  cases h
  exact ⟨⟨not_lt.1 h₁, not_lt.1 h₂⟩, rfl⟩

theorem readAll_of_inRange (h : ∀ radio ∈ radios, radio.InRange) (byNetwork : List WifiAccessPoint) :
    readAll rt activePath radios byNetwork =
      .ok ((items activePath radios).foldl (fun entries item => merge item entries) byNetwork) := by
  induction radios generalizing byNetwork with
  | nil => rfl
  | cons radio radios ih =>
    obtain ⟨hradio, hradios⟩ := List.forall_mem_cons.1 h
    rw [readAll]
    split_ifs with hname
    · rw [ih hradios, items, items, List.filter_cons_of_neg (by simpa using hname)]
    · rw [make_of_inRange hradio, Except.bind, ih hradios, items, items,
        List.filter_cons_of_pos (by simpa using hname), List.map_cons, List.foldl_cons]

theorem readAll_eq_ok {byNetwork entries : List WifiAccessPoint}
    (h : readAll rt activePath radios byNetwork = .ok entries) :
    entries = (items activePath radios).foldl (fun entries item => merge item entries) byNetwork := by
  induction radios generalizing byNetwork with
  | nil => cases h; rfl
  | cons radio radios ih =>
    rw [readAll] at h
    split_ifs at h with hname
    · rw [ih h, items, items, List.filter_cons_of_neg (by simpa using hname)]
    · cases hmake : WifiAccessPoint.make rt (radio.item activePath) with
      | error x =>
        rw [hmake] at h
        cases h
      | ok item =>
        obtain ⟨-, rfl⟩ := inRange_of_make hmake
        rw [hmake] at h
        rw [ih h, items, items, List.filter_cons_of_pos (by simpa using hname), List.map_cons,
          List.foldl_cons]

end Read

/-! ### The bus lists the radios -/

/-- The bus answers every call; it lists `radios`, of which those in the state are yet to be read,
and `activePath` as the active one. -/
def listing (device activePath : String) (radios : List Radio) :
    Monitor Reply Exc (List Radio) where
  pre _ _ := True
  next left c r left' :=
    match c, r with
    | .getAll path interface, .ok props =>
        if interface = AP then
          left' = left.tail ∧
            ∀ radio, left.head? = some radio → radio.path = path → radio.Shows props
        else left' = left ∧ (path = device → interface = WIRELESS →
          props.get? "ActiveAccessPoint" = some (.str activePath))
    | .getAllAccessPoints _, .ok paths => left' = left ∧ paths = radios.map (·.path)
    | _, .ok _ => left' = left
    | _, .error _ => False

section Listing

variable {rt : Runtime} {device activePath : String} {radios left left' : List Radio} {α β : Type}

/-- While the bus lists the radios, `p` reads from `left` to `left'` and returns a value in `V`. -/
def Reads (device activePath : String) (radios left left' : List Radio) (V : α → Prop)
    (p : Proc α) : Prop :=
  (listing device activePath radios).wp p (fun r s => s = left' ∧ ∃ a, r = .ok a ∧ V a) left

theorem reads_pure {V : α → Prop} {a : α} (h : V a) :
    Reads device activePath radios left left V (pure a : Proc α) :=
  ⟨rfl, a, rfl, h⟩

theorem reads_py {V : α → Prop} {r : Except PyError α} {a : α} (hr : r = .ok a) (h : V a) :
    Reads device activePath radios left left V (py r) := by
  subst hr
  exact ⟨rfl, a, rfl, h⟩

theorem Reads.bind {V : α → Prop} {W : β → Prop} {p : Proc α} {f : α → Proc β}
    {left'' : List Radio} (hp : Reads device activePath radios left left' V p)
    (hf : ∀ a, V a → Reads device activePath radios left' left'' W (f a)) :
    Reads device activePath radios left left'' W (p >>= f) := by
  unfold Reads
  rw [wp_bind]
  refine wp_mono hp fun r s hr => ?_
  obtain ⟨rfl, a, rfl, ha⟩ := hr
  exact hf a ha

theorem Reads.tryCatch {V : α → Prop} {p : Proc α} {handler : Exc → Proc α}
    (hp : Reads device activePath radios left left' V p) :
    Reads device activePath radios left left' V (p.tryCatch handler) := by
  unfold Reads
  rw [wp_tryCatch]
  refine wp_mono hp fun r s hr => ?_
  obtain ⟨rfl, a, rfl, ha⟩ := hr
  exact ⟨rfl, a, rfl, ha⟩

/-- A call that shows nothing about the access points -/
theorem reads_other {c : Call} (h : ∀ r s, (listing device activePath radios).next left c r s →
    s = left ∧ ∃ a, r = .ok a) :
    Reads device activePath radios left left (fun _ => True) (perform c : Proc (Reply c)) := by
  refine ⟨trivial, fun r s hn => ?_⟩
  obtain ⟨rfl, a, rfl⟩ := h r s hn
  exact ⟨rfl, a, rfl, trivial⟩

theorem reads_start : Reads device activePath radios left left (fun _ => True) start := by
  unfold start Reads
  rw [wp_bind, wp_ask]
  refine ⟨trivial, fun self s hn => ?_⟩
  obtain rfl : s = left := hn
  rw [andThen_ok]
  split_ifs
  · exact reads_pure trivial
  · refine Reads.bind (reads_other fun r s hn => ?_).tryCatch fun _ _ => ?_
    · cases r with
      | ok a => exact ⟨hn, a, rfl⟩
      | error x => exact hn.elim
    · unfold Reads
      rw [wp_ask]
      exact ⟨trivial, fun a s hn => ⟨hn, a, rfl, trivial⟩⟩

theorem reads_interfaces (path : String) (names : List String) :
    Reads device activePath radios left left (fun _ => True) (interfaces path names) := by
  unfold interfaces
  refine reads_start.bind fun _ _ => (reads_other fun r s hn => ?_).tryCatch
  cases r with
  | ok a => exact ⟨hn, a, rfl⟩
  | error x => exact hn.elim

/-- The properties of the next radio -/
theorem reads_radio (radio : Radio) :
    Reads device activePath radios (radio :: left) left radio.Shows (properties radio.path AP) := by
  unfold properties
  refine (reads_interfaces _ _).bind fun _ _ => Reads.tryCatch ⟨trivial, fun r s hn => ?_⟩
  cases r with
  | ok props =>
    exact ⟨hn.1, props, rfl, hn.2 radio rfl rfl⟩
  | error x => exact hn.elim

/-- The properties of the device -/
theorem reads_device : Reads device activePath radios left left
    (fun props => props.get? "ActiveAccessPoint" = some (.str activePath))
    (properties device WIRELESS) := by
  unfold properties
  refine (reads_interfaces _ _).bind fun _ _ => Reads.tryCatch ⟨trivial, fun r s hn => ?_⟩
  cases r with
  | ok props =>
    dsimp only [listing] at hn
    rw [if_neg (show ¬WIRELESS = AP by decide)] at hn
    exact ⟨hn.1, props, rfl, hn.2 rfl rfl⟩
  | error x => exact hn.elim

theorem reads_getAllAccessPoints : Reads device activePath radios left left
    (fun paths => paths = radios.map (·.path)) (perform (Call.getAllAccessPoints device)) := by
  refine ⟨trivial, fun r s hn => ?_⟩
  cases r with
  | ok paths => exact ⟨hn.1, paths, rfl, hn.2⟩
  | error x => exact hn.elim

theorem item_eq_ok {props : Dict} {key : String} {v : Value} (h : props.get? key = some v) :
    props.item key = .ok v := by
  rw [Dict.item, h]

theorem reads_intItem {props : Dict} {key : String} {n : ℤ} (h : props.get? key = some (.int n)) :
    Reads device activePath radios left left (fun k => k = n) (intItem rt props key) := by
  unfold intItem
  refine Reads.bind (V := (· = .int n)) (reads_py (item_eq_ok h) rfl) fun v hv => ?_
  subst hv
  exact reads_py rfl rfl

theorem reads_strItem {props : Dict} {key s : String} (h : props.get? key = some (.str s)) :
    Reads device activePath radios left left (fun t => t = s) (strItem rt props key) := by
  unfold strItem
  refine Reads.bind (V := (· = .str s)) (reads_py (item_eq_ok h) rfl) fun v hv => ?_
  subst hv
  exact reads_pure rfl

theorem reads_isSecured {radio : Radio} {props : Dict} (h : radio.Shows props) :
    Reads device activePath radios left left (· = radio.secured) (isSecured rt props) := by
  unfold isSecured
  refine (reads_intItem h.flags).bind fun flags hflags => ?_
  subst hflags
  split_ifs with hflags
  · refine reads_pure ?_
    simp [Radio.secured, hflags]
  · refine (reads_intItem h.wpaFlags).bind fun wpaFlags hwpa => ?_
    subst hwpa
    split_ifs with hwpa
    · refine reads_pure ?_
      simp [Radio.secured, hwpa]
    · refine (reads_intItem h.rsnFlags).bind fun rsnFlags hrsn => reads_pure ?_
      subst hrsn
      have hfirst : radio.flags = 0 := by simpa using hflags
      have hsecond : radio.wpaFlags = 0 := by simpa using hwpa
      simp [Radio.secured, hfirst, hsecond]

/-- The entry of the next radio, or the error of its strength -/
theorem reads_readAccessPoint (radio : Radio) :
    (listing device activePath radios).wp (readAccessPoint rt activePath radio.path)
      (fun r s => s = left ∧ r =
        if radio.name = "" then .ok none
        else (WifiAccessPoint.make rt (radio.item activePath)).map some) (radio :: left) := by
  unfold readAccessPoint
  rw [wp_bind]
  refine wp_mono (reads_radio radio) fun r s hr => ?_
  obtain ⟨rfl, props, rfl, hshows⟩ := hr
  have hitem : Reads device activePath radios s s (· = .bytes radio.ssid)
      (item props "Ssid") := reads_py (item_eq_ok hshows.ssid) rfl
  rw [andThen_ok, wp_bind]
  refine wp_mono hitem fun r s' hr => ?_
  obtain ⟨rfl, raw, rfl, rfl⟩ := hr
  have hssid : Reads device activePath radios s' s' (· = radio.name)
      (ssid (.bytes radio.ssid)) := reads_py rfl rfl
  rw [andThen_ok, wp_bind]
  refine wp_mono hssid fun r s hr => ?_
  obtain ⟨rfl, name, rfl, rfl⟩ := hr
  rw [andThen_ok, wp_ite]
  split_ifs with hname
  · exact ⟨rfl, rfl⟩
  rw [wp_bind]
  refine wp_mono (reads_isSecured hshows) fun r s' hr => ?_
  obtain ⟨rfl, secured, rfl, rfl⟩ := hr
  rw [andThen_ok, wp_bind]
  refine wp_mono (reads_strItem hshows.hwAddress) fun r s hr => ?_
  obtain ⟨rfl, bssid, rfl, rfl⟩ := hr
  rw [andThen_ok, wp_bind]
  refine wp_mono (reads_intItem hshows.strength) fun r s' hr => ?_
  obtain ⟨rfl, strength, rfl, rfl⟩ := hr
  rw [andThen_ok, wp_bind]
  refine wp_mono (reads_intItem hshows.frequency) fun r s hr => ?_
  obtain ⟨rfl, frequency, rfl, rfl⟩ := hr
  rw [andThen_ok, wp_bind, wp_lift]
  show (listing device activePath radios).andThen _ _
    (WifiAccessPoint.make rt (radio.item activePath)) s
  cases WifiAccessPoint.make rt (radio.item activePath) with
  | ok accessPoint => exact ⟨rfl, rfl⟩
  | error x => exact ⟨rfl, rfl⟩

theorem reads_readNetworks (byNetwork : List WifiAccessPoint) :
    (listing device activePath radios).wp (readNetworks rt activePath (left.map (·.path)) byNetwork)
      (fun r _ => r = readAll rt activePath left byNetwork) left := by
  induction left generalizing byNetwork with
  | nil => exact rfl
  | cons radio left ih =>
    rw [List.map_cons, readNetworks, wp_bind]
    refine wp_mono (reads_readAccessPoint radio) fun r s hr => ?_
    obtain ⟨rfl, rfl⟩ := hr
    rw [readAll]
    split_ifs with hname
    · exact ih byNetwork
    · cases hmake : WifiAccessPoint.make rt (radio.item activePath) with
      | ok item => exact ih (merge item byNetwork)
      | error x => exact rfl

/-- **What is read while the bus lists the radios.** -/
theorem read_listing {tr : List (Event Reply Exc)} {r : Except Exc (List WifiAccessPoint)}
    (hp : Path (readAccessPoints rt device) tr (.done r))
    (ht : (listing device activePath radios).Trail radios tr left) :
    r = (readAll rt activePath radios []).map byStrength := by
  refine wp_outcome (Q := fun r _ => r = (readAll rt activePath radios []).map byStrength) hp ht ?_
  unfold readAccessPoints
  rw [wp_bind]
  refine wp_mono (reads_interfaces device [WIRELESS]) fun r s hr => ?_
  obtain ⟨rfl, _, rfl, -⟩ := hr
  rw [andThen_ok, wp_bind]
  refine wp_mono reads_device fun r s' hr => ?_
  obtain ⟨rfl, props, rfl, hactive⟩ := hr
  rw [andThen_ok, wp_bind]
  refine wp_mono (reads_strItem hactive) fun r s hr => ?_
  obtain ⟨rfl, active, rfl, rfl⟩ := hr
  rw [andThen_ok, wp_bind]
  refine wp_mono reads_getAllAccessPoints fun r s' hr => ?_
  obtain ⟨rfl, paths, rfl, rfl⟩ := hr
  rw [andThen_ok, wp_bind]
  refine wp_mono (reads_readNetworks []) fun r s hr => ?_
  subst hr
  cases readAll rt active s' [] with
  | ok byNetwork => exact rfl
  | error x => exact rfl

/-- While the bus lists the radios, `_read_access_points` returns the entries. -/
def Reported (rt : Runtime) (device activePath : String) (radios : List Radio)
    (entries : List WifiAccessPoint) : Prop :=
  ∃ tr left, Path (readAccessPoints rt device) tr (.done (.ok entries)) ∧
    (listing device activePath radios).Trail radios tr left

theorem Reported.readAll {entries : List WifiAccessPoint}
    (h : Reported rt device activePath radios entries) :
    ∃ byNetwork, Network.readAll rt activePath radios [] = .ok byNetwork ∧
      entries = byStrength byNetwork := by
  obtain ⟨tr, left, hp, ht⟩ := h
  have hread := read_listing hp ht
  cases hall : Network.readAll rt activePath radios [] with
  | ok byNetwork =>
    rw [hall] at hread
    exact ⟨byNetwork, rfl, Except.ok.inj hread⟩
  | error x =>
    rw [hall] at hread
    cases hread

end Listing

/-! ### Runs -/

/-- The properties of a radio on the bus -/
def Radio.props (radio : Radio) : Dict :=
  [("Ssid", .bytes radio.ssid), ("HwAddress", .str radio.hwAddress),
    ("Strength", .int radio.strength), ("Frequency", .int radio.frequency),
    ("Flags", .int radio.flags), ("WpaFlags", .int radio.wpaFlags), ("RsnFlags", .int radio.rsnFlags)]

theorem Radio.shows_props (radio : Radio) : radio.Shows radio.props :=
  ⟨rfl, rfl, rfl, rfl, rfl, rfl, rfl⟩

/-- A bus that lists the radios; those in the state are yet to be read. -/
def display (activePath : String) (radios left : List Radio) :
    (c : Call) → Except Exc (Reply c) × List Radio
  | .getAllAccessPoints _ => (.ok (radios.map (·.path)), left)
  | .getAll _ interface =>
      if interface = AP then (.ok (left.head?.elim [] Radio.props), left.tail)
      else (.ok [("ActiveAccessPoint", .str activePath)], left)
  | c => (.ok (quiet c), left)

theorem display_next (device activePath : String) (radios left : List Radio) (c : Call) :
    (listing device activePath radios).next left c (display activePath radios left c).1
      (display activePath radios left c).2 := by
  cases c with
  | getAll path interface =>
    by_cases hinterface : interface = AP
    · simp only [display, listing, if_pos hinterface]
      refine ⟨trivial, fun radio hradio _ => ?_⟩
      rw [hradio]
      exact radio.shows_props
    · simp only [display, listing, if_neg hinterface]
      exact ⟨trivial, fun _ _ => rfl⟩
  | getAllAccessPoints device => exact ⟨rfl, rfl⟩
  | _ => exact rfl

/-- What is read from such a bus -/
def displayed (device activePath : String) (radios : List Radio) :
    List (Event Reply Exc) × Option (Except Exc (List WifiAccessPoint)) :=
  exec (display activePath radios) (readAccessPoints .ascii device) radios

theorem path_displayed {device activePath : String} {radios : List Radio}
    {r : Except Exc (List WifiAccessPoint)} (h : (displayed device activePath radios).2 = some r) :
    Path (readAccessPoints .ascii device) (displayed device activePath radios).1 (.done r) :=
  path_of_exec _ _ _ h

theorem trail_displayed (device activePath : String) (radios : List Radio) :
    ∃ left, (listing device activePath radios).Trail radios
      (displayed device activePath radios).1 left :=
  trail_exec (display_next device activePath radios) _ _

theorem reported_of_displayed {device activePath : String} {radios : List Radio}
    {entries : List WifiAccessPoint}
    (h : (displayed device activePath radios).2 = some (.ok entries)) :
    Reported .ascii device activePath radios entries := by
  obtain ⟨left, ht⟩ := trail_displayed device activePath radios
  exact ⟨_, left, path_displayed h, ht⟩

end ApplianceAdmin.Network
