import ApplianceAdmin.Async.Monitor
import ApplianceAdmin.Network.Frame
import ApplianceAdmin.Network.Lookup

/-!
# The verdict on an activation

What `_verify_activation` concludes from its looks at the device and the connection.

* `Look`: what one round of the polling loop has read; `failing`, `complete`;
* `Record`: the looks of a run, its readings of the clock and its handlers, as a fold over events;
* `Decides`: the outcome that the first decisive look asks for;
* `ticking`: the clock of the event loop, as a sequence of readings.
-/

namespace ApplianceAdmin.Network

open Async Async.Prog Async.Monitor Python

/-! ### Looks -/

/-- What one round of the loop has read so far. -/
structure Look where
  /-- The reading of the clock at the head of the loop. -/
  time : ℚ
  deviceState : Option ℤ
  activeState : Option ℤ
  /-- The path of the `Ip4Config` of the device. -/
  config : Option String
  ip4 : Option Ip4Details
  connectivity : Option ℤ

/-- Addresses, gateway and DNS are all non-empty. -/
def Ip4Details.usable (ip4 : Ip4Details) : Bool :=
  !ip4.addresses.isEmpty && ip4.gateway.isSome && !ip4.dns.isEmpty

namespace Look

/-- A look that has read nothing -/
def blank (time : ℚ) : Look := ⟨time, none, none, none, none, none⟩

/-- The device has failed or the connection is deactivated. -/
def failing (look : Look) : Bool :=
  look.deviceState = some deviceStateFailed || look.activeState = some activeStateDeactivated

def activated (look : Look) : Bool :=
  look.deviceState = some deviceStateActivated && look.activeState = some activeStateActivated

/-- The connection is activated and its IPv4 details are all there. -/
def complete (look : Look) : Bool :=
  !look.failing && look.activated && look.ip4.any Ip4Details.usable

def decisive (look : Look) : Bool := look.failing || look.complete

/-- The details that the look shows -/
def details (look : Look) : Option ActivationDetails := do
  let ip4 ← look.ip4
  let gateway ← ip4.gateway
  let connectivity ← look.connectivity
  return ⟨connectivityName connectivity, ip4.addresses, gateway, ip4.dns⟩

/-- Is the connectivity one that `_verify_activation` refuses? -/
def limited (look : Look) : Prop := ∃ n ∈ [1, 2, 3], look.connectivity = some n

end Look

/-- The outcome is a `NetworkActivationError`. -/
def RaisesActivation {α : Type} (r : Except Exc α) : Prop :=
  ∃ message, r = .error (.activation message)

/-- What one decisive look asks for -/
def Look.Decides (look : Look) (r : Except Exc ActivationDetails) : Prop :=
  (look.failing = true ∨ look.limited → RaisesActivation r) ∧
    (look.failing = false → ¬look.limited → ∃ details, look.details = some details ∧ r = .ok details)

/-- The outcome that the first decisive look asks for; without one it is an activation error. -/
def Decides (looks : List Look) (r : Except Exc ActivationDetails) : Prop :=
  match looks.find? Look.decisive with
  | none => RaisesActivation r
  | some look => look.Decides r

section Decides

variable {looks : List Look} {look : Look} {r : Except Exc ActivationDetails}

theorem decides_of_indecisive (h : ∀ look ∈ looks, look.decisive = false)
    (hr : RaisesActivation r) : Decides looks.reverse r := by
  have hnone : looks.reverse.find? Look.decisive = none := by
    simpa using h
  rw [Decides, hnone]
  exact hr

/-- The last look decides when those before it do not. -/
theorem decides_of_last (h : ∀ look ∈ looks, look.decisive = false) (hlook : look.decisive = true)
    (hr : look.Decides r) : Decides (look :: looks).reverse r := by
  have hnone : looks.reverse.find? Look.decisive = none := by
    simpa using h
  have hsome : (look :: looks).reverse.find? Look.decisive = some look := by
    rw [List.reverse_cons, List.find?_append, hnone, Option.none_or, List.find?_cons_of_pos hlook]
  rw [Decides, hsome]
  exact hr

end Decides

/-! ### The record of a run -/

/-- What is known of a run of `_verify_activation`. -/
structure Record where
  /-- The property-change handlers that are subscribed, by path. -/
  handlers : List String
  /-- The first reading of the clock. -/
  started : Option ℚ
  /-- The last reading of the clock. -/
  now : ℚ
  /-- The looks, the latest first. -/
  looks : List Look
  /-- A call has raised, or an answer could not be read. -/
  interrupted : Bool

/-- `int(props[key].value)`, if it does not raise -/
def intOf (rt : Runtime) (props : Dict) (key : String) : Option ℤ :=
  ((props.item key).bind (·.toInt rt.toUnicode)).toOption

/-- `str(props[key].value)`, if it does not raise -/
def strOf (rt : Runtime) (props : Dict) (key : String) : Option String :=
  ((props.item key).map (toStr rt)).toOption

namespace Record

/-- The record before the first call -/
def init : Record := ⟨[], none, 0, [], false⟩

def interrupt (s : Record) : Record := { s with interrupted := true }

/-- More is known of the latest look. -/
def note (s : Record) (f : Look → Look) : Record := { s with looks := s.looks.modifyHead f }

/-- The state of the device and the path of its IPv4 configuration -/
def readDevice (rt : Runtime) (props : Dict) (s : Record) : Record :=
  match intOf rt props "State" with
  | none => s.interrupt
  | some n => s.note fun look =>
      { look with deviceState := some n, config := strOf rt props "Ip4Config" }

/-- The state of the connection; the path of the IPv4 configuration is looked up when both are
activated. -/
def readActive (rt : Runtime) (props : Dict) (s : Record) : Record :=
  match intOf rt props "State" with
  | none => s.interrupt
  | some n =>
      let s := s.note fun look => { look with activeState := some n }
      if s.looks.head?.any fun look => look.activated && look.config.isNone then s.interrupt else s

def readIp4 (rt : Runtime) (props : Dict) (s : Record) : Record :=
  match Ip4Details.ofProps rt props with
  | .error _ => s.interrupt
  | .ok ip4 => s.note fun look => { look with ip4 := some ip4 }

/-- The record after one answered call -/
def step (rt : Runtime) (s : Record) (e : Event Reply Exc) : Record :=
  match e with
  | ⟨.loopTime, .ok time⟩ => { s with started := s.started.or (some time), now := time }
  | ⟨.subscribe path _, .ok _⟩ => { s with handlers := path :: s.handlers }
  | ⟨.unsubscribe path, .ok _⟩ => { s with handlers := s.handlers.erase path }
  | ⟨.clearEvent, .ok _⟩ => { s with looks := .blank s.now :: s.looks }
  | ⟨.getAll _ interface, .ok props⟩ =>
      if interface = DEVICE then s.readDevice rt props
      else if interface = ACTIVE then s.readActive rt props
      else if interface = IP4 then s.readIp4 rt props
      else s
  | ⟨.checkConnectivity, .ok n⟩ => s.note fun look => { look with connectivity := some n }
  | ⟨.waitEvent _, .error x⟩ => if x.isTimeout then s else s.interrupt
  | ⟨_, .error _⟩ => s.interrupt
  | _ => s

/-- A `TimeoutError` of the wait interrupts nothing. -/
theorem step_waitEvent (rt : Runtime) (s : Record) (timeout : ℚ) (x : Exc) :
    s.step rt ⟨.waitEvent timeout, .error x⟩ = if x.isTimeout then s else s.interrupt := rfl

end Record

/-- The record after the calls of a run -/
def record (rt : Runtime) (tr : List (Event Reply Exc)) : Record := tr.foldl (Record.step rt) .init

/-- Watch a run and keep its record. -/
def watch (rt : Runtime) : Monitor Reply Exc Record :=
  ofFold (fun _ _ => True) (fun _ _ => True) (Record.step rt)

/-! ### Reading keeps the record -/

section Rules

variable {rt : Runtime} {s : Record} {α : Type}

theorem watch_perform {c : Call} {Q : Except Exc (Reply c) → Record → Prop}
    (h : ∀ r, Q r (s.step rt ⟨c, r⟩)) : (watch rt).wp (perform c) Q s :=
  ⟨trivial, by rintro r _ ⟨-, rfl⟩; exact h r⟩

theorem watch_ask {c : Call} {f : Reply c → Proc α} {Q : Except Exc α → Record → Prop}
    (h : ∀ a, (watch rt).wp (f a) Q (s.step rt ⟨c, .ok a⟩)) : (watch rt).wp (ask c >>= f) Q s :=
  wp_ask_bind _ trivial fun a _ hn => by cases hn.2; exact h a

/-- A call whose exceptions are replaced -/
theorem watch_replace {c : Call} {x : Exc} {Q : Except Exc (Reply c) → Record → Prop}
    (hok : ∀ a, Q (.ok a) (s.step rt ⟨c, .ok a⟩))
    (herror : ∀ y x, Q (.error x) (s.step rt ⟨c, .error y⟩)) :
    (watch rt).wp ((perform c).tryCatch fun exc => if exc.isException then raise x else raise exc)
      Q s := by
  refine (wp_tryCatch _).2 (watch_perform fun r => ?_)
  cases r with
  | ok a => exact hok a
  | error y =>
    refine (wp_ite _).2 ?_
    split
    · exact herror y x
    · exact herror y y

theorem watch_start {Q : Except Exc Unit → Record → Prop} (hok : Q (.ok ()) s)
    (herror : ∀ x, Q (.error x) s.interrupt) : (watch rt).wp start Q s := by
  unfold start
  refine watch_ask fun self => (wp_ite _).2 ?_
  split
  · exact hok
  · refine (wp_bind _).2 (watch_replace (fun _ => ?_) fun _ => herror)
    refine (wp_ask _).2 ⟨trivial, fun _ _ hn => ?_⟩
    cases hn.2
    exact hok

theorem watch_interfaces {path : String} {names : List String} {Q : Except Exc Unit → Record → Prop}
    (hok : Q (.ok ()) s) (herror : ∀ x, Q (.error x) s.interrupt) :
    (watch rt).wp (interfaces path names) Q s :=
  (wp_bind _).2 (watch_start (watch_replace (fun _ => hok) fun _ => herror) herror)

theorem watch_properties {path interface : String} {Q : Except Exc Dict → Record → Prop}
    (hok : ∀ props, Q (.ok props) (s.step rt ⟨.getAll path interface, .ok props⟩))
    (herror : ∀ x, Q (.error x) s.interrupt) : (watch rt).wp (properties path interface) Q s :=
  (wp_bind _).2 (watch_interfaces (watch_replace hok fun _ => herror) herror)

section Bind

variable {β : Type} {Q : Except Exc β → Record → Prop}

theorem watch_perform_bind {c : Call} {f : Reply c → Proc β}
    (hok : ∀ a, (watch rt).wp (f a) Q (s.step rt ⟨c, .ok a⟩))
    (herror : ∀ x, Q (.error x) (s.step rt ⟨c, .error x⟩)) :
    (watch rt).wp (perform c >>= f) Q s := by
  refine (wp_bind _).2 (watch_perform fun r => ?_)
  cases r with
  | ok a => exact hok a
  | error x => exact herror x

theorem watch_interfaces_bind {path : String} {names : List String} {f : Unit → Proc β}
    (hok : (watch rt).wp (f ()) Q s) (herror : ∀ x, Q (.error x) s.interrupt) :
    (watch rt).wp (interfaces path names >>= f) Q s :=
  (wp_bind _).2 (watch_interfaces hok herror)

theorem watch_properties_bind {path interface : String} {f : Dict → Proc β}
    (hok : ∀ props, (watch rt).wp (f props) Q (s.step rt ⟨.getAll path interface, .ok props⟩))
    (herror : ∀ x, Q (.error x) s.interrupt) :
    (watch rt).wp (properties path interface >>= f) Q s :=
  (wp_bind _).2 (watch_properties hok herror)

theorem watch_intItem_bind {props : Dict} {key : String} {f : ℤ → Proc β}
    (hok : ∀ n, intOf rt props key = some n → (watch rt).wp (f n) Q s)
    (herror : ∀ x, intOf rt props key = none → Q (.error x) s) :
    (watch rt).wp (intItem rt props key >>= f) Q s := by
  unfold intItem item toInt
  unfold intOf at hok herror
  refine (wp_bind _).2 ?_
  cases hitem : props.item key with
  | error e =>
    rw [hitem] at herror
    exact herror (.py e) rfl
  | ok v =>
    rw [hitem] at hok herror
    change (watch rt).wp (py (v.toInt rt.toUnicode)) ((watch rt).andThen f Q) s
    cases hint : v.toInt rt.toUnicode with
    | error e => exact herror (.py e) (by rw [Except.bind, hint]; rfl)
    | ok n => exact hok n (by rw [Except.bind, hint]; rfl)

theorem watch_strItem_bind {props : Dict} {key : String} {f : String → Proc β}
    (hok : ∀ v, strOf rt props key = some v → (watch rt).wp (f v) Q s)
    (herror : ∀ x, strOf rt props key = none → Q (.error x) s) :
    (watch rt).wp (strItem rt props key >>= f) Q s := by
  unfold strItem item
  unfold strOf at hok herror
  cases hitem : props.item key with
  | error e =>
    rw [hitem] at herror
    exact herror (.py e) rfl
  | ok v =>
    rw [hitem] at hok
    exact hok (toStr rt v) rfl

end Bind

end Rules

/-! ### One look -/

/-- What the outcome of `observe` says about the look behind it. -/
def Look.Tells (look : Look) : Except Exc (Option ActivationDetails) → Prop
  | .ok none => look.decisive = false
  | .ok (some details) => look.decisive = true ∧ look.Decides (.ok details)
  | .error x => look.decisive = true ∧ look.Decides (.error x)

/-- The record after a look: it is the latest one, or something has interrupted it. -/
def Observed (s : Record) (old : List Look) (time : ℚ) (r : Except Exc (Option ActivationDetails))
    (s' : Record) : Prop :=
  ∃ look : Look, look.time = time ∧
    (s' = { s with looks := look :: old } ∧ look.Tells r ∨
      s' = { s with looks := look :: old, interrupted := true } ∧ ∃ x, r = .error x)

section Look

variable {rt : Runtime} {s : Record} {time : ℚ} {old : List Look}

theorem observed_interrupt {s' : Record} {look : Look} (x : Exc)
    (hs : s' = { s with looks := look :: old, interrupted := true }) (htime : look.time = time) :
    Observed s old time (.error x) s' :=
  ⟨look, htime, .inr ⟨hs, x, rfl⟩⟩

/-- A look at a failed device or a deactivated connection -/
theorem tells_of_failing {look : Look} (h : look.failing = true) (message : String) :
    look.Tells (.error (.activation message)) := by
  refine ⟨by rw [Look.decisive, h, Bool.true_or], fun _ => ⟨message, rfl⟩, fun hnot => ?_⟩
  rw [h] at hnot
  cases hnot

/-- A look at an activated connection without usable IPv4 details -/
theorem tells_of_unusable {look : Look} (hfailing : look.failing = false)
    (h : look.ip4.any Ip4Details.usable = false) : look.Tells (.ok none) := by
  show look.decisive = false
  rw [Look.decisive, Look.complete, hfailing, h, Bool.and_false, Bool.or_false]

theorem usable_eq_false {ip4 : Ip4Details} (h : ip4.gateway = none) : ip4.usable = false := by
  rw [Ip4Details.usable, h, Option.isSome_none, Bool.and_false, Bool.false_and]

theorem usable_eq {ip4 : Ip4Details} {gateway : String} (h : ip4.gateway = some gateway) :
    ip4.usable = !(ip4.addresses.isEmpty || ip4.dns.isEmpty) := by
  rw [Ip4Details.usable, h, Option.isSome_some, Bool.and_true, Bool.not_or]

/-- A look at an activated connection with usable IPv4 details -/
theorem decisive_of_usable {look : Look} {ip4 : Ip4Details} (hfailing : look.failing = false)
    (hactivated : look.activated = true) (hip4 : look.ip4 = some ip4) (husable : ip4.usable = true) :
    look.decisive = true := by
  rw [Look.decisive, Look.complete, hfailing, hactivated, hip4, Option.any_some, husable]
  rfl

/-- Such a look, with a connectivity that is refused -/
theorem tells_of_limited {look : Look} {n : ℤ} (hdecisive : look.decisive = true)
    (hn : n ∈ [1, 2, 3]) (hconnectivity : look.connectivity = some n) (message : String) :
    look.Tells (.error (.activation message)) :=
  ⟨hdecisive, fun _ => ⟨message, rfl⟩, fun _ hnot => absurd ⟨n, hn, hconnectivity⟩ hnot⟩

/-- Such a look, with a connectivity that is accepted -/
theorem tells_of_accepted {look : Look} {ip4 : Ip4Details} {gateway : String} {n : ℤ}
    (hdecisive : look.decisive = true) (hfailing : look.failing = false)
    (hip4 : look.ip4 = some ip4) (hgateway : ip4.gateway = some gateway) (hn : n ∉ [1, 2, 3])
    (hconnectivity : look.connectivity = some n) :
    look.Tells (.ok (some ⟨connectivityName n, ip4.addresses, gateway, ip4.dns⟩)) := by
  refine ⟨hdecisive, ?_, fun _ _ => ⟨_, ?_, rfl⟩⟩
  · rintro (hfail | ⟨n', hn', hsome⟩)
    · rw [hfailing] at hfail
      cases hfail
    · rw [hconnectivity] at hsome
      cases hsome
      exact absurd hn' hn
  · rw [Look.details, hip4, hconnectivity]
    show (do
      let gateway ← ip4.gateway
      return ActivationDetails.mk (connectivityName n) ip4.addresses gateway ip4.dns) = _
    rw [hgateway]
    rfl

/-- The end of a look, when the IPv4 details are known. -/
theorem watch_judge {config : Option String} {seen : Option Ip4Details} (ip4 : Ip4Details)
    (hseen : ip4.usable = true → seen = some ip4)
    (hnot : ip4.usable = false → seen.any Ip4Details.usable = false) :
    (watch rt).wp (match ip4.gateway with
      | none => return none
      | some gateway =>
          if ip4.addresses.isEmpty || ip4.dns.isEmpty then return none
          else do
            interfaces NM_PATH [NM_IFACE]
            let connectivity ← perform Call.checkConnectivity
            if connectivity ∈ [1, 2, 3] then
              raise (.activation "Connection did not reach full NetworkManager connectivity")
            else return some ⟨connectivityName connectivity, ip4.addresses, gateway, ip4.dns⟩)
      (Observed s old time)
      { s with looks := ⟨time, some deviceStateActivated, some activeStateActivated, config, seen,
          none⟩ :: old } := by
  cases hgateway : ip4.gateway with
  | none => exact ⟨_, rfl, .inl ⟨rfl, tells_of_unusable rfl (hnot (usable_eq_false hgateway))⟩⟩
  | some gateway =>
    have husable := usable_eq hgateway
    refine (wp_ite _).2 ?_
    split
    · rename_i hempty
      rw [hempty] at husable
      exact ⟨_, rfl, .inl ⟨rfl, tells_of_unusable rfl (hnot husable)⟩⟩
    · rename_i hfull
      rw [Bool.not_eq_true] at hfull
      rw [hfull] at husable
      obtain rfl := hseen husable
      refine watch_interfaces_bind ?_ fun x => observed_interrupt x rfl rfl
      refine watch_perform_bind (fun n => ?_) fun x => observed_interrupt x rfl rfl
      -- the look is the latest one, and its connectivity is known now
      refine (wp_ite _).2 ?_
      split
      · rename_i hn
        exact ⟨_, rfl, .inl ⟨rfl, tells_of_limited (decisive_of_usable rfl rfl rfl husable) hn rfl _⟩⟩
      · rename_i hn
        exact ⟨_, rfl, .inl ⟨rfl, tells_of_accepted (decisive_of_usable rfl rfl rfl husable) rfl rfl
          hgateway hn rfl⟩⟩

/-- `observe` after it has seen an activated connection -/
theorem watch_usableDetails {props : Dict} :
    (watch rt).wp (usableDetails rt props) (Observed s old time)
      { s with
        looks := ⟨time, some deviceStateActivated, some activeStateActivated,
          strOf rt props "Ip4Config", none, none⟩ :: old
        interrupted := s.interrupted || (strOf rt props "Ip4Config").isNone } := by
  unfold usableDetails ip4Details
  refine watch_strItem_bind (fun config hconfig => ?_) fun x hnone => ?_
  · rw [hconfig, Option.isNone_some, Bool.or_false]
    by_cases hroot : config = "/"
    · rw [if_pos hroot]
      exact watch_judge ⟨[], none, [], []⟩ (fun h => absurd h Bool.false_ne_true) fun _ => rfl
    · rw [if_neg hroot]
      refine (wp_bind _).2 (watch_properties_bind (fun props => ?_) fun x => ?_)
      · change (watch rt).wp (py (Ip4Details.ofProps rt props)) _ (Record.readIp4 rt props _)
        rw [Record.readIp4]
        cases hip4 : Ip4Details.ofProps rt props with
        | error e =>
          change Observed s old time (.error (.py e)) _
          exact observed_interrupt _ rfl rfl
        | ok ip4 => exact watch_judge ip4 (fun _ => rfl) fun h => h
      · change Observed s old time (.error x) _
        exact observed_interrupt x rfl rfl
  · rw [hnone, Option.isNone_none, Bool.or_true]
    exact observed_interrupt x rfl rfl

/-- The record once both states are known -/
theorem readActive_look {props activeProps : Dict} {n k : ℤ}
    (hk : intOf rt activeProps "State" = some k) :
    Record.readActive rt activeProps
        { s with looks := ⟨time, some n, none, strOf rt props "Ip4Config", none, none⟩ :: old } =
      { s with
        looks := ⟨time, some n, some k, strOf rt props "Ip4Config", none, none⟩ :: old
        interrupted := s.interrupted ||
          (decide (n = deviceStateActivated ∧ k = activeStateActivated) &&
            (strOf rt props "Ip4Config").isNone) } := by
  have hactivated : (Look.mk time (some n) (some k) (strOf rt props "Ip4Config") none none).activated =
      decide (n = deviceStateActivated ∧ k = activeStateActivated) := by
    simp [Look.activated]
  rw [Record.readActive, hk]
  simp only [Record.note, List.modifyHead_cons, List.head?_cons, Option.any_some, hactivated]
  split
  · rename_i h
    rw [h, Bool.or_true]
    rfl
  · rename_i h
    rw [Bool.not_eq_true] at h
    rw [h, Bool.or_false]

/-- **One look.**  The outcome of `observe` is the one that its look tells, unless something has
interrupted it. -/
theorem watch_observe {device activePath : String} :
    (watch rt).wp (observe rt device activePath) (fun r => Observed s old time (r.map (·.1)))
      { s with looks := .blank time :: old } := by
  unfold observe
  refine watch_properties_bind (fun deviceProps => ?_) fun x => observed_interrupt x rfl rfl
  change (watch rt).wp _ _ (Record.readDevice rt deviceProps _)
  rw [Record.readDevice]
  refine watch_intItem_bind (fun lastState hlast => ?_) fun x hnone => ?_
  swap
  · rw [hnone]
    exact observed_interrupt x rfl rfl
  rw [hlast]
  change (watch rt).wp _ _ { s with looks := ⟨time, some lastState, none, _, none, none⟩ :: old }
  refine watch_properties_bind (fun activeProps => ?_) fun x => observed_interrupt x rfl rfl
  change (watch rt).wp _ _ (Record.readActive rt activeProps _)
  refine watch_intItem_bind (fun activeState hactive => ?_) fun x hnone => ?_
  swap
  · rw [Record.readActive, hnone]
    exact observed_interrupt x rfl rfl
  rw [readActive_look hactive]
  refine (wp_ite _).2 ?_
  by_cases hfailing : lastState = deviceStateFailed ∨ activeState = activeStateDeactivated
  · rw [if_pos hfailing]
    have hnot : ¬(lastState = deviceStateActivated ∧ activeState = activeStateActivated) := by
      rintro ⟨rfl, rfl⟩
      rcases hfailing with h | h <;> cases h
    rw [decide_eq_false hnot, Bool.false_and, Bool.or_false]
    refine ⟨_, rfl, .inl ⟨rfl, tells_of_failing ?_ _⟩⟩
    simpa [Look.failing] using hfailing
  · rw [if_neg hfailing]
    refine (wp_ite _).2 ?_
    by_cases hactivated : lastState = deviceStateActivated ∧ activeState = activeStateActivated
    · rw [if_pos hactivated, decide_eq_true hactivated, Bool.true_and]
      obtain ⟨rfl, rfl⟩ := hactivated
      refine (wp_bind _).2 (wp_mono watch_usableDetails fun r s' h => ?_)
      cases r with
      | ok details => exact h
      | error x => exact h
    · rw [if_neg hactivated, decide_eq_false hactivated, Bool.false_and, Bool.or_false]
      refine ⟨_, rfl, .inl ⟨rfl, ?_⟩⟩
      show Look.decisive _ = false
      rw [not_or] at hfailing
      simp [Look.decisive, Look.complete, Look.failing, Look.activated, hfailing.1, hfailing.2]

end Look

/-! ### The loop -/

/-- No look so far has decided, and each was begun before the deadline. -/
def Waiting (deadline : ℚ) (looks : List Look) : Prop :=
  ∀ look ∈ looks, look.decisive = false ∧ look.time < deadline

/-- The looks of a run that nothing has interrupted, and what it has come to -/
inductive Polled (deadline now : ℚ) :
    List Look → Except Exc (ActivationDetails ⊕ ℤ × Value) → Prop
  | found {look : Look} {old : List Look} {details : ActivationDetails} :
      Waiting deadline old → look.time < deadline → look.decisive = true →
      look.Decides (.ok details) → Polled deadline now (look :: old) (.ok (.inl details))
  | refused {look : Look} {old : List Look} {x : Exc} :
      Waiting deadline old → look.time < deadline → look.decisive = true →
      look.Decides (.error x) → Polled deadline now (look :: old) (.error x)
  | late {looks : List Look} {seen : ℤ × Value} :
      Waiting deadline looks → deadline ≤ now → Polled deadline now looks (.ok (.inr seen))

/-- The record after the loop -/
structure AfterLoop (s : Record) (deadline : ℚ)
    (r : Except Exc (ActivationDetails ⊕ ℤ × Value)) (s' : Record) : Prop where
  handlers : s'.handlers = s.handlers
  started : s'.started = s.started
  raises : s'.interrupted = true → ∃ x, r = .error x
  polled : s'.interrupted = false → Polled deadline s'.now s'.looks r

/-- After a look that decides, the outcome is the one that it asks for. -/
theorem Waiting.decided {deadline : ℚ} {look : Look} {old : List Look}
    {r : Except Exc ActivationDetails} {P : Prop} (h : Waiting deadline old)
    (htime : look.time < deadline) (hdecisive : look.decisive = true) (hr : look.Decides r) :
    Decides (look :: old).reverse r ∧ (∀ l ∈ look :: old, l.time < deadline) ∧
      ((∀ l ∈ look :: old, l.decisive = false) → P) := by
  refine ⟨decides_of_last (fun l hl => (h l hl).1) hdecisive hr,
    List.forall_mem_cons.2 ⟨htime, fun l hl => (h l hl).2⟩, fun hnone => ?_⟩
  exact absurd (hdecisive.symm.trans (hnone look List.mem_cons_self)) Bool.noConfusion

section Loop

variable {rt : Runtime} {device activePath : String} {deadline : ℚ}

/-- The loop, started with a clock that has been read before, in a run that nothing has interrupted
and no look has decided. -/
theorem watch_pollActivation (fuel : ℕ) (lastState : ℤ) (reason : Value) {s : Record} {t₀ : ℚ}
    (hstarted : s.started = some t₀) (hinterrupted : s.interrupted = false)
    (hwaiting : Waiting deadline s.looks) :
    (watch rt).wp (pollActivation rt device activePath deadline fuel lastState reason)
      (AfterLoop s deadline) s := by
  -- a run without interruption raises nothing on that account
  have hnone {x : Prop} (h : false = true) : x := Bool.noConfusion h
  -- the invariant of the loop is `Waiting`; the record changes from round to round
  induction fuel generalizing lastState reason s with
  | zero => trivial
  | succ fuel ih =>
    obtain ⟨handlers, _, before, old, _⟩ := s
    cases hstarted
    cases hinterrupted
    unfold pollActivation
    refine watch_ask fun time => (wp_ite _).2 ?_
    by_cases htime : time < deadline
    · rw [if_pos htime]
      refine watch_ask fun _ => (wp_bind _).2 ?_
      refine wp_mono (watch_observe (s := ⟨handlers, some t₀, time, old, false⟩)) fun r s' h => ?_
      obtain ⟨look, rfl, ⟨rfl, htells⟩ | ⟨rfl, x, hx⟩⟩ := h
      · cases r with
        | error x => exact ⟨rfl, rfl, hnone, fun _ => .refused hwaiting htime htells.1 htells.2⟩
        | ok seen =>
          obtain ⟨details, lastState, reason⟩ := seen
          cases details with
          | some details =>
            exact ⟨rfl, rfl, hnone, fun _ => .found hwaiting htime htells.1 htells.2⟩
          | none =>
            -- the loop goes on from a record with one more look that has not decided
            have hrest : ∀ now, (watch rt).wp
                (pollActivation rt device activePath deadline fuel lastState reason)
                (AfterLoop ⟨handlers, some t₀, before, old, false⟩ deadline)
                ⟨handlers, some t₀, now, look :: old, false⟩ := by
              intro now
              refine wp_mono (ih lastState reason rfl rfl ?_) fun r s' h =>
                ⟨h.handlers, h.started, h.raises, h.polled⟩
              exact List.forall_mem_cons.2 ⟨⟨htells, htime⟩, hwaiting⟩
            refine watch_ask fun now => (wp_bind _).2 ?_
            refine (wp_tryCatch _).2 (watch_perform fun waited => ?_)
            cases waited with
            | ok _ => exact hrest now
            | error x =>
              refine (wp_ite _).2 ?_
              rw [Record.step_waitEvent]
              by_cases hx : x.isTimeout = true
              · rw [if_pos hx, if_pos hx]
                exact hrest now
              · rw [if_neg hx, if_neg hx]
                exact ⟨rfl, rfl, fun _ => ⟨x, rfl⟩, fun h => Bool.noConfusion h⟩
      · cases r with
        | ok seen => cases hx
        | error x => exact ⟨rfl, rfl, fun _ => ⟨x, rfl⟩, fun h => Bool.noConfusion h⟩
    · rw [if_neg htime]
      exact ⟨rfl, rfl, hnone, fun _ => .late hwaiting (not_lt.1 htime)⟩

/-- What `_verify_activation` has come to at its end -/
structure Verdict (m : NetworkManager) (r : Except Exc ActivationDetails) (s : Record) : Prop where
  /-- Both handlers are unsubscribed. -/
  handlers : s.handlers = []
  raises : s.interrupted = true → ∃ x, r = .error x
  /-- The first decisive look decides. -/
  decides : s.interrupted = false → Decides s.looks.reverse r
  /-- The looks are begun before the deadline, and the loop is not left before it without one that
  decides. -/
  inTime : s.interrupted = false → ∃ t₀, s.started = some t₀ ∧
    (∀ look ∈ s.looks, look.time < t₀ + m.activationTimeout) ∧
    ((∀ look ∈ s.looks, look.decisive = false) → t₀ + m.activationTimeout ≤ s.now)

theorem watch_verifyActivation {m : NetworkManager} (fuel : ℕ) :
    (watch rt).wp (verifyActivation m rt fuel device activePath) (Verdict m) .init := by
  unfold verifyActivation
  refine watch_ask fun t₀ => ?_
  refine watch_interfaces_bind ?_ fun x => ⟨rfl, fun _ => ⟨x, rfl⟩, nofun, nofun⟩
  refine watch_interfaces_bind ?_ fun x => ⟨rfl, fun _ => ⟨x, rfl⟩, nofun, nofun⟩
  refine watch_ask fun _ => watch_ask fun _ => (wp_bind _).2 ((wp_ensure _).2 ?_)
  refine wp_mono (watch_pollActivation fuel 0 .none rfl rfl nofun) fun r s h => ?_
  refine watch_ask fun _ => (wp_ask _).2 ⟨trivial, fun _ s' hn => ?_⟩
  obtain ⟨-, rfl⟩ := hn
  obtain ⟨handlers, started, now, looks, interrupted⟩ := s
  obtain ⟨hhandlers, hstarted, hraises, hpolled⟩ := h
  cases hhandlers
  cases hstarted
  have hempty : (([activePath, device] : List String).erase device).erase activePath = [] := by
    by_cases heq : activePath = device
    · simp [heq]
    · simp [heq]
  -- the outcome of the loop, and what the function makes of it
  have hend : ∀ r' : Except Exc ActivationDetails, (interrupted = true → ∃ x, r' = .error x) →
      (interrupted = false → Decides looks.reverse r' ∧
        (∀ look ∈ looks, look.time < t₀ + m.activationTimeout) ∧
        ((∀ look ∈ looks, look.decisive = false) → t₀ + m.activationTimeout ≤ now)) →
      Verdict m r' ⟨([activePath, device].erase device).erase activePath, some t₀, now, looks,
        interrupted⟩ := fun r' hr hd =>
    ⟨hempty, hr, fun h => (hd h).1, fun h => ⟨t₀, rfl, (hd h).2⟩⟩
  cases r with
  | error x =>
    refine hend (.error x) (fun _ => ⟨x, rfl⟩) fun h => ?_
    cases hpolled h with
    | refused hwaiting htime hdecisive hdecides => exact hwaiting.decided htime hdecisive hdecides
  | ok outcome =>
    have hfalse : interrupted ≠ true := fun h => by
      obtain ⟨x, hx⟩ := hraises h
      cases hx
    cases outcome with
    | inl details =>
      refine hend (.ok details) (fun h => absurd h hfalse) fun h => ?_
      cases hpolled h with
      | found hwaiting htime hdecisive hdecides => exact hwaiting.decided htime hdecisive hdecides
    | inr seen =>
      refine hend (.error _) (fun h => absurd h hfalse) fun h => ?_
      cases hpolled h with
      | late hwaiting hnow =>
        exact ⟨decides_of_indecisive (fun l hl => (hwaiting l hl).1) ⟨_, rfl⟩,
          fun l hl => (hwaiting l hl).2, fun _ => hnow⟩

end Loop

/-! ### The deadline -/

/-- The readings of the clock are those of `clock`, and only awaited calls raise. -/
def ticking (clock : ℕ → ℚ) : Monitor Reply Exc ℕ where
  pre _ _ := True
  next i c r j :=
    match c, r with
    | .loopTime, .ok time => time = clock i ∧ j = i + 1
    | _, .ok _ => j = i
    | c, .error _ => c.awaited = true ∧ j = i

section Ticking

variable {clock : ℕ → ℚ} {m : NetworkManager} {rt : Runtime}

theorem ticking_mono {i j : ℕ} {c : Call} {r : Except Exc (Reply c)}
    (h : (ticking clock).next i c r j) : i ≤ j := by
  cases c <;> cases r <;> first | exact h.ge | exact h.2.ge | (rw [h.2]; exact i.le_succ)

/-- The clock does not run backwards while a program runs. -/
theorem ticking_wp {α : Type} {p : Proc α} (hp : Attending p) (i : ℕ) :
    (ticking clock).wp p (fun _ j => i ≤ j) i :=
  wp_mono (wp_of_within (fun _ _ _ _ => trivial)
    (fun _ _ _ _ _ hs hn => ⟨le_trans hs (ticking_mono hn), fun _ _ => trivial⟩) hp le_rfl)
    fun _ _ h => h.1

theorem prompt_ticking : Prompt (ticking clock) := by
  intro c hc s x s' hn
  cases c <;> first | exact Bool.noConfusion hc | exact Bool.noConfusion hn.1

/-- The loop ends when the readings from the `n`-th on have reached the deadline. -/
theorem halts_pollActivation {device activePath : String} {deadline : ℚ} {n : ℕ}
    (hdeadline : ∀ i, n ≤ i → deadline ≤ clock i) (fuel : ℕ) (lastState : ℤ) (reason : Value)
    {i : ℕ} (hfuel : 0 < fuel) (hi : n < i + fuel) :
    (ticking clock).Halts (pollActivation rt device activePath deadline fuel lastState reason) i := by
  -- every round reads the clock, so that after `n` rounds the deadline has passed
  induction fuel generalizing lastState reason i with
  | zero => exact absurd hfuel (lt_irrefl 0)
  | succ fuel ih =>
    unfold pollActivation
    refine halts_ask_bind (fun _ _ _ h => Bool.noConfusion h.1) fun time j hj => ?_
    obtain ⟨rfl, rfl⟩ := hj
    by_cases htime : clock i < deadline
    · rw [if_pos htime]
      have hin : i < n := by
        by_contra hle
        exact absurd htime (not_lt.2 (hdeadline i (not_lt.1 hle)))
      refine halts_ask_bind (fun _ _ _ h => Bool.noConfusion h.1) fun _ j hj => ?_
      cases hj
      refine halts_bind ((searches_settles prompt_ticking).observe (settles_perform _) _ _ _)
        (wp_mono (ticking_wp (attending.observe (attending_perform rfl) _ _) _) ?_)
      rintro r j hj seen -
      cases seen.1 with
      | some details => trivial
      | none =>
        refine halts_ask_bind (fun _ _ _ h => Bool.noConfusion h.1) fun now k hk => ?_
        obtain ⟨-, rfl⟩ := hk
        refine halts_bind ?_ (wp_mono (ticking_wp ?_ _) ?_)
        · exact settles_tryCatch (settles_perform _)
            (fun _ => settles_ite (settles_done _) (settles_done _)) _
        · refine within_tryCatch (attending_perform rfl) fun x _ => ?_
          split
          · exact within_pure _
          · exact attending_raise _
        · rintro r' k hk u -
          exact ih seen.2.1 seen.2.2 (by omega) (by omega)
    · rw [if_neg htime]
      trivial

theorem halts_verifyActivation {device activePath : String} {n : ℕ}
    (hdeadline : ∀ i, n ≤ i → clock 0 + m.activationTimeout ≤ clock i) {fuel : ℕ} (hfuel : n < fuel) :
    (ticking clock).Halts (verifyActivation m rt fuel device activePath) 0 := by
  unfold verifyActivation
  refine halts_ask_bind (fun _ _ _ h => Bool.noConfusion h.1) fun time j hj => ?_
  obtain ⟨rfl, rfl⟩ := hj
  have hinterfaces : ∀ path, Attending (interfaces path [PROPS]) := fun _ => attending.interfaces _ _
  refine halts_bind ((searches_settles prompt_ticking).interfaces _ _ _)
    (wp_mono (ticking_wp (hinterfaces _) _) ?_)
  rintro r i hi u -
  refine halts_bind ((searches_settles prompt_ticking).interfaces _ _ _)
    (wp_mono (ticking_wp (hinterfaces _) _) ?_)
  rintro r' j hj u' -
  refine halts_ask_bind (fun _ _ _ h => Bool.noConfusion h.1) fun _ k hk => ?_
  cases hk
  refine halts_ask_bind (fun _ _ _ h => Bool.noConfusion h.1) fun _ k hk => ?_
  cases hk
  refine halts_then (halts_ensure (halts_pollActivation hdeadline fuel 0 .none ?_ ?_) ?_) ?_
  · omega
  · omega
  · exact settles_bind (settles_ask fun _ _ _ h => Bool.noConfusion h.1) fun _ =>
      settles_ask fun _ _ _ h => Bool.noConfusion h.1
  · rintro (details | seen)
    · exact settles_done _
    · exact settles_done _

end Ticking

/-- **The verdict on an activation.**  After `_verify_activation` no handler is subscribed.  Unless
something has interrupted it, its outcome is the one that the first decisive look asks for; every
look is begun before the deadline, and the loop is not left before it without a decisive look.  When
the readings of the clock reach the deadline for good, the function ends. -/
theorem activation_verdict (m : NetworkManager) (rt : Runtime) (device activePath : String) :
    (∀ fuel tr r, Path (verifyActivation m rt fuel device activePath) tr (.done r) →
      Verdict m r (record rt tr)) ∧
    ∀ (clock : ℕ → ℚ) (n : ℕ), (∀ i, n ≤ i → clock 0 + m.activationTimeout ≤ clock i) →
      ∀ fuel, n < fuel → ∀ tr i, (ticking clock).Trail 0 tr i →
        ¬Path (verifyActivation m rt fuel device activePath) tr .spin :=
  ⟨fun fuel tr _ hp => wp_outcome hp (trail_ofFold _ tr) (watch_verifyActivation fuel),
    fun _ _ hdeadline _ hfuel _ _ ht => (halts_verifyActivation hdeadline hfuel).not_spin ht⟩

/-- A connection that is up at the second look; each reading of the clock is 5 s after the last. -/
def settling (i : ℕ) : (c : Call) → Except Exc (Reply c) × ℕ
  | .loopTime => (.ok (5 * i), i + 1)
  | .getAll _ interface =>
      (.ok (
        if interface = DEVICE then
          [("State", .int (if i < 4 then 70 else 100)), ("Ip4Config", .str "/ip4/1")]
        else if interface = ACTIVE then [("State", .int (if i < 4 then 1 else 2))]
        else [
          ("AddressData", .list [.dict [("address", .str "10.0.0.5"), ("prefix", .int 24)]]),
          ("Gateway", .str "10.0.0.1"),
          ("NameserverData", .list [.dict [("address", .str "10.0.0.1")]])]), i)
  | c => (.ok (quiet c), i)

/-- What `_verify_activation` returns then -/
def settled : ActivationDetails := ⟨"full", [⟨"10.0.0.5", 24⟩], "10.0.0.1", ["10.0.0.1"]⟩

theorem exec_settling :
    (exec settling (verifyActivation .default .ascii 6 "/device/wifi" "/active/1") 0).2 =
      some (.ok settled) := by
  decide +kernel

/-- The second look decides, 10 s before the deadline. -/
theorem settling_verdict :
    (∃ tr, Path (verifyActivation .default .ascii 6 "/device/wifi" "/active/1") tr
        (.done (.ok settled)) ∧ Verdict .default (.ok settled) (record .ascii tr)) ∧
    ∀ tr i, (ticking fun i => 5 * i).Trail 0 tr i →
      ¬Path (verifyActivation .default .ascii 6 "/device/wifi" "/active/1") tr .spin := by
  refine ⟨⟨_, path_of_exec settling _ 0 exec_settling, ?_⟩, ?_⟩
  · exact (activation_verdict _ _ _ _).1 6 _ _ (path_of_exec settling _ 0 exec_settling)
  · refine (activation_verdict _ _ _ _).2 (fun i => 5 * i) 5 (fun i hi => ?_) 6 (by decide)
    have h : (5 : ℚ) ≤ i := by exact_mod_cast hi
    show (5 : ℚ) * (0 : ℕ) + 25 ≤ 5 * i
    push_cast
    linarith

end ApplianceAdmin.Network
