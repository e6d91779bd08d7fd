import ApplianceAdmin.Async.TwoRuns
import ApplianceAdmin.Network.Credentials
import ApplianceAdmin.Network.Looking

/-!
# Where secrets go

The manager meets two kinds of secrets: the password in a request to connect, and whatever
NetworkManager tells of a saved profile.

* `redact`, `reported`: a new profile without its passphrase, and what is reported of a saved one;
* `observer`: who sees every call and every answer, but for these secrets;
* `AlikeParams`: requests to connect that differ in the password only;
* `same_connect`, `same_profiles`, …: what he cannot tell apart.
-/

namespace ApplianceAdmin.Network

open Async Async.Prog Python

/-! ### The observer -/

/-- A profile without its passphrase -/
def redact (connection : Settings) : Settings :=
  connection.map fun s => (s.1, s.2.filter (·.1 ≠ "psk"))

/-- The entries of a saved profile that `profiles` and `activate_profile` look at -/
def reportedKeys : String → List String
  | "connection" => ["type", "uuid", "id", "interface-name", "autoconnect"]
  | "802-11-wireless" => ["ssid"]
  | _ => []

/-- A saved profile without its other entries -/
def reported (settings : Settings) : Settings :=
  settings.map fun s => (s.1, s.2.filter (·.1 ∈ reportedKeys s.1))

/-- What is seen of a call -/
def Call.seen : Call → Call
  | .addAndActivateConnection2 connection device object options =>
      .addAndActivateConnection2 (redact connection) device object options
  | c => c

/-- What is seen of an answered call -/
def seenEvent : Event Reply Exc → Event Reply Exc
  | ⟨.addAndActivateConnection2 connection device object options, r⟩ =>
      ⟨.addAndActivateConnection2 (redact connection) device object options, r⟩
  | ⟨.getSettings path, r⟩ => ⟨.getSettings path, r.map reported⟩
  | e => e

/-- Who sees everything but the secrets -/
def observer : View Reply Exc Call (Event Reply Exc) := ⟨Call.seen, seenEvent⟩

/-- The programs look alike to him, and return the same. -/
abbrev Same {α : Type} (p p' : Proc α) : Prop := Resembles observer (· = ·) p p'

/-! ### Entries that are reported -/

section Reported

variable {settings settings' : Settings}

theorem get?_filter (d : Dict) {key : String} {keys : List String} (hkey : key ∈ keys) :
    Dict.get? (d.filter fun kv => kv.1 ∈ keys) key = d.get? key := by
  unfold Dict.get?
  rw [List.find?_filter]
  congr 2
  funext kv
  by_cases h : kv.1 = key
  · simp [h, hkey]
  · simp [h]

theorem section_reported {name : String} : (reported settings).section name =
    (settings.section name).filter (·.1 ∈ reportedKeys name) := by
  unfold reported Settings.section
  rw [List.find?_map]
  cases hfind : settings.find? ((fun s => decide (s.1 = name)) ∘ fun s =>
      (s.1, s.2.filter (·.1 ∈ reportedKeys s.1))) with
  | none =>
    have hnone : settings.find? (fun s => decide (s.1 = name)) = none := hfind
    rw [hnone]
    rfl
  | some found =>
    have hsome : settings.find? (fun s => decide (s.1 = name)) = some found := hfind
    have hname : found.1 = name := by simpa using List.find?_some hsome
    rw [hsome]
    simp [hname]

/-- An entry that is reported is read as it is. -/
theorem unwrapGet_reported {name key : String} (hkey : key ∈ reportedKeys name) (default : Value) :
    unwrapGet ((reported settings).section name) key default =
      unwrapGet (settings.section name) key default := by
  rw [unwrapGet, unwrapGet, section_reported, get?_filter _ hkey]

/-- It is the same in profiles of which the same is reported. -/
theorem unwrapGet_congr (h : reported settings = reported settings') (name key : String)
    (hkey : key ∈ reportedKeys name) (default : Value) :
    unwrapGet (settings.section name) key default =
      unwrapGet (settings'.section name) key default := by
  rw [← unwrapGet_reported hkey, h, unwrapGet_reported hkey]

end Reported

/-! ### Programs without secrets -/

section Same

variable {m : NetworkManager} {rt : Runtime} {α β : Type}

/-- A call that is seen as it is, and so is its answer -/
def Call.shown : Call → Bool
  | .addAndActivateConnection2 _ _ _ _ | .getSettings _ => false
  | _ => true

theorem Call.shown_of_looks {c : Call} (hc : c.looks = true) : c.shown = true := by
  cases c <;> first | rfl | cases hc

theorem Call.shown_of_modest {c : Call} (hc : c.modest = true) : c.shown = true := by
  cases c <;> first | rfl | cases hc

theorem shows_of_shown {c : Call} (hc : c.shown = true) : observer.Shows c := by
  intro r r' h
  cases c <;> cases hc <;> exact eq_of_heq (Event.mk.inj h).2

theorem same_of_tidy {p : Proc α} (hp : Tidy (fun c => c.shown = true) p) : Same p p :=
  resembles_self (calls_mono (fun _ => shows_of_shown) (Interruption.calls_of_prompt hp))

theorem same_of_looking {p : Proc α} (hp : Looking p) : Same p p :=
  same_of_tidy (Interruption.prompt_mono (fun _ => Call.shown_of_looks) hp)

theorem same_seq {p p' : Proc α} {f f' : α → Proc β} (hp : Same p p')
    (hf : ∀ a, Same (f a) (f' a)) : Same (p >>= f) (p' >>= f') :=
  resembles_bind hp fun a _ h => h ▸ hf a

theorem same_pure (a : α) : Same (pure a : Proc α) (pure a) := resembles_pure rfl

theorem same_py (r : Except PyError α) : Same (py r) (py r) := resembles_lift (alikeOutcome_refl _)

theorem same_withLock (lock : Lock) {p p' : Proc α} (hp : Same p p') :
    Same (withLock lock p) (withLock lock p') := by
  refine same_seq (same_of_tidy (tidy_perform rfl)) fun _ => resembles_ensure hp ?_
  exact .call rfl fun r r' h => by
    obtain rfl := shows_of_shown rfl r r' h
    cases r with
    | ok a => exact .done (.ok trivial)
    | error x => exact .spin

theorem same_collect {f f' : α → Proc (Option β)} (hf : ∀ a, Same (f a) (f' a)) (xs : List α) :
    Same (collect f xs) (collect f' xs) := by
  induction xs with
  | nil => exact same_pure []
  | cons x xs ih =>
    exact same_seq (hf x) fun _ => same_seq ih fun _ => same_pure _

/-! ### Saved profiles -/

/-- The settings of a saved profile, of which the same is seen -/
theorem resembles_getSettings (path : String) :
    Resembles observer (fun settings settings' => reported settings = reported settings')
      (perform (Call.getSettings path) : Proc Settings) (perform (Call.getSettings path)) := by
  refine .call rfl fun r r' h => .done ?_
  have h : r.map reported = r'.map reported := eq_of_heq (Event.mk.inj h).2
  cases r with
  | ok settings =>
    cases r' with
    | ok settings' => exact .ok (Except.ok.inj h)
    | error x' => cases h
  | error x =>
    cases r' with
    | ok settings' => cases h
    | error x' =>
      cases h
      exact .error x

theorem same_readProfile (uuids : List String) (path : String) :
    Same (readProfile rt uuids path) (readProfile rt uuids path) := by
  unfold readProfile
  refine same_seq (same_of_looking (looking.interfaces _ _)) fun _ => ?_
  refine resembles_bind (resembles_getSettings path) fun settings settings' h => ?_
  have hconnection {key : String} (hkey : key ∈ reportedKeys "connection") (default : Value) :
      unwrapGet (settings.section "connection") key default =
        unwrapGet (settings'.section "connection") key default := unwrapGet_congr h _ key hkey default
  have hssid := unwrapGet_congr h "802-11-wireless" "ssid" (by decide) .none
  dsimp only
  rw [hconnection (by decide), hconnection (by decide), hconnection (by decide),
    hconnection (by decide), hconnection (by decide), hssid]
  split
  · exact same_pure none
  · refine same_seq (same_of_looking (looking.optionalSsid _)) fun _ => ?_
    exact same_seq (resembles_lift (alikeOutcome_refl _)) fun _ => same_pure _

theorem same_profiles (params : Dict) : Same (profiles m rt params) (profiles m rt params) := by
  unfold profiles
  split
  · exact resembles_raise _
  · refine same_seq (same_of_looking (looking.wifiDevice true)) fun _ => ?_
    refine same_seq (same_of_looking (looking.properties _ _)) fun nmProps => ?_
    refine same_seq (same_py _) fun active => ?_
    refine same_seq (same_of_looking (looking.activeUuids active)) fun uuids => ?_
    refine same_seq (same_of_looking looking.settingsInterface) fun _ => ?_
    refine same_seq (same_of_tidy (tidy_perform rfl)) fun paths => ?_
    exact same_collect (same_readProfile uuids) paths

/-! ### Transactions -/

theorem same_undo (checkpoint rejected : String) (exc : Exc) :
    Same (undo checkpoint rejected exc : Proc α) (undo checkpoint rejected exc) :=
  same_of_tidy (tidy_undo (S := fun c => c.shown = true) checkpoint rfl rejected exc)

theorem same_transact (fuel : ℕ) (device rejected : String) {activate activate' : Proc (α × String)}
    (hactivate : Same activate activate') :
    Same (transact m rt fuel device rejected activate)
      (transact m rt fuel device rejected activate') := by
  have hcreate : Tidy (fun c => c.shown = true) (createCheckpoint m device) :=
    Interruption.prompt_bind (Interruption.prompt_mono (fun _ => Call.shown_of_looks)
      (looking.interfaces _ _)) fun _ => tidy_perform rfl
  refine same_seq (same_of_tidy hcreate) fun checkpoint => ?_
  refine same_seq (same_of_looking (looking.interfaces _ _)) fun _ => ?_
  refine resembles_tryCatch (same_seq hactivate fun active => ?_) (same_undo checkpoint rejected)
  refine same_seq (same_of_tidy ?_) fun _ => same_pure _
  exact tidy_finishTransaction (fun _ => Call.shown_of_modest) rfl rfl fuel device _

theorem same_activateProfile (fuel : ℕ) (params : Dict) :
    Same (activateProfile m rt fuel params) (activateProfile m rt fuel params) := by
  refine same_seq (resembles_lift (alikeOutcome_refl _)) fun profileUuid => same_withLock _ ?_
  refine same_seq (same_of_looking (looking.wifiDevice true)) fun device => ?_
  refine same_seq (same_of_looking looking.settingsInterface) fun _ => ?_
  refine same_seq (resembles_tryCatch (same_of_tidy (tidy_perform rfl)) fun exc => ?_)
    fun connectionPath => ?_
  · split
    · exact resembles_raise _
    · exact resembles_raise exc
  refine same_seq (same_of_looking (looking.interfaces _ _)) fun _ => ?_
  refine resembles_bind (resembles_getSettings connectionPath) fun settings settings' h => ?_
  dsimp only
  rw [unwrapGet_congr h "connection" "type" (by decide)]
  split
  · exact resembles_raise _
  · refine same_seq (same_transact fuel device _ ?_) fun _ => same_pure _
    exact same_of_tidy (Interruption.prompt_bind (tidy_perform rfl) fun _ =>
      Interruption.prompt_pure _)

/-! ### Requests to connect -/

/-- Accepted requests that differ in the password only, if they have one -/
structure AlikeRequests (request request' : WifiConnectRequest) : Prop where
  ssid : request'.ssid = request.ssid
  hidden : request'.hidden = request.hidden
  secured : request'.password.isSome = request.password.isSome

theorem redact_wifiConnection (uuid : String) {request request' : WifiConnectRequest}
    (h : AlikeRequests request request')
    (hne : request.password ≠ some "") (hne' : request'.password ≠ some "") :
    redact (wifiConnection uuid request) = redact (wifiConnection uuid request') := by
  obtain ⟨ssid, password, hidden⟩ := request
  obtain ⟨ssid', password', hidden'⟩ := request'
  obtain ⟨rfl, rfl, hsecured⟩ := h
  cases password with
  | none =>
    cases password' with
    | none => rfl
    | some text => cases hsecured
  | some text =>
    cases password' with
    | none => cases hsecured
    | some text' =>
      have htext : text ≠ "" := fun h => hne (congrArg some h)
      have htext' : text' ≠ "" := fun h => hne' (congrArg some h)
      simp only [wifiConnection, if_neg htext, if_neg htext']
      rfl

/-- Parameters of requests to connect that are accepted and alike -/
def AlikeParams (rt : Runtime) (params params' : Dict) : Prop :=
  ∃ request request', WifiConnectRequest.validate rt params = .ok request ∧
    WifiConnectRequest.validate rt params' = .ok request' ∧ AlikeRequests request request'

/-- An accepted password is not empty. -/
theorem password_ne_empty {params : Dict} {request : WifiConnectRequest}
    (h : WifiConnectRequest.validate rt params = .ok request) : request.password ≠ some "" := by
  intro hempty
  have hlength := (counted_of_validate h).password_ge "" hempty
  rw [String.length_empty] at hlength
  omega

theorem same_connect (fuel : ℕ) (uuid : String) {params params' : Dict}
    (h : AlikeParams rt params params') :
    Same (connect m rt fuel uuid params) (connect m rt fuel uuid params') := by
  obtain ⟨request, request', hvalid, hvalid', halike⟩ := h
  unfold connect
  rw [hvalid, hvalid']
  show Same (withLock .connection _) (withLock .connection _)
  refine same_withLock _ (same_seq (same_of_looking (looking.wifiDevice true)) fun device => ?_)
  refine same_seq (same_transact fuel device _ ?_) fun result => ?_
  · have hredact := redact_wifiConnection uuid halike (password_ne_empty hvalid)
      (password_ne_empty hvalid')
    refine .call (congrArg (Call.addAndActivateConnection2 · _ _ _) hredact) fun r r' h => .done ?_
    obtain rfl : r = r' := eq_of_heq (Event.mk.inj h).2
    exact alikeOutcome_refl r
  · rw [halike.ssid]
    exact same_pure _

/-- A request to connect that is sent twice -/
theorem same_connect_self (fuel : ℕ) (uuid : String) (params : Dict) :
    Same (connect m rt fuel uuid params) (connect m rt fuel uuid params) := by
  cases hvalid : WifiConnectRequest.validate rt params with
  | ok request => exact same_connect fuel uuid ⟨request, request, hvalid, hvalid, rfl, rfl, rfl⟩
  | error exc =>
    rw [connect, hvalid]
    exact .done (.error exc)

theorem same_disconnect (params : Dict) : Same (disconnect m rt params) (disconnect m rt params) :=
  same_of_tidy ((tidy_searches fun _ => Call.shown_of_looks).disconnect (fun _ => tidy_perform rfl)
    params)

theorem same_deleteProfile (params : Dict) :
    Same (deleteProfile rt params) (deleteProfile rt params) :=
  same_of_tidy ((tidy_searches fun _ => Call.shown_of_looks).deleteProfile
    (fun _ => tidy_perform rfl) (fun _ => tidy_perform rfl) params)

theorem same_scan (params : Dict) : Same (scan m rt params) (scan m rt params) := by
  unfold scan
  dsimp only
  split
  · exact resembles_raise _
  · refine same_seq (same_of_tidy (tidy_ask rfl rfl)) fun now => ?_
    refine same_seq (same_of_tidy (tidy_ask rfl rfl)) fun self => ?_
    split
    · exact same_pure _
    · refine same_withLock _ (same_seq (same_of_looking (looking.wifiDevice true)) fun device => ?_)
      exact same_of_tidy (tidy_scanOn (fun _ => Call.shown_of_modest) rfl)

end Same

end ApplianceAdmin.Network
