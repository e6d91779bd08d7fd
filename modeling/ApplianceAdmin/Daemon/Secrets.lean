import ApplianceAdmin.Daemon.Served
import ApplianceAdmin.Network.Secrets

/-!
# Secrets on a connection

A connection as it is seen by someone who sees every call and every answer, the response included,
but for the passphrase of a new profile and what NetworkManager tells of a saved one beyond what is
reported.

* `observer`: who sees this;
* `AlikeAsked`: requests that differ in a password only, or in the name that is logged;
* `secrets_unseen`: connections with such requests are the same to the observer.
-/

namespace ApplianceAdmin.Daemon

open Async Async.Prog Python Ipc

/-! ### The observer -/

/-- What is seen of a call -/
def Call.seen : Call → Call
  | .network c => .network c.seen
  | c => c

/-- What is seen of an answered call -/
def seenEvent : Event Reply Exc → Event Reply Exc
  | ⟨.network c, r⟩ => networkEvent (Network.seenEvent ⟨c, r⟩)
  | e => e

/-- Who sees everything but the secrets -/
def observer : View Reply Exc Call (Event Reply Exc) := ⟨Call.seen, seenEvent⟩

/-- The programs look alike to him, and return the same. -/
abbrev Same {α : Type} (p p' : Proc α) : Prop := Resembles observer (· = ·) p p'

theorem networkEvent_injective : Function.Injective networkEvent := by
  rintro ⟨c, r⟩ ⟨c', r'⟩ h
  cases h
  rfl

/-- What the observer of the network manager cannot tell apart -/
theorem same_onNetwork {α : Type} {p p' : Network.Proc α} (h : Network.Same p p') :
    Same (onNetwork p) (onNetwork p') := by
  have hcall (c c' : Network.Call) (h : c.seen = c'.seen) :
      observer.call (.network c) = observer.call (.network c') := congrArg Call.network h
  have hevent (e e' : Event Network.Reply Exc)
      (h : observer.event (networkEvent e) = observer.event (networkEvent e')) :
      Network.seenEvent e = Network.seenEvent e' := networkEvent_injective h
  exact @resembles_rename Network.Call Exc α α _ _ _ Call Reply Call.network _ _ Network.observer
    observer p p' hcall hevent h

/-- Other calls are seen as they are. -/
theorem same_of_calls {α : Type} {p : Proc α} (h : Calls (fun c => ∀ c', c ≠ .network c') p) :
    Same p p := by
  refine resembles_self (calls_mono (fun c hc r r' h => ?_) h)
  cases c with
  | network c' => exact absurd rfl (hc c')
  | _ => exact eq_of_heq (Event.mk.inj h).2

theorem same_onSystem {α : Type} (p : System.Proc α) : Same (onSystem p) (onSystem p) := by
  induction p with
  | done r => exact .done (alikeOutcome_refl r)
  | spin => exact .spin
  | call c k ih =>
    refine .call rfl fun r r' h => ?_
    obtain rfl : r = r' := eq_of_heq (Event.mk.inj h).2
    exact ih r

/-! ### The handlers -/

section Handlers

variable {d : Managers}

/-- A result that is made into a value -/
theorem same_dump {α : Type} {p p' : Network.Proc α} (f : α → Value) (h : Network.Same p p') :
    Network.Same (p >>= fun a => pure (f a)) (p' >>= fun a => pure (f a)) :=
  Network.same_seq h fun _ => Network.same_pure _

theorem same_handle {m : Network.NetworkManager} {rt : Runtime} {fuel : ℕ}
    (op : Network.Operation) : Network.Same (op.handle m rt fuel) (op.handle m rt fuel) := by
  cases op with
  | start => exact same_dump _ (Network.same_of_looking Network.looking.start)
  | readiness => exact same_dump _ (Network.same_of_looking Network.looking.readiness)
  | status params => exact same_dump _ (Network.same_of_looking (Network.looking.status params))
  | scan params => exact same_dump _ (Network.same_scan params)
  | connect uuid params => exact same_dump _ (Network.same_connect_self fuel uuid params)
  | disconnect params => exact same_dump _ (Network.same_disconnect params)
  | profiles params => exact same_dump _ (Network.same_profiles params)
  | activateProfile params => exact same_dump _ (Network.same_activateProfile fuel params)
  | deleteProfile params => exact same_dump _ (Network.same_deleteProfile params)

/-- Requests that differ in a password only, or in the name that is logged -/
structure AlikeAsked (rt : Runtime) (request request' : IPCRequest) : Prop where
  id : request'.id = request.id
  action : request'.action = request.action
  params : request'.params = request.params ∨ request.action = "wifi.connect" ∧
    Network.AlikeParams rt request.params request'.params

/-- The handler makes the same of such requests. -/
theorem same_handler {settings : DaemonSettings} {request request' : IPCRequest} {handler : Handler}
    (hhandler : (d.server settings).handler? request.action = some handler)
    (h : AlikeAsked d.rt request request') :
    Same (handler request.params) (handler request'.params) := by
  rcases h.params with hparams | ⟨hconnect, hparams⟩
  · rw [hparams]
    cases route hhandler request.params with
    | network op asked eq =>
      rw [eq]
      exact same_onNetwork (same_handle op)
    | system q asked eq =>
      rw [eq]
      exact same_onSystem _
  · rw [hconnect] at hhandler
    obtain rfl : d.networkHandler (.connect d.uuid) = handler := Option.some.inj hhandler
    exact same_onNetwork (same_dump _ (Network.same_connect d.fuel d.uuid hparams))

end Handlers

/-! ### Connections -/

section Connections

variable {json : Json} {d : Managers} {settings : DaemonSettings} {conn conn' : Connection}
  {request request' : IPCRequest}

theorem same_send (response : IPCResponse Value) :
    Same ((send json response).interpret carryOut) ((send json response).interpret carryOut) := by
  refine same_of_calls (calls_interpret (calls_send json response) fun c hc => ?_)
  cases c with
  | handle handler params => cases hc
  | _ => exact (calls_perform _).2 fun c' h => by cases h

theorem same_serve (h : Asked json d settings conn request)
    (h' : Asked json d settings conn' request') (halike : AlikeAsked d.rt request request') :
    Same (serve json d settings conn) (serve json d settings conn') := by
  unfold serve
  cases hhandler : (d.server settings).handler? request.action with
  | none =>
    have hhandler' : (d.server settings).handler? request'.action = none :=
      halike.action ▸ hhandler
    rw [handleClient_unknown h hhandler, handleClient_unknown h' hhandler', halike.id]
    exact same_send _
  | some handler =>
    have hhandler' : (d.server settings).handler? request'.action = some handler :=
      halike.action ▸ hhandler
    rw [handleClient_handled h hhandler, handleClient_handled h' hhandler', halike.id]
    refine resembles_follow (same_handler hhandler halike) fun r r' hr => ?_
    cases hr with
    | ok hr =>
      cases hr
      exact same_send _
    | error x => exact same_send _

/-- **Secrets are not seen.**  Take two connections whose requests differ in a Wi-Fi password only,
or not at all, and let the answers on the one and on the other differ only in the parts of saved
profiles that are not reported.  Then every call is the same, but for the passphrase in the profile
that is handed to NetworkManager, and so is the response. -/
theorem secrets_unseen (h : Asked json d settings conn request)
    (h' : Asked json d settings conn' request') (halike : AlikeAsked d.rt request request')
    {tr tr' : List (Event Reply Exc)} {q q' : Proc Unit} (hp : Path (serve json d settings conn) tr q)
    (hp' : Path (serve json d settings conn') tr' q') (hans : AlikeAnswers observer tr tr') :
    tr.map seenEvent = tr'.map seenEvent ∧ observer.ahead q = observer.ahead q' := by
  obtain ⟨hevents, hrest⟩ := resembles_paths (same_serve h h' halike) hp hp' hans
  exact ⟨hevents, ahead_eq hrest⟩

end Connections

/-! ### A run -/

/-- A request to join the network `home` -/
def joinRequest (password : String) : IPCRequest :=
  ⟨"1", "wifi.connect", [("ssid", .str "home"), ("password", .str password)], some "alice"⟩

def joinJson : Json :=
  .knowing [(joinRequest "password-one").toValue, (joinRequest "password-two").toValue]

/-- Root makes the request. -/
def joinConnection (password : String) : Connection :=
  { rootConnection "alice" with
    stream := ⟨((joinRequest password).line .writer).toOption.getD [], .stall, true⟩ }

/-- The first calls of a program on a quiet machine, and what is left of it -/
def calmly (n : ℕ) (p : Proc Unit) : List (Event Reply Exc) × Proc Unit × Unit :=
  advance (fun (_ : Unit) c => (calm c, ())) n p ()

theorem path_calmly (n : ℕ) (p : Proc Unit) : Path p (calmly n p).1 (calmly n p).2.1 :=
  path_advance _ n p ()

/-- Every answer is that of the quiet machine. -/
theorem forall_calmly (n : ℕ) (p : Proc Unit) : ∀ e ∈ (calmly n p).1, e = ⟨e.call, calm e.call⟩ :=
  forall_advance (fun _ _ => rfl) n p ()

def joinTask (password : String) : Proc Unit :=
  serve joinJson defaultManagers .default (joinConnection password)

set_option maxRecDepth 4000 in
theorem asked_one : Asked joinJson defaultManagers .default (joinConnection "password-one")
    (joinRequest "password-one") := admitted_eq_ok_iff.1 rfl

set_option maxRecDepth 4000 in
theorem asked_two : Asked joinJson defaultManagers .default (joinConnection "password-two")
    (joinRequest "password-two") := admitted_eq_ok_iff.1 rfl

theorem alikeAsked_join :
    AlikeAsked .ascii (joinRequest "password-one") (joinRequest "password-two") :=
  ⟨rfl, rfl, .inr ⟨rfl, ⟨"home", some "password-one", false⟩, ⟨"home", some "password-two", false⟩,
    rfl, rfl, rfl, rfl, rfl⟩⟩

/-- What is seen of a call on a quiet machine, from what is seen of the call alone -/
def calmEvent : Call → Event Reply Exc
  | .network (.getSettings path) =>
      ⟨.network (.getSettings path), .ok (Network.reported (Network.quiet (.getSettings path)))⟩
  | c => ⟨c, calm c⟩

theorem seenEvent_calm (c : Call) : seenEvent ⟨c, calm c⟩ = calmEvent c.seen := by
  cases c with
  | network c => cases c <;> rfl
  | _ => rfl

/-- The answers on a quiet machine look alike. -/
theorem alikeAnswers_calm {tr tr' : List (Event Reply Exc)} (h : ∀ e ∈ tr, e = ⟨e.call, calm e.call⟩)
    (h' : ∀ e ∈ tr', e = ⟨e.call, calm e.call⟩) (hlength : tr.length = tr'.length) :
    AlikeAnswers observer tr tr' := by
  refine List.forall₂_iff_zip.2 ⟨hlength, fun {e e'} hzip hcall => ?_⟩
  obtain ⟨he, he'⟩ := List.of_mem_zip hzip
  have hseen : e.call.seen = e'.call.seen := hcall
  rw [h e he, h' e' he']
  show seenEvent ⟨_, _⟩ = seenEvent ⟨_, _⟩
  rw [seenEvent_calm, seenEvent_calm, hseen]

/-- Both connections look the same up to the new profile. -/
theorem join_unseen :
    (calmly 16 (joinTask "password-one")).1.map seenEvent =
        (calmly 16 (joinTask "password-two")).1.map seenEvent ∧
      observer.ahead (calmly 16 (joinTask "password-one")).2.1 =
        observer.ahead (calmly 16 (joinTask "password-two")).2.1 := by
  have hlength : (calmly 16 (joinTask "password-one")).1.length =
      (calmly 16 (joinTask "password-two")).1.length := by decide +kernel
  have hanswers := alikeAnswers_calm (forall_calmly 16 (joinTask "password-one"))
    (forall_calmly 16 (joinTask "password-two")) hlength
  exact secrets_unseen asked_one asked_two alikeAsked_join
    (path_calmly 16 (joinTask "password-one")) (path_calmly 16 (joinTask "password-two")) hanswers

end ApplianceAdmin.Daemon
