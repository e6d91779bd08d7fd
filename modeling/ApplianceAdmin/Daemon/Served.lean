import ApplianceAdmin.Daemon.Handlers

/-!
# Every connection is served once

A connection to the daemon with the handlers of both managers, from the peer's credentials to the
closed socket.

* `Replied`: what is done before the response, and the response;
* `Sent`: one line is written and the connection closed;
* `connection_served`: every connection that comes to its end has one response, which tells the
  outcome of the one coroutine that ran for it.
-/

namespace ApplianceAdmin.Daemon

open Async Async.Prog Python Ipc

/-! ### The response -/

section Replied

variable (json : Json) (d : Managers) (settings : DaemonSettings) (conn : Connection)

/-- A request of an authorized peer -/
abbrev Asked (request : IPCRequest) : Prop := Requested json d.rt (d.server settings) conn request

/-- What is done on a connection before the response, and the response: nothing if there is no
request or no such action, and otherwise a complete run of the coroutine of the action. -/
inductive Replied : List (Event Reply Exc) → IPCResponse Value → Prop
  | refused (exc : Exc) : (∀ request, ¬Asked json d settings conn request) →
      Replied [] (errorResponse "unknown" exc)
  | unknown (request : IPCRequest) : Asked json d settings conn request →
      (d.server settings).handler? request.action = none →
      Replied [] (errorResponse request.id (.validation "Unknown action"))
  | handled (request : IPCRequest) (p : Proc Value) (tr : List (Event Reply Exc))
      (r : Except Exc Value) : Asked json d settings conn request →
      Handling d request.action request.params p → Path p tr (.done r) →
      Replied tr (Ipc.handled request.id r)

end Replied

/-- One line is written, and the connection is closed after it. -/
def Sent (line : List UInt8) (tr : List (Event Reply Exc)) : Prop :=
  ∃ w drained c closed, tr = ⟨.write line, w⟩ :: (drained ++ ⟨.close, c⟩ :: closed) ∧
    (∀ e ∈ drained, e.call = .drain) ∧ ∀ e ∈ closed, e.call = .waitClosed

/-! ### What is played -/

section Plays

variable {json : Json} {outer : List (Event (Ipc.Reply (η := Handler)) Exc)}
  {tr : List (Event Reply Exc)}

/-- Calls of one kind are played by calls of one kind. -/
theorem forall_of_plays {c : Ipc.Call Handler} {c' : Call}
    (hc : ∀ inner r, Path (carryOut c) inner (.done r) → ∀ e ∈ inner, e.call = c')
    (hplays : Plays carryOut outer tr) (h : ∀ e ∈ outer, e.call = c) : ∀ e ∈ tr, e.call = c' := by
  induction hplays with
  | nil => exact fun e he => absurd he List.not_mem_nil
  | @cons e inner outer tr hinner _ ih =>
    obtain ⟨he, hrest⟩ := List.forall_mem_cons.1 h
    obtain ⟨call, r⟩ := e
    subst he
    exact List.forall_mem_append.2 ⟨hc inner r hinner, ih hrest⟩

/-- What is sent on the socket -/
theorem sent_of_plays {line : List UInt8} (h : Ipc.Sent line outer)
    (hplays : Plays carryOut outer tr) : Sent line tr := by
  obtain ⟨w, drained, c, closed, rfl, hdrained, hclosed⟩ := h
  cases hplays with
  | cons hwrite hplays =>
    have hwrite := Path.of_perform hwrite
    obtain ⟨first, rest, rfl, hfirst, hrest⟩ := hplays.split
    cases hrest with
    | cons hclose hrest =>
      have hclose := Path.of_perform hclose
      subst hwrite hclose
      refine ⟨w, first, c, _, rfl, ?_, ?_⟩
      · refine forall_of_plays (fun inner r hinner => ?_) hfirst hdrained
        obtain rfl := Path.of_perform hinner
        simp
      · refine forall_of_plays (fun inner r hinner => ?_) hrest hclosed
        obtain rfl := Path.of_perform hinner
        simp

/-- A response that can be written -/
theorem sent_of_send {response : IPCResponse Value} {r : Except Exc Unit}
    (hline : ∃ text, OneLine text ∧ response.line json = .ok (messageLine text))
    (h : Path (send json response) outer (.done r)) (hplays : Plays carryOut outer tr) :
    ∃ text, response.line json = .ok (messageLine text) ∧ newline ∉ encode text ∧
      Sent (messageLine text) tr := by
  obtain ⟨text, htext, hline⟩ := hline
  exact ⟨text, hline, newline_notMem_encode htext, sent_of_plays (sent_of_path hline h) hplays⟩

end Plays

/-! ### Results that can be written -/

section Writable

variable {tr : List (Event Reply Exc)} {v : Value}

theorem of_onNetwork_done {α : Type} {p : Network.Proc α} {r : Except Exc α}
    (h : onNetwork p = .done r) : p = .done r := by
  cases p with
  | done r' => cases h; rfl
  | spin => cases h
  | call c k => cases h

theorem of_onSystem_done {α : Type} {p : System.Proc α} {r : Except Exc α}
    (h : onSystem p = .done r) : p = .done r := by
  cases p with
  | done r' => cases h; rfl
  | spin => cases h
  | call c k => cases h

/-- What a coroutine returns whose result is made into a value -/
theorem writable_of_bind {C : Type} {R : C → Type} {α : Type} {p : Prog R Exc α} {f : α → Value}
    (hf : ∀ a, Writable (f a)) {tr : List (Event R Exc)}
    (h : Path (p >>= fun a => pure (f a)) tr (.done (.ok v))) : Writable v := by
  obtain ⟨a, first, rest, rfl, -, ha⟩ := h.of_bind
  obtain ⟨-, hv⟩ := Path.of_done (r := .ok (f a)) ha
  cases hv
  exact hf a

theorem writable_of_handle {m : Network.NetworkManager} {rt : Runtime} {fuel : ℕ}
    {op : Network.Operation} {tr : List (Event Network.Reply Exc)}
    (h : Path (op.handle m rt fuel) tr (.done (.ok v))) : Writable v := by
  cases op with
  | start => exact writable_of_bind (fun _ => writable_none) h
  | readiness => exact writable_of_bind (fun _ => writable_dict (by simp)) h
  | status params => exact writable_of_bind writable_status h
  | scan params => exact writable_of_bind Network.writable_scan h
  | connect uuid params => exact writable_of_bind Network.writable_connect h
  | disconnect params => exact writable_of_bind Network.writable_disconnect h
  | profiles params => exact writable_of_bind Network.writable_profiles h
  | activateProfile params => exact writable_of_bind Network.writable_activate h
  | deleteProfile params => exact writable_of_bind Network.writable_delete h

/-- What a handler returns can be written. -/
theorem Handling.writable {d : Managers} {action : String} {params : Dict} {p : Proc Value}
    (hp : Handling d action params p) (h : Path p tr (.done (.ok v))) : Writable v := by
  cases hp with
  | network op asked eq =>
    subst eq
    obtain ⟨inner, p', hpath, rfl, hp'⟩ := Path.of_onNetwork h
    obtain rfl := of_onNetwork_done hp'.symm
    exact writable_of_handle hpath
  | system q asked eq =>
    subst eq
    obtain ⟨inner, p', hpath, rfl, hp'⟩ := Path.of_onSystem h
    obtain rfl := of_onSystem_done hp'.symm
    exact writable_of_bind System.writable_result hpath

end Writable

/-! ### A connection from its beginning to its end -/

section Served

variable {json : Json} {d : Managers} {settings : DaemonSettings} {conn : Connection}

/-- The response to a handler that has an outcome can be written. -/
theorem line_handled {id : String} {r : Except Exc Value}
    (h : ∀ v, r = .ok v → Writable v) :
    ∃ text, OneLine text ∧ (Ipc.handled id r).line json = .ok (messageLine text) := by
  cases r with
  | ok v =>
    obtain ⟨s, hs⟩ := h v rfl json
    exact IPCResponse.line_success hs id
  | error exc =>
    obtain ⟨code, message, heq⟩ := errorResponse_eq id (if exc.isException then exc else .timeoutError)
    rw [Ipc.handled, heq]
    exact IPCResponse.line_failure json id code message

/-- **Every connection is served once.**  A connection to the daemon that comes to its end has a
response, which is that of the one coroutine that has run for it from its beginning to its end, or
of none; the response is written as one line, and the connection is closed. -/
theorem connection_served {tr : List (Event Reply Exc)} {r : Except Exc Unit}
    (h : Path (serve json d settings conn) tr (.done r)) :
    ∃ response text before sent, Replied json d settings conn before response ∧
      response.line json = .ok (messageLine text) ∧ newline ∉ encode text ∧
      tr = before ++ sent ∧ Sent (messageLine text) sent := by
  obtain ⟨outer, hpath, hplays⟩ := Path.of_interpret_done h
  have herror (id : String) (exc : Exc) : ∃ text, OneLine text ∧
      (errorResponse id exc : IPCResponse Value).line json = .ok (messageLine text) := by
    obtain ⟨code, message, heq⟩ := errorResponse_eq id exc
    exact heq ▸ IPCResponse.line_failure json id code message
  rcases courses json d.rt (d.server settings) conn with ⟨exc, hnone, heq⟩ |
    ⟨request, hrequest, ⟨hhandler, heq⟩ | ⟨handler, hhandler, heq⟩⟩
  · rw [heq] at hpath
    obtain ⟨text, hline, hnewline, hsent⟩ := sent_of_send (herror _ _) hpath hplays
    exact ⟨_, text, [], tr, .refused exc hnone, hline, hnewline, rfl, hsent⟩
  · rw [heq] at hpath
    obtain ⟨text, hline, hnewline, hsent⟩ := sent_of_send (herror _ _) hpath hplays
    exact ⟨_, text, [], tr, .unknown request hrequest hhandler, hline, hnewline, rfl, hsent⟩
  · rw [heq] at hpath
    cases hpath with
    | @cons _ _ r' _ _ hpath =>
      cases hplays with
      | @cons _ inner _ rest hinner hplays =>
        have hhandling := route hhandler request.params
        have hwritable : ∀ v, r' = .ok v → Writable v := by
          rintro v rfl
          exact hhandling.writable hinner
        obtain ⟨text, hline, hnewline, hsent⟩ := sent_of_send (line_handled hwritable) hpath hplays
        exact ⟨_, text, inner, rest, .handled request _ inner r' hrequest hhandling hinner, hline,
          hnewline, rfl, hsent⟩

end Served

/-! ### A run -/

/-- The managers of a daemon without an environment file -/
def defaultManagers : Managers where
  network := .default
  system := ⟨["ninja-timer.service"]⟩
  rt := .ascii
  fuel := 1
  uuid := "6f1d1c9a-2f0e-4d57-9a39-0c3a4b1f5e77"

/-- The answers on a quiet machine, where no command is run -/
def calm : (c : Call) → Except Exc (Reply c)
  | .network c => .ok (Network.quiet c)
  | .system _ => .error .cancelled
  | .write _ | .drain | .close | .waitClosed => .ok ()

/-- A request for the capabilities, from root -/
def capabilitiesConnection : List (Event Reply Exc) × Option (Except Exc Unit) :=
  exec (fun (_ : Unit) c => (calm c, ()))
    (serve capabilitiesJson defaultManagers .default (rootConnection "alice")) ()

theorem capabilities_served : ∃ response text before sent,
    Replied capabilitiesJson defaultManagers .default (rootConnection "alice") before response ∧
      response.line capabilitiesJson = .ok (messageLine text) ∧ newline ∉ encode text ∧
      capabilitiesConnection.1 = before ++ sent ∧ Sent (messageLine text) sent :=
  connection_served (path_of_exec _ _ _ (r := .ok ()) (by decide +kernel))

end ApplianceAdmin.Daemon
