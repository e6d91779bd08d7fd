import ApplianceAdmin.Async.Monitor
import ApplianceAdmin.Models

/-!
# Dispatching requests

`IPCServer._handle_client` from the call of the handler to the response.
-/

namespace ApplianceAdmin

open Async Async.Prog Async.Monitor Python

variable {C : Type} {R : C → Type} {α : Type}

/-- `asyncio.wait_for(handler, timeout)`: the timeout cancels the handler, and a cancellation that
comes out of it is a `TimeoutError`. -/
def waitFor (handler : Prog R Exc α) : Prog R Exc α :=
  handler.tryCatch fun exc => if exc.isException then raise exc else raise .timeoutError

/-- The response of the `except` clauses, in their order -/
def errorResponse (id : String) (exc : Exc) : IPCResponse α :=
  let response (code message : String) : IPCResponse α := ⟨id, false, none, some ⟨code, message⟩⟩
  match exc with
  | .pydantic message _ => response "invalid_request" message
  | .admin cls message => response cls.code message
  | exc =>
      if exc.isTimeout then response "timeout" "Operation timed out"
      else response "internal_error" "Internal daemon error"

/-- The response to the request `id` that `handler` handles -/
def respond (id : String) (handler : Prog R Exc α) : Prog R Exc (IPCResponse α) :=
  (do
    let result ← waitFor handler
    return (⟨id, true, some result, none⟩ : IPCResponse α)).tryCatch fun exc =>
      if exc.isException then return errorResponse id exc else raise exc

/-- What a handler leaves behind is there after its response. -/
theorem wp_respond {σ : Type} {M : Monitor R Exc σ} {P : σ → Prop} {s : σ} {id : String}
    {handler : Prog R Exc α} (h : M.wp handler (fun _ => P) s) :
    M.wp (respond id handler) (fun _ => P) s := by
  unfold respond waitFor
  rw [wp_tryCatch, wp_bind, wp_tryCatch]
  refine wp_mono h fun r s' hs => ?_
  cases r with
  | ok a => exact hs
  | error exc =>
    rw [orElse_error, wp_ite]
    split
    · rename_i hexc
      rw [wp_raise, andThen_error, orElse_error, if_pos hexc]
      exact hs
    · exact hs

end ApplianceAdmin
