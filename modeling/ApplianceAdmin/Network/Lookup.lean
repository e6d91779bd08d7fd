import ApplianceAdmin.Network.Walk

/-!
# Lookups on the bus

Every operation of the manager looks up objects with `_interfaces` and reads them with
`_properties`.  The rules below say how a lookup ends, for any monitor that knows what each of its
calls does; they turn every `Exception` of the bus into a `NetworkBackendUnavailableError`.

* `wp_start`, `wp_interfaces`, `wp_properties`: how a lookup ends;
* `searches_settles`: that it ends.
-/

namespace ApplianceAdmin.Network

open Async Async.Prog Async.Monitor Python

/-- A call that `_interfaces` makes. -/
def Call.looksUp : Call → Bool
  | .fields | .setBus _ | .connectBus | .introspect _ _ _ => true
  | _ => false

section Lookup

variable {σ α : Type} {M : Monitor Reply Exc σ} {P F : σ → Prop} {s : σ}

/-- Where `P` holds, the call `c` may be made; a value leads to `G` and an exception to `F`. -/
def Leads (M : Monitor Reply Exc σ) (P F : σ → Prop) (c : Call) (G : Reply c → σ → Prop) : Prop :=
  ∀ s, P s → M.pre s c ∧ ∀ r s', M.next s c r s' →
    (∀ a, r = .ok a → G a s') ∧ ∀ x, r = .error x → F s'

/-- How a lookup ends: every `Exception` is a `NetworkBackendUnavailableError`. -/
def Looked (G : α → σ → Prop) (F : σ → Prop) : Except Exc α → σ → Prop
  | .ok a, s => G a s
  | .error x, s => F s ∧ x.isBackendUnavailable = x.isException

/-- One call of a lookup, with `except Exception` around it -/
theorem wp_lookup {c : Call} {G : Reply c → σ → Prop} (h : Leads M P F c G) (message : String)
    (hs : P s) :
    M.wp ((perform c).tryCatch fun exc =>
      if exc.isException then raise (.backendUnavailable message) else raise exc)
      (Looked G F) s := by
  rw [wp_tryCatch, wp_perform]
  obtain ⟨hpre, hnext⟩ := h s hs
  refine ⟨hpre, fun r s' hn => ?_⟩
  cases r with
  | ok a => exact (hnext _ _ hn).1 a rfl
  | error x =>
    have hF := (hnext _ _ hn).2 x rfl
    rw [orElse_error, wp_ite]
    split
    · exact ⟨hF, rfl⟩
    · rename_i hx
      obtain rfl := Exc.isException_eq_false.1 (by simpa using hx)
      exact ⟨hF, rfl⟩

theorem wp_start (h : ∀ c, c.looksUp = true → Leads M P F c fun _ => P) (hs : P s) :
    M.wp start (Looked (fun _ => P) F) s := by
  unfold start
  rw [wp_bind, wp_ask]
  refine ⟨(h .fields rfl s hs).1, fun self s₁ hn => ?_⟩
  have hs₁ : P s₁ := ((h .fields rfl s hs).2 _ _ hn).1 self rfl
  rw [andThen_ok, wp_ite]
  split
  · exact hs₁
  · rw [wp_bind]
    refine wp_mono (wp_lookup (h .connectBus rfl) _ hs₁) fun r s₂ hr => ?_
    cases r with
    | error x => exact hr
    | ok a =>
      rw [andThen_ok, wp_ask]
      refine ⟨(h (.setBus true) rfl s₂ hr).1, fun a s₃ hn => ?_⟩
      exact ((h (.setBus true) rfl s₂ hr).2 _ _ hn).1 a rfl

theorem wp_interfaces (h : ∀ c, c.looksUp = true → Leads M P F c fun _ => P) (path : String)
    (names : List String) (hs : P s) :
    M.wp (interfaces path names) (Looked (fun _ => P) F) s := by
  unfold interfaces
  rw [wp_bind]
  refine wp_mono (wp_start h hs) fun r s₁ hr => ?_
  cases r with
  | error x => exact hr
  | ok a => exact wp_lookup (h _ rfl) _ hr

theorem wp_properties (h : ∀ c, c.looksUp = true → Leads M P F c fun _ => P)
    {path interface : String} {G : Dict → σ → Prop} (hget : Leads M P F (.getAll path interface) G)
    (hs : P s) : M.wp (properties path interface) (Looked G F) s := by
  unfold properties
  rw [wp_bind]
  refine wp_mono (wp_interfaces h path [PROPS] hs) fun r s₁ hr => ?_
  cases r with
  | error x => exact hr
  | ok a => exact wp_lookup hget _ hr

end Lookup

/-! ### Lookups end -/

section Settles

variable {σ : Type} {M : Monitor Reply Exc σ}

/-- Calls that nobody waits for do not raise. -/
def Prompt (M : Monitor Reply Exc σ) : Prop :=
  ∀ c : Call, c.awaited = false → ∀ s x s', ¬M.next s c (.error x) s'

/-- Lookups end. -/
theorem searches_settles (h : Prompt M) : Searches M.Settles :=
  .of_calls composes_settles (settles_ask (h _ rfl)) (settles_ask (h _ rfl)) (settles_perform _)
    fun c _ => settles_perform c

end Settles

end ApplianceAdmin.Network
