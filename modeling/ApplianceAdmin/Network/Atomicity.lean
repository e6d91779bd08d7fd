import ApplianceAdmin.Network.Transaction

/-!
# Atomicity of one transaction

One `connect` or `activate_profile` whose calls return or raise an `Exception`, in any pattern.

* `atomic_iff`: once a checkpoint exists, the request is atomic exactly when no call fails between
  the creation and the request to activate;
* `lookup_not_atomic`: a failing lookup in between.
-/

namespace ApplianceAdmin.Network

open Async Async.Prog Async.Monitor Python

/-- Nobody cancels the request: what an answer raises is an `Exception`. -/
def NotCancelled (tr : List (Event Reply Exc)) : Prop :=
  ∀ e ∈ tr, ∀ x, e.reply = .error x → x.isException = true

/-- A request with a checkpoint that ended with `r`: when it failed, the checkpoint has been rolled
back and not destroyed, and in any case one of the two has been done. -/
structure Atomic {α : Type} (t : Txn) (r : Except Exc α) : Prop where
  failed : ∀ x, r = .error x → t.rolledBack = true ∧ t.destroyed = false
  decided : t.destroyed = true ∨ t.rolledBack = true

namespace Txn

theorem trail_of_notCancelled {tr : List (Event Reply Exc)} (h : NotCancelled tr) (t : Txn) :
    monitor.Trail t tr (tr.foldl see t) := by
  induction tr generalizing t with
  | nil => rfl
  | cons e tr ih =>
    obtain ⟨he, htr⟩ := List.forall_mem_cons.1 h
    refine ⟨t.see e, ⟨fun x hx hcancel => ?_, rfl⟩, ih htr _⟩
    rw [he x hx] at hcancel
    cases hcancel

theorem cutShort_see {t : Txn} {e : Event Reply Exc}
    (he : ∀ x, e.reply = .error x → x.isException = true) : (t.see e).cutShort = t.cutShort := by
  unfold see
  split <;> try split_ifs
  all_goals first | rfl | cases he .cancelled rfl

/-- Only a cancellation cuts a transaction short. -/
theorem cutShort_of_notCancelled {tr : List (Event Reply Exc)} (h : NotCancelled tr) (t : Txn) :
    (tr.foldl see t).cutShort = t.cutShort := by
  induction tr generalizing t with
  | nil => rfl
  | cons e tr ih =>
    obtain ⟨he, htr⟩ := List.forall_mem_cons.1 h
    rw [List.foldl_cons, ih htr, cutShort_see he]

end Txn

section Atomic

variable {m : NetworkManager} {rt : Runtime} {fuel : ℕ} {request : TransactionRequest}
  {tr : List (Event Reply Exc)} {r : Except Exc (ConnectResult ⊕ ActivateResult)}

/-- **A transaction is atomic exactly when nothing fails between the creation of its checkpoint and
the request to activate.** -/
theorem atomic_iff (hp : Path (request.handle m rt fuel) tr (.done r)) (hexc : NotCancelled tr)
    {c : String} (hc : (Txn.after tr).checkpoint = some c) :
    Atomic (Txn.after tr) r ↔ (Txn.after tr).lookupFailed = false := by
  have hend : Ending r (Txn.after tr) :=
    (wp_outcome hp (Txn.trail_of_notCancelled hexc _) (Txn.wp_handle m rt fuel request)).1
  have hcut : (Txn.after tr).cutShort = false := Txn.cutShort_of_notCancelled hexc _
  cases hend with
  | none h => simp [h] at hc
  | abandoned hl hd hr =>
    refine iff_of_false (fun h => ?_) (by simp [hl])
    simpa [hd, hr] using h.decided
  | committed hl hd hr => exact iff_of_true ⟨fun x hx => (nomatch hx), .inl hd⟩ hl
  | rolledBack hl hd hr => exact iff_of_true ⟨fun _ _ => ⟨hr, hd⟩, .inr hr⟩ hl
  | cutShort hl h =>
    rw [hcut] at h
    cases h

end Atomic

/-! ### Runs -/

/-- `wifi.connect` to an open network -/
def homeRequest : TransactionRequest := .connect "uuid" [("ssid", .str "home")]

/-- NetworkManager refuses to activate. -/
def refusing (_ : Unit) : (c : Call) → Except Exc (Reply c) × Unit
  | .addAndActivateConnection2 _ _ _ _ => (.error (.py ⟨.dbus, "not authorized"⟩), ())
  | c => (.ok (quiet c), ())

theorem refusing_notCancelled (p : Proc (ConnectResult ⊕ ActivateResult)) :
    NotCancelled (exec refusing p ()).1 := by
  refine forall_exec (fun _ c x hx => ?_) p ()
  cases c <;> cases hx
  rfl

/-- A refused activation is rolled back. -/
theorem refused_atomic :
    Atomic (Txn.after (exec refusing (homeRequest.handle .default .ascii 1) ()).1)
      (.error (.activation "NetworkManager rejected the Wi-Fi connection") :
        Except Exc (ConnectResult ⊕ ActivateResult)) :=
  (atomic_iff (path_of_exec refusing (homeRequest.handle .default .ascii 1) () rfl)
    (refusing_notCancelled _) (c := "/checkpoint/1") rfl).2 rfl

/-- NetworkManager cannot be looked up any more once it has created a checkpoint. -/
def vanishing (created : Bool) : (c : Call) → Except Exc (Reply c) × Bool
  | .checkpointCreate ds s f => (.ok (quiet (.checkpointCreate ds s f)), true)
  | .introspect dest path names =>
      (if created then .error (.py ⟨.dbus, "introspection timed out"⟩)
        else .ok (quiet (.introspect dest path names)), created)
  | c => (.ok (quiet c), created)

theorem vanishing_notCancelled (p : Proc (ConnectResult ⊕ ActivateResult)) :
    NotCancelled (exec vanishing p false).1 := by
  refine forall_exec (fun created c x hx => ?_) p false
  cases c <;> cases created <;> cases hx
  rfl

/-- The checkpoint of a request whose lookup failed is neither destroyed nor rolled back. -/
theorem lookup_not_atomic :
    ∃ tr r, Path (homeRequest.handle .default .ascii 1) tr (.done r) ∧ NotCancelled tr ∧
      (Txn.after tr).checkpoint = some "/checkpoint/1" ∧ ¬Atomic (Txn.after tr) r := by
  refine ⟨_, _, path_of_exec vanishing (homeRequest.handle .default .ascii 1) false rfl,
    vanishing_notCancelled _, rfl, fun h => ?_⟩
  rcases h.decided with hd | hr
  · cases hd
  · cases hr

end ApplianceAdmin.Network
