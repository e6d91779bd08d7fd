import ApplianceAdmin.Async.Monitor
import ApplianceAdmin.Network.Frame

/-!
# Transactions around a checkpoint

What one `connect` or `activate_profile` does with its checkpoint, whatever the bus answers.

* `Txn`: how far the request is, as a fold over its answered calls;
* `Txn.monitor`: the order in which the calls of a transaction may come, and the answers under
  which that order is kept;
* `wp_transact`: the part that both operations share, assembled from one lemma for each function;
* `atomic_iff`: when a request that fails has rolled its checkpoint back.
-/

namespace ApplianceAdmin.Network

open Async Async.Prog Async.Monitor Python

/-! ### Requests -/

/-- A request that changes the Wi-Fi connection. -/
inductive TransactionRequest
  /-- `wifi.connect`; `uuid` is what `uuid4()` returns. -/
  | connect (uuid : String) (params : Dict)
  /-- `network.profile.activate` -/
  | activateProfile (params : Dict)

/-- The handler of a request -/
def TransactionRequest.handle (m : NetworkManager) (rt : Runtime) (fuel : ℕ) :
    TransactionRequest → Proc (ConnectResult ⊕ ActivateResult)
  | .connect uuid params => do
      let result ← Network.connect m rt fuel uuid params
      return .inl result
  | .activateProfile params => do
      let result ← Network.activateProfile m rt fuel params
      return .inr result

/-! ### How far a transaction is -/

structure Txn where
  /-- Does the request hold the connection lock? -/
  held : Bool
  /-- The checkpoint that was created for it. -/
  checkpoint : Option String
  /-- Has the activation been asked for? -/
  activated : Bool
  /-- Did a call fail after the checkpoint was created and before the activation was asked for? -/
  lookupFailed : Bool
  /-- Has NetworkManager's connectivity been found sufficient? -/
  verified : Bool
  /-- Was the checkpoint destroyed? -/
  destroyed : Bool
  /-- Was a rollback of the checkpoint issued? -/
  rolledBack : Bool
  /-- Was the request cancelled while it waited for the checkpoint to be destroyed? -/
  cutShort : Bool
  deriving DecidableEq

namespace Txn

def init : Txn := ⟨false, none, false, false, false, false, false, false⟩

/-- The transaction after another answered call. -/
def see (t : Txn) : Event Reply Exc → Txn
  | ⟨.acquire .connection, .ok _⟩ => { t with held := true }
  | ⟨.release .connection, _⟩ => { t with held := false }
  | ⟨.checkpointCreate _ _ _, .ok c⟩ => { t with checkpoint := some c }
  | ⟨.addAndActivateConnection2 _ _ _ _, _⟩ => { t with activated := true }
  | ⟨.activateConnection _ _ _, _⟩ => { t with activated := true }
  | ⟨.checkConnectivity, .ok n⟩ => if n ∈ [1, 2, 3] then t else { t with verified := true }
  | ⟨.checkpointDestroy c, .ok _⟩ =>
      if t.checkpoint = some c then { t with destroyed := true } else t
  | ⟨.checkpointDestroy c, .error .cancelled⟩ =>
      if t.checkpoint = some c then { t with cutShort := true } else t
  | ⟨.checkpointRollback c, _⟩ =>
      if t.checkpoint = some c then { t with rolledBack := true } else t
  | ⟨_, .error _⟩ =>
      if t.checkpoint.isSome && !t.activated then { t with lookupFailed := true } else t
  | _ => t

/-- The transaction after the answered calls `tr` -/
def after (tr : List (Event Reply Exc)) : Txn := tr.foldl see init

/-- Does the checkpoint exist without a decision about it? -/
def isOpen (t : Txn) : Bool :=
  t.checkpoint.isSome && !t.lookupFailed && !t.destroyed && !t.rolledBack && !t.cutShort

/-- When a call may be made -/
def pre (t : Txn) : Call → Prop
  | .acquire .connection => t = init
  | .release .connection => t.held = true ∧ t.isOpen = false
  | .checkpointCreate _ _ _ => t = { init with held := true }
  | .addAndActivateConnection2 _ _ _ _ => t.held = true ∧ t.isOpen = true
  | .activateConnection _ _ _ => t.held = true ∧ t.isOpen = true
  | .checkConnectivity => t.held = true ∧ t.isOpen = true ∧ t.activated = true
  | .checkpointDestroy c =>
      t.held = true ∧ t.checkpoint = some c ∧ t.isOpen = true ∧ t.activated = true ∧
        t.verified = true
  | .checkpointRollback c =>
      t.held = true ∧ t.checkpoint = some c ∧ t.activated = true ∧ t.destroyed = false ∧
        t.cutShort = false
  | c => c.isRead = true

/-- A call that decides about the checkpoint -/
def settles : Call → Bool
  | .checkpointDestroy _ => true
  | .checkpointRollback _ => true
  | _ => false

/-- The answers considered: no cancellation while a checkpoint is created, nor while one is open,
unless the decision about it is under way. -/
def legal (t : Txn) (e : Event Reply Exc) : Prop :=
  ∀ x, e.reply = .error x → x.isException = false →
    (∀ ds s f, e.call ≠ .checkpointCreate ds s f) ∧ (t.isOpen = true → settles e.call = true)

/-- Transactions, as an observer sees them -/
def monitor : Monitor Reply Exc Txn := ofFold pre legal see

/-- The lock is held and nothing has been done. -/
def locked : Txn := { init with held := true }

/-- The checkpoint `c` has been created. -/
def created (c : String) : Txn := { locked with checkpoint := some c }

/-- The activation has been asked for; `v` is whether it has been verified. -/
def active (c : String) (v : Bool) : Txn := { created c with activated := true, verified := v }

end Txn

/-- How a request can have ended -/
inductive Ending {α : Type} : Except Exc α → Txn → Prop
  /-- without a checkpoint -/
  | none {r : Except Exc α} {t : Txn} : t.checkpoint = none → Ending r t
  /-- with a checkpoint that nobody has decided about -/
  | abandoned {x : Exc} {t : Txn} : t.lookupFailed = true → t.destroyed = false →
      t.rolledBack = false → Ending (.error x) t
  | committed {a : α} {t : Txn} : t.lookupFailed = false → t.destroyed = true →
      t.rolledBack = false → Ending (.ok a) t
  | rolledBack {x : Exc} {t : Txn} : t.lookupFailed = false → t.destroyed = false →
      t.rolledBack = true → Ending (.error x) t
  /-- cancelled while the checkpoint was being destroyed -/
  | cutShort {t : Txn} : t.lookupFailed = false → t.cutShort = true → Ending (.error .cancelled) t

namespace Ending

variable {α β : Type} {r : Except Exc α} {t : Txn}

theorem isOpen_eq_false (h : Ending r t) : t.isOpen = false := by
  cases h with
  | none h => simp [Txn.isOpen, h]
  | abandoned h _ _ => simp [Txn.isOpen, h]
  | committed _ h _ => simp [Txn.isOpen, h]
  | rolledBack _ _ h => simp [Txn.isOpen, h]
  | cutShort _ h => simp [Txn.isOpen, h]

/-- Giving the lock back changes nothing about the ending. -/
theorem release (h : Ending r t) : Ending r { t with held := false } := by
  cases h with
  | none h => exact .none h
  | abandoned h₁ h₂ h₃ => exact .abandoned h₁ h₂ h₃
  | committed h₁ h₂ h₃ => exact .committed h₁ h₂ h₃
  | rolledBack h₁ h₂ h₃ => exact .rolledBack h₁ h₂ h₃
  | cutShort h₁ h₂ => exact .cutShort h₁ h₂

theorem error {x : Exc} (h : Ending (.error x : Except Exc α) t) :
    Ending (.error x : Except Exc β) t := by
  cases h with
  | none h => exact .none h
  | abandoned h₁ h₂ h₃ => exact .abandoned h₁ h₂ h₃
  | rolledBack h₁ h₂ h₃ => exact .rolledBack h₁ h₂ h₃
  | cutShort h₁ h₂ => exact .cutShort h₁ h₂

theorem ok {a : α} {b : β} (h : Ending (.ok a : Except Exc α) t) :
    Ending (.ok b : Except Exc β) t := by
  cases h with
  | none h => exact .none h
  | committed h₁ h₂ h₃ => exact .committed h₁ h₂ h₃

end Ending

namespace Txn

/-! ### Frame -/

/-- A call that looks changes nothing, unless its failure comes between checkpoint and activation. -/
theorem see_read {t : Txn} {c : Call} (hc : c.isRead = true)
    (ht : t.checkpoint = none ∨ t.activated = true) (r : Except Exc (Reply c)) :
    t.see ⟨c, r⟩ = t := by
  have hgap : (t.checkpoint.isSome && !t.activated) = false := by
    rcases ht with h | h <;> simp [h]
  cases c <;> cases r <;> simp_all [see, Call.isRead]

theorem pre_read {t : Txn} {c : Call} (hc : c.isRead = true) : t.pre c := by
  cases c <;> simp_all [pre, Call.isRead]

theorem not_settles_read {c : Call} (hc : c.isRead = true) : settles c = false := by
  cases c <;> simp_all [settles, Call.isRead]

/-- What a reading function raises: while a checkpoint is open, only `Exception`s. -/
def Raised (t : Txn) (x : Exc) : Prop := t.isOpen = true → x.isException = true

theorem wp_reading {α : Type} {t : Txn} (ht : t.checkpoint = none ∨ t.activated = true)
    {p : Proc α} (hp : Reading t.Raised p) :
    monitor.wp p (fun r s => s = t ∧ ∀ x, r = .error x → t.Raised x) t := by
  refine wp_of_within (P := fun s => s = t) ?_ ?_ hp rfl
  · intro s c hc _
    exact pre_read hc
  · rintro s c r s' hc rfl ⟨hlegal, rfl⟩
    refine ⟨see_read hc ht r, fun x hx hopen => ?_⟩
    by_contra hcancel
    have := (hlegal x hx (by simpa using hcancel)).2 hopen
    rw [not_settles_read hc] at this
    cases this

theorem raised_of_isException {t : Txn} (x : Exc) (hx : x.isException = true) : t.Raised x :=
  fun _ => hx

/-- A reading function and what comes after it -/
theorem wp_read_bind {α β : Type} {t : Txn} (ht : t.checkpoint = none ∨ t.activated = true)
    {p : Proc α} (hp : Reading t.Raised p) {f : α → Proc β} {Q : Except Exc β → Txn → Prop}
    (herr : ∀ x, t.Raised x → Q (.error x) t) (hok : ∀ a, monitor.wp (f a) Q t) :
    monitor.wp (p >>= f) Q t := by
  rw [wp_bind]
  refine wp_mono (wp_reading ht hp) ?_
  rintro r s ⟨rfl, hr⟩
  cases r with
  | ok a => exact hok a
  | error x => exact herr x (hr x rfl)

/-- One call of a transaction -/
theorem wp_perform_iff {t : Txn} {c : Call} {Q : Except Exc (Reply c) → Txn → Prop} :
    monitor.wp (perform c) Q t ↔ t.pre c ∧ ∀ r, t.legal ⟨c, r⟩ → Q r (t.see ⟨c, r⟩) := by
  rw [wp_perform]
  refine and_congr_right fun _ => ⟨fun h r hr => h r _ ⟨hr, rfl⟩, ?_⟩
  rintro h r s ⟨hr, rfl⟩
  exact h r hr

theorem wp_ask_iff {t : Txn} {c : Call} {Q : Except Exc (Reply c) → Txn → Prop} :
    monitor.wp (ask c) Q t ↔ t.pre c ∧ ∀ a, Q (.ok a) (t.see ⟨c, .ok a⟩) := by
  rw [wp_ask]
  refine and_congr_right fun _ => ⟨fun h a => h a _ ⟨fun x hx => (nomatch hx), rfl⟩, ?_⟩
  rintro h a s ⟨-, rfl⟩
  exact h a

/-! ### Between the checkpoint and the activation -/

/-- What follows when a call may have failed while nobody guards the checkpoint `c` -/
def Gap (c : String) {α : Type} (r : Except Exc α) (t : Txn) : Prop :=
  (t = created c ∧ ∃ a, r = .ok a) ∨
    (t = { created c with lookupFailed := true } ∧ ∃ x, r = .error x)

theorem wp_start_gap (c : String) : monitor.wp start (Gap c) (created c) := by
  unfold start
  rw [wp_bind, wp_ask_iff]
  refine ⟨rfl, fun self => ?_⟩
  rw [andThen_ok, wp_ite]
  split
  · exact .inl ⟨rfl, (), rfl⟩
  · rw [wp_bind, wp_tryCatch, wp_perform_iff]
    refine ⟨rfl, fun r _ => ?_⟩
    cases r with
    | ok a =>
      rw [orElse_ok, andThen_ok, wp_ask_iff]
      exact ⟨rfl, fun _ => .inl ⟨rfl, (), rfl⟩⟩
    | error x =>
      rw [orElse_error, wp_ite]
      split <;> exact .inr ⟨rfl, _, rfl⟩

/-- The lookup of the NetworkManager object is not guarded. -/
theorem wp_lookup_gap (c : String) (path : String) (names : List String) :
    monitor.wp (interfaces path names) (Gap c) (created c) := by
  unfold interfaces
  rw [wp_bind]
  refine wp_mono (wp_start_gap c) ?_
  rintro r t (⟨rfl, a, rfl⟩ | ⟨rfl, x, rfl⟩)
  · rw [andThen_ok, wp_tryCatch, wp_perform_iff]
    refine ⟨rfl, fun r _ => ?_⟩
    cases r with
    | ok a => exact .inl ⟨rfl, a, rfl⟩
    | error x =>
      rw [orElse_error, wp_ite]
      split <;> exact .inr ⟨rfl, _, rfl⟩
  · exact .inr ⟨rfl, x, rfl⟩

/-! ### Verification -/

/-- How the verification of an activation leaves the transaction around `c`: the details of a
connection come with the finding that it is sufficient. -/
inductive Verified (c : String) {α β : Type} (details : α → Option β) : Except Exc α → Txn → Prop
  | failed {x : Exc} {v : Bool} : x.isException = true → Verified c details (.error x) (active c v)
  | found {a : α} {b : β} : details a = some b → Verified c details (.ok a) (active c true)
  | nothing {a : α} : details a = none → Verified c details (.ok a) (active c false)

section Verification

variable {m : NetworkManager} {rt : Runtime} {c : String} {v : Bool}

theorem active_activated : (active c v).checkpoint = none ∨ (active c v).activated = true := .inr rfl

/-- A failed reading function ends the verification. -/
theorem verified_raised {α β : Type} {details : α → Option β} (x : Exc)
    (hx : (active c v).Raised x) : Verified c details (.error x) (active c v) :=
  .failed (hx rfl)

theorem wp_usableDetails (props : Dict) :
    monitor.wp (usableDetails rt props) (Verified c id) (active c false) := by
  unfold usableDetails
  refine wp_read_bind active_activated ((reading raised_of_isException).strItem props _)
    verified_raised fun config => ?_
  refine wp_read_bind active_activated ((reading raised_of_isException).ip4Details config)
    verified_raised fun ip4 => ?_
  split
  · exact .nothing rfl
  · rw [wp_ite]
    split
    · exact .nothing rfl
    · refine wp_read_bind active_activated ((reading raised_of_isException).interfaces _ _)
        verified_raised fun _ => ?_
      rw [wp_bind, wp_perform_iff]
      refine ⟨⟨rfl, rfl, rfl⟩, fun r hr => ?_⟩
      cases r with
      | error x =>
        refine .failed ?_
        by_contra hx
        have := (hr x rfl (by simpa using hx)).2 rfl
        exact absurd this (by simp [settles])
      | ok n =>
        rw [andThen_ok, wp_ite]
        split
        · rename_i hn
          simp only [see, if_pos hn, wp_raise]
          exact .failed rfl
        · rename_i hn
          simp only [see, if_neg hn, wp_pure]
          exact .found rfl

theorem wp_observe (device activePath : String) :
    monitor.wp (observe rt device activePath) (Verified c Prod.fst) (active c false) := by
  unfold observe
  refine wp_read_bind active_activated ((reading raised_of_isException).properties _ _)
    verified_raised fun deviceProps => ?_
  refine wp_read_bind active_activated ((reading raised_of_isException).intItem _ _)
    verified_raised fun lastState => ?_
  refine wp_read_bind active_activated ((reading raised_of_isException).properties _ _)
    verified_raised fun activeProps => ?_
  refine wp_read_bind active_activated ((reading raised_of_isException).intItem _ _)
    verified_raised fun activeState => ?_
  rw [wp_ite]
  split
  · exact .failed rfl
  · rw [wp_ite]
    split
    · rw [wp_bind]
      refine wp_mono (wp_usableDetails deviceProps) ?_
      intro r t h
      cases h with
      | failed hx => exact .failed hx
      | found hd => exact .found hd
      | nothing hd => exact .nothing hd
    · exact .nothing rfl

theorem wp_pollActivation (device activePath : String) (deadline : ℚ) (fuel : ℕ) (lastState : ℤ)
    (reason : Value) :
    monitor.wp (pollActivation rt device activePath deadline fuel lastState reason)
      (Verified c Sum.getLeft?) (active c false) := by
  induction fuel generalizing lastState reason with
  | zero => exact wp_spin _
  | succ fuel ih =>
    unfold pollActivation
    refine wp_read_bind active_activated (by simp [Call.isRead]) verified_raised fun time => ?_
    rw [wp_ite]
    split
    · refine wp_read_bind active_activated (by simp [Call.isRead]) verified_raised fun _ => ?_
      rw [wp_bind]
      refine wp_mono (wp_observe device activePath) ?_
      intro r t h
      cases h with
      | failed hx => exact .failed hx
      | found hd =>
        rw [andThen_ok, hd]
        exact .found rfl
      | nothing hd =>
        rw [andThen_ok, hd]
        refine wp_read_bind active_activated (by simp [Call.isRead]) verified_raised
          fun time => ?_
        refine wp_read_bind active_activated ?_ verified_raised fun _ => ih _ _
        refine within_tryCatch (by simp [Call.isRead]) fun x hx => ?_
        split
        · exact within_pure ()
        · exact (within_raise x).2 hx
    · exact .nothing rfl

theorem wp_verifyActivation (fuel : ℕ) (device activePath : String) :
    monitor.wp (verifyActivation m rt fuel device activePath) (Verified c some)
      (active c false) := by
  unfold verifyActivation
  refine wp_read_bind active_activated (by simp [Call.isRead]) verified_raised fun time => ?_
  refine wp_read_bind active_activated ((reading raised_of_isException).interfaces _ _)
    verified_raised fun _ => ?_
  refine wp_read_bind active_activated ((reading raised_of_isException).interfaces _ _)
    verified_raised fun _ => ?_
  refine wp_read_bind active_activated (by simp [Call.isRead]) verified_raised fun _ => ?_
  refine wp_read_bind active_activated (by simp [Call.isRead]) verified_raised fun _ => ?_
  have hunsubscribe (v : Bool) : Reading (active c v).Raised
      (do ask (Call.unsubscribe device); ask (Call.unsubscribe activePath) : Proc Unit) :=
    within_bind (by simp [Call.isRead]) fun _ => by simp [Call.isRead]
  rw [wp_bind, wp_ensure]
  refine wp_mono (wp_pollActivation device activePath _ fuel 0 .none) ?_
  intro r t h
  cases h with
  | @failed x v hx =>
    exact (wp_bind _).1 (wp_read_bind active_activated (hunsubscribe v) verified_raised
      fun _ => .failed hx)
  | @found a d hd =>
    obtain ⟨d, rfl⟩ : ∃ d, a = .inl d := ⟨d, Sum.getLeft?_eq_some_iff.1 hd⟩
    exact (wp_bind _).1 (wp_read_bind active_activated (hunsubscribe true) verified_raised
      fun _ => .found rfl)
  | @nothing a hd =>
    obtain ⟨seen, rfl⟩ : ∃ seen, a = .inr seen := Sum.isRight_iff.1 (by simpa using hd)
    exact (wp_bind _).1 (wp_read_bind active_activated (hunsubscribe false) verified_raised
      fun _ => .failed rfl)

end Verification

/-! ### The decision about the checkpoint -/

/-- A rollback of `c` has been issued; `v` is whether the activation had been verified. -/
def undone (c : String) (v : Bool) : Txn := { active c v with rolledBack := true }

/-- How `_finish_transaction` leaves the transaction around `c` -/
inductive Finished (c : String) {α : Type} : Except Exc α → Txn → Prop
  | committed {a : α} : Finished c (.ok a) { active c true with destroyed := true }
  /-- before its own `try` -/
  | unguarded {x : Exc} : x.isException = true → Finished c (.error x) (active c false)
  | undone {x : Exc} {v : Bool} : Finished c (.error x) (undone c v)
  | cutShort : Finished c (.error .cancelled) { active c true with cutShort := true }

section Decision

variable {m : NetworkManager} {rt : Runtime} {c : String} {v : Bool}

/-- A rollback is issued whatever comes of it; only a cancellation comes out of it. -/
theorem wp_rollback {t : Txn} (hpre : t.pre (.checkpointRollback c)) :
    monitor.wp (rollback c)
      (fun r s => s = { t with rolledBack := true } ∧ ∀ x, r = .error x → x = .cancelled) t := by
  unfold rollback suppress
  rw [wp_tryCatch, wp_perform_iff]
  refine ⟨hpre, fun r _ => ?_⟩
  have hsee : t.see ⟨.checkpointRollback c, r⟩ = { t with rolledBack := true } := by
    simp [see, hpre.2.1]
  rw [hsee]
  cases r with
  | ok a => exact ⟨rfl, fun _ h => by cases h⟩
  | error x =>
    rw [orElse_error, wp_ite]
    split
    · exact ⟨rfl, fun _ h => by cases h⟩
    · rename_i hx
      refine ⟨rfl, fun _ h => ?_⟩
      cases h
      exact Exc.isException_eq_false.1 (by simpa using hx)

/-- A rollback and the exception that is raised after it -/
theorem wp_rollback_raise {α : Type} {x : Exc} {Q : Except Exc α → Txn → Prop} {t : Txn}
    (hpre : t.pre (.checkpointRollback c))
    (hQ : ∀ y, Q (.error y) { t with rolledBack := true }) :
    monitor.wp (do rollback c; raise x) Q t := by
  rw [wp_bind]
  refine wp_mono (wp_rollback hpre) ?_
  rintro r s ⟨rfl, -⟩
  cases r with
  | ok a => exact hQ x
  | error y => exact hQ y

theorem pre_rollback_active : (active c v).pre (.checkpointRollback c) :=
  ⟨rfl, rfl, rfl, rfl, rfl⟩

theorem pre_rollback_undone : (undone c v).pre (.checkpointRollback c) := ⟨rfl, rfl, rfl, rfl, rfl⟩

theorem wp_finishTransaction (fuel : ℕ) (device activePath : String) :
    monitor.wp (finishTransaction m rt fuel c device activePath) (Finished c)
      (active c false) := by
  unfold finishTransaction
  refine wp_read_bind active_activated ((reading raised_of_isException).interfaces _ _)
    (fun x hx => .unguarded (hx rfl)) fun _ => ?_
  rw [wp_tryCatch, wp_bind]
  refine wp_mono (wp_verifyActivation fuel device activePath) ?_
  intro r t h
  cases h with
  | failed hx =>
    rw [andThen_error, orElse_error, if_pos hx]
    exact wp_rollback_raise pre_rollback_active fun _ => .undone
  | nothing hd => cases hd
  | found hd =>
    rw [andThen_ok, wp_bind, wp_perform_iff]
    refine ⟨⟨rfl, rfl, rfl, rfl, rfl⟩, fun r hr => ?_⟩
    cases r with
    | ok a =>
      simp only [see, active, created, if_pos]
      exact .committed
    | error x =>
      rw [andThen_error, orElse_error]
      by_cases hx : x.isException = true
      · -- the checkpoint has not been destroyed
        have hsee : (active c true).see ⟨.checkpointDestroy c, .error x⟩ = active c true := by
          cases x <;> first | rfl | cases hx
        rw [if_pos hx, hsee]
        exact wp_rollback_raise pre_rollback_active fun _ => .undone
      · obtain rfl := Exc.isException_eq_false.1 (by simpa using hx)
        simp only [see, active, created, if_pos]
        exact .cutShort

/-- The handlers of `connect` and `activate_profile` roll back unless that has been decided. -/
theorem wp_undo {α : Type} {rejected : String} {x : Exc} {t : Txn}
    (h : Finished c (.error x : Except Exc ActivationDetails) t) :
    monitor.wp (undo c rejected x : Proc α) (fun r s => Ending r s ∧ s.held = true) t := by
  unfold undo
  have hroll (y : Exc) (v : Bool) (t : Txn) (ht : t = active c v ∨ t = undone c v) :
      monitor.wp (do rollback c; raise y : Proc α) (fun r s => Ending r s ∧ s.held = true) t := by
    rcases ht with rfl | rfl
    · exact wp_rollback_raise pre_rollback_active fun _ => ⟨.rolledBack rfl rfl rfl, rfl⟩
    · exact wp_rollback_raise pre_rollback_undone fun _ => ⟨.rolledBack rfl rfl rfl, rfl⟩
  cases h with
  | unguarded hx =>
    split_ifs
    · exact hroll _ false _ (.inl rfl)
    · exact hroll _ false _ (.inl rfl)
  | @undone _ v =>
    split_ifs
    · exact hroll _ v _ (.inr rfl)
    · exact hroll _ v _ (.inr rfl)
    · exact ⟨.rolledBack rfl rfl rfl, rfl⟩
  | cutShort => exact ⟨.cutShort rfl rfl, rfl⟩

/-- A request to activate -/
def Activates (c : String) {α : Type} (r : Except Exc α) (t : Txn) : Prop :=
  t = active c false ∧ ∀ x, r = .error x → x.isException = true

theorem wp_transact {α : Type} (fuel : ℕ) (device rejected : String) {activate : Proc (α × String)}
    (hactivate : ∀ c, monitor.wp activate (Activates c) (created c)) :
    monitor.wp (transact m rt fuel device rejected activate)
      (fun r t => Ending r t ∧ t.held = true) locked := by
  unfold transact createCheckpoint
  rw [wp_bind]
  refine wp_read_bind (.inl rfl) ((reading raised_of_isException).interfaces _ _)
    (fun _ _ => ⟨.none rfl, rfl⟩) fun _ => ?_
  rw [wp_perform_iff]
  refine ⟨rfl, fun r _ => ?_⟩
  cases r with
  | error x => exact ⟨.none rfl, rfl⟩
  | ok c =>
    rw [andThen_ok, wp_bind]
    refine wp_mono (wp_lookup_gap c NM_PATH [NM_IFACE]) ?_
    rintro r t (⟨rfl, a, rfl⟩ | ⟨rfl, x, rfl⟩)
    · rw [andThen_ok, wp_tryCatch, wp_bind]
      refine wp_mono (hactivate c) ?_
      rintro r t ⟨rfl, hr⟩
      cases r with
      | error x => exact wp_undo (.unguarded (hr x rfl))
      | ok active =>
        rw [andThen_ok, wp_bind]
        refine wp_mono (wp_finishTransaction fuel device active.2) ?_
        intro r t h
        cases r with
        | error x => exact wp_undo h
        | ok details =>
          cases h
          exact ⟨.committed rfl rfl rfl, rfl⟩
    · exact ⟨.abandoned rfl rfl rfl, rfl⟩

end Decision

/-! ### The operations -/

section Operations

variable (m : NetworkManager) (rt : Runtime)

/-- The lock is held from the first call to the last. -/
theorem wp_withLock {α : Type} {body : Proc α}
    (hbody : monitor.wp body (fun r t => Ending r t ∧ t.held = true) locked) :
    monitor.wp (withLock .connection body) (fun r t => Ending r t ∧ t.held = false) init := by
  unfold withLock
  rw [wp_bind, wp_perform_iff]
  refine ⟨rfl, fun r _ => ?_⟩
  cases r with
  | error x => exact ⟨.none rfl, rfl⟩
  | ok a =>
    rw [andThen_ok, wp_ensure]
    refine wp_mono hbody ?_
    rintro r t ⟨hend, hheld⟩
    unfold andFinally
    rw [wp_ask_iff]
    exact ⟨⟨hheld, hend.isOpen_eq_false⟩, fun _ => ⟨hend.release, rfl⟩⟩

/-- Putting the result together changes nothing about the ending. -/
theorem wp_return {α β : Type} {held : Bool} {f : α → β} {p : Proc α} {t : Txn}
    (h : monitor.wp p (fun r t => Ending r t ∧ t.held = held) t) :
    monitor.wp (do let a ← p; return f a) (fun r t => Ending r t ∧ t.held = held) t := by
  rw [wp_bind]
  refine wp_mono h ?_
  rintro r t ⟨hend, hheld⟩
  cases r with
  | ok a => exact ⟨hend.ok, hheld⟩
  | error x => exact ⟨hend.error, hheld⟩

/-- A reading function before there is a checkpoint -/
theorem wp_locked_bind {α β : Type} {p : Proc α} (hp : Reading locked.Raised p)
    {f : α → Proc β} (hf : ∀ a, monitor.wp (f a) (fun r t => Ending r t ∧ t.held = true) locked) :
    monitor.wp (p >>= f) (fun r t => Ending r t ∧ t.held = true) locked :=
  wp_read_bind (.inl rfl) hp (fun _ _ => ⟨.none rfl, rfl⟩) hf

/-- The answers to a call that asks for the activation -/
theorem raised_created {c : String} {call : Call} {r : Except Exc (Reply call)}
    (hcall : settles call = false) (hr : (created c).legal ⟨call, r⟩) :
    ∀ x, r = .error x → x.isException = true := by
  intro x hx
  by_contra hcancel
  have := (hr x hx (by simpa using hcancel)).2 rfl
  rw [hcall] at this
  cases this

theorem wp_connect (fuel : ℕ) (uuid : String) (params : Dict) :
    monitor.wp (connect m rt fuel uuid params) (fun r t => Ending r t ∧ t.held = false) init := by
  unfold connect
  rw [wp_bind, wp_lift]
  cases WifiConnectRequest.validate rt params with
  | error x => exact ⟨.none rfl, rfl⟩
  | ok request =>
    rw [andThen_ok]
    refine wp_withLock ?_
    refine wp_locked_bind ((reading raised_of_isException).wifiDevice true) fun device => ?_
    refine wp_return (wp_transact fuel device _ fun c => ?_)
    rw [wp_perform_iff]
    exact ⟨⟨rfl, rfl⟩, fun r hr => ⟨rfl, raised_created rfl hr⟩⟩

theorem wp_activateProfile (fuel : ℕ) (params : Dict) :
    monitor.wp (activateProfile m rt fuel params) (fun r t => Ending r t ∧ t.held = false)
      init := by
  unfold activateProfile
  rw [wp_bind, wp_lift]
  cases validatedUuid rt params "network.profile.activate" with
  | error x => exact ⟨.none rfl, rfl⟩
  | ok profileUuid =>
    rw [andThen_ok]
    refine wp_withLock ?_
    refine wp_locked_bind ((reading raised_of_isException).wifiDevice true) fun device => ?_
    refine wp_locked_bind ((reading raised_of_isException).settingsInterface) fun _ => ?_
    refine wp_locked_bind (composes_replace (reading raised_of_isException).toComposes (by simp [Call.isRead]) rfl)
      fun connectionPath => ?_
    refine wp_locked_bind ((reading raised_of_isException).interfaces _ _) fun _ => ?_
    refine wp_locked_bind (by simp [Call.isRead]) fun settings => ?_
    dsimp only
    rw [wp_ite]
    split
    · exact ⟨.none rfl, rfl⟩
    · refine wp_return (wp_transact fuel device _ fun c => ?_)
      rw [wp_bind, wp_perform_iff]
      refine ⟨⟨rfl, rfl⟩, fun r hr => ?_⟩
      have hx := raised_created rfl hr
      cases r with
      | ok activePath => exact ⟨rfl, fun _ h => by cases h⟩
      | error x => exact ⟨rfl, fun y h => by cases h; exact hx x rfl⟩

/-- **Every request ends without the lock and, unless it was given up before the activation, with
a decision about its checkpoint.** -/
theorem wp_handle (fuel : ℕ) (request : TransactionRequest) :
    monitor.wp (request.handle m rt fuel) (fun r t => Ending r t ∧ t.held = false) init := by
  cases request with
  | connect uuid params => exact wp_return (wp_connect m rt fuel uuid params)
  | activateProfile params => exact wp_return (wp_activateProfile m rt fuel params)

end Operations

end Txn

end ApplianceAdmin.Network
