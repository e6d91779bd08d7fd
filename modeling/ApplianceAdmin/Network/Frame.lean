import ApplianceAdmin.Network.Walk

/-!
# What the reading functions do

Most functions of the manager only look at the bus.  `Reading E p` says so of a program `p`: every
call of `p` is one that looks, and `p` raises nothing outside `E` unless an answer does.  `E` is
any set of exceptions with all `Exception`s in it; cancellation may be among them or not.
`Attending p` allows the calls besides by which a transaction tests what it has activated and
decides.
-/

namespace ApplianceAdmin.Network

open Async Async.Prog Python

/-- A call that looks at the bus, or waits for a signal. -/
def Call.isRead : Call → Bool
  | .fields | .setBus _ | .loopTime | .connectBus | .introspect _ _ _ | .getAll _ _
  | .nameHasOwner _ | .getDevices | .getAllAccessPoints _ | .subscribe _ _ | .unsubscribe _
  | .clearEvent | .waitEvent _ | .listConnections | .getSettings _ | .getConnectionByUuid _ => true
  | _ => false

theorem Call.ne_lock {c : Call} (hc : c.isRead = true) (l : Lock) :
    c ≠ .acquire l ∧ c ≠ .release l := by
  constructor <;> rintro rfl <;> cases hc

/-- Every call of `p` is one that looks, and `p` raises only what is in `E` or is answered. -/
abbrev Reading {α : Type} (E : Exc → Prop) (p : Proc α) : Prop :=
  Within (fun c : Call => c.isRead = true) E p

section Within

variable {S : Call → Prop} {E : Exc → Prop} (hS : ∀ c : Call, c.isRead = true → S c)
  (hE : ∀ e : Exc, e.isException = true → E e)

include hS hE

theorem within_searches : Searches (Within S E) := by
  refine .of_calls (composes_within hE) ((within_ask _).2 (hS _ rfl)) ((within_ask _).2 (hS _ rfl))
    ((within_perform _).2 (hS _ rfl)) fun c hc => (within_perform c).2 (hS c ?_)
  cases c <;> first | rfl | cases hc

theorem within_signals : Signals (fun x => x.isException = true) (Within S E) :=
  { (within_searches hS hE).toLooks with
    spin := within_spin
    tick := fun c hc => by cases c <;> first | exact (within_ask _).2 (hS _ rfl) | cases hc
    waitEvent := fun _ => (within_perform _).2 (hS _ rfl)
    subscribe := fun _ _ => (within_ask _).2 (hS _ rfl)
    ensure := fun hp hq => within_ensure hp
      (within_of_cleans (fun c hc => by cases c <;> first | exact hS _ rfl | cases hc) hq) }

end Within

theorem reading {E : Exc → Prop} (hE : ∀ e : Exc, e.isException = true → E e) :
    Searches (Reading E) := within_searches (fun _ hc => hc) hE

/-- Whatever is raised -/
theorem reading_any : Searches (Reading fun _ => True) := reading fun _ _ => trivial

/-! ### What a transaction does besides activating -/

/-- A call that looks, or by which a transaction tests what it has activated or decides -/
def Call.attends (c : Call) : Bool :=
  c.isRead || match c with
    | .checkConnectivity | .checkpointDestroy _ | .checkpointRollback _ => true
    | _ => false

/-- A program that makes only such calls -/
abbrev Attending {α : Type} (p : Proc α) : Prop :=
  Within (fun c : Call => c.attends = true) (fun _ => True) p

theorem Call.attends_of_isRead {c : Call} (hc : c.isRead = true) : c.attends = true := by
  cases c <;> first | rfl | cases hc

section Attending

variable {m : NetworkManager} {rt : Runtime}

theorem attending : Searches Attending :=
  within_searches (fun _ => Call.attends_of_isRead) fun _ _ => trivial

theorem attending_of_reading {α : Type} {p : Proc α} (h : Reading (fun _ => True) p) :
    Attending p := within_mono (fun _ => Call.attends_of_isRead) h

theorem attending_perform {c : Call} (hc : c.attends = true) :
    Attending (perform c : Proc (Reply c)) :=
  (within_perform c).2 hc

theorem attending_raise {α : Type} (x : Exc) : Attending (raise x : Proc α) :=
  (within_raise x).2 trivial

theorem attending_verifyActivation (fuel : ℕ) (device activePath : String) :
    Attending (verifyActivation m rt fuel device activePath) :=
  (within_signals (fun _ => Call.attends_of_isRead) fun _ _ => trivial).verifyActivation
    (attending_perform rfl) fuel device activePath

theorem attending_finishTransaction (fuel : ℕ) (checkpoint device activePath : String) :
    Attending (finishTransaction m rt fuel checkpoint device activePath) :=
  attending.finishTransaction (attending_verifyActivation fuel device activePath)
    (attending_perform rfl) (attending_perform rfl)

theorem attending_undo {α : Type} (checkpoint rejected : String) (x : Exc) :
    Attending (undo checkpoint rejected x : Proc α) :=
  undo_of_composes attending.toComposes (attending_perform rfl) attending_raise rejected x

end Attending

/-! ### The other calls of a transaction -/

section Transaction

variable {m : NetworkManager} {rt : Runtime} {S : Call → Prop}

/-- The calls of `connect` besides those that look, test and decide: the lock, the checkpoint and
the profile of the request that is accepted. -/
theorem within_connect {params : Dict} (fuel : ℕ) (uuid : String)
    (hattends : ∀ c : Call, c.attends = true → S c)
    (hlock : S (.acquire .connection) ∧ S (.release .connection))
    (hcreate : ∀ request, WifiConnectRequest.validate rt params = .ok request →
      ∀ devices timeout flags, S (.checkpointCreate devices timeout flags))
    (hadd : ∀ request, WifiConnectRequest.validate rt params = .ok request →
      ∀ device object options,
        S (.addAndActivateConnection2 (wifiConnection uuid request) device object options)) :
    Within S (fun _ => True) (connect m rt fuel uuid params) := by
  unfold connect
  cases hrequest : WifiConnectRequest.validate rt params with
  | error x => exact (within_raise x).2 trivial
  | ok request =>
    show Within _ _ (withLock .connection _)
    refine within_bind ((within_perform _).2 hlock.1) fun _ => ?_
    refine within_ensure ?_ ((within_ask _).2 hlock.2)
    have hsearches : Searches (Within S fun _ => True) :=
      within_searches (fun c hc => hattends c (Call.attends_of_isRead hc)) fun _ _ => trivial
    refine within_bind (hsearches.wifiDevice true) fun device => ?_
    refine within_bind (hsearches.transact (fun _ _ => ?_)
      (fun _ => within_mono hattends (attending_perform rfl))
      (fun _ => within_mono hattends (attending_perform rfl))
      (fun _ => within_mono hattends (attending_verifyActivation _ _ _)) ?_)
      fun result => within_pure _
    · exact (within_perform _).2 (hcreate request hrequest _ _ _)
    · exact (within_perform _).2 (hadd request hrequest _ _ _)

end Transaction

end ApplianceAdmin.Network
