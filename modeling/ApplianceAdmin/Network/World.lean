import ApplianceAdmin.Async.Shared
import ApplianceAdmin.Network.Frame

/-!
# Many requests at once

The world that the requests to one manager share: its attributes, its locks, the monotonic clock,
and what NetworkManager does with checkpoints.  Beside it the world keeps a record of the
`RequestScan` calls.

* `Phase`, `Checkpoint`: a checkpoint from the call that asks for it on;
* `CheckpointEvent`, `Handles`: NetworkManager handles a call that has reached it, in any order;
* `Outcome`, `Attempt`: a `RequestScan` call and what its caller learns about it;
* `World`, `manager`: the environment of the requests.
-/

namespace ApplianceAdmin.Network

open Async Async.Prog Python

/-! ### Checkpoints -/

inductive Phase
  /-- The call that creates it is under way. -/
  | asked
  | refused
  | live
  /-- The call that destroys it is under way. -/
  | destroying
  | destroyed
  /-- A rollback has been issued. -/
  | rolledBack
  /-- Destroyed by the creation of another one. -/
  | discarded
  deriving DecidableEq

/-- A checkpoint, with what the request that owns it has done. -/
structure Checkpoint where
  owner : Tid
  path : String
  phase : Phase
  /-- Has the activation been asked for? -/
  activated : Bool
  /-- Has the connectivity been found sufficient? -/
  verified : Bool
  deriving DecidableEq

namespace Checkpoint

def ask (i : Tid) : Checkpoint := ⟨i, "", .asked, false, false⟩

/-- Destroyed after a verification, rolled back, or never created -/
def settled (k : Checkpoint) : Bool :=
  (k.phase = .destroyed && k.verified) || k.phase = .rolledBack || k.phase = .refused

/-- `CHECKPOINT_DESTROY_ALL` of another creation -/
def discard (k : Checkpoint) : Checkpoint :=
  if k.phase = .live ∨ k.phase = .destroying then { k with phase := .discarded } else k

/-- Request `i` asks for the activation. -/
def activate (i : Tid) (k : Checkpoint) : Checkpoint :=
  if k.owner = i ∧ k.phase = .live then { k with activated := true } else k

/-- Request `i` finds the connectivity sufficient. -/
def verify (i : Tid) (k : Checkpoint) : Checkpoint :=
  if k.owner = i ∧ k.phase = .live then { k with verified := true } else k

/-- A checkpoint in phase `p` with the path `c` goes to phase `p'`. -/
def move (c : String) (p p' : Phase) (k : Checkpoint) : Checkpoint :=
  if k.path = c ∧ k.phase = p then { k with phase := p' } else k

/-- The checkpoint that `i` asked for is refused. -/
def refuse (i : Tid) (k : Checkpoint) : Checkpoint :=
  if k.owner = i ∧ k.phase = .asked then { k with phase := .refused } else k

end Checkpoint

/-- What NetworkManager does with checkpoints at a request's call -/
inductive CheckpointEvent
  | created (owner : Tid) (path : String)
  | destroyed (path : String)
  deriving DecidableEq

/-- NetworkManager handles one of the calls that have reached it, in any order: each of them may wait
for its authorization. -/
inductive Handles : List Checkpoint → CheckpointEvent → List Checkpoint → Prop
  | create {after before : List Checkpoint} {k : Checkpoint} {c : String} :
      k.phase = .asked → c ≠ "" → (∀ k' ∈ after ++ before, k'.path ≠ c) →
      Handles (after ++ k :: before) (.created k.owner c)
        (after.map .discard ++ { k with path := c, phase := .live } :: before.map .discard)
  | destroy {after before : List Checkpoint} {k : Checkpoint} :
      k.phase = .destroying →
      Handles (after ++ k :: before) (.destroyed k.path)
        (after ++ { k with phase := .destroyed } :: before)

/-! ### Scans -/

/-- What the caller of `RequestScan` knows about the scan. -/
inductive Outcome
  | pending
  /-- No signal came in time. -/
  | timedOut
  | completed
  /-- The scan failed; `caught` is whether `except Exception` of `scan` gets the failure. -/
  | failed (caught : Bool)
  deriving DecidableEq

/-- A `RequestScan` call. -/
structure Attempt where
  owner : Tid
  /-- The reading of the clock on which the rate limit was checked. -/
  checked : ℚ
  /-- The time of the call. -/
  issued : ℚ
  /-- `LastScan` before the call. -/
  previous : ℤ
  outcome : Outcome
  deriving DecidableEq

/-- Has `LastScan` moved on from `previous`? -/
def advanced (rt : Runtime) (previous : ℤ) (props : Dict) : Bool :=
  match lastScanOf rt props with
  | .ok current => decide (current ≠ previous ∧ 0 ≤ current)
  | .error _ => false

/-- What the caller knows after another answered call. -/
def Outcome.see (rt : Runtime) (previous : ℤ) (o : Outcome) (e : Event Reply Exc) : Outcome :=
  let failure (x : Exc) : Outcome :=
    if x.isTimeout then .timedOut else .failed (x.isException && !x.isBackendUnavailable)
  match o, e with
  | .pending, ⟨.requestScan _, .error x⟩ => failure x
  | .pending, ⟨.waitEvent _, .ok _⟩ => .completed
  | .pending, ⟨.waitEvent _, .error x⟩ => failure x
  | .timedOut, ⟨.getAll _ _, .ok props⟩ =>
      if advanced rt previous props then .completed else .failed true
  | .timedOut, ⟨_, .error _⟩ => .failed false
  | o, _ => o

/-- The attempt after an answer to task `i` -/
def Attempt.see (rt : Runtime) (i : Tid) (e : Event Reply Exc) (a : Attempt) : Attempt :=
  if a.owner = i then { a with outcome := a.outcome.see rt a.previous e } else a

/-! ### The world -/

structure World where
  fields : Fields
  clock : ℚ
  scanLock : Option Tid
  connectionLock : Option Tid
  /-- The checkpoints that were asked for, the latest first. -/
  checkpoints : List Checkpoint
  /-- What NetworkManager has done with them, the latest first. -/
  history : List CheckpointEvent
  /-- The readings of the clock under the scan lock, the latest first. -/
  readings : List ℚ
  /-- `LastScan` as the latest subscriber to it found it. -/
  previous : ℤ
  /-- The `RequestScan` calls, the latest first. -/
  attempts : List Attempt
  /-- Did a scan fail in a way that `except Exception` catches, while there was a cache to show? -/
  hidden : Bool
  deriving DecidableEq

namespace World

/-- A new manager when the clock shows `clock` -/
def init (clock : ℚ) : World := ⟨.init, clock, none, none, [], [], [], 0, [], false⟩

/-- The holder of a lock -/
def holder (w : World) : Lock → Option Tid
  | .scan => w.scanLock
  | .connection => w.connectionLock

def setHolder (w : World) : Lock → Option Tid → World
  | .scan, i => { w with scanLock := i }
  | .connection, i => { w with connectionLock := i }

/-- A call is made and reaches its destination. -/
def issue (i : Tid) (c : Call) (w : World) : World :=
  match c with
  | .requestScan _ =>
      { w with
        attempts := ⟨i, w.readings.headD 0, w.clock, w.previous, .pending⟩ :: w.attempts }
  | .checkpointCreate _ _ _ => { w with checkpoints := .ask i :: w.checkpoints }
  | .addAndActivateConnection2 _ _ _ _ =>
      { w with checkpoints := w.checkpoints.map (.activate i) }
  | .activateConnection _ _ _ => { w with checkpoints := w.checkpoints.map (.activate i) }
  | .checkpointDestroy c =>
      { w with checkpoints := w.checkpoints.map (.move c .live .destroying) }
  | .checkpointRollback c =>
      { w with checkpoints := w.checkpoints.map (.move c .live .rolledBack) }
  | _ => w

/-- The answer to a call that nobody waits for -/
def answer (c : Call) (w : World) : Except Exc (Reply c) :=
  match c with
  | .fields => .ok w.fields
  | .monotonic => .ok w.clock
  | .loopTime => .ok w.clock
  | c => .ok (quiet c)

/-- The answers to a call that somebody waits for.  A cancellation is always possible; otherwise a
lock is given when it is free, and NetworkManager says what it has done with a checkpoint: it is
created for whom it was asked, and the one that is destroyed was not discarded before. -/
def legal (i : Tid) (c : Call) (r : Except Exc (Reply c)) (w : World) : Bool :=
  match c, r with
  | _, .error .cancelled => true
  | .acquire l, .ok _ => w.holder l = none
  | .acquire _, .error _ => false
  | .checkpointCreate _ _ _, .ok c =>
      w.checkpoints.any fun k => k.owner = i && k.phase = .live && k.path = c
  | .checkpointCreate _ _ _, .error _ =>
      w.checkpoints.any fun k => k.owner = i && k.phase = .asked
  | .checkpointDestroy c, .ok _ =>
      (w.checkpoints.find? fun k => k.path = c).any fun k => k.phase = .destroyed
  | .checkpointDestroy c, .error _ =>
      w.checkpoints.all fun k => k.path ≠ c || k.phase ≠ .destroyed
  | _, _ => true

/-- What an answer changes in the manager, in its locks and in what is known of checkpoints -/
def receive (i : Tid) (c : Call) (r : Except Exc (Reply c)) (w : World) : World :=
  match c, r with
  | .setBus connected, _ => { w with fields := { w.fields with bus := connected } }
  | .setLastScanRequest time, _ =>
      { w with fields := { w.fields with lastScanRequest := time } }
  | .setLastScanResult time, _ => { w with fields := { w.fields with lastScanResult := time } }
  | .setScanCache cache, _ => { w with fields := { w.fields with scanCache := cache } }
  | .acquire l, .ok _ => w.setHolder l (some i)
  | .release l, _ => w.setHolder l none
  | .monotonic, _ =>
      if w.scanLock = some i then { w with readings := w.clock :: w.readings } else w
  | .subscribe _ (some previous), _ => { w with previous := previous }
  | .checkpointCreate _ _ _, .error .cancelled => w
  | .checkpointCreate _ _ _, .error _ =>
      { w with checkpoints := w.checkpoints.map (.refuse i) }
  | .checkConnectivity, .ok n =>
      if n ∈ [1, 2, 3] then w else { w with checkpoints := w.checkpoints.map (.verify i) }
  | .checkpointDestroy _, .ok _ => w
  | .checkpointDestroy _, .error .cancelled => w
  | .checkpointDestroy c, .error _ =>
      { w with checkpoints := w.checkpoints.map (.move c .destroying .live) }
  | _, _ => w

/-- Does the answer to task `i` tell it that its scan has failed, in a way that `except Exception`
catches? -/
def fails (rt : Runtime) (i : Tid) (e : Event Reply Exc) (w : World) : Bool :=
  (w.attempts.any fun a => a.outcome ≠ .failed true && (a.see rt i e).outcome = .failed true) ||
    match e with
    | ⟨.getAll _ _, .ok props⟩ => !(lastScanOf rt props).isOk
    | _ => false

/-- What an answer changes. -/
def apply (rt : Runtime) (i : Tid) (c : Call) (r : Except Exc (Reply c)) (w : World) : World :=
  { w.receive i c r with
    attempts := w.attempts.map (.see rt i ⟨c, r⟩)
    hidden := w.hidden || (!w.fields.scanCache.isEmpty && w.fails rt i ⟨c, r⟩) }

/-- What happens by itself: time passes, and NetworkManager handles a call. -/
inductive Tau : World → World → Prop
  | time {w : World} {clock : ℚ} : w.clock ≤ clock → Tau w { w with clock := clock }
  | handles {w : World} {e : CheckpointEvent} {checkpoints : List Checkpoint} :
      Handles w.checkpoints e checkpoints →
      Tau w { w with checkpoints := checkpoints, history := e :: w.history }

theorem issue_read {i : Tid} {c : Call} {w : World} (hc : c.isRead = true) : w.issue i c = w := by
  cases c <;> first | rfl | simp [Call.isRead] at hc

/-- The attributes of the manager change only with an answer. -/
theorem issue_fields {i : Tid} {w : World} (c : Call) : (w.issue i c).fields = w.fields := by
  cases c <;> rfl

theorem tau_fields {w w' : World} (h : Tau w w') : w'.fields = w.fields := by
  cases h with
  | time _ => rfl
  | handles _ => rfl

end World

/-- The environment of the requests to one manager -/
def manager (rt : Runtime) : Env Reply Exc World where
  yields := Call.awaited
  issue := World.issue
  answer _ := World.answer
  legal := World.legal
  apply := World.apply rt
  tau := World.Tau

end ApplianceAdmin.Network
