import ApplianceAdmin.Network.Walk

/-!
# Where the bus is opened

Every operation of the manager opens the bus inside `start` and nowhere else.  `Connecting p` says
so of a program `p`: it is put together from `start` and from calls that neither open the bus nor
set `self.bus`.

* `connecting`, `connecting_signals`, `connecting_records`: the clauses for `Connecting`;
* `Operation`: the public coroutines of the manager, and `connecting_run` for all of them.
-/

namespace ApplianceAdmin.Network

open Async Async.Prog Python

/-- A call that neither opens the bus nor sets `self.bus` -/
def Call.sparesBus : Call → Bool
  | .connectBus | .setBus _ => false
  | _ => true

/-- `p` opens the bus only in `start`. -/
abbrev Connecting {α : Type} (p : Proc α) : Prop :=
  Built (fun c : Call => c.sparesBus = true) start p

section Connecting

variable {m : NetworkManager} {rt : Runtime} {α : Type}

/-- What only looks opens the bus in `start`. -/
theorem connecting : Searches Connecting :=
  .of_start composes_built .sub fun c hc =>
    built_perform (by cases c <;> first | rfl | cases hc)

theorem connecting_records : Records (fun x => x.isException = true) Connecting :=
  { connecting.toLooks with
    own := fun c hc => built_ask (by cases c <;> first | rfl | cases hc) }

theorem connecting_signals : Signals (fun x => x.isException = true) Connecting :=
  { connecting.toLooks with
    spin := .spin
    tick := fun c hc => built_ask (by cases c <;> first | rfl | cases hc)
    waitEvent := fun _ => built_perform rfl
    subscribe := fun _ _ => built_ask rfl
    ensure := fun hp hq => .ensure hp
      (built_of_cleans (fun c hc => by cases c <;> first | rfl | cases hc) hq) }

theorem connecting_withLock {body : Proc α} (lock : Lock) (hbody : Connecting body) :
    Connecting (withLock lock body) :=
  .bind (built_perform rfl) fun _ => .ensure hbody (built_ask rfl)

theorem connecting_scan (params : Dict) : Connecting (scan m rt params) := by
  refine connecting_records.scan (connecting_withLock .scan ?_) params
  exact connecting_records.lockedScan (connecting.wifiDevice true) fun _ =>
    connecting_signals.requestScanAndWait (built_perform rfl)

theorem connecting_transact (fuel : ℕ) (device rejected : String) {activate : Proc (α × String)}
    (hactivate : Connecting activate) :
    Connecting (transact m rt fuel device rejected activate) :=
  connecting.transact (fun _ _ => built_perform rfl) (fun _ => built_perform rfl)
    (fun _ => built_perform rfl)
    (fun _ => connecting_signals.verifyActivation (built_perform rfl) fuel device _) hactivate

theorem connecting_connect (fuel : ℕ) (uuid : String) (params : Dict) :
    Connecting (connect m rt fuel uuid params) := by
  refine .bind (.done _) fun request => connecting_withLock .connection ?_
  refine .bind (connecting.wifiDevice true) fun device => ?_
  exact .bind (connecting_transact fuel device _ (built_perform rfl)) fun _ => .done _

theorem connecting_activateProfile (fuel : ℕ) (params : Dict) :
    Connecting (activateProfile m rt fuel params) := by
  refine .bind (.done _) fun profileUuid => connecting_withLock .connection ?_
  refine .bind (connecting.wifiDevice true) fun device => ?_
  refine .bind connecting.settingsInterface fun _ => ?_
  refine .bind (composes_replace connecting.toComposes (built_perform rfl) rfl) fun connectionPath => ?_
  refine .bind (connecting.interfaces connectionPath _) fun _ => ?_
  refine .bind (built_perform rfl) fun settings => ?_
  dsimp only
  split
  · exact .done _
  · refine .bind (connecting_transact fuel device _ ?_) fun _ => .done _
    exact .bind (built_perform rfl) fun _ => .done _

end Connecting

/-! ### The operations of the manager -/

/-- A public coroutine of the manager, with the arguments of the call; `uuid` is what `uuid4()`
returns. -/
inductive Operation
  | start
  | readiness
  | status (params : Dict)
  | scan (params : Dict)
  | connect (uuid : String) (params : Dict)
  | disconnect (params : Dict)
  | profiles (params : Dict)
  | activateProfile (params : Dict)
  | deleteProfile (params : Dict)

/-- The coroutine, whose result is left out -/
def Operation.run (m : NetworkManager) (rt : Runtime) (fuel : ℕ) : Operation → Proc Unit
  | .start => Network.start
  | .readiness => do
      let _ ← Network.readiness m rt
      return ()
  | .status params => do
      let _ ← Network.status m rt params
      return ()
  | .scan params => do
      let _ ← Network.scan m rt params
      return ()
  | .connect uuid params => do
      let _ ← Network.connect m rt fuel uuid params
      return ()
  | .disconnect params => do
      let _ ← Network.disconnect m rt params
      return ()
  | .profiles params => do
      let _ ← Network.profiles m rt params
      return ()
  | .activateProfile params => do
      let _ ← Network.activateProfile m rt fuel params
      return ()
  | .deleteProfile params => do
      let _ ← Network.deleteProfile rt params
      return ()

/-- **Every operation opens the bus only in `start`.** -/
theorem connecting_run (m : NetworkManager) (rt : Runtime) (fuel : ℕ) (op : Operation) :
    Connecting (op.run m rt fuel) := by
  cases op with
  | start => exact .sub
  | readiness => exact .bind connecting.readiness fun _ => .done _
  | status params => exact .bind (connecting.status params) fun _ => .done _
  | scan params => exact .bind (connecting_scan params) fun _ => .done _
  | connect uuid params => exact .bind (connecting_connect fuel uuid params) fun _ => .done _
  | disconnect params =>
    exact .bind (connecting.disconnect (fun _ => built_perform rfl) params) fun _ => .done _
  | profiles params =>
    exact .bind (connecting.profiles (fun _ => built_perform rfl) params) fun _ => .done _
  | activateProfile params =>
    exact .bind (connecting_activateProfile fuel params) fun _ => .done _
  | deleteProfile params =>
    exact .bind (connecting.deleteProfile (fun _ => built_perform rfl)
      (fun _ => built_perform rfl) params) fun _ => .done _

end ApplianceAdmin.Network
