import ApplianceAdmin.Network.Walk

/-!
# The calls of the functions, and their cancellation

`Tidy S p` says of a program `p` that its calls satisfy `S` and that a cancellation, wherever it
comes, leads straight to the end of `p`: no handler of the manager catches `CancelledError`, and
what stands in a `finally` does not wait.  `Looking p` says besides that `p` only looks up objects
and reads their properties: it takes no lock, waits for no signal, reads no profile and changes
nothing.

* `looking`: what only looks;
* `tidy_searches`, `tidy_polls`, `tidy_records`, `tidy_signals`: what others do besides;
* `tidy_scanOn`, `tidy_finishTransaction`, `tidy_transact`: scans and transactions.
-/

namespace ApplianceAdmin.Network

open Async Async.Prog Async.Interruption Python

/-- A call that stands in a `finally` or at the end of an `async with` -/
def Call.cleans : Call → Bool
  | .release _ | .unsubscribe _ => true
  | _ => false

/-- The cancellation of a coroutine -/
def cancellation : Interruption Call Exc where
  exc := .cancelled
  waits c := c.awaited = true
  cleans c := c.cleans = true

/-- The calls of `p` satisfy `S`, and `p` ends at once when it is cancelled. -/
abbrev Tidy {α : Type} (S : Call → Prop) (p : Proc α) : Prop := cancellation.Prompt S p

/-- The lock that a call takes -/
def Call.acquires : Call → Option Lock
  | .acquire l => some l
  | _ => none

/-- The lock that a call gives back -/
def Call.releases : Call → Option Lock
  | .release l => some l
  | _ => none

/-- A call that has nothing to do with a lock -/
def Call.lockFree (c : Call) : Prop := c.acquires = none ∧ c.releases = none

/-- A call by which an object is looked up or its properties are read -/
def Call.looks : Call → Bool
  | .fields | .setBus _ | .connectBus | .introspect _ _ _ | .getAll _ _ | .nameHasOwner _
  | .getDevices | .getAllAccessPoints _ | .listConnections => true
  | _ => false

/-- A call that takes no lock, reads no profile and changes nothing at NetworkManager -/
def Call.modest : Call → Bool
  | .acquire _ | .release _ | .requestScan _ | .checkpointCreate _ _ _ | .checkpointDestroy _
  | .checkpointRollback _ | .addAndActivateConnection2 _ _ _ _ | .activateConnection _ _ _
  | .disconnect _ | .getSettings _ | .getConnectionByUuid _ | .delete _ => false
  | _ => true

theorem Call.modest_of_looks {c : Call} (hc : c.looks = true) : c.modest = true := by
  cases c <;> first | rfl | cases hc

theorem Call.lockFree_of_modest {c : Call} (hc : c.modest = true) : c.lockFree := by
  cases c <;> first | exact ⟨rfl, rfl⟩ | cases hc

theorem Call.awaited_of_unsubscribes {c : Call} (hc : c.unsubscribes = true) :
    c.awaited = false := by
  cases c <;> first | rfl | cases hc

theorem Call.looks_of_inquires {c : Call} (hc : c.inquires = true) : c.looks = true := by
  cases c <;> first | rfl | cases hc

/-- Every call of `p` is one of these. -/
abbrev Looking {α : Type} (p : Proc α) : Prop := Tidy (fun c => c.looks = true) p

section Tidy

variable {m : NetworkManager} {rt : Runtime} {α : Type} {S : Call → Prop}

theorem tidy_perform {c : Call} (hc : S c) : Tidy S (perform c : Proc (Reply c)) :=
  prompt_perform hc

theorem tidy_ask {c : Call} (hc : S c) (hwaits : c.awaited = false) :
    Tidy S (ask c : Proc (Reply c)) :=
  prompt_ask hc (by rw [show cancellation.waits c = (c.awaited = true) from rfl, hwaits]; simp)

/-- A cancellation is no `Exception`. -/
theorem tidy_composes : Composes (fun x : Exc => x.isException = true) (Tidy S) :=
  composes_prompt (I := cancellation) (by decide)

theorem tidy_searches (hlooks : ∀ c : Call, c.looks = true → S c) : Searches (Tidy S) :=
  .of_calls tidy_composes (tidy_ask (hlooks _ rfl) rfl) (tidy_ask (hlooks _ rfl) rfl)
    (tidy_perform (hlooks _ rfl)) fun c hc => tidy_perform (hlooks c (Call.looks_of_inquires hc))

/-- What only looks -/
theorem looking : Searches Looking := tidy_searches fun _ hc => hc

theorem tidy_polls (hlooks : ∀ c : Call, c.looks = true → S c)
    (hticks : ∀ c : Call, c.ticks = true → S c) (hwait : ∀ t, S (.waitEvent t)) :
    Polls (fun x => x.isException = true) (Tidy S) :=
  { (tidy_searches hlooks).toLooks with
    spin := prompt_spin
    tick := fun c hc => tidy_ask (hticks c hc) (by cases c <;> first | rfl | cases hc)
    waitEvent := fun t => tidy_perform (hwait t) }

theorem tidy_undo (checkpoint : String) (hrollback : S (.checkpointRollback checkpoint))
    (rejected : String) (exc : Exc) : Tidy S (undo checkpoint rejected exc : Proc α) :=
  undo_of_composes tidy_composes (tidy_perform hrollback) prompt_raise rejected exc

end Tidy

/-! ### Scans and transactions -/

section Modest

variable {m : NetworkManager} {rt : Runtime} {α : Type} {S : Call → Prop}
  (hmodest : ∀ c : Call, c.modest = true → S c)

include hmodest

theorem tidy_of_looking {p : Proc α} (hp : Looking p) : Tidy S p :=
  prompt_mono (fun c hc => hmodest c (Call.modest_of_looks hc)) hp

theorem modest_searches : Searches (Tidy S) :=
  tidy_searches fun c hc => hmodest c (Call.modest_of_looks hc)

theorem tidy_records : Records (fun x => x.isException = true) (Tidy S) :=
  { (modest_searches hmodest).toLooks with
    own := fun c hc => by cases c <;> first | exact tidy_ask (hmodest _ rfl) rfl | cases hc }

/-- What stands in a `finally` is no wait. -/
theorem tidy_signals : Signals (fun x => x.isException = true) (Tidy S) :=
  { tidy_polls (fun c hc => hmodest c (Call.modest_of_looks hc))
      (fun c hc => hmodest c (by cases c <;> first | rfl | cases hc)) fun _ => hmodest _ rfl with
    subscribe := fun _ _ => tidy_ask (hmodest _ rfl) rfl
    ensure := fun hp hq => prompt_ensure hp
      (prompt_of_cleans (fun c hc => by cases c <;> first | exact hmodest _ rfl | cases hc)
        (fun c hc hwaits => Bool.false_ne_true ((Call.awaited_of_unsubscribes hc).symm.trans hwaits))
        hq)
      (leads_of_cleans (fun c hc => by cases c <;> first | rfl | cases hc) hq) }

/-- What `scan` does with the device -/
theorem tidy_scanOn {device : String} (hrequest : S (.requestScan device)) :
    Tidy S (do
      let now ← ask Call.monotonic
      let self ← ask Call.fields
      if m.scanMinInterval ≤ now - self.lastScanRequest then attemptScan m rt device now
      let result ← readAccessPoints rt device
      ask (Call.setScanCache result)
      let time ← ask Call.monotonic
      ask (Call.setLastScanResult time)
      return (⟨false, result⟩ : ScanResponse) : Proc ScanResponse) :=
  (tidy_records hmodest).scanOn
    ((tidy_signals hmodest).requestScanAndWait (tidy_perform hrequest))

theorem tidy_verifyActivation (fuel : ℕ) (device activePath : String) :
    Tidy S (verifyActivation m rt fuel device activePath) :=
  (tidy_signals hmodest).verifyActivation (tidy_perform (hmodest _ rfl)) fuel device activePath

theorem tidy_finishTransaction {checkpoint : String} (hdestroy : S (.checkpointDestroy checkpoint))
    (hrollback : S (.checkpointRollback checkpoint)) (fuel : ℕ) (device activePath : String) :
    Tidy S (finishTransaction m rt fuel checkpoint device activePath) :=
  (modest_searches hmodest).finishTransaction (tidy_verifyActivation hmodest fuel device activePath)
    (tidy_perform hdestroy) (tidy_perform hrollback)

theorem tidy_transact (fuel : ℕ) {device rejected : String} {activate : Proc (α × String)}
    (hcreate : ∀ timeout flags, S (.checkpointCreate [device] timeout flags))
    (hdestroy : ∀ checkpoint, S (.checkpointDestroy checkpoint))
    (hrollback : ∀ checkpoint, S (.checkpointRollback checkpoint)) (hactivate : Tidy S activate) :
    Tidy S (transact m rt fuel device rejected activate) :=
  (modest_searches hmodest).transact (fun _ _ => tidy_perform (hcreate _ _))
    (fun _ => tidy_perform (hdestroy _)) (fun _ => tidy_perform (hrollback _))
    (tidy_verifyActivation hmodest fuel device) hactivate

end Modest

end ApplianceAdmin.Network
