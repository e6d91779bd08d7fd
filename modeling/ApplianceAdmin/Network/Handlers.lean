import ApplianceAdmin.Async.Monitor
import ApplianceAdmin.Network.Looking

/-!
# Signal handlers

`_request_scan_and_wait` and `_verify_activation` listen to the signals of an object while they
wait for a change.  `listen` is the list of the objects to which a coroutine listens.

* `listening`: a handler is taken away only when it is there, and no scan is requested and no signal
  is waited for without one;
* `Balanced p`: `p` keeps to this and leaves the handlers as it finds them;
* `balanced_requestScanAndWait`, `balanced_verifyActivation`: so do the two that listen, and hence
  all the others.
-/

namespace ApplianceAdmin.Network

open Async Async.Prog Async.Interruption Async.Monitor Python

/-! ### The record of the handlers -/

/-- The objects to whose signals a coroutine listens, the latest first -/
def listen (s : List String) (e : Event Reply Exc) : List String :=
  match e.call with
  | .subscribe path _ => path :: s
  | .unsubscribe path => s.erase path
  | _ => s

/-- What a call asks of the handlers -/
def Call.heard (s : List String) : Call → Prop
  | .unsubscribe path => path ∈ s
  | .requestScan device => device ∈ s
  | .waitEvent _ => s ≠ []
  | _ => True

/-- The monitor of the handlers -/
def listening : Monitor Reply Exc (List String) :=
  .ofFold (fun s c => c.heard s) (fun _ _ => True) listen

/-- A call that leaves the handlers as they are -/
def Call.steady : Call → Bool
  | .subscribe _ _ | .unsubscribe _ => false
  | _ => true

/-- A call for which no handler is needed -/
def Call.silent : Call → Bool
  | .subscribe _ _ | .unsubscribe _ | .requestScan _ | .waitEvent _ => false
  | _ => true

theorem Call.silent_of_looks {c : Call} (hc : c.looks = true) : c.silent = true := by
  cases c <;> first | rfl | cases hc

theorem Call.heard_of_silent {c : Call} (hc : c.silent = true) (s : List String) :
    c.steady = true ∧ c.heard s := by
  cases c <;> first | exact ⟨rfl, trivial⟩ | cases hc

theorem listen_steady {c : Call} (hc : c.steady = true) (r : Except Exc (Reply c))
    (s : List String) : listen s ⟨c, r⟩ = s := by
  cases c <;> first | rfl | cases hc

theorem erase_second (a b : String) (s : List String) : (a :: b :: s).erase b = a :: s := by
  by_cases h : a = b
  · rw [h, List.erase_cons_head]
  · rw [List.erase_cons_tail (by simpa using h), List.erase_cons_head]

section Rules

variable {α β : Type} {s : List String}

theorem wp_of_heard {p : Proc α} (hp : Calls (fun c => c.steady = true ∧ c.heard s) p) :
    listening.wp p (fun _ s' => s' = s) s := by
  refine wp_of_calls (P := fun s' => s' = s) ?_ ?_ hp rfl
  · rintro s' c ⟨-, hheard⟩ rfl
    exact hheard
  · rintro s' c r s'' ⟨hsteady, -⟩ rfl ⟨-, rfl⟩
    exact listen_steady hsteady r s'

/-- `p` leaves the handlers as it finds them. -/
def Balanced (p : Proc α) : Prop := ∀ s, listening.wp p (fun _ s' => s' = s) s

theorem balanced_of_silent {p : Proc α} (hp : Calls (fun c => c.silent = true) p) : Balanced p :=
  fun s => wp_of_heard (calls_mono (fun _ hc => Call.heard_of_silent hc s) hp)

theorem Balanced.bind {p : Proc α} {f : α → Proc β} (hp : Balanced p)
    (hf : ∀ a, Balanced (f a)) : Balanced (p >>= f) := by
  refine fun s => (wp_bind _).2 (wp_mono (hp s) fun r s' hs => ?_)
  subst hs
  cases r with
  | ok a => exact hf a _
  | error e => rfl

theorem Balanced.tryCatch {p : Proc α} {h : Exc → Proc α} (hp : Balanced p)
    (hh : ∀ e, Balanced (h e)) : Balanced (p.tryCatch h) := by
  refine fun s => (wp_tryCatch _).2 (wp_mono (hp s) fun r s' hs => ?_)
  subst hs
  cases r with
  | ok a => rfl
  | error e => exact hh e _

end Rules

/-! ### Scans and transactions -/

section Balanced

variable {m : NetworkManager} {rt : Runtime} {α : Type}

theorem balanced_pure (a : α) : Balanced (pure a : Proc α) := balanced_of_silent trivial

theorem balanced_raise (e : Exc) : Balanced (raise e : Proc α) := balanced_of_silent trivial

theorem balanced_perform {c : Call} (hc : c.silent = true) :
    Balanced (perform c : Proc (Reply c)) :=
  balanced_of_silent ((calls_perform c).2 hc)

theorem balanced_ask {c : Call} (hc : c.silent = true) : Balanced (ask c : Proc (Reply c)) :=
  balanced_of_silent ((calls_ask c).2 hc)

theorem balanced_composes {E : Exc → Prop} : Composes E Balanced where
  lift _ := balanced_of_silent trivial
  bind hp hf := hp.bind hf
  tryCatch hp hh hpass := hp.tryCatch fun e => by
    by_cases hcaught : E e
    · exact hh e hcaught
    · rw [hpass e hcaught]
      exact balanced_raise e

theorem balanced : Searches Balanced :=
  .of_calls balanced_composes (balanced_ask rfl) (balanced_ask rfl) (balanced_perform rfl)
    fun _ hc => balanced_perform (Call.silent_of_looks (Call.looks_of_inquires hc))

theorem balanced_records : Records (fun x => x.isException = true) Balanced :=
  { balanced.toLooks with
    own := fun c hc => by cases c <;> first | exact balanced_ask rfl | cases hc }

/-- The wait of a scan, for a list of handlers with the one of its device -/
theorem wp_wait {device : String} {s : List String} (hs : device ∈ s) (previous : ℤ) :
    listening.wp ((do
      perform (Call.requestScan device)
      perform (Call.waitEvent (min 8 m.activationTimeout)) : Proc Unit).tryCatch fun exc =>
        if exc.isTimeout then recheckScan rt device previous else raise exc)
      (fun _ s' => s' = s) s := by
  refine wp_of_heard (calls_tryCatch ?_ fun exc => ?_)
  · exact calls_seq ⟨rfl, hs⟩ fun _ => (calls_perform _).2 ⟨rfl, List.ne_nil_of_mem hs⟩
  · split
    · exact calls_mono (fun c hc => Call.heard_of_silent (Call.silent_of_looks hc) s)
        (calls_of_prompt (looking.recheckScan device previous))
    · exact calls_raise exc

theorem balanced_requestScanAndWait (device : String) :
    Balanced (requestScanAndWait m rt device) := by
  refine (balanced.interfaces _ _).bind fun _ => (balanced.lastScan device).bind fun previous s => ?_
  refine wp_ask_bind _ trivial ?_
  rintro a s' ⟨-, rfl⟩
  refine (wp_ensure _).2 (wp_mono (wp_wait List.mem_cons_self previous) fun r s' hs => ?_)
  subst hs
  refine (wp_ask _).2 ⟨List.mem_cons_self, ?_⟩
  rintro a s' ⟨-, rfl⟩
  show (device :: s).erase device = s
  rw [List.erase_cons_head]

theorem balanced_lockedScan : Balanced (lockedScan m rt) :=
  balanced_records.lockedScan (balanced.wifiDevice true) balanced_requestScanAndWait

/-- Both handlers are taken away, also when the two objects are the same. -/
theorem balanced_verifyActivation (fuel : ℕ) (device activePath : String) :
    Balanced (verifyActivation m rt fuel device activePath) := by
  refine (balanced_ask rfl).bind fun time => ?_
  refine (balanced.interfaces _ _).bind fun _ => (balanced.interfaces _ _).bind fun _ s => ?_
  refine wp_ask_bind _ trivial ?_
  rintro a s' ⟨-, rfl⟩
  refine wp_ask_bind _ trivial ?_
  rintro a s' ⟨-, rfl⟩
  have hpolls : Polls (fun x => x.isException = true)
      (Tidy fun c => c.steady = true ∧ c.heard (activePath :: device :: s)) :=
    tidy_polls (fun c hc => Call.heard_of_silent (Call.silent_of_looks hc) _)
      (fun c hc => by cases c <;> first | exact ⟨rfl, trivial⟩ | cases hc)
      fun _ => ⟨rfl, List.cons_ne_nil _ _⟩
  have hpoll : Tidy _ (pollActivation rt device activePath (time + m.activationTimeout) fuel 0 .none) :=
    hpolls.pollActivation (tidy_perform ⟨rfl, trivial⟩) _ _ _ _ _ _
  refine (wp_bind _).2 ((wp_ensure _).2 (wp_mono (wp_of_heard (calls_of_prompt hpoll))
    fun r s' hs => ?_))
  subst hs
  refine wp_ask_bind _ (List.mem_cons_of_mem _ List.mem_cons_self) ?_
  rintro a s' ⟨-, rfl⟩
  show listening.wp _ _ ((activePath :: device :: s).erase device)
  rw [erase_second]
  refine (wp_ask _).2 ⟨List.mem_cons_self, ?_⟩
  rintro a s' ⟨-, rfl⟩
  show listening.andThen _ _ r ((activePath :: s).erase activePath)
  rw [List.erase_cons_head]
  cases r with
  | error exc => rfl
  | ok outcome =>
    cases outcome with
    | inl details => rfl
    | inr seen => rfl

theorem balanced_transact (fuel : ℕ) (device rejected : String) {activate : Proc (α × String)}
    (hactivate : Balanced activate) :
    Balanced (transact m rt fuel device rejected activate) :=
  balanced.transact (fun _ _ => balanced_perform rfl) (fun _ => balanced_perform rfl)
    (fun _ => balanced_perform rfl) (balanced_verifyActivation fuel device) hactivate

end Balanced

end ApplianceAdmin.Network
