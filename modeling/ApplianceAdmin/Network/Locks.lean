import ApplianceAdmin.Async.Locks
import ApplianceAdmin.Network.Connection
import ApplianceAdmin.Network.Handlers

/-!
# The locks of the manager

Any number of operations at once, each of which may be cancelled at every call that waits.  `scan`
holds the scan lock, `connect` and `activate_profile` hold the connection lock, and no operation
takes a lock while it holds one.

* `locks`: the two locks as an instance of `Async.Locks`;
* `mannered_run`: what every operation keeps of them, and how it is cancelled;
* `locks_live`: there is no deadlock, and no lock is left behind;
* `cancelled_at_once`: what a cancellation does;
* `handlers_removed`: when the operations listen to signals.
-/

namespace ApplianceAdmin.Network

open Async Async.Prog Async.Interruption Python

/-! ### The locks -/

theorem Call.eq_acquire {c : Call} {l : Lock} (h : c.acquires = some l) : c = .acquire l := by
  cases c <;> cases h
  rfl

theorem Call.eq_release {c : Call} {l : Lock} (h : c.releases = some l) : c = .release l := by
  cases c <;> cases h
  rfl

namespace World

theorem holder_setHolder (w : World) (l : Lock) (i : Option Tid) :
    (w.setHolder l i).holder = Function.update w.holder l i := by
  funext l'
  cases l <;> cases l' <;> rfl

theorem holder_issue (i : Tid) (c : Call) (w : World) : (w.issue i c).holder = w.holder := by
  funext l
  cases c <;> cases l <;> rfl

/-- Only the two calls of a lock change who holds it. -/
theorem holder_receive {i : Tid} {c : Call} (hc : c.acquires = none ∧ c.releases = none)
    (r : Except Exc (Reply c)) (w : World) : (w.receive i c r).holder = w.holder := by
  unfold receive
  split <;> try split_ifs
  all_goals first | (funext l; cases l <;> rfl) | simp [Call.acquires, Call.releases] at hc

end World

/-- The two locks of the manager -/
def locks (rt : Runtime) : Locks (manager rt) Lock where
  acquires := Call.acquires
  releases := Call.releases
  holder := World.holder
  yields h := by
    cases Call.eq_acquire h
    rfl
  legal {i c l a w} h hlegal := by
    cases Call.eq_acquire h
    exact of_decide_eq_true hlegal
  issue := World.holder_issue
  apply_acquire {i c l r w} h := by
    cases Call.eq_acquire h
    cases r with
    | ok a => exact w.holder_setHolder l (some i)
    | error e => rfl
  apply_release {i c l r w} _ h := by
    cases Call.eq_release h
    exact w.holder_setHolder l none
  apply_other {i c r w} h h' := w.holder_receive ⟨h, h'⟩ r
  tau h := by
    cases h with
    | time _ => rfl
    | handles _ => rfl

/-! ### The operations -/

/-- `p` holds one lock at a time and none when it ends, leaves the handlers as it finds them, and
ends at once when it is cancelled. -/
structure Mannered (rt : Runtime) {α : Type} (p : Proc α) : Prop where
  orderly : (locks rt).Orderly p
  tidy : Tidy (fun _ => True) p
  balanced : Balanced p

section Mannered

variable {m : NetworkManager} {rt : Runtime} {α β : Type}

theorem mannered_of_lockFree {p : Proc α} (hp : Tidy Call.lockFree p) (hbalanced : Balanced p) :
    Mannered rt p where
  orderly := Locks.orderly_of_spares (calls_of_prompt hp)
  tidy := prompt_mono (fun _ _ => trivial) hp
  balanced := hbalanced

/-- A program that takes no lock and for which no handler is needed -/
theorem mannered_of_silent {p : Proc α} (hp : Tidy (fun c => c.lockFree ∧ c.silent = true) p) :
    Mannered rt p :=
  mannered_of_lockFree (prompt_mono (fun _ hc => hc.1) hp)
    (balanced_of_silent (calls_mono (fun _ hc => hc.2) (calls_of_prompt hp)))

theorem mannered_of_looking {p : Proc α} (hp : Looking p) : Mannered rt p :=
  mannered_of_silent (prompt_mono (fun _ hc => ⟨Call.lockFree_of_modest (Call.modest_of_looks hc),
    Call.silent_of_looks hc⟩) hp)

theorem mannered_bind {p : Proc α} {f : α → Proc β} (hp : Mannered rt p)
    (hf : ∀ a, Mannered rt (f a)) : Mannered rt (p >>= f) where
  orderly := hp.orderly.bind fun a => (hf a).orderly
  tidy := prompt_bind hp.tidy fun a => (hf a).tidy
  balanced := hp.balanced.bind fun a => (hf a).balanced

theorem mannered_withLock (lock : Lock) {body : Proc α} (hbody : Tidy Call.lockFree body)
    (hbalanced : Balanced body) : Mannered rt (withLock lock body) where
  orderly := Locks.orderly_locked rfl (calls_of_prompt hbody) (Locks.wp_release rfl rfl)
  tidy := by
    refine prompt_bind (tidy_perform trivial) fun _ => ?_
    refine prompt_ensure (prompt_mono (fun _ _ => trivial) hbody) (tidy_ask trivial rfl) ?_
    exact ⟨rfl, fun _ => rfl⟩
  balanced := by
    refine (balanced_perform rfl).bind fun _ s => ?_
    refine (Monitor.wp_ensure _).2 (Monitor.wp_mono (hbalanced s) fun r s' hs => ?_)
    subst hs
    refine (Monitor.wp_ask _).2 ⟨trivial, ?_⟩
    rintro u s ⟨-, rfl⟩
    rfl

theorem mannered_scan (params : Dict) : Mannered rt (scan m rt params) := by
  unfold scan
  dsimp only
  split
  · exact mannered_of_silent (prompt_raise _)
  refine mannered_bind (mannered_of_silent (tidy_ask ⟨⟨rfl, rfl⟩, rfl⟩ rfl)) fun now => ?_
  refine mannered_bind (mannered_of_silent (tidy_ask ⟨⟨rfl, rfl⟩, rfl⟩ rfl)) fun self => ?_
  split
  · exact mannered_of_silent (prompt_pure _)
  · refine mannered_withLock .scan ?_ balanced_lockedScan
    have hmodest (c : Call) : c.modest = true → c.lockFree := Call.lockFree_of_modest
    refine prompt_bind (tidy_of_looking hmodest (looking.wifiDevice true)) fun device => ?_
    exact tidy_scanOn hmodest ⟨rfl, rfl⟩

theorem mannered_connect (fuel : ℕ) (uuid : String) (params : Dict) :
    Mannered rt (connect m rt fuel uuid params) := by
  refine mannered_bind (mannered_of_silent (prompt_lift _)) fun request => ?_
  refine mannered_withLock .connection ?_ ?_
  · have hmodest (c : Call) : c.modest = true → c.lockFree := Call.lockFree_of_modest
    refine prompt_bind (tidy_of_looking hmodest (looking.wifiDevice true)) fun device => ?_
    refine prompt_bind ?_ fun result => prompt_pure _
    exact tidy_transact hmodest fuel (fun _ _ => ⟨rfl, rfl⟩) (fun _ => ⟨rfl, rfl⟩)
      (fun _ => ⟨rfl, rfl⟩) (tidy_perform ⟨rfl, rfl⟩)
  · refine (balanced.wifiDevice true).bind fun device => ?_
    exact (balanced_transact fuel device _ (balanced_perform rfl)).bind fun _ => balanced_pure _

theorem mannered_activateProfile (fuel : ℕ) (params : Dict) :
    Mannered rt (activateProfile m rt fuel params) := by
  refine mannered_bind (mannered_of_silent (prompt_lift _)) fun profileUuid => ?_
  refine mannered_withLock .connection ?_ ?_
  · have hmodest (c : Call) : c.modest = true → c.lockFree := Call.lockFree_of_modest
    refine prompt_bind (tidy_of_looking hmodest (looking.wifiDevice true)) fun device => ?_
    refine prompt_bind (tidy_of_looking hmodest looking.settingsInterface) fun _ => ?_
    refine prompt_bind (composes_replace tidy_composes (tidy_perform ⟨rfl, rfl⟩) rfl) fun connectionPath => ?_
    refine prompt_bind (tidy_of_looking hmodest (looking.interfaces _ _)) fun _ => ?_
    refine prompt_bind (tidy_perform ⟨rfl, rfl⟩) fun settings => ?_
    dsimp only
    split
    · exact prompt_raise _
    · refine prompt_bind ?_ fun result => prompt_pure _
      refine tidy_transact hmodest fuel (fun _ _ => ⟨rfl, rfl⟩) (fun _ => ⟨rfl, rfl⟩)
        (fun _ => ⟨rfl, rfl⟩) ?_
      exact prompt_bind (tidy_perform ⟨rfl, rfl⟩) fun activePath => prompt_pure _
  · refine (balanced.wifiDevice true).bind fun device => ?_
    refine (balanced.settingsInterface).bind fun _ => ?_
    refine Balanced.bind ?_ fun connectionPath => ?_
    · refine (balanced_perform rfl).tryCatch fun exc => ?_
      split
      · exact balanced_raise _
      · exact balanced_raise exc
    refine (balanced.interfaces _ _).bind fun _ => ?_
    refine (balanced_perform rfl).bind fun settings => ?_
    dsimp only
    split
    · exact balanced_raise _
    · refine (balanced_transact fuel device _ ?_).bind fun result => balanced_pure _
      exact (balanced_perform rfl).bind fun activePath => balanced_pure _

/-- **Every operation takes a lock only while it holds none and gives it back however it ends, takes
away the handlers that it has set up, and ends at once when it is cancelled.** -/
theorem mannered_run (fuel : ℕ) (op : Operation) : Mannered rt (op.run m rt fuel) := by
  have hlooks (c : Call) (hc : c.looks = true) : c.lockFree ∧ c.silent = true :=
    ⟨Call.lockFree_of_modest (Call.modest_of_looks hc), Call.silent_of_looks hc⟩
  have hend : Mannered rt (pure () : Proc Unit) := mannered_of_silent (prompt_pure ())
  cases op with
  | start => exact mannered_of_looking looking.start
  | readiness => exact mannered_bind (mannered_of_looking looking.readiness) fun _ => hend
  | status params => exact mannered_bind (mannered_of_looking (looking.status params)) fun _ => hend
  | scan params => exact mannered_bind (mannered_scan params) fun _ => hend
  | connect uuid params => exact mannered_bind (mannered_connect fuel uuid params) fun _ => hend
  | disconnect params =>
    refine mannered_bind (mannered_of_silent ?_) fun _ => hend
    exact (tidy_searches hlooks).disconnect (fun _ => tidy_perform ⟨⟨rfl, rfl⟩, rfl⟩) params
  | profiles params =>
    refine mannered_bind (mannered_of_silent ?_) fun _ => hend
    exact (tidy_searches hlooks).profiles (fun _ => tidy_perform ⟨⟨rfl, rfl⟩, rfl⟩) params
  | activateProfile params => exact mannered_bind (mannered_activateProfile fuel params) fun _ => hend
  | deleteProfile params =>
    refine mannered_bind (mannered_of_silent ?_) fun _ => hend
    exact (tidy_searches hlooks).deleteProfile (fun _ => tidy_perform ⟨⟨rfl, rfl⟩, rfl⟩)
      (fun _ => tidy_perform ⟨⟨rfl, rfl⟩, rfl⟩) params

end Mannered

/-! ### The manager -/

section Reach

variable {m : NetworkManager} {rt : Runtime} {clock : ℚ}

theorem orderly_of_isOperation {p : Proc Unit} (hp : IsOperation m rt p) : (locks rt).Orderly p := by
  obtain ⟨fuel, op, rfl⟩ := hp
  exact (mannered_run fuel op).orderly

/-- **There is no deadlock, and no lock is left behind**: at every moment the holder of a lock is
an operation in progress that waits for no lock, so that both locks are free when none is in
progress. -/
theorem locks_live {a : Config Reply Exc Unit World}
    (h : (manager rt).Reach (IsOperation m rt) (.init clock) a) {l : Lock} {i : Tid}
    (hl : a.world.holder l = some i) :
    i < a.tasks.length ∧ a.result i = none ∧ ¬(locks rt).Blocked a i := by
  have hnew : ∀ p, IsOperation m rt p → (locks rt).Orderly p := fun p => orderly_of_isOperation
  have hfree : ∀ l, (World.init clock).holder l = none := fun l => by cases l <;> rfl
  obtain ⟨c, k, htask, -⟩ := Locks.holder_running (K := locks rt) hnew hfree h hl
  exact ⟨(List.getElem?_eq_some_iff.1 htask).1,
    Locks.holder_not_blocked (K := locks rt) hnew hfree h hl⟩

end Reach

/-! ### A run -/

/-- A request to connect to the network `home` -/
def connectOnce : Proc Unit :=
  (Operation.connect "uuid" [("ssid", .str "home")]).run .default .ascii 1

theorem isOperation_connectOnce : IsOperation .default .ascii connectOnce :=
  ⟨1, .connect "uuid" [("ssid", .str "home")], rfl⟩

/-- Two requests to connect, of which the first one has been given the lock -/
def contendedMoves : List ((manager .ascii).traced.Move Unit) :=
  [.spawn connectOnce, .resume 0 fun c => .ok (quiet c), .spawn connectOnce]

def contendedRun : Option (Config Reply Exc Unit (World × (Tid → List (Event Reply Exc)))) :=
  (manager .ascii).traced.play contendedMoves ⟨(.init 0, fun _ => []), []⟩

theorem isSome_contendedRun : contendedRun.isSome = true := rfl

/-- The first request is opening the bus, and the second one waits for the lock. -/
def contended : Config Reply Exc Unit (World × (Tid → List (Event Reply Exc))) :=
  contendedRun.get isSome_contendedRun

theorem reach_contended : (manager .ascii).traced.Reach (IsOperation .default .ascii)
    (.init 0, fun _ => []) contended := by
  refine Env.reach_of_play _ contendedMoves (fun p hp => ?_) .init
    (Option.some_get isSome_contendedRun).symm
  obtain rfl : p = connectOnce := by simpa [contendedMoves, Env.spawns] using hp
  exact isOperation_connectOnce

/-- While the second request is blocked, the first one is not. -/
theorem contended_locks_live :
    (locks .ascii).Blocked ⟨contended.world.1, contended.tasks⟩ 1 ∧
      0 < contended.tasks.length ∧
      Config.result ⟨contended.world.1, contended.tasks⟩ 0 = none ∧
      ¬(locks .ascii).Blocked ⟨contended.world.1, contended.tasks⟩ 0 :=
  ⟨⟨.acquire .connection, _, .connection, 0, rfl, rfl, rfl⟩,
    locks_live ((manager .ascii).reach_of_traced reach_contended) (l := .connection) rfl⟩

/-! ### Cancellation -/

section Cancellation

variable {m : NetworkManager} {rt : Runtime} {clock : ℚ}

/-- A cancellation changes no attribute and no checkpoint. -/
theorem World.apply_cancelled {i : Tid} {c : Call} (hc : c.awaited = true) (w : World) :
    (w.apply rt i c (.error .cancelled)).fields = w.fields ∧
      (w.apply rt i c (.error .cancelled)).checkpoints = w.checkpoints := by
  cases c <;> first | exact ⟨rfl, rfl⟩ | cases hc

/-- Neither does what stands in a `finally`. -/
theorem World.apply_cleans {i : Tid} {c : Call} (hc : c.cleans = true) (a : Reply c) (w : World) :
    ((w.issue i c).apply rt i c (.ok a)).fields = w.fields ∧
      ((w.issue i c).apply rt i c (.ok a)).checkpoints = w.checkpoints := by
  cases c with
  | release l => cases l <;> exact ⟨rfl, rfl⟩
  | unsubscribe path => exact ⟨rfl, rfl⟩
  | _ => cases hc

theorem interrupts_manager (rt : Runtime) : cancellation.Interrupts (manager rt) where
  waits _ h := h
  legal i c w := by cases c <;> rfl
  cleans i c w h := by
    cases c <;> first | exact ⟨rfl, (), rfl⟩ | cases h

/-- What task `i` leaves when it is cancelled at the call `c` -/
structure Cancelled (i : Tid) (c : Call) (w w' : World × (Tid → List (Event Reply Exc))) : Prop where
  /-- It makes no call any more but those that clean up. -/
  trace : ∃ tr, (∀ e ∈ tr, e.call.cleans = true) ∧
    w'.2 = Function.update w.2 i (w.2 i ++ ⟨c, .error .cancelled⟩ :: tr)
  fields : w'.1.fields = w.1.fields
  checkpoints : w'.1.checkpoints = w.1.checkpoints
  holder : ∀ l, w'.1.holder l = if w.1.holder l = some i then none else w.1.holder l

/-- **A cancelled operation ends at once**, wherever it is: it gives back its lock, makes no other
call, and leaves the attributes of the manager, its checkpoint and the other operations alone. -/
theorem cancelled_at_once {a : Config Reply Exc Unit (World × (Tid → List (Event Reply Exc)))}
    (h : (manager rt).traced.Reach (IsOperation m rt) (.init clock, fun _ => []) a) {i : Tid}
    {c : Call} {k : Except Exc (Reply c) → Proc Unit} (hi : a.tasks[i]? = some (.call c k)) :
    ∃ w, (manager rt).traced.playOne a (.resume i fun _ => .error .cancelled) =
        some ⟨w, a.tasks.set i (.done (.error .cancelled))⟩ ∧ Cancelled i c a.world w := by
  have hE := (interrupts_manager rt).traced
  let P : World × (Tid → List (Event Reply Exc)) → Prop := fun w =>
    (∃ tr, (∀ e ∈ tr, e.call.cleans = true) ∧
      w.2 = Function.update a.world.2 i (a.world.2 i ++ ⟨c, .error .cancelled⟩ :: tr)) ∧
    w.1.fields = a.world.1.fields ∧ w.1.checkpoints = a.world.1.checkpoints
  have hnew : ∀ p, IsOperation m rt p → Tidy (fun _ => True) p := by
    rintro p ⟨fuel, op, rfl⟩
    exact (mannered_run fuel op).tidy
  have hstart (hc : c.awaited = true) :
      P ((manager rt).traced.apply i c (.error .cancelled) a.world) :=
    ⟨⟨[], fun e he => absurd he List.not_mem_nil, rfl⟩, World.apply_cancelled hc a.world.1⟩
  have hcleans (c' a' w) (hc : cancellation.cleans c') :
      P w → P ((manager rt).traced.apply i c' (.ok a') ((manager rt).traced.issue i c' w)) := by
    rintro ⟨⟨tr, htr, hw⟩, hfields, hcheckpoints⟩
    obtain ⟨hfields', hcheckpoints'⟩ := @World.apply_cleans rt i _ hc a' w.1
    refine ⟨⟨tr ++ [⟨c', .ok a'⟩], ?_, ?_⟩, hfields'.trans hfields,
      hcheckpoints'.trans hcheckpoints⟩
    · exact List.forall_mem_append.2 ⟨htr, fun e he => List.mem_singleton.1 he ▸ hc⟩
    · show Function.update w.2 i (w.2 i ++ [⟨c', .ok a'⟩]) = _
      rw [hw, Function.update_self, Function.update_idem, List.append_assoc, List.cons_append]
  obtain ⟨w, hset, htrace, hfields, hcheckpoints⟩ := exists_settle hE hnew h hi hstart hcleans
  refine ⟨w, ?_, htrace, hfields, hcheckpoints, fun l => ?_⟩
  · have hlegal : (manager rt).traced.legal i c (.error .cancelled) a.world = true :=
      hE.legal i c a.world
    simp only [Env.playOne, hi, if_pos hlegal]
    exact congrArg (Option.map _) hset
  · exact Locks.holder_of_ended (K := locks rt) (fun p => orderly_of_isOperation)
      (fun l => by cases l <;> rfl) ((manager rt).reach_of_traced h) hi
      ((interrupts_manager rt).legal i c a.world.1) ((manager rt).settle_of_traced hset) l

end Cancellation

/-- The first request is cancelled while it opens the bus, and gives the lock back. -/
theorem contended_cancelled : ∃ w,
    (manager .ascii).traced.playOne contended (.resume 0 fun _ => .error .cancelled) =
        some ⟨w, contended.tasks.set 0 (.done (.error .cancelled))⟩ ∧
      Cancelled 0 .connectBus contended.world w ∧ w.1.holder .connection = none := by
  obtain ⟨w, hplay, hcancelled⟩ := cancelled_at_once reach_contended (c := .connectBus) (i := 0) rfl
  exact ⟨w, hplay, hcancelled, hcancelled.holder .connection⟩

/-! ### Signal handlers -/

/-- The objects to which a coroutine listens after the answered calls `tr` -/
def handlers (tr : List (Event Reply Exc)) : List String := tr.foldl listen []

/-- After the answered calls `tr` a coroutine has come to `p`. -/
structure Listens (tr : List (Event Reply Exc)) (p : Proc Unit) : Prop where
  heard : ∀ {before after e}, tr = before ++ e :: after → e.call.heard (handlers before)
  waiting : ∀ {c k}, p = .call c k → c.heard (handlers tr)
  ended : ∀ {r}, p = .done r → handlers tr = []

theorem listens_of_path {p q : Proc Unit} (hp : Balanced p) {tr : List (Event Reply Exc)}
    (h : Path p tr q) : Listens tr q := by
  have htrail (tr) : listening.Trail [] tr (handlers tr) := Monitor.trail_ofFold [] tr
  refine ⟨fun {before after e} htr => ?_, fun {c k} hq => ?_, fun {r} hq => ?_⟩
  · subst htr
    obtain ⟨k, hbefore⟩ := h.at_event
    exact Monitor.wp_pre hbefore (htrail before) (hp [])
  · subst hq
    exact Monitor.wp_pre h (htrail tr) (hp [])
  · subst hq
    exact Monitor.wp_outcome h (htrail tr) (hp [])

/-- **A coroutine listens to an object before it asks it for a scan and whenever it waits for a
signal, and when it ends, in whatever way, it has taken its handlers away.** -/
theorem handlers_removed {m : NetworkManager} {rt : Runtime} {clock : ℚ}
    {a : Config Reply Exc Unit (World × (Tid → List (Event Reply Exc)))}
    (h : (manager rt).traced.Reach (IsOperation m rt) (.init clock, fun _ => []) a) {i : Tid}
    {p : Proc Unit} (hp : a.tasks[i]? = some p) : Listens (a.world.2 i) p := by
  obtain ⟨p₀, ⟨fuel, op, rfl⟩, hpath⟩ := ((manager rt).reach_path h).1 i p hp
  exact listens_of_path (mannered_run fuel op).balanced hpath

/-- A request for a scan -/
def scanOnce : Proc Unit := (Operation.scan []).run .default .ascii 1

/-- A scan that waits for its signal -/
def awaitingMoves : List ((manager .ascii).traced.Move Unit) :=
  .spawn scanOnce :: List.replicate 12 (.resume 0 fun c => .ok (quiet c))

def awaitingRun : Option (Config Reply Exc Unit (World × (Tid → List (Event Reply Exc)))) :=
  (manager .ascii).traced.play awaitingMoves ⟨(.init 100, fun _ => []), []⟩

theorem isSome_awaitingRun : awaitingRun.isSome = true := by decide +kernel

theorem reach_awaitingRun : (manager .ascii).traced.Reach (IsOperation .default .ascii)
    (.init 100, fun _ => []) (awaitingRun.get isSome_awaitingRun) := by
  refine Env.reach_of_play _ awaitingMoves (fun p hp => ?_) .init
    (Option.some_get isSome_awaitingRun).symm
  obtain rfl : p = scanOnce := by simpa [awaitingMoves, Env.spawns, List.replicate] using hp
  exact ⟨1, .scan [], rfl⟩

/-- The scan listens to its device. -/
theorem awaiting_handlers :
    handlers ((awaitingRun.get isSome_awaitingRun).world.2 0) = ["/device/wifi"] ∧
      ∃ p, (awaitingRun.get isSome_awaitingRun).tasks[0]? = some p ∧
        Listens ((awaitingRun.get isSome_awaitingRun).world.2 0) p := by
  have htask := List.getElem?_eq_getElem (l := (awaitingRun.get isSome_awaitingRun).tasks) (i := 0)
    (by decide +kernel)
  exact ⟨by decide +kernel, _, htask, handlers_removed reach_awaitingRun htask⟩

end ApplianceAdmin.Network
