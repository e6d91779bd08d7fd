import ApplianceAdmin.Network.Requests

/-!
# Disconnecting and deleting beside a transaction

`disconnect` and `delete_profile` do not take the connection lock, so that their calls may reach
NetworkManager while the checkpoint of another request can still be rolled back.

* `Change`, `watched`: the world with a record of the `Disconnect` and `Delete` calls;
* `NetworkRequest`: the requests that change something;
* `overlapping`: the discipline of `Requests`, with these calls made at any time;
* `changes_kept`: a change that was made while the lock was free is outside every transaction;
* `disconnect_undone`: a change that is answered as accepted and then undone.
-/

namespace ApplianceAdmin.Network

open Async Async.Prog Async.Monitor Python

/-! ### The record of changes -/

/-- A call that changes the connections without a checkpoint -/
def Call.changes : Call → Bool
  | .disconnect _ | .delete _ => true
  | _ => false

/-- Such a call, with what the world was like when it was made -/
structure Change where
  owner : Tid
  /-- Was the connection lock free? -/
  free : Bool
  /-- Was there a checkpoint without a decision? -/
  exposed : Bool
  /-- Has the call returned? -/
  accepted : Bool
  deriving DecidableEq

def Change.accept (i : Tid) (change : Change) : Change :=
  if change.owner = i then { change with accepted := true } else change

/-- Is there a checkpoint between its creation and the decision about it? -/
def World.exposed (w : World) : Bool :=
  w.checkpoints.any fun k => k.phase = .asked || k.phase = .live || k.phase = .destroying

/-- The world with its changes, the latest first -/
structure Watched where
  world : World
  changes : List Change

/-- The manager while nothing goes wrong between a checkpoint and the decision about it, and with
the changes written down -/
def watched (rt : Runtime) : Env Reply Exc Watched where
  yields := Call.awaited
  issue i c w := ⟨w.world.issue i c,
    if c.changes then ⟨i, w.world.connectionLock = none, w.world.exposed, false⟩ :: w.changes
    else w.changes⟩
  answer _ c w := w.world.answer c
  legal i c r w := (guarded rt).legal i c r w.world
  apply i c r w := ⟨w.world.apply rt i c r,
    if c.changes && r.isOk then w.changes.map (.accept i) else w.changes⟩
  tau w w' := World.Tau w.world w'.world ∧ w'.changes = w.changes

/-- Every change that was made while the lock was free is outside every transaction. -/
def Outside (changes : List Change) : Prop :=
  ∀ change ∈ changes, change.free = true → change.exposed = false

section Record

variable {rt : Runtime} {i j : Tid} {w w' : World} {c : Call} {changes : List Change}

theorem World.issue_changes (hc : c.changes = true) : w.issue i c = w := by
  cases c <;> first | rfl | simp [Call.changes] at hc

theorem World.apply_changes (hc : c.changes = true) (r : Except Exc (Reply c)) :
    (w.apply rt i c r).connectionLock = w.connectionLock ∧
      (w.apply rt i c r).checkpoints = w.checkpoints := by
  unfold World.apply World.receive
  split <;> try split_ifs
  all_goals first | exact ⟨rfl, rfl⟩ | simp [Call.changes] at hc

theorem Outside.accept (h : Outside changes) : Outside (changes.map (.accept i)) := by
  intro change hchange hfree
  obtain ⟨old, hold, rfl⟩ := List.mem_map.1 hchange
  unfold Change.accept at hfree ⊢
  split_ifs at hfree ⊢
  · exact h old hold hfree
  · exact h old hold hfree

/-- While the lock is free, no checkpoint is without a decision. -/
theorem exposed_of_free (hshape : Shape w.connectionLock w.checkpoints)
    (hfree : w.connectionLock = none) : w.exposed = false := by
  rw [hfree] at hshape
  refine List.any_eq_false.2 fun k hk => ?_
  obtain ⟨hasked, hlive, hdestroying, -⟩ := Checkpoint.phase_ne (hshape.quiet_of_free k hk)
  simp [hasked, hlive, hdestroying]

theorem Outside.issue {w : Watched} (h : Outside w.changes)
    (hshape : Shape w.world.connectionLock w.world.checkpoints) :
    Outside ((watched rt).issue i c w).changes := by
  dsimp only [watched]
  split_ifs
  · refine List.forall_mem_cons.2 ⟨fun hfree => ?_, h⟩
    exact exposed_of_free hshape (of_decide_eq_true hfree)
  · exact h

theorem Outside.apply {w : Watched} (h : Outside w.changes) (r : Except Exc (Reply c)) :
    Outside ((watched rt).apply i c r w).changes := by
  dsimp only [watched]
  split_ifs
  · exact h.accept
  · exact h

end Record

/-! ### The discipline -/

/-- The discipline of the transactions, with changes at any time -/
def overlapping (rt : Runtime) : Discipline (watched rt) where
  inv w := Shape w.world.connectionLock w.world.checkpoints ∧ Outside w.changes
  rely i w w' := Relies i w.world w'.world
  idle i w := w.world.connectionLock ≠ some i
  pre i w c := (Shape w.world.connectionLock w.world.checkpoints ∧ Outside w.changes) ∧
    (c.changes = true ∨ Allowed i w.world c)
  rely_refl i w := (sharing rt).rely_refl i w.world
  rely_trans h h' := (sharing rt).rely_trans h h'
  idle_rely h hw := (sharing rt).idle_rely h hw
  inv_issue := by
    rintro i w c hy ⟨⟨hshape, houtside⟩, hc⟩
    refine ⟨?_, houtside.issue hshape⟩
    rcases hc with hc | hc
    · show Shape (w.world.issue i c).connectionLock (w.world.issue i c).checkpoints
      rwa [World.issue_changes hc]
    · exact (sharing rt).inv_issue hy ⟨hshape, hc⟩
  keeps_issue := by
    rintro i j w c ⟨⟨hshape, -⟩, hc⟩ hji
    rcases hc with hc | hc
    · show Relies j w.world (w.world.issue i c)
      rw [World.issue_changes hc]
      exact .of_eq rfl rfl
    · exact (sharing rt).keeps_issue ⟨hshape, hc⟩ hji
  keeps_answer := by
    rintro i j w c hy ⟨⟨hshape, -⟩, hc⟩ hji
    rcases hc with hc | hc
    · obtain ⟨hlock, hcs⟩ := @World.apply_changes rt i (w.world.issue i c) c hc
        ((w.world.issue i c).answer c)
      exact .of_eq hlock hcs
    · exact (sharing rt).keeps_answer hy ⟨hshape, hc⟩ hji
  keeps_reply := by
    rintro i j w c w' r hy ⟨⟨hshape, -⟩, hc⟩ hrely ⟨hshape', -⟩ hlegal hji
    rcases hc with hc | hc
    · obtain ⟨hlock, hcs⟩ := @World.apply_changes rt i w'.world c hc r
      exact .of_eq hlock hcs
    · exact (sharing rt).keeps_reply hy ⟨hshape, hc⟩ hrely hshape' hlegal hji
  tau_inv := by
    rintro w w' ⟨hshape, houtside⟩ ⟨ht, hchanges⟩
    exact ⟨(sharing rt).tau_inv hshape ht, hchanges ▸ houtside⟩
  tau_rely := by
    rintro w w' i ⟨hshape, -⟩ ⟨ht, -⟩
    exact (sharing rt).tau_rely i hshape ht

/-! ### The requests -/

/-- A request that changes something in NetworkManager. -/
inductive NetworkRequest
  | transaction (request : TransactionRequest)
  /-- `wifi.disconnect` -/
  | disconnect (params : Dict)
  /-- `network.profile.delete` -/
  | deleteProfile (params : Dict)

/-- What such a request returns -/
abbrev NetworkResult := (ConnectResult ⊕ ActivateResult) ⊕ (DisconnectResult ⊕ DeleteResult)

/-- The handler of a request -/
def NetworkRequest.handle (m : NetworkManager) (rt : Runtime) (fuel : ℕ) :
    NetworkRequest → Proc NetworkResult
  | .transaction request => do
      let result ← request.handle m rt fuel
      return .inl result
  | .disconnect params => do
      let result ← Network.disconnect m rt params
      return .inr (.inl result)
  | .deleteProfile params => do
      let result ← Network.deleteProfile rt params
      return .inr (.inr result)

/-- Requests that change something, as the server answers them -/
def IsNetworkRequest (m : NetworkManager) (rt : Runtime)
    (p : Prog Reply Exc (IPCResponse NetworkResult)) : Prop :=
  ∃ (id : String) (fuel : ℕ) (request : NetworkRequest), p = respond id (request.handle m rt fuel)

/-- A call for which nobody needs the lock -/
def Call.lockless (c : Call) : Bool := c.isRead || c.changes

/-- A program that makes only such calls -/
abbrev Lockless {α : Type} (p : Proc α) : Prop :=
  Within (fun c : Call => c.lockless = true) (fun _ => True) p

section Requests

variable {m : NetworkManager} {rt : Runtime} {i : Tid} {w w' : Watched} {c : Call}

theorem lockless_of_reading {α : Type} {p : Proc α} (h : Reading (fun _ => True) p) : Lockless p :=
  within_mono (fun c (hc : c.isRead = true) => by simp [Call.lockless, hc]) h

theorem lockless_disconnect (params : Dict) : Lockless (disconnect m rt params) := by
  unfold disconnect
  split
  · exact (within_raise _).2 trivial
  · refine within_bind (lockless_of_reading (reading_any.wifiDevice true))
      fun device => ?_
    refine within_bind (lockless_of_reading (reading_any.interfaces _ _))
      fun _ => ?_
    exact within_bind ((within_perform _).2 rfl) fun _ => within_pure _

theorem lockless_deleteProfile (params : Dict) : Lockless (deleteProfile rt params) := by
  refine within_bind (within_lift fun _ _ => trivial) fun profileUuid => ?_
  refine within_bind (lockless_of_reading reading_any.settingsInterface)
    fun _ => ?_
  refine within_bind (within_tryCatch ?_ fun exc _ => ?_) fun _ => within_pure _
  · refine within_bind ((within_perform _).2 rfl) fun path => ?_
    exact within_bind (lockless_of_reading (reading_any.interfaces _ _))
      fun _ => (within_perform _).2 rfl
  · split_ifs <;> exact (within_raise _).2 trivial

theorem World.issue_lockless {w : World} (hc : c.lockless = true) : w.issue i c = w :=
  (Bool.or_eq_true_iff.1 hc).elim World.issue_read World.issue_changes

theorem World.apply_lockless {w : World} (hc : c.lockless = true) (r : Except Exc (Reply c)) :
    (w.apply rt i c r).connectionLock = w.connectionLock ∧
      (w.apply rt i c r).checkpoints = w.checkpoints :=
  (Bool.or_eq_true_iff.1 hc).elim (fun hc => World.apply_read hc r)
    fun hc => World.apply_changes hc r

theorem allowed_read {w : World} (hc : c.isRead = true) : Allowed i w c := by
  cases c <;> simp_all [Allowed, Call.isRead]

/-- What a request finds after one of its calls, as a transaction sees it -/
theorem overlapping_next {r : Except Exc (Reply c)}
    (hn : ((overlapping rt).mon i).next w c r w')
    (hw : Shape w.world.connectionLock w.world.checkpoints ∧ Outside w.changes) :
    ((sharing rt).mon i).next w.world c r w'.world ∧ Outside w'.changes := by
  by_cases hy : c.awaited = true
  · simp only [Discipline.mon, if_pos (show (watched rt).yields c = true from hy)] at hn
    obtain ⟨-, w₁, hrely, ⟨hshape, houtside⟩, hlegal, rfl⟩ := hn
    refine ⟨⟨trivial, ?_⟩, houtside.apply r⟩
    rw [if_pos (show (guarded rt).yields c = true from hy)]
    exact ⟨w₁.world, hrely, hshape, hlegal, rfl⟩
  · simp only [Discipline.mon, if_neg (show ¬(watched rt).yields c = true from hy)] at hn
    obtain ⟨-, hr, rfl⟩ := hn
    refine ⟨⟨trivial, ?_⟩, (hw.2.issue hw.1).apply r⟩
    rw [if_neg (show ¬(guarded rt).yields c = true from hy)]
    exact ⟨hr, rfl⟩

/-- A request that does not hold the lock -/
structure Loose (i : Tid) (w : Watched) : Prop where
  shape : Shape w.world.connectionLock w.world.checkpoints
  outside : Outside w.changes
  idle : w.world.connectionLock ≠ some i

theorem Loose.next (h : Loose i w) (hc : c.lockless = true) {r : Except Exc (Reply c)}
    (hn : ((overlapping rt).mon i).next w c r w') : Loose i w' := by
  obtain ⟨⟨-, hn⟩, houtside⟩ := overlapping_next hn ⟨h.shape, h.outside⟩
  split at hn
  · obtain ⟨w₁, hrely, hshape, -, hw'⟩ := hn
    obtain ⟨hlock, hcs⟩ := @World.apply_lockless rt i c w₁ hc r
    replace hrely : Relies i (w.world.issue i c) w₁ := hrely
    rw [World.issue_lockless hc] at hrely
    replace hw' : w'.world = w₁.apply rt i c r := hw'
    exact ⟨by rw [hw', hlock, hcs]; exact hshape, houtside, by
      rw [hw', hlock]
      exact fun hi => h.idle (hrely.1.1 hi)⟩
  · obtain ⟨-, hw'⟩ := hn
    obtain ⟨hlock, hcs⟩ := @World.apply_lockless rt i c (w.world.issue i c) hc r
    rw [World.issue_lockless hc] at hlock hcs
    replace hw' : w'.world = (w.world.issue i c).apply rt i c r := hw'
    rw [World.issue_lockless hc] at hw'
    exact ⟨by rw [hw', hlock, hcs]; exact h.shape, houtside, by rw [hw', hlock]; exact h.idle⟩

theorem Loose.wp_lockless {α : Type} (h : Loose i w) {p : Proc α} (hp : Lockless p) :
    ((overlapping rt).mon i).wp p (fun _ => Loose i) w := by
  refine wp_mono (wp_of_within (S := fun c : Call => c.lockless = true) (P := Loose i) ?_ ?_ hp h)
    fun r w' hr => hr.1
  · intro w c hc h
    exact ⟨⟨h.shape, h.outside⟩, (Bool.or_eq_true_iff.1 hc).symm.imp_right allowed_read⟩
  · exact fun w c r w' hc h hn => ⟨h.next hc hn, fun _ _ => trivial⟩

/-- A transaction among the changes does what `Txn.monitor` sees. -/
theorem wp_transaction {α : Type} {p : Proc α} {t : Txn} {Q : Except Exc α → Txn → Prop}
    (hseen : Txn.monitor.wp p Q t) (hA : Agree i w.world t) (houtside : Outside w.changes) :
    ((overlapping rt).mon i).wp p (fun _ => (overlapping rt).inv) w := by
  refine wp_mono (wp_sim (fun w t => Agree i w.world t ∧ Outside w.changes) ?_ ?_ ⟨hA, houtside⟩
    hseen) ?_
  · exact fun w t c hA hc => ⟨⟨hA.1.shape, hA.2⟩, .inr (hA.1.view.allowed hc)⟩
  · intro w t c r w' hA hc hn
    obtain ⟨hn, houtside⟩ := overlapping_next hn ⟨hA.1.shape, hA.2⟩
    obtain ⟨t', ht', hA'⟩ := agree_next hA.1 hc hn
    exact ⟨t', ht', hA', houtside⟩
  · rintro r w' ⟨t, ⟨hA, houtside⟩, -⟩
    exact ⟨hA.shape, houtside⟩

theorem wp_networkRequest {p : Prog Reply Exc (IPCResponse NetworkResult)}
    (hp : IsNetworkRequest m rt p) (hinv : (overlapping rt).inv w)
    (hidle : (overlapping rt).idle i w) :
    ((overlapping rt).mon i).wp p (fun _ => (overlapping rt).inv) w := by
  obtain ⟨id, fuel, request, rfl⟩ := hp
  have hloose : Loose i w := ⟨hinv.1, hinv.2, hidle⟩
  have hagree : Agree i w.world .init := ⟨hinv.1, .outside rfl hidle decided_of_init⟩
  refine wp_respond ?_
  cases request with
  | transaction request =>
    refine wp_transaction (Q := fun _ _ => True) ?_ hagree hinv.2
    unfold NetworkRequest.handle
    rw [wp_bind]
    refine wp_mono (Txn.wp_handle m rt fuel request) fun r t _ => ?_
    cases r <;> trivial
  | disconnect params =>
    refine wp_mono (hloose.wp_lockless ?_) fun _ _ h => ⟨h.shape, h.outside⟩
    exact within_bind (lockless_disconnect params) fun _ => within_pure _
  | deleteProfile params =>
    refine wp_mono (hloose.wp_lockless ?_) fun _ _ h => ⟨h.shape, h.outside⟩
    exact within_bind (lockless_deleteProfile params) fun _ => within_pure _

/-- **In a run whose accepted changes were all made while the connection lock was free, none of them
was made between the creation of a checkpoint and the decision about it.** -/
theorem changes_kept {clock : ℚ} {a : Config Reply Exc (IPCResponse NetworkResult) Watched}
    (h : (watched rt).Reach (IsNetworkRequest m rt) ⟨.init clock, []⟩ a)
    (hfree : ∀ change ∈ a.world.changes, change.accepted = true → change.free = true) :
    ∀ change ∈ a.world.changes, change.accepted = true → change.exposed = false := by
  have hinit : (overlapping rt).inv ⟨.init clock, []⟩ :=
    ⟨Shape.quiet fun _ hk => absurd hk List.not_mem_nil, fun _ h => absurd h List.not_mem_nil⟩
  have hgood := Discipline.reach_good (D := overlapping rt) (Q := fun _ _ => (overlapping rt).inv)
    (fun _ _ _ h => h) (fun p hp i w hinv hidle => wp_networkRequest hp hinv hidle) hinit
    (fun i hi => by cases hi) h trivial
  exact fun change hchange haccepted => hgood.inv.2 change hchange (hfree change hchange haccepted)

end Requests

/-! ### Runs -/

/-- The server's task for a request -/
def networkTask (id : String) (request : NetworkRequest) :
    Prog Reply Exc (IPCResponse NetworkResult) :=
  respond id (request.handle .default .ascii 1)

theorem isNetworkRequest_networkTask (id : String) (request : NetworkRequest) :
    IsNetworkRequest .default .ascii (networkTask id request) :=
  ⟨id, 1, request, rfl⟩

/-- Connect to the network `home`. -/
def connectHome : NetworkRequest := .transaction (.connect "uuid" [("ssid", .str "home")])

/-- Task `i` is answered as a quiet machine does. -/
def answered (i : Tid) : (watched .ascii).Move (IPCResponse NetworkResult) :=
  .resume i fun c => .ok (quiet c)

/-- What NetworkManager does in a watched world -/
def Watched.tau (f : World → Option World) (w : Watched) : Option Watched :=
  (f w.world).map fun w' => { w with world := w' }

theorem Watched.tau_watched {f : World → Option World} (hf : ∀ w w', f w = some w' → World.Tau w w')
    (w w' : Watched) (h : Watched.tau f w = some w') : (watched .ascii).tau w w' := by
  obtain ⟨w₁, hw₁, rfl⟩ := Option.map_eq_some_iff.1 h
  exact ⟨hf _ _ hw₁, rfl⟩

/-- Delete the profile with this UUID. -/
def deleteSpare : NetworkRequest :=
  .deleteProfile [("uuid", .str "6f9619ff-8b86-4011-b42d-00c04fc964ff")]

/-- A request to disconnect, one to connect, and beside the latter one to delete a profile, whose
call is made when the transaction is over -/
def freeMoves : List ((watched .ascii).Move (IPCResponse NetworkResult)) :=
  let onward : (watched .ascii).Move (IPCResponse NetworkResult) :=
    .resume 1 fun c => .ok (online "/checkpoint/1" c)
  [.spawn (networkTask "1" (.disconnect []))] ++ List.replicate 9 (answered 0) ++
    [.spawn (networkTask "2" connectHome)] ++ List.replicate 8 onward ++
    [.tau (Watched.tau (creates "/checkpoint/1")) (Watched.tau_watched (tau_creates _))] ++
    List.replicate 7 onward ++
    [.spawn (networkTask "3" deleteSpare), answered 2, answered 2] ++ List.replicate 7 onward ++
    [.tau (Watched.tau destroys) (Watched.tau_watched tau_destroys), onward, answered 2, answered 2]

def freeRun : Option (Config Reply Exc (IPCResponse NetworkResult) Watched) :=
  (watched .ascii).play freeMoves ⟨⟨.init 0, []⟩, []⟩

theorem isSome_freeRun : freeRun.isSome = true := by decide +kernel

theorem reach_freeRun : (watched .ascii).Reach (IsNetworkRequest .default .ascii) ⟨.init 0, []⟩
    (freeRun.get isSome_freeRun) := by
  refine Env.reach_of_play _ freeMoves (fun p hp => ?_) .init (Option.some_get isSome_freeRun).symm
  have hp : p = networkTask "1" (.disconnect []) ∨ p = networkTask "2" connectHome ∨
      p = networkTask "3" deleteSpare := by
    simpa [freeMoves, Env.spawns, answered, List.replicate] using hp
  rcases hp with rfl | rfl | rfl <;> exact isNetworkRequest_networkTask _ _

/-- A disconnect before a transaction and a deletion after it stay in force. -/
theorem free_changes_kept :
    (freeRun.get isSome_freeRun).world.changes = [⟨2, true, false, true⟩, ⟨0, true, false, true⟩] ∧
      (freeRun.get isSome_freeRun).world.world.checkpoints =
        [⟨1, "/checkpoint/1", .destroyed, true, true⟩] ∧
      ∀ change ∈ (freeRun.get isSome_freeRun).world.changes,
        change.accepted = true → change.exposed = false := by
  have hchanges : (freeRun.get isSome_freeRun).world.changes =
      [⟨2, true, false, true⟩, ⟨0, true, false, true⟩] := by
    decide +kernel
  refine ⟨hchanges, by decide +kernel, changes_kept reach_freeRun fun change hchange _ => ?_⟩
  rw [hchanges] at hchange
  rcases List.mem_pair.1 hchange with rfl | rfl <;> rfl

/-- A request to disconnect while another waits for its activation, which is then refused -/
def overlapMoves : List ((watched .ascii).Move (IPCResponse NetworkResult)) :=
  [.spawn (networkTask "1" connectHome)] ++ List.replicate 9 (answered 0) ++
    [.tau (Watched.tau (creates "/checkpoint/1")) (Watched.tau_watched (tau_creates _)), answered 0,
      answered 0, .spawn (networkTask "2" (.disconnect []))] ++ List.replicate 8 (answered 1) ++
    [.resume 0 fun _ => .error (.py ⟨.dbus, "not authorized"⟩), answered 0]

def overlapRun : Option (Config Reply Exc (IPCResponse NetworkResult) Watched) :=
  (watched .ascii).play overlapMoves ⟨⟨.init 0, []⟩, []⟩

theorem isSome_overlapRun : overlapRun.isSome = true := rfl

/-- An accepted disconnect is undone by the rollback of another request. -/
theorem disconnect_undone :
    ∃ a, (watched .ascii).Reach (IsNetworkRequest .default .ascii) ⟨.init 0, []⟩ a ∧
      a.result 1 = some (.ok ⟨"2", true, some (.inr (.inl ⟨true, "wlp1s0"⟩)), none⟩) ∧
      a.world.changes = [⟨1, false, true, true⟩] ∧
      a.world.world.checkpoints = [⟨0, "/checkpoint/1", .rolledBack, true, false⟩] := by
  refine ⟨overlapRun.get isSome_overlapRun, ?_, rfl, by decide +kernel, by decide +kernel⟩
  refine Env.reach_of_play _ overlapMoves (fun p hp => ?_) .init
    (Option.some_get isSome_overlapRun).symm
  obtain rfl | rfl : p = networkTask "1" connectHome ∨ p = networkTask "2" (.disconnect []) := by
    simpa [overlapMoves, Env.spawns, answered, List.replicate] using hp
  · exact isNetworkRequest_networkTask _ _
  · exact isNetworkRequest_networkTask _ _

end ApplianceAdmin.Network
