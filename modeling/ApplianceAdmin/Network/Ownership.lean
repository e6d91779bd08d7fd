import ApplianceAdmin.Network.Commit
import ApplianceAdmin.Network.History
import ApplianceAdmin.Network.Requests

/-!
# Who asks for checkpoints

The requests that share a manager, whatever is answered to them.

* `World.owners`: the requests that have asked for a checkpoint, the latest first;
* `Plain`: what a request does apart from the locks and the creation of its checkpoint;
* `owning`: only the holder of the connection lock asks for a checkpoint;
* `accepted_committed`: an accepted request was verified before its checkpoint was destroyed, and no
  other checkpoint came to life meanwhile.
-/

namespace ApplianceAdmin.Network

open Async Async.Prog Async.Monitor Python

/-! ### Programs without locks -/

/-- A call that has to do neither with a lock nor with the creation of a checkpoint -/
def Call.plain : Call → Bool
  | .acquire _ | .release _ | .checkpointCreate _ _ _ => false
  | _ => true

/-- A program that makes only such calls -/
abbrev Plain {α : Type} (p : Proc α) : Prop :=
  Within (fun c : Call => c.plain = true) (fun _ => True) p

section Plain

theorem plain_of_attending {α : Type} {p : Proc α} (h : Attending p) : Plain p :=
  within_mono (fun c (hc : c.attends = true) => by cases c <;> first | rfl | cases hc) h

theorem plain_of_reading {α : Type} {p : Proc α} (h : Reading (fun _ => True) p) : Plain p :=
  plain_of_attending (attending_of_reading h)

theorem plain_perform {c : Call} (hc : c.plain = true) : Plain (perform c : Proc (Reply c)) :=
  (within_perform c).2 hc

end Plain

/-! ### Owners -/

/-- The owners of the checkpoints, the latest first -/
def World.owners (w : World) : List Tid := w.checkpoints.map (·.owner)

section Owners

variable {rt : Runtime} {i j : Tid} {w w' : World} {c : Call}

theorem map_owner {f : Checkpoint → Checkpoint} (hf : ∀ k, (f k).owner = k.owner)
    (cs : List Checkpoint) : (cs.map f).map (·.owner) = cs.map (·.owner) := by
  rw [List.map_map]
  exact List.map_congr_left fun k _ => hf k

/-- Only the creation of a checkpoint adds an owner. -/
theorem World.owners_issue (hc : ∀ ds s f, c ≠ .checkpointCreate ds s f) :
    (w.issue i c).owners = w.owners := by
  cases c with
  | checkpointCreate ds s f => exact absurd rfl (hc ds s f)
  | addAndActivateConnection2 _ _ _ _ => exact map_owner (fun _ => (Checkpoint.like_activate i).owner) _
  | activateConnection _ _ _ => exact map_owner (fun _ => (Checkpoint.like_activate i).owner) _
  | checkpointDestroy c =>
    exact map_owner (fun _ => (Checkpoint.like_move (.inl rfl) (by simp) (by simp)).owner) _
  | checkpointRollback c =>
    exact map_owner (fun _ => (Checkpoint.like_move (.inl rfl) (by simp) (by simp)).owner) _
  | _ => rfl

theorem World.owners_apply (r : Except Exc (Reply c)) : (w.apply rt i c r).owners = w.owners := by
  show (w.receive i c r).checkpoints.map (·.owner) = _
  unfold World.receive
  split <;> try split_ifs
  all_goals first
    | rfl
    | exact map_owner (fun _ => (Checkpoint.like_refuse i).owner) _
    | exact map_owner (fun _ => (Checkpoint.like_verify i).owner) _
    | exact map_owner (fun _ => (Checkpoint.like_move (.inr rfl) (by simp) (by simp)).owner) _
    | (cases ‹Lock› <;> rfl)

theorem Handles.owners {cs cs' : List Checkpoint} {e : CheckpointEvent} (h : Handles cs e cs') :
    cs'.map (·.owner) = cs.map (·.owner) := by
  cases h with
  | create _ _ _ => simp only [List.map_append, List.map_cons, map_owner fun _ => Checkpoint.like_discard.owner]
  | destroy _ => simp only [List.map_append, List.map_cons]

theorem World.owners_tau (h : World.Tau w w') : w'.owners = w.owners := by
  cases h with
  | time _ => rfl
  | handles h => exact h.owners

theorem World.lock_tau (h : World.Tau w w') : w'.connectionLock = w.connectionLock := by
  cases h <;> rfl

/-- What a request relies on: the lock is its own or not, and while it is, nobody else asks for a
checkpoint. -/
def Keeping (i : Tid) (w w' : World) : Prop :=
  (w'.connectionLock = some i ↔ w.connectionLock = some i) ∧
    (w.connectionLock = some i → w'.owners = w.owners)

/-- When request `i` may make a call -/
def Entitled (i : Tid) (w : World) : Call → Prop
  | .acquire .connection => w.connectionLock ≠ some i
  | .release .connection => w.connectionLock = some i
  | .checkpointCreate _ _ _ => w.connectionLock = some i
  | _ => True

theorem Keeping.of_eq (hlock : w'.connectionLock = w.connectionLock) (howners : w'.owners = w.owners) :
    Keeping i w w' :=
  ⟨by rw [hlock], fun _ => howners⟩

/-- What the holder of the lock does is nothing to the others, as long as nobody else gets the
lock. -/
theorem Keeping.of_holder (hw : w.connectionLock = some i)
    (hw' : w'.connectionLock = some i ∨ w'.connectionLock = none) (hji : j ≠ i) : Keeping j w w' := by
  obtain ⟨hne, hne'⟩ := not_held_of_holder hw hw' hji
  exact ⟨iff_of_false hne' hne, fun h => absurd h hne⟩

/-- Only the connection lock itself changes hands. -/
theorem World.apply_lock (hacquire : c ≠ .acquire .connection) (hrelease : c ≠ .release .connection)
    (r : Except Exc (Reply c)) : (w.apply rt i c r).connectionLock = w.connectionLock := by
  cases c with
  | acquire l =>
    cases l with
    | connection => exact absurd rfl hacquire
    | scan => cases r <;> rfl
  | release l =>
    cases l with
    | connection => exact absurd rfl hrelease
    | scan => rfl
  | _ => exact World.apply_connectionLock (fun l => ⟨by simp, by simp⟩) r

theorem keeping_apply (hacquire : c ≠ .acquire .connection) (hrelease : c ≠ .release .connection)
    (r : Except Exc (Reply c)) : Keeping j w (w.apply rt i c r) :=
  .of_eq (World.apply_lock hacquire hrelease r) (World.owners_apply r)

/-- The requests as they share the world -/
def owning (rt : Runtime) : Discipline (manager rt) where
  inv _ := True
  rely := Keeping
  idle i w := w.connectionLock ≠ some i
  pre := Entitled
  rely_refl i w := .of_eq rfl rfl
  rely_trans h h' := ⟨h'.1.trans h.1, fun hw => (h'.2 (h.1.2 hw)).trans (h.2 hw)⟩
  idle_rely h hw := fun hw' => hw (h.1.1 hw')
  inv_issue _ _ := trivial
  keeps_issue := by
    intro i j w c hc hji
    show Keeping j w (w.issue i c)
    by_cases hcreate : ∃ ds s f, c = .checkpointCreate ds s f
    · obtain ⟨ds, s, f, rfl⟩ := hcreate
      exact .of_holder hc (.inl hc) hji
    · exact .of_eq (World.issue_connectionLock c)
        (World.owners_issue fun ds s f h => hcreate ⟨ds, s, f, h⟩)
  keeps_answer := by
    intro i j w c hy hc hji
    show Keeping j (w.issue i c) ((w.issue i c).apply rt i c _)
    by_cases hrelease : c = .release .connection
    · subst hrelease
      exact .of_holder hc (.inr rfl) hji
    · exact keeping_apply (fun h => by rw [h] at hy; cases hy) hrelease _
  keeps_reply := by
    intro i j w c w' r hy hc hrely _ hlegal hji
    show Keeping j w' (w'.apply rt i c r)
    by_cases hacquire : c = .acquire .connection
    · subst hacquire
      cases r with
      | error x => exact .of_eq rfl rfl
      | ok a =>
        have hfree : w'.connectionLock = none := of_decide_eq_true hlegal
        refine ⟨iff_of_false (fun h => hji (Option.some.inj h).symm) (by simp [hfree]), ?_⟩
        exact fun h => by simp [hfree] at h
    · exact keeping_apply hacquire (fun h => by rw [h] at hy; cases hy) r
  tau_inv _ _ := trivial
  tau_rely i _ ht := .of_eq (World.lock_tau ht) (World.owners_tau ht)

/-! ### One request among the others -/

/-- Request `i` holds the lock, and these have asked for checkpoints. -/
structure Holds (i : Tid) (owners : List Tid) (w : World) : Prop where
  lock : w.connectionLock = some i
  owners : w.owners = owners

variable {owners : List Tid}

/-- What a request finds after one of its calls -/
theorem owning_next {r : Except Exc (Reply c)} (hn : ((owning rt).mon i).next w c r w') :
    ∃ w₁, Keeping i (w.issue i c) w₁ ∧ (c.awaited = true → w₁.legal i c r = true) ∧
      w' = w₁.apply rt i c r := by
  obtain ⟨-, hn⟩ := hn
  split at hn
  · obtain ⟨w₁, hrely, -, hlegal, hw'⟩ := hn
    exact ⟨w₁, hrely, fun _ => hlegal, hw'⟩
  · rename_i hy
    obtain ⟨-, hw'⟩ := hn
    exact ⟨_, .of_eq rfl rfl, fun h => absurd h hy, hw'⟩

theorem Call.ne_of_plain (hc : c.plain = true) : c ≠ .acquire .connection ∧
    c ≠ .release .connection ∧ ∀ ds s f, c ≠ .checkpointCreate ds s f := by
  refine ⟨?_, ?_, fun ds s f => ?_⟩ <;> rintro rfl <;> cases hc

theorem entitled_of_plain (hc : c.plain = true) : Entitled i w c := by
  cases c with
  | acquire l => cases hc
  | release l => cases hc
  | checkpointCreate ds s f => cases hc
  | _ => trivial

theorem Holds.next (h : Holds i owners w) (hc : c.plain = true) {r : Except Exc (Reply c)}
    (hn : ((owning rt).mon i).next w c r w') : Holds i owners w' := by
  obtain ⟨w₁, hrely, -, rfl⟩ := owning_next hn
  obtain ⟨hacquire, hrelease, hcreate⟩ := Call.ne_of_plain hc
  have hlock : (w.issue i c).connectionLock = some i := (World.issue_connectionLock c).trans h.lock
  refine ⟨?_, ?_⟩
  · rw [World.apply_lock hacquire hrelease]
    exact hrely.1.2 hlock
  · rw [World.owners_apply, hrely.2 hlock, World.owners_issue hcreate, h.owners]

theorem Holds.wp_plain {α : Type} (h : Holds i owners w) {p : Proc α} (hp : Plain p) :
    ((owning rt).mon i).wp p (fun _ => Holds i owners) w := by
  refine wp_mono (wp_of_within (S := fun c : Call => c.plain = true) (P := Holds i owners) ?_ ?_ hp h)
    fun r w' hr => hr.1
  · exact fun w c hc _ => entitled_of_plain hc
  · exact fun w c r w' hc h hn => ⟨h.next hc hn, fun _ _ => trivial⟩

/-- A plain program and what comes after it -/
theorem Holds.wp_bind {α β : Type} (h : Holds i owners w) {p : Proc α} (hp : Plain p)
    {f : α → Proc β} {Q : Except Exc β → World → Prop}
    (herr : ∀ x w', Holds i owners w' → Q (.error x) w')
    (hok : ∀ a w', Holds i owners w' → ((owning rt).mon i).wp (f a) Q w') :
    ((owning rt).mon i).wp (p >>= f) Q w := by
  rw [Monitor.wp_bind]
  refine wp_mono (h.wp_plain hp) fun r w' hw' => ?_
  cases r with
  | ok a => exact hok a w' hw'
  | error x => exact herr x w' hw'

/-- The request holds the lock; when it returns, it is the last to have asked for a checkpoint. -/
def Owned {α : Type} (i : Tid) (r : Except Exc α) (w : World) : Prop :=
  ∃ owners, Holds i owners w ∧ ∀ a, r = .ok a → owners.head? = some i

theorem owned_error {α : Type} {x : Exc} (h : Holds i owners w) :
    Owned i (.error x : Except Exc α) w := ⟨owners, h, nofun⟩

theorem Holds.wp_create (h : Holds i owners w) (ds : List String) (s f : ℕ) :
    ((owning rt).mon i).wp (perform (Call.checkpointCreate ds s f) : Proc String)
      (fun _ => Holds i (i :: owners)) w := by
  refine ⟨h.lock, fun r w' hn => ?_⟩
  obtain ⟨w₁, hrely, -, rfl⟩ := owning_next hn
  refine ⟨?_, ?_⟩
  · rw [World.apply_lock (by simp) (by simp)]
    exact hrely.1.2 h.lock
  · rw [World.owners_apply, hrely.2 h.lock]
    exact congrArg (List.cons i) h.owners

variable {m : NetworkManager}

theorem Holds.wp_transact {α : Type} (h : Holds i owners w) (fuel : ℕ) (device rejected : String)
    {activate : Proc (α × String)} (hactivate : Plain activate) :
    ((owning rt).mon i).wp (transact m rt fuel device rejected activate) (Owned i) w := by
  unfold transact createCheckpoint
  rw [Monitor.wp_bind]
  refine h.wp_bind (plain_of_attending (attending.interfaces _ _)) (fun x w' hw' => owned_error hw')
    fun _ w₁ h₁ => ?_
  refine wp_mono (h₁.wp_create _ _ _) fun r w₂ h₂ => ?_
  cases r with
  | error x => exact owned_error h₂
  | ok checkpoint =>
    rw [andThen_ok]
    refine h₂.wp_bind (plain_of_attending (attending.interfaces _ _))
      (fun x w' hw' => owned_error hw') fun _ w₃ h₃ => ?_
    refine wp_mono (h₃.wp_plain (within_tryCatch ?_ fun x _ =>
      plain_of_attending (attending_undo _ _ x))) fun r w' hw' =>
      ⟨i :: owners, hw', fun _ _ => rfl⟩
    exact within_bind hactivate fun active =>
      within_bind (plain_of_attending (attending_finishTransaction _ _ _ _)) fun _ => within_pure _

/-- Putting the result together changes nothing. -/
theorem wp_owned_return {α β : Type} {f : α → β} {p : Proc α}
    (h : ((owning rt).mon i).wp p (Owned i) w) :
    ((owning rt).mon i).wp (do let a ← p; return f a) (Owned i) w := by
  rw [Monitor.wp_bind]
  refine wp_mono h fun r w' hr => ?_
  cases r with
  | ok a =>
    obtain ⟨owners, hw', hhead⟩ := hr
    exact ⟨owners, hw', fun _ _ => hhead a rfl⟩
  | error x =>
    obtain ⟨owners, hw', -⟩ := hr
    exact owned_error hw'

/-- When a request returns, it is the last to have asked for a checkpoint. -/
def Latest {α : Type} (i : Tid) (r : Except Exc α) (w : World) : Prop :=
  ∀ a, r = .ok a → w.owners.head? = some i

theorem wp_owned_withLock {α : Type} {body : Proc α} (hidle : w.connectionLock ≠ some i)
    (hbody : ∀ owners w', Holds i owners w' → ((owning rt).mon i).wp body (Owned i) w') :
    ((owning rt).mon i).wp (withLock .connection body) (Latest i) w := by
  unfold withLock
  rw [Monitor.wp_bind]
  refine ⟨hidle, fun r w₁ hn => ?_⟩
  obtain ⟨w₂, -, hlegal, rfl⟩ := owning_next hn
  cases r with
  | error x => exact nofun
  | ok a =>
    rw [wp_done, andThen_ok, wp_ensure]
    refine wp_mono (hbody w₂.owners _ ⟨rfl, rfl⟩) fun r w₃ hr => ?_
    obtain ⟨owners, h₃, hhead⟩ := hr
    unfold andFinally
    rw [wp_ask]
    refine ⟨h₃.lock, fun _ w₄ hn => ?_⟩
    obtain ⟨w₅, hrely, -, rfl⟩ := owning_next hn
    intro a ha
    rw [World.owners_apply, hrely.2 h₃.lock]
    exact (congrArg List.head? h₃.owners).trans (hhead a ha)

theorem wp_latest_return {α β : Type} {f : α → β} {p : Proc α}
    (h : ((owning rt).mon i).wp p (Latest i) w) :
    ((owning rt).mon i).wp (do let a ← p; return f a) (Latest i) w := by
  rw [Monitor.wp_bind]
  refine wp_mono h fun r w' hr => ?_
  cases r with
  | ok a => exact fun _ _ => hr a rfl
  | error x => exact nofun

theorem wp_latest_lift {α β : Type} {r : Except Exc α} {f : α → Proc β}
    (h : ∀ a, ((owning rt).mon i).wp (f a) (Latest i) w) :
    ((owning rt).mon i).wp (lift r >>= f) (Latest i) w := by
  cases r with
  | ok a => exact h a
  | error x => exact nofun

theorem wp_latest_connect (fuel : ℕ) (uuid : String) (params : Dict)
    (hidle : w.connectionLock ≠ some i) :
    ((owning rt).mon i).wp (connect m rt fuel uuid params) (Latest i) w := by
  unfold connect
  refine wp_latest_lift fun request => wp_owned_withLock hidle fun owners w' hw' => ?_
  refine hw'.wp_bind (plain_of_reading (reading_any.wifiDevice true))
    (fun x w' hw' => owned_error hw') fun device w₁ h₁ => ?_
  exact wp_owned_return (h₁.wp_transact fuel device _ (plain_perform rfl))

theorem wp_latest_activateProfile (fuel : ℕ) (params : Dict) (hidle : w.connectionLock ≠ some i) :
    ((owning rt).mon i).wp (activateProfile m rt fuel params) (Latest i) w := by
  unfold activateProfile
  refine wp_latest_lift fun profileUuid => wp_owned_withLock hidle fun owners w' hw' => ?_
  refine hw'.wp_bind (plain_of_reading (reading_any.wifiDevice true))
    (fun x w' hw' => owned_error hw') fun device w₁ h₁ => ?_
  refine h₁.wp_bind (plain_of_reading reading_any.settingsInterface)
    (fun x w' hw' => owned_error hw') fun _ w₂ h₂ => ?_
  refine h₂.wp_bind (plain_of_reading (composes_replace reading_any.toComposes
    (by simp [Call.isRead]) rfl)) (fun x w' hw' => owned_error hw') fun path w₃ h₃ => ?_
  refine h₃.wp_bind (plain_of_attending (attending.interfaces _ _)) (fun x w' hw' => owned_error hw')
    fun _ w₄ h₄ => ?_
  refine h₄.wp_bind (plain_perform rfl) (fun x w' hw' => owned_error hw') fun settings w₅ h₅ => ?_
  dsimp only
  rw [wp_ite]
  split
  · exact owned_error h₅
  · refine wp_owned_return (h₅.wp_transact fuel device _ ?_)
    exact within_bind (plain_perform rfl) fun _ => within_pure _

end Owners

/-! ### The pool -/

/-- Requests that change the Wi-Fi connection -/
def IsTransaction (m : NetworkManager) (rt : Runtime) (p : Proc (ConnectResult ⊕ ActivateResult)) :
    Prop :=
  ∃ (fuel : ℕ) (request : TransactionRequest), p = request.handle m rt fuel

section Pool

variable {m : NetworkManager} {rt : Runtime} {i : Tid} {w : World}

theorem wp_latest {p : Proc (ConnectResult ⊕ ActivateResult)} (hp : IsTransaction m rt p)
    (hidle : w.connectionLock ≠ some i) : ((owning rt).mon i).wp p (Latest i) w := by
  obtain ⟨fuel, request, rfl⟩ := hp
  cases request with
  | connect uuid params => exact wp_latest_return (wp_latest_connect fuel uuid params hidle)
  | activateProfile params => exact wp_latest_return (wp_latest_activateProfile fuel params hidle)

/-- **When a request returns `accepted`, its own answered calls are those of a transaction that was
verified before its checkpoint was destroyed, within one holding of the connection lock, with no
other decision about the checkpoint; NetworkManager destroyed that checkpoint directly after it had
created it, with no other one created in between; and no other request has even asked for one
since.** -/
theorem accepted_committed {clock : ℚ} {a b : Config Reply Exc (ConnectResult ⊕ ActivateResult)
      (World × (Tid → List (Event Reply Exc)))} {result : ConnectResult ⊕ ActivateResult}
    (h : (manager rt).traced.Reach (IsTransaction m rt) (.init clock, fun _ => []) a)
    (hs : (manager rt).traced.Step (IsTransaction m rt) a b) (hbefore : a.result i = none)
    (hend : b.result i = some (.ok result)) :
    Committed m rt result (b.world.2 i) ∧
      (∃ device checkpoint,
        ⟨.checkpointCreate [device] m.checkpointTimeout
          (checkpointDestroyAll ||| checkpointDeleteNewConnections), .ok checkpoint⟩ ∈
            b.world.2 i ∧
        (b.world.2 i).filter (Txn.settles ·.call) = [⟨.checkpointDestroy checkpoint, .ok ()⟩] ∧
        ∃ later earlier, b.world.1.history =
          later ++ .destroyed checkpoint :: .created i checkpoint :: earlier) ∧
      b.world.1.owners.head? = some i := by
  obtain ⟨p, ⟨fuel, request, rfl⟩, hpath⟩ :=
    (Env.reach_path _ (h.step hs)).1 i _ (Config.result_eq_some.1 hend)
  have hcommitted := committed_handle hpath
  obtain ⟨device, checkpoint, hcreate, hsettled⟩ := hcommitted.filter_settles
  have hdestroy : ⟨.checkpointDestroy checkpoint, .ok ()⟩ ∈ b.world.2 i :=
    List.mem_of_mem_filter (hsettled ▸ List.mem_singleton_self _)
  refine ⟨hcommitted, ⟨device, checkpoint, hcreate, hsettled, ?_⟩, ?_⟩
  · exact (recorded_of_reach (h.step hs)).directly hcreate hdestroy
  · exact Discipline.reach_outcome (D := owning rt) (Q := Latest) (fun _ _ _ _ => trivial)
      (fun p hp i w _ hidle => wp_latest hp hidle) trivial (fun i hi => by cases hi)
      (Env.reach_of_traced _ h) (Env.step_of_traced _ hs) trivial hbefore hend result rfl

end Pool

/-! ### Runs -/

/-- The world with the traces of its tasks -/
abbrev Traced := World × (Tid → List (Event Reply Exc))

/-- What NetworkManager does there -/
def Traced.tau (f : World → Option World) (w : Traced) : Option Traced :=
  (f w.1).map fun w' => (w', w.2)

theorem Traced.tau_manager {f : World → Option World} (hf : ∀ w w', f w = some w' → World.Tau w w')
    (w w' : Traced) (h : Traced.tau f w = some w') : (manager .ascii).traced.tau w w' := by
  obtain ⟨w₁, hw₁, rfl⟩ := Option.map_eq_some_iff.1 h
  exact ⟨hf _ _ hw₁, rfl⟩

/-- A request to connect to the network `ssid` -/
def connectRequest (ssid : String) : Proc (ConnectResult ⊕ ActivateResult) :=
  (TransactionRequest.connect "uuid" [("ssid", .str ssid)]).handle .default .ascii 1

/-- Its answer on a machine with a usable connection -/
def succeed : (manager .ascii).traced.Move (ConnectResult ⊕ ActivateResult) :=
  .resume 0 fun c => .ok (online "/checkpoint/1" c)

/-- The request up to its last answer, while another one waits for the lock -/
def onlineMoves : List ((manager .ascii).traced.Move (ConnectResult ⊕ ActivateResult)) :=
  .spawn (connectRequest "home") :: List.replicate 2 succeed ++
    .spawn (connectRequest "cafe") :: List.replicate 7 succeed ++
    .tau (Traced.tau (creates "/checkpoint/1")) (Traced.tau_manager (tau_creates _)) ::
    List.replicate 14 succeed ++
    [.tau (Traced.tau destroys) (Traced.tau_manager tau_destroys)]

def onlineRun : Option (Config Reply Exc (ConnectResult ⊕ ActivateResult) Traced) :=
  (manager .ascii).traced.play onlineMoves ⟨(.init 0, fun _ => []), []⟩

theorem isSome_onlineRun : onlineRun.isSome = true := by decide +kernel

theorem reach_onlineRun : (manager .ascii).traced.Reach (IsTransaction .default .ascii)
    (.init 0, fun _ => []) (onlineRun.get isSome_onlineRun) := by
  refine Env.reach_of_play _ onlineMoves (fun p hp => ?_) .init
    (Option.some_get isSome_onlineRun).symm
  have hp : p = connectRequest "home" ∨ p = connectRequest "cafe" := by
    simpa [onlineMoves, Env.spawns, succeed, List.replicate] using hp
  rcases hp with rfl | rfl <;> exact ⟨1, _, rfl⟩

/-- The same run after the last answer -/
def onlineEnd : Option (Config Reply Exc (ConnectResult ⊕ ActivateResult) Traced) :=
  (manager .ascii).traced.playOne (onlineRun.get isSome_onlineRun) succeed

theorem isSome_onlineEnd : onlineEnd.isSome = true := by decide +kernel

/-- What the request returns there -/
def homeResult : ConnectResult ⊕ ActivateResult :=
  .inl ⟨true, "home", "/settings/1", "/active/1",
    ⟨"full", [⟨"192.0.2.7", 24⟩], "192.0.2.1", ["192.0.2.1"]⟩⟩

/-- A request that is accepted while another one waits -/
theorem online_committed :
    (onlineEnd.get isSome_onlineEnd).result 0 = some (.ok homeResult) ∧
      (onlineEnd.get isSome_onlineEnd).tasks.length = 2 ∧
      Committed .default .ascii homeResult ((onlineEnd.get isSome_onlineEnd).world.2 0) ∧
      ∃ checkpoint later earlier, (onlineEnd.get isSome_onlineEnd).world.1.history =
        later ++ .destroyed checkpoint :: .created 0 checkpoint :: earlier := by
  have hend : (onlineEnd.get isSome_onlineEnd).result 0 = some (.ok homeResult) := by
    decide +kernel
  have hstep : (manager .ascii).traced.Step (IsTransaction .default .ascii)
      (onlineRun.get isSome_onlineRun) (onlineEnd.get isSome_onlineEnd) :=
    Env.step_of_playOne _ (fun p hp => by cases hp) (Option.some_get isSome_onlineEnd).symm
  obtain ⟨hcommitted, ⟨_, checkpoint, -, -, hhistory⟩, -⟩ :=
    accepted_committed reach_onlineRun hstep (by decide +kernel) hend
  exact ⟨hend, by decide +kernel, hcommitted, checkpoint, hhistory⟩

end ApplianceAdmin.Network
