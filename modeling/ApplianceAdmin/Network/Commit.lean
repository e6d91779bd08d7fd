import ApplianceAdmin.Network.Transaction

/-!
# Accepted transactions

What the answered calls of a `connect` or `activate_profile` that returns look like, whatever else
the bus answers.

* `Checked`: the calls of a verification that finds the connection usable;
* `Committed`: the calls of an accepted request, in their order;
* `committed_handle`: an accepted request was verified before its checkpoint was destroyed.
-/

namespace ApplianceAdmin.Network

open Async Async.Prog Async.Monitor Python

/-! ### Verification -/

/-- Calls that look, among which `CheckConnectivity` finds the connection with these details usable -/
def Checked (details : ActivationDetails) (tr : List (Event Reply Exc)) : Prop :=
  ∃ looked n left, tr = looked ++ ⟨.checkConnectivity, .ok n⟩ :: left ∧
    (∀ e ∈ looked, e.call.isRead = true) ∧ (∀ e ∈ left, e.call.isRead = true) ∧ n ∉ [1, 2, 3] ∧
    details.connectivity = connectivityName n ∧ details.addresses ≠ [] ∧ details.gateway ≠ "" ∧
    details.dns ≠ []

/-- The calls of one look at the connection: a verification, or calls that look -/
def Found : Option ActivationDetails → List (Event Reply Exc) → Prop
  | none, tr => ∀ e ∈ tr, e.call.isRead = true
  | some details, tr => Checked details tr

section Verification

variable {m : NetworkManager} {rt : Runtime} {found : Option ActivationDetails}
  {tr before after : List (Event Reply Exc)}

theorem Found.prepend (h : Found found tr) (hbefore : ∀ e ∈ before, e.call.isRead = true) :
    Found found (before ++ tr) := by
  cases found with
  | none => exact List.forall_mem_append.2 ⟨hbefore, h⟩
  | some details =>
    obtain ⟨looked, n, left, rfl, hlooked, hleft, hdetails⟩ := h
    exact ⟨before ++ looked, n, left, by rw [List.append_assoc],
      List.forall_mem_append.2 ⟨hbefore, hlooked⟩, hleft, hdetails⟩

theorem Found.append (h : Found found tr) (hafter : ∀ e ∈ after, e.call.isRead = true) :
    Found found (tr ++ after) := by
  cases found with
  | none => exact List.forall_mem_append.2 ⟨h, hafter⟩
  | some details =>
    obtain ⟨looked, n, left, rfl, hlooked, hleft, hdetails⟩ := h
    exact ⟨looked, n, left ++ after, by rw [List.append_assoc, List.cons_append], hlooked,
      List.forall_mem_append.2 ⟨hleft, hafter⟩, hdetails⟩

theorem Found.cons {e : Event Reply Exc} (h : Found found tr) (he : e.call.isRead = true) :
    Found found (e :: tr) :=
  show Found found ([e] ++ tr) from h.prepend (by simpa using he)

theorem found_of_pure {tr : List (Event Reply Exc)}
    (h : Path (pure none : Proc (Option ActivationDetails)) tr (.done (.ok found))) :
    Found found tr := by
  obtain ⟨rfl, hr⟩ := Path.of_done (r := .ok none) h
  cases hr
  exact fun _ he => absurd he List.not_mem_nil

/-- The calls of a function that reads -/
theorem reads_of_path {α : Type} {p q : Proc α} (hp : Reading (fun _ => True) p)
    (h : Path p tr q) : ∀ e ∈ tr, e.call.isRead = true := h.within hp

theorem eq_ok_of_path {α : Type} {r : Except PyError α} {a : α}
    (h : Path (py r) tr (.done (.ok a))) : r = .ok a := by
  obtain ⟨-, hr⟩ := Path.of_done (r := r.mapError Exc.py) h
  cases r with
  | ok b => cases hr; rfl
  | error x => cases hr

theorem except_bind_eq_ok {ε α β : Type} {x : Except ε α} {f : α → Except ε β} {b : β}
    (h : x >>= f = .ok b) : ∃ a, x = .ok a ∧ f a = .ok b := by
  cases x with
  | ok a => exact ⟨a, rfl, h⟩
  | error e => cases h

/-- An empty gateway is none. -/
theorem gateway_ne_empty {props : Dict} {ip4 : Ip4Details}
    (h : Ip4Details.ofProps rt props = .ok ip4) : ip4.gateway ≠ some "" := by
  have hgateway : ∀ s : String, (if s = "" then none else some s) ≠ some "" := by
    intro s
    split_ifs with hs
    · exact nofun
    · exact fun h => hs (Option.some.inj h)
  unfold Ip4Details.ofProps at h
  obtain ⟨items, -, h⟩ := except_bind_eq_ok h
  obtain ⟨addresses, -, h⟩ := except_bind_eq_ok h
  obtain ⟨items, -, h⟩ := except_bind_eq_ok h
  obtain ⟨found, -, h⟩ := except_bind_eq_ok h
  dsimp only at h
  split at h
  · obtain ⟨raws, -, h⟩ := except_bind_eq_ok h
    obtain ⟨packed, -, h⟩ := except_bind_eq_ok h
    obtain ⟨dns, -, h⟩ := except_bind_eq_ok h
    obtain ⟨items, -, h⟩ := except_bind_eq_ok h
    obtain ⟨routes, -, h⟩ := except_bind_eq_ok h
    cases h
    exact hgateway _
  · obtain ⟨dns, -, h⟩ := except_bind_eq_ok h
    obtain ⟨items, -, h⟩ := except_bind_eq_ok h
    obtain ⟨routes, -, h⟩ := except_bind_eq_ok h
    cases h
    exact hgateway _

theorem gateway_of_path {path : String} {ip4 : Ip4Details}
    (h : Path (ip4Details rt path) tr (.done (.ok ip4))) : ip4.gateway ≠ some "" := by
  unfold ip4Details at h
  split at h
  · obtain ⟨-, hr⟩ := Path.of_done (r := .ok _) h
    cases hr
    exact nofun
  · obtain ⟨props, first, rest, rfl, -, h⟩ := h.of_bind
    exact gateway_ne_empty (eq_ok_of_path h)

theorem found_of_usableDetails {props : Dict}
    (h : Path (usableDetails rt props) tr (.done (.ok found))) : Found found tr := by
  unfold usableDetails at h
  obtain ⟨config, tr₁, rest, rfl, h₁, h⟩ := h.of_bind
  refine Found.prepend ?_ (reads_of_path (reading_any.strItem _ _) h₁)
  obtain ⟨ip4, tr₂, rest, rfl, h₂, h⟩ := h.of_bind
  refine Found.prepend ?_ (reads_of_path (reading_any.ip4Details _) h₂)
  have hgateway := gateway_of_path h₂
  split at h
  · exact found_of_pure h
  rename_i gateway hsome
  split at h
  · exact found_of_pure h
  rename_i husable
  obtain ⟨_, tr₃, rest, rfl, h₃, h⟩ := h.of_bind
  refine Found.prepend ?_ (reads_of_path (reading_any.interfaces _ _) h₃)
  obtain ⟨n, rest, rfl, hcheck⟩ := h.of_perform_bind
  split at hcheck
  · exact absurd hcheck not_path_raise
  rename_i hn
  obtain ⟨rfl, hr⟩ := Path.of_done (r := .ok _) hcheck
  cases hr
  have hempty : ip4.addresses ≠ [] ∧ ip4.dns ≠ [] := by simpa using husable
  refine ⟨[], n, [], rfl, by simp, by simp, hn, rfl, hempty.1, ?_, hempty.2⟩
  exact fun h => hgateway (h ▸ hsome)

theorem found_of_observe {device activePath : String} {seen : ℤ × Value}
    (h : Path (observe rt device activePath) tr (.done (.ok (found, seen)))) : Found found tr := by
  unfold observe at h
  obtain ⟨deviceProps, tr₁, rest, rfl, h₁, h⟩ := h.of_bind
  refine Found.prepend ?_ (reads_of_path (reading_any.properties _ _) h₁)
  obtain ⟨lastState, tr₂, rest, rfl, h₂, h⟩ := h.of_bind
  refine Found.prepend ?_ (reads_of_path (reading_any.intItem _ _) h₂)
  obtain ⟨activeProps, tr₃, rest, rfl, h₃, h⟩ := h.of_bind
  refine Found.prepend ?_ (reads_of_path (reading_any.properties _ _) h₃)
  obtain ⟨activeState, tr₄, rest, rfl, h₄, h⟩ := h.of_bind
  refine Found.prepend ?_ (reads_of_path (reading_any.intItem _ _) h₄)
  split at h
  · exact absurd h not_path_raise
  split at h
  · obtain ⟨details, tr₅, rest, rfl, h₅, hreturn⟩ := h.of_bind
    obtain ⟨rfl, hr⟩ := Path.of_done (r := .ok _) hreturn
    cases hr
    exact (found_of_usableDetails h₅).append (by simp)
  · obtain ⟨rfl, hr⟩ := Path.of_done (r := .ok _) h
    cases hr
    exact fun _ he => absurd he List.not_mem_nil

theorem found_of_pollActivation {device activePath : String} {deadline : ℚ} {fuel : ℕ}
    {lastState : ℤ} {reason : Value} {details : ActivationDetails}
    (h : Path (pollActivation rt device activePath deadline fuel lastState reason) tr
      (.done (.ok (.inl details)))) : Found (some details) tr := by
  induction fuel generalizing tr lastState reason with
  | zero => cases h
  | succ fuel ih =>
    unfold pollActivation at h
    obtain ⟨time, rest, rfl, h₁⟩ := h.of_ask_bind
    refine Found.cons ?_ rfl
    split at h₁
    · obtain ⟨_, rest, rfl, h₂⟩ := h₁.of_ask_bind
      refine Found.cons ?_ rfl
      obtain ⟨⟨found, seen⟩, looked, rest, rfl, hseen, h₃⟩ := h₂.of_bind
      have hfound := found_of_observe hseen
      cases found with
      | some found =>
        obtain ⟨rfl, hr⟩ := Path.of_done (r := .ok _) h₃
        cases hr
        exact hfound.append (by simp)
      | none =>
        refine Found.prepend ?_ hfound
        obtain ⟨now, rest, rfl, h₄⟩ := h₃.of_ask_bind
        refine Found.cons ?_ rfl
        obtain ⟨_, waited, rest, rfl, hwaited, h₅⟩ := h₄.of_bind
        refine Found.prepend (ih h₅) (reads_of_path ?_ hwaited)
        refine within_tryCatch (by simp [Call.isRead]) fun x _ => ?_
        split_ifs
        · exact within_pure ()
        · exact (within_raise _).2 trivial
    · obtain ⟨-, hr⟩ := Path.of_done (r := .ok _) h₁
      cases hr

/-- **A verification that returns has found the connection usable.** -/
theorem checked_of_verifyActivation {fuel : ℕ} {device activePath : String}
    {details : ActivationDetails}
    (h : Path (verifyActivation m rt fuel device activePath) tr (.done (.ok details))) :
    Checked details tr := by
  show Found (some details) tr
  unfold verifyActivation at h
  obtain ⟨time, rest, rfl, h₁⟩ := h.of_ask_bind
  refine Found.cons ?_ rfl
  obtain ⟨_, tr₁, rest, rfl, hp₁, h₂⟩ := h₁.of_bind
  refine Found.prepend ?_ (reads_of_path (reading_any.interfaces _ _) hp₁)
  obtain ⟨_, tr₂, rest, rfl, hp₂, h₃⟩ := h₂.of_bind
  refine Found.prepend ?_ (reads_of_path (reading_any.interfaces _ _) hp₂)
  obtain ⟨_, rest, rfl, h₄⟩ := h₃.of_ask_bind
  refine Found.cons ?_ rfl
  obtain ⟨_, rest, rfl, h₅⟩ := h₄.of_ask_bind
  refine Found.cons ?_ rfl
  obtain ⟨outcome, tr₃, rest, rfl, hp₃, hreturn⟩ := h₅.of_bind
  obtain ⟨polled, cleanup, rfl, hpolled, hcleanup⟩ := hp₃.of_ensure
  have hunsubscribe : ∀ e ∈ cleanup, e.call.isRead = true :=
    reads_of_path (within_bind (by simp [Call.isRead]) fun _ => by simp [Call.isRead]) hcleanup
  cases outcome with
  | inr seen => exact absurd hreturn not_path_raise
  | inl found =>
    obtain ⟨rfl, hr⟩ := Path.of_done (r := .ok _) hreturn
    cases hr
    exact ((found_of_pollActivation hpolled).append hunsubscribe).append (by simp)

end Verification

/-! ### The order of the calls -/

/-- The call that activates a connection on the device, and the active connection it returns -/
inductive Activation (device active : String) : Event Reply Exc → Prop
  | added {connection : Settings} {object path : String} {options : Dict} :
      Activation device active
        ⟨.addAndActivateConnection2 connection device object options, .ok (path, active)⟩
  | activated {connection object : String} :
      Activation device active ⟨.activateConnection connection device object, .ok active⟩

/-- The calls of a transaction from before its checkpoint is created until it is destroyed: the
activation comes in between, and after it the verification of what it has activated. -/
def Transacted (m : NetworkManager) (rt : Runtime) (active : String) (details : ActivationDetails)
    (tr : List (Event Reply Exc)) : Prop :=
  ∃ fuel device checkpoint activation before lookups found verification,
    tr = before ++ ⟨.checkpointCreate [device] m.checkpointTimeout
        (checkpointDestroyAll ||| checkpointDeleteNewConnections), .ok checkpoint⟩ ::
      (lookups ++ activation ::
        (found ++ (verification ++ [⟨.checkpointDestroy checkpoint, .ok ()⟩]))) ∧
    (∀ e ∈ before ++ (lookups ++ found), e.call.isRead = true) ∧
    Activation device active activation ∧
    Path (verifyActivation m rt fuel device active) verification (.done (.ok details)) ∧
    Checked details verification

/-- The active connection of an accepted request -/
def activePath : ConnectResult ⊕ ActivateResult → String :=
  Sum.elim (·.activeConnectionPath) (·.activeConnectionPath)

def activationDetails : ConnectResult ⊕ ActivateResult → ActivationDetails :=
  Sum.elim (·.details) (·.details)

/-- The calls of an accepted request: a transaction within one holding of the connection lock. -/
def Committed (m : NetworkManager) (rt : Runtime) (result : ConnectResult ⊕ ActivateResult)
    (tr : List (Event Reply Exc)) : Prop :=
  ∃ body, tr = ⟨.acquire .connection, .ok ()⟩ :: (body ++ [⟨.release .connection, .ok ()⟩]) ∧
    Transacted m rt (activePath result) (activationDetails result) body

section Order

variable {m : NetworkManager} {rt : Runtime} {active device checkpoint : String}
  {details : ActivationDetails} {tr before : List (Event Reply Exc)} {fuel : ℕ}

theorem Transacted.prepend (h : Transacted m rt active details tr)
    (hbefore : ∀ e ∈ before, e.call.isRead = true) :
    Transacted m rt active details (before ++ tr) := by
  obtain ⟨fuel, device, checkpoint, activation, before', lookups, found, verification, rfl, hreads,
    h⟩ := h
  refine ⟨fuel, device, checkpoint, activation, before ++ before', lookups, found, verification,
    by rw [List.append_assoc], ?_, h⟩
  rw [List.append_assoc]
  exact List.forall_mem_append.2 ⟨hbefore, hreads⟩

theorem Transacted.cons {e : Event Reply Exc} (h : Transacted m rt active details tr)
    (he : e.call.isRead = true) : Transacted m rt active details (e :: tr) :=
  show Transacted m rt active details ([e] ++ tr) from h.prepend (by simpa using he)

/-- A list without a decision -/
theorem filter_settles_eq_nil (h : ∀ e ∈ tr, e.call.isRead = true) :
    tr.filter (Txn.settles ·.call) = [] :=
  List.filter_eq_nil_iff.2 fun e he => by simp [Txn.not_settles_read (h e he)]

theorem Checked.filter_settles (h : Checked details tr) :
    tr.filter (Txn.settles ·.call) = [] := by
  obtain ⟨looked, n, left, rfl, hlooked, hleft, -⟩ := h
  rw [List.filter_append, filter_settles_eq_nil hlooked, List.nil_append,
    List.filter_cons_of_neg (by simp [Txn.settles]), filter_settles_eq_nil hleft]

/-- The one decision of a transaction is to destroy the checkpoint that it has created. -/
theorem Transacted.filter_settles (h : Transacted m rt active details tr) :
    ∃ device checkpoint,
      ⟨.checkpointCreate [device] m.checkpointTimeout
        (checkpointDestroyAll ||| checkpointDeleteNewConnections), .ok checkpoint⟩ ∈ tr ∧
      tr.filter (Txn.settles ·.call) = [⟨.checkpointDestroy checkpoint, .ok ()⟩] := by
  obtain ⟨fuel, device, checkpoint, activation, before, lookups, found, verification, rfl, hreads,
    hactivation, -, hchecked⟩ := h
  obtain ⟨hbefore, hreads⟩ := List.forall_mem_append.1 hreads
  obtain ⟨hlookups, hfound⟩ := List.forall_mem_append.1 hreads
  have hactivation : Txn.settles activation.call = false := by cases hactivation <;> rfl
  refine ⟨device, checkpoint, by simp, ?_⟩
  rw [List.filter_append, filter_settles_eq_nil hbefore, List.nil_append,
    List.filter_cons_of_neg (by simp [Txn.settles]), List.filter_append,
    filter_settles_eq_nil hlookups, List.nil_append, List.filter_cons_of_neg (by simp [hactivation]),
    List.filter_append, filter_settles_eq_nil hfound, List.nil_append, List.filter_append,
    hchecked.filter_settles]
  rfl

theorem Committed.filter_settles {result : ConnectResult ⊕ ActivateResult}
    (h : Committed m rt result tr) :
    ∃ device checkpoint,
      ⟨.checkpointCreate [device] m.checkpointTimeout
        (checkpointDestroyAll ||| checkpointDeleteNewConnections), .ok checkpoint⟩ ∈ tr ∧
      tr.filter (Txn.settles ·.call) = [⟨.checkpointDestroy checkpoint, .ok ()⟩] := by
  obtain ⟨body, rfl, hbody⟩ := h
  obtain ⟨device, checkpoint, hcreate, hdecision⟩ := hbody.filter_settles
  refine ⟨device, checkpoint, by simp [hcreate], ?_⟩
  rw [List.filter_cons_of_neg (by simp [Txn.settles]), List.filter_append, hdecision,
    List.filter_cons_of_neg (by simp [Txn.settles]), List.filter_nil, List.append_nil]

theorem not_path_undo {α : Type} {rejected : String} {x : Exc} {a : α} :
    ¬Path (undo checkpoint rejected x : Proc α) tr (.done (.ok a)) := by
  intro h
  unfold undo at h
  split_ifs at h
  · obtain ⟨_, _, _, _, -, h⟩ := h.of_bind
    exact not_path_raise h
  · obtain ⟨_, _, _, _, -, h⟩ := h.of_bind
    exact not_path_raise h
  · exact not_path_raise h

theorem path_finishTransaction
    (h : Path (finishTransaction m rt fuel checkpoint device active) tr (.done (.ok details))) :
    ∃ found verification, tr = found ++ (verification ++ [⟨.checkpointDestroy checkpoint, .ok ()⟩]) ∧
      (∀ e ∈ found, e.call.isRead = true) ∧
      Path (verifyActivation m rt fuel device active) verification (.done (.ok details)) := by
  unfold finishTransaction at h
  obtain ⟨_, found, rest, rfl, hfound, hbody⟩ := h.of_bind
  have hguarded := hbody.of_tryCatch fun x tr hx => by
    split_ifs at hx
    · obtain ⟨_, _, _, _, -, hx⟩ := hx.of_bind
      exact not_path_raise hx
    · exact not_path_raise hx
  obtain ⟨details', verification, rest, rfl, hverify, hdestroy⟩ := hguarded.of_bind
  obtain ⟨_, rest, rfl, hreturn⟩ := hdestroy.of_perform_bind
  obtain ⟨rfl, hr⟩ := Path.of_done (r := .ok _) hreturn
  cases hr
  exact ⟨found, verification, rfl, reads_of_path (reading_any.interfaces _ _) hfound,
    hverify⟩

theorem path_transact {α : Type} {rejected : String} {activate : Proc (α × String)}
    {result : (α × String) × ActivationDetails}
    (hactivate : ∀ tr r, Path activate tr (.done (.ok r)) →
      ∃ activation, tr = [activation] ∧ Activation device r.2 activation)
    (h : Path (transact m rt fuel device rejected activate) tr (.done (.ok result))) :
    Transacted m rt result.1.2 result.2 tr := by
  unfold transact createCheckpoint at h
  obtain ⟨checkpoint, tr₁, rest, rfl, hcreate, h₁⟩ := h.of_bind
  obtain ⟨_, before, rest', rfl, hbefore, hperform⟩ := hcreate.of_bind
  obtain rfl := hperform.of_perform
  obtain ⟨_, lookups, rest, rfl, hlookups, h₂⟩ := h₁.of_bind
  have hguarded := h₂.of_tryCatch fun x tr => not_path_undo
  obtain ⟨⟨a, active⟩, tr₂, rest, rfl, hact, h₃⟩ := hguarded.of_bind
  obtain ⟨activation, rfl, hactivation⟩ := hactivate _ _ hact
  obtain ⟨details, tr₃, rest, rfl, hfinish, hreturn⟩ := h₃.of_bind
  obtain ⟨rfl, hr⟩ := Path.of_done (r := .ok _) hreturn
  cases hr
  obtain ⟨found, verification, rfl, hfound, hverify⟩ := path_finishTransaction hfinish
  refine ⟨fuel, device, checkpoint, activation, before, lookups, found, verification, by simp, ?_,
    hactivation, hverify, checked_of_verifyActivation hverify⟩
  refine List.forall_mem_append.2 ⟨?_, List.forall_mem_append.2 ⟨?_, hfound⟩⟩
  · exact reads_of_path (reading_any.interfaces _ _) hbefore
  · exact reads_of_path (reading_any.interfaces _ _) hlookups

theorem path_withLock {α : Type} {lock : Lock} {body : Proc α} {a : α}
    (h : Path (withLock lock body) tr (.done (.ok a))) : ∃ rest,
      tr = ⟨.acquire lock, .ok ()⟩ :: (rest ++ [⟨.release lock, .ok ()⟩]) ∧
        Path body rest (.done (.ok a)) := by
  unfold withLock at h
  obtain ⟨_, rest, rfl, hguarded⟩ := h.of_perform_bind
  obtain ⟨rest, cleanup, rfl, hbody, hrelease⟩ := hguarded.of_ensure
  obtain rfl := hrelease.of_ask
  exact ⟨rest, rfl, hbody⟩

/-- A computation before the first call -/
theorem path_lift_bind {α β : Type} {r : Except Exc α} {f : α → Proc β} {b : β}
    (h : Path (lift r >>= f) tr (.done (.ok b))) : ∃ a, r = .ok a ∧ Path (f a) tr (.done (.ok b)) := by
  cases r with
  | ok a => exact ⟨a, rfl, h⟩
  | error x => exact absurd h not_path_raise

theorem committed_connect {uuid : String} {params : Dict} {result : ConnectResult}
    (h : Path (connect m rt fuel uuid params) tr (.done (.ok result))) :
    Committed m rt (.inl result) tr := by
  unfold connect at h
  obtain ⟨request, -, hlocked⟩ := path_lift_bind h
  obtain ⟨body, rfl, hbody⟩ := path_withLock hlocked
  refine ⟨body, rfl, ?_⟩
  obtain ⟨device, before, rest, rfl, hbefore, h₁⟩ := hbody.of_bind
  refine Transacted.prepend ?_ (reads_of_path (reading_any.wifiDevice true)
    hbefore)
  obtain ⟨⟨⟨path, active⟩, details⟩, tr₁, rest, rfl, htransact, hreturn⟩ := h₁.of_bind
  obtain ⟨rfl, hr⟩ := Path.of_done (r := .ok _) hreturn
  cases hr
  rw [List.append_nil]
  exact path_transact (fun tr r hr => ⟨_, hr.of_perform, .added⟩) htransact

theorem committed_activateProfile {params : Dict} {result : ActivateResult}
    (h : Path (activateProfile m rt fuel params) tr (.done (.ok result))) :
    Committed m rt (.inr result) tr := by
  unfold activateProfile at h
  obtain ⟨profileUuid, -, hlocked⟩ := path_lift_bind h
  obtain ⟨body, rfl, hbody⟩ := path_withLock hlocked
  refine ⟨body, rfl, ?_⟩
  obtain ⟨device, tr₁, rest, rfl, hp₁, h₁⟩ := hbody.of_bind
  refine Transacted.prepend ?_ (reads_of_path (reading_any.wifiDevice true) hp₁)
  obtain ⟨_, tr₂, rest, rfl, hp₂, h₂⟩ := h₁.of_bind
  refine Transacted.prepend ?_ (reads_of_path reading_any.settingsInterface hp₂)
  obtain ⟨path, tr₃, rest, rfl, hp₃, h₃⟩ := h₂.of_bind
  refine Transacted.prepend ?_ (reads_of_path
    (composes_replace reading_any.toComposes (by simp [Call.isRead]) rfl) hp₃)
  obtain ⟨_, tr₄, rest, rfl, hp₄, h₄⟩ := h₃.of_bind
  refine Transacted.prepend ?_ (reads_of_path (reading_any.interfaces _ _) hp₄)
  obtain ⟨settings, rest, rfl, h₅⟩ := h₄.of_perform_bind
  refine Transacted.cons ?_ (by simp [Call.isRead])
  dsimp only at h₅
  split at h₅
  · exact absurd h₅ not_path_raise
  obtain ⟨⟨⟨_, active⟩, details⟩, tr₆, rest, rfl, htransact, hreturn⟩ := h₅.of_bind
  obtain ⟨rfl, hr⟩ := Path.of_done (r := .ok _) hreturn
  cases hr
  rw [List.append_nil]
  refine path_transact (fun tr r hactivate => ?_) htransact
  obtain ⟨active, rest, rfl, hactive⟩ := hactivate.of_perform_bind
  obtain ⟨rfl, hr⟩ := Path.of_done (r := .ok _) hactive
  cases hr
  exact ⟨_, rfl, .activated⟩

/-- **An accepted request was verified before its checkpoint was destroyed.** -/
theorem committed_handle {request : TransactionRequest} {result : ConnectResult ⊕ ActivateResult}
    (h : Path (request.handle m rt fuel) tr (.done (.ok result))) : Committed m rt result tr := by
  cases request with
  | connect uuid params =>
    obtain ⟨connected, first, rest, rfl, hp, hreturn⟩ := Path.of_bind h
    obtain ⟨rfl, hr⟩ := Path.of_done (r := .ok _) hreturn
    cases hr
    rw [List.append_nil]
    exact committed_connect hp
  | activateProfile params =>
    obtain ⟨activated, first, rest, rfl, hp, hreturn⟩ := Path.of_bind h
    obtain ⟨rfl, hr⟩ := Path.of_done (r := .ok _) hreturn
    cases hr
    rw [List.append_nil]
    exact committed_activateProfile hp

end Order

end ApplianceAdmin.Network
