import ApplianceAdmin.Async.History
import ApplianceAdmin.Network.Commit
import ApplianceAdmin.Network.Handlers
import ApplianceAdmin.Network.Opening
import ApplianceAdmin.Network.Outage

/-!
# The surface on the bus

What an operation of the manager can ask of NetworkManager, whatever its parameters are and
whatever it has been answered.

* `Operation.Valid`: the parameters pass the checks of the operation;
* `Located`, `Created`, `Resolved`, `IsWifi`, `UnderLock`: what an operation has learnt from the
  answers so far;
* `Operation.Grounds`: the ground for each call that changes something or asks for a profile; what
  only looks at an object (its properties, its interfaces, its access points, its signals) needs
  none;
* `surface_justified`: every call of every run has its ground.
-/

namespace ApplianceAdmin.Network

open Async Async.Prog Async.Interruption Async.Monitor Python

/-! ### The parameters -/

/-- `params` pass the checks of the operation. -/
def Operation.Valid (rt : Runtime) : Operation → Prop
  | .start | .readiness => True
  | .status params | .disconnect params | .profiles params => params = []
  | .scan params => ∀ entry ∈ params, entry.1 = "force"
  | .connect _ params => ∃ request, WifiConnectRequest.validate rt params = .ok request
  | .activateProfile params => ∃ u, validatedUuid rt params "network.profile.activate" = .ok u
  | .deleteProfile params => ∃ u, validatedUuid rt params "network.profile.delete" = .ok u

/-- The operation is a transaction. -/
def Operation.Transacts : Operation → Prop
  | .connect _ _ | .activateProfile _ => True
  | _ => False

/-- The operation is about the profile `u`. -/
def Operation.Names (rt : Runtime) (u : String) : Operation → Prop
  | .activateProfile params => validatedUuid rt params "network.profile.activate" = .ok u
  | .deleteProfile params => validatedUuid rt params "network.profile.delete" = .ok u
  | _ => False

/-! ### What has been learnt -/

section Learnt

variable (m : NetworkManager) (rt : Runtime) (tr : List (Event Reply Exc))

/-- NetworkManager is there and has listed `device`, which is the configured Wi-Fi interface,
managed and ready. -/
structure Located (device : String) : Prop where
  owned : ⟨.nameHasOwner NM, .ok true⟩ ∈ tr
  listed : ∃ paths, ⟨.getDevices, .ok paths⟩ ∈ tr ∧ device ∈ paths
  ready : ∃ props, ⟨.getAll device DEVICE, .ok props⟩ ∈ tr ∧ Ready m rt props

/-- `checkpoint` has been created for `device`. -/
def Created (device checkpoint : String) : Prop :=
  ∃ timeout flags, ⟨.checkpointCreate [device] timeout flags, .ok checkpoint⟩ ∈ tr

/-- NetworkManager has said that `path` is the profile `u`. -/
def Resolved (u path : String) : Prop := ⟨.getConnectionByUuid u, .ok path⟩ ∈ tr

/-- The settings at `path` are those of a Wi-Fi profile. -/
def IsWifi (path : String) : Prop :=
  ∃ settings, ⟨.getSettings path, .ok settings⟩ ∈ tr ∧
    toStr rt (unwrapGet (settings.section "connection") "type" (.str "")) = "802-11-wireless"

/-- The lock `l` has been taken and not been given back. -/
structure UnderLock (l : Lock) : Prop where
  taken : ⟨.acquire l, .ok ()⟩ ∈ tr
  kept : ∀ e ∈ tr, e.call.releases = none

end Learnt

/-! ### The grounds -/

/-- The ground for a call of the operation after the answered calls `tr`.  The calls that look at
objects have none of their own. -/
def Operation.Grounds (m : NetworkManager) (rt : Runtime) (op : Operation)
    (tr : List (Event Reply Exc)) : Call → Prop
  | .acquire .scan => ∃ params, op = .scan params
  | .acquire .connection => op.Transacts
  | .release l => UnderLock tr l
  | .requestScan device =>
      (∃ params, op = .scan params) ∧ UnderLock tr .scan ∧ Located m rt tr device
  | .checkpointCreate devices timeout flags =>
      op.Transacts ∧ UnderLock tr .connection ∧ timeout = m.checkpointTimeout ∧ flags = 3 ∧
        ∃ device, devices = [device] ∧ Located m rt tr device
  | .checkpointDestroy c | .checkpointRollback c =>
      UnderLock tr .connection ∧ ∃ device, Located m rt tr device ∧ Created tr device c
  | .addAndActivateConnection2 connection device object options =>
      UnderLock tr .connection ∧ (∃ c, Located m rt tr device ∧ Created tr device c) ∧
        (∃ uuid params request, op = .connect uuid params ∧
          WifiConnectRequest.validate rt params = .ok request ∧
          connection = wifiConnection uuid request) ∧
        object = "/" ∧ options = [("persist", .str "disk")]
  | .activateConnection path device object =>
      UnderLock tr .connection ∧ (∃ c, Located m rt tr device ∧ Created tr device c) ∧
        (∃ params u, op = .activateProfile params ∧ op.Names rt u ∧ Resolved tr u path) ∧
        IsWifi rt tr path ∧ object = "/"
  | .disconnect device => op = .disconnect [] ∧ Located m rt tr device
  | .getConnectionByUuid u => op.Names rt u
  | .getSettings path =>
      (∃ params u, op = .activateProfile params ∧ op.Names rt u ∧ Resolved tr u path) ∨
        op = .profiles [] ∧ ∃ paths, ⟨.listConnections, .ok paths⟩ ∈ tr ∧ path ∈ paths
  | .delete path => ∃ params u, op = .deleteProfile params ∧ op.Names rt u ∧ Resolved tr u path
  | _ => True

/-- A call is made only by an operation with valid parameters, and on its ground. -/
def Operation.Surface (m : NetworkManager) (rt : Runtime) (op : Operation)
    (tr : List (Event Reply Exc)) (c : Call) : Prop :=
  op.Valid rt ∧ op.Grounds m rt tr c

/-! ### What is learnt is not forgotten -/

section Mono

variable {m : NetworkManager} {rt : Runtime} {tr tr' : List (Event Reply Exc)}

theorem Located.mono {device : String} (h : Located m rt tr device) (htr : tr ⊆ tr') :
    Located m rt tr' device where
  owned := htr h.owned
  listed := h.listed.imp fun _ hp => hp.imp_left (htr ·)
  ready := h.ready.imp fun _ hp => hp.imp_left (htr ·)

theorem Created.mono {device c : String} (h : Created tr device c) (htr : tr ⊆ tr') :
    Created tr' device c :=
  h.imp fun _ h => h.imp fun _ h => htr h

theorem IsWifi.mono {path : String} (h : IsWifi rt tr path) (htr : tr ⊆ tr') :
    IsWifi rt tr' path :=
  h.imp fun _ hp => hp.imp_left (htr ·)

theorem UnderLock.append {l : Lock} (h : UnderLock tr l) {new : List (Event Reply Exc)}
    (hnew : ∀ e ∈ new, e.call.lockFree) : UnderLock (tr ++ new) l where
  taken := List.mem_append_left new h.taken
  kept := List.forall_mem_append.2 ⟨h.kept, fun e he => (hnew e he).2⟩

end Mono

/-! ### What the lookups teach -/

section Lookups

variable {m : NetworkManager} {rt : Runtime} {α : Type} {tr : List (Event Reply Exc)}

theorem path_of_replace {p : Proc α} {x : Exc} {a : α}
    (h : Path (p.tryCatch fun exc => if exc.isException then raise x else raise exc) tr
      (.done (.ok a))) : Path p tr (.done (.ok a)) := by
  refine h.of_tryCatch fun y tr hy => ?_
  split at hy
  · exact not_path_raise hy
  · exact not_path_raise hy

theorem mem_of_properties {path interface : String} {props : Dict}
    (h : Path (properties path interface) tr (.done (.ok props))) :
    ⟨.getAll path interface, .ok props⟩ ∈ tr := by
  obtain ⟨_, first, rest, rfl, -, h⟩ := h.of_bind
  obtain rfl := (path_of_replace h).of_perform
  exact List.mem_append_right first (List.mem_singleton.2 rfl)

theorem mem_of_nameHasOwner {owned : Bool} (h : Path nameHasOwner tr (.done (.ok owned))) :
    ⟨.nameHasOwner NM, .ok owned⟩ ∈ tr := by
  obtain ⟨_, first, rest, rfl, -, h⟩ := h.of_bind
  obtain ⟨_, rest, rfl, howner⟩ := (path_of_replace h).of_perform_bind
  obtain rfl := howner.of_perform
  exact List.mem_append_right first (List.mem_cons_of_mem _ (List.mem_singleton.2 rfl))

theorem mem_of_devicePaths {paths : List String} (h : Path devicePaths tr (.done (.ok paths))) :
    ⟨.getDevices, .ok paths⟩ ∈ tr := by
  obtain ⟨_, first, rest, rfl, -, h⟩ := h.of_bind
  obtain rfl := h.of_perform
  exact List.mem_append_right first (List.mem_singleton.2 rfl)

theorem mem_of_createCheckpoint {device c : String}
    (h : Path (createCheckpoint m device) tr (.done (.ok c))) : Created tr device c := by
  obtain ⟨_, first, rest, rfl, -, h⟩ := h.of_bind
  obtain rfl := h.of_perform
  exact ⟨_, _, List.mem_append_right first (List.mem_singleton.2 rfl)⟩

/-- The loop returns a listed device whose properties it has read. -/
theorem ready_of_findWifiDevice {paths : List String} {device : String}
    (h : Path (findWifiDevice m rt true paths) tr (.done (.ok device))) :
    device ∈ paths ∧ ∃ props, ⟨.getAll device DEVICE, .ok props⟩ ∈ tr ∧ Ready m rt props := by
  induction paths generalizing tr with
  | nil => exact absurd h not_path_raise
  | cons path paths ih =>
    obtain ⟨props, first, rest, rfl, hprops, h⟩ := h.of_bind
    obtain ⟨deviceType, second, rest, rfl, htype, h⟩ := h.of_bind
    have hget := List.mem_append_left (second ++ rest) (mem_of_properties hprops)
    split at h
    · rename_i hconfigured
      obtain ⟨state, third, rest, rfl, hstate, h⟩ := h.of_bind
      split at h
      · exact absurd h not_path_raise
      · rename_i hready
        obtain ⟨rfl, hr⟩ := Path.of_done (r := .ok path) h
        cases hr
        simp only [true_and, not_or, Bool.not_eq_true', Bool.not_eq_false] at hready
        refine ⟨List.mem_cons_self, props, hget, ⟨?_, hconfigured.2⟩, hready.1, state,
          eq_ok_of_path hstate, hready.2⟩
        rw [eq_ok_of_path htype, hconfigured.1]
    · obtain ⟨hmem, props', hget', hready⟩ := ih h
      exact ⟨List.mem_cons_of_mem path hmem, props',
        List.mem_append_right first (List.mem_append_right second hget'), hready⟩

/-- **The device that the manager works on.** -/
theorem located_of_wifiDevice {device : String}
    (h : Path (wifiDevice m rt true) tr (.done (.ok device))) : Located m rt tr device := by
  obtain ⟨owned, first, rest, rfl, howned, h⟩ := h.of_bind
  split at h
  · exact absurd h not_path_raise
  · rename_i hnot
    obtain ⟨paths, second, rest, rfl, hpaths, h⟩ := h.of_bind
    obtain ⟨hmem, props, hget, hready⟩ := ready_of_findWifiDevice h
    have hname := mem_of_nameHasOwner howned
    rw [show owned = true by simpa using hnot] at hname
    exact ⟨List.mem_append_left _ hname,
      ⟨paths, List.mem_append_right _ (List.mem_append_left _ (mem_of_devicePaths hpaths)), hmem⟩,
      ⟨props, List.mem_append_right _ (List.mem_append_right _ hget), hready⟩⟩

end Lookups

/-! ### Under a lock -/

section Runs

variable {m : NetworkManager} {rt : Runtime} {op : Operation} {α β : Type}
  {tr : List (Event Reply Exc)} {l : Lock}

theorem grounds_of_modest {c : Call} (hc : c.modest = true) : op.Grounds m rt tr c := by
  cases c <;> trivial

variable (hvalid : op.Valid rt)

include hvalid

/-- The rest of what is done under a lock -/
theorem wp_underLock (hlock : UnderLock tr l) {S : Call → Prop} {p : Proc α} (hp : Calls S p)
    (hfree : ∀ c, S c → c.lockFree)
    (hS : ∀ new c, UnderLock (tr ++ new) l → S c → op.Grounds m rt (tr ++ new) c) :
    (history (op.Surface m rt)).wp p (fun _ tr' => UnderLock tr' l) tr := by
  refine wp_mono (wp_history hp fun new c hnew hc => ?_) ?_
  · exact ⟨hvalid, hS new c (hlock.append fun e he => hfree _ (hnew e he)) hc⟩
  · rintro r tr' ⟨new, rfl, hpath⟩
    exact hlock.append fun e he => hfree _ (hpath.calls hp e he)

/-- One part of what is done under a lock -/
theorem wp_underLock_bind (hlock : UnderLock tr l) {S : Call → Prop} {p : Proc α}
    (hp : Calls S p) (hfree : ∀ c, S c → c.lockFree)
    (hS : ∀ new c, UnderLock (tr ++ new) l → S c → op.Grounds m rt (tr ++ new) c)
    {f : α → Proc β} (hf : ∀ a new, Path p new (.done (.ok a)) → UnderLock (tr ++ new) l →
      (history (op.Surface m rt)).wp (f a) (fun _ tr' => UnderLock tr' l) (tr ++ new)) :
    (history (op.Surface m rt)).wp (p >>= f) (fun _ tr' => UnderLock tr' l) tr := by
  refine wp_history_bind hp (fun new c hnew hc => ?_) (fun a new hpath hnew => ?_) ?_
  · exact ⟨hvalid, hS new c (hlock.append fun e he => hfree _ (hnew e he)) hc⟩
  · exact hf a new hpath (hlock.append fun e he => hfree _ (hnew e he))
  · exact fun x new hnew => hlock.append fun e he => hfree _ (hnew e he)

theorem wp_looking_bind (hlock : UnderLock tr l) {p : Proc α} (hp : Looking p) {f : α → Proc β}
    (hf : ∀ a new, Path p new (.done (.ok a)) → UnderLock (tr ++ new) l →
      (history (op.Surface m rt)).wp (f a) (fun _ tr' => UnderLock tr' l) (tr ++ new)) :
    (history (op.Surface m rt)).wp (p >>= f) (fun _ tr' => UnderLock tr' l) tr :=
  wp_underLock_bind hvalid hlock (calls_of_prompt hp)
    (fun _ hc => Call.lockFree_of_modest (Call.modest_of_looks hc))
    (fun _ _ _ hc => grounds_of_modest (Call.modest_of_looks hc)) hf

/-- One call under a lock -/
theorem wp_perform_underLock_bind (hlock : UnderLock tr l) {c : Call} (hfree : c.lockFree)
    (hc : op.Grounds m rt tr c) {f : Reply c → Proc β}
    (hf : ∀ a, UnderLock (tr ++ [⟨c, .ok a⟩]) l →
      (history (op.Surface m rt)).wp (f a) (fun _ tr' => UnderLock tr' l) (tr ++ [⟨c, .ok a⟩])) :
    (history (op.Surface m rt)).wp (perform c >>= f) (fun _ tr' => UnderLock tr' l) tr := by
  have hafter (r : Except Exc (Reply c)) : UnderLock (tr ++ [⟨c, r⟩]) l :=
    hlock.append fun e he => List.mem_singleton.1 he ▸ hfree
  refine wp_perform_bind _ ⟨hvalid, hc⟩ ?_ ?_
  · rintro a tr' ⟨-, rfl⟩
    exact hf a (hafter _)
  · rintro x tr' ⟨-, rfl⟩
    exact hafter _

/-- A lock around a program -/
theorem wp_surface_withLock (hkept : ∀ e ∈ tr, e.call.releases = none)
    (hacquire : op.Grounds m rt tr (.acquire l)) {body : Proc α}
    (hbody : ∀ tr', UnderLock tr' l →
      (history (op.Surface m rt)).wp body (fun _ tr' => UnderLock tr' l) tr') :
    (history (op.Surface m rt)).wp (withLock l body) (fun _ _ => True) tr := by
  refine wp_perform_bind _ ⟨hvalid, hacquire⟩ ?_ fun _ _ _ => trivial
  rintro a tr' ⟨-, rfl⟩
  have hlock : UnderLock (tr ++ [⟨.acquire l, .ok a⟩]) l :=
    ⟨List.mem_append_right tr (List.mem_singleton.2 rfl), List.forall_mem_append.2
      ⟨hkept, fun e he => List.mem_singleton.1 he ▸ rfl⟩⟩
  refine (wp_ensure _).2 (wp_mono (hbody _ hlock) fun r tr' htr' => ?_)
  exact (wp_ask _).2 ⟨⟨hvalid, htr'⟩, fun _ _ _ => trivial⟩

/-! ### The operations -/

/-- A transaction asks for its checkpoint, its activation and what looks. -/
theorem surface_transact (htransacts : op.Transacts)
    (hlock : UnderLock tr .connection) {device : String} (hdevice : Located m rt tr device)
    {fuel : ℕ} {rejected : String} {S : Call → Prop} {activate : Proc (α × String)}
    (hactivate : Calls S activate) (hfree : ∀ c, S c → c.lockFree)
    (hS : ∀ new c checkpoint, UnderLock (tr ++ new) .connection →
      Created (tr ++ new) device checkpoint → S c → op.Grounds m rt (tr ++ new) c) :
    (history (op.Surface m rt)).wp (transact m rt fuel device rejected activate)
      (fun _ tr' => UnderLock tr' .connection) tr := by
  let create : Call := .checkpointCreate [device] m.checkpointTimeout
    (checkpointDestroyAll ||| checkpointDeleteNewConnections)
  have hcreate : Calls (fun c => c.looks = true ∨ c = create) (createCheckpoint m device) :=
    calls_bind (calls_mono (fun _ => .inl) (calls_of_prompt (looking.interfaces _ _))) fun _ =>
      (calls_perform _).2 (.inr rfl)
  refine wp_underLock_bind hvalid hlock hcreate ?_ ?_ fun checkpoint new hpath hlock₁ => ?_
  · rintro c (hc | rfl)
    · exact Call.lockFree_of_modest (Call.modest_of_looks hc)
    · exact ⟨rfl, rfl⟩
  · rintro new c hlock (hc | rfl)
    · exact grounds_of_modest (Call.modest_of_looks hc)
    · exact ⟨htransacts, hlock, rfl, rfl, device, rfl, hdevice.mono (List.subset_append_left tr new)⟩
  have hcreated : Created (tr ++ new) device checkpoint :=
    (mem_of_createCheckpoint hpath).mono (List.subset_append_right tr new)
  refine wp_looking_bind hvalid hlock₁ (looking.interfaces _ _) fun _ new' _ hlock₂ => ?_
  let T (c : Call) : Prop := c.modest = true ∨ S c ∨ c = .checkpointDestroy checkpoint ∨
    c = .checkpointRollback checkpoint
  have hfinish (active : α × String) :
      Calls T (finishTransaction m rt fuel checkpoint device active.2) :=
    calls_of_prompt (tidy_finishTransaction (fun _ => .inl) (.inr (.inr (.inl rfl)))
      (.inr (.inr (.inr rfl))) fuel device active.2)
  refine wp_underLock (S := T) hvalid hlock₂ (calls_tryCatch ?_ fun exc => ?_) ?_ ?_
  · exact calls_bind (calls_mono (fun _ hc => .inr (.inl hc)) hactivate) fun active =>
      calls_bind (hfinish active) fun _ => calls_pure _
  · exact calls_of_prompt (tidy_undo _ (.inr (.inr (.inr rfl))) rejected exc)
  · rintro c (hc | hc | rfl | rfl)
    · exact Call.lockFree_of_modest hc
    · exact hfree c hc
    · exact ⟨rfl, rfl⟩
    · exact ⟨rfl, rfl⟩
  · intro last c hlock hc
    rw [List.append_assoc, List.append_assoc] at hlock ⊢
    have hcreated' : Created (tr ++ (new ++ (new' ++ last))) device checkpoint := by
      rw [← List.append_assoc]
      exact hcreated.mono (List.subset_append_left _ _)
    have hdevice' : Located m rt (tr ++ (new ++ (new' ++ last))) device :=
      hdevice.mono (List.subset_append_left _ _)
    rcases hc with hc | hc | rfl | rfl
    · exact grounds_of_modest hc
    · exact hS _ c checkpoint hlock hcreated' hc
    · exact ⟨hlock, device, hdevice', hcreated'⟩
    · exact ⟨hlock, device, hdevice', hcreated'⟩

end Runs

section Operations

variable {m : NetworkManager} {rt : Runtime} {fuel : ℕ} {params : Dict}

theorem surface_connect {uuid : String} :
    (history (Operation.Surface m rt (.connect uuid params))).wp (connect m rt fuel uuid params)
      (fun _ _ => True) [] := by
  unfold connect
  cases hrequest : WifiConnectRequest.validate rt params with
  | error x => trivial
  | ok request =>
    have hvalid : Operation.Valid rt (.connect uuid params) := ⟨request, hrequest⟩
    refine wp_surface_withLock (l := .connection) hvalid (fun e he => absurd he List.not_mem_nil) trivial
      fun tr hlock => ?_
    refine wp_looking_bind hvalid hlock (looking.wifiDevice true) fun device new hpath hlock => ?_
    have hdevice : Located m rt (tr ++ new) device :=
      (located_of_wifiDevice hpath).mono (List.subset_append_right tr new)
    refine (wp_bind _).2 (wp_mono (surface_transact (S := fun c => c = .addAndActivateConnection2
      (wifiConnection uuid request) device "/" [("persist", .str "disk")]) hvalid trivial hlock
      hdevice ((calls_perform _).2 rfl) ?_ ?_) fun r tr' hlock => ?_)
    · rintro c rfl
      exact ⟨rfl, rfl⟩
    · rintro new c checkpoint hlock hcreated rfl
      exact ⟨hlock, ⟨checkpoint, hdevice.mono (List.subset_append_left _ new), hcreated⟩,
        ⟨uuid, params, request, rfl, hrequest, rfl⟩, rfl, rfl⟩
    · cases r with
      | ok result => exact hlock
      | error x => exact hlock

theorem surface_activateProfile :
    (history (Operation.Surface m rt (.activateProfile params))).wp
      (activateProfile m rt fuel params) (fun _ _ => True) [] := by
  unfold activateProfile
  cases hu : validatedUuid rt params "network.profile.activate" with
  | error x => trivial
  | ok u =>
    have hvalid : Operation.Valid rt (.activateProfile params) := ⟨u, hu⟩
    refine wp_surface_withLock (l := .connection) hvalid (fun e he => absurd he List.not_mem_nil) trivial
      fun tr hlock => ?_
    refine wp_looking_bind hvalid hlock (looking.wifiDevice true) fun device new hpath hlock => ?_
    have hdevice : Located m rt (tr ++ new) device :=
      (located_of_wifiDevice hpath).mono (List.subset_append_right tr new)
    generalize tr ++ new = tr at hlock hdevice ⊢
    refine wp_looking_bind hvalid hlock looking.settingsInterface fun _ new _ hlock => ?_
    replace hdevice := hdevice.mono (List.subset_append_left tr new)
    generalize tr ++ new = tr at hlock hdevice ⊢
    refine wp_underLock_bind (S := fun c => c = .getConnectionByUuid u) hvalid hlock
      (calls_of_prompt (composes_replace tidy_composes
        (tidy_perform (S := fun c => c = .getConnectionByUuid u) rfl) rfl))
      ?_ ?_ fun path new hpath hlock => ?_
    · rintro c rfl
      exact ⟨rfl, rfl⟩
    · rintro new c - rfl
      exact hu
    have hresolved : Resolved (tr ++ new) u path := by
      obtain rfl := (path_of_replace hpath).of_perform
      exact List.mem_append_right tr (List.mem_singleton.2 rfl)
    replace hdevice := hdevice.mono (List.subset_append_left tr new)
    generalize tr ++ new = tr at hlock hdevice hresolved ⊢
    refine wp_looking_bind hvalid hlock (looking.interfaces _ _) fun _ new _ hlock => ?_
    replace hdevice := hdevice.mono (List.subset_append_left tr new)
    replace hresolved : Resolved (tr ++ new) u path := List.mem_append_left new hresolved
    generalize tr ++ new = tr at hlock hdevice hresolved ⊢
    refine wp_perform_underLock_bind (c := .getSettings path) hvalid hlock ⟨rfl, rfl⟩
      (Or.inl ⟨params, u, rfl, hu, hresolved⟩) fun settings hlock => ?_
    replace hdevice := hdevice.mono
      (List.subset_append_left tr [⟨.getSettings path, .ok settings⟩])
    dsimp only
    split
    · exact hlock
    · rename_i htype
      have hwifi : IsWifi rt (tr ++ [⟨.getSettings path, .ok settings⟩]) path :=
        ⟨settings, List.mem_append_right tr (List.mem_singleton.2 rfl), not_not.1 htype⟩
      refine (wp_bind _).2 (wp_mono (surface_transact
        (S := fun c => c = .activateConnection path device "/") hvalid trivial hlock hdevice
        (calls_bind ((calls_perform _).2 rfl) fun _ => calls_pure _) ?_ ?_) fun r tr' hlock => ?_)
      · rintro c rfl
        exact ⟨rfl, rfl⟩
      · rintro new c checkpoint hlock hcreated rfl
        refine ⟨hlock, ⟨checkpoint, hdevice.mono (List.subset_append_left _ new), hcreated⟩,
          ⟨params, u, rfl, hu, ?_⟩, hwifi.mono (List.subset_append_left _ new), rfl⟩
        exact List.mem_append_left new (List.mem_append_left _ hresolved)
      · cases r with
        | ok result => exact hlock
        | error x => exact hlock

theorem surface_scan :
    (history (Operation.Surface m rt (.scan params))).wp (scan m rt params) (fun _ _ => True) [] := by
  unfold scan
  dsimp only
  split
  · trivial
  rename_i hforce
  have hvalid : Operation.Valid rt (.scan params) := by
    simpa [Operation.Valid] using hforce
  refine wp_ask_bind _ ⟨hvalid, trivial⟩ ?_
  rintro now tr ⟨-, rfl⟩
  refine wp_ask_bind _ ⟨hvalid, trivial⟩ ?_
  rintro self tr ⟨-, rfl⟩
  split
  · trivial
  refine wp_surface_withLock (l := .scan) hvalid ?_ ⟨params, rfl⟩ fun tr hlock => ?_
  · simp [Call.releases]
  refine wp_looking_bind hvalid hlock (looking.wifiDevice true) fun device new hpath hlock => ?_
  have hdevice : Located m rt (tr ++ new) device :=
    (located_of_wifiDevice hpath).mono (List.subset_append_right tr new)
  refine wp_underLock (S := fun c => c.modest = true ∨ c = .requestScan device) hvalid hlock
    (calls_of_prompt (tidy_scanOn (fun _ => .inl) (.inr rfl))) ?_ ?_
  · rintro c (hc | rfl)
    · exact Call.lockFree_of_modest hc
    · exact ⟨rfl, rfl⟩
  · rintro last c hlock (hc | rfl)
    · exact grounds_of_modest hc
    · exact ⟨⟨params, rfl⟩, hlock, hdevice.mono (List.subset_append_left _ last)⟩

/-- What only looks has its ground. -/
theorem surface_looking (op : Operation) (hvalid : op.Valid rt) {α : Type} {p : Proc α}
    (hp : Looking p) : (history (op.Surface m rt)).wp p (fun _ _ => True) [] :=
  wp_mono (wp_history (calls_of_prompt hp) fun _ _ _ hc =>
    ⟨hvalid, grounds_of_modest (Call.modest_of_looks hc)⟩) fun _ _ _ => trivial

/-- The same for the first part of a sequence -/
theorem surface_looking_bind {op : Operation} (hvalid : op.Valid rt) {α β : Type} {p : Proc α}
    (hp : Looking p) {tr : List (Event Reply Exc)} {f : α → Proc β}
    (hf : ∀ a new, Path p new (.done (.ok a)) →
      (history (op.Surface m rt)).wp (f a) (fun _ _ => True) (tr ++ new)) :
    (history (op.Surface m rt)).wp (p >>= f) (fun _ _ => True) tr :=
  wp_history_bind (calls_of_prompt hp)
    (fun _ _ _ hc => ⟨hvalid, grounds_of_modest (Call.modest_of_looks hc)⟩)
    (fun a new hpath _ => hf a new hpath) fun _ _ _ => trivial

theorem surface_status :
    (history (Operation.Surface m rt (.status params))).wp (status m rt params)
      (fun _ _ => True) [] := by
  by_cases hparams : params = []
  · exact surface_looking (.status params) hparams (looking.status params)
  · rw [status, if_pos (by simpa using hparams)]
    trivial

theorem surface_disconnect :
    (history (Operation.Surface m rt (.disconnect params))).wp (disconnect m rt params)
      (fun _ _ => True) [] := by
  unfold disconnect
  split
  · trivial
  rename_i hparams
  have hnone : params = [] := by simpa using hparams
  have hvalid : (Operation.disconnect params).Valid rt := hnone
  refine surface_looking_bind hvalid (looking.wifiDevice true) fun device new hpath => ?_
  have hdevice : Located m rt ([] ++ new) device := located_of_wifiDevice hpath
  refine surface_looking_bind hvalid (looking.interfaces _ _) fun _ new' _ => ?_
  refine wp_perform_bind _ ⟨hvalid, congrArg _ hnone, ?_⟩ (fun _ _ _ => trivial)
    fun _ _ _ => trivial
  exact hdevice.mono (List.subset_append_left _ new')

theorem surface_deleteProfile :
    (history (Operation.Surface m rt (.deleteProfile params))).wp (deleteProfile rt params)
      (fun _ _ => True) [] := by
  unfold deleteProfile
  cases hu : validatedUuid rt params "network.profile.delete" with
  | error x => trivial
  | ok u =>
    have hvalid : Operation.Valid rt (.deleteProfile params) := ⟨u, hu⟩
    refine surface_looking_bind hvalid looking.settingsInterface fun _ new _ => ?_
    generalize ([] : List (Event Reply Exc)) ++ new = tr
    have hbody : (history (Operation.Surface m rt (.deleteProfile params))).wp (do
        let path ← perform (Call.getConnectionByUuid u)
        interfaces path [SETTINGS_CONNECTION]
        perform (Call.delete path) : Proc Unit) (fun _ _ => True) tr := by
      refine wp_perform_bind _ ⟨hvalid, hu⟩ ?_ fun _ _ _ => trivial
      rintro path tr' ⟨-, rfl⟩
      refine surface_looking_bind hvalid (looking.interfaces _ _) fun _ new _ => ?_
      refine (wp_perform _).2 ⟨⟨hvalid, params, u, rfl, hu, ?_⟩, fun _ _ _ => trivial⟩
      exact List.mem_append_left new (List.mem_append_right tr (List.mem_singleton.2 rfl))
    refine (wp_bind _).2 ((wp_tryCatch _).2 (wp_mono hbody fun r tr' _ => ?_))
    cases r with
    | ok a => trivial
    | error x =>
      show (history _).wp (if _ then _ else _) _ _
      split_ifs <;> trivial

theorem surface_profiles :
    (history (Operation.Surface m rt (.profiles params))).wp (profiles m rt params)
      (fun _ _ => True) [] := by
  unfold profiles
  split
  · trivial
  rename_i hparams
  have hnone : params = [] := by simpa using hparams
  have hvalid : (Operation.profiles params).Valid rt := hnone
  have hlook {α β : Type} {p : Proc α} (hp : Looking p) {tr : List (Event Reply Exc)}
      {f : α → Proc β} (hf : ∀ a tr', (history (Operation.Surface m rt (.profiles params))).wp (f a)
        (fun _ _ => True) tr') :
      (history (Operation.Surface m rt (.profiles params))).wp (p >>= f) (fun _ _ => True) tr :=
    surface_looking_bind hvalid hp fun a _ _ => hf a _
  refine hlook (looking.wifiDevice true) fun _ tr => ?_
  refine hlook (looking.properties _ _) fun nmProps tr => ?_
  refine hlook (prompt_lift _) fun active tr => ?_
  refine hlook (looking.activeUuids active) fun uuids tr => ?_
  refine hlook looking.settingsInterface fun _ tr => ?_
  refine wp_perform_bind _ ⟨hvalid, trivial⟩ ?_ fun _ _ _ => trivial
  rintro paths tr' ⟨-, rfl⟩
  let S (c : Call) : Prop := c.looks = true ∨ ∃ path ∈ paths, c = .getSettings path
  have hcalls : Tidy S (collect (readProfile rt uuids) paths) :=
    composes_collect tidy_composes fun path hpath =>
      (tidy_searches fun _ => .inl).readProfile (tidy_perform (.inr ⟨path, hpath, rfl⟩)) uuids
  refine wp_mono (wp_history (calls_of_prompt hcalls) ?_) fun _ _ _ => trivial
  rintro new c - (hc | ⟨path, hpath, rfl⟩)
  · exact ⟨hvalid, grounds_of_modest (Call.modest_of_looks hc)⟩
  · refine ⟨hvalid, .inr ⟨congrArg _ hnone, paths, ?_, hpath⟩⟩
    exact List.mem_append_left new (List.mem_append_right tr (List.mem_singleton.2 rfl))

/-- The calls of an operation, one by one -/
theorem surface_run (op : Operation) :
    (history (op.Surface m rt)).wp (op.run m rt fuel) (fun _ _ => True) [] := by
  have hend {α : Type} {p : Proc α} {tr : List (Event Reply Exc)}
      (hp : (history (op.Surface m rt)).wp p (fun _ _ => True) tr) :
      (history (op.Surface m rt)).wp (p >>= fun _ => pure ()) (fun _ _ => True) tr :=
    (wp_bind _).2 (wp_mono hp fun r _ _ => by cases r <;> trivial)
  cases op with
  | start => exact surface_looking .start trivial looking.start
  | readiness => exact hend (surface_looking .readiness trivial looking.readiness)
  | status params => exact hend surface_status
  | scan params => exact hend surface_scan
  | connect uuid params => exact hend surface_connect
  | disconnect params => exact hend surface_disconnect
  | profiles params => exact hend surface_profiles
  | activateProfile params => exact hend surface_activateProfile
  | deleteProfile params => exact hend surface_deleteProfile

/-- **The surface of the manager is closed.**  In every run of an operation, each call is made by
an operation with valid parameters and rests on what NetworkManager has answered before. -/
theorem surface_justified {op : Operation} {tr : List (Event Reply Exc)} {p : Proc Unit}
    (h : Path (op.run m rt fuel) tr p) : Justified (op.Surface m rt) tr p :=
  justified_of_path (surface_run op) h

end Operations

/-- A run of `connect` on a machine with a usable connection -/
def onlineConnect : List (Event Reply Exc) × Option (Except Exc Unit) :=
  exec (fun _ c => (.ok (online "/checkpoint/1" c), ()))
    ((Operation.connect "uuid" [("ssid", .str "home")]).run .default .ascii 1) ()

theorem path_onlineConnect : Path
    ((Operation.connect "uuid" [("ssid", .str "home")]).run .default .ascii 1)
    onlineConnect.1 (.done (.ok ())) :=
  path_of_exec _ _ _ (by decide +kernel)

/-- The checkpoints that were destroyed on request -/
def destroyedOf (tr : List (Event Reply Exc)) : List String :=
  tr.filterMap fun
    | ⟨.checkpointDestroy c, .ok _⟩ => some c
    | _ => none

/-- The checkpoint that is destroyed has been created for the device that was located. -/
theorem onlineConnect_justified :
    destroyedOf onlineConnect.1 = ["/checkpoint/1"] ∧
      Justified (Operation.Surface .default .ascii (.connect "uuid" [("ssid", .str "home")]))
        onlineConnect.1 (.done (.ok ()) : Proc Unit) :=
  ⟨by decide +kernel, surface_justified path_onlineConnect⟩

end ApplianceAdmin.Network
