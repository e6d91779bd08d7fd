import ApplianceAdmin.Network.Surface

/-!
# Requests that fail

An operation that raises has changed nothing at NetworkManager, except for a transaction whose
checkpoint has been created; that one ends with a `NetworkActivationError`, because the backend is
unavailable, or by cancellation.

* `Untouched`: no call that changes something has been answered by a value;
* `Refused`: what holds when an operation raises, with a rule for what comes before;
* `refused_transact`: a transaction turns every other exception into one of these three;
* `failures_harmless`: so it is for all operations.
-/

namespace ApplianceAdmin.Network

open Async Async.Prog Async.Interruption Python

/-- A call by which NetworkManager is told to change something -/
def Call.alters : Call → Bool
  | .checkpointCreate _ _ _ | .checkpointDestroy _ | .checkpointRollback _
  | .addAndActivateConnection2 _ _ _ _ | .activateConnection _ _ _ | .disconnect _ | .delete _ => true
  | _ => false

theorem Call.alters_of_modest {c : Call} (hc : c.modest = true) : c.alters = false := by
  cases c <;> first | rfl | cases hc

/-- NetworkManager has changed nothing. -/
def Untouched (tr : List (Event Reply Exc)) : Prop :=
  ∀ e ∈ tr, e.call.alters = true → ∃ x, e.reply = .error x

/-- What a transaction raises once its checkpoint has been created -/
def undone (x : Exc) : Bool := x.isActivation || x.isBackendUnavailable || !x.isException

/-- What is raised after the answered calls `tr` is `x`; `T` says that there may be a transaction. -/
def Refused (T : Prop) (tr : List (Event Reply Exc)) (x : Exc) : Prop :=
  Untouched tr ∨ T ∧ (∃ device checkpoint, Created tr device checkpoint) ∧ undone x = true

section Refused

variable {α β : Type} {m : NetworkManager} {rt : Runtime} {tr tr' : List (Event Reply Exc)} {x : Exc}
  {T : Prop}

theorem untouched_of_calls {p q : Proc α} (hp : Calls (fun c => c.alters = false) p)
    (h : Path p tr q) : Untouched tr := fun e he halters => by
  rw [h.calls hp e he] at halters
  cases halters

theorem Untouched.append (h : Untouched tr) (h' : Untouched tr') : Untouched (tr ++ tr') :=
  List.forall_mem_append.2 ⟨h, h'⟩

theorem Refused.append (h : Untouched tr) (h' : Refused T tr' x) : Refused T (tr ++ tr') x := by
  rcases h' with h' | ⟨hT, ⟨device, checkpoint, hcreated⟩, hx⟩
  · exact .inl (h.append h')
  · exact .inr ⟨hT, ⟨device, checkpoint, hcreated.mono (List.subset_append_right tr tr')⟩, hx⟩

/-- What changes nothing comes first. -/
theorem refused_bind {p : Proc α} {f : α → Proc β} (hp : Calls (fun c => c.alters = false) p)
    (hf : ∀ a tr, Path (f a) tr (.done (.error x)) → Refused T tr x)
    (h : Path (p >>= f) tr (.done (.error x))) : Refused T tr x := by
  rcases h.of_bind_raise with h | ⟨a, first, rest, rfl, hfirst, hrest⟩
  · exact .inl (untouched_of_calls hp h)
  · exact (hf a rest hrest).append (untouched_of_calls hp hfirst)

/-- What returns whatever it was given comes last. -/
theorem refused_bind_pure {p : Proc α} {f : α → Proc β} (hf : ∀ a, ∃ b, f a = pure b)
    (hp : ∀ tr, Path p tr (.done (.error x)) → Refused T tr x)
    (h : Path (p >>= f) tr (.done (.error x))) : Refused T tr x := by
  rcases h.of_bind_raise with h | ⟨a, first, rest, rfl, -, hrest⟩
  · exact hp tr h
  · obtain ⟨b, hb⟩ := hf a
    rw [hb] at hrest
    cases hrest

theorem unaltering_of_looking {p : Proc α} (hp : Looking p) :
    Calls (fun c => c.alters = false) p :=
  calls_mono (fun _ hc => Call.alters_of_modest (Call.modest_of_looks hc)) (calls_of_prompt hp)

/-- One call is the last thing that is done. -/
theorem refused_perform {c : Call} (h : Path (perform c) tr (.done (.error x))) : Refused T tr x := by
  obtain rfl := h.of_perform
  refine .inl fun e he _ => ?_
  obtain rfl := List.mem_singleton.1 he
  exact ⟨x, rfl⟩

/-! ### Transactions -/

theorem path_replace_raise {p : Proc α} {y : Exc}
    (h : Path (p.tryCatch fun exc => if exc.isException then raise y else raise exc) tr
      (.done (.error x))) : x = y ∨ x.isException = false := by
  obtain ⟨z, first, rest, rfl, -, h⟩ := h.of_tryCatch_raise
  split at h
  · cases h
    exact .inl rfl
  · rename_i hz
    cases h
    exact .inr (by simpa using hz)

theorem undone_start (h : Path start tr (.done (.error x))) : undone x = true := by
  unfold start at h
  rcases h.of_bind_raise with h | ⟨self, first, rest, rfl, -, h⟩
  · cases h with
    | @cons _ _ r _ _ h => cases r <;> cases h
  split at h
  · cases h
  rcases h.of_bind_raise with h | ⟨_, second, rest, rfl, -, h⟩
  · rcases path_replace_raise h with rfl | hx
    · rfl
    · simp [undone, hx]
  · cases h with
    | @cons _ _ r _ _ h => cases r <;> cases h

/-- An object that cannot be looked up is an unavailable backend. -/
theorem undone_interfaces {path : String} {names : List String}
    (h : Path (interfaces path names) tr (.done (.error x))) : undone x = true := by
  rcases h.of_bind_raise with h | ⟨_, first, rest, rfl, -, h⟩
  · exact undone_start h
  · rcases path_replace_raise h with rfl | hx
    · rfl
    · simp [undone, hx]

theorem undone_rollback {checkpoint : String}
    (h : Path (rollback checkpoint) tr (.done (.error x))) : undone x = true := by
  obtain ⟨y, first, rest, rfl, -, h⟩ := h.of_tryCatch_raise
  split at h
  · cases h
  · rename_i hy
    cases h
    simp [undone, hy]

theorem undone_undo {checkpoint rejected : String} {y : Exc}
    (h : Path (undo checkpoint rejected y : Proc α) tr (.done (.error x))) : undone x = true := by
  unfold undo at h
  split at h
  · rename_i hy
    rcases h.of_bind_raise with h | ⟨_, first, rest, rfl, -, h⟩
    · exact undone_rollback h
    · cases h
      simp [undone, hy]
  split at h
  · rcases h.of_bind_raise with h | ⟨_, first, rest, rfl, -, h⟩
    · exact undone_rollback h
    · cases h
      rfl
  · rename_i hy
    cases h
    simp [undone, hy]

theorem refused_transact (hT : T) {fuel : ℕ} {device rejected : String} {activate : Proc (α × String)}
    (h : Path (transact m rt fuel device rejected activate) tr (.done (.error x))) :
    Refused T tr x := by
  rcases h.of_bind_raise with h | ⟨checkpoint, first, rest, rfl, hcreate, h⟩
  · exact refused_bind (unaltering_of_looking (looking.interfaces _ _))
      (fun _ _ h => refused_perform h) h
  refine .inr ⟨hT, ⟨device, checkpoint,
    (mem_of_createCheckpoint hcreate).mono (List.subset_append_left first rest)⟩, ?_⟩
  rcases h.of_bind_raise with h | ⟨_, second, rest, rfl, -, h⟩
  · exact undone_interfaces h
  · obtain ⟨y, third, rest, rfl, -, h⟩ := h.of_tryCatch_raise
    exact undone_undo h

/-- A lock around the rest -/
theorem refused_withLock {l : Lock} {body : Proc α}
    (hbody : ∀ tr, Path body tr (.done (.error x)) → Refused T tr x)
    (h : Path (withLock l body) tr (.done (.error x))) : Refused T tr x := by
  refine refused_bind ((calls_perform _).2 rfl) (fun _ tr h => ?_) h
  obtain ⟨r, first, rest, rfl, hfirst, ⟨rfl, hrelease⟩ | hrelease⟩ := h.of_ensure_raise
  · obtain rfl := hrelease.of_ask
    rcases hbody first hfirst with h | ⟨hT, ⟨device, checkpoint, hcreated⟩, hx⟩
    · exact .inl (h.append fun e he halters => by
        obtain rfl := List.mem_singleton.1 he
        cases halters)
    · exact .inr ⟨hT, ⟨device, checkpoint, hcreated.mono (List.subset_append_left _ _)⟩, hx⟩
  · cases hrelease with
    | @cons _ _ r _ _ h => cases r <;> cases h

end Refused

/-! ### The operations -/

section Operations

variable {α : Type} {m : NetworkManager} {rt : Runtime} {fuel : ℕ} {params : Dict} {T : Prop}
  {tr : List (Event Reply Exc)} {x : Exc}

theorem refused_looking {p : Proc α} (hp : Looking p) (h : Path p tr (.done (.error x))) :
    Refused T tr x :=
  .inl (untouched_of_calls (unaltering_of_looking hp) h)

theorem refused_looking_bind {β : Type} {p : Proc α} {f : α → Proc β} (hp : Looking p)
    (hf : ∀ a tr, Path (f a) tr (.done (.error x)) → Refused T tr x)
    (h : Path (p >>= f) tr (.done (.error x))) : Refused T tr x :=
  refused_bind (unaltering_of_looking hp) hf h

theorem refused_connect {uuid : String}
    (h : Path (connect m rt fuel uuid params) tr (.done (.error x))) : Refused True tr x := by
  refine refused_looking_bind (prompt_lift _) (fun request _ h => ?_) h
  refine refused_withLock (fun _ h => ?_) h
  refine refused_looking_bind (looking.wifiDevice true) (fun device _ h => ?_) h
  exact refused_bind_pure (fun _ => ⟨_, rfl⟩) (fun _ h => refused_transact trivial h) h

theorem refused_activateProfile
    (h : Path (activateProfile m rt fuel params) tr (.done (.error x))) : Refused True tr x := by
  refine refused_looking_bind (prompt_lift _) (fun u _ h => ?_) h
  refine refused_withLock (fun _ h => ?_) h
  refine refused_looking_bind (looking.wifiDevice true) (fun device _ h => ?_) h
  refine refused_looking_bind looking.settingsInterface (fun _ _ h => ?_) h
  refine refused_bind (calls_of_prompt (composes_replace tidy_composes
    (tidy_perform (S := fun c => c.alters = false) rfl) rfl)) (fun path _ h => ?_) h
  refine refused_looking_bind (looking.interfaces _ _) (fun _ _ h => ?_) h
  refine refused_bind ((calls_perform _).2 rfl) (fun settings _ h => ?_) h
  dsimp only at h
  split at h
  · exact refused_looking (prompt_raise _) h
  · exact refused_bind_pure (fun _ => ⟨_, rfl⟩) (fun _ h => refused_transact trivial h) h

theorem refused_disconnect (h : Path (disconnect m rt params) tr (.done (.error x))) :
    Refused T tr x := by
  unfold disconnect at h
  split at h
  · exact refused_looking (prompt_raise _) h
  refine refused_looking_bind (looking.wifiDevice true) (fun device _ h => ?_) h
  refine refused_looking_bind (looking.interfaces _ _) (fun _ _ h => ?_) h
  exact refused_bind_pure (fun _ => ⟨_, rfl⟩) (fun _ h => refused_perform h) h

/-- The handler raises another exception, and does nothing else. -/
theorem refused_deleteProfile (h : Path (deleteProfile rt params) tr (.done (.error x))) :
    Refused T tr x := by
  refine refused_looking_bind (prompt_lift _) (fun u _ h => ?_) h
  refine refused_looking_bind looking.settingsInterface (fun _ _ h => ?_) h
  refine refused_bind_pure (fun _ => ⟨_, rfl⟩) (fun _ h => ?_) h
  obtain ⟨y, first, rest, rfl, hbody, hhandler⟩ := h.of_tryCatch_raise
  have hrest : rest = [] := by
    split_ifs at hhandler
    · exact hhandler.of_done.1
    · exact hhandler.of_done.1
    · exact hhandler.of_done.1
  rw [hrest, List.append_nil]
  have hrefused : Refused False first y := by
    refine refused_bind ((calls_perform _).2 rfl) (fun path _ h => ?_) hbody
    exact refused_looking_bind (looking.interfaces _ _) (fun _ _ h => refused_perform h) h
  exact .inl (hrefused.resolve_right fun h => h.1)

/-- A scan is requested, and nothing else. -/
theorem refused_scan (h : Path (scan m rt params) tr (.done (.error x))) : Refused T tr x := by
  unfold scan at h
  dsimp only at h
  split at h
  · exact refused_looking (prompt_raise _) h
  refine refused_bind ((calls_ask _).2 rfl) (fun now _ h => ?_) h
  refine refused_bind ((calls_ask _).2 rfl) (fun self _ h => ?_) h
  split at h
  · exact refused_looking (prompt_pure _) h
  refine refused_withLock (fun _ h => ?_) h
  refine refused_looking_bind (looking.wifiDevice true) (fun device _ h => ?_) h
  exact .inl (untouched_of_calls (calls_of_prompt
    (tidy_scanOn (fun _ => Call.alters_of_modest) rfl)) h)

/-- What an operation raises -/
theorem refused_run {op : Operation} (h : Path (op.run m rt fuel) tr (.done (.error x))) :
    Refused op.Transacts tr x := by
  cases op with
  | start => exact refused_looking looking.start h
  | readiness => exact refused_looking_bind looking.readiness (fun _ _ h => by cases h) h
  | status params => exact refused_looking_bind (looking.status params) (fun _ _ h => by cases h) h
  | scan params => exact refused_bind_pure (fun _ => ⟨_, rfl⟩) (fun _ h => refused_scan h) h
  | connect uuid params =>
    exact refused_bind_pure (fun _ => ⟨_, rfl⟩) (fun _ h => refused_connect h) h
  | disconnect params =>
    exact refused_bind_pure (fun _ => ⟨_, rfl⟩) (fun _ h => refused_disconnect h) h
  | profiles params =>
    refine refused_bind (p := profiles m rt params) ?_ (fun _ _ h => by cases h) h
    have hlooks (c : Call) (hc : c.looks = true) : c.alters = false :=
      Call.alters_of_modest (Call.modest_of_looks hc)
    exact calls_of_prompt ((tidy_searches hlooks).profiles (fun _ => tidy_perform rfl) params)
  | activateProfile params =>
    exact refused_bind_pure (fun _ => ⟨_, rfl⟩) (fun _ h => refused_activateProfile h) h
  | deleteProfile params =>
    exact refused_bind_pure (fun _ => ⟨_, rfl⟩) (fun _ h => refused_deleteProfile h) h

theorem undone_iff : undone x = true ↔ (∃ message, x = .activation message) ∨
    (∃ message, x = .backendUnavailable message) ∨ x = .cancelled := by
  rcases x with ⟨⟨⟩, message⟩ | e | ⟨message, errors⟩ | _ <;>
    simp [undone, Exc.isActivation, Exc.isBackendUnavailable, Exc.isAdmin, Exc.isException,
      Exc.activation, Exc.backendUnavailable]

/-- **An operation that fails has changed nothing**, whatever it raises and whatever the bus has
answered; only a transaction that has its checkpoint may have, and that one ends with a
`NetworkActivationError`, with an unavailable backend or by cancellation. -/
theorem failures_harmless {op : Operation} (h : Path (op.run m rt fuel) tr (.done (.error x))) :
    Untouched tr ∨ op.Transacts ∧ (∃ device checkpoint, Created tr device checkpoint) ∧
      ((∃ message, x = .activation message) ∨ (∃ message, x = .backendUnavailable message) ∨
        x = .cancelled) := by
  rw [← undone_iff]
  exact refused_run h

end Operations

/-- A machine that turns an activation down -/
def turnsDown : (c : Call) → Except Exc (Reply c)
  | .addAndActivateConnection2 _ _ _ _ => .error (.py ⟨.dbus, "not authorized"⟩)
  | c => .ok (quiet c)

/-- A request to connect there -/
def refusedConnect : List (Event Reply Exc) × Option (Except Exc Unit) :=
  exec (fun _ c => (turnsDown c, ()))
    ((Operation.connect "uuid" [("ssid", .str "home")]).run .default .ascii 1) ()

theorem path_refusedConnect : Path
    ((Operation.connect "uuid" [("ssid", .str "home")]).run .default .ascii 1) refusedConnect.1
    (.done (.error (.activation "NetworkManager rejected the Wi-Fi connection"))) :=
  path_of_exec _ _ _ (by decide +kernel)

/-- The checkpoints of which a rollback was done -/
def rolledBackOf (tr : List (Event Reply Exc)) : List String :=
  tr.filterMap fun
    | ⟨.checkpointRollback c, .ok _⟩ => some c
    | _ => none

/-- It fails after its checkpoint has been created, which is then rolled back. -/
theorem refusedConnect_harmless :
    rolledBackOf refusedConnect.1 = ["/checkpoint/1"] ∧
      ∃ device checkpoint, Created refusedConnect.1 device checkpoint := by
  have hrolledBack : rolledBackOf refusedConnect.1 = ["/checkpoint/1"] := by decide +kernel
  refine ⟨hrolledBack, ?_⟩
  rcases failures_harmless path_refusedConnect with huntouched | ⟨-, hcreated, -⟩
  · have hmem : "/checkpoint/1" ∈ rolledBackOf refusedConnect.1 := by
      rw [hrolledBack]
      exact List.mem_singleton_self _
    obtain ⟨e, he, hsome⟩ := List.mem_filterMap.1 hmem
    split at hsome
    · obtain ⟨x, hx⟩ := huntouched _ he rfl
      cases hx
    · cases hsome
  · exact hcreated

end ApplianceAdmin.Network
