import ApplianceAdmin.Migration.Script
import Mathlib.Logic.Function.Basic

/-!
# What the migration changes

The configuration of the machine as far as the script changes it, and the backup.

* `Config`: the files of the network, what is behind links, the state of the services and the static
  hostname;
* `Effect`: what a command has done that no backup brings back, and `Config.after`;
* `Config.Changes`, `Config.Done`: what a command may do in any case, and what a command has done
  that succeeded;
* `World`, `World.Step`: the configuration, the backup, the variable `MIGRATED` and the effects;
* `machine`: the monitor of the world, which owes nothing to the script.

`cp -a` and `rm` take a link for a file of its own; what is written to it goes to the file behind it.
Only the commands of the script change anything: services that are restarted leave the files as they
are.
-/

namespace ApplianceAdmin.Migration

open Async Async.Prog Async.Monitor

/-! ### The configuration -/

/-- A file with the mode that `cp -a` keeps -/
structure File where
  content : String
  mode : ℕ
  deriving DecidableEq

/-- What is at a path: a file, or a link with the path of the file that it leads to -/
inductive Node
  | file (file : File)
  | link (target : String)
  deriving DecidableEq

/-- What is at the paths below a directory; a directory itself is there as a link only. -/
abbrev Tree := String → Option Node

/-- What is at the path of `/etc/NetworkManager` -/
inductive Directory
  | tree (nodes : Tree)
  | link (target : String)

/-- Whether a unit is started at boot; units that are masked, static or missing are neither
enabled nor disabled. -/
inductive UnitState
  | enabled
  | disabled
  | other
  deriving DecidableEq

namespace UnitState

def enable : UnitState → UnitState
  | disabled => enabled
  | s => s

def disable : UnitState → UnitState
  | enabled => disabled
  | s => s

/-- The state after `systemctl` with this verb -/
def after (s : UnitState) : Verb → UnitState
  | .enable => s.enable
  | .disable | .disableNow => s.disable
  | .stop | .restart => s

@[simp] theorem disable_disable (s : UnitState) : s.disable.disable = s.disable := by
  cases s <;> rfl

end UnitState

@[ext] structure Config where
  /-- `/etc/network/interfaces` -/
  interfaces : Option Node
  /-- `/etc/NetworkManager` -/
  networkManager : Option Directory
  /-- `/etc/resolv.conf`, and whether it has the attribute that `chattr -i` clears -/
  resolvConf : Option Node
  immutable : Bool
  /-- The files that links lead to -/
  behind : String → Option File
  /-- `networking.service`, `dhcpcd.service` and `dhcpcd@.service` -/
  networking : UnitState
  dhcpcd : UnitState
  dhcpcdAt : UnitState
  /-- The static hostname -/
  hostname : String

/-- What a command has done that is in no backup -/
inductive Effect
  /-- `systemctl disable` of a unit -/
  | disabled (unit : String)
  /-- `hostnamectl set-hostname` -/
  | named (hostname : String)
  /-- A file behind a link is written, or removed there. -/
  | wrote (target : String) (file : Option File)
  deriving DecidableEq

namespace Effect

/-- The last hostname that was set -/
def named? : List Effect → Option String :=
  List.findSome? fun e => match e with
    | .named hostname => some hostname
    | _ => none

/-- What was written last behind the links to `target` -/
def written? (target : String) : List Effect → Option (Option File) :=
  List.findSome? fun e => match e with
    | .wrote target' file => if target' = target then some file else none
    | _ => none

end Effect

namespace Config

/-- The configuration after these effects, the latest first -/
def after (k : Config) (effects : List Effect) : Config :=
  { k with
    networking :=
      if .disabled "networking.service" ∈ effects then k.networking.disable else k.networking
    dhcpcd := if .disabled "dhcpcd.service" ∈ effects then k.dhcpcd.disable else k.dhcpcd
    dhcpcdAt := if .disabled "dhcpcd@.service" ∈ effects then k.dhcpcdAt.disable else k.dhcpcdAt
    hostname := (Effect.named? effects).getD k.hostname
    behind := fun target => (Effect.written? target effects).getD (k.behind target) }

/-- `systemctl` with this verb has done its work for these units. -/
def setUnits (k : Config) (verb : Verb) (units : List String) : Config :=
  { k with
    networking := if "networking.service" ∈ units then k.networking.after verb else k.networking
    dhcpcd := if "dhcpcd.service" ∈ units then k.dhcpcd.after verb else k.dhcpcd
    dhcpcdAt := if "dhcpcd@.service" ∈ units then k.dhcpcdAt.after verb else k.dhcpcdAt }

/-- Is the piece there? -/
def has (k : Config) : Piece → Bool
  | .interfaces => k.interfaces.isSome
  | .networkManager => k.networkManager.isSome
  | .resolvConf => k.resolvConf.isSome
  | .interfacesD => true

/-! ### Files and links -/

/-- A file is written behind a link, or removed there. -/
def putBehind (k : Config) (file : Option File) (target : String) : List Effect × Config :=
  ([.wrote target file], k.after [.wrote target file])

/-- `/etc/network/interfaces` is written, through a link where it is one. -/
def putInterfaces (k : Config) (file : Option File) : List Effect × Config :=
  match k.interfaces with
  | some (.link target) => k.putBehind file target
  | _ => ([], { k with interfaces := file.map .file })

/-- Where a command finds a file of `/etc/NetworkManager` -/
inductive Place
  | inside (path : String)
  /-- Behind a link -/
  | behind (target : String)

def dnsNoneFile : String := "90-dns-none.conf"
def applianceFile : String := "10-appliance-network.conf"

/-- The entry of this name in `/etc/NetworkManager/conf.d`, where that is a link or below one -/
def confD (k : Config) (name : String) : Option Place :=
  match k.networkManager with
  | none => none
  | some (.link target) => some (.behind (target ++ "/conf.d/" ++ name))
  | some (.tree nodes) =>
      match nodes "conf.d" with
      | some (.link target) => some (.behind (target ++ "/" ++ name))
      | _ => some (.inside ("conf.d/" ++ name))

/-- The node at a path below `/etc/NetworkManager` -/
def nodeAt (k : Config) (path : String) : Option Node :=
  match k.networkManager with
  | some (.tree nodes) => nodes path
  | _ => none

/-- The place of that entry for a command that writes -/
def confDPlace (k : Config) (name : String) : Option Place :=
  match k.confD name with
  | some (.inside path) =>
      match k.nodeAt path with
      | some (.link target) => some (.behind target)
      | _ => some (.inside path)
  | place => place

/-- Does a link lead away from the files that NetworkManager writes? -/
def Linked (k : Config) : Prop :=
  (∃ target, k.resolvConf = some (.link target)) ∨
    (∃ target, k.networkManager = some (.link target)) ∨
      ∃ path target, k.nodeAt path = some (.link target)

/-- The file at a place -/
def read (k : Config) : Place → Option File
  | .inside path =>
      match k.nodeAt path with
      | some (.file file) => some file
      | _ => none
  | .behind target => k.behind target

/-- A file is made, changed or removed at a place, if there is one. -/
def put (k : Config) (file : Option File) : Option Place → List Effect × Config
  | none => ([], k)
  | some (.inside path) =>
      ([], { k with networkManager := k.networkManager.map fun
        | .tree nodes => .tree (Function.update nodes path (file.map .file))
        | .link target => .link target })
  | some (.behind target) => k.putBehind file target

/-! ### Commands -/

/-- What a command may do to the configuration, whether it succeeds or fails on the way, and its
effects -/
def Changes : Call → Config → List Effect → Config → Prop
  | .writeInterfaces _, k, effects, k' => ∃ file, (effects, k') = k.putInterfaces file
  | .removeDnsNone, k, effects, k' =>
      (effects, k') = ([], k) ∨ (effects, k') = k.put none (k.confD dnsNoneFile)
  | .writeApplianceNetwork _, k, effects, k' | .chmodApplianceNetwork, k, effects, k' =>
      ∃ file, (effects, k') = k.put file (k.confDPlace applianceFile)
  | .installConfD, k, effects, k' | .remove .networkManager, k, effects, k' =>
      effects = [] ∧ ∃ directory, k' = { k with networkManager := directory }
  | .remove .resolvConf, k, effects, k' => effects = [] ∧ ∃ node, k' = { k with resolvConf := node }
  | .chattr, k, effects, k' => effects = [] ∧ (k' = k ∨ k' = { k with immutable := false })
  | .systemctl .disable units, k, effects, k' | .systemctl .disableNow units, k, effects, k' =>
      ∃ done, done ⊆ units ∧ effects = done.map .disabled ∧ k' = k.after effects
  | .systemctl verb units, k, effects, k' =>
      effects = [] ∧ ∃ done, done ⊆ units ∧ k' = k.setUnits verb done
  -- NetworkManager keeps its profiles below its directory and writes the resolver file, through
  -- links where there are some
  | .radioWifiOn, k, effects, k' | .deviceManaged _, k, effects, k' | .modifyWifi _, k, effects, k'
  | .up _ _, k, effects, k' | .addEthernet _ _, k, effects, k'
  | .modifyEthernet _ _, k, effects, k' =>
      ∃ (directory : Option Directory) (node : Option Node) (writes : List (String × Option File)),
        (writes ≠ [] → k.Linked) ∧ effects = writes.map (fun write => .wrote write.1 write.2) ∧
        k' = { k with networkManager := directory, resolvConf := node }.after effects
  | .setHostname hostname, k, effects, k' =>
      (effects = [] ∨ effects = [.named hostname]) ∧ k' = k.after effects
  | _, k, effects, k' => effects = [] ∧ k' = k

/-- What a command has done that succeeded -/
def Done : Call → Config → List Effect → Config → Prop
  | .writeInterfaces text, k, effects, k' =>
      ∃ mode, (effects, k') = k.putInterfaces (some ⟨text, mode⟩)
  | .removeDnsNone, k, effects, k' => (effects, k') = k.put none (k.confD dnsNoneFile)
  | .writeApplianceNetwork lines, k, effects, k' =>
      ∃ mode, (effects, k') =
        k.put (some ⟨"\n".intercalate lines ++ "\n", mode⟩) (k.confDPlace applianceFile)
  | .chmodApplianceNetwork, k, effects, k' =>
      (effects, k') = k.put (((k.confDPlace applianceFile).bind k.read).map
        fun file => ⟨file.content, 0o644⟩) (k.confDPlace applianceFile)
  | .remove .networkManager, _, _, k' => k'.networkManager = none
  -- an immutable file is not removed
  | .remove .resolvConf, k, _, k' => k.immutable = false ∧ k'.resolvConf = none
  | .chattr, _, _, k' => k'.immutable = false
  | .systemctl .disable units, _, effects, _ | .systemctl .disableNow units, _, effects, _ =>
      effects = units.map .disabled
  | .systemctl verb units, k, _, k' => k' = k.setUnits verb units
  | .setHostname hostname, _, effects, _ => effects = [.named hostname]
  | _, _, _, _ => True

end Config

/-! ### The backup -/

structure Backup where
  interfaces : Option Node
  networkManager : Option Directory
  resolvConf : Option Node

namespace Backup

/-- Before the first copy -/
def empty : Backup := ⟨none, none, none⟩

/-- The backup after a piece has been copied into it -/
def save (b : Backup) (k : Config) : Piece → Backup
  | .interfaces => { b with interfaces := k.interfaces }
  | .networkManager => { b with networkManager := k.networkManager }
  | .resolvConf => { b with resolvConf := k.resolvConf }
  | .interfacesD => b

/-- The configuration after a piece has been copied back -/
def load (b : Backup) (k : Config) : Piece → Config
  | .interfaces => { k with interfaces := b.interfaces }
  | .networkManager => { k with networkManager := b.networkManager }
  | .resolvConf => { k with resolvConf := b.resolvConf }
  | .interfacesD => k

end Backup

/-! ### The world -/

structure World where
  config : Config
  backup : Backup
  /-- The variable `MIGRATED` -/
  migrated : Bool
  /-- The effects of the commands so far, the latest first -/
  effects : List Effect

namespace World

/-- When the script starts -/
def start (k : Config) : World := ⟨k, .empty, false, []⟩

/-- The world after a command -/
def become (w : World) (effects : List Effect) (config : Config) : World :=
  { w with config := config, effects := effects ++ w.effects }

/-- One command of the script, with its answer. -/
def Step (w : World) (c : Call) (r : Except Failure (Reply c)) (w' : World) : Prop :=
  match c, r with
  | .setMigrated migrated, _ => w' = { w with migrated := migrated }
  | .migrated, .ok migrated => migrated = w.migrated ∧ w' = w
  | .hostnamectlStatic, .ok hostname => hostname = w.config.hostname ∧ w' = w
  | .backUp piece, .ok _ =>
      w.config.has piece = true ∧ w' = { w with backup := w.backup.save w.config piece }
  | .backUp _, .error _ => ∃ backup, w' = { w with backup := backup }
  | .restore piece, .ok _ => w' = { w with config := w.backup.load w.config piece }
  | .restore _, .error _ => ∃ config, w' = { w with config := config }
  | c, .ok _ => ∃ effects config, w.config.Changes c effects config ∧
      w.config.Done c effects config ∧ w' = w.become effects config
  | c, .error _ => ∃ effects config, w.config.Changes c effects config ∧
      w' = w.become effects config

end World

/-- The world, as the script acts on it. -/
def machine : Monitor Reply Failure World where
  pre _ _ := True
  next := World.Step

end ApplianceAdmin.Migration
