import ApplianceAdmin.Async.Monitor

/-!
# The Wi-Fi migration

`migrate-wifi-to-networkmanager.sh` takes the network interfaces from `ifupdown` and `dhcpcd` and
gives them to NetworkManager.

* `Call`: the commands of the script, and the variable `MIGRATED`, which the trap reads;
* `Failure`: why the shell ends the script, a status that is not zero;
* `findProfile`, `configureEthernet`, `ethernetLoop`: the nested loop over Ethernet devices and
  saved profiles;
* `backUp`, `cutOver`: what comes before `MIGRATED=true` and up to `MIGRATED=false`;
* `rollback`: the `EXIT` trap; `script`: all of it.

A command that fails raises its status, as `set -e` has it; a process substitution that fails is
not noticed by the shell, and its output is what there was.  The locale decides what
`${current_hostname,,}` is: it is the parameter `lower`.
-/

namespace ApplianceAdmin.Migration

open Async Async.Prog

/-! ### Commands -/

/-- The status with which the shell ends the script early -/
structure Failure where
  status : ℕ
  ne_zero : status ≠ 0
  deriving DecidableEq

/-- `exit 1` -/
def Failure.one : Failure := ⟨1, one_ne_zero⟩

/-- What the script backs up. -/
inductive Piece
  | interfaces
  | interfacesD
  | networkManager
  | resolvConf
  deriving DecidableEq

inductive Verb
  | enable
  | disable
  /-- `disable --now` -/
  | disableNow
  | stop
  | restart
  deriving DecidableEq

inductive Call
  | setMigrated (migrated : Bool)
  /-- `[[ $MIGRATED == true ]]` -/
  | migrated
  | echo (text : String)
  /-- `nmcli -t -f NAME connection show | grep -Fxq "$CONNECTION"` -/
  | connectionExists (connection : String)
  /-- `install -d -m 0700 "$BACKUP_ROOT" "$BACKUP"` -/
  | installBackup
  /-- `cp -a` into the backup, and out of it -/
  | backUp (piece : Piece)
  | restore (piece : Piece)
  /-- `rm -rf /etc/NetworkManager`, `rm -f /etc/resolv.conf` -/
  | remove (piece : Piece)
  /-- `printf … >"$INTERFACES_FILE"` -/
  | writeInterfaces (text : String)
  /-- `grep -RInE … /etc/network/interfaces /etc/network/interfaces.d` -/
  | grepInterfaces
  /-- `rm -f /etc/NetworkManager/conf.d/90-dns-none.conf` -/
  | removeDnsNone
  /-- `install -d -m 0755 /etc/NetworkManager/conf.d` -/
  | installConfD
  /-- `printf … >/etc/NetworkManager/conf.d/10-appliance-network.conf` -/
  | writeApplianceNetwork (lines : List String)
  /-- `chmod 0644 /etc/NetworkManager/conf.d/10-appliance-network.conf` -/
  | chmodApplianceNetwork
  /-- `chattr -i /etc/resolv.conf` -/
  | chattr
  | systemctl (verb : Verb) (units : List String)
  /-- `dhcpcd -k "$INTERFACE"` -/
  | dhcpcdRelease (interface : String)
  /-- `nmcli radio wifi on` -/
  | radioWifiOn
  /-- `nmcli device set "$INTERFACE" managed yes` -/
  | deviceManaged (interface : String)
  /-- `nmcli connection modify "$CONNECTION" …` -/
  | modifyWifi (connection : String)
  /-- `nmcli connection up "$1" ifname "$2"` -/
  | up (connection interface : String)
  /-- `nmcli -g GENERAL.STATE device show "$INTERFACE"` -/
  | deviceState (interface : String)
  /-- `nmcli -g IP4.ADDRESS device show "$INTERFACE" | head -n 1` -/
  | deviceAddress (interface : String)
  /-- `nmcli -t -f DEVICE,TYPE device status`, the devices whose type is `ethernet` -/
  | ethernetDevices
  /-- `nmcli -t -f UUID,TYPE connection show` -/
  | listConnections
  /-- `nmcli -g connection.interface-name connection show "$candidate_uuid"` -/
  | interfaceName (uuid : String)
  /-- `nmcli connection add type ethernet ifname "$ethernet" con-name "$profile" …` -/
  | addEthernet (ethernet profile : String)
  /-- `nmcli connection modify "$profile" connection.interface-name "$ethernet" …` -/
  | modifyEthernet (profile ethernet : String)
  /-- `hostnamectl --static` -/
  | hostnamectlStatic
  | hostname
  /-- `hostnamectl set-hostname` -/
  | setHostname (hostname : String)
  /-- `cat /etc/resolv.conf` -/
  | catResolvConf
  /-- `getent hosts chatgpt.com` -/
  | getent
  deriving DecidableEq

/-- What a command returns. -/
abbrev Reply : Call → Type
  | .migrated => Bool
  | .connectionExists _ => Bool
  | .grepInterfaces => Bool
  | .deviceState _ => String
  | .deviceAddress _ => String
  | .ethernetDevices => List String
  | .listConnections => List (String × String)
  | .interfaceName _ => String
  | .hostnamectlStatic => String
  | .hostname => String
  | _ => Unit

abbrev Script := Prog Reply Failure

/-- The variables of the script that do not change. -/
structure Variables where
  /-- `INTERFACE`, `CONNECTION` and `BACKUP` -/
  interface : String
  connection : String
  backup : String

/-- `command || true` -/
def orTrue (c : Script Unit) : Script Unit := c.tryCatch fun _ => pure ()

/-- Lines for the terminal, and `exit 1` -/
def abort {α : Type} (lines : List String) : Script α := do
  forEach (fun text => perform (Call.echo text)) lines
  raise .one

/-! ### The Ethernet profiles -/

def ethernetType : String := "802-3-ethernet"

/-- The inner loop: the first Ethernet profile that is bound to the device, or the empty text -/
def findProfile (ethernet : String) : List (String × String) → Script String
  | [] => pure ""
  | (candidateUuid, candidateType) :: candidates =>
      if candidateType ≠ ethernetType then findProfile ethernet candidates
      else do
        let candidateInterface ← perform (Call.interfaceName candidateUuid)
        if candidateInterface = ethernet then pure candidateUuid
        else findProfile ethernet candidates

/-- `appliance-ethernet-${ethernet}` -/
def profileName (ethernet : String) : String := "appliance-ethernet-" ++ ethernet

/-- One round of the outer loop -/
def configureEthernet (ethernet : String) : Script Unit :=
  if ethernet = "" then pure ()
  else do
    let candidates ← ask Call.listConnections
    let found ← findProfile ethernet candidates
    let profile ← (if found = "" then do
        perform (Call.addEthernet ethernet (profileName ethernet))
        pure (profileName ethernet)
      else pure found : Script String)
    perform (Call.modifyEthernet profile ethernet)
    orTrue (perform (Call.up profile ethernet))

/-- The outer loop -/
def ethernetLoop (devices : List String) : Script Unit := forEach configureEthernet devices

/-! ### The steps of the migration -/

/-- `# NetworkManager owns all physical interfaces.` and so on -/
def loopbackOnly : String :=
  "# NetworkManager owns all physical interfaces.\n\nauto lo\niface lo inet loopback\n"

/-- `10-appliance-network.conf` -/
def applianceNetwork : List String :=
  ["[main]", "plugins=keyfile", "dhcp=internal", "dns=default", "rc-manager=file", "", "[ifupdown]",
    "managed=false"]

def networkingService : String := "networking.service"
def networkManagerService : String := "NetworkManager.service"
def dhcpcdServices : List String := ["dhcpcd.service", "dhcpcd@.service"]

/-- The commands before `MIGRATED=true` -/
def backUp (v : Variables) : Script Unit := do
  perform Call.installBackup
  perform (Call.backUp .interfaces)
  perform (Call.backUp .interfacesD)
  perform (Call.backUp .networkManager)
  perform (Call.backUp .resolvConf)
  perform (Call.echo ("Network configuration backed up to " ++ v.backup))

/-- From the interfaces file to the connection that comes up -/
def switchWifi (v : Variables) : Script Unit := do
  perform (Call.writeInterfaces loopbackOnly)
  let remains ← ask Call.grepInterfaces
  if remains then
    abort ["Physical interface configuration remains under /etc/network; aborting."]
  else do
    perform Call.removeDnsNone
    perform Call.installConfD
    perform (Call.writeApplianceNetwork applianceNetwork)
    perform Call.chmodApplianceNetwork
    orTrue (perform Call.chattr)
    perform (Call.systemctl .enable [networkManagerService])
    perform (Call.systemctl .disable [networkingService])
    orTrue (perform (Call.systemctl .disable dhcpcdServices))
    perform (Call.systemctl .stop [networkingService])
    orTrue (perform (Call.dhcpcdRelease v.interface))
    perform (Call.systemctl .restart [networkManagerService])
    perform Call.radioWifiOn
    perform (Call.deviceManaged v.interface)
    perform (Call.modifyWifi v.connection)
    perform (Call.up v.connection v.interface)

/-- The state and the address of the device after the cutover: `[[ $STATE != 100* || -z $ADDRESS ]]`
ends the script. -/
def checkWifi (v : Variables) : Script String := do
  let state ← perform (Call.deviceState v.interface)
  let address ← perform (Call.deviceAddress v.interface)
  if ¬"100".toList <+: state.toList ∨ address = "" then
    abort ["NetworkManager did not activate " ++ v.interface ++ " (state=" ++ state ++
      " address=" ++ address ++ ")"]
  else pure address

/-- `${current_hostname,,} == *.local` -/
def isLocal (lower : Char → Char) (hostname : String) : Bool :=
  ".local".toList.isSuffixOf (hostname.toList.map lower)

/-- `${current_hostname:0:${#current_hostname}-6}` -/
def dropLocal (hostname : String) : String :=
  String.ofList (hostname.toList.take (hostname.length - 6))

/-- The correction of a static hostname that ends with `.local` -/
def correctHostname (lower : Char → Char) : Script Unit := do
  let currentHostname ← (perform Call.hostnamectlStatic).tryCatch fun _ => perform Call.hostname
  if isLocal lower currentHostname then perform (Call.setHostname (dropLocal currentHostname))
  else pure ()

/-- What is done while `MIGRATED` is true -/
def cutOver (lower : Char → Char) (v : Variables) : Script String := do
  switchWifi v
  let address ← checkWifi v
  let devices ← ask Call.ethernetDevices
  ethernetLoop devices
  perform (Call.systemctl .disableNow [networkingService])
  correctHostname lower
  perform (Call.echo "Resolver configuration:")
  perform Call.catResolvConf
  perform Call.getent
  pure address

/-- The commands after the trap has been set -/
def migration (lower : Char → Char) (v : Variables) : Script Unit := do
  backUp v
  ask (Call.setMigrated true)
  let address ← cutOver lower v
  ask (Call.setMigrated false)
  perform (Call.echo ("Migration complete: " ++ v.interface ++ " is active on '" ++ v.connection ++
    "' with " ++ address))

/-! ### The trap -/

/-- The restoration from the backup -/
def restore (v : Variables) : Script Unit := do
  perform (Call.echo ("Migration failed; restoring network configuration from " ++ v.backup))
  perform (Call.restore .interfaces)
  perform (Call.remove .networkManager)
  perform (Call.restore .networkManager)
  perform (Call.remove .resolvConf)
  perform (Call.restore .resolvConf)
  orTrue (perform (Call.systemctl .enable [networkingService]))
  orTrue (perform (Call.systemctl .restart [networkingService]))
  orTrue (perform (Call.systemctl .restart [networkManagerService]))

/-- `rollback` -/
def rollback (v : Variables) (failure : Failure) : Script Unit := do
  let migrated ← ask Call.migrated
  if failure.status ≠ 0 ∧ migrated = true then do
    restore v
    raise failure
  else raise failure

/-! ### The script -/

/-- The environment of the script. -/
structure Environment where
  euid : ℕ
  /-- `${SSH_CONNECTION:-}` -/
  sshConnection : String
  /-- `${APPLIANCE_ADMIN_ALLOW_REMOTE_CUTOVER:-0}` -/
  allowRemoteCutover : String

/-- The checks before the trap is set -/
def checks (env : Environment) (v : Variables) : Script Unit :=
  if env.euid ≠ 0 then abort ["Run as root: sudo $0 [interface] [connection]"]
  else if env.sshConnection ≠ "" ∧ env.allowRemoteCutover ≠ "1" then
    abort ["Refusing a remote Wi-Fi cutover without an explicit override.",
      "Run this at the local console, use Ethernet fallback, or set",
      "APPLIANCE_ADMIN_ALLOW_REMOTE_CUTOVER=1 after accepting the SSH risk."]
  else do
    let found ← ask (Call.connectionExists v.connection)
    if found then pure ()
    else abort ["NetworkManager connection '" ++ v.connection ++ "' does not exist."]

/-- The script, with `rollback` as the trap of its exit -/
def script (lower : Char → Char) (env : Environment) (v : Variables) : Script Unit := do
  checks env v
  (migration lower v).tryCatch (rollback v)

example : isLocal Char.toLower "speed-timer.Local" = true := by rfl

example : dropLocal "speed-timer.local" = "speed-timer" := by rfl

end ApplianceAdmin.Migration
