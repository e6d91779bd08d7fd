import ApplianceAdmin.Async.Monitor

/-!
# The recovery hostname publisher

`publish-recovery-hostname.sh` keeps the recovery name published at every active address: it polls
the hostname and the addresses, and holds one `avahi-publish-address` process for each of them.

* `Call`: the commands of the script that see or change something outside its local variables.
  The map `publishers` is outside: the trap may change it between any two commands;
* `stopPublisher`, `stopAll`: the functions of the script;
* `sweep`, `publish`, `poll`, `loop`: the two loops over addresses, one round of the main loop and
  its rounds;
* `script`: the main loop under the `EXIT` trap.

The commands that the script guards by `|| true` cannot raise; `set -u` and `set -e` raise `Exit`.
Keys of an associative array come in no particular order, so expanding them is a call too.  The
locale decides what `${current_hostname,,}` is: it is the parameter `lower`.
-/

namespace ApplianceAdmin.Recovery

open Async Async.Prog

/-- Why the shell ends the script: `set -e`, or `set -u`. -/
inductive Exit
  | errexit
  | unbound
  deriving DecidableEq, Repr

inductive Call
  | hostname
  | ipAddressShow
  /-- `"${!publishers[@]}"` -/
  | publisherKeys
  /-- `"${!active_addresses[@]}"`, for the addresses assigned so far -/
  | activeKeys (active : List String)
  /-- `${publishers[$address]:-}` -/
  | lookup (address : String)
  /-- `${publishers[$address]}` -/
  | expand (address : String)
  /-- `[[ -v 'publishers[$address]' ]]` -/
  | isPublished (address : String)
  | kill (pid : ℕ)
  /-- `kill -0` -/
  | killZero (pid : ℕ)
  | wait (pid : ℕ)
  /-- `unset 'publishers[$address]'` -/
  | unset (address : String)
  /-- `"$AVAHI_PUBLISH_BIN" --no-reverse "$RECOVERY_FQDN" "$address" &` -/
  | start (address : String)
  /-- `publishers[$address]=$!` -/
  | assign (address : String) (pid : ℕ)
  /-- `echo "Publishing $RECOVERY_FQDN at $address"` -/
  | echo (address : String)
  | sleep
  deriving DecidableEq, Repr

/-- What a call returns; a command whose failure the script does not guard returns whether it
succeeded. -/
abbrev Reply : Call → Type
  | .hostname => String
  | .ipAddressShow => List String
  | .publisherKeys => List String
  | .activeKeys _ => List String
  | .lookup _ => Option ℕ
  | .expand _ => Option ℕ
  | .isPublished _ => Bool
  | .kill _ => Unit
  | .killZero _ => Bool
  | .wait _ => Unit
  | .unset _ => Unit
  | .start _ => ℕ
  | .assign _ _ => Unit
  | .echo _ => Bool
  | .sleep => Bool

abbrev Script := Prog Reply Exit

/-! ### Hostname and addresses -/

/-- `RECOVERY_HOSTNAME` -/
def recoveryHostname : String := "43a9-9ed7"

/-- `${current_hostname%.local}` -/
def dropLocal (hostname : List Char) : List Char :=
  if ".local".toList.isSuffixOf hostname then hostname.take (hostname.length - 6) else hostname

/-- Whether the hostname, lower-cased and without one `.local`, is the recovery name. -/
def isNative (lower : Char → Char) (hostname : String) : Bool :=
  dropLocal (hostname.toList.map lower) == recoveryHostname.toList

/-- The words that `read` splits a line into. -/
def words (line : String) : List (List Char) :=
  (line.toList.splitOnP fun c => c == ' ' || c == '\t').filter (· ≠ [])

/-- `${cidr%/*}` -/
def dropMask (cidr : List Char) : List Char :=
  match cidr.reverse.dropWhile (· ≠ '/') with
  | [] => cidr
  | _ :: address => address.reverse

/-- The address in a line of `ip -o -4 address show`: its fourth word without the mask. -/
def addressOf (line : String) : String :=
  String.ofList (dropMask ((words line).getD 3 []))

/-- The addresses assigned to `active_addresses`, in the order of the lines. -/
def activeAddresses (lines : List String) : List String :=
  (lines.map addressOf).filter (· ≠ "")

/-! ### Stopping publishers -/

/-- `stop_publisher` -/
def stopPublisher (address : String) : Script Unit := do
  let pid ← ask (Call.lookup address)
  match pid with
  | none => pure ()
  | some pid =>
      ask (Call.kill pid)
      ask (Call.wait pid)
      ask (Call.unset address)

/-- `stop_all` -/
def stopAll : Script Unit := do
  let addresses ← ask Call.publisherKeys
  forEach stopPublisher addresses

/-! ### The main loop -/

/-- One publisher of the first loop: it stays when its address is active and it is alive. -/
def check (active : List String) (address : String) : Script Unit := do
  let pid ← ask (Call.expand address)
  match pid with
  | none => raise .unbound
  | some pid =>
      if address ∉ active then
        stopPublisher address
      else
        let alive ← ask (Call.killZero pid)
        if alive then pure () else stopPublisher address

/-- The first loop -/
def sweep (active : List String) : Script Unit := do
  let addresses ← ask Call.publisherKeys
  forEach (check active) addresses

/-- One address of the second loop -/
def announce (address : String) : Script Unit := do
  let published ← ask (Call.isPublished address)
  if published then
    pure ()
  else
    let pid ← ask (Call.start address)
    ask (Call.assign address pid)
    let written ← ask (Call.echo address)
    if written then pure () else raise .errexit

/-- The second loop -/
def publish (active : List String) : Script Unit := do
  let addresses ← ask (Call.activeKeys active)
  forEach announce addresses

/-- `sleep "$POLL_SECONDS"` -/
def pause : Script Unit := do
  let slept ← ask Call.sleep
  if slept then pure () else raise .errexit

/-- The publishers for the addresses of one list -/
def refresh (lines : List String) : Script Unit := do
  sweep (activeAddresses lines)
  publish (activeAddresses lines)
  pause

/-- One round of the main loop -/
def poll (lower : Char → Char) : Script Unit := do
  let currentHostname ← ask Call.hostname
  if isNative lower currentHostname then
    stopAll
    pause
  else
    let lines ← ask Call.ipAddressShow
    refresh lines

/-- `n` rounds of the main loop -/
def loop (lower : Char → Char) : ℕ → Script Unit
  | 0 => .spin
  | n + 1 => do
      poll lower
      loop lower n

/-- The script, with `stop_all` as the trap of its exit. -/
def script (lower : Char → Char) (n : ℕ) : Script Unit :=
  (loop lower n).tryCatch fun e => do
    stopAll
    raise e

/-- What every poll keeps, the loop keeps. -/
theorem wp_loop {σ : Type} {M : Monitor Reply Exit σ} {P : σ → Prop} {lower : Char → Char}
    (h : ∀ s, P s → M.wp (poll lower) (fun _ => P) s) (n : ℕ) {s : σ} (hs : P s) :
    M.wp (loop lower n) (fun _ => P) s := by
  induction n generalizing s with
  | zero => trivial
  | succ n ih =>
    refine (M.wp_bind).2 (Monitor.wp_mono (h s hs) fun r s' h' => ?_)
    cases r with
    | ok _ => exact ih h'
    | error _ => exact h'

example : isNative Char.toLower "43A9-9ED7.local" = true := by rfl

example : activeAddresses ["2: eth0    inet 10.0.0.5/24 brd 10.0.0.255 scope global eth0", "3: x"] =
    ["10.0.0.5"] := by rfl

end ApplianceAdmin.Recovery
