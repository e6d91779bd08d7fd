import ApplianceAdmin.Async.Interpret
import ApplianceAdmin.Daemon.Results
import ApplianceAdmin.Ipc.Daemon
import ApplianceAdmin.Network.Opening

/-!
# The handlers of the daemon

`handlers` of `main.run`: the coroutines of both managers under the names of their actions, and a
whole connection, in which the handler is no longer a single call.

* `Call`, `Reply`: what the daemon asks of the bus, of the subprocess layer and of a socket;
* `Operation.handle`: a coroutine of the network manager with its result as a value;
* `handlers`: the table; `serve`: one connection;
* `Handling`: what a request comes to; `route`: the handler of a request is that of its action.
-/

namespace ApplianceAdmin.Daemon

open Async Async.Prog Python Ipc

/-! ### Calls -/

/-- A call of the daemon to its surroundings -/
inductive Call
  /-- A call of the network manager -/
  | network (c : Network.Call)
  /-- A call of the system manager -/
  | system (c : System.Call)
  /-- `writer.write(line)`, `writer.drain()`, `writer.close()` and `writer.wait_closed()` -/
  | write (line : List UInt8)
  | drain
  | close
  | waitClosed

/-- What a call returns. -/
@[reducible] def Reply : Call → Type
  | .network c => Network.Reply c
  | .system c => System.Reply c
  | .write _ | .drain | .close | .waitClosed => Unit

/-- A coroutine of the daemon. -/
abbrev Proc := Prog Reply Exc

/-- A coroutine of the network manager -/
def onNetwork {α : Type} (p : Network.Proc α) : Proc α := @Prog.rename _ _ Reply _ _ Call.network p

/-- A coroutine of the system manager -/
def onSystem {α : Type} (p : System.Proc α) : Proc α := @Prog.rename _ _ Reply _ _ Call.system p

/-- An answered call of the network manager -/
def networkEvent (e : Event Network.Reply Exc) : Event Reply Exc :=
  @Event.rename _ _ Reply _ Call.network e

/-- An answered call of the system manager -/
def systemEvent (e : Event System.Reply Exc) : Event Reply Exc :=
  @Event.rename _ _ Reply _ Call.system e

theorem Path.of_onNetwork {α : Type} {p : Network.Proc α} {tr : List (Event Reply Exc)} {q : Proc α}
    (h : Path (onNetwork p) tr q) :
    ∃ inner p', Path p inner p' ∧ tr = inner.map networkEvent ∧ q = onNetwork p' :=
  Async.Path.of_rename h

theorem Path.of_onSystem {α : Type} {p : System.Proc α} {tr : List (Event Reply Exc)} {q : Proc α}
    (h : Path (onSystem p) tr q) :
    ∃ inner p', Path p inner p' ∧ tr = inner.map systemEvent ∧ q = onSystem p' :=
  Async.Path.of_rename h

end ApplianceAdmin.Daemon

namespace ApplianceAdmin

open Async Async.Prog Python Ipc

/-! ### The coroutines -/

/-- A coroutine of the network manager, with its result as a value -/
def Network.Operation.handle (m : Network.NetworkManager) (rt : Runtime) (fuel : ℕ) :
    Network.Operation → Network.Proc Value
  | .start => do
      Network.start
      return .none
  | .readiness => do
      let result ← Network.readiness m rt
      return .dict [("ready", .bool result.ready), ("interface", .str result.interface),
        ("state", .str result.state)]
  | .status params => do
      let result ← Network.status m rt params
      return result.modelDump
  | .scan params => do
      let result ← Network.scan m rt params
      return result.modelDump
  | .connect uuid params => do
      let result ← Network.connect m rt fuel uuid params
      return result.modelDump
  | .disconnect params => do
      let result ← Network.disconnect m rt params
      return result.modelDump
  | .profiles params => do
      let result ← Network.profiles m rt params
      return Network.profilesDump result
  | .activateProfile params => do
      let result ← Network.activateProfile m rt fuel params
      return result.modelDump
  | .deleteProfile params => do
      let result ← Network.deleteProfile rt params
      return result.modelDump

namespace Daemon

/-! ### The table -/

/-- `Callable[[dict[str, Any]], Awaitable[Any]]` -/
abbrev Handler := Dict → Proc Value

/-- Both managers of `main.run`, and what they take from their surroundings: the interpreter, the
fuel of their loops and what `uuid4()` returns in `connect` -/
structure Managers where
  network : Network.NetworkManager
  system : System.SystemManager
  rt : Runtime
  fuel : ℕ
  uuid : String

section Table

variable (d : Managers)

/-- A coroutine of `network` -/
def Managers.networkHandler (op : Dict → Network.Operation) : Handler := fun params =>
  onNetwork ((op params).handle d.network d.rt d.fuel)

/-- A coroutine of `system` -/
def systemHandler (p : Dict → System.Proc System.Result) : Handler := fun params =>
  onSystem do
    let result ← p params
    return result.modelDump

/-- `handlers` of `main.run` -/
def Managers.handlers : List (String × Handler) := [
  ("network.status", d.networkHandler .status),
  ("wifi.scan", d.networkHandler .scan),
  ("wifi.connect", d.networkHandler (.connect d.uuid)),
  ("wifi.disconnect", d.networkHandler .disconnect),
  ("network.profiles", d.networkHandler .profiles),
  ("network.profile.activate", d.networkHandler .activateProfile),
  ("network.profile.delete", d.networkHandler .deleteProfile),
  ("system.capabilities", systemHandler fun params =>
    do return .capabilities (← System.capabilities params)),
  ("system.reboot", systemHandler fun params => do
    System.reboot params
    return .accepted),
  ("system.poweroff", systemHandler fun params => do
    System.poweroff params
    return .accepted),
  ("hostname.set", systemHandler fun params =>
    do return .hostname (← System.hostnameSet d.rt d.fuel params)),
  ("service.status", systemHandler fun params =>
    do return .status (← System.serviceStatus d.system d.rt params)),
  ("service.start", systemHandler fun params =>
    do return .service (← System.serviceStart d.system d.rt params)),
  ("service.stop", systemHandler fun params =>
    do return .service (← System.serviceStop d.system d.rt params)),
  ("service.restart", systemHandler fun params =>
    do return .service (← System.serviceRestart d.system d.rt params))]

/-- The operation of the network manager that an action asks for -/
def Managers.operation? (action : String) (params : Dict) : Option Network.Operation :=
  match action with
  | "network.status" => some (.status params)
  | "wifi.scan" => some (.scan params)
  | "wifi.connect" => some (.connect d.uuid params)
  | "wifi.disconnect" => some (.disconnect params)
  | "network.profiles" => some (.profiles params)
  | "network.profile.activate" => some (.activateProfile params)
  | "network.profile.delete" => some (.deleteProfile params)
  | _ => none

/-- The server of `main.run` -/
def Managers.server (settings : DaemonSettings) : IPCServer Handler := ⟨settings, d.handlers⟩

end Table

/-! ### A connection -/

/-- A call of `_handle_client`: that of a handler is the handler. -/
def carryOut : (c : Ipc.Call Handler) → Proc (Ipc.Reply c)
  | .handle handler params => handler params
  | .write line => perform (Call.write line)
  | .drain => perform Call.drain
  | .close => perform Call.close
  | .waitClosed => perform Call.waitClosed

/-- `IPCServer._handle_client` with the handlers of the daemon -/
def serve (json : Json) (d : Managers) (settings : DaemonSettings) (conn : Connection) : Proc Unit :=
  (handleClient json d.rt (d.server settings) conn).interpret carryOut

/-! ### What a handler is -/

/-- What a request of this action and with these parameters comes to: an operation of the network
manager or a coroutine of the system manager -/
inductive Handling (d : Managers) (action : String) (params : Dict) (p : Proc Value) : Prop
  | network (op : Network.Operation) (asked : d.operation? action params = some op)
      (eq : p = onNetwork (op.handle d.network d.rt d.fuel))
  | system (q : System.Proc System.Result)
      (asked : System.handler d.system d.rt d.fuel action params = some q)
      (eq : p = onSystem do
        let result ← q
        return result.modelDump)

/-- **The handler under a name is the coroutine of that action.** -/
theorem route {d : Managers} {settings : DaemonSettings} {action : String} {handler : Handler}
    (h : (d.server settings).handler? action = some handler) (params : Dict) :
    Handling d action params (handler params) := by
  obtain ⟨⟨name, found⟩, hfind, rfl⟩ := Option.map_eq_some_iff.1 h
  have hname : name = action := by simpa using List.find?_some hfind
  subst hname
  have hmem := List.mem_of_find?_eq_some hfind
  simp only [Managers.server, Managers.handlers, List.mem_cons, Prod.mk.injEq, List.not_mem_nil,
    or_false] at hmem
  rcases hmem with ⟨rfl, rfl⟩ | ⟨rfl, rfl⟩ | ⟨rfl, rfl⟩ | ⟨rfl, rfl⟩ | ⟨rfl, rfl⟩ | ⟨rfl, rfl⟩ |
    ⟨rfl, rfl⟩ | ⟨rfl, rfl⟩ | ⟨rfl, rfl⟩ | ⟨rfl, rfl⟩ | ⟨rfl, rfl⟩ | ⟨rfl, rfl⟩ | ⟨rfl, rfl⟩ |
    ⟨rfl, rfl⟩ | ⟨rfl, rfl⟩
  · exact .network _ rfl rfl
  · exact .network _ rfl rfl
  · exact .network _ rfl rfl
  · exact .network _ rfl rfl
  · exact .network _ rfl rfl
  · exact .network _ rfl rfl
  · exact .network _ rfl rfl
  all_goals exact .system _ rfl rfl

end Daemon

end ApplianceAdmin
