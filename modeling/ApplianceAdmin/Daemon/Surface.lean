import ApplianceAdmin.Daemon.Served
import ApplianceAdmin.Network.Surface
import ApplianceAdmin.System.Surface

/-!
# The surface of the daemon

What any number of connections at once can make the daemon do to the machine, whatever their peers
send and whatever the bus and the commands answer.

* `networkPart`, `systemPart`: the answered calls of each manager;
* `Grounds`: what a call of the daemon rests on;
* `surface_serve`: the calls of one connection; `daemon_surface`: those of all.
-/

namespace ApplianceAdmin.Daemon

open Async Async.Prog Async.Monitor Python Ipc

/-! ### The grounds -/

/-- The answered calls of the network manager -/
def networkPart (tr : List (Event Reply Exc)) : List (Event Network.Reply Exc) :=
  tr.filterMap fun
    | ⟨.network c, r⟩ => some ⟨c, r⟩
    | _ => none

/-- The answered calls of the system manager -/
def systemPart (tr : List (Event Reply Exc)) : List (Event System.Reply Exc) :=
  tr.filterMap fun
    | ⟨.system c, r⟩ => some ⟨c, r⟩
    | _ => none

/-- What a call on a connection rests on, after the answered calls `tr`: the peer is authorized and
has sent a request, the call is one of the action that is asked for, and it has its ground there. -/
def Grounds (json : Json) (d : Managers) (settings : DaemonSettings) (conn : Connection)
    (tr : List (Event Reply Exc)) : Call → Prop
  | .network c => ∃ request op, Asked json d settings conn request ∧
      d.operation? request.action request.params = some op ∧
      op.Surface d.network d.rt (networkPart tr) c
  | .system c => ∃ request, Asked json d settings conn request ∧
      (System.handler d.system d.rt d.fuel request.action request.params).isSome = true ∧
      System.Valid d.system d.rt request.params request.action ∧
      ∀ argv env, c = .spawn argv env →
        System.Surface d.system d.rt request.params (System.steps (systemPart tr)) argv
  | .write _ | .drain | .close | .waitClosed => True

/-! ### The managers -/

section Managers

variable {d : Managers} {tr : List (Event Reply Exc)}

@[simp] theorem networkPart_map (inner : List (Event Network.Reply Exc)) :
    networkPart (inner.map networkEvent) = inner := by
  induction inner with
  | nil => rfl
  | cons e inner ih => exact congrArg (List.cons e) ih

@[simp] theorem systemPart_map (inner : List (Event System.Reply Exc)) :
    systemPart (inner.map systemEvent) = inner := by
  induction inner with
  | nil => rfl
  | cons e inner ih => exact congrArg (List.cons e) ih

/-- A result that is made into a value and then left out -/
theorem discard {C : Type} {R : C → Type} {ε α β : Type} (p : Prog R ε α) (f : α → β) :
    (p >>= fun a => (pure (f a) : Prog R ε β)) >>= (fun _ => pure ()) = p >>= fun _ => pure () := by
  induction p with
  | done r => cases r <;> rfl
  | spin => rfl
  | call c k ih => exact congrArg (Prog.call c) (funext ih)

theorem bind_unit {C : Type} {R : C → Type} {ε : Type} (p : Prog R ε Unit) :
    p >>= (fun _ => pure ()) = p := by
  induction p with
  | done r => cases r <;> rfl
  | spin => rfl
  | call c k ih => exact congrArg (Prog.call c) (funext ih)

/-- Such a sequence makes the calls of its first part. -/
theorem Path.of_bind_pure {C : Type} {R : C → Type} {ε α β : Type} {p : Prog R ε α} {f : α → β}
    {tr : List (Event R ε)} {c : C} {k : Except ε (R c) → Prog R ε β}
    (h : Path (p >>= fun a => pure (f a)) tr (.call c k)) : ∃ k', Path p tr (.call c k') := by
  induction p generalizing tr with
  | done r => cases r <;> cases h
  | spin => cases h
  | call c' k' ih =>
    cases h with
    | nil => exact ⟨k', .nil _⟩
    | cons h =>
      obtain ⟨k'', hp⟩ := ih _ h
      exact ⟨k'', .cons hp⟩

/-- The coroutine without its result -/
theorem run_eq_handle (m : Network.NetworkManager) (rt : Runtime) (fuel : ℕ)
    (op : Network.Operation) : op.run m rt fuel = op.handle m rt fuel >>= fun _ => pure () := by
  cases op with
  | start => exact ((discard _ _).trans (bind_unit _)).symm
  | _ => exact (discard _ _).symm

/-- A call of the network manager -/
theorem ground_of_handle {op : Network.Operation} {inner : List (Event Network.Reply Exc)}
    {c : Network.Call} {k : Except Exc (Network.Reply c) → Network.Proc Value}
    (h : Path (op.handle d.network d.rt d.fuel) inner (.call c k)) :
    op.Surface d.network d.rt inner c := by
  have hrun := h.bind fun _ => (pure () : Network.Proc Unit)
  rw [← run_eq_handle] at hrun
  exact wp_pre hrun (trail_history inner) (Network.surface_run op)

/-- A call of the system manager -/
theorem ground_of_handler {action : String} {params : Dict} {q : System.Proc System.Result}
    (hq : System.handler d.system d.rt d.fuel action params = some q)
    {inner : List (Event System.Reply Exc)} {c : System.Call}
    {k : Except Exc (System.Reply c) → System.Proc System.Result}
    (h : Path q inner (.call c k)) : System.Valid d.system d.rt params action ∧
      ∀ argv env, c = .spawn argv env →
        System.Surface d.system d.rt params (System.steps inner) argv := by
  refine ⟨?_, wp_pre h (trail_ofFold _ inner) (System.handler_surface hq)⟩
  by_contra hinvalid
  obtain ⟨exc, rfl⟩ := System.handler_invalid hq hinvalid
  cases h.of_done.2

end Managers

/-! ### One connection -/

section Connections

variable {json : Json} {d : Managers} {settings : DaemonSettings} {conn : Connection}
  {tr : List (Event Reply Exc)} {c : Call}

/-- A call of the handler of a request -/
theorem ground_of_handling {request : IPCRequest} (hasked : Asked json d settings conn request)
    {p : Proc Value} (hp : Handling d request.action request.params p)
    {k : Except Exc (Reply c) → Proc Value} (h : Path p tr (.call c k)) :
    Grounds json d settings conn tr c := by
  cases hp with
  | network op asked eq =>
    subst eq
    obtain ⟨inner, p', hpath, rfl, hp'⟩ := Path.of_onNetwork h
    cases p' with
    | done r => cases hp'
    | spin => cases hp'
    | call c' k' =>
      cases hp'
      refine ⟨request, op, hasked, asked, ?_⟩
      rw [networkPart_map]
      exact ground_of_handle hpath
  | system q asked eq =>
    subst eq
    obtain ⟨inner, p', hpath, rfl, hp'⟩ := Path.of_onSystem h
    cases p' with
    | done r => cases hp'
    | spin => cases hp'
    | call c' k' =>
      cases hp'
      obtain ⟨k'', hq⟩ := Path.of_bind_pure hpath
      obtain ⟨hvalid, hsurface⟩ := ground_of_handler asked hq
      refine ⟨request, hasked, by rw [asked]; rfl, hvalid, ?_⟩
      rwa [systemPart_map]

/-- The socket needs no ground. -/
def Call.onSocket : Call → Bool
  | .network _ | .system _ => false
  | .write _ | .drain | .close | .waitClosed => true

theorem ground_of_onSocket (tr : List (Event Reply Exc)) (c : Call) (hc : c.onSocket = true) :
    Grounds json d settings conn tr c := by
  cases c with
  | network c => cases hc
  | system c => cases hc
  | _ => trivial

theorem calls_send_onSocket (response : IPCResponse Value) :
    Calls (fun c : Call => c.onSocket = true) ((send json response).interpret carryOut) := by
  refine calls_interpret (calls_send json response) fun c hc => ?_
  cases c with
  | handle handler params => cases hc
  | _ => exact (calls_perform _).2 rfl

/-- Every call of a connection has its ground. -/
theorem ground_of_serve {k : Except Exc (Reply c) → Proc Unit}
    (h : Path (serve json d settings conn) tr (.call c k)) : Grounds json d settings conn tr c := by
  unfold serve at h
  rcases courses json d.rt (d.server settings) conn with ⟨exc, -, heq⟩ |
    ⟨request, hrequest, ⟨-, heq⟩ | ⟨handler, hhandler, heq⟩⟩
  · rw [heq] at h
    exact ground_of_onSocket tr c (h.calls_rest (calls_send_onSocket _)).1
  · rw [heq] at h
    exact ground_of_onSocket tr c (h.calls_rest (calls_send_onSocket _)).1
  · rw [heq] at h
    have hhandling := route hhandler request.params
    exact ground_of_follow (fun tr c k' h => ground_of_handling hrequest hhandling h)
      (fun r => calls_send_onSocket _) ground_of_onSocket h

end Connections

/-! ### All connections -/

/-- Does the caller wait for the call? -/
def Call.awaited : Call → Bool
  | .network c => c.awaited
  | .system c => c.awaited
  | .drain | .waitClosed => true
  | .write _ | .close => false

/-- Surroundings that may answer anything: the world is the answers of the moment. -/
def surroundings : Env Reply Exc ((c : Call) → Except Exc (Reply c)) where
  yields := Call.awaited
  issue _ _ w := w
  answer _ c w := w c
  legal _ _ _ _ := true
  apply _ _ _ w := w
  tau _ _ := True

/-- The task of a connection to the daemon -/
def IsConnection (json : Json) (d : Managers) (settings : DaemonSettings) (conn : Connection)
    (p : Proc Unit) : Prop :=
  p = serve json d settings conn

/-- **The surface of the daemon is closed.**  With any number of connections at once, in any
interleaving and whatever is answered, every call to the bus or to the subprocess layer that is made
for a connection has its ground there: the peer of this connection is authorized and has sent a
request for it, with parameters that pass the checks of the action, and the rest of its ground is in
what has been answered on this connection before. -/
theorem daemon_surface {json : Json} {d : Managers} {settings : DaemonSettings}
    {w₀ : (c : Call) → Except Exc (Reply c)} {conns : List Connection}
    {a : Config Reply Exc Unit (((c : Call) → Except Exc (Reply c)) × (Tid → List (Event Reply Exc)))}
    (h : surroundings.traced.Serves (IsConnection json d settings) (w₀, fun _ => []) conns a)
    {i : Tid} {conn : Connection} (hi : conns[i]? = some conn) :
    ∃ p, a.tasks[i]? = some p ∧ Path (serve json d settings conn) (a.world.2 i) p ∧
      Justified (Grounds json d settings conn) (a.world.2 i) p := by
  obtain ⟨p, p₀, hp, rfl, hpath⟩ := (surroundings.serves_path h).1 i conn hi
  exact ⟨p, hp, hpath, justified_of_calls (fun _ _ _ => ground_of_serve) hpath⟩

/-! ### A run -/

/-- A request to disconnect -/
def disconnectRequest : IPCRequest := ⟨"1", "wifi.disconnect", [], some "alice"⟩

def disconnectJson : Json := .knowing [disconnectRequest.toValue]

/-- Root asks to disconnect. -/
def disconnectConnection : Connection :=
  { rootConnection "alice" with
    stream := ⟨(disconnectRequest.line .writer).toOption.getD [], .stall, true⟩ }

/-- Somebody else asks for the same. -/
def strangerConnection : Connection :=
  { disconnectConnection with credentials := some (.ok (7, 1000, 1000)) }

def disconnectTask (conn : Connection) : Proc Unit :=
  serve disconnectJson defaultManagers .default conn

/-- Two such connections, of which that of root gets as far as the device -/
def disconnectMoves : List (surroundings.traced.Move Unit) :=
  [.spawn (disconnectTask strangerConnection), .spawn (disconnectTask disconnectConnection)] ++
    List.replicate 7 (.resume 1 calm)

def disconnectRun : Option (Config Reply Exc Unit
    (((c : Call) → Except Exc (Reply c)) × (Tid → List (Event Reply Exc)))) :=
  surroundings.traced.play disconnectMoves ⟨(calm, fun _ => []), []⟩

theorem isSome_disconnectRun : disconnectRun.isSome = true := by decide +kernel

theorem serves_disconnectRun : surroundings.traced.Serves
    (IsConnection disconnectJson defaultManagers .default) (calm, fun _ => [])
    [strangerConnection, disconnectConnection] (disconnectRun.get isSome_disconnectRun) := by
  have hspawns : surroundings.traced.spawns disconnectMoves =
      [disconnectTask strangerConnection, disconnectTask disconnectConnection] := by
    simp [disconnectMoves, Env.spawns, List.replicate]
  refine Env.serves_of_play _ disconnectMoves ?_ .init (Option.some_get isSome_disconnectRun).symm
  rw [hspawns]
  exact .cons rfl (.cons rfl .nil)

/-- The device has been looked up for root, and nothing has been asked for the other. -/
theorem disconnect_grounded :
    (networkPart ((disconnectRun.get isSome_disconnectRun).world.2 0)).isEmpty = true ∧
      ((disconnectRun.get isSome_disconnectRun).world.2 1).length = 11 ∧
      ∃ p, (disconnectRun.get isSome_disconnectRun).tasks[1]? = some p ∧
        Path (serve disconnectJson defaultManagers .default disconnectConnection)
          ((disconnectRun.get isSome_disconnectRun).world.2 1) p ∧
        Justified (Grounds disconnectJson defaultManagers .default disconnectConnection)
          ((disconnectRun.get isSome_disconnectRun).world.2 1) p :=
  ⟨by decide +kernel, by decide +kernel, daemon_surface serves_disconnectRun rfl⟩

end ApplianceAdmin.Daemon
