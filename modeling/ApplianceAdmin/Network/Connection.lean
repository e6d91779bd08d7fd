import ApplianceAdmin.Network.Opening
import ApplianceAdmin.Network.World

/-!
# The connection to the bus

Any number of operations on a manager that has no bus yet, each of whose attempts to connect may
succeed or fail, and `close` at any moment.  `start` looks at `self.bus`, waits for the connection
and then sets `self.bus`, so that two operations can both find it unset.

* `Connections`, `connections`: the world with a record of the buses that were opened;
* `Kept`, `storing`: what the operations keep of this record;
* `one_bus_iff`: when a run never has more than one bus, and none after `close`;
* `two_buses`: two first users.
-/

namespace ApplianceAdmin.Network

open Async Async.Prog Async.Monitor Python

/-! ### The record of the buses -/

/-- The world with its buses, which are numbered as they are opened -/
structure Connections where
  world : World
  /-- How many buses have been opened -/
  opened : ℕ
  /-- The buses that are open, the latest first -/
  live : List ℕ
  /-- The most buses that were open at once -/
  peak : ℕ
  /-- `self.bus` -/
  bus : Option ℕ
  /-- The buses in whose place `start` has stored another one -/
  replaced : List ℕ
  /-- The tasks whose attempt to connect is under way -/
  attempts : List Tid
  /-- Has an attempt begun while another one was under way? -/
  overlapped : Bool

namespace Connections

/-- A new manager, which has no bus -/
def init (clock : ℚ) : Connections := ⟨.init clock, 0, [], 0, none, [], [], false⟩

/-- A call is made. -/
def issue (i : Tid) (c : Call) (w : Connections) : Connections :=
  let w := { w with world := w.world.issue i c }
  match c with
  | .connectBus =>
      { w with attempts := i :: w.attempts, overlapped := w.overlapped || !w.attempts.isEmpty }
  | _ => w

/-- The attempt of task `i` succeeds. -/
def opens (i : Tid) (w : Connections) : Connections :=
  { w with
    opened := w.opened + 1
    live := w.opened :: w.live
    peak := max w.peak (w.live.length + 1)
    attempts := w.attempts.erase i }

/-- `self.bus = …` with the bus that has just been opened -/
def stores (w : Connections) : Connections :=
  { w with bus := w.live.head?, replaced := w.bus.toList ++ w.replaced }

/-- What an answer changes. -/
def apply (rt : Runtime) (i : Tid) (c : Call) (r : Except Exc (Reply c)) (w : Connections) :
    Connections :=
  let w := { w with world := w.world.apply rt i c r }
  match c, r with
  | .connectBus, .ok _ => w.opens i
  | .connectBus, .error _ => { w with attempts := w.attempts.erase i }
  | .setBus true, _ => w.stores
  | .setBus false, _ => { w with bus := none }
  | _, _ => w

/-- `NetworkManager.close`, which never waits -/
def close (w : Connections) : Connections :=
  match w.bus with
  | none => w
  | some b =>
      { w with
        world := { w.world with fields := { w.world.fields with bus := false } }
        live := w.live.erase b
        bus := none }

/-- What happens besides the operations: what the world does by itself, and `close`. -/
inductive Tau : Connections → Connections → Prop
  | world {w : Connections} {world : World} : World.Tau w.world world →
      Tau w { w with world := world }
  | close (w : Connections) : Tau w w.close

end Connections

/-- The manager with the record of its buses -/
def connections (rt : Runtime) : Env Reply Exc Connections where
  yields := Call.awaited
  issue := Connections.issue
  answer _ c w := w.world.answer c
  legal i c r w := w.world.legal i c r
  apply := Connections.apply rt
  tau := Connections.Tau

/-! ### What is kept -/

/-- Only the calls of `start` change `self.bus`. -/
theorem World.apply_fields_bus {rt : Runtime} {i : Tid} {w : World} {c : Call}
    (hc : c.sparesBus = true) (r : Except Exc (Reply c)) :
    (w.apply rt i c r).fields.bus = w.fields.bus := by
  show (w.receive i c r).fields.bus = w.fields.bus
  unfold World.receive
  split <;> try split_ifs
  all_goals first | rfl | (cases ‹Lock› <;> rfl) | cases hc

/-- What holds of the record whenever no operation is running -/
structure Kept (w : Connections) : Prop where
  fields : w.world.fields.bus = w.bus.isSome
  /-- A bus that is open is the current one or has been replaced. -/
  live : w.live = w.bus.toList ++ w.replaced
  le_peak : w.live.length ≤ w.peak
  peak : w.peak ≤ 1 ↔ w.replaced = []
  /-- As long as no two attempts overlap, there is at most one, and only while there is no bus. -/
  alone : w.overlapped = false →
    w.replaced = [] ∧ (w.attempts = [] ∨ w.bus = none ∧ ∃ i, w.attempts = [i])

namespace Kept

variable {rt : Runtime} {i : Tid} {w : Connections} {c : Call}

theorem init (clock : ℚ) : Kept (.init clock) where
  fields := rfl
  live := rfl
  le_peak := le_rfl
  peak := iff_of_true (Nat.zero_le 1) rfl
  alone _ := ⟨rfl, .inl rfl⟩

/-- Only the attribute matters of what the world does. -/
theorem world (h : Kept w) {world : World} (hbus : world.fields.bus = w.world.fields.bus) :
    Kept { w with world := world } :=
  ⟨hbus.trans h.fields, h.live, h.le_peak, h.peak, h.alone⟩

/-! #### The other calls -/

theorem issue (h : Kept w) (hc : c.sparesBus = true) : Kept (w.issue i c) := by
  have hworld : w.issue i c = { w with world := w.world.issue i c } := by
    cases c <;> first | rfl | cases hc
  rw [hworld]
  exact h.world (congrArg Fields.bus (World.issue_fields c))

theorem apply (h : Kept w) (hc : c.sparesBus = true) (r : Except Exc (Reply c)) :
    Kept (w.apply rt i c r) := by
  have hworld : w.apply rt i c r = { w with world := w.world.apply rt i c r } := by
    cases c <;> first | rfl | cases hc
  rw [hworld]
  exact h.world (World.apply_fields_bus hc r)

/-! #### An attempt to connect -/

/-- An attempt begins while there is no bus. -/
theorem attempt (h : Kept w) (hbus : w.bus = none) : Kept (w.issue i .connectBus) where
  fields := h.fields
  live := h.live
  le_peak := h.le_peak
  peak := h.peak
  alone hoverlapped := by
    obtain ⟨hbefore, hnone⟩ := Bool.or_eq_false_iff.1 hoverlapped
    have hattempts : w.attempts = [] := by simpa using hnone
    refine ⟨(h.alone hbefore).1, .inr ⟨hbus, i, ?_⟩⟩
    show i :: w.attempts = [i]
    rw [hattempts]

/-- The attempt that is alone -/
theorem alone_of_mem (h : Kept w) (hi : i ∈ w.attempts) (hoverlapped : w.overlapped = false) :
    w.replaced = [] ∧ w.bus = none ∧ w.attempts = [i] := by
  obtain ⟨hreplaced, hnone | ⟨hbus, j, hj⟩⟩ := h.alone hoverlapped
  · rw [hnone] at hi
    cases hi
  · rw [hj, List.mem_singleton] at hi
    subst hi
    exact ⟨hreplaced, hbus, hj⟩

theorem fails (h : Kept w) (hi : i ∈ w.attempts) (x : Exc) :
    Kept (w.apply rt i .connectBus (.error x)) where
  fields := h.fields
  live := h.live
  le_peak := h.le_peak
  peak := h.peak
  alone hoverlapped := by
    obtain ⟨hreplaced, -, hattempts⟩ := h.alone_of_mem hi hoverlapped
    refine ⟨hreplaced, .inl ?_⟩
    show w.attempts.erase i = []
    rw [hattempts, List.erase_cons_head]

/-- The attempt succeeds, and `start` stores the bus: in place of the current one, if there is
one by now. -/
theorem succeeds (h : Kept w) (hi : i ∈ w.attempts) (a : Unit) (r : Except Exc Unit) :
    Kept (((w.apply rt i .connectBus (.ok a)).issue i (.setBus true)).apply rt i (.setBus true) r)
    where
  fields := rfl
  live := by
    show w.opened :: w.live = [w.opened] ++ (w.bus.toList ++ w.replaced)
    rw [← h.live, List.singleton_append]
  le_peak := le_max_right _ _
  peak := by
    show max w.peak (w.live.length + 1) ≤ 1 ↔ w.bus.toList ++ w.replaced = []
    rw [← h.live, max_le_iff]
    constructor
    · rintro ⟨-, hlength⟩
      exact List.length_eq_zero_iff.1 (Nat.le_zero.1 (Nat.le_of_succ_le_succ hlength))
    · intro hlive
      have hreplaced : w.replaced = [] := (List.append_eq_nil_iff.1 (h.live ▸ hlive)).2
      exact ⟨h.peak.2 hreplaced, by rw [hlive, List.length_nil]⟩
  alone hoverlapped := by
    obtain ⟨hreplaced, hbus, hattempts⟩ := h.alone_of_mem hi hoverlapped
    constructor
    · show w.bus.toList ++ w.replaced = []
      rw [hbus, hreplaced]
      rfl
    · refine .inl ?_
      show w.attempts.erase i = []
      rw [hattempts, List.erase_cons_head]

/-! #### Closing -/

/-- `close` disconnects the current bus, and no other. -/
theorem live_close (h : Kept w) : w.close.live = w.replaced := by
  have hlive := h.live
  unfold Connections.close
  cases hbus : w.bus with
  | none =>
    rw [hbus] at hlive
    exact hlive
  | some b =>
    show w.live.erase b = w.replaced
    rw [hlive, hbus, Option.toList_some, List.singleton_append, List.erase_cons_head]

theorem close (h : Kept w) : Kept w.close := by
  have hlive := h.live_close
  unfold Connections.close at hlive ⊢
  cases hbus : w.bus with
  | none => exact h
  | some b =>
    rw [hbus] at hlive
    refine ⟨rfl, hlive, ?_, h.peak, fun hoverlapped => ?_⟩
    · exact List.erase_sublist.length_le.trans h.le_peak
    · obtain ⟨hreplaced, hnone | ⟨hbus', -⟩⟩ := h.alone hoverlapped
      · exact ⟨hreplaced, .inl hnone⟩
      · rw [hbus] at hbus'
        cases hbus'

theorem tau {w' : Connections} (h : Kept w) (ht : Connections.Tau w w') : Kept w' := by
  cases ht with
  | world ht => exact h.world (congrArg Fields.bus (World.tau_fields ht))
  | close => exact h.close

end Kept

/-! ### The operations together -/

section Operations

variable {m : NetworkManager} {rt : Runtime} {i j : Tid} {w : Connections} {c : Call}

/-- What a call changes of the attempts -/
theorem mem_attempts_issue (hji : j ≠ i) (c : Call) :
    j ∈ (w.issue i c).attempts ↔ j ∈ w.attempts := by
  cases c with
  | connectBus => exact List.mem_cons.trans (or_iff_right hji)
  | _ => exact Iff.rfl

theorem mem_attempts_apply (hji : j ≠ i) (r : Except Exc (Reply c)) :
    j ∈ (w.apply rt i c r).attempts ↔ j ∈ w.attempts := by
  cases c with
  | connectBus => cases r <;> exact List.mem_erase_of_ne hji
  | setBus connected => cases connected <;> exact Iff.rfl
  | _ => exact Iff.rfl

theorem attempts_close (w : Connections) : w.close.attempts = w.attempts := by
  unfold Connections.close
  split <;> rfl

/-- The operations of one manager.  A task that waits for its connection stays among the attempts,
and it begins one only when it has just found that there is no bus. -/
def storing (rt : Runtime) : Discipline (connections rt) where
  inv := Kept
  rely i w w' := i ∈ w.attempts → i ∈ w'.attempts
  idle _ _ := True
  pre _ w c := c.awaited = true → Kept w ∧ (c = .connectBus → w.bus = none)
  rely_refl _ _ := id
  rely_trans h h' := h' ∘ h
  idle_rely _ _ := trivial
  inv_issue := by
    rintro i w c hy hpre
    obtain ⟨hkept, hbus⟩ := hpre hy
    by_cases hc : c = .connectBus
    · subst hc
      exact hkept.attempt (hbus rfl)
    · exact hkept.issue (by cases c <;> first | rfl | exact absurd rfl hc | cases hy)
  keeps_issue := by
    rintro i j w c - hji hj
    exact (mem_attempts_issue hji c).2 hj
  keeps_answer := by
    rintro i j w c - - hji hj
    exact (mem_attempts_apply hji _).2 hj
  keeps_reply := by
    rintro i j w c w' r - - - - - hji hj
    exact (mem_attempts_apply hji r).2 hj
  tau_inv h ht := h.tau ht
  tau_rely := by
    rintro w w' i - ht hi
    cases ht with
    | world _ => exact hi
    | close =>
      rw [attempts_close]
      exact hi

/-- The calls outside `start` -/
theorem storing_call (hc : c.sparesBus = true) (hw : Kept w) : ((storing rt).mon i).pre w c ∧
    ∀ r w', ((storing rt).mon i).next w c r w' → Kept w' := by
  refine ⟨fun _ => ⟨hw, ?_⟩, ?_⟩
  · rintro rfl
    cases hc
  · rintro r w' ⟨-, hnext⟩
    split at hnext
    · obtain ⟨w₁, -, hw₁, -, rfl⟩ := hnext
      exact hw₁.apply hc r
    · obtain ⟨-, rfl⟩ := hnext
      exact (hw.issue hc).apply hc r

/-- What `start` finds in `self.bus` -/
theorem bus_of_fields {self : Fields} {w' : Connections}
    (hn : ((storing rt).mon i).next w .fields (.ok self) w') (hw' : Kept w') :
    self.bus = w'.bus.isSome := by
  obtain ⟨-, hself, rfl⟩ := hn
  cases hself
  exact hw'.fields

/-- The bus that `start` opens is stored before any other task runs. -/
theorem wp_start_storing (hw : Kept w) : ((storing rt).mon i).wp start (fun _ => Kept) w := by
  unfold start
  refine wp_ask_bind _ (storing_call rfl hw).1 fun self w₁ hself => ?_
  have hw₁ : Kept w₁ := (storing_call rfl hw).2 _ _ hself
  have hbus : self.bus = w₁.bus.isSome := bus_of_fields hself hw₁
  rw [wp_ite]
  split
  · exact hw₁
  · rename_i hnone
    rw [hbus, Option.not_isSome_iff_eq_none] at hnone
    rw [wp_bind, wp_tryCatch, wp_perform]
    refine ⟨fun _ => ⟨hw₁, fun _ => hnone⟩, ?_⟩
    rintro r w' ⟨-, w₂, hwaiting, hw₂, -, rfl⟩
    have hi : i ∈ w₂.attempts := hwaiting List.mem_cons_self
    cases r with
    | error x =>
      have hfailed : Kept (w₂.apply rt i .connectBus (.error x)) := hw₂.fails hi x
      rw [orElse_error, wp_ite]
      split
      · exact hfailed
      · exact hfailed
    | ok a =>
      rw [orElse_ok, andThen_ok, wp_ask]
      refine ⟨fun hy => (by cases hy), ?_⟩
      rintro u w₃ ⟨-, -, rfl⟩
      exact hw₂.succeeds hi a (.ok u)

variable (m rt) in
/-- The tasks: any operations, with any fuel for their loops -/
def IsOperation (p : Proc Unit) : Prop :=
  ∃ (fuel : ℕ) (op : Operation), p = op.run m rt fuel

theorem wp_operation {p : Proc Unit} (hp : IsOperation m rt p) (hw : Kept w) :
    ((storing rt).mon i).wp p (fun _ => Kept) w := by
  obtain ⟨fuel, op, rfl⟩ := hp
  exact wp_of_built (fun _ _ hc => storing_call hc) (fun _ => wp_start_storing)
    (connecting_run m rt fuel op) w hw

/-- The record is kept in every state that the operations can reach. -/
theorem kept_of_reach {clock : ℚ} {a : Config Reply Exc Unit Connections}
    (h : (connections rt).Reach (IsOperation m rt) (.init clock) a) : Kept a.world := by
  refine (Discipline.reach_good (D := storing rt) (Q := fun _ _ => Kept) (fun _ _ _ h => h)
    (fun p hp i w hw _ => wp_operation hp hw) (.init clock) (fun _ => trivial) h trivial).inv

/-- No operation is in progress. -/
def AtRest (a : Config Reply Exc Unit Connections) : Prop :=
  ∀ i < a.tasks.length, (a.result i).isSome = true

/-- At most one bus is open, there never were more, and when no operation is in progress, `close`
leaves none. -/
structure OneBus (a : Config Reply Exc Unit Connections) : Prop where
  live : a.world.live.length ≤ 1
  peak : a.world.peak ≤ 1
  close : AtRest a → a.world.close.live = []

/-- **A run has at most one bus exactly when `start` never stores one in place of another, and it
never does when no two attempts to connect overlap.** -/
theorem one_bus_iff {clock : ℚ} {a : Config Reply Exc Unit Connections}
    (h : (connections rt).Reach (IsOperation m rt) (.init clock) a) :
    (OneBus a ↔ a.world.replaced = []) ∧ (a.world.overlapped = false → a.world.replaced = []) := by
  have hkept := kept_of_reach h
  refine ⟨⟨fun hone => hkept.peak.1 hone.peak, fun hreplaced => ?_⟩, fun hoverlapped => ?_⟩
  · have hpeak : a.world.peak ≤ 1 := hkept.peak.2 hreplaced
    exact ⟨hkept.le_peak.trans hpeak, hpeak, fun _ => hkept.live_close.trans hreplaced⟩
  · exact (hkept.alone hoverlapped).1

end Operations

/-! ### Runs -/

/-- A request for the status, as a first user may send it -/
def statusTask : Proc Unit := (Operation.status []).run .default .ascii 1

theorem isOperation_statusTask : IsOperation .default .ascii statusTask := ⟨1, .status [], rfl⟩

/-- The attempt of task `i` succeeds. -/
def connected (i : Tid) : (connections .ascii).Move Unit := .resume i fun c => .ok (quiet c)

/-- The bus does not answer task `i`. -/
def unanswered (i : Tid) : (connections .ascii).Move Unit :=
  .resume i fun _ => .error (.py ⟨.dbus, "no reply"⟩)

def closed : (connections .ascii).Move Unit :=
  .tau (fun w => some w.close) fun w w' h => by
    cases h
    exact .close w

/-- One user after the other, with a `close` in between -/
def aloneBusMoves : List ((connections .ascii).Move Unit) :=
  [.spawn statusTask, connected 0, unanswered 0, closed, .spawn statusTask, connected 1]

def aloneBusRun : Option (Config Reply Exc Unit Connections) :=
  (connections .ascii).play aloneBusMoves ⟨.init 0, []⟩

theorem isSome_aloneBusRun : aloneBusRun.isSome = true := rfl

theorem reach_aloneBusRun : (connections .ascii).Reach (IsOperation .default .ascii) (.init 0)
    (aloneBusRun.get isSome_aloneBusRun) := by
  refine Env.reach_of_play _ aloneBusMoves (fun p hp => ?_) .init
    (Option.some_get isSome_aloneBusRun).symm
  obtain rfl : p = statusTask := by
    simpa [aloneBusMoves, Env.spawns, connected, unanswered, closed] using hp
  exact isOperation_statusTask

/-- Users that do not meet have one bus. -/
theorem alone_oneBus : (aloneBusRun.get isSome_aloneBusRun).world.live = [1] ∧
    OneBus (aloneBusRun.get isSome_aloneBusRun) :=
  ⟨rfl, (one_bus_iff reach_aloneBusRun).1.2 ((one_bus_iff reach_aloneBusRun).2 rfl)⟩

/-- Two first users, whose attempts both succeed -/
def twoUsersMoves : List ((connections .ascii).Move Unit) :=
  [.spawn statusTask, .spawn statusTask, connected 0, connected 1, unanswered 0, unanswered 1]

def twoUsersRun : Option (Config Reply Exc Unit Connections) :=
  (connections .ascii).play twoUsersMoves ⟨.init 0, []⟩

theorem isSome_twoUsersRun : twoUsersRun.isSome = true := rfl

theorem reach_twoUsersRun : (connections .ascii).Reach (IsOperation .default .ascii) (.init 0)
    (twoUsersRun.get isSome_twoUsersRun) := by
  refine Env.reach_of_play _ twoUsersMoves (fun p hp => ?_) .init
    (Option.some_get isSome_twoUsersRun).symm
  obtain rfl : p = statusTask := by
    simpa [twoUsersMoves, Env.spawns, connected, unanswered] using hp
  exact isOperation_statusTask

/-- Two first users open two buses, and `close` leaves the first one open. -/
theorem two_buses :
    ∃ a, (connections .ascii).Reach (IsOperation .default .ascii) (.init 0) a ∧
      AtRest a ∧ a.world.live = [1, 0] ∧ a.world.close.live = [0] ∧ ¬OneBus a := by
  refine ⟨twoUsersRun.get isSome_twoUsersRun, reach_twoUsersRun, ?_, rfl, rfl, fun hone => ?_⟩
  · show ∀ i < 2, ((twoUsersRun.get isSome_twoUsersRun).result i).isSome = true
    decide
  · exact absurd hone.live (by decide)

end ApplianceAdmin.Network
