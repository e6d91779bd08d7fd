import ApplianceAdmin.Recovery.Script
import Mathlib.Data.List.AList

/-!
# What the publisher script acts on

The state that the commands of the script see: the map `publishers` and the processes that the
script has started.  A process runs until it dies, at any moment, and is reaped by `wait`.

* `World`, `World.Step`: the state, and what each command may answer in it.  Process ids are not
  used again, and `wait` returns when the process has ended;
* `View`: what the proofs look at, without the deaths: which publisher is recorded for an address
  and which processes are not reaped yet, together with the ids that `kill -0` has found;
* `View.Told`, `View.after`: the answers and the effect of a command in these terms, and
  `World.Step.view`, that every step of the world is one of its view;
* `viewing`: the monitor of the view, and `trail_view`, that a run in the world is a run of it.
-/

namespace ApplianceAdmin.Recovery

open Async Monitor

/-- The life of a process: it is dead until the shell has waited for it. -/
inductive Life
  | running
  | dead
  | reaped
  deriving DecidableEq, Repr

/-- A process that the script started, and the address that it publishes. -/
structure Child where
  address : String
  life : Life
  deriving DecidableEq, Repr

structure World where
  /-- The associative array `publishers` -/
  publishers : AList fun _ : String => ℕ
  /-- The processes started so far, by their ids -/
  children : ℕ → Option Child

namespace World

/-- Before the first poll -/
def initial : World := ⟨∅, fun _ => none⟩

def Running (w : World) (pid : ℕ) (address : String) : Prop :=
  w.children pid = some ⟨address, .running⟩

/-- The address of a process that is not reaped yet. -/
def unreaped (w : World) (pid : ℕ) : Option String :=
  (w.children pid).bind fun child => if child.life = .reaped then none else some child.address

theorem Running.unreaped {w : World} {pid : ℕ} {address : String} (h : w.Running pid address) :
    w.unreaped pid = some address := by
  simp only [Running] at h
  simp [World.unreaped, h]

/-- Some of the running processes die. -/
structure Deaths (w w' : World) : Prop where
  publishers : w'.publishers = w.publishers
  children : ∀ pid, w'.children pid = w.children pid ∨
    ∃ address, w.children pid = some ⟨address, .running⟩ ∧
      w'.children pid = some ⟨address, .dead⟩

/-- The shell has waited for a process. -/
def reap (w : World) (pid : ℕ) : World :=
  let child := (w.children pid).map fun child => { child with life := .reaped }
  { w with children := Function.update w.children pid child }

/-- A new process for an address -/
def spawn (w : World) (pid : ℕ) (address : String) : World :=
  { w with children := Function.update w.children pid (some ⟨address, .running⟩) }

/-- What a command may answer, and the state after it. -/
def Answers (w : World) : (c : Call) → Reply c → World → Prop
  | .publisherKeys, keys, w' => (keys.Nodup ∧ ∀ a, a ∈ keys ↔ a ∈ w.publishers) ∧ w' = w
  | .activeKeys active, keys, w' => (keys.Nodup ∧ ∀ a, a ∈ keys ↔ a ∈ active) ∧ w' = w
  | .lookup address, pid, w' => pid = w.publishers.lookup address ∧ w' = w
  | .expand address, pid, w' => pid = w.publishers.lookup address ∧ w' = w
  | .isPublished address, published, w' => (published = true ↔ address ∈ w.publishers) ∧ w' = w
  -- a process that has died is found or not, depending on whether the shell has noticed it
  | .killZero pid, alive, w' =>
      ((∃ address, w.Running pid address) → alive = true) ∧
        (alive = true → w.unreaped pid ≠ none) ∧ w' = w
  | .wait pid, _, w' => (∀ address, ¬w.Running pid address) ∧ w' = w.reap pid
  | .unset address, _, w' => w' = { w with publishers := w.publishers.erase address }
  | .start address, pid, w' => w.children pid = none ∧ w' = w.spawn pid address
  | .assign address pid, _, w' => w' = { w with publishers := w.publishers.insert address pid }
  | .hostname, _, w' => w' = w
  | .ipAddressShow, _, w' => w' = w
  | .kill _, _, w' => w' = w
  | .echo _, _, w' => w' = w
  | .sleep, _, w' => w' = w

/-- One command, after the deaths since the command before it. -/
def Step (w : World) (c : Call) (a : Reply c) (w' : World) : Prop :=
  ∃ w₁, w.Deaths w₁ ∧ w₁.Answers c a w'

end World

/-- The world as the monitor of a program that owes it nothing. -/
def world : Monitor Reply Exit World where
  pre _ _ := True
  next w c r w' := ∃ a, r = .ok a ∧ w.Step c a w'

/-! ### A world that answers -/

/-- A world in which processes die when they are killed, with the next process id, the hostname
and the addresses of the system. -/
structure Scene where
  world : World
  next : ℕ
  hostname : String
  lines : List String

namespace Scene

def answer (s : Scene) : (c : Call) → Except Exit (Reply c) × Scene
  | .hostname => (.ok s.hostname, s)
  | .ipAddressShow => (.ok s.lines, s)
  | .publisherKeys => (.ok s.world.publishers.keys, s)
  | .activeKeys active => (.ok active.dedup, s)
  | .lookup address => (.ok (s.world.publishers.lookup address), s)
  | .expand address => (.ok (s.world.publishers.lookup address), s)
  | .isPublished address => (.ok (s.world.publishers.lookup address).isSome, s)
  | .kill _ => (.ok (), s)
  | .killZero pid => (.ok (s.world.unreaped pid).isSome, s)
  | .wait pid => (.ok (), { s with world := s.world.reap pid })
  | .unset address =>
      (.ok (), { s with world.publishers := s.world.publishers.erase address })
  | .start address =>
      (.ok s.next, { s with world := s.world.spawn s.next address, next := s.next + 1 })
  | .assign address pid =>
      (.ok (), { s with world.publishers := s.world.publishers.insert address pid })
  | .echo _ => (.ok true, s)
  | .sleep => (.ok true, s)

/-- No process has an id from `next` on. -/
def Fresh (s : Scene) : Prop := ∀ pid, s.next ≤ pid → s.world.children pid = none

end Scene

namespace World

theorem Deaths.refl (w : World) : w.Deaths w := ⟨rfl, fun _ => .inl rfl⟩

/-- A process dies, if it is running. -/
def die (w : World) (pid : ℕ) : World :=
  let child := (w.children pid).map fun child =>
    if child.life = .running then { child with life := .dead } else child
  { w with children := Function.update w.children pid child }

theorem deaths_die (w : World) (pid : ℕ) : w.Deaths (w.die pid) := by
  refine ⟨rfl, fun q => ?_⟩
  by_cases hq : q = pid
  · subst hq
    obtain h | ⟨⟨a, life⟩, h⟩ := Option.eq_none_or_eq_some (w.children q)
    · simp [die, h]
    · cases life <;> simp [die, h]
  · simp [die, hq]

theorem not_running_die (w : World) (pid : ℕ) (address : String) :
    ¬(w.die pid).Running pid address := by
  obtain h | ⟨⟨a, life⟩, h⟩ := Option.eq_none_or_eq_some (w.children pid)
  · simp [die, Running, h]
  · cases life <;> simp [die, Running, h]

theorem reap_die (w : World) (pid : ℕ) : (w.die pid).reap pid = w.reap pid := by
  obtain h | ⟨⟨a, life⟩, h⟩ := Option.eq_none_or_eq_some (w.children pid)
  · simp [die, reap, h]
  · cases life <;> simp [die, reap, h]

end World

/-- The answers of a scene are possible ones. -/
theorem Scene.next_answer (s : Scene) (c : Call) (h : s.Fresh) :
    Recovery.world.next s.world c (s.answer c).1 (s.answer c).2.world ∧ (s.answer c).2.Fresh := by
  cases c with
  | publisherKeys =>
    exact ⟨⟨_, rfl, _, .refl _, ⟨s.world.publishers.keys_nodup, fun a => AList.mem_keys.symm⟩,
      rfl⟩, h⟩
  | activeKeys active =>
    exact ⟨⟨_, rfl, _, .refl _, ⟨List.nodup_dedup _, fun a => List.mem_dedup⟩, rfl⟩, h⟩
  | lookup address => exact ⟨⟨_, rfl, _, .refl _, rfl, rfl⟩, h⟩
  | expand address => exact ⟨⟨_, rfl, _, .refl _, rfl, rfl⟩, h⟩
  | isPublished address => exact ⟨⟨_, rfl, _, .refl _, AList.lookup_isSome, rfl⟩, h⟩
  | killZero pid =>
    refine ⟨⟨_, rfl, _, .refl _, fun ⟨a, ha⟩ => by simp [ha.unreaped], fun hs => ?_, rfl⟩, h⟩
    exact Option.isSome_iff_ne_none.1 hs
  | wait pid =>
    refine ⟨⟨_, rfl, _, s.world.deaths_die pid, s.world.not_running_die pid, ?_⟩, fun q hq => ?_⟩
    · exact (s.world.reap_die pid).symm
    · by_cases hqp : q = pid
      · subst hqp
        simp [answer, World.reap, h q hq]
      · simpa [answer, World.reap, hqp] using h q hq
  | start address =>
    refine ⟨⟨_, rfl, _, .refl _, h _ le_rfl, rfl⟩, fun q (hq : s.next + 1 ≤ q) => ?_⟩
    have hne : q ≠ s.next := by omega
    simpa [answer, World.spawn, hne] using h q (by omega)
  | unset address => exact ⟨⟨_, rfl, _, .refl _, rfl⟩, h⟩
  | assign address pid => exact ⟨⟨_, rfl, _, .refl _, rfl⟩, h⟩
  | hostname => exact ⟨⟨_, rfl, _, .refl _, rfl⟩, h⟩
  | ipAddressShow => exact ⟨⟨_, rfl, _, .refl _, rfl⟩, h⟩
  | kill pid => exact ⟨⟨_, rfl, _, .refl _, rfl⟩, h⟩
  | echo address => exact ⟨⟨_, rfl, _, .refl _, rfl⟩, h⟩
  | sleep => exact ⟨⟨_, rfl, _, .refl _, rfl⟩, h⟩

/-! ### The view of the proofs -/

/-- The publishers that are recorded, the processes that are not reaped, and the ids that were
found alive since the view was taken. -/
@[ext] structure View where
  recorded : String → Option ℕ
  unreaped : ℕ → Option String
  found : List ℕ

namespace View

/-- What is known from the answer of a command. -/
def Told (v : View) : (c : Call) → Reply c → Prop
  | .publisherKeys, keys => keys.Nodup ∧ ∀ a, a ∈ keys ↔ (v.recorded a).isSome
  | .activeKeys active, keys => keys.Nodup ∧ ∀ a, a ∈ keys ↔ a ∈ active
  | .lookup address, pid => pid = v.recorded address
  | .expand address, pid => pid = v.recorded address
  | .isPublished address, published => published = (v.recorded address).isSome
  | .killZero pid, alive => alive = true → v.unreaped pid ≠ none
  | .start _, pid => v.unreaped pid = none
  | _, _ => True

/-- The effect of a command. -/
def after (v : View) : (c : Call) → Reply c → View
  | .killZero pid, true => { v with found := pid :: v.found }
  | .wait pid, _ => { v with unreaped := Function.update v.unreaped pid none }
  | .unset address, _ => { v with recorded := Function.update v.recorded address none }
  | .start address, pid => { v with unreaped := Function.update v.unreaped pid (some address) }
  | .assign address pid, _ => { v with recorded := Function.update v.recorded address (some pid) }
  | _, _ => v

end View

/-- The view of a world, with the ids found so far. -/
def World.view (w : World) (found : List ℕ) : View :=
  ⟨fun a => w.publishers.lookup a, w.unreaped, found⟩

namespace World

theorem Deaths.unreaped {w w' : World} (h : w.Deaths w') (pid : ℕ) :
    w'.unreaped pid = w.unreaped pid := by
  obtain he | ⟨a, hr, hd⟩ := h.children pid
  · simp only [World.unreaped, he]
  · simp [World.unreaped, hr, hd]

theorem Deaths.view {w w' : World} (h : w.Deaths w') (found : List ℕ) :
    w'.view found = w.view found :=
  View.ext (by simp [World.view, h.publishers]) (funext h.unreaped) rfl

theorem unreaped_reap (w : World) (pid : ℕ) :
    (w.reap pid).unreaped = Function.update w.unreaped pid none := by
  funext q
  by_cases hq : q = pid
  · subst hq
    cases h : w.children q <;> simp [unreaped, reap, h]
  · simp [unreaped, reap, hq]

theorem unreaped_spawn (w : World) (pid : ℕ) (address : String) :
    (w.spawn pid address).unreaped = Function.update w.unreaped pid (some address) := by
  funext q
  by_cases hq : q = pid
  · subst hq
    simp [unreaped, spawn]
  · simp [unreaped, spawn, hq]

/-- An answer of the world, as its view has it. -/
theorem Answers.view {w w' : World} {c : Call} {a : Reply c} (h : w.Answers c a w')
    (found : List ℕ) : (w.view found).Told c a ∧
      (w.view found).after c a = w'.view ((w.view found).after c a).found := by
  cases c with
  | publisherKeys =>
    obtain ⟨⟨hn, hm⟩, rfl⟩ := h
    exact ⟨⟨hn, fun a => (hm a).trans AList.lookup_isSome.symm⟩, rfl⟩
  | activeKeys active => exact ⟨h.1, by rw [h.2]; rfl⟩
  | lookup address => exact ⟨h.1, by rw [h.2]; rfl⟩
  | expand address => exact ⟨h.1, by rw [h.2]; rfl⟩
  | isPublished address =>
    obtain ⟨hp, rfl⟩ := h
    exact ⟨Bool.eq_iff_iff.2 (hp.trans AList.lookup_isSome.symm), rfl⟩
  | killZero pid =>
    obtain ⟨-, hu, rfl⟩ := h
    refine ⟨hu, ?_⟩
    cases a <;> rfl
  | wait pid =>
    obtain ⟨-, rfl⟩ := h
    exact ⟨trivial, View.ext rfl (unreaped_reap w pid).symm rfl⟩
  | unset address =>
    cases h
    refine ⟨trivial, View.ext ?_ rfl rfl⟩
    ext b q
    by_cases hb : b = address
    · subst hb
      simp [View.after, World.view]
    · simp [View.after, World.view, Function.update_of_ne hb, AList.lookup_erase_ne hb]
  | start address =>
    obtain ⟨hf, rfl⟩ := h
    exact ⟨by simp [View.Told, World.view, unreaped, hf],
      View.ext rfl (unreaped_spawn w a address).symm rfl⟩
  | assign address pid =>
    cases h
    refine ⟨trivial, View.ext ?_ rfl rfl⟩
    ext b q
    by_cases hb : b = address
    · subst hb
      simp [View.after, World.view]
    · simp [View.after, World.view, Function.update_of_ne hb, AList.lookup_insert_ne hb]
  | hostname => cases h; exact ⟨trivial, rfl⟩
  | ipAddressShow => cases h; exact ⟨trivial, rfl⟩
  | kill pid => cases h; exact ⟨trivial, rfl⟩
  | echo address => cases h; exact ⟨trivial, rfl⟩
  | sleep => cases h; exact ⟨trivial, rfl⟩

/-- **Refinement.**  Every step of the world is the step of its view. -/
theorem Step.view {w w' : World} {c : Call} {a : Reply c} (h : w.Step c a w')
    (found : List ℕ) : (w.view found).Told c a ∧
      (w.view found).after c a = w'.view ((w.view found).after c a).found := by
  obtain ⟨w₁, hd, ha⟩ := h
  rw [← hd.view found]
  exact ha.view found

end World

/-! ### What the script owes the world -/

namespace View

/-- Every process that is not reaped is recorded for its address. -/
def Recorded (v : View) : Prop := ∀ q a, v.unreaped q = some a → v.recorded a = some q

/-- The map records the processes that are not reaped, and nothing else. -/
def Tidy (v : View) : Prop := ∀ q a, v.unreaped q = some a ↔ v.recorded a = some q

/-- No two processes that are not reaped publish one address. -/
def Single (v : View) : Prop :=
  ∀ q q' a, v.unreaped q = some a → v.unreaped q' = some a → q = q'

/-- Every process is recorded whenever the script makes a call, except between the start of a
process and its assignment; and it is started for an address that has none. -/
def Obliged (v : View) : Call → Prop
  | .start address => v.Recorded ∧ ∀ q, v.unreaped q ≠ some address
  | .assign _ _ => True
  | _ => v.Recorded

theorem Tidy.recorded {v : View} (h : v.Tidy) : v.Recorded := fun q a => (h q a).1

/-- One call keeps the processes of an address single. -/
theorem Single.after {v : View} {c : Call} (h : v.Single) (hc : v.Obliged c) (a : Reply c) :
    (v.after c a).Single := by
  cases c with
  | killZero pid => cases a <;> exact h
  | wait pid =>
    intro q q' b hq hq'
    simp only [View.after, Function.update_apply, ite_eq_iff] at hq hq'
    grind [Single]
  | start address =>
    intro q q' b hq hq'
    simp only [View.after, Function.update_apply] at hq hq'
    grind [Single, Obliged]
  | _ => exact h

end View

/-- The monitor of the view. -/
def viewing : Monitor Reply Exit View where
  pre v c := v.Obliged c
  next v c r v' := ∃ a, r = .ok a ∧ v.Told c a ∧ v' = v.after c a

theorem wp_ask {c : Call} {β : Type} {f : Reply c → Script β} {Q : Except Exit β → View → Prop}
    {v : View} (hpre : v.Obliged c)
    (h : ∀ a, v.Told c a → viewing.wp (f a) Q (v.after c a)) :
    viewing.wp (Prog.ask c >>= f) Q v := by
  refine viewing.wp_ask_bind hpre ?_
  rintro a v' ⟨_, ⟨⟩, ht, rfl⟩
  exact h a ht

theorem View.found_subset (v : View) (c : Call) (a : Reply c) : v.found ⊆ (v.after c a).found := by
  cases c with
  | killZero pid => cases a <;> simp [View.after]
  | _ => exact List.Subset.refl _

/-- A run in the world is a run of its view, which has found what `kill -0` has found. -/
theorem trail_view {w w' : World} {tr : List (Event Reply Exit)} (h : world.Trail w tr w')
    (found : List ℕ) : ∃ found', viewing.Trail (w.view found) tr (w'.view found') ∧
      found ⊆ found' ∧ ∀ pid, ⟨.killZero pid, .ok true⟩ ∈ tr → pid ∈ found' := by
  induction tr generalizing w found with
  | nil => cases h; exact ⟨found, rfl, List.Subset.refl _, by simp⟩
  | cons e tr ih =>
    obtain ⟨c, r⟩ := e
    obtain ⟨w₁, hn, ht⟩ := h
    obtain ⟨a, rfl, hs⟩ : ∃ a, r = .ok a ∧ w.Step c a w₁ := hn
    obtain ⟨htold, hafter⟩ := hs.view found
    obtain ⟨found', htr, hsub, hfound⟩ := ih ht ((w.view found).after c a).found
    refine ⟨found', ⟨_, ⟨a, rfl, htold, hafter.symm⟩, htr⟩,
      List.Subset.trans ((w.view found).found_subset c a) hsub, fun pid hp => ?_⟩
    obtain he | hp := List.mem_cons.1 hp
    · cases he
      exact hsub List.mem_cons_self
    · exact hfound pid hp

end ApplianceAdmin.Recovery
