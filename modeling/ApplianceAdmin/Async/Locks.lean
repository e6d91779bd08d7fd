import ApplianceAdmin.Async.Shared

/-!
# Locks

Pools in whose world there are locks.  A program that holds one lock at a time can wait for a lock
only while it holds none, so that no two tasks wait for each other.

* `Locks`: which calls take a lock and give it back, and who holds it;
* `Orderly p`: alone, `p` takes a lock only while it holds none, gives back only the one it holds,
  and has given it back when it ends, however it ends;
* `Locks.discipline`: orderly programs in a pool;
* `holder_running`: the holder of a lock is a task that has not ended and waits for no lock;
* `holder_of_ended`: a task that ends gives back its lock and leaves the others alone.
-/

namespace ApplianceAdmin.Async

open Prog

variable {C : Type} {R : C → Type} {ε α β ω L : Type}

/-- The locks `L` in the world of `E` -/
structure Locks (E : Env R ε ω) (L : Type) [DecidableEq L] where
  acquires : C → Option L
  releases : C → Option L
  holder : ω → L → Option Tid
  yields : ∀ {c l}, acquires c = some l → E.yields c = true
  legal : ∀ {i c l a w}, acquires c = some l → E.legal i c (.ok a) w = true → holder w l = none
  issue : ∀ i c w, holder (E.issue i c w) = holder w
  apply_acquire : ∀ {i c l r w}, acquires c = some l → holder (E.apply i c r w) =
    if r.isOk then Function.update (holder w) l (some i) else holder w
  apply_release : ∀ {i c l r w}, acquires c = none → releases c = some l →
    holder (E.apply i c r w) = Function.update (holder w) l none
  apply_other : ∀ {i c r w}, acquires c = none → releases c = none →
    holder (E.apply i c r w) = holder w
  tau : ∀ {w w'}, E.tau w w' → holder w' = holder w

namespace Locks

variable [DecidableEq L] {E : Env R ε ω} (K : Locks E L)

/-! ### One program -/

/-- The lock that a program holds after an answer -/
def held (s : Option L) (e : Event R ε) : Option L :=
  match K.acquires e.call with
  | some l => if e.reply.isOk then some l else s
  | none => if (K.releases e.call).isSome then none else s

/-- The monitor of the lock that a program holds -/
def monitor : Monitor R ε (Option L) :=
  .ofFold (fun s c => (∀ l, K.acquires c = some l → s = none) ∧
      ∀ l, K.acquires c = none → K.releases c = some l → s = some l)
    (fun _ _ => True) K.held

/-- `p` holds one lock at a time and none when it ends. -/
def Orderly (p : Prog R ε α) : Prop := K.monitor.wp p (fun _ s => s = none) none

/-- A call that has nothing to do with a lock -/
def Spares (c : C) : Prop := K.acquires c = none ∧ K.releases c = none

variable {K}

theorem held_of_spares {s : Option L} {c : C} (hc : K.Spares c) (r : Except ε (R c)) :
    K.held s ⟨c, r⟩ = s := by
  simp only [held, hc.1, hc.2]
  rfl

/-- A program without locks leaves the lock where it is. -/
theorem wp_of_spares {p : Prog R ε α} (hp : Calls K.Spares p) (s : Option L) :
    K.monitor.wp p (fun _ s' => s' = s) s := by
  refine Monitor.wp_of_calls (P := fun s' => s' = s) ?_ ?_ hp rfl
  · rintro s' c ⟨hacquires, hreleases⟩ -
    exact ⟨fun l hl => (by rw [hacquires] at hl; cases hl),
      fun l _ hl => (by rw [hreleases] at hl; cases hl)⟩
  · rintro s' c r s'' hc rfl ⟨-, rfl⟩
    exact held_of_spares hc r

theorem orderly_of_spares {p : Prog R ε α} (hp : Calls K.Spares p) : K.Orderly p :=
  wp_of_spares hp none

theorem Orderly.bind {p : Prog R ε α} {f : α → Prog R ε β} (hp : K.Orderly p)
    (hf : ∀ a, K.Orderly (f a)) : K.Orderly (p >>= f) := by
  refine (Monitor.wp_bind _).2 (Monitor.wp_mono hp fun r s hs => ?_)
  subst hs
  cases r with
  | ok a => exact hf a
  | error e => rfl

/-- The lock that is held is given back. -/
theorem wp_release {release : C} {l : L} (hacquires : K.acquires release = none)
    (hreleases : K.releases release = some l) :
    K.monitor.wp (ask release) (fun _ s => s = none) (some l) := by
  refine (Monitor.wp_ask _).2 ⟨⟨fun l' hl' => ?_, fun l' _ hl' => ?_⟩, ?_⟩
  · rw [hacquires] at hl'
    cases hl'
  · rw [hreleases] at hl'
    exact hl'
  · rintro a s ⟨-, rfl⟩
    simp only [held, hacquires, hreleases]
    rfl

/-- A lock around a program without locks -/
theorem orderly_locked {acquire : C} {l : L} (hacquires : K.acquires acquire = some l)
    {body : Prog R ε α} {give : Prog R ε Unit} (hbody : Calls K.Spares body)
    (hgive : K.monitor.wp give (fun _ s => s = none) (some l)) :
    K.Orderly (perform acquire >>= fun _ => body.ensure give) := by
  refine Monitor.wp_perform_bind _ ⟨fun _ _ => rfl, fun l' hl' => ?_⟩ ?_ ?_
  · rw [hacquires] at hl'
    cases hl'
  · rintro a s ⟨-, rfl⟩
    have hs : K.held none ⟨acquire, .ok a⟩ = some l := by
      simp only [held, hacquires]
      rfl
    rw [hs, Monitor.wp_ensure]
    refine Monitor.wp_mono (wp_of_spares hbody (some l)) fun r s hs => ?_
    subst hs
    refine Monitor.wp_mono hgive fun r' s hs => ?_
    cases r' with
    | ok u => exact hs
    | error e => exact hs
  · rintro e s ⟨-, rfl⟩
    show K.held none ⟨acquire, .error e⟩ = none
    simp only [held, hacquires]
    rfl

/-! ### The pool -/

variable (K)

/-- Task `i` holds the lock `s` and no other. -/
def Holds (i : Tid) (w : ω) (s : Option L) : Prop := ∀ l, K.holder w l = some i ↔ s = some l

/-- What an orderly task finds when it makes a call -/
structure Entitled (i : Tid) (w : ω) (c : C) : Prop where
  acquire : ∀ l, K.acquires c = some l → ∀ l', K.holder w l' ≠ some i
  release : ∀ l, K.acquires c = none → K.releases c = some l → K.holder w l = some i

/-- Orderly programs share the locks. -/
def discipline : Discipline E where
  inv _ := True
  rely i w w' := ∀ l, K.holder w' l = some i ↔ K.holder w l = some i
  idle i w := ∀ l, K.holder w l ≠ some i
  pre := K.Entitled
  rely_refl _ _ _ := Iff.rfl
  rely_trans h h' l := (h' l).trans (h l)
  idle_rely h hi l hl := hi l ((h l).1 hl)
  inv_issue _ _ := trivial
  keeps_issue := by
    intro i j w c _ _ l
    rw [K.issue]
  keeps_answer := by
    intro i j w c hy hpre hji l
    cases hacquires : K.acquires c with
    | some l' =>
      rw [K.yields hacquires] at hy
      cases hy
    | none =>
      cases hreleases : K.releases c with
      | none => rw [K.apply_other hacquires hreleases]
      | some l' =>
        rw [K.apply_release hacquires hreleases]
        by_cases hl : l = l'
        · subst hl
          have hheld := hpre.release l hacquires hreleases
          rw [Function.update_self, K.issue, hheld]
          exact iff_of_false (fun h => by cases h) fun h => hji (Option.some.inj h).symm
        · rw [Function.update_of_ne hl]
  keeps_reply := by
    intro i j w c w' r hy hpre hrely _ hlegal hji l
    cases hacquires : K.acquires c with
    | some l' =>
      rw [K.apply_acquire hacquires]
      cases r with
      | error e => exact Iff.rfl
      | ok a =>
        have hfree : K.holder w' l' = none := K.legal hacquires hlegal
        rw [if_pos (show (Except.ok a : Except ε (R c)).isOk = true from rfl)]
        by_cases hl : l = l'
        · subst hl
          rw [Function.update_self, hfree]
          exact iff_of_false (fun h => hji (Option.some.inj h).symm) fun h => by cases h
        · rw [Function.update_of_ne hl]
    | none =>
      cases hreleases : K.releases c with
      | none => rw [K.apply_other hacquires hreleases]
      | some l' =>
        rw [K.apply_release hacquires hreleases]
        by_cases hl : l = l'
        · subst hl
          have hheld : K.holder w' l = some i := by
            rw [hrely l, K.issue]
            exact hpre.release l hacquires hreleases
          rw [Function.update_self, hheld]
          exact iff_of_false (fun h => by cases h) fun h => hji (Option.some.inj h).symm
        · rw [Function.update_of_ne hl]
  tau_inv _ _ := trivial
  tau_rely := by
    intro w w' i _ ht l
    rw [K.tau ht]

variable {K}

/-- The lock of a task after an answer -/
theorem Holds.apply {i : Tid} {w : ω} {s : Option L} {c : C} (h : K.Holds i w s)
    (hacquire : ∀ l, K.acquires c = some l → s = none)
    (hrelease : ∀ l, K.acquires c = none → K.releases c = some l → s = some l)
    (r : Except ε (R c)) : K.Holds i (E.apply i c r w) (K.held s ⟨c, r⟩) := by
  intro l
  unfold held
  cases hacquires : K.acquires c with
  | some l' =>
    obtain rfl := hacquire l' hacquires
    rw [K.apply_acquire hacquires]
    cases r with
    | error e => exact h l
    | ok a =>
      show Function.update (K.holder w) l' (some i) l = some i ↔ some l' = some l
      by_cases hl : l = l'
      · subst hl
        exact iff_of_true (Function.update_self ..) rfl
      · rw [Function.update_of_ne hl]
        have hnot : K.holder w l ≠ some i := fun hh => by
          have hnone := (h l).1 hh
          cases hnone
        exact iff_of_false hnot fun hh => hl (Option.some.inj hh).symm
  | none =>
    cases hreleases : K.releases c with
    | none =>
      rw [K.apply_other hacquires hreleases]
      exact h l
    | some l' =>
      obtain rfl := hrelease l' hacquires hreleases
      rw [K.apply_release hacquires hreleases]
      show Function.update (K.holder w) l' none l = some i ↔ (none : Option L) = some l
      by_cases hl : l = l'
      · subst hl
        rw [Function.update_self]
        exact iff_of_false (fun hh => by cases hh) fun hh => by cases hh
      · rw [Function.update_of_ne hl]
        refine iff_of_false (fun hh => ?_) fun hh => by cases hh
        exact hl (Option.some.inj ((h l).1 hh)).symm

/-- An orderly program is one in a pool. -/
theorem Orderly.wp_mon {p : Prog R ε α} (hp : K.Orderly p) {i : Tid} {w : ω}
    (hidle : ∀ l, K.holder w l ≠ some i) :
    (K.discipline.mon i).wp p (fun _ w' => ∀ l, K.holder w' l ≠ some i) w := by
  have hstart : K.Holds i w none := fun l => iff_of_false (hidle l) fun h => by cases h
  refine Monitor.wp_mono (Monitor.wp_sim (K.Holds i) ?_ ?_ hstart hp) ?_
  · rintro w s c hs ⟨hacquire, hrelease⟩
    refine ⟨fun l hl l' hl' => ?_, fun l hl hl' => (hs l).2 (hrelease l hl hl')⟩
    obtain rfl := hacquire l hl
    have hnone := (hs l').1 hl'
    cases hnone
  · rintro w s c r w' hs ⟨hacquire, hrelease⟩ ⟨-, hn⟩
    refine ⟨_, ⟨trivial, rfl⟩, ?_⟩
    have hissue : K.Holds i (E.issue i c w) s := fun l => by
      rw [K.issue]
      exact hs l
    split at hn
    · obtain ⟨w₁, hrely, -, -, rfl⟩ := hn
      exact Holds.apply (fun l => (hrely l).trans (hissue l)) hacquire hrelease r
    · obtain ⟨-, rfl⟩ := hn
      exact hissue.apply hacquire hrelease r
  · rintro r w' ⟨s, hs, rfl⟩ l hl
    have hnone := (hs l).1 hl
    cases hnone

section Reach

variable {new : Prog R ε α → Prop} {w₀ : ω} {a : Config R ε α ω}

/-- What the discipline guarantees of a pool of orderly programs -/
theorem good_of_reach (hnew : ∀ p, new p → K.Orderly p) (hfree : ∀ l, K.holder w₀ l = none)
    (h : E.Reach new w₀ a) :
    K.discipline.Good (fun i _ w => ∀ l, K.holder w l ≠ some i) a :=
  Discipline.reach_good (fun _ _ _ _ => trivial) (fun p hp i w _ hidle => (hnew p hp).wp_mon hidle)
    trivial (fun i l hl => by rw [hfree l] at hl; cases hl) h trivial

/-- **The holder of a lock has not ended, and waits for no lock.** -/
theorem holder_running (hnew : ∀ p, new p → K.Orderly p) (hfree : ∀ l, K.holder w₀ l = none)
    (h : E.Reach new w₀ a) {l : L} {i : Tid} (hl : K.holder a.world l = some i) :
    ∃ c k, a.tasks[i]? = some (.call c k) ∧ K.acquires c = none := by
  have hgood := good_of_reach hnew hfree h
  by_cases hi : a.tasks.length ≤ i
  · exact absurd hl (hgood.idle i hi l)
  · have hlt := not_le.1 hi
    have hp := List.getElem?_eq_getElem hlt
    have hrests := hgood.rests i _ hp
    cases htask : a.tasks[i] with
    | done r =>
      rw [htask] at hrests
      obtain ⟨w, hw, hrely⟩ := hrests
      exact absurd ((hrely l).1 hl) (hw l)
    | spin =>
      have hrest := (E.forall_tasks (P := fun _ => True) (fun _ _ _ _ => trivial)
        (fun _ _ => trivial) h _ (List.getElem_mem (not_le.1 hi))).1
      rw [htask] at hrest
      exact hrest.elim
    | call c k =>
      rw [htask] at hrests hp
      obtain ⟨-, w, hpre, hrely, -⟩ := hrests
      refine ⟨c, k, hp, ?_⟩
      cases hacquires : K.acquires c with
      | none => rfl
      | some l' =>
        have hheld : K.holder w l = some i := by
          rw [← K.issue i c w]
          exact (hrely l).1 hl
        exact absurd hheld (hpre.acquire l' hacquires l)

/-- Task `i` waits for a lock that is held. -/
def Blocked (K : Locks E L) (a : Config R ε α ω) (i : Tid) : Prop :=
  ∃ c k l j, a.tasks[i]? = some (.call c k) ∧ K.acquires c = some l ∧ K.holder a.world l = some j

/-- **There is no deadlock**: who holds the lock that a task waits for has not ended and is not
blocked. -/
theorem holder_not_blocked (hnew : ∀ p, new p → K.Orderly p) (hfree : ∀ l, K.holder w₀ l = none)
    (h : E.Reach new w₀ a) {l : L} {i : Tid} (hl : K.holder a.world l = some i) :
    a.result i = none ∧ ¬K.Blocked a i := by
  obtain ⟨c, k, htask, hacquires⟩ := holder_running hnew hfree h hl
  constructor
  · rw [Config.result, htask]
    rfl
  · rintro ⟨c', k', l', j, htask', hacquires', -⟩
    rw [htask] at htask'
    cases htask'
    rw [hacquires] at hacquires'
    cases hacquires'

/-- **A task that ends gives back the lock that it holds, and no other.** -/
theorem holder_of_ended (hnew : ∀ p, new p → K.Orderly p) (hfree : ∀ l, K.holder w₀ l = none)
    (h : E.Reach new w₀ a) {i : Tid} {c : C} {k : Except ε (R c) → Prog R ε α}
    {r : Except ε (R c)} {r' : Except ε α} {w : ω} (hi : a.tasks[i]? = some (.call c k))
    (hlegal : E.legal i c r a.world = true)
    (hset : E.settle i (k r) (E.apply i c r a.world) = some (.done r', w)) (l : L) :
    K.holder w l = if K.holder a.world l = some i then none else K.holder a.world l := by
  have hstep : E.Step new a ⟨w, a.tasks.set i (.done r')⟩ := .resume hi hlegal hset
  have hothers : ∀ j, j ≠ i → (K.holder w l = some j ↔ K.holder a.world l = some j) :=
    fun j hj => Discipline.resume_rely (fun _ _ _ _ => trivial) hi hlegal hset trivial
      (good_of_reach hnew hfree h) hj l
  have hnot : K.holder w l ≠ some i := fun hl => by
    obtain ⟨c', k', htask, -⟩ := holder_running hnew hfree (.step h hstep) hl
    rw [List.getElem?_set_self (List.getElem?_eq_some_iff.1 hi).1] at htask
    cases htask
  split
  · rename_i hheld
    cases hafter : K.holder w l with
    | none => rfl
    | some j =>
      have hj : j ≠ i := fun hji => hnot (hji ▸ hafter)
      have hboth := (hothers j hj).1 hafter
      rw [hheld] at hboth
      exact absurd (Option.some.inj hboth).symm hj
  · rename_i hheld
    cases hbefore : K.holder a.world l with
    | none =>
      cases hafter : K.holder w l with
      | none => rfl
      | some j =>
        have hj : j ≠ i := fun hji => hnot (hji ▸ hafter)
        have hboth := (hothers j hj).1 hafter
        rw [hbefore] at hboth
        cases hboth
    | some j => exact (hothers j fun hji => hheld (hji ▸ hbefore)).2 hbefore

end Reach

end Locks

end ApplianceAdmin.Async
