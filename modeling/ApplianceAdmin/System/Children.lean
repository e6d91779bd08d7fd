import ApplianceAdmin.Server
import ApplianceAdmin.System.Hostname

/-!
# The children of a request

Which of the processes that a request has started may still run.

* `reap`: the children that may run after an answered call;
* `children`: the machine, on which a child may exit at any time;
* `abandons`: an answer that takes `_run_command` away from a child that it has started;
* `Tidy`: the programs after which a child runs exactly if one was abandoned.
-/

namespace ApplianceAdmin.System

open Async Async.Prog Async.Monitor Python

/-! ### The machine -/

/-- The children that may run after an answered call.  `communicate` and `wait` return when the
child has exited, and `kill` raises only for a child that has exited. -/
def reap (running : List ℕ) : Event Reply Exc → List ℕ
  | ⟨.spawn _ _, .ok process⟩ => process :: running
  | ⟨.communicate process _, .ok _⟩ => running.erase process
  | ⟨.wait process, .ok _⟩ => running.erase process
  | ⟨.kill process, .error _⟩ => running.erase process
  | _ => running

/-- The machine with the children that run; they may exit at any time. -/
def children : Monitor Reply Exc (List ℕ) where
  pre _ _ := True
  next running c r left := left.Sublist (reap running ⟨c, r⟩)

theorem reap_sublist {running running' : List ℕ} (h : running.Sublist running')
    (e : Event Reply Exc) : (reap running e).Sublist (reap running' e) := by
  obtain ⟨c, r⟩ := e
  cases c <;> cases r <;> first | exact h | exact h.erase _ | exact h.cons_cons _

theorem foldl_reap_sublist (tr : List (Event Reply Exc)) {running running' : List ℕ}
    (h : running.Sublist running') : (tr.foldl reap running).Sublist (tr.foldl reap running') := by
  induction tr generalizing running running' with
  | nil => exact h
  | cons e tr ih => exact ih (reap_sublist h e)

theorem sublist_of_trail {tr : List (Event Reply Exc)} {running left : List ℕ}
    (h : children.Trail running tr left) : left.Sublist (tr.foldl reap running) := by
  induction tr generalizing running with
  | nil =>
    cases h
    exact .refl _
  | cons e tr ih =>
    obtain ⟨running', hnext, ht⟩ := h
    exact (ih ht).trans (foldl_reap_sublist tr hnext)

/-- The machine on which no child exits by itself -/
theorem trail_reap (tr : List (Event Reply Exc)) (running : List ℕ) :
    children.Trail running tr (tr.foldl reap running) := by
  induction tr generalizing running with
  | nil => rfl
  | cons e tr ih => exact ⟨_, .refl _, ih _⟩

/-- On every machine all children have exited, if none may run. -/
theorem forall_trail_iff {tr : List (Event Reply Exc)} :
    (∀ left, children.Trail [] tr left → left = []) ↔ tr.foldl reap [] = [] := by
  constructor
  · exact fun h => h _ (trail_reap tr [])
  · intro h left ht
    have hsub := sublist_of_trail ht
    rw [h] at hsub
    exact List.sublist_nil.1 hsub

/-! ### Abandoned children -/

/-- `communicate` is left by anything but its result and a `TimeoutError`, or the wait after the
kill is interrupted. -/
def abandons : Event Reply Exc → Bool
  | ⟨.communicate _ _, .error exc⟩ => !exc.isTimeout
  | ⟨.wait _, .error _⟩ => true
  | _ => false

/-- The children that may run, and whether one was abandoned -/
structure Watched where
  running : List ℕ
  abandoned : Bool

def Watched.next (s : Watched) (e : Event Reply Exc) : Watched :=
  ⟨reap s.running e, s.abandoned || abandons e⟩

theorem foldl_next (tr : List (Event Reply Exc)) (s : Watched) :
    tr.foldl Watched.next s = ⟨tr.foldl reap s.running, s.abandoned || tr.any abandons⟩ := by
  induction tr generalizing s with
  | nil => rw [List.any_nil, Bool.or_false]; rfl
  | cons e tr ih => rw [List.foldl_cons, ih, List.foldl_cons, List.any_cons, ← Bool.or_assoc]; rfl

def keeper : Monitor Reply Exc Watched := .ofFold (fun _ _ => True) (fun _ _ => True) Watched.next

/-- A child may run exactly if one was abandoned. -/
def Watched.Sound (s : Watched) : Prop := s.running = [] ↔ s.abandoned = false

/-- The program keeps it so that a child may run exactly if one was abandoned. -/
def Tidy {α : Type} (p : Proc α) : Prop :=
  ∀ s : Watched, s.Sound → keeper.wp p (fun _ s' => s'.Sound) s

section Tidy

variable {α β : Type}

theorem tidy_done (r : Except Exc α) : Tidy (.done r : Proc α) := fun _ hs => hs

theorem tidy_bind {p : Proc α} {f : α → Proc β} (hp : Tidy p) (hf : ∀ a, Tidy (f a)) :
    Tidy (p >>= f) := by
  intro s hs
  refine (wp_bind _).2 (wp_mono (hp s hs) fun r s' hs' => ?_)
  cases r with
  | ok a => exact hf a s' hs'
  | error exc => exact hs'

theorem tidy_tryCatch {p : Proc α} {h : Exc → Proc α} (hp : Tidy p) (hh : ∀ exc, Tidy (h exc)) :
    Tidy (p.tryCatch h) := by
  intro s hs
  refine (wp_tryCatch _).2 (wp_mono (hp s hs) fun r s' hs' => ?_)
  cases r with
  | ok a => exact hs'
  | error exc => exact hh exc s' hs'

theorem tidy_ite {b : Prop} [Decidable b] {p q : Proc α} (hp : Tidy p) (hq : Tidy q) :
    Tidy (if b then p else q) :=
  iteInduction (fun _ => hp) fun _ => hq

/-- A call that has nothing to do with children -/
theorem tidy_perform {c : Call} (h : ∀ s r, Watched.next s ⟨c, r⟩ = s) :
    Tidy (perform c : Proc (Reply c)) := by
  intro s hs
  refine (wp_perform _).2 ⟨trivial, fun r s' hn => ?_⟩
  rw [hn.2, h]
  exact hs

theorem tidy_time : Tidy time := by
  intro s hs
  refine (wp_ask _).2 ⟨trivial, fun now s' hn => ?_⟩
  obtain ⟨-, rfl⟩ := hn
  simpa [Watched.next, reap, abandons] using hs

theorem tidy_sleep (seconds : ℚ) : Tidy (sleep seconds) :=
  tidy_perform fun s r => by simp [Watched.next, reap, abandons]

/-- What is left of a command whose child has exited -/
theorem Watched.Sound.exited {running : List ℕ} {abandoned : Bool} (process : ℕ)
    (hs : Watched.Sound ⟨running, abandoned⟩) :
    Watched.Sound ⟨(process :: running).erase process, abandoned⟩ := by
  rw [List.erase_cons_head]
  exact hs

/-- What is left of a command whose child may run -/
theorem Watched.sound_left (process : ℕ) (running : List ℕ) :
    Watched.Sound ⟨process :: running, true⟩ :=
  iff_of_false (List.cons_ne_nil _ _) Bool.noConfusion

/-- The child of a command that takes too long is killed and waited for. -/
theorem wp_killed {running : List ℕ} {abandoned : Bool} (process : ℕ) (exc : Exc)
    (hs : Watched.Sound ⟨running, abandoned⟩) {Q : Except Exc α → Watched → Prop}
    (hQ : ∀ x s', s'.Sound → Q (.error x) s') :
    keeper.wp (kill process >>= fun _ => wait process >>= fun _ => (raise exc : Proc α)) Q
      ⟨process :: running, abandoned⟩ := by
  refine (wp_bind _).2 ((wp_perform _).2 ⟨trivial, fun killed s hn => ?_⟩)
  obtain ⟨-, rfl⟩ := hn
  rw [Watched.next, show abandons ⟨.kill process, killed⟩ = false from rfl, Bool.or_false]
  cases killed with
  | error exc' => exact hQ exc' _ (hs.exited process)
  | ok _ =>
    refine (wp_bind _).2 ((wp_perform _).2 ⟨trivial, fun waited s hn => ?_⟩)
    obtain ⟨-, rfl⟩ := hn
    rw [Watched.next]
    cases waited with
    | error exc' =>
      -- killed, but the wait was interrupted: nobody will reap the child
      rw [show abandons ⟨.wait process, .error exc'⟩ = true from rfl, Bool.or_true]
      exact hQ exc' _ (Watched.sound_left process running)
    | ok _ =>
      rw [show abandons ⟨.wait process, .ok ()⟩ = false from rfl, Bool.or_false]
      exact hQ exc _ (hs.exited process)

/-- **One command.**  Its child may run afterwards exactly if it was abandoned. -/
theorem tidy_runCommand (args : List String) (timeout : ℚ) : Tidy (runCommand args timeout) := by
  rintro ⟨running, abandoned⟩ hs
  refine (wp_bind _).2 ((wp_tryCatch _).2 ((wp_perform _).2 ⟨trivial, fun started s hn => ?_⟩))
  obtain ⟨-, rfl⟩ := hn
  rw [Watched.next, show abandons ⟨.spawn args commandEnv, started⟩ = false from rfl, Bool.or_false]
  cases started with
  | error exc =>
    refine (wp_ite _).2 ?_
    split
    · exact hs
    · exact hs
  | ok process =>
    refine (wp_bind _).2 ((wp_tryCatch _).2 ((wp_perform _).2 ⟨trivial, fun ended s hn => ?_⟩))
    obtain ⟨-, rfl⟩ := hn
    rw [Watched.next]
    cases ended with
    | ok completed =>
      rw [show abandons ⟨.communicate process timeout, .ok completed⟩ = false from rfl,
        Bool.or_false]
      refine (wp_ite _).2 ?_
      split
      · exact hs.exited process
      · exact hs.exited process
    | error exc =>
      rw [show abandons ⟨.communicate process timeout, .error exc⟩ = !exc.isTimeout from rfl]
      refine (wp_ite _).2 ?_
      split
      · rename_i htimeout
        rw [htimeout, Bool.not_true, Bool.or_false]
        exact wp_killed process exc hs fun x s' h => h
      · -- anything but a timeout is raised again, and the child is left running
        rename_i htimeout
        rw [Bool.not_eq_true] at htimeout
        rw [htimeout, Bool.not_false, Bool.or_true]
        exact Watched.sound_left process running

end Tidy

/-! ### The handlers -/

section Handlers

variable {m : SystemManager} {rt : Runtime} {fuel : ℕ} {params : Dict} {hostname : String}

theorem tidy_serviceVerb (verb : String) : Tidy (serviceVerb verb m rt params) :=
  tidy_bind (tidy_done _) fun service =>
    tidy_bind (tidy_runCommand _ _) fun _ => tidy_done (.ok service)

theorem tidy_serviceStatus : Tidy (serviceStatus m rt params) :=
  tidy_bind (tidy_done _) fun _ => tidy_bind (tidy_runCommand _ _) fun _ => tidy_done _

theorem tidy_avahiAttempt : Tidy (avahiAttempt rt) := by
  refine tidy_bind (tidy_runCommand _ _) fun reply => tidy_bind (tidy_done _) fun state => ?_
  refine tidy_ite ?_ (tidy_done _)
  exact tidy_bind (tidy_runCommand _ _) fun reply => tidy_done _

theorem tidy_avahiLoop (deadline : ℚ) (lastError : Option Exc) :
    Tidy (avahiLoop rt deadline fuel lastError) := by
  induction fuel generalizing lastError with
  | zero => exact fun _ _ => trivial
  | succ fuel ih =>
    refine tidy_bind (tidy_tryCatch (tidy_bind tidy_avahiAttempt fun _ => tidy_done _) fun exc =>
      tidy_ite (tidy_done _) (tidy_done _)) fun outcome => ?_
    obtain ⟨name, lastError⟩ := outcome
    cases name with
    | some hostname => exact tidy_done _
    | none =>
      refine tidy_bind tidy_time fun now => tidy_ite (tidy_done _) ?_
      exact tidy_bind (tidy_sleep _) fun _ => ih lastError

theorem tidy_waitForAvahiHostname : Tidy (waitForAvahiHostname rt fuel) :=
  tidy_bind tidy_time fun _ => tidy_avahiLoop _ _

theorem tidy_restoreHostname : Tidy (restoreHostname rt fuel hostname) := by
  have hlinux : Tidy (restoreLinux hostname) :=
    tidy_tryCatch (tidy_bind (tidy_runCommand _ _) fun _ => tidy_done _) fun exc =>
      tidy_ite (tidy_done _) (tidy_done _)
  have havahi : Tidy (restoreAvahi rt fuel hostname) :=
    tidy_tryCatch (tidy_bind (tidy_runCommand _ _) fun _ =>
      tidy_bind tidy_waitForAvahiHostname fun _ => tidy_ite (tidy_done _) (tidy_done _)) fun exc =>
      tidy_ite (tidy_done _) (tidy_done _)
  exact tidy_bind hlinux fun _ => tidy_bind havahi fun _ => tidy_done _

theorem tidy_hostnameSet : Tidy (hostnameSet rt fuel params) := by
  have hfail : ∀ {α : Type} (original what : String) (exc : Exc),
      Tidy (failAfterRollback rt fuel original what exc : Proc α) := fun original what exc =>
    tidy_bind tidy_restoreHostname fun _ => tidy_done _
  have hread : Tidy (readHostname rt) :=
    tidy_tryCatch (tidy_bind (tidy_runCommand _ _) fun _ => tidy_done _) fun exc =>
      tidy_ite (tidy_done _) (tidy_done _)
  have hpublish : ∀ requested, Tidy (publish rt fuel requested) := fun requested =>
    tidy_bind (tidy_runCommand _ _) fun _ =>
      tidy_bind tidy_waitForAvahiHostname fun _ => tidy_ite (tidy_done _) (tidy_done _)
  refine tidy_bind (tidy_done _) fun request => tidy_bind hread fun original => ?_
  refine tidy_bind (tidy_tryCatch (tidy_bind (tidy_runCommand _ _) fun _ => tidy_done _) fun exc =>
    tidy_ite (hfail _ _ _) (tidy_done _)) fun _ => ?_
  exact tidy_bind (tidy_tryCatch (hpublish _) fun exc =>
    tidy_ite (hfail _ _ _) (tidy_done _)) fun _ => tidy_done _

theorem tidy_handler {action : String} {p : Proc Result}
    (h : handler m rt fuel action params = some p) : Tidy p := by
  have hpower : ∀ (verb message : String), Tidy (if params ≠ [] then raise (.validation message)
      else do
        let _ ← systemctl [verb] 5
        return () : Proc Unit) := fun verb message =>
    tidy_ite (tidy_done _) (tidy_bind (tidy_runCommand _ _) fun _ => tidy_done _)
  unfold handler at h
  split at h <;> cases h
  · exact tidy_bind (tidy_ite (tidy_done _) (tidy_done _)) fun _ => tidy_done _
  · exact tidy_bind (hpower _ _) fun _ => tidy_done _
  · exact tidy_bind (hpower _ _) fun _ => tidy_done _
  · exact tidy_bind tidy_hostnameSet fun _ => tidy_done _
  · exact tidy_bind tidy_serviceStatus fun _ => tidy_done _
  · exact tidy_bind (tidy_serviceVerb _) fun _ => tidy_done _
  · exact tidy_bind (tidy_serviceVerb _) fun _ => tidy_done _
  · exact tidy_bind (tidy_serviceVerb _) fun _ => tidy_done _

/-- The response changes nothing. -/
theorem tidy_respond {α : Type} {id : String} {p : Proc α} (hp : Tidy p) : Tidy (respond id p) :=
  fun s hs => wp_respond (hp s hs)

end Handlers

/-- After a tidy program all children have exited, on every machine, exactly if none was
abandoned. -/
theorem Tidy.exited_iff {α : Type} {p : Proc α} (hp : Tidy p) {tr : List (Event Reply Exc)}
    {r : Except Exc α} (h : Path p tr (.done r)) :
    (∀ left, children.Trail [] tr left → left = []) ↔ ∀ e ∈ tr, abandons e = false := by
  have hsound := wp_outcome h (trail_ofFold ⟨[], false⟩ tr) (hp _ (iff_of_true rfl rfl))
  rw [Watched.Sound, foldl_next, Bool.false_or] at hsound
  rw [forall_trail_iff, hsound, List.any_eq_false]
  simp

/-- **No child outlives its request step** exactly if none is abandoned: after a command, and when
the response of a request is there. -/
theorem child_outlives_iff (m : SystemManager) (rt : Runtime) (fuel : ℕ) :
    (∀ args timeout tr r, Path (runCommand args timeout) tr (.done r) →
      ((∀ left, children.Trail [] tr left → left = []) ↔ ∀ e ∈ tr, abandons e = false)) ∧
    ∀ id action params p, handler m rt fuel action params = some p →
      ∀ tr r, Path (respond id p) tr (.done r) →
        ((∀ left, children.Trail [] tr left → left = []) ↔ ∀ e ∈ tr, abandons e = false) :=
  ⟨fun _ _ _ _ h => (tidy_runCommand _ _).exited_iff h,
    fun _ _ _ _ hp _ _ h => (tidy_respond (tidy_handler hp)).exited_iff h⟩

/-! ### Two runs -/

/-- The restart of a service -/
def restartTimer : Proc Result := do
  return .service (← serviceRestart ⟨["ninja-timer.service"]⟩ .ascii
    [("service", .str "ninja-timer.service")])

/-- The child 7 exits, or the timeout of the request comes first. -/
def restarting (cancelled : Bool) (_ : Unit) : (c : Call) → Except Exc (Reply c) × Unit
  | .spawn _ _ => (.ok 7, ())
  | .communicate _ _ => (if cancelled then .error .cancelled else .ok ⟨0, [], []⟩, ())
  | .kill _ => (.ok (), ())
  | .wait _ => (.ok (), ())
  | .time => (.ok 0, ())
  | .sleep _ => (.ok (), ())

def restartRun (cancelled : Bool) : List (Event Reply Exc) :=
  (exec (restarting cancelled) (respond "1" restartTimer) ()).1

theorem path_restartRun : Path (respond "1" restartTimer) (restartRun false)
    (.done (.ok ⟨"1", true, some (.service "ninja-timer.service"), none⟩)) :=
  path_of_exec (restarting false) _ () rfl

/-- The service is restarted and the child has exited. -/
theorem restartRun_exited : ∀ left, children.Trail [] (restartRun false) left → left = [] :=
  ((child_outlives_iff ⟨["ninja-timer.service"]⟩ .ascii 0).2 "1" "service.restart"
    [("service", .str "ninja-timer.service")] restartTimer rfl _ _ path_restartRun).2 (by decide)

/-- The request times out, the daemon says so, and the child runs on. -/
theorem restartRun_abandoned :
    Path (respond "1" restartTimer) (restartRun true)
      (.done (.ok ⟨"1", false, none, some ⟨"timeout", "Operation timed out"⟩⟩)) ∧
    children.Trail [] (restartRun true) [7] :=
  ⟨path_of_exec (restarting true) _ () rfl, trail_reap _ _⟩

end ApplianceAdmin.System
