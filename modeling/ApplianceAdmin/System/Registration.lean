import ApplianceAdmin.System.Report

/-!
# Waiting for the registration of a name

`_wait_for_avahi_hostname` among any surroundings in which its commands exit, time out or are
missing.

* `Avahi`: how the commands of the attempts end, and what the clock shows;
* `Avahi.Confirms`: the attempts that show a registered name; `Avahi.Ends`: how the wait ends;
* `first_confirmed`: the outcome of the wait, and that it ends.
-/

namespace ApplianceAdmin.System

open Async Async.Prog Python

/-! ### Surroundings -/

/-- How the commands of each attempt end, and the readings of the clock, of which the first is taken
before the first attempt. -/
structure Avahi where
  state : ℕ → Ended
  fqdn : ℕ → Ended
  clock : ℕ → ℚ
  state_ordinary : ∀ k, (Step.ran (avahiArgs "GetState") (state k)).Ordinary
  fqdn_ordinary : ∀ k, (Step.ran (avahiArgs "GetHostNameFqdn") (fqdn k)).Ordinary

/-- What has happened so far: how many attempts have begun, and how often the clock was read. -/
structure Moment where
  attempts : ℕ
  readings : ℕ
  deriving DecidableEq

/-- What `create_subprocess_exec` answers -/
def Ended.spawned (pid : ℕ) : Ended → Except Exc ℕ
  | .notStarted exc => .error exc
  | _ => .ok pid

/-- What `communicate` answers -/
def Ended.communicated : Ended → Except Exc Completed
  | .exited completed => .ok completed
  | .stopped exc => .error exc
  | .notStarted exc => .error exc

/-- What `create_subprocess_exec` raises of a command that does not exist -/
def missing : Exc := .py ⟨.fileNotFound, "No such file or directory"⟩

namespace Avahi

/-- The answers to the calls of the wait; child 0 asks for the state and child 1 for the name.
There is no other command. -/
def answer (A : Avahi) (s : Moment) : (c : Call) → Except Exc (Reply c) × Moment
  | .spawn argv _ =>
      if argv = avahiArgs "GetState" then
        ((A.state s.attempts).spawned 0, { s with attempts := s.attempts + 1 })
      else if argv = avahiArgs "GetHostNameFqdn" then ((A.fqdn (s.attempts - 1)).spawned 1, s)
      else (.error missing, s)
  | .communicate pid _ =>
      if pid = 0 then ((A.state (s.attempts - 1)).communicated, s)
      else ((A.fqdn (s.attempts - 1)).communicated, s)
  | .kill _ => (.ok (), s)
  | .wait _ => (.ok (), s)
  | .time => (.ok (A.clock s.readings), { s with readings := s.readings + 1 })
  | .sleep _ => (.ok (), s)

/-- `asyncio.get_running_loop().time() + timeout` at the beginning -/
def deadline (A : Avahi) : ℚ := A.clock 0 + 4

/-- Attempt `k` shows that Avahi runs under `name`. -/
def Confirms (A : Avahi) (rt : Runtime) (k : ℕ) (name : String) : Prop :=
  Shows rt name [.ran (avahiArgs "GetState") (A.state k),
    .ran (avahiArgs "GetHostNameFqdn") (A.fqdn k)]

/-- What the body of the `try` does in attempt `k` -/
def attempt (A : Avahi) (rt : Runtime) (k : ℕ) : Except Exc (Option String) := do
  let state ← (A.state k).result (avahiArgs "GetState") >>= parseState rt
  if state = avahiRunning then (A.fqdn k).result (avahiArgs "GetHostNameFqdn") >>= parseFqdn rt
  else .ok none

/-- `last_error` before attempt `k` -/
def lastError (A : Avahi) (rt : Runtime) : ℕ → Option Exc
  | 0 => none
  | k + 1 =>
      match A.attempt rt k with
      | .error exc => some exc
      | .ok _ => A.lastError rt k

/-- None of the attempts before `k` confirms a name, and each has ended before the deadline. -/
def Waits (A : Avahi) (rt : Runtime) (k : ℕ) : Prop :=
  ∀ j < k, (∀ name, ¬A.Confirms rt j name) ∧ A.clock (j + 1) < A.deadline

/-- How the wait ends with attempt `k`: with the name that it confirms, or after the deadline. -/
inductive Ends (A : Avahi) (rt : Runtime) (k : ℕ) : Except Exc String → Prop
  | found {name : String} : A.Confirms rt k name → Ends A rt k (.ok name)
  | expired : (∀ name, ¬A.Confirms rt k name) → A.deadline ≤ A.clock (k + 1) →
      Ends A rt k (.error (.validation
        ("Avahi did not finish registering its hostname" ++ errorDetail (A.lastError rt (k + 1)))))

end Avahi

/-! ### One command -/

/-- A command ends as its surroundings say. -/
theorem conclude_runCommand {σ : Type} {o : σ → (c : Call) → Except Exc (Reply c) × σ} {s s' : σ}
    {args : List String} {t : ℚ} {pid : ℕ} {ended : Ended}
    (hspawn : o s (.spawn args commandEnv) = (ended.spawned pid, s'))
    (hcommunicate : o s' (.communicate pid t) = (ended.communicated, s'))
    (hkill : o s' (.kill pid) = (.ok (), s')) (hwait : o s' (.wait pid) = (.ok (), s')) :
    conclude o (runCommand args t) s = some (ended.result args, s') := by
  have hs : conclude o (spawn args commandEnv) s = some (ended.spawned pid, s') :=
    congrArg some hspawn
  have hc : conclude o (communicate pid t) s' = some (ended.communicated, s') :=
    congrArg some hcommunicate
  unfold runCommand
  cases ended with
  | notStarted exc =>
    rw [Ended.result]
    split_ifs with hmissing
    · refine conclude_bind_error ((conclude_tryCatch_error hs).trans ?_)
      rw [if_pos hmissing]
      rfl
    · refine conclude_bind_error ((conclude_tryCatch_error hs).trans ?_)
      rw [if_neg hmissing]
      rfl
  | exited completed =>
    refine (conclude_bind_ok (conclude_tryCatch_ok hs)).trans ?_
    refine (conclude_bind_ok (conclude_tryCatch_ok hc)).trans ?_
    rw [Ended.result]
    split_ifs with hcode
    · rfl
    · rfl
  | stopped exc =>
    refine (conclude_bind_ok (conclude_tryCatch_ok hs)).trans ?_
    refine conclude_bind_error ((conclude_tryCatch_error hc).trans ?_)
    split_ifs with hlate
    · -- the child that is late is killed and waited for
      have hk : conclude o (kill pid) s' = some (.ok (), s') := congrArg some hkill
      have hw : conclude o (wait pid) s' = some (.ok (), s') := congrArg some hwait
      exact (conclude_bind_ok hk).trans (conclude_bind_ok hw)
    · rfl

namespace Avahi

variable {A : Avahi} {rt : Runtime} {k : ℕ}

theorem answer_spawn (s : Moment) (argv : List String) (env : List (String × String)) :
    A.answer s (.spawn argv env) =
      if argv = avahiArgs "GetState" then
        ((A.state s.attempts).spawned 0, { s with attempts := s.attempts + 1 })
      else if argv = avahiArgs "GetHostNameFqdn" then ((A.fqdn (s.attempts - 1)).spawned 1, s)
      else (.error missing, s) := rfl

theorem avahiArgs_ne : avahiArgs "GetHostNameFqdn" ≠ avahiArgs "GetState" := by decide

theorem conclude_getState {n : ℕ} : conclude A.answer (avahiCall "GetState") ⟨k, n⟩ =
    some ((A.state k).result (avahiArgs "GetState"), ⟨k + 1, n⟩) := by
  have hspawn : A.answer ⟨k, n⟩ (.spawn (avahiArgs "GetState") commandEnv) =
      ((A.state k).spawned 0, ⟨k + 1, n⟩) := by
    rw [answer_spawn, if_pos rfl]
  exact conclude_runCommand hspawn rfl rfl rfl

theorem conclude_getFqdn {n : ℕ} : conclude A.answer (avahiCall "GetHostNameFqdn") ⟨k + 1, n⟩ =
    some ((A.fqdn k).result (avahiArgs "GetHostNameFqdn"), ⟨k + 1, n⟩) := by
  have hspawn : A.answer ⟨k + 1, n⟩ (.spawn (avahiArgs "GetHostNameFqdn") commandEnv) =
      ((A.fqdn k).spawned 1, ⟨k + 1, n⟩) := by
    rw [answer_spawn, if_neg avahiArgs_ne, if_pos rfl, Nat.add_sub_cancel]
  exact conclude_runCommand hspawn rfl rfl rfl

theorem conclude_time {n : ℕ} :
    conclude A.answer time ⟨k, n⟩ = some (.ok (A.clock n), ⟨k, n + 1⟩) :=
  conclude_ask rfl

/-- One attempt -/
theorem conclude_avahiAttempt {n : ℕ} : conclude A.answer (avahiAttempt rt) ⟨k, n⟩ =
    some (A.attempt rt k, ⟨k + 1, n⟩) := by
  have hstate := @conclude_getState A k n
  unfold avahiAttempt attempt
  cases hreply : (A.state k).result (avahiArgs "GetState") with
  | error exc =>
    rw [hreply] at hstate
    exact conclude_bind_error hstate
  | ok reply =>
    rw [hreply] at hstate
    refine (conclude_bind_ok hstate).trans ?_
    show conclude _ _ _ = some (parseState rt reply >>= _, _)
    cases hparse : parseState rt reply with
    | error exc => rfl
    | ok state =>
      show conclude _ (if state = avahiRunning then _ else _) _ =
        some (if state = avahiRunning then _ else _, _)
      split_ifs with hrunning
      · have hfqdn := @conclude_getFqdn A k n
        cases hname : (A.fqdn k).result (avahiArgs "GetHostNameFqdn") with
        | error exc =>
          rw [hname] at hfqdn
          exact conclude_bind_error hfqdn
        | ok reply' =>
          rw [hname] at hfqdn
          exact conclude_bind_ok hfqdn
      · rfl

/-! ### What an attempt shows -/

theorem attempt_eq_ok_iff {name : String} :
    A.attempt rt k = .ok (some name) ↔ A.Confirms rt k name := by
  unfold attempt
  rw [bind_eq_ok_iff]
  constructor
  · rintro ⟨state, hstate, hname⟩
    split_ifs at hname with hrunning
    · subst hrunning
      exact ((AttemptRun.running hstate).ok_iff name).1 hname
    · cases hname
  · intro hshows
    have hstate : (A.state k).result (avahiArgs "GetState") >>= parseState rt =
        .ok avahiRunning := by
      obtain ⟨running, named, words, printedName, hsteps, hcode, hwords, hlast, -⟩ := hshows
      simp only [List.cons.injEq, Step.ran.injEq, true_and] at hsteps
      refine bind_eq_ok_iff.2 ⟨running.output, ?_, ?_⟩
      · exact result_eq_ok_iff.2 ⟨running, hsteps.1, hcode, rfl⟩
      · exact (parseState_eq_ok_iff (by decide)).2 ⟨words, hwords, hlast⟩
    refine ⟨avahiRunning, hstate, ?_⟩
    rw [if_pos rfl]
    exact ((AttemptRun.running hstate).ok_iff name).2 hshows

/-- What one of the two queries raises is caught. -/
theorem isTransient_of_query {β : Type} {method : String} {ended : Ended}
    {f : String → Except Exc β} (hf : ∀ {reply exc}, f reply = .error exc → isTransient exc = true)
    (hord : (Step.ran (avahiArgs method) ended).Ordinary) {exc : Exc}
    (h : ended.result (avahiArgs method) >>= f = .error exc) : isTransient exc = true := by
  cases hreply : ended.result (avahiArgs method) with
  | error exc' =>
    rw [hreply] at h
    cases h
    exact Bool.or_eq_true_iff.2 (.inl (hord.isCommandError hreply))
  | ok reply =>
    rw [hreply] at h
    exact hf h

theorem isTransient_of_attempt {exc : Exc} (h : A.attempt rt k = .error exc) :
    isTransient exc = true := by
  unfold attempt at h
  cases hstate : (A.state k).result (avahiArgs "GetState") >>= parseState rt with
  | error exc' =>
    rw [hstate] at h
    cases h
    exact isTransient_of_query isTransient_of_parseState (A.state_ordinary k) hstate
  | ok state =>
    rw [hstate] at h
    change (if state = avahiRunning then _ else _) = _ at h
    split_ifs at h
    exact isTransient_of_query isTransient_of_parseFqdn (A.fqdn_ordinary k) h

/-- An attempt that confirms no name leaves the loop to its deadline. -/
theorem missed_of_not_confirms (h : ∀ name, ¬A.Confirms rt k name) : Missed (A.attempt rt k) := by
  cases hattempt : A.attempt rt k with
  | error exc => exact isTransient_of_attempt hattempt
  | ok found =>
    cases found with
    | none => rfl
    | some name => exact absurd (attempt_eq_ok_iff.1 hattempt) (h name)

/-! ### The loop -/

/-- The round of an attempt that confirms a name -/
theorem conclude_found {name : String} (h : A.Confirms rt k name) (fuel : ℕ) (deadline : ℚ)
    (lastError : Option Exc) (n : ℕ) :
    conclude A.answer (avahiLoop rt deadline (fuel + 1) lastError) ⟨k, n⟩ =
      some (.ok name, ⟨k + 1, n⟩) := by
  have hattempt := @conclude_avahiAttempt A rt k n
  rw [attempt_eq_ok_iff.2 h] at hattempt
  unfold avahiLoop
  exact (conclude_bind_ok (conclude_tryCatch_ok
    ((conclude_bind_ok hattempt).trans rfl))).trans rfl

theorem lastError_of_ok {found : Option String} (h : A.attempt rt k = .ok found) :
    A.lastError rt (k + 1) = A.lastError rt k := by
  rw [lastError, h]

theorem lastError_of_error {exc : Exc} (h : A.attempt rt k = .error exc) :
    A.lastError rt (k + 1) = some exc := by
  rw [lastError, h]

/-- The `try` of an attempt that confirms none -/
theorem conclude_caught (h : ∀ name, ¬A.Confirms rt k name) (n : ℕ) :
    conclude A.answer
      ((do return (← avahiAttempt rt, A.lastError rt k)
          : Proc (Option String × Option Exc)).tryCatch
        fun exc => if isTransient exc then return (none, some exc) else raise exc) ⟨k, n⟩ =
      some (.ok (none, A.lastError rt (k + 1)), ⟨k + 1, n⟩) := by
  have hattempt := @conclude_avahiAttempt A rt k n
  have hmissed := missed_of_not_confirms h
  cases hresult : A.attempt rt k with
  | ok found =>
    rw [lastError_of_ok hresult]
    rw [hresult] at hattempt hmissed
    cases hmissed
    exact conclude_tryCatch_ok ((conclude_bind_ok hattempt).trans rfl)
  | error exc =>
    rw [lastError_of_error hresult]
    rw [hresult] at hattempt hmissed
    refine (conclude_tryCatch_error (conclude_bind_error hattempt)).trans ?_
    rw [if_pos (show isTransient exc = true from hmissed)]
    rfl

/-- The round of an attempt that confirms none -/
theorem conclude_missed (h : ∀ name, ¬A.Confirms rt k name) (fuel n : ℕ) :
    conclude A.answer (avahiLoop rt A.deadline (fuel + 1) (A.lastError rt k)) ⟨k, n⟩ =
      if A.deadline ≤ A.clock n then
        some (.error (.validation ("Avahi did not finish registering its hostname" ++
          errorDetail (A.lastError rt (k + 1)))), ⟨k + 1, n + 1⟩)
      else conclude A.answer (avahiLoop rt A.deadline fuel (A.lastError rt (k + 1)))
        ⟨k + 1, n + 1⟩ := by
  rw [avahiLoop]
  refine (conclude_bind_ok (conclude_caught h n)).trans ?_
  refine (conclude_bind_ok conclude_time).trans ?_
  split_ifs with hlate
  · rfl
  · exact conclude_bind_ok rfl

/-- The outcome of the wait, with `fuel` for its attempts, and what has happened by then -/
def wait (A : Avahi) (rt : Runtime) (fuel : ℕ) : Option (Except Exc String × Moment) :=
  conclude A.answer (waitForAvahiHostname rt fuel) ⟨0, 0⟩

/-- As long as the loop goes on, attempt `k` follows `k` others. -/
theorem wait_of_waits (h : A.Waits rt k) (fuel : ℕ) : A.wait rt (k + fuel) =
    conclude A.answer (avahiLoop rt A.deadline fuel (A.lastError rt k)) ⟨k, k + 1⟩ := by
  induction k generalizing fuel with
  | zero =>
    rw [Nat.zero_add]
    exact conclude_bind_ok conclude_time
  | succ k ih =>
    obtain ⟨hnone, hbefore⟩ := h k k.lt_succ_self
    have hwait := ih (fun j hj => h j (hj.trans k.lt_succ_self)) (fuel + 1)
    rw [conclude_missed hnone, if_neg (not_le.2 hbefore)] at hwait
    rw [Nat.succ_add, ← Nat.add_succ]
    exact hwait

theorem wait_of_ends {r : Except Exc String} (hwaits : A.Waits rt k) (hends : A.Ends rt k r)
    {fuel : ℕ} (hfuel : k < fuel) : ∃ s, A.wait rt fuel = some (r, s) ∧ s.attempts = k + 1 := by
  obtain ⟨d, rfl⟩ := Nat.exists_eq_add_of_lt hfuel
  rw [Nat.add_assoc, wait_of_waits hwaits]
  cases hends with
  | found hconfirms => exact ⟨_, conclude_found hconfirms d _ _ _, rfl⟩
  | expired hnone hlate => exact ⟨_, (conclude_missed hnone d _).trans (if_pos hlate), rfl⟩

/-- The wait goes on after each of its first attempts, or ends with one of them. -/
theorem waits_or_ends (A : Avahi) (rt : Runtime) (n : ℕ) :
    A.Waits rt n ∨ ∃ k < n, A.Waits rt k ∧ ∃ r, A.Ends rt k r := by
  induction n with
  | zero => exact .inl fun j hj => absurd hj j.not_lt_zero
  | succ n ih =>
    rcases ih with hwaits | ⟨k, hk, hends⟩
    · by_cases hconfirms : ∃ name, A.Confirms rt n name
      · obtain ⟨name, hname⟩ := hconfirms
        exact .inr ⟨n, n.lt_succ_self, hwaits, _, .found hname⟩
      · have hnone : ∀ name, ¬A.Confirms rt n name := not_exists.1 hconfirms
        by_cases hlate : A.deadline ≤ A.clock (n + 1)
        · exact .inr ⟨n, n.lt_succ_self, hwaits, _, .expired hnone hlate⟩
        · refine .inl fun j hj => ?_
          rcases Nat.lt_succ_iff_lt_or_eq.1 hj with hlt | rfl
          · exact hwaits j hlt
          · exact ⟨hnone, not_le.1 hlate⟩
    · exact .inr ⟨k, hk.trans n.lt_succ_self, hends⟩

/-- Nothing but an attempt ends the wait. -/
theorem ends_of_wait {fuel : ℕ} {r : Except Exc String} {s : Moment}
    (h : A.wait rt fuel = some (r, s)) :
    ∃ k < fuel, s.attempts = k + 1 ∧ A.Waits rt k ∧ A.Ends rt k r := by
  rcases waits_or_ends A rt fuel with hwaits | ⟨k, hk, hwaits, r', hends⟩
  · rw [← Nat.add_zero fuel, wait_of_waits hwaits] at h
    cases h
  · obtain ⟨s', hwait, hattempts⟩ := wait_of_ends hwaits hends hk
    rw [h] at hwait
    cases hwait
    exact ⟨k, hk, hattempts, hwaits, hends⟩

/-- A reading that has reached the deadline was not the first. -/
theorem exists_ends {n : ℕ} (hn : A.deadline ≤ A.clock n) :
    ∃ k < n, A.Waits rt k ∧ ∃ r, A.Ends rt k r := by
  rcases waits_or_ends A rt n with hwaits | hends
  · cases n with
    | zero =>
      have hfirst : A.clock 0 < A.clock 0 + 4 := by linarith
      exact absurd hn (not_le.2 hfirst)
    | succ n => exact absurd hn (not_le.2 (hwaits n n.lt_succ_self).2)
  · exact hends

end Avahi

/-- **The wait returns the first confirmed registration.**  Whatever the commands and the clock do,
the wait ends with an attempt that no earlier one has ended: with the name that it confirms, or,
when it confirms none, with a `ValidationError` after the deadline.  It does so as soon as there is
such an attempt, and there is one when a reading of the clock reaches the deadline. -/
theorem first_confirmed (rt : Runtime) (A : Avahi) :
    (∀ fuel r s, A.wait rt fuel = some (r, s) →
      ∃ k < fuel, s.attempts = k + 1 ∧ A.Waits rt k ∧ A.Ends rt k r) ∧
    (∀ k r, A.Waits rt k → A.Ends rt k r → ∀ fuel, k < fuel → ∃ s, A.wait rt fuel = some (r, s)) ∧
    ∀ n, A.deadline ≤ A.clock n → ∀ fuel, n ≤ fuel → ∃ r s, A.wait rt fuel = some (r, s) := by
  refine ⟨fun fuel r s => Avahi.ends_of_wait, fun k r hwaits hends fuel hfuel => ?_,
    fun n hn fuel hfuel => ?_⟩
  · obtain ⟨s, hwait, -⟩ := Avahi.wait_of_ends hwaits hends hfuel
    exact ⟨s, hwait⟩
  · obtain ⟨k, hk, hwaits, r, hends⟩ := Avahi.exists_ends hn
    obtain ⟨s, hwait, -⟩ := Avahi.wait_of_ends hwaits hends (hk.trans_le hfuel)
    exact ⟨r, s, hwait⟩

/-- Avahi is not ready at first, then does not answer in time, then runs under `Timer.local`. -/
def slowAvahi : Avahi where
  state k :=
    if k = 0 then printed "i 1" else if k = 1 then .stopped .timeoutError else printed "i 2"
  fqdn _ := printed "s \"Timer.local.\""
  clock k := k
  state_ordinary k := by
    split_ifs
    · trivial
    · rfl
    · trivial
  fqdn_ordinary _ := trivial

theorem wait_slowAvahi : slowAvahi.wait .ascii 3 = some (.ok "timer.local", ⟨3, 3⟩) := by
  decide +kernel

/-- The third attempt is the first that confirms a name. -/
theorem slow_confirmed :
    (∃ k < 3, 3 = k + 1 ∧ slowAvahi.Waits .ascii k ∧ slowAvahi.Ends .ascii k (.ok "timer.local")) ∧
    (∃ s, slowAvahi.wait .ascii 5 = some (.ok "timer.local", s)) ∧
    ∃ r s, slowAvahi.wait .ascii 4 = some (r, s) := by
  obtain ⟨k, hk, hattempts, hwaits, hends⟩ :=
    (first_confirmed .ascii slowAvahi).1 3 _ _ wait_slowAvahi
  refine ⟨⟨k, hk, hattempts, hwaits, hends⟩, ?_, ?_⟩
  · exact (first_confirmed .ascii slowAvahi).2.1 k _ hwaits hends 5 (by omega)
  · refine (first_confirmed .ascii slowAvahi).2.2 4 ?_ 4 le_rfl
    norm_num [Avahi.deadline, slowAvahi]

end ApplianceAdmin.System
