import ApplianceAdmin.Async.Monitor
import ApplianceAdmin.System.Hostname

/-!
# The runs of a hostname change

The calls of the manager, seen as awaited steps: commands, each with the way it ended, and sleeps.
`steps tr` reads them off the answered calls `tr`.  At this level a run of `hostname_set` is
described by a few relations, one for each function:

* `AttemptRun`, `PollRun`: one round of the polling loop, and the loop;
* `SetRun`: `avahi-set-host-name` followed by the loop;
* `RestoreRun`: the rollback;
* `HostnameRun`: the whole request.

`hostnameSet_run` says that every complete path of `hostnameSet` is such a run.
-/

namespace ApplianceAdmin.System

open Async Async.Prog Python

/-! ### Steps -/

/-- How a command ended. -/
inductive Ended
  | notStarted (exc : Exc)
  | exited (completed : Completed)
  | stopped (exc : Exc)
  deriving DecidableEq

/-- What `_run_command` makes of the end of `args`. -/
def Ended.result (args : List String) : Ended → Except Exc String
  | .notStarted exc =>
      if exc.isFileNotFound then
        .error (.notFound ("Required executable not found: " ++ args.head?.getD "command"))
      else .error exc
  | .exited completed =>
      if completed.returncode ≠ 0 then .error (.notFound (failureMessage args completed.stderr))
      else .ok (strip (decodeReplace completed.stdout))
  | .stopped exc => .error exc

/-- An awaited step. -/
inductive Step
  | ran (argv : List String) (ended : Ended)
  | slept (outcome : Except Exc Unit)
  deriving DecidableEq

/-- The steps so far, the command that is running and the timeout it is being killed for. -/
structure Record where
  steps : List Step
  running : Option (List String)
  late : Option Exc

namespace Record

/-- The record between two steps. -/
def rest (l : List Step) : Record := ⟨l, none, none⟩

/-- The running command has ended. -/
def close (s : Record) (ended : Ended) : Record :=
  match s.running with
  | some argv => rest (s.steps ++ [.ran argv ended])
  | none => s

def next (s : Record) : Event Reply Exc → Record
  | ⟨.spawn argv _, .ok _⟩ => { s with running := some argv }
  | ⟨.spawn argv _, .error exc⟩ => rest (s.steps ++ [.ran argv (.notStarted exc)])
  | ⟨.communicate _ _, .ok completed⟩ => s.close (.exited completed)
  | ⟨.communicate _ _, .error exc⟩ =>
      if exc.isTimeout then { s with late := some exc } else s.close (.stopped exc)
  | ⟨.kill _, .ok _⟩ => s
  | ⟨.kill _, .error exc⟩ => s.close (.stopped exc)
  | ⟨.wait _, .ok _⟩ => s.close (.stopped (s.late.getD Exc.timeoutError))
  | ⟨.wait _, .error exc⟩ => s.close (.stopped exc)
  | ⟨.time, _⟩ => s
  | ⟨.sleep _, outcome⟩ => rest (s.steps ++ [.slept outcome])

end Record

/-- The awaited steps of a sequence of answered calls. -/
def steps (tr : List (Event Reply Exc)) : List Step := (tr.foldl Record.next (Record.rest [])).steps

/-- The monitor that records the steps. -/
def recorder : Monitor Reply Exc Record := .ofFold (fun _ _ => True) (fun _ _ => True) Record.next

/-- A relation between steps and outcomes that a program keeps on every start. -/
theorem steps_of_wp {α : Type} {p : Proc α} {tr : List (Event Reply Exc)} {r : Except Exc α}
    (hp : Path p tr (.done r)) {Run : List Step → Except Exc α → Prop}
    (h : recorder.wp p (fun r s => Run s.steps r) (Record.rest [])) : Run (steps tr) r :=
  Monitor.wp_outcome hp (Monitor.trail_ofFold _ tr) h

section Rules

variable {α : Type} {l : List Step}

/-- The rule for a call: only the record changes. -/
theorem wp_call {c : Call} {Q : Except Exc (Reply c) → Record → Prop} {s : Record} :
    recorder.wp (perform c) Q s ↔ ∀ r, Q r (s.next ⟨c, r⟩) := by
  simp [recorder, Monitor.ofFold]

section Call

variable {s : Record} {pid : ℕ}

theorem wp_spawn {argv : List String} {env : List (String × String)}
    {Q : Except Exc ℕ → Record → Prop} :
    recorder.wp (spawn argv env) Q s ↔ ∀ r, Q r (s.next ⟨.spawn argv env, r⟩) := wp_call

theorem wp_communicate {t : ℚ} {Q : Except Exc Completed → Record → Prop} :
    recorder.wp (communicate pid t) Q s ↔ ∀ r, Q r (s.next ⟨.communicate pid t, r⟩) := wp_call

theorem wp_kill {Q : Except Exc Unit → Record → Prop} :
    recorder.wp (kill pid) Q s ↔ ∀ r, Q r (s.next ⟨.kill pid, r⟩) := wp_call

theorem wp_wait {Q : Except Exc Unit → Record → Prop} :
    recorder.wp (wait pid) Q s ↔ ∀ r, Q r (s.next ⟨.wait pid, r⟩) := wp_call

end Call

theorem wp_time {Q : Except Exc ℚ → Record → Prop} :
    recorder.wp time Q (.rest l) ↔ ∀ now, Q (.ok now) (.rest l) := by
  simp [time, Monitor.wp_ask, recorder, Monitor.ofFold, Record.next]

theorem wp_sleep {d : ℚ} {Q : Except Exc Unit → Record → Prop} :
    recorder.wp (sleep d) Q (.rest l) ↔ ∀ r, Q r (.rest (l ++ [.slept r])) := wp_call

/-- **A command is one step**, whichever of its calls ends it. -/
theorem wp_runCommand {args : List String} {t : ℚ} {Q : Except Exc String → Record → Prop}
    (h : ∀ ended : Ended, Q (ended.result args) (.rest (l ++ [.ran args ended]))) :
    recorder.wp (runCommand args t) Q (.rest l) := by
  simp only [runCommand, Monitor.wp_bind, Monitor.wp_tryCatch, wp_spawn]
  rintro (exc | pid)
  · have := h (.notStarted exc)
    simp only [Ended.result] at this
    simp only [Monitor.orElse_error, Monitor.wp_ite, Monitor.wp_raise, Monitor.andThen_error]
    split_ifs at this ⊢ <;> exact this
  simp only [Monitor.orElse_ok, Monitor.andThen_ok, Monitor.wp_bind, Monitor.wp_tryCatch,
    wp_communicate]
  rintro (exc | completed)
  · simp only [Monitor.orElse_error, Monitor.wp_ite, Monitor.wp_raise, Monitor.wp_bind, wp_kill]
    split_ifs with ht
    · rintro (exc' | _)
      · simpa [Record.next, Record.close, Record.rest, Ended.result, ht] using h (.stopped exc')
      simp only [Monitor.andThen_ok, Monitor.wp_bind, wp_wait]
      rintro (exc' | _)
      · simpa [Record.next, Record.close, Record.rest, Ended.result, ht] using h (.stopped exc')
      · simpa [Record.next, Record.close, Record.rest, Ended.result, ht] using h (.stopped exc)
    · simpa [Record.next, Record.close, Record.rest, Ended.result, ht] using h (.stopped exc)
  · have := h (.exited completed)
    simp only [Ended.result] at this
    simp only [Monitor.orElse_ok, Monitor.andThen_ok, Monitor.wp_ite, Monitor.wp_raise,
      Monitor.wp_pure]
    split_ifs at this ⊢ <;> exact this

end Rules

/-! ### Polling -/

section Polling

variable (rt : Runtime)

/-- One round of the polling loop. -/
inductive AttemptRun : List Step → Except Exc (Option String) → Prop
  | failed {ended : Ended} {exc : Exc} :
      ended.result (avahiArgs "GetState") >>= parseState rt = .error exc →
      AttemptRun [.ran (avahiArgs "GetState") ended] (.error exc)
  | notRunning {ended : Ended} {state : ℤ} :
      ended.result (avahiArgs "GetState") >>= parseState rt = .ok state → state ≠ avahiRunning →
      AttemptRun [.ran (avahiArgs "GetState") ended] (.ok none)
  | running {ended ended' : Ended} :
      ended.result (avahiArgs "GetState") >>= parseState rt = .ok avahiRunning →
      AttemptRun [.ran (avahiArgs "GetState") ended, .ran (avahiArgs "GetHostNameFqdn") ended']
        (ended'.result (avahiArgs "GetHostNameFqdn") >>= parseFqdn rt)

/-- A round after which the loop goes on to its deadline. -/
def Missed : Except Exc (Option String) → Prop
  | .ok name => name = none
  | .error exc => isTransient exc = true

/-- The last error after a round -/
def noted (lastError : Option Exc) : Except Exc (Option String) → Option Exc
  | .ok _ => lastError
  | .error exc => some exc

/-- The polling loop from the last error on. -/
inductive PollRun : Option Exc → List Step → Except Exc String → Prop
  | found {lastError : Option Exc} {l : List Step} {name : String} :
      AttemptRun rt l (.ok (some name)) → PollRun lastError l (.ok name)
  | raised {lastError : Option Exc} {l : List Step} {exc : Exc} :
      AttemptRun rt l (.error exc) → isTransient exc = false → PollRun lastError l (.error exc)
  | expired {lastError : Option Exc} {l : List Step} {r : Except Exc (Option String)} :
      AttemptRun rt l r → Missed r → PollRun lastError l (.error (.validation
        ("Avahi did not finish registering its hostname" ++ errorDetail (noted lastError r))))
  | woken {lastError : Option Exc} {l : List Step} {r : Except Exc (Option String)} {exc : Exc} :
      AttemptRun rt l r → Missed r → PollRun lastError (l ++ [.slept (.error exc)]) (.error exc)
  | again {lastError : Option Exc} {l l' : List Step} {r : Except Exc (Option String)}
      {r' : Except Exc String} :
      AttemptRun rt l r → Missed r → PollRun (noted lastError r) l' r' →
      PollRun lastError (l ++ .slept (.ok ()) :: l') r'

variable {rt} {l : List Step}

theorem wp_avahiAttempt {Q : Except Exc (Option String) → Record → Prop}
    (h : ∀ l' r, AttemptRun rt l' r → Q r (.rest (l ++ l'))) :
    recorder.wp (avahiAttempt rt) Q (.rest l) := by
  simp only [avahiAttempt, avahiCall, Monitor.wp_bind]
  refine wp_runCommand fun ended => ?_
  cases hr : ended.result (avahiArgs "GetState") with
  | error exc => exact h _ _ (.failed (by rw [hr]; rfl))
  | ok reply =>
    simp only [Monitor.andThen_ok, Monitor.wp_bind, Monitor.wp_lift]
    cases hs : parseState rt reply with
    | error exc => exact h _ _ (.failed (by rw [hr]; exact hs))
    | ok state =>
      simp only [Monitor.andThen_ok, Monitor.wp_ite]
      split_ifs with hrun
      · rw [Monitor.wp_bind]
        refine wp_runCommand fun ended' => ?_
        have := h _ _ (@AttemptRun.running rt ended ended' (by rw [hr]; exact hrun ▸ hs))
        rw [List.append_assoc]
        cases hf : ended'.result (avahiArgs "GetHostNameFqdn") with
        | error exc => rw [hf] at this; exact this
        | ok reply' => rw [hf] at this; exact this
      · exact h _ _ (.notRunning (by rw [hr]; exact hs) hrun)

theorem wp_avahiLoop {deadline : ℚ} (fuel : ℕ) {lastError : Option Exc}
    {Q : Except Exc String → Record → Prop}
    (h : ∀ l' r, PollRun rt lastError l' r → Q r (.rest (l ++ l'))) :
    recorder.wp (avahiLoop rt deadline fuel lastError) Q (.rest l) := by
  induction fuel generalizing l lastError with
  | zero => trivial
  | succ fuel ih =>
    -- what follows a round that was missed
    have hmissed : ∀ l' r last, AttemptRun rt l' r → Missed r → noted lastError r = last →
        recorder.wp (do
          let now ← time
          if deadline ≤ now then
            raise (.validation ("Avahi did not finish registering its hostname" ++ errorDetail last))
          else do
            sleep (1 / 10)
            avahiLoop rt deadline fuel last) Q (.rest (l ++ l')) := by
      rintro l' r last hrun hmiss rfl
      rw [Monitor.wp_bind, wp_time]
      intro now
      simp only [Monitor.andThen_ok, Monitor.wp_ite, Monitor.wp_raise, Monitor.wp_bind, wp_sleep]
      split_ifs
      · exact h _ _ (.expired hrun hmiss)
      · rintro (exc | _)
        · rw [List.append_assoc]
          exact h _ _ (.woken hrun hmiss)
        · refine ih fun l'' r'' hpoll => ?_
          have := h _ _ (.again hrun hmiss hpoll)
          simpa using this
    rw [avahiLoop, Monitor.wp_bind, Monitor.wp_tryCatch, Monitor.wp_bind]
    refine wp_avahiAttempt fun l' r hrun => ?_
    rcases r with exc | found
    · simp only [Monitor.andThen_error, Monitor.orElse_error, Monitor.wp_ite, Monitor.wp_pure,
        Monitor.andThen_ok, Monitor.wp_raise]
      split_ifs with ht
      · exact hmissed l' _ _ hrun ht rfl
      · exact h _ _ (.raised hrun (Bool.eq_false_iff.2 ht))
    · cases found with
      | none => exact hmissed l' _ _ hrun rfl rfl
      | some name => exact h _ _ (.found hrun)

theorem wp_waitForAvahiHostname {fuel : ℕ} {Q : Except Exc String → Record → Prop}
    (h : ∀ l' r, PollRun rt none l' r → Q r (.rest (l ++ l'))) :
    recorder.wp (waitForAvahiHostname rt fuel) Q (.rest l) := by
  rw [waitForAvahiHostname, Monitor.wp_bind, wp_time]
  exact fun now => wp_avahiLoop fuel h

end Polling

/-! ### Setting the Avahi name -/

section Setting

variable (rt : Runtime) (hostname : String)

/-- `avahi-set-host-name hostname`, and the name that Avahi then registers. -/
inductive SetRun : List Step → Except Exc String → Prop
  | failed {ended : Ended} {exc : Exc} :
      ended.result (avahiSetArgs hostname) = .error exc →
      SetRun [.ran (avahiSetArgs hostname) ended] (.error exc)
  | polled {ended : Ended} {out : String} {l : List Step} {r : Except Exc String} :
      ended.result (avahiSetArgs hostname) = .ok out → PollRun rt none l r →
      SetRun (.ran (avahiSetArgs hostname) ended :: l) r

/-- What `publish` makes of the registered name. -/
def publishOutcome : Except Exc String → Except Exc Unit
  | .ok published =>
      if published ≠ hostname ++ ".local" then
        .error (.validation ("The requested mDNS hostname is already in use; Avahi selected " ++
          published ++ " instead"))
      else .ok ()
  | .error exc => .error exc

/-- What `restoreLinux` makes of the end of its command. -/
def linuxRollback : Except Exc String → Except Exc (List String)
  | .ok _ => .ok []
  | .error exc =>
      if isCommandError exc then .ok ["Linux rollback failed: " ++ exc.text] else .error exc

/-- The exception of the second half of the rollback, before it is caught. -/
def restoreOutcome : Except Exc String → Except Exc Unit
  | .ok restored =>
      if restored ≠ hostname ++ ".local" then
        .error (.validation ("Avahi restored the unexpected hostname " ++ restored))
      else .ok ()
  | .error exc => .error exc

/-- What `restoreAvahi` makes of the registered name. -/
def avahiRollback (r : Except Exc String) : Except Exc (List String) :=
  match restoreOutcome hostname r with
  | .ok _ => .ok []
  | .error exc =>
      if isPublishError exc then .ok ["mDNS rollback failed: " ++ exc.text] else .error exc

/-- The rollback to `hostname`. -/
inductive RestoreRun : List Step → Except Exc (List String) → Prop
  | linuxRaised {ended : Ended} {exc : Exc} :
      linuxRollback (ended.result (hostnamectlArgs hostname)) = .error exc →
      RestoreRun [.ran (hostnamectlArgs hostname) ended] (.error exc)
  | both {ended : Ended} {errors : List String} {l : List Step} {r : Except Exc String} :
      linuxRollback (ended.result (hostnamectlArgs hostname)) = .ok errors →
      SetRun rt hostname l r →
      RestoreRun (.ran (hostnamectlArgs hostname) ended :: l)
        ((avahiRollback hostname r).map (errors ++ ·))

variable {rt hostname} {l : List Step} {fuel : ℕ}

theorem wp_publish {Q : Except Exc Unit → Record → Prop}
    (h : ∀ l' r, SetRun rt hostname l' r → Q (publishOutcome hostname r) (.rest (l ++ l'))) :
    recorder.wp (publish rt fuel hostname) Q (.rest l) := by
  rw [publish, Monitor.wp_bind]
  refine wp_runCommand fun ended => ?_
  cases hr : ended.result (avahiSetArgs hostname) with
  | error exc => exact h _ _ (.failed hr)
  | ok out =>
    rw [Monitor.andThen_ok, Monitor.wp_bind]
    refine wp_waitForAvahiHostname fun l' r hpoll => ?_
    have := h _ _ (.polled hr hpoll)
    rw [List.append_assoc]
    cases r with
    | error exc => exact this
    | ok published =>
      simp only [publishOutcome] at this
      simp only [Monitor.andThen_ok, Monitor.wp_ite, Monitor.wp_raise, Monitor.wp_pure]
      split_ifs at this ⊢ <;> exact this

theorem wp_restoreLinux {Q : Except Exc (List String) → Record → Prop}
    (h : ∀ ended : Ended, Q (linuxRollback (ended.result (hostnamectlArgs hostname)))
      (.rest (l ++ [.ran (hostnamectlArgs hostname) ended]))) :
    recorder.wp (restoreLinux hostname) Q (.rest l) := by
  rw [restoreLinux, Monitor.wp_tryCatch, Monitor.wp_bind]
  refine wp_runCommand fun ended => ?_
  have := h ended
  cases hr : ended.result (hostnamectlArgs hostname) with
  | ok out => rw [hr] at this; exact this
  | error exc =>
    simp only [hr, linuxRollback] at this
    simp only [Monitor.andThen_error, Monitor.orElse_error, Monitor.wp_ite, Monitor.wp_pure,
      Monitor.wp_raise]
    split_ifs at this ⊢ <;> exact this

theorem wp_restoreAvahi {Q : Except Exc (List String) → Record → Prop}
    (h : ∀ l' r, SetRun rt hostname l' r → Q (avahiRollback hostname r) (.rest (l ++ l'))) :
    recorder.wp (restoreAvahi rt fuel hostname) Q (.rest l) := by
  -- the handler on the outcome of the guarded part
  have hcatch : ∀ l' r, SetRun rt hostname l' r → recorder.orElse (fun exc =>
      if isPublishError exc then return ["mDNS rollback failed: " ++ exc.text] else raise exc) Q
      ((restoreOutcome hostname r).map fun _ => []) (.rest (l ++ l')) := by
    intro l' r hset
    have := h l' r hset
    simp only [avahiRollback] at this
    cases hr : restoreOutcome hostname r with
    | ok _ => rw [hr] at this; exact this
    | error exc =>
      simp only [hr] at this
      simp only [Except.map, Monitor.orElse_error, Monitor.wp_ite, Monitor.wp_pure,
        Monitor.wp_raise]
      split_ifs at this ⊢ <;> exact this
  rw [restoreAvahi, Monitor.wp_tryCatch, Monitor.wp_bind]
  refine wp_runCommand fun ended => ?_
  cases hr : ended.result (avahiSetArgs hostname) with
  | error exc => exact hcatch _ _ (.failed hr)
  | ok out =>
    rw [Monitor.andThen_ok, Monitor.wp_bind]
    refine wp_waitForAvahiHostname fun l' r hpoll => ?_
    have := hcatch _ _ (.polled hr hpoll)
    rw [List.append_assoc]
    cases r with
    | error exc => exact this
    | ok restored =>
      simp only [restoreOutcome] at this
      simp only [Monitor.andThen_ok, Monitor.wp_ite, Monitor.wp_raise, Monitor.wp_pure]
      split_ifs at this ⊢ <;> exact this

theorem wp_restoreHostname {Q : Except Exc (List String) → Record → Prop}
    (h : ∀ l' r, RestoreRun rt hostname l' r → Q r (.rest (l ++ l'))) :
    recorder.wp (restoreHostname rt fuel hostname) Q (.rest l) := by
  rw [restoreHostname, Monitor.wp_bind]
  refine wp_restoreLinux fun ended => ?_
  cases hlinux : linuxRollback (ended.result (hostnamectlArgs hostname)) with
  | error exc => exact h _ _ (.linuxRaised hlinux)
  | ok errors =>
    rw [Monitor.andThen_ok, Monitor.wp_bind]
    refine wp_restoreAvahi fun l' r hset => ?_
    have := h _ _ (.both hlinux hset)
    rw [List.append_assoc]
    cases havahi : avahiRollback hostname r with
    | error exc => rw [havahi] at this; exact this
    | ok errors' => rw [havahi] at this; exact this

end Setting

/-! ### The request -/

section Request

variable (rt : Runtime)

/-- What `readHostname` makes of the end of `/usr/bin/hostname`. -/
def readOutcome : Except Exc String → Except Exc String
  | .ok out => .ok (rt.lower (strip out))
  | .error exc =>
      if isCommandError exc then .error (.validation (readFailed ++ exc.text)) else .error exc

variable {rt} in
theorem readOutcome_eq_ok_iff {r : Except Exc String} {original : String} :
    readOutcome rt r = .ok original ↔ ∃ out, r = .ok out ∧ rt.lower (strip out) = original := by
  cases r with
  | ok out => simp [readOutcome]
  | error exc =>
    rw [readOutcome]
    split_ifs <;> simp

/-- The outcome of a change that failed with `exc`, from the outcome of its rollback. -/
def rolledBack {α : Type} (what : String) (exc : Exc) : Except Exc (List String) → Except Exc α
  | .ok errors => .error (.validation (failedMessage what exc errors))
  | .error exc' => .error exc'

/-- The result of an accepted change. -/
def acceptedResult (requested : String) : HostnameResult where
  hostname := requested
  localHostname := requested ++ ".local"
  mdnsUpdated := true
  recoveryLocalHostname := recoveryLocalHostname
  accepted := true

/-- The steps of a request after the original name has been read. -/
inductive ChangeRun (requested original : String) : List Step → Except Exc HostnameResult → Prop
  | linuxRaised {ended : Ended} {exc : Exc} :
      ended.result (hostnamectlArgs requested) = .error exc → isCommandError exc = false →
      ChangeRun requested original [.ran (hostnamectlArgs requested) ended] (.error exc)
  | linuxFailed {ended : Ended} {exc : Exc} {l : List Step} {r : Except Exc (List String)} :
      ended.result (hostnamectlArgs requested) = .error exc → isCommandError exc = true →
      RestoreRun rt original l r →
      ChangeRun requested original (.ran (hostnamectlArgs requested) ended :: l)
        (rolledBack linuxFailed exc r)
  | publishRaised {ended : Ended} {out : String} {exc : Exc} {l : List Step}
      {r : Except Exc String} :
      ended.result (hostnamectlArgs requested) = .ok out → SetRun rt requested l r →
      publishOutcome requested r = .error exc → isPublishError exc = false →
      ChangeRun requested original (.ran (hostnamectlArgs requested) ended :: l) (.error exc)
  | publishFailed {ended : Ended} {out : String} {exc : Exc} {l l' : List Step}
      {r : Except Exc String} {r' : Except Exc (List String)} :
      ended.result (hostnamectlArgs requested) = .ok out → SetRun rt requested l r →
      publishOutcome requested r = .error exc → isPublishError exc = true →
      RestoreRun rt original l' r' →
      ChangeRun requested original (.ran (hostnamectlArgs requested) ended :: (l ++ l'))
        (rolledBack publishFailed exc r')
  | accepted {ended : Ended} {out : String} {l : List Step} {r : Except Exc String} :
      ended.result (hostnamectlArgs requested) = .ok out → SetRun rt requested l r →
      publishOutcome requested r = .ok () →
      ChangeRun requested original (.ran (hostnamectlArgs requested) ended :: l)
        (.ok (acceptedResult requested))

/-- A complete run of `hostname_set`. -/
inductive HostnameRun (params : Dict) : List Step → Except Exc HostnameResult → Prop
  | invalid {exc : Exc} :
      HostnameSetRequest.validate rt params = .error exc → HostnameRun params [] (.error exc)
  | unread {request : HostnameSetRequest} {ended : Ended} {exc : Exc} :
      HostnameSetRequest.validate rt params = .ok request →
      readOutcome rt (ended.result ["/usr/bin/hostname"]) = .error exc →
      HostnameRun params [.ran ["/usr/bin/hostname"] ended] (.error exc)
  | change {request : HostnameSetRequest} {ended : Ended} {original : String} {l : List Step}
      {r : Except Exc HostnameResult} :
      HostnameSetRequest.validate rt params = .ok request →
      readOutcome rt (ended.result ["/usr/bin/hostname"]) = .ok original →
      ChangeRun rt (rt.lower request.hostname) original l r →
      HostnameRun params (.ran ["/usr/bin/hostname"] ended :: l) r

variable {rt} {l : List Step} {fuel : ℕ}

theorem wp_readHostname {Q : Except Exc String → Record → Prop}
    (h : ∀ ended : Ended, Q (readOutcome rt (ended.result ["/usr/bin/hostname"]))
      (.rest (l ++ [.ran ["/usr/bin/hostname"] ended]))) :
    recorder.wp (readHostname rt) Q (.rest l) := by
  rw [readHostname, Monitor.wp_tryCatch, Monitor.wp_bind]
  refine wp_runCommand fun ended => ?_
  have := h ended
  cases hr : ended.result ["/usr/bin/hostname"] with
  | ok out => rw [hr] at this; exact this
  | error exc =>
    simp only [hr, readOutcome] at this
    simp only [Monitor.andThen_error, Monitor.orElse_error, Monitor.wp_ite, Monitor.wp_raise]
    split_ifs at this ⊢ <;> exact this

theorem wp_failAfterRollback {α : Type} {original what : String} {exc : Exc}
    {Q : Except Exc α → Record → Prop}
    (h : ∀ l' r, RestoreRun rt original l' r → Q (rolledBack what exc r) (.rest (l ++ l'))) :
    recorder.wp (failAfterRollback rt fuel original what exc) Q (.rest l) := by
  rw [failAfterRollback, Monitor.wp_bind]
  refine wp_restoreHostname fun l' r hrestore => ?_
  have := h l' r hrestore
  cases r <;> exact this

theorem wp_hostnameSet {params : Dict} {Q : Except Exc HostnameResult → Record → Prop}
    (h : ∀ l r, HostnameRun rt params l r → Q r (.rest l)) :
    recorder.wp (hostnameSet rt fuel params) Q (.rest []) := by
  rw [hostnameSet, Monitor.wp_bind, Monitor.wp_lift]
  cases hv : HostnameSetRequest.validate rt params with
  | error exc => exact h _ _ (.invalid hv)
  | ok request =>
    rw [Monitor.andThen_ok, Monitor.wp_bind]
    refine wp_readHostname fun ended => ?_
    cases hread : readOutcome rt (ended.result ["/usr/bin/hostname"]) with
    | error exc => exact h _ _ (.unread hv hread)
    | ok original =>
      have h' : ∀ l r, ChangeRun rt (rt.lower request.hostname) original l r →
          Q r (.rest ([.ran ["/usr/bin/hostname"] ended] ++ l)) :=
        fun l r hr => h _ _ (.change hv hread hr)
      rw [Monitor.andThen_ok, Monitor.wp_bind, Monitor.wp_tryCatch, Monitor.wp_bind]
      refine wp_runCommand fun ended' => ?_
      rw [List.nil_append]
      cases hctl : ended'.result (hostnamectlArgs (rt.lower request.hostname)) with
      | error exc =>
        simp only [Monitor.andThen_error, Monitor.orElse_error, Monitor.wp_ite, Monitor.wp_raise]
        split_ifs with hc
        · refine wp_failAfterRollback fun l' r hrestore => ?_
          have := h' _ _ (.linuxFailed hctl hc hrestore)
          rw [List.append_assoc]
          cases r <;> exact this
        · exact h' _ _ (.linuxRaised hctl (Bool.eq_false_iff.2 hc))
      | ok out =>
        simp only [Monitor.andThen_ok, Monitor.wp_pure, Monitor.orElse_ok]
        rw [Monitor.wp_bind, Monitor.wp_tryCatch]
        refine wp_publish fun l' r hset => ?_
        cases hp : publishOutcome (rt.lower request.hostname) r with
        | ok _ =>
          have := h' _ _ (.accepted hctl hset hp)
          rw [List.append_assoc]
          exact this
        | error exc =>
          simp only [Monitor.orElse_error, Monitor.wp_ite, Monitor.wp_raise, Monitor.andThen_error]
          split_ifs with hc
          · refine wp_failAfterRollback fun l'' r' hrestore => ?_
            have := h' _ _ (.publishFailed hctl hset hp hc hrestore)
            simp only [List.append_assoc]
            cases r' <;> exact this
          · have := h' _ _ (.publishRaised hctl hset hp (Bool.eq_false_iff.2 hc))
            rw [List.append_assoc]
            exact this

/-- **Every complete path of `hostnameSet` is a run of the request.** -/
theorem hostnameSet_run {params : Dict} {tr : List (Event Reply Exc)}
    {r : Except Exc HostnameResult} (hp : Path (hostnameSet rt fuel params) tr (.done r)) :
    HostnameRun rt params (steps tr) r :=
  steps_of_wp hp (wp_hostnameSet fun _ _ h => h)

end Request

/-! ### Scripted runs -/

/-- Surroundings in which the commands end as listed and every reading of the clock takes a
second. -/
structure Script where
  now : ℚ
  ends : List Ended

namespace Script

def answer (s : Script) : (c : Call) → Except Exc (Reply c) × Script
  | .spawn _ _ =>
      match s.ends with
      | .notStarted exc :: ends => (.error exc, { s with ends })
      | _ => (.ok 0, s)
  | .communicate _ _ =>
      match s.ends with
      | .exited completed :: ends => (.ok completed, { s with ends })
      | .stopped exc :: ends => (.error exc, { s with ends })
      | _ => (.error .cancelled, s)
  | .kill _ => (.ok (), s)
  | .wait _ => (.ok (), s)
  | .time => (.ok s.now, { s with now := s.now + 1 })
  | .sleep _ => (.ok (), s)

end Script

/-- The run of `p` whose commands end as in `ends`. -/
def scripted {α : Type} (ends : List Ended) (p : Proc α) :
    List (Event Reply Exc) × Option (Except Exc α) :=
  exec Script.answer p ⟨0, ends⟩

theorem path_of_scripted {α : Type} {ends : List Ended} {p : Proc α} {r : Except Exc α}
    (h : (scripted ends p).2 = some r) : Path p (scripted ends p).1 (.done r) :=
  path_of_exec _ p _ h

/-- A command that exits with status 0 and prints the ASCII text `out`. -/
def printed (out : String) : Ended :=
  .exited ⟨0, out.toList.map fun c => UInt8.ofNat c.toNat, []⟩

/-- A command that exits with status 1 and the ASCII text `err` on its error output. -/
def refused (err : String) : Ended :=
  .exited ⟨1, [], err.toList.map fun c => UInt8.ofNat c.toNat⟩

end ApplianceAdmin.System
