import ApplianceAdmin.System.World

/-!
# Setting the name that is in force

`avahi-set-host-name` fails when it is asked for the name under which Avahi already runs, and both
`hostname_set` and its rollback use it without looking at that name first.

* `Works`: what a step does on a machine on which every command is available;
* `WorksAlong`: the names along the steps of a run;
* `SetRun.refused`: the command is refused, and Avahi is not asked for its name.
-/

namespace ApplianceAdmin.System

open Async Async.Prog Python

/-! ### A machine on which every command works -/

section Works

variable (free : String → Prop)

/-- What a step does when every command is available and within its timeout; `free` are the names
that no other machine has. -/
inductive Works : World → Step → World → Prop
  | read {w : World} {completed : Completed} :
      completed.returncode = 0 → decodeReplace completed.stdout = w.linux ++ "\n" →
      Works w (.ran ["/usr/bin/hostname"] (.exited completed)) w
  | same {w : World} {completed : Completed} :
      completed.returncode ≠ 0 → Works w (.ran (avahiSetArgs w.avahi) (.exited completed)) w
  | free {w : World} {hostname : String} {ended : Ended} :
      hostname ≠ w.avahi → free hostname → ended.Succeeded →
      Works w (.ran (avahiSetArgs hostname) ended) { w with avahi := hostname }
  | taken {w : World} {hostname avahi : String} {completed : Completed} :
      hostname ≠ w.avahi → ¬free hostname →
      Works w (.ran (avahiSetArgs hostname) (.exited completed)) { w with avahi }
  | other {w w' : World} {s : Step} :
      (∀ hostname ended, s ≠ .ran (avahiSetArgs hostname) ended) → Restores w s w' → Works w s w'

/-- The names go from `w` to `w'` along the steps. -/
def WorksAlong : World → List Step → World → Prop
  | w, [], w' => w' = w
  | w, s :: l, w' => ∃ w₁, Works free w s w₁ ∧ WorksAlong w₁ l w'

end Works

variable {free : String → Prop} {rt : Runtime} {w w' : World} {hostname : String}

/-- Avahi refuses the name that it has. -/
theorem Works.refused {ended : Ended}
    (h : Works free w (.ran (avahiSetArgs hostname) ended) w') (hname : w.avahi = hostname) :
    ∃ message, ended.result (avahiSetArgs hostname) = .error (.notFound message) := by
  have hsame : ∀ {hostname' : String} {ended' : Ended},
      Step.ran (avahiSetArgs hostname) ended = .ran (avahiSetArgs hostname') ended' →
        hostname = hostname' := by
    intro hostname' ended' heq
    simpa [avahiSetArgs] using (Step.ran.inj heq).1
  generalize hstep : Step.ran (avahiSetArgs hostname) ended = s at h
  -- of the steps that set a name only `same` is about the name that Avahi has
  cases h with
  | read _ _ => simp [avahiSetArgs] at hstep
  | @same completed hrc =>
    cases hstep
    exact ⟨_, if_pos hrc⟩
  | free hne _ _ => exact absurd ((hsame hstep).symm.trans hname.symm) hne
  | taken hne _ => exact absurd ((hsame hstep).symm.trans hname.symm) hne
  | other hno _ => exact absurd hstep.symm (hno _ _)

/-- Reading the name changes nothing. -/
theorem Works.read_eq {ended : Ended} (h : Works free w (.ran ["/usr/bin/hostname"] ended) w') :
    w' = w := by
  generalize hstep : Step.ran ["/usr/bin/hostname"] ended = s at h
  cases h with
  | read _ _ => rfl
  | same _ => rfl
  | free _ _ _ | taken _ _ => simp [avahiSetArgs] at hstep
  | other _ hr =>
    cases hr <;> simp [hostnamectlArgs, avahiSetArgs, avahiArgs] at hstep

/-- `hostnamectl` succeeds and sets the Linux hostname. -/
theorem Works.linux_eq {ended : Ended}
    (h : Works free w (.ran (hostnamectlArgs hostname) ended) w') :
    ended.Succeeded ∧ w' = { w with linux := hostname } := by
  generalize hstep : Step.ran (hostnamectlArgs hostname) ended = s at h
  cases h with
  | read _ _ => simp [hostnamectlArgs] at hstep
  | same _ | free _ _ _ | taken _ _ => simp [hostnamectlArgs, avahiSetArgs] at hstep
  | other _ hr => exact restores_linux_iff.1 (hstep ▸ hr)

/-- No step but `hostnamectl` changes the Linux hostname. -/
theorem Works.linux_of_not_ctl {s : Step} (h : Works free w s w') (hs : s.isCtl = false) :
    w'.linux = w.linux := by
  cases h with
  | read _ _ | same _ | free _ _ _ | taken _ _ => rfl
  | other _ hr =>
    cases hr with
    | linux _ => simp [Step.isCtl, hostnamectlArgs] at hs
    | avahi _ | state _ | fqdn _ _ | slept => rfl

theorem WorksAlong.linux_of_not_ctl {l : List Step} (h : WorksAlong free w l w')
    (hl : ∀ s ∈ l, s.isCtl = false) : w'.linux = w.linux := by
  induction l generalizing w with
  | nil => rw [h]
  | cons s l ih =>
    obtain ⟨w₁, h₁, hrest⟩ := h
    obtain ⟨hs, hl⟩ := List.forall_mem_cons.1 hl
    rw [ih hrest hl, h₁.linux_of_not_ctl hs]

/-! ### The name in force -/

/-- Asked for the name that Avahi has, the command fails and Avahi is not looked at. -/
theorem SetRun.refused {l l' : List Step} {r : Except Exc String} (h : SetRun rt hostname l r)
    (hworks : WorksAlong free w (l ++ l') w') (hname : w.avahi = hostname) :
    ∃ message, r = .error (.notFound message) := by
  cases h with
  | failed he =>
    obtain ⟨w₁, h₁, -⟩ := hworks
    obtain ⟨message, hresult⟩ := h₁.refused hname
    rw [he] at hresult
    exact ⟨message, hresult⟩
  | polled ho _ =>
    -- Avahi is looked at only after the command has succeeded
    obtain ⟨w₁, h₁, -⟩ := hworks
    obtain ⟨message, hresult⟩ := h₁.refused hname
    rw [ho] at hresult
    cases hresult

/-- A rollback to the name that Avahi has reports that it failed. -/
theorem RestoreRun.refused {l : List Step} {r : Except Exc (List String)}
    (h : RestoreRun rt hostname l r) (hworks : WorksAlong free w l w')
    (hname : w.avahi = hostname) : ∃ message, r = .ok ["mDNS rollback failed: " ++ message] := by
  cases h with
  | linuxRaised he =>
    obtain ⟨w₁, h₁, -⟩ := hworks
    obtain ⟨out, ho⟩ := (Ended.succeeded_iff (hostnamectlArgs hostname)).1 h₁.linux_eq.1
    rw [ho] at he
    cases he
  | @both ended errors l r he hset =>
    obtain ⟨w₁, h₁, hrest⟩ := hworks
    obtain ⟨hs, rfl⟩ := h₁.linux_eq
    obtain ⟨out, ho⟩ := (Ended.succeeded_iff (hostnamectlArgs hostname)).1 hs
    rw [ho] at he
    cases he
    rw [← List.append_nil l] at hrest
    obtain ⟨message, rfl⟩ := hset.refused hrest hname
    exact ⟨message, rfl⟩

/-- A run that is accepted has set both names, so that one of them was not the requested one. -/
theorem HostnameRun.not_accepted {params : Dict} {l : List Step} {r : Except Exc HostnameResult}
    (h : HostnameRun rt params l r) {linux : String}
    (hworks : WorksAlong free ⟨linux, hostname⟩ l w') :
    ¬((∃ result, r = .ok result) ∧ w' = ⟨hostname, hostname⟩) := by
  rintro ⟨⟨result, hr⟩, rfl⟩
  cases h with
  | invalid _ => cases hr
  | unread _ _ => cases hr
  | @change request read original l r hv hread hchange =>
    obtain ⟨⟨ended, rest, rfl, hsucceeded, havahi⟩, -⟩ := hchange.setBoth hr
    obtain ⟨ended', polls, rfl, hsucceeded', -, hpolls⟩ := havahi
    obtain ⟨w₀, h₀, w₁, h₁, hrest⟩ := hworks
    obtain rfl := h₀.read_eq
    obtain ⟨-, rfl⟩ := h₁.linux_eq
    -- nothing after `hostnamectl` changes the Linux hostname, so that it is the requested one
    have hlinux := hrest.linux_of_not_ctl (List.forall_mem_cons.2
      ⟨rfl, fun s hs => Step.isCtl_of_isPoll (hpolls s hs)⟩)
    obtain ⟨w₂, h₂, -⟩ := hrest
    obtain ⟨message, hresult⟩ := h₂.refused hlinux
    obtain ⟨out, ho⟩ := (Ended.succeeded_iff (avahiSetArgs (rt.lower request.hostname))).1
      hsucceeded'
    rw [ho] at hresult
    cases hresult

/-- **Setting the name in force never succeeds.**  On a machine on which every command works and
both names are `h`, no request leads to an accepted change after which both names are `h`; and a
rollback to the name that Avahi has always reports an error. -/
theorem name_in_force_refused (free : String → Prop) (rt : Runtime) (fuel : ℕ) :
    (∀ h params tr r w', Path (hostnameSet rt fuel params) tr (.done r) →
      WorksAlong free ⟨h, h⟩ (steps tr) w' →
        ¬((∃ result, r = .ok result) ∧ w' = ⟨h, h⟩)) ∧
    ∀ original tr r w w', Path (restoreHostname rt fuel original) tr (.done r) →
      w.avahi = original → WorksAlong free w (steps tr) w' → r ≠ .ok [] := by
  refine ⟨fun h params tr r w' hp hworks => (hostnameSet_run hp).not_accepted hworks, ?_⟩
  intro original tr r w w' hp hname hworks hr
  have hrun : RestoreRun rt original (steps tr) r :=
    steps_of_wp hp (wp_restoreHostname fun _ _ h => h)
  obtain ⟨message, rfl⟩ := hrun.refused hworks hname
  cases hr

/-! ### The name `old` -/

/-- A request for the name in force, in capitals -/
def oldParams : Dict := [("hostname", .str "OLD")]

/-- What `avahi-set-host-name` says to the name that Avahi has -/
def redundant : String := "The requested operation is invalid because redundant"

/-- The name is read, `hostnamectl` succeeds and Avahi refuses, in the change and in the rollback. -/
def oldEnds : List Ended :=
  [printed "old\n", printed "", refused redundant, printed "", refused redundant]

def oldError : Exc :=
  .validation ("Failed to publish the requested hostname: " ++ redundant ++
    "; mDNS rollback failed: " ++ redundant)

set_option maxRecDepth 4096 in
theorem path_old :
    Path (hostnameSet .ascii 1 oldParams) (scripted oldEnds (hostnameSet .ascii 1 oldParams)).1
      (.done (.error oldError)) :=
  path_of_scripted rfl

theorem path_restore_old :
    Path (restoreHostname .ascii 1 "old")
      (scripted [printed "", refused redundant] (restoreHostname .ascii 1 "old")).1
      (.done (.ok ["mDNS rollback failed: " ++ redundant])) :=
  path_of_scripted rfl

/-- `hostnamectl` sets the name again and Avahi refuses it. -/
theorem worksAlong_old {free : String → Prop} : WorksAlong free ⟨"old", "old"⟩
    [.ran (hostnamectlArgs "old") (printed ""), .ran (avahiSetArgs "old") (refused redundant)]
    ⟨"old", "old"⟩ := by
  refine ⟨_, .other (fun _ _ h => ?_) (.linux rfl), _, .same (by decide), rfl⟩
  simp [hostnamectlArgs, avahiSetArgs] at h

theorem worksAlong_oldEnds {free : String → Prop} : WorksAlong free ⟨"old", "old"⟩
    (steps (scripted oldEnds (hostnameSet .ascii 1 oldParams)).1) ⟨"old", "old"⟩ := by
  obtain ⟨w₁, h₁, w₂, h₂, rfl⟩ := worksAlong_old
  exact ⟨_, .read rfl rfl, w₁, h₁, _, h₂, worksAlong_old⟩

/-- Neither the change nor the rollback succeeds. -/
theorem old_refused :
    ¬((∃ result, (.error oldError : Except Exc HostnameResult) = .ok result) ∧
      (⟨"old", "old"⟩ : World) = ⟨"old", "old"⟩) ∧
    (.ok ["mDNS rollback failed: " ++ redundant] : Except Exc (List String)) ≠ .ok [] :=
  ⟨(name_in_force_refused (fun _ => True) .ascii 1).1 "old" oldParams _ _ _ path_old
      worksAlong_oldEnds,
    (name_in_force_refused (fun _ => True) .ascii 1).2 "old" _ _ _ _ path_restore_old rfl
      worksAlong_old⟩

/-- The machine is called `old`, and the request for `OLD` fails with every command working. -/
theorem old_not_accepted :
    (∃ tr, Path (hostnameSet .ascii 1 oldParams) tr (.done (.error oldError)) ∧
      WorksAlong (fun _ => True) ⟨"old", "old"⟩ (steps tr) ⟨"old", "old"⟩) ∧
    ∃ tr, Path (restoreHostname .ascii 1 "old") tr
        (.done (.ok ["mDNS rollback failed: " ++ redundant])) ∧
      WorksAlong (fun _ => True) ⟨"old", "old"⟩ (steps tr) ⟨"old", "old"⟩ :=
  ⟨⟨_, path_old, worksAlong_oldEnds⟩, ⟨_, path_restore_old, worksAlong_old⟩⟩

end ApplianceAdmin.System
