import ApplianceAdmin.System.Rollback

/-!
# What a hostname change reports

A run is ordinary when its commands exit, time out or are missing, and nothing else interrupts it.
`hostnameSet_truthful` says of an ordinary run what the answer of the request tells about its steps:
an accepted request has set both names and has seen Avahi run under the new one; the error of a
request that was rolled back names the halves of the rollback that failed, and with none named both
names were set back.

* `Step.Ordinary`, `Ended.Succeeded`, `Observed`: what is said about steps;
* `SetBoth`: both commands for a name, and Avahi observed under it;
* `RollbackReport`, `Reported`: the errors of a rollback and what they stand for.
-/

namespace ApplianceAdmin.System

open Async Async.Prog Python

/-! ### Steps of an ordinary run -/

/-- A command that exits, times out or does not exist, or a sleep that is not interrupted. -/
def Step.Ordinary : Step → Prop
  | .ran _ (.exited _) => True
  | .ran _ (.stopped exc) => exc.isTimeout = true
  | .ran _ (.notStarted exc) => exc.isFileNotFound = true
  | .slept outcome => outcome = .ok ()

instance : DecidablePred Step.Ordinary
  | .ran _ (.exited _) => .isTrue trivial
  | .ran _ (.stopped exc) => inferInstanceAs (Decidable (exc.isTimeout = true))
  | .ran _ (.notStarted exc) => inferInstanceAs (Decidable (exc.isFileNotFound = true))
  | .slept (.ok ()) => .isTrue rfl
  | .slept (.error _) => .isFalse (by simp [Step.Ordinary])

/-- The command exited with status 0. -/
def Ended.Succeeded : Ended → Prop
  | .exited completed => completed.returncode = 0
  | _ => False

/-- What a command printed, without the whitespace around it. -/
def Completed.output (completed : Completed) : String := strip (decodeReplace completed.stdout)

/-- Avahi answers that it runs, and then that its name is `name` up to case and trailing dots. -/
def Shows (rt : Runtime) (name : String) (l : List Step) : Prop :=
  ∃ running named words printedName,
    l = [.ran (avahiArgs "GetState") (.exited running),
      .ran (avahiArgs "GetHostNameFqdn") (.exited named)] ∧
    running.returncode = 0 ∧ shlexSplit running.output = .ok words ∧
    words.getLast?.bind (parseInt rt.toUnicode) = some avahiRunning ∧
    named.returncode = 0 ∧ shlexSplit named.output = .ok ["s", printedName] ∧
    rt.lower (rstripDots printedName) = name

/-- The last thing seen of Avahi is that it runs under `name`. -/
def Observed (rt : Runtime) (name : String) (l : List Step) : Prop :=
  ∃ before last, l = before ++ last ∧ Shows rt name last

variable {rt : Runtime} {l : List Step}

theorem result_eq_ok_iff {args : List String} {ended : Ended} {out : String} :
    ended.result args = .ok out ↔
      ∃ completed, ended = .exited completed ∧ completed.returncode = 0 ∧ completed.output = out := by
  cases ended with
  | notStarted exc =>
    simp only [Ended.result]
    split_ifs <;> simp
  | stopped exc => simp [Ended.result]
  | exited completed =>
    simp only [Ended.result]
    split_ifs with h
    · simp [h]
    · simp [not_not.1 h, Completed.output]

theorem Ended.succeeded_iff (args : List String) {ended : Ended} :
    ended.Succeeded ↔ ∃ out, ended.result args = .ok out := by
  simp only [result_eq_ok_iff]
  cases ended <;> simp [Ended.Succeeded]

theorem Step.Ordinary.isCommandError {argv : List String} {ended : Ended} {exc : Exc}
    (h : (Step.ran argv ended).Ordinary) (he : ended.result argv = .error exc) :
    isCommandError exc = true := by
  cases ended with
  | notStarted exc' =>
    rw [Ended.result, if_pos (show exc'.isFileNotFound = true from h)] at he
    cases he
    rfl
  | stopped exc' =>
    cases he
    simp only [System.isCommandError, Bool.or_eq_true]
    exact .inr h
  | exited completed =>
    simp only [Ended.result] at he
    split_ifs at he
    cases he
    rfl

/-- Nothing escapes from an ordinary run. -/
theorem Step.Ordinary.not_escapes {s : Step} (h : s.Ordinary) : s.escapes = false := by
  cases s with
  | slept outcome =>
    rw [show outcome = .ok () from h]
    rfl
  | ran argv ended =>
    cases hr : ended.result argv with
    | ok out => exact Step.escapes_eq_false_of_ok hr
    | error exc =>
      have hc := h.isCommandError hr
      have hp : isPublishError exc = true := by simp [isPublishError, hc]
      rw [Step.escapes_of_error hr, Step.handled]
      split_ifs <;> simp [hc, hp]

/-! ### Polling -/

theorem bind_eq_ok_iff {α β : Type} {x : Except Exc α} {f : α → Except Exc β} {b : β} :
    x >>= f = .ok b ↔ ∃ a, x = .ok a ∧ f a = .ok b := by
  cases x with
  | error exc => exact ⟨fun h => (nomatch h), fun ⟨_, h, _⟩ => (nomatch h)⟩
  | ok a => exact ⟨fun h => ⟨a, rfl, h⟩, fun ⟨_, he, h⟩ => by cases he; exact h⟩

theorem split_eq_ok_iff {text : String} {words : List String} :
    split text = .ok words ↔ shlexSplit text = .ok words := by
  unfold split
  cases shlexSplit text <;> simp [Except.mapError]

theorem lastInt_eq_ok_iff {words : List String} {state : ℤ} (hs : state ≠ -1) :
    lastInt rt words = .ok state ↔ words.getLast?.bind (parseInt rt.toUnicode) = some state := by
  unfold lastInt Value.intOfText
  cases words.getLast? with
  | none => simpa using hs.symm
  | some word =>
    rw [Option.bind_some]
    cases hn : parseInt rt.toUnicode word <;> simp [hn, Except.mapError]

theorem parseState_eq_ok_iff {reply : String} {state : ℤ} (hs : state ≠ -1) :
    parseState rt reply = .ok state ↔ ∃ words, shlexSplit reply = .ok words ∧
      words.getLast?.bind (parseInt rt.toUnicode) = some state := by
  simp only [← split_eq_ok_iff, ← lastInt_eq_ok_iff hs, parseState, bind_eq_ok_iff]

theorem parseFqdn_eq_ok_some_iff {reply name : String} :
    parseFqdn rt reply = .ok (some name) ↔ ∃ printedName,
      shlexSplit reply = .ok ["s", printedName] ∧ rt.lower (rstripDots printedName) = name := by
  simp only [← split_eq_ok_iff, parseFqdn]
  cases split reply with
  | error exc => exact ⟨fun h => (nomatch h), fun ⟨_, h, _⟩ => (nomatch h)⟩
  | ok words =>
    simp only [Except.map, Except.ok.injEq]
    split
    · simp
    · rename_i hne
      simp only [reduceCtorEq, false_iff]
      rintro ⟨printedName, rfl, -⟩
      exact hne _ rfl

theorem AttemptRun.ok_iff {r : Except Exc (Option String)} (h : AttemptRun rt l r) (name : String) :
    r = .ok (some name) ↔ Shows rt name l := by
  cases h with
  | failed _ => exact ⟨fun h => (nomatch h), fun ⟨_, _, _, _, h, _⟩ => (nomatch h)⟩
  | notRunning _ _ => exact ⟨fun h => (nomatch h), fun ⟨_, _, _, _, h, _⟩ => (nomatch h)⟩
  | @running ended ended' he =>
    obtain ⟨reply, hreply, hstate⟩ := bind_eq_ok_iff.1 he
    obtain ⟨running, rfl, hrc, rfl⟩ := result_eq_ok_iff.1 hreply
    obtain ⟨words, hwords, hlast⟩ := (parseState_eq_ok_iff (by decide)).1 hstate
    rw [bind_eq_ok_iff]
    refine ⟨fun ⟨reply', hreply', hname⟩ => ?_, ?_⟩
    · obtain ⟨named, rfl, hrc', rfl⟩ := result_eq_ok_iff.1 hreply'
      obtain ⟨printedName, hprinted, hlower⟩ := parseFqdn_eq_ok_some_iff.1 hname
      exact ⟨running, named, words, printedName, rfl, hrc, hwords, hlast, hrc', hprinted, hlower⟩
    · rintro ⟨_, named, _, printedName, hl, -, -, -, hrc', hprinted, hlower⟩
      cases hl
      exact ⟨named.output, result_eq_ok_iff.2 ⟨named, rfl, hrc', rfl⟩,
        parseFqdn_eq_ok_some_iff.2 ⟨printedName, hprinted, hlower⟩⟩

theorem AttemptRun.length_le {r : Except Exc (Option String)} (h : AttemptRun rt l r) :
    l.length ≤ 2 := by
  cases h <;> simp

theorem Shows.length {name : String} (h : Shows rt name l) : l.length = 2 := by
  obtain ⟨_, _, _, _, rfl, -⟩ := h
  rfl

theorem Shows.ran {name : String} (h : Shows rt name l) (outcome : Except Exc Unit) :
    Step.slept outcome ∉ l := by
  obtain ⟨_, _, _, _, rfl, -⟩ := h
  simp

/-- What one round lets observe is what it shows. -/
theorem AttemptRun.observed_iff {r : Except Exc (Option String)} (h : AttemptRun rt l r)
    (name : String) : Observed rt name l ↔ r = .ok (some name) := by
  rw [h.ok_iff]
  refine ⟨?_, fun hs => ⟨[], l, rfl, hs⟩⟩
  rintro ⟨before, last, rfl, hs⟩
  have hlen := h.length_le
  rw [List.length_append, hs.length] at hlen
  rw [List.length_eq_zero_iff.1 (by omega : before.length = 0)]
  exact hs

/-- A sleep separates what is observed before it from what is observed after it. -/
theorem observed_append_slept {outcome : Except Exc Unit} {l' : List Step} {name : String} :
    Observed rt name (l ++ .slept outcome :: l') ↔ Observed rt name l' := by
  refine ⟨?_, fun ⟨before, last, hl, hs⟩ => ⟨l ++ .slept outcome :: before, last, by simp [hl], hs⟩⟩
  rintro ⟨before, last, hl, hs⟩
  rw [List.append_cons, List.append_eq_append_iff] at hl
  rcases hl with ⟨as, -, rfl⟩ | ⟨bs, hbs, rfl⟩
  · exact ⟨as, last, rfl, hs⟩
  · rcases List.eq_nil_or_concat bs with rfl | ⟨bs, b, rfl⟩
    · exact ⟨[], l', rfl, by simpa using hs⟩
    · have hb := congrArg List.getLast? hbs
      rw [List.concat_eq_append] at hb
      simp only [List.getLast?_append, List.getLast?_singleton, Option.some_or,
        Option.some.injEq] at hb
      exact absurd (by simp [← hb]) (hs.ran outcome)

theorem PollRun.ok_iff {last : Option Exc} {r : Except Exc String} (h : PollRun rt last l r)
    (name : String) :
    r = .ok name ↔ Observed rt name l := by
  induction h with
  | found ha => rw [ha.observed_iff]; simp
  | raised ha _ => rw [ha.observed_iff]; simp
  | expired ha hm =>
    rw [ha.observed_iff]
    refine ⟨fun h => (nomatch h), fun h => ?_⟩
    rw [h] at hm
    cases hm
  | woken ha _ =>
    rw [observed_append_slept]
    refine ⟨fun h => (nomatch h), fun ⟨before, last, hl, hs⟩ => ?_⟩
    rw [(List.append_eq_nil_iff.1 hl.symm).2] at hs
    exact absurd hs.length (by simp)
  | again ha _ _ ih => rw [observed_append_slept]; exact ih

/-! ### Setting a name -/

/-- `avahi-set-host-name hostname` succeeds and Avahi is last observed under `hostname.local`. -/
def SetAvahi (rt : Runtime) (hostname : String) (l : List Step) : Prop :=
  ∃ ended polls, l = .ran (avahiSetArgs hostname) ended :: polls ∧ ended.Succeeded ∧
    Observed rt (hostname ++ ".local") polls ∧ ∀ s ∈ polls, s.isPoll = true

/-- `hostnamectl set-hostname hostname` succeeds. -/
def SetLinux (hostname : String) (l : List Step) : Prop :=
  ∃ ended rest, l = .ran (hostnamectlArgs hostname) ended :: rest ∧ ended.Succeeded

/-- Both names are set, Linux first, and nothing else is run. -/
def SetBoth (rt : Runtime) (hostname : String) (l : List Step) : Prop :=
  ∃ ended rest, l = .ran (hostnamectlArgs hostname) ended :: rest ∧ ended.Succeeded ∧
    SetAvahi rt hostname rest

theorem SetRun.ok_iff {hostname : String} {r : Except Exc String} (h : SetRun rt hostname l r) :
    r = .ok (hostname ++ ".local") ↔ SetAvahi rt hostname l := by
  cases h with
  | @failed ended exc he =>
    refine ⟨fun h => (nomatch h), ?_⟩
    rintro ⟨_, _, hl, hs, -⟩
    cases hl
    obtain ⟨out, ho⟩ := (Ended.succeeded_iff (avahiSetArgs hostname)).1 hs
    rw [he] at ho
    cases ho
  | @polled ended out l r ho hp =>
    rw [hp.ok_iff]
    refine ⟨fun h => ⟨ended, l, rfl, (Ended.succeeded_iff _).2 ⟨out, ho⟩, h, hp.isPoll⟩, ?_⟩
    rintro ⟨_, _, hl, -, hobs, -⟩
    cases hl
    exact hobs

/-! ### The errors of a rollback -/

/-- What a rollback reports: the text of the error of each half that failed. -/
structure RollbackReport where
  linux : Option String
  mdns : Option String

/-- The entries of `rollback_errors`. -/
def RollbackReport.errors (report : RollbackReport) : List String :=
  (report.linux.map ("Linux rollback failed: " ++ ·)).toList ++
    (report.mdns.map ("mDNS rollback failed: " ++ ·)).toList

/-- The report names the halves of the rollback `l` to `original` that failed. -/
structure Reported (rt : Runtime) (original : String) (report : RollbackReport) (l : List Step) :
    Prop where
  linux : report.linux = none ↔ SetLinux original l
  mdns : report.mdns = none ↔ SetAvahi rt original l.tail

theorem RollbackReport.errors_eq_nil_iff {report : RollbackReport} :
    report.errors = [] ↔ report.linux = none ∧ report.mdns = none := by
  simp [errors, Option.toList_eq_nil_iff]

/-- A report without errors stands for a rollback that set both names. -/
theorem Reported.restored_iff {original : String} {report : RollbackReport}
    (h : Reported rt original report l) : report.errors = [] ↔ SetBoth rt original l := by
  rw [RollbackReport.errors_eq_nil_iff, h.linux, h.mdns]
  constructor
  · rintro ⟨⟨ended, rest, rfl, hs⟩, havahi⟩
    exact ⟨ended, rest, rfl, hs, havahi⟩
  · rintro ⟨ended, rest, rfl, hs, havahi⟩
    exact ⟨⟨ended, rest, rfl, hs⟩, havahi⟩

theorem linuxRollback_report {r : Except Exc String} {errors : List String}
    (h : linuxRollback r = .ok errors) :
    ∃ linux : Option String, errors = (linux.map ("Linux rollback failed: " ++ ·)).toList ∧
      (linux = none ↔ ∃ out, r = .ok out) := by
  cases r with
  | ok out =>
    cases h
    exact ⟨none, rfl, by simp⟩
  | error exc =>
    simp only [linuxRollback] at h
    split_ifs at h
    cases h
    exact ⟨some exc.text, rfl, by simp⟩

theorem avahiRollback_report (original : String) {r : Except Exc String}
    (h : ∀ exc, r = .error exc → isPublishError exc = true) :
    ∃ mdns : Option String, avahiRollback original r =
        .ok (mdns.map ("mDNS rollback failed: " ++ ·)).toList ∧
      (mdns = none ↔ r = .ok (original ++ ".local")) := by
  cases r with
  | ok restored =>
    simp only [avahiRollback, restoreOutcome]
    split_ifs with hne
    · exact ⟨some _, rfl, by simp [hne]⟩
    · exact ⟨none, rfl, by simpa using hne⟩
  | error exc =>
    simp only [avahiRollback, restoreOutcome, h exc rfl]
    exact ⟨some exc.text, rfl, by simp⟩

/-- The exceptions of an ordinary run of `avahi-set-host-name` and the loop after it are caught. -/
theorem SetRun.isPublishError {hostname : String} {r : Except Exc String}
    (h : SetRun rt hostname l r) (hord : ∀ s ∈ l, s.Ordinary) (exc : Exc) (hr : r = .error exc) :
    isPublishError exc = true := by
  rw [← Bool.not_eq_false]
  intro hp
  obtain ⟨s, hs, he⟩ := h.escapes_iff.2 ⟨exc, hr, hp⟩
  rw [(hord s hs).not_escapes] at he
  cases he

/-- The rollback of an ordinary run ends with a report. -/
theorem RestoreRun.reported {original : String} {r : Except Exc (List String)}
    (h : RestoreRun rt original l r) (hord : ∀ s ∈ l, s.Ordinary) :
    ∃ report : RollbackReport, r = .ok report.errors ∧ Reported rt original report l := by
  cases h with
  | @linuxRaised ended exc he =>
    have := (hord _ (List.mem_singleton_self _)).not_escapes
    rw [escapes_linuxRollback.2 ⟨exc, he⟩] at this
    cases this
  | @both ended errors l r he hset =>
    have hcaught := hset.isPublishError fun s hs => hord s (List.mem_cons_of_mem _ hs)
    obtain ⟨linux, rfl, hlinux⟩ := linuxRollback_report he
    obtain ⟨mdns, hr, hmdns⟩ := avahiRollback_report original hcaught
    refine ⟨⟨linux, mdns⟩, by rw [hr]; rfl, ?_, by rw [hmdns, hset.ok_iff]; rfl⟩
    rw [hlinux, ← Ended.succeeded_iff _]
    refine ⟨fun h => ⟨ended, l, rfl, h⟩, ?_⟩
    rintro ⟨_, _, hl, hs⟩
    cases hl
    exact hs

/-! ### The request -/

/-- The request was accepted, and its steps after the read set both names to the requested one. -/
def AcceptedRun (rt : Runtime) (params : Dict) (l : List Step) (result : HostnameResult) : Prop :=
  ∃ request read rest, HostnameSetRequest.validate rt params = .ok request ∧
    l = .ran ["/usr/bin/hostname"] read :: rest ∧ SetBoth rt (rt.lower request.hostname) rest ∧
    result = acceptedResult (rt.lower request.hostname)

/-- The error of a request that read `original` carries the report on its rollback; a report without
errors stands for a rollback that set both names. -/
def FailedRun (rt : Runtime) (original : String) (l : List Step) (exc : Exc) : Prop :=
  ∃ what cause report, exc = .validation (failedMessage what cause report.errors) ∧
    (what = linuxFailed ∨ what = publishFailed) ∧
    Reported rt original report (rollbackPart l) ∧
    (report.errors = [] ↔ SetBoth rt original (rollbackPart l))

theorem publishOutcome_eq_ok_iff {hostname : String} {r : Except Exc String} :
    publishOutcome hostname r = .ok () ↔ r = .ok (hostname ++ ".local") := by
  cases r with
  | error exc => simp [publishOutcome]
  | ok published =>
    simp only [publishOutcome]
    split_ifs with h <;> simp_all

theorem ChangeRun.failedRun {original requested : String} {exc : Exc} {read : Ended}
    {r : Except Exc HostnameResult} (h : ChangeRun rt requested original l r)
    (hr : r = .error exc) (hord : ∀ s ∈ l, s.Ordinary) :
    FailedRun rt original (.ran ["/usr/bin/hostname"] read :: l) exc := by
  obtain ⟨what, cause, mid, l', r', hwhat, rfl, hpart, hrestore, hexc⟩ :=
    h.ends_with_rollback hr (fun s hs => (hord s hs).not_escapes) read
  obtain ⟨report, rfl, hrep⟩ :=
    hrestore.reported fun s hs => hord s (List.mem_append_right mid hs)
  cases hexc
  exact ⟨what, cause, report, rfl, hwhat, hpart.symm ▸ hrep, hpart.symm ▸ hrep.restored_iff⟩

theorem ChangeRun.setBoth {original requested : String} {result : HostnameResult}
    {r : Except Exc HostnameResult} (h : ChangeRun rt requested original l r)
    (hr : r = .ok result) : SetBoth rt requested l ∧ result = acceptedResult requested := by
  cases h with
  | linuxRaised => cases hr
  | @linuxFailed _ _ _ r' _ _ _ => cases r' <;> cases hr
  | publishRaised => cases hr
  | @publishFailed _ _ _ _ _ _ r' _ _ _ _ _ => cases r' <;> cases hr
  | @accepted ended out l r ho hset hp =>
    cases hr
    exact ⟨⟨ended, l, rfl, (Ended.succeeded_iff _).2 ⟨out, ho⟩,
      hset.ok_iff.1 (publishOutcome_eq_ok_iff.1 hp)⟩, rfl⟩

/-- **A hostname change reports truthfully.**  An accepted request has set both names and nothing
else; a request of an ordinary run that fails after the read reports on its rollback. -/
theorem hostnameSet_truthful {fuel : ℕ} {params : Dict} {tr : List (Event Reply Exc)}
    {r : Except Exc HostnameResult} (hp : Path (hostnameSet rt fuel params) tr (.done r))
    (hord : ∀ s ∈ steps tr, s.Ordinary) :
    (∀ result, r = .ok result → AcceptedRun rt params (steps tr) result) ∧
    (∀ exc read rest original, r = .error exc →
      steps tr = .ran ["/usr/bin/hostname"] read :: rest →
      readOutcome rt (read.result ["/usr/bin/hostname"]) = .ok original →
      FailedRun rt original (steps tr) exc) := by
  have hrun := hostnameSet_run hp
  refine ⟨fun result hr => ?_, fun exc read rest original hr hsteps hread => ?_⟩
  · generalize steps tr = l at hrun
    cases hrun with
    | invalid => cases hr
    | unread => cases hr
    | @change request read original l r hv _ hchange =>
      obtain ⟨hset, hres⟩ := hchange.setBoth hr
      exact ⟨request, read, l, hv, rfl, hset, hres⟩
  · rw [hsteps] at hrun hord ⊢
    cases hrun with
    | unread _ he => rw [hread] at he; cases he
    | change _ he hchange =>
      cases hread.symm.trans he
      exact hchange.failedRun hr fun s hs => hord s (List.mem_cons_of_mem _ hs)

/-- The old name is read, both names are set, and Avahi runs under the new one. -/
def acceptedEnds : List Ended :=
  [printed "old\n", printed "", printed "", printed "i 2", printed "s \"New.local\""]

/-- What the request of `collisionEnds` raises. -/
def collisionError : Exc :=
  .validation ("Failed to publish the requested hostname: The requested mDNS hostname is already " ++
    "in use; Avahi selected new-2.local instead; the original hostname was restored")

set_option maxRecDepth 4096 in
theorem path_collision :
    Path (hostnameSet .ascii 1 newParams)
      (scripted (collisionEnds "old\n") (hostnameSet .ascii 1 newParams)).1
      (.done (.error collisionError)) :=
  path_of_scripted rfl

theorem hostnameSet_truthful_new :
    AcceptedRun .ascii newParams
      (steps (scripted acceptedEnds (hostnameSet .ascii 1 newParams)).1) (acceptedResult "new") ∧
    FailedRun .ascii "old" (steps (scripted (collisionEnds "old\n") (hostnameSet .ascii 1 newParams)).1)
      collisionError := by
  have haccepted : Path (hostnameSet .ascii 1 newParams)
      (scripted acceptedEnds (hostnameSet .ascii 1 newParams)).1
      (.done (.ok (acceptedResult "new"))) := path_of_scripted rfl
  exact ⟨(hostnameSet_truthful haccepted (by decide)).1 _ rfl,
    (hostnameSet_truthful path_collision (by decide)).2 _ _ _ _ rfl rfl rfl⟩

end ApplianceAdmin.System
