import ApplianceAdmin.System.Report

/-!
# The two names of the machine

The Linux hostname and the name under which Avahi runs, and what the steps of a request do to them.
Nothing is assumed of a forward command but that a successful `hostnamectl` stores its argument and
that readings are true; Avahi may select any name.  A working rollback command succeeds and has
exactly its intended effect; Avahi may be in any state whenever it is asked, and what it is asked may
be answered by any text that tells no wrong name.

* `World`, `Effect`, `Restores`: the names, what a step may do to them, what a working step of a
  rollback does;
* `Entry`, `entries`: steps that know whether they belong to a rollback;
* `Evolves`: the names along a list of entries;
* `Registered`: one of the polls of a rollback is told the name of Avahi; `Step.legible`: an answer
  that the parsers can read;
* `exactRestoration_iff`: when a failed request leaves both names as they were.
-/

namespace ApplianceAdmin.System

open Async Async.Prog Python

/-- The Linux hostname and the host name of Avahi. -/
structure World where
  linux : String
  avahi : String
  deriving DecidableEq

/-- The part of a name before its first dot. -/
def firstLabel (s : String) : String := String.ofList (s.toList.takeWhile (· ≠ '.'))

/-- What a step may do to the names. -/
inductive Effect : World → Step → World → Prop
  | read {w : World} {ended : Ended} :
      (∀ completed, ended = .exited completed → completed.returncode = 0 →
        decodeReplace completed.stdout = w.linux ++ "\n") →
      Effect w (.ran ["/usr/bin/hostname"] ended) w
  | linux {w : World} {hostname linux : String} {ended : Ended} :
      (ended.Succeeded → linux = hostname) → linux = w.linux ∨ linux = hostname →
      Effect w (.ran (hostnamectlArgs hostname) ended) { w with linux }
  | avahi {w : World} {hostname avahi : String} {ended : Ended} :
      Effect w (.ran (avahiSetArgs hostname) ended) { w with avahi }
  | state {w : World} {ended : Ended} : Effect w (.ran (avahiArgs "GetState") ended) w
  | fqdn {w : World} {ended : Ended} :
      (∀ completed name, ended = .exited completed → completed.returncode = 0 →
        shlexSplit completed.output = .ok ["s", name] → name = w.avahi ++ ".local") →
      Effect w (.ran (avahiArgs "GetHostNameFqdn") ended) w
  | slept {w : World} {outcome : Except Exc Unit} : Effect w (.slept outcome) w

/-- What a step of a rollback does when everything it runs works. -/
inductive Restores : World → Step → World → Prop
  | linux {w : World} {hostname : String} {ended : Ended} :
      ended.Succeeded →
      Restores w (.ran (hostnamectlArgs hostname) ended) { w with linux := hostname }
  | avahi {w : World} {hostname : String} {ended : Ended} :
      ended.Succeeded →
      Restores w (.ran (avahiSetArgs hostname) ended) { w with avahi := firstLabel hostname }
  | state {w : World} {ended : Ended} :
      ended.Succeeded → Restores w (.ran (avahiArgs "GetState") ended) w
  | fqdn {w : World} {completed : Completed} :
      completed.returncode = 0 →
      (∀ name, shlexSplit completed.output = .ok ["s", name] → name = w.avahi ++ ".local") →
      Restores w (.ran (avahiArgs "GetHostNameFqdn") (.exited completed)) w
  | slept {w : World} : Restores w (.slept (.ok ())) w

/-- A step of a request, and whether it belongs to its rollback. -/
structure Entry where
  rollback : Bool
  step : Step

/-- What an entry does to the names when rollbacks work. -/
def Entry.Acts (e : Entry) (w w' : World) : Prop :=
  if e.rollback then Restores w e.step w' else Effect w e.step w'

/-- The entries of a request with the steps `l`. -/
def entries (l : List Step) : List Entry :=
  (l.take (l.length - (rollbackPart l).length)).map (⟨false, ·⟩) ++
    (rollbackPart l).map (⟨true, ·⟩)

/-- The names go from `w` to `w'` along the entries. -/
def Evolves : World → List Entry → World → Prop
  | w, [], w' => w' = w
  | w, e :: es, w' => ∃ w₁, e.Acts w w₁ ∧ Evolves w₁ es w'

variable {rt : Runtime} {w w' : World}

@[simp] theorem evolves_nil : Evolves w [] w' ↔ w' = w := Iff.rfl

theorem evolves_cons {e : Entry} {es : List Entry} :
    Evolves w (e :: es) w' ↔ ∃ w₁, e.Acts w w₁ ∧ Evolves w₁ es w' := Iff.rfl

theorem evolves_append {es es' : List Entry} :
    Evolves w (es ++ es') w' ↔ ∃ w₁, Evolves w es w₁ ∧ Evolves w₁ es' w' := by
  induction es generalizing w with
  | nil => simp
  | cons e es ih =>
    simp only [List.cons_append, evolves_cons, ih]
    constructor
    · rintro ⟨w₁, h₁, w₂, h₂, h₃⟩
      exact ⟨w₂, ⟨w₁, h₁, h₂⟩, h₃⟩
    · rintro ⟨w₂, ⟨w₁, h₁, h₂⟩, h₃⟩
      exact ⟨w₁, h₁, w₂, h₂, h₃⟩

/-! ### A working rollback -/

section Rollback

/-- The entries of a rollback with the steps `l`. -/
def rollbackEntries (l : List Step) : List Entry := l.map (⟨true, ·⟩)

/-- The name under which the loop sees Avahi. -/
def seenName (rt : Runtime) (avahi : String) : String := rt.lower (rstripDots (avahi ++ ".local"))

theorem restores_linux_iff {hostname : String} {ended : Ended} :
    Restores w (.ran (hostnamectlArgs hostname) ended) w' ↔
      ended.Succeeded ∧ w' = { w with linux := hostname } := by
  refine ⟨fun h => ?_, fun ⟨hs, hw⟩ => hw ▸ .linux hs⟩
  generalize hstep : Step.ran (hostnamectlArgs hostname) ended = s at h
  cases h with
  | linux hs => cases hstep; exact ⟨hs, rfl⟩
  | avahi _ | state _ | fqdn _ _ | slept =>
    simp [hostnamectlArgs, avahiSetArgs, avahiArgs] at hstep

theorem restores_avahi_iff {hostname : String} {ended : Ended} :
    Restores w (.ran (avahiSetArgs hostname) ended) w' ↔
      ended.Succeeded ∧ w' = { w with avahi := firstLabel hostname } := by
  refine ⟨fun h => ?_, fun ⟨hs, hw⟩ => hw ▸ .avahi hs⟩
  generalize hstep : Step.ran (avahiSetArgs hostname) ended = s at h
  cases h with
  | avahi hs => cases hstep; exact ⟨hs, rfl⟩
  | linux _ | state _ | fqdn _ _ | slept =>
    simp [hostnamectlArgs, avahiSetArgs, avahiArgs] at hstep

/-- The state is asked for, and answered somehow. -/
theorem Restores.state_eq {ended : Ended} (h : Restores w (.ran (avahiArgs "GetState") ended) w') :
    w' = w ∧ ended.Succeeded := by
  generalize hstep : Step.ran (avahiArgs "GetState") ended = s at h
  cases h with
  | state hs => cases hstep; exact ⟨rfl, hs⟩
  | linux _ | avahi _ | fqdn _ _ | slept =>
    simp [hostnamectlArgs, avahiSetArgs, avahiArgs] at hstep

/-- A name that is read is the name that Avahi has. -/
theorem Restores.fqdn_eq (rt : Runtime) {ended : Ended}
    (h : Restores w (.ran (avahiArgs "GetHostNameFqdn") ended) w') :
    w' = w ∧ ended.Succeeded ∧ ∀ name, ended.result (avahiArgs "GetHostNameFqdn") >>= parseFqdn rt =
      .ok (some name) → name = seenName rt w.avahi := by
  generalize hstep : Step.ran (avahiArgs "GetHostNameFqdn") ended = s at h
  cases h with
  | @fqdn completed hrc htrue =>
    cases hstep
    refine ⟨rfl, hrc, fun name hname => ?_⟩
    obtain ⟨_, hresult, hparsed⟩ := bind_eq_ok_iff.1 hname
    obtain ⟨_, he, -, rfl⟩ := result_eq_ok_iff.1 hresult
    cases he
    obtain ⟨printed, hprinted, rfl⟩ := parseFqdn_eq_ok_some_iff.1 hparsed
    rw [htrue printed hprinted, seenName]
  | linux _ | avahi _ | state _ | slept =>
    simp [hostnamectlArgs, avahiSetArgs, avahiArgs] at hstep

/-- One of the polls finds Avahi running and is told its name. -/
def Registered (rt : Runtime) (l : List Step) : Prop :=
  ∃ ended name, Step.ran (avahiArgs "GetHostNameFqdn") ended ∈ l ∧
    ended.result (avahiArgs "GetHostNameFqdn") >>= parseFqdn rt = .ok (some name)

/-- Can the parsers read what is answered? -/
def Step.legible (rt : Runtime) : Step → Bool
  | .slept _ => true
  | .ran argv ended =>
      match ended.result argv with
      | .error _ => true
      | .ok out =>
          (argv ≠ avahiArgs "GetState" || (parseState rt out).isOk) &&
            (argv ≠ avahiArgs "GetHostNameFqdn" || (parseFqdn rt out).isOk)

theorem not_legible_state {ended : Ended} {out : String} {exc : Exc}
    (hout : ended.result (avahiArgs "GetState") = .ok out) (h : parseState rt out = .error exc) :
    (Step.ran (avahiArgs "GetState") ended).legible rt = false := by
  simp [Step.legible, hout, h, Except.isOk, Except.toBool]

theorem not_legible_fqdn {ended : Ended} {out : String} {exc : Exc}
    (hout : ended.result (avahiArgs "GetHostNameFqdn") = .ok out)
    (h : parseFqdn rt out = .error exc) :
    (Step.ran (avahiArgs "GetHostNameFqdn") ended).legible rt = false := by
  simp [Step.legible, hout, h, Except.isOk, Except.toBool]

theorem registered_append {l l' : List Step} :
    Registered rt (l ++ l') ↔ Registered rt l ∨ Registered rt l' := by
  simp only [Registered, List.mem_append, or_and_right, exists_or]

/-- A step that asks for no name -/
theorem registered_cons_of_ne {s : Step} {l : List Step}
    (hs : ∀ ended, s ≠ .ran (avahiArgs "GetHostNameFqdn") ended) :
    Registered rt (s :: l) ↔ Registered rt l := by
  refine exists_congr fun ended => exists_congr fun name => and_congr_left fun _ => ?_
  rw [List.mem_cons, or_iff_right (hs ended).symm]

theorem Ended.Succeeded.of_bind_error {α : Type} {args : List String} {ended : Ended}
    {f : String → Except Exc α} {exc : Exc} (hs : ended.Succeeded)
    (he : ended.result args >>= f = .error exc) :
    ∃ out, ended.result args = .ok out ∧ f out = .error exc := by
  obtain ⟨out, ho⟩ := (Ended.succeeded_iff args).1 hs
  rw [ho] at he
  exact ⟨out, ho, he⟩

/-- A working round is told the name that Avahi has, or is missed; it is missed without an error when
its answers can be read. -/
theorem AttemptRun.restores {l : List Step} {r : Except Exc (Option String)}
    (h : AttemptRun rt l r) (hev : Evolves w (rollbackEntries l) w') :
    w' = w ∧ (Registered rt l ∧ r = .ok (some (seenName rt w.avahi)) ∨
      ¬Registered rt l ∧ Missed r ∧ ((∀ s ∈ l, s.legible rt = true) → r = .ok none)) := by
  -- a round that only asks for the state is told no name
  have hnone : ∀ {ended}, ¬Registered rt [.ran (avahiArgs "GetState") ended] := by
    rintro ended ⟨ended', name, hmem, -⟩
    simp [avahiArgs] at hmem
  cases h with
  | failed he =>
    obtain ⟨w₁, h₁, rfl⟩ := hev
    obtain ⟨hw, hs⟩ := h₁.state_eq
    obtain ⟨out, hout, hparse⟩ := hs.of_bind_error he
    refine ⟨hw, .inr ⟨hnone, isTransient_of_parseState hparse, fun hlegible => ?_⟩⟩
    have hlegible := hlegible _ List.mem_cons_self
    rw [not_legible_state hout hparse] at hlegible
    cases hlegible
  | notRunning he hne =>
    obtain ⟨w₁, h₁, rfl⟩ := hev
    exact ⟨h₁.state_eq.1, .inr ⟨hnone, rfl, fun _ => rfl⟩⟩
  | @running ended ended' he =>
    obtain ⟨w₁, h₁, w₂, h₂, rfl⟩ := hev
    obtain ⟨rfl, -⟩ := h₁.state_eq
    obtain ⟨hw, hs, htrue⟩ := h₂.fqdn_eq rt
    refine ⟨hw, ?_⟩
    have hreg : Registered rt [.ran (avahiArgs "GetState") ended,
        .ran (avahiArgs "GetHostNameFqdn") ended'] ↔
        ∃ name, ended'.result (avahiArgs "GetHostNameFqdn") >>= parseFqdn rt = .ok (some name) := by
      constructor
      · rintro ⟨ended'', name, hmem, hname⟩
        obtain rfl : ended'' = ended' := by simpa [avahiArgs] using hmem
        exact ⟨name, hname⟩
      · rintro ⟨name, hname⟩
        exact ⟨ended', name, List.mem_cons_of_mem _ List.mem_cons_self, hname⟩
    rw [hreg]
    cases hr : ended'.result (avahiArgs "GetHostNameFqdn") >>= parseFqdn rt with
    | ok answer =>
      cases answer with
      | some name => exact .inl ⟨⟨name, rfl⟩, by rw [htrue name hr]⟩
      | none =>
        refine .inr ⟨?_, rfl, fun _ => rfl⟩
        rintro ⟨name, h⟩
        cases h
    | error exc =>
      obtain ⟨out, hout, hparse⟩ := hs.of_bind_error hr
      refine .inr ⟨?_, isTransient_of_parseFqdn hparse, fun hlegible => ?_⟩
      · rintro ⟨name, h⟩
        cases h
      · have hlegible := hlegible _ (List.mem_cons_of_mem _ List.mem_cons_self)
        rw [not_legible_fqdn hout hparse] at hlegible
        cases hlegible

/-- **A working loop** sees Avahi under its name when a poll is told it, and expires when none is;
there is no error to report then when all answers can be read. -/
theorem PollRun.restores {last : Option Exc} {l : List Step} {r : Except Exc String}
    (h : PollRun rt last l r) (hev : Evolves w (rollbackEntries l) w') :
    w' = w ∧ (Registered rt l ∧ r = .ok (seenName rt w.avahi) ∨
      ¬Registered rt l ∧ ∃ last', r = .error (.validation
        ("Avahi did not finish registering its hostname" ++ errorDetail last')) ∧
        ((∀ s ∈ l, s.legible rt = true) → last' = last)) := by
  -- a round that is missed has not been told the name
  have hmiss : ∀ {l r w w₁}, AttemptRun rt l r → Missed r → Evolves w (rollbackEntries l) w₁ →
      w₁ = w ∧ ¬Registered rt l ∧ ((∀ s ∈ l, s.legible rt = true) → ∀ last, noted last r = last) := by
    intro l r w w₁ ha hm hev
    obtain ⟨hw, ⟨-, rfl⟩ | ⟨hnot, -, hnone⟩⟩ := ha.restores hev
    · cases hm
    · exact ⟨hw, hnot, fun hlegible last => by rw [hnone hlegible]; rfl⟩
  induction h with
  | found ha =>
    obtain ⟨hw, ⟨hreg, hr⟩ | ⟨-, hm, -⟩⟩ := ha.restores hev
    · exact ⟨hw, .inl ⟨hreg, by rw [Option.some.inj (Except.ok.inj hr)]⟩⟩
    · cases hm
  | raised ha hexc =>
    obtain ⟨-, ⟨-, hr⟩ | ⟨-, hm, -⟩⟩ := ha.restores hev
    · cases hr
    · exact absurd hm (by simp [Missed, hexc])
  | expired ha hm =>
    obtain ⟨hw, hnot, hlast⟩ := hmiss ha hm hev
    exact ⟨hw, .inr ⟨hnot, _, rfl, fun hlegible => hlast hlegible _⟩⟩
  | woken ha hm =>
    rw [rollbackEntries, List.map_append, evolves_append] at hev
    obtain ⟨w₁, -, w₂, hslept, -⟩ := hev
    cases hslept
  | @again last l l' r r' ha hm _ ih =>
    rw [rollbackEntries, List.map_append, evolves_append] at hev
    obtain ⟨w₁, h₁, w₂, hslept, hrest⟩ := hev
    obtain ⟨rfl, hnot, hlast⟩ := hmiss ha hm h₁
    cases hslept
    rw [registered_append, or_iff_right hnot, registered_cons_of_ne fun _ h => by cases h]
    obtain ⟨hw, hseen | ⟨hnot', last', hr, hlast'⟩⟩ := ih hrest
    · exact ⟨hw, .inl hseen⟩
    · refine ⟨hw, .inr ⟨hnot', last', hr, fun hlegible => ?_⟩⟩
      rw [hlast' fun s hs => hlegible s (by simp [hs]),
        hlast fun s hs => hlegible s (List.mem_append_left _ hs)]

/-- What a rollback reports when Avahi is seen under another name -/
def unexpectedName (name : String) : String :=
  "mDNS rollback failed: Avahi restored the unexpected hostname " ++ name

/-- What a rollback reports when it is never told the name, with an error of the polls after it -/
def neverRunning : String := "mDNS rollback failed: Avahi did not finish registering its hostname"

/-- The errors of a rollback in which every command works and the name is told. -/
def workingErrors (rt : Runtime) (original : String) : List String :=
  if seenName rt (firstLabel original) = original ++ ".local" then []
  else [unexpectedName (seenName rt (firstLabel original))]

/-- **A working rollback** leaves the saved name and its first label, whatever was there before.  It
reports an error when it is never told the name of Avahi, or is told another name. -/
theorem RestoreRun.restores {original : String} {l : List Step} {r : Except Exc (List String)}
    (h : RestoreRun rt original l r) (hev : Evolves w (rollbackEntries l) w') :
    w' = ⟨original, firstLabel original⟩ ∧ (Registered rt l ∧ r = .ok (workingErrors rt original) ∨
      ¬Registered rt l ∧ ∃ detail, r = .ok [neverRunning ++ detail] ∧
        ((∀ s ∈ l, s.legible rt = true) → detail = "")) := by
  -- a command that succeeded has a result
  have hok : ∀ {args exc} {ended : Ended}, ended.Succeeded → ended.result args ≠ .error exc := by
    intro args exc ended hs he
    obtain ⟨out, ho⟩ := (Ended.succeeded_iff args).1 hs
    rw [he] at ho
    cases ho
  cases h with
  | @linuxRaised ended exc he =>
    obtain ⟨w₁, h₁, -⟩ := hev
    obtain ⟨out, ho⟩ := (Ended.succeeded_iff (hostnamectlArgs original)).1
      (restores_linux_iff.1 h₁).1
    rw [ho] at he
    cases he
  | @both ended errors l r he hset =>
    obtain ⟨w₁, h₁, hev⟩ := hev
    obtain ⟨hs, rfl⟩ := restores_linux_iff.1 h₁
    obtain ⟨out, ho⟩ := (Ended.succeeded_iff (hostnamectlArgs original)).1 hs
    rw [ho] at he
    cases he
    cases hset with
    | failed he' =>
      obtain ⟨w₂, h₂, -⟩ := hev
      exact absurd he' (hok (restores_avahi_iff.1 h₂).1)
    | @polled ended' _ polls _ _ hp =>
      obtain ⟨w₂, h₂, hev⟩ := hev
      obtain ⟨-, rfl⟩ := restores_avahi_iff.1 h₂
      have hreg : Registered rt (.ran (hostnamectlArgs original) ended ::
          .ran (avahiSetArgs original) ended' :: polls) ↔ Registered rt polls := by
        rw [registered_cons_of_ne fun _ h => by simp [hostnamectlArgs, avahiArgs] at h,
          registered_cons_of_ne fun _ h => by simp [avahiSetArgs, avahiArgs] at h]
      obtain ⟨rfl, ⟨hseen, rfl⟩ | ⟨hnot, last, rfl, hlast⟩⟩ := hp.restores hev
      · refine ⟨rfl, .inl ⟨hreg.2 hseen, ?_⟩⟩
        simp only [avahiRollback, restoreOutcome, workingErrors, ne_eq, ite_not]
        split_ifs
        · rfl
        · rfl
      · refine ⟨rfl, .inr ⟨fun h => hnot (hreg.1 h), errorDetail last, ?_, fun hlegible => ?_⟩⟩
        · show Except.ok ["mDNS rollback failed: " ++ (_ ++ errorDetail last)] = _
          rw [← String.append_assoc]
          rfl
        · rw [hlast fun s hs => hlegible s (by simp [hs])]
          rfl

end Rollback

/-! ### Exact restoration -/

section Restoration

theorem firstLabel_eq_self_iff {s : String} : firstLabel s = s ↔ '.' ∉ s.toList := by
  rw [firstLabel, ← String.toList_inj, String.toList_ofList, List.takeWhile_eq_self_iff]
  simp only [ne_eq, decide_not, Bool.not_eq_eq_eq_not, Bool.not_true, decide_eq_false_iff_not]
  exact ⟨fun h hdot => h _ hdot rfl, fun h c hc he => h (he ▸ hc)⟩

theorem rstripDots_local (s : String) : rstripDots (s ++ ".local") = s ++ ".local" := by
  rw [rstripDots, String.toList_append, show ".local".toList = ".loca".toList ++ ['l'] from rfl,
    ← List.append_assoc, List.rdropWhile_concat_neg _ _ _ (by decide), List.append_assoc,
    String.ofList_append, String.ofList_toList]
  rfl

/-- A lower-case name without a dot is seen as itself. -/
theorem seenName_firstLabel_iff {s : String} (hs : rt.lower s = s) :
    seenName rt (firstLabel s) = s ++ ".local" ↔ '.' ∉ s.toList := by
  have hfirst : rt.lower (firstLabel s) = firstLabel s := by
    rw [Unicode.lower_eq_self_iff] at hs ⊢
    rw [firstLabel, String.toList_ofList]
    exact fun c hc => hs c ((List.takeWhile_prefix _).subset hc)
  have hlocal : rt.lower ".local" = ".local" := Unicode.lower_ascii (by decide)
  rw [seenName, rstripDots_local, Unicode.lower_append hfirst hlocal, ← firstLabel_eq_self_iff,
    String.append_left_inj]

/-- Reading the name changes nothing, and what is saved is its trimmed lower case. -/
theorem Effect.read_eq {ended : Ended} (h : Effect w (.ran ["/usr/bin/hostname"] ended) w') :
    w' = w ∧ ∀ original, readOutcome rt (ended.result ["/usr/bin/hostname"]) = .ok original →
      original = rt.lower (strip w.linux) := by
  generalize hstep : Step.ran ["/usr/bin/hostname"] ended = s at h
  cases h with
  | read hprint =>
    cases hstep
    refine ⟨rfl, fun original hread => ?_⟩
    obtain ⟨out, hr, rfl⟩ := readOutcome_eq_ok_iff.1 hread
    obtain ⟨completed, rfl, hrc, rfl⟩ := result_eq_ok_iff.1 hr
    rw [Completed.output, hprint completed rfl hrc, strip_strip, strip_append_newline]
  | linux _ _ | avahi | state | fqdn _ | slept =>
    simp [hostnamectlArgs, avahiSetArgs, avahiArgs] at hstep

/-- The error says that the original hostname was restored. -/
def SaysRestored (exc : Exc) : Prop :=
  ∃ what cause, (what = linuxFailed ∨ what = publishFailed) ∧
    exc = .validation (failedMessage what cause [])

/-- The name could be read. -/
def WasRead (l : List Step) : Prop :=
  ∃ ended rest, l = .ran ["/usr/bin/hostname"] ended :: rest ∧ ended.Succeeded

/-- A message about a rollback with an error whose last letter is another does not say that the
original was restored. -/
theorem not_saysRestored_of_last {what error : String} {cause : Exc} {c : Char}
    (hlast : error.toList.getLast? = some c) (hc : c ≠ 'd') :
    ¬SaysRestored (.validation (failedMessage what cause [error])) := by
  rintro ⟨what', cause', -, heq⟩
  have hrestored : (rollbackStatus []).toList.getLast? = some 'd' := rfl
  have herror : (rollbackStatus [error]).toList.getLast? = some c := hlast
  have htext := congrArg (fun exc : Exc => exc.text.toList.getLast?) heq
  simp only [Exc.text, Exc.validation, failedMessage, getLast?_append_of_eq_some hrestored,
    getLast?_append_of_eq_some herror] at htext
  exact hc (Option.some.inj htext)

theorem not_saysRestored_neverRunning {what : String} {cause : Exc} :
    ¬SaysRestored (.validation (failedMessage what cause [neverRunning])) := by
  have hlast : neverRunning.toList.getLast? = some 'e' := by simp [neverRunning]
  exact not_saysRestored_of_last hlast (by decide)

/-- The message about a rollback that has seen Avahi running -/
theorem saysRestored_iff {what original : String} {cause : Exc}
    (hwhat : what = linuxFailed ∨ what = publishFailed) (ho : rt.lower original = original) :
    SaysRestored (.validation (failedMessage what cause (workingErrors rt original))) ↔
      '.' ∉ original.toList := by
  rw [← seenName_firstLabel_iff ho, workingErrors]
  split_ifs with h
  · exact iff_of_true ⟨what, cause, hwhat, rfl⟩ h
  · have hlast : (unexpectedName (seenName rt (firstLabel original))).toList.getLast? = some 'l' := by
      obtain ⟨u, hu⟩ := Unicode.lower_append_ascii (U := rt.toUnicode) (firstLabel original)
        (t := ".local") (by decide)
      unfold unexpectedName
      rw [seenName, rstripDots_local, hu]
      exact getLast?_append_of_eq_some (getLast?_append_of_eq_some rfl)
    exact iff_of_false (not_saysRestored_of_last hlast (by decide)) h

theorem not_saysRestored_readFailed {detail : String} :
    ¬SaysRestored (.validation (readFailed ++ detail)) := by
  rintro ⟨what, cause, hwhat, heq⟩
  have htext := congrArg (fun exc : Exc => exc.text.toList.take 11) heq
  simp only [Exc.text, Exc.validation, failedMessage, String.append_assoc,
    String.toList_append] at htext
  rcases hwhat with rfl | rfl <;>
  · rw [List.take_append_of_le_length (by decide), List.take_append_of_le_length (by decide)]
      at htext
    exact absurd htext (by decide)

/-- The steps before a rollback, and the rollback. -/
theorem entries_append {pre l : List Step} (h : rollbackPart (pre ++ l) = l) :
    entries (pre ++ l) = pre.map (⟨false, ·⟩) ++ rollbackEntries l := by
  rw [entries, h, List.length_append, Nat.add_sub_cancel, List.take_left']
  · rfl
  · rfl

/-- A name that a working rollback reproduces on both sides, and says so. -/
structure Plain (rt : Runtime) (w : World) : Prop where
  normal : rt.lower (strip w.linux) = w.linux
  single : '.' ∉ w.linux.toList
  same : w.avahi = w.linux

/-- The saved name and its first label are the two names again when they were plain. -/
theorem restored_iff {original : String} (ho : original = rt.lower (strip w.linux)) :
    ((⟨original, firstLabel original⟩ : World) = w ∧ '.' ∉ original.toList) ↔ Plain rt w := by
  constructor
  · rintro ⟨hw, hdot⟩
    obtain ⟨linux, avahi⟩ := w
    obtain ⟨rfl, havahi⟩ := World.mk.inj hw
    exact ⟨ho.symm, hdot, by rw [← havahi, firstLabel_eq_self_iff.2 hdot]⟩
  · rintro ⟨hnormal, hdot, hsame⟩
    rw [hnormal] at ho
    subst ho
    refine ⟨?_, hdot⟩
    rw [firstLabel_eq_self_iff.2 hdot]
    exact congrArg (World.mk w.linux) hsame.symm

theorem RestoreRun.exact_iff {original what : String} {cause exc : Exc} {read : Ended}
    {pre l : List Step} {r : Except Exc (List String)} (h : RestoreRun rt original l r)
    (hwhat : what = linuxFailed ∨ what = publishFailed)
    (hpart : rollbackPart (.ran ["/usr/bin/hostname"] read :: pre ++ l) = l)
    (hread : readOutcome rt (read.result ["/usr/bin/hostname"]) = .ok original)
    (hev : Evolves w (entries (.ran ["/usr/bin/hostname"] read :: pre ++ l)) w')
    (hexc : (rolledBack what cause r : Except Exc HostnameResult) = .error exc)
    (hlegible : ∀ s ∈ l, s.legible rt = true) :
    (w' = w ∧ SaysRestored exc) ↔ Plain rt w ∧ Registered rt l := by
  rw [entries_append hpart, evolves_append] at hev
  obtain ⟨w₁, ⟨w₀, hfirst, -⟩, hrest⟩ := hev
  obtain ⟨-, horiginal⟩ := Effect.read_eq hfirst
  have ho := horiginal original hread
  have hlower : rt.lower original = original := by rw [ho, Unicode.lower_lower]
  obtain ⟨rfl, ⟨hreg, rfl⟩ | ⟨hnot, detail, rfl, hdetail⟩⟩ := h.restores hrest
  · cases hexc
    rw [saysRestored_iff hwhat hlower, and_iff_left hreg]
    exact restored_iff ho
  · rw [hdetail hlegible, String.append_empty] at hexc
    cases hexc
    exact iff_of_false (fun h => not_saysRestored_neverRunning h.2) fun h => hnot h.2

theorem ChangeRun.exact_iff {requested original : String} {exc : Exc} {read : Ended}
    {l : List Step} {r : Except Exc HostnameResult} (h : ChangeRun rt requested original l r)
    (hr : r = .error exc)
    (hread : readOutcome rt (read.result ["/usr/bin/hostname"]) = .ok original)
    (hcaught : ∀ s ∈ l, s.escapes = false)
    (hev : Evolves w (entries (.ran ["/usr/bin/hostname"] read :: l)) w')
    (hlegible : ∀ s ∈ rollbackPart (.ran ["/usr/bin/hostname"] read :: l), s.legible rt = true) :
    (w' = w ∧ SaysRestored exc) ↔
      Plain rt w ∧ Registered rt (rollbackPart (.ran ["/usr/bin/hostname"] read :: l)) := by
  obtain ⟨what, cause, mid, l', r', hwhat, rfl, hpart, hrestore, hexc⟩ :=
    h.ends_with_rollback hr hcaught read
  rw [hpart] at hlegible ⊢
  exact hrestore.exact_iff hwhat hpart hread hev hexc hlegible

/-- **Exact restoration.**  When every exception of a request is of a kind that it catches and the
commands of its rollback work, with answers that can be read, both names are what they were and the
error says so exactly when the name could be read, is a plain name that both sides had, and Avahi is
seen running in time. -/
theorem exactRestoration_iff {fuel : ℕ} {params : Dict} {tr : List (Event Reply Exc)} {exc : Exc}
    (hp : Path (hostnameSet rt fuel params) tr (.done (.error exc)))
    (hcaught : ∀ s ∈ steps tr, s.escapes = false)
    (hev : Evolves w (entries (steps tr)) w')
    (hlegible : ∀ s ∈ rollbackPart (steps tr), s.legible rt = true) :
    (w' = w ∧ SaysRestored exc) ↔
      WasRead (steps tr) ∧ Plain rt w ∧ Registered rt (rollbackPart (steps tr)) := by
  have hrun := hostnameSet_run hp
  generalize steps tr = l at hrun hcaught hev hlegible
  cases hrun with
  | invalid hv =>
    refine iff_of_false ?_ fun ⟨⟨_, _, h, _⟩, _⟩ => (nomatch h)
    rintro ⟨-, what, cause, -, rfl⟩
    unfold HostnameSetRequest.validate at hv
    split at hv <;> cases hv
  | @unread request ended exc hv he =>
    have hfailed : ¬ended.Succeeded := fun hs => by
      obtain ⟨out, ho⟩ := (Ended.succeeded_iff ["/usr/bin/hostname"]).1 hs
      rw [ho] at he
      cases he
    refine iff_of_false (fun ⟨_, h⟩ => ?_) fun ⟨⟨_, _, h, hs⟩, _⟩ => ?_
    · have hesc := hcaught _ (List.mem_singleton_self _)
      cases hr : ended.result ["/usr/bin/hostname"] with
      | ok out => exact hfailed ((Ended.succeeded_iff _).2 ⟨out, hr⟩)
      | error exc' =>
        rw [Step.escapes_of_error hr] at hesc
        have hc : isCommandError exc' = true := by simpa [Step.handled] using hesc
        rw [hr, readOutcome, if_pos hc] at he
        cases he
        exact not_saysRestored_readFailed h
    · cases h
      exact hfailed hs
  | @change request ended original l r hv he hchange =>
    have hread : WasRead (.ran ["/usr/bin/hostname"] ended :: l) := by
      obtain ⟨out, hr, -⟩ := readOutcome_eq_ok_iff.1 he
      exact ⟨ended, l, rfl, (Ended.succeeded_iff _).2 ⟨out, hr⟩⟩
    rw [and_iff_right hread]
    exact hchange.exact_iff rfl he (fun s hs => hcaught s (List.mem_cons_of_mem _ hs)) hev hlegible

theorem effect_read {linux avahi line : String}
    (h : decodeReplace (line.toList.map fun c => UInt8.ofNat c.toNat) = linux ++ "\n") :
    Effect ⟨linux, avahi⟩ (.ran ["/usr/bin/hostname"] (printed line)) ⟨linux, avahi⟩ := by
  refine .read fun completed he _ => ?_
  cases he
  exact h

theorem effect_fqdn {line : String} (h : shlexSplit
    (Completed.output ⟨0, line.toList.map fun c => UInt8.ofNat c.toNat, []⟩) =
      .ok ["s", w.avahi ++ ".local"]) :
    Effect w (.ran (avahiArgs "GetHostNameFqdn") (printed line)) w := by
  refine .fqdn fun completed name he _ hn => ?_
  cases he
  rw [h] at hn
  cases hn
  rfl

theorem restores_fqdn {line : String} (h : shlexSplit
    (Completed.output ⟨0, line.toList.map fun c => UInt8.ofNat c.toNat, []⟩) =
      .ok ["s", w.avahi ++ ".local"]) :
    Restores w (.ran (avahiArgs "GetHostNameFqdn") (printed line)) w := by
  refine .fqdn rfl fun name hn => ?_
  rw [h] at hn
  cases hn
  rfl

/-- The old name is read as `line`, both names are set, and Avahi reports a collision; then both
commands of the rollback succeed, and Avahi registers its name again before it runs. -/
def slowEnds (line : String) : List Ended :=
  [printed line, printed "", printed "", printed "i 2", printed "s \"new-2.local\"",
    printed "", printed "", printed "i 1", printed "i 2", printed "s \"old.local\""]

/-- The steps of a change to `new` that ends in a collision and a working rollback to `old`. -/
def slowSteps (line : String) : List Step :=
  [.ran ["/usr/bin/hostname"] (printed line), .ran (hostnamectlArgs "new") (printed ""),
    .ran (avahiSetArgs "new") (printed ""), .ran (avahiArgs "GetState") (printed "i 2"),
    .ran (avahiArgs "GetHostNameFqdn") (printed "s \"new-2.local\""),
    .ran (hostnamectlArgs "old") (printed ""), .ran (avahiSetArgs "old") (printed ""),
    .ran (avahiArgs "GetState") (printed "i 1"), .slept (.ok ()),
    .ran (avahiArgs "GetState") (printed "i 2"),
    .ran (avahiArgs "GetHostNameFqdn") (printed "s \"old.local\"")]

theorem evolves_slow {linux avahi line : String}
    (hline : Effect ⟨linux, avahi⟩ (.ran ["/usr/bin/hostname"] (printed line)) ⟨linux, avahi⟩) :
    Evolves ⟨linux, avahi⟩ (entries (slowSteps line)) ⟨"old", "old"⟩ := by
  refine ⟨_, hline, _, .linux (fun _ => rfl) (.inr rfl), _, @Effect.avahi _ _ "new-2" _, _, .state, _,
    effect_fqdn rfl, _, .linux rfl, _, .avahi rfl, _, @Restores.state _ (printed "i 1") rfl, _, .slept, _,
    @Restores.state _ (printed "i 2") rfl, _, restores_fqdn rfl, rfl⟩

theorem slow_old :
    (scripted (slowEnds "old\n") (hostnameSet .ascii 2 newParams)).2 = some (.error collisionError) ∧
      steps (scripted (slowEnds "old\n") (hostnameSet .ascii 2 newParams)).1 = slowSteps "old\n" := by
  decide +kernel

theorem slow_mixed :
    (scripted (slowEnds "Old\n") (hostnameSet .ascii 2 newParams)).2 = some (.error collisionError) ∧
      steps (scripted (slowEnds "Old\n") (hostnameSet .ascii 2 newParams)).1 = slowSteps "Old\n" := by
  decide +kernel

theorem exactRestoration_old :
    ∃ tr, ((⟨"old", "old"⟩ : World) = ⟨"old", "old"⟩ ∧ SaysRestored collisionError) ↔
      WasRead (steps tr) ∧ Plain .ascii ⟨"old", "old"⟩ ∧
        Registered .ascii (rollbackPart (steps tr)) := by
  refine ⟨_, exactRestoration_iff (path_of_scripted slow_old.1) ?_ ?_ ?_⟩
  · rw [slow_old.2]
    decide
  · rw [slow_old.2]
    exact evolves_slow (effect_read rfl)
  · rw [slow_old.2]
    decide +kernel

/-- The rollback of a name in mixed case succeeds, says that the original name was restored, and
leaves both names in lower case. -/
theorem mixedCase_not_restored :
    ∃ tr, Path (hostnameSet .ascii 2 newParams) tr (.done (.error collisionError)) ∧
      (∀ s ∈ steps tr, s.escapes = false) ∧
      Evolves ⟨"Old", "Old"⟩ (entries (steps tr)) ⟨"old", "old"⟩ ∧
      Registered .ascii (rollbackPart (steps tr)) ∧
      (⟨"old", "old"⟩ : World) ≠ ⟨"Old", "Old"⟩ := by
  refine ⟨_, path_of_scripted slow_mixed.1, ?_⟩
  rw [slow_mixed.2]
  exact ⟨by decide, evolves_slow (effect_read rfl), ⟨printed "s \"old.local\"", "old.local", by decide, by decide +kernel⟩, by decide⟩

end Restoration

end ApplianceAdmin.System
