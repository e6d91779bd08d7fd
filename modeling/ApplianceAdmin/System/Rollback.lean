import ApplianceAdmin.System.Steps

/-!
# When a failed hostname change is rolled back

The rollback of a request is the part of its steps from the second `hostnamectl` on.  A step
escapes when it ends with an exception that no `except` clause around it names.  For a request that
fails after the original name has been read, `fullRollback_iff` says when both restoration commands
have been attempted to their end: exactly when no step escapes before the second of them, and that
one is not cut short by a cancellation.
-/

namespace ApplianceAdmin.System

open Async Async.Prog Python

/-! ### Positions in a list of steps -/

/-- `P` holds of every step together with the steps before it. -/
def AtEach (P : List Step → Step → Prop) (l : List Step) : Prop :=
  ∀ pre s post, l = pre ++ s :: post → P pre s

variable {P : List Step → Step → Prop} {l l' : List Step} {s : Step}

@[simp] theorem atEach_nil : AtEach P [] := by
  intro pre s post h
  simp at h

theorem atEach_cons : AtEach P (s :: l) ↔ P [] s ∧ AtEach (fun pre => P (s :: pre)) l := by
  refine ⟨fun h => ⟨h [] s l rfl, fun pre s' post he => h (s :: pre) s' post (by simp [he])⟩, ?_⟩
  rintro ⟨h₁, h₂⟩ (_ | ⟨s', pre⟩) s'' post he
  · cases he; exact h₁
  · cases he; exact h₂ pre s'' post rfl

theorem atEach_append :
    AtEach P (l ++ l') ↔ AtEach P l ∧ AtEach (fun pre => P (l ++ pre)) l' := by
  induction l generalizing P with
  | nil => simp
  | cons s l ih => simp only [List.cons_append, atEach_cons, ih, and_assoc]

theorem AtEach.of_forall (h : ∀ s ∈ l, ∀ pre, P pre s) : AtEach P l := by
  rintro pre s post rfl
  exact h s (by simp) pre

/-! ### Rollback and escape -/

namespace Step

/-- A run of `hostnamectl`. -/
def isCtl : Step → Bool
  | .ran argv _ => argv.head? = some "/usr/bin/hostnamectl"
  | .slept _ => false

/-- A step of the polling loop. -/
def isPoll : Step → Bool
  | .ran argv _ => argv.head? = some "/usr/bin/busctl"
  | .slept _ => true

/-- Does an `except` clause around the command name the exception? -/
def handled (argv : List String) (exc : Exc) : Bool :=
  if argv.head? = some "/usr/bin/hostnamectl" ∨ argv.head? = some "/usr/bin/hostname" then
    isCommandError exc
  else if argv.head? = some "/usr/bin/busctl" then isTransient exc || isPublishError exc
  else isPublishError exc

/-- The step ends with an exception that no `except` clause around it names. -/
def escapes : Step → Bool
  | .ran argv ended =>
      match ended.result argv with
      | .ok _ => false
      | .error exc => !handled argv exc
  | .slept (.ok _) => false
  | .slept (.error exc) => !isPublishError exc

/-- The step is cut short by a cancellation. -/
def cut : Step → Bool
  | .ran _ (.notStarted .cancelled) => true
  | .ran _ (.stopped .cancelled) => true
  | .slept (.error .cancelled) => true
  | _ => false

theorem escapes_of_cut {s : Step} (h : s.cut = true) : s.escapes = true := by
  have hh : ∀ argv, handled argv .cancelled = false := fun argv => by
    unfold handled
    split_ifs <;> rfl
  unfold cut at h
  split at h
  · simp [escapes, Ended.result, Exc.isFileNotFound, hh]
  · simp [escapes, Ended.result, hh]
  · rfl
  · cases h

theorem escapes_eq_false_of_ok {argv : List String} {ended : Ended} {out : String}
    (h : ended.result argv = .ok out) : (ran argv ended).escapes = false := by
  simp [escapes, h]

theorem escapes_of_error {argv : List String} {ended : Ended} {exc : Exc}
    (h : ended.result argv = .error exc) : (ran argv ended).escapes = !handled argv exc := by
  simp [escapes, h]

theorem handled_avahi (method : String) (exc : Exc) :
    handled (avahiArgs method) exc = (isTransient exc || isPublishError exc) := by
  simp [handled, avahiArgs]

theorem handled_ctl (hostname : String) (exc : Exc) :
    handled (hostnamectlArgs hostname) exc = isCommandError exc := by
  simp [handled, hostnamectlArgs]

theorem handled_avahiSet (hostname : String) (exc : Exc) :
    handled (avahiSetArgs hostname) exc = isPublishError exc := by
  simp [handled, avahiSetArgs]

end Step

/-- The steps from the first `hostnamectl` on. -/
def fromCtl (l : List Step) : List Step := l.dropWhile fun s => !s.isCtl

/-- The steps of the rollback: those from the second `hostnamectl` on. -/
def rollbackPart (l : List Step) : List Step := fromCtl (fromCtl l).tail

/-- Both restoration commands for the name `original` have been attempted to their end. -/
def FullRollback (original : String) (l : List Step) : Prop :=
  ∃ ended ended' l', rollbackPart l =
      .ran (hostnamectlArgs original) ended :: .ran (avahiSetArgs original) ended' :: l' ∧
    (Step.ran (hostnamectlArgs original) ended).cut = false ∧
    (Step.ran (avahiSetArgs original) ended').cut = false

/-- After the steps `pre`, the step `s` does not escape, or it does not keep the second restoration
command from being attempted: it comes after it, or it is that command and not cut short. -/
def Tolerated (pre : List Step) (s : Step) : Prop :=
  s.escapes = true →
    2 ≤ (rollbackPart pre).length ∨ ((rollbackPart pre).length = 1 ∧ s.cut = false)

/-- No step escapes before the second restoration command, and no cancellation cuts that one
short. -/
def Undisturbed : List Step → Prop := AtEach Tolerated

theorem tolerated_of_not {pre : List Step} (h : s.escapes = false) : Tolerated pre s :=
  fun he => by simp [h] at he

theorem fromCtl_append_of_not (h : ∀ s ∈ l, s.isCtl = false) : fromCtl (l ++ l') = fromCtl l' := by
  rw [fromCtl, List.dropWhile_append, if_pos]
  · rfl
  · rw [List.isEmpty_iff, List.dropWhile_eq_nil_iff]
    exact fun s hs => by simp [h s hs]

theorem fromCtl_of_not (h : ∀ s ∈ l, s.isCtl = false) : fromCtl l = [] := by
  simpa [fromCtl] using @fromCtl_append_of_not l [] h

theorem fromCtl_cons_of_ctl (h : s.isCtl = true) : fromCtl (s :: l) = s :: l := by
  rw [fromCtl, List.dropWhile_cons_of_neg (by simp [h])]

/-- The rollback part of a request whose first step is not `hostnamectl` and whose second is. -/
theorem rollbackPart_cons_cons {s' : Step} (hs : s.isCtl = false) (hs' : s'.isCtl = true) :
    rollbackPart (s :: s' :: l) = fromCtl l := by
  rw [rollbackPart, ← List.singleton_append, fromCtl_append_of_not (by simpa using hs),
    fromCtl_cons_of_ctl hs', List.tail_cons]

theorem fromCtl_append :
    fromCtl (l ++ l') = if (fromCtl l).isEmpty then fromCtl l' else fromCtl l ++ l' :=
  List.dropWhile_append

/-- A rollback that has not begun had not begun earlier. -/
theorem rollbackPart_eq_nil_of_append (h : rollbackPart (l ++ l') = []) : rollbackPart l = [] := by
  unfold rollbackPart at h ⊢
  rw [fromCtl_append] at h
  split_ifs at h with hl
  · rw [List.isEmpty_iff.1 hl]
    rfl
  · rw [List.tail_append_of_ne_nil (by simpa using hl), fromCtl_append] at h
    split_ifs at h with ht
    · exact List.isEmpty_iff.1 ht
    · exact (List.append_eq_nil_iff.1 h).1

/-! ### The steps of the polling loop -/

section Polling

variable {rt : Runtime} {hostname : String}

theorem AttemptRun.isPoll {r : Except Exc (Option String)} (h : AttemptRun rt l r) :
    ∀ s ∈ l, s.isPoll = true := by
  cases h <;> simp [Step.isPoll, avahiArgs]

theorem PollRun.isPoll {last : Option Exc} {r : Except Exc String} (h : PollRun rt last l r) :
    ∀ s ∈ l, s.isPoll = true := by
  induction h with
  | found ha => exact ha.isPoll
  | raised ha _ => exact ha.isPoll
  | expired ha _ => exact ha.isPoll
  | woken ha _ =>
    intro s hs
    rcases List.mem_append.1 hs with hs | hs
    · exact ha.isPoll s hs
    · rw [List.mem_singleton.1 hs]; rfl
  | again ha _ _ ih =>
    intro s hs
    rcases List.mem_append.1 hs with hs | hs
    · exact ha.isPoll s hs
    · rcases List.mem_cons.1 hs with rfl | hs
      · rfl
      · exact ih s hs

theorem Step.isCtl_of_isPoll (h : s.isPoll = true) : s.isCtl = false := by
  cases s with
  | ran argv ended =>
    simp only [Step.isPoll, decide_eq_true_eq] at h
    simp [Step.isCtl, h]
  | slept r => rfl

theorem SetRun.isCtl {r : Except Exc String} (h : SetRun rt hostname l r) :
    ∀ s ∈ l, s.isCtl = false := by
  cases h with
  | failed _ => simp [Step.isCtl, avahiSetArgs]
  | polled _ hp =>
    intro s hs
    rcases List.mem_cons.1 hs with rfl | hs
    · rfl
    · exact Step.isCtl_of_isPoll (hp.isPoll s hs)

/-! #### What the parsers raise -/

theorem isTransient_of_split {text : String} {exc : Exc} (h : split text = .error exc) :
    isTransient exc = true := by
  unfold split at h
  cases hs : shlexSplit text <;> rw [hs] at h <;> cases h
  rfl

theorem isTransient_of_parseState {reply : String} {exc : Exc}
    (h : parseState rt reply = .error exc) : isTransient exc = true := by
  unfold parseState at h
  cases hs : split reply with
  | error exc' => rw [hs] at h; cases h; exact isTransient_of_split hs
  | ok parts =>
    rw [hs] at h
    change lastInt rt parts = _ at h
    unfold lastInt Value.intOfText at h
    split at h
    · cases h
    · split at h <;> cases h
      rfl

theorem isTransient_of_parseFqdn {reply : String} {exc : Exc}
    (h : parseFqdn rt reply = .error exc) : isTransient exc = true := by
  unfold parseFqdn at h
  cases hs : split reply with
  | error exc' => rw [hs] at h; cases h; exact isTransient_of_split hs
  | ok parts => rw [hs] at h; cases h

/-- A query to Avahi whose reply is parsed raises what no clause names exactly when its step
escapes. -/
theorem escapes_avahi_iff {β : Type} {method : String} {ended : Ended} {f : String → Except Exc β}
    (hf : ∀ {reply exc}, f reply = .error exc → isTransient exc = true) :
    (Step.ran (avahiArgs method) ended).escapes = true ↔
      ∃ exc, ended.result (avahiArgs method) >>= f = .error exc ∧ isTransient exc = false ∧
        isPublishError exc = false := by
  cases hr : ended.result (avahiArgs method) with
  | error exc =>
    rw [Step.escapes_of_error hr, Step.handled_avahi]
    refine ⟨fun h => ⟨exc, rfl, by simpa using h⟩, ?_⟩
    rintro ⟨exc', he, h⟩
    cases he
    simpa using h
  | ok reply =>
    rw [Step.escapes_eq_false_of_ok hr]
    refine ⟨fun h => (Bool.false_ne_true h).elim, ?_⟩
    rintro ⟨exc, he, ht, -⟩
    rw [hf he] at ht
    cases ht

/-- The exception of a round that no clause names comes from a step that escapes; otherwise none
of its steps does. -/
theorem AttemptRun.escapes_iff {r : Except Exc (Option String)} (h : AttemptRun rt l r) :
    (∃ s ∈ l, s.escapes = true) ↔
      ∃ exc, r = .error exc ∧ isTransient exc = false ∧ isPublishError exc = false := by
  -- a state that was read
  have hread : ∀ {ended : Ended} {state : ℤ},
      ended.result (avahiArgs "GetState") >>= parseState rt = .ok state →
      (Step.ran (avahiArgs "GetState") ended).escapes = false := by
    intro ended state he
    rw [Bool.eq_false_iff, Ne, escapes_avahi_iff isTransient_of_parseState, he]
    rintro ⟨exc, h, -⟩
    cases h
  cases h with
  | @failed ended exc he =>
    have hesc := @escapes_avahi_iff _ "GetState" ended (parseState rt) isTransient_of_parseState
    rw [he] at hesc
    simpa using hesc
  | notRunning he _ => simp [hread he]
  | running he => simpa [hread he] using escapes_avahi_iff isTransient_of_parseFqdn

/-- A round that is missed has no step that escapes. -/
theorem AttemptRun.not_escapes {r : Except Exc (Option String)} (h : AttemptRun rt l r)
    (hm : ∀ exc, r = .error exc → isTransient exc = true) : ∀ s ∈ l, s.escapes = false := by
  intro s hs
  rw [Bool.eq_false_iff]
  intro he
  obtain ⟨exc, hr, ht, -⟩ := h.escapes_iff.1 ⟨s, hs, he⟩
  rw [hm exc hr] at ht
  cases ht

theorem Missed.isTransient {r : Except Exc (Option String)} (h : Missed r) (exc : Exc)
    (he : r = .error exc) : isTransient exc = true := by
  subst he
  exact h

/-- The exception of the loop that no clause names comes from a step that escapes. -/
theorem PollRun.escapes_iff {last : Option Exc} {r : Except Exc String}
    (h : PollRun rt last l r) :
    (∃ s ∈ l, s.escapes = true) ↔ ∃ exc, r = .error exc ∧ isPublishError exc = false := by
  -- steps without an escape in front of others
  have hskip : ∀ {l l' : List Step}, (∀ s ∈ l, s.escapes = false) →
      ((∃ s ∈ l ++ l', s.escapes = true) ↔ ∃ s ∈ l', s.escapes = true) := by
    intro l l' hl
    refine ⟨?_, fun ⟨s, hs, he⟩ => ⟨s, List.mem_append_right l hs, he⟩⟩
    rintro ⟨s, hs, he⟩
    rcases List.mem_append.1 hs with hs | hs
    · rw [hl s hs] at he
      cases he
    · exact ⟨s, hs, he⟩
  induction h with
  | found ha => simpa using ha.escapes_iff
  | raised ha ht => simpa [ht] using ha.escapes_iff
  | expired ha hm =>
    have hno := @hskip _ [] (ha.not_escapes hm.isTransient)
    rw [List.append_nil] at hno
    simp [hno, isPublishError, Exc.isValidation, Exc.isAdmin, Exc.validation]
  | woken ha hm => rw [hskip (ha.not_escapes hm.isTransient)]; simp [Step.escapes]
  | again ha hm _ ih =>
    rw [hskip (ha.not_escapes hm.isTransient), ← List.singleton_append,
      hskip (by simp [Step.escapes])]
    exact ih

/-- The exception of `avahi-set-host-name` or of the loop after it that no clause names comes from
a step that escapes. -/
theorem SetRun.escapes_iff {r : Except Exc String} (h : SetRun rt hostname l r) :
    (∃ s ∈ l, s.escapes = true) ↔ ∃ exc, r = .error exc ∧ isPublishError exc = false := by
  cases h with
  | failed he => simp [Step.escapes_of_error he, Step.handled_avahiSet]
  | polled ho hp => simpa [Step.escapes_eq_false_of_ok ho] using hp.escapes_iff

theorem SetRun.exists_cons {r : Except Exc String} (h : SetRun rt hostname l r) :
    ∃ ended l', l = .ran (avahiSetArgs hostname) ended :: l' := by
  cases h with
  | failed _ => exact ⟨_, _, rfl⟩
  | polled _ _ => exact ⟨_, _, rfl⟩

/-- An exception of the publication that no clause names comes from its commands. -/
theorem error_of_publishOutcome {r : Except Exc String} {exc : Exc}
    (h : publishOutcome hostname r = .error exc) (hc : isPublishError exc = false) :
    r = .error exc := by
  cases r with
  | error exc' => cases h; rfl
  | ok published =>
    simp only [publishOutcome] at h
    split_ifs at h
    cases h
    cases hc

end Polling

/-! ### The rollback -/

section Rollback

variable {rt : Runtime} {original : String}

theorem escapes_linuxRollback {ended : Ended} :
    (Step.ran (hostnamectlArgs original) ended).escapes = true ↔
      ∃ exc, linuxRollback (ended.result (hostnamectlArgs original)) = .error exc := by
  cases hr : ended.result (hostnamectlArgs original) with
  | ok out => simp [Step.escapes_eq_false_of_ok hr, linuxRollback]
  | error exc =>
    rw [Step.escapes_of_error hr, Step.handled_ctl, linuxRollback]
    split_ifs with hc <;> simp [hc]

/-- A rollback begins with its `hostnamectl`. -/
theorem RestoreRun.fromCtl_eq {r : Except Exc (List String)} (h : RestoreRun rt original l r) :
    fromCtl l = l := by
  cases h <;> exact fromCtl_cons_of_ctl rfl

/-- Behind steps of which none escapes and one is the first `hostnamectl`, the rollback is carried
out in full exactly when it is undisturbed. -/
theorem RestoreRun.full_iff {r : Except Exc (List String)} (h : RestoreRun rt original l r)
    (pre : List Step) (hno : ∀ s ∈ pre, s.escapes = false)
    (hpart : ∀ l', rollbackPart (pre ++ l') = fromCtl l') :
    FullRollback original (pre ++ l) ↔ Undisturbed (pre ++ l) := by
  have hctl : ∀ (ended : Ended) (l' : List Step),
      fromCtl (.ran (hostnamectlArgs original) ended :: l') =
        .ran (hostnamectlArgs original) ended :: l' := fun ended l' => fromCtl_cons_of_ctl rfl
  have hpre : rollbackPart pre = [] := by simpa [fromCtl] using hpart []
  have hquiet : AtEach Tolerated pre := .of_forall fun s hs _ => tolerated_of_not (hno s hs)
  rw [FullRollback, Undisturbed, atEach_append, and_iff_right hquiet, hpart]
  cases h with
  | @linuxRaised ended exc he =>
    have hesc := escapes_linuxRollback.2 ⟨exc, he⟩
    simp [hctl, atEach_cons, Tolerated, hpre, hesc]
  | @both ended errors l r he hset =>
    have hesc : (Step.ran (hostnamectlArgs original) ended).escapes = false := by
      rw [Bool.eq_false_iff, Ne, escapes_linuxRollback, he]
      rintro ⟨exc, h⟩
      cases h
    have hcut : (Step.ran (hostnamectlArgs original) ended).cut = false :=
      Bool.eq_false_iff.2 fun h => by simp [Step.escapes_of_cut h] at hesc
    obtain ⟨ended', l', rfl⟩ := hset.exists_cons
    -- what follows the second command disturbs nothing any more
    have hlate : AtEach (fun pre' => Tolerated (pre ++ .ran (hostnamectlArgs original) ended ::
        .ran (avahiSetArgs original) ended' :: pre')) l' :=
      .of_forall fun s _ pre' _ => .inl (by simp [hpart, hctl])
    have hsecond : Tolerated (pre ++ [.ran (hostnamectlArgs original) ended])
        (.ran (avahiSetArgs original) ended') ↔
          (Step.ran (avahiSetArgs original) ended').cut = false := by
      simp only [Tolerated, hpart, hctl, List.length_singleton, true_and]
      refine ⟨fun h => ?_, fun h _ => .inr h⟩
      refine Bool.eq_false_iff.2 fun hc => ?_
      simpa [hc] using h (Step.escapes_of_cut hc)
    rw [hctl, atEach_cons, atEach_cons, and_iff_right (tolerated_of_not hesc), hsecond,
      and_iff_left hlate]
    refine ⟨?_, fun h => ⟨ended, ended', l', rfl, hcut, h⟩⟩
    rintro ⟨e, e', l'', he, -, h⟩
    cases he
    exact h

/-- Without a rollback, an escape is what both sides exclude. -/
theorem full_iff_of_escapes (hesc : ∃ s ∈ l, s.escapes = true) (hpart : rollbackPart l = []) :
    FullRollback original l ↔ Undisturbed l := by
  refine ⟨fun ⟨_, _, _, he, _⟩ => by simp [hpart] at he, fun h => ?_⟩
  obtain ⟨s, hs, he⟩ := hesc
  obtain ⟨pre, post, rfl⟩ := List.append_of_mem hs
  have := h pre s post rfl he
  rw [rollbackPart_eq_nil_of_append hpart] at this
  simp at this

/-- The change after a read that does not escape. -/
theorem ChangeRun.full_iff {requested : String} {exc : Exc} {ended₀ : Ended}
    {r : Except Exc HostnameResult} (h : ChangeRun rt requested original l r)
    (hr : r = .error exc) (hread : (Step.ran ["/usr/bin/hostname"] ended₀).escapes = false) :
    FullRollback original (.ran ["/usr/bin/hostname"] ended₀ :: l) ↔
      Undisturbed (.ran ["/usr/bin/hostname"] ended₀ :: l) := by
  have hpart : ∀ (ended : Ended) (l : List Step), rollbackPart (.ran ["/usr/bin/hostname"] ended₀ ::
      .ran (hostnamectlArgs requested) ended :: l) = fromCtl l :=
    fun ended l => rollbackPart_cons_cons rfl rfl
  cases h with
  | @linuxRaised ended exc he hc =>
    refine full_iff_of_escapes ⟨.ran (hostnamectlArgs requested) ended, by simp, ?_⟩ ?_
    · rw [Step.escapes_of_error he, Step.handled_ctl, hc]
      rfl
    · rw [hpart]
      rfl
  | @linuxFailed ended exc l r he hc hrestore =>
    have hctl : (Step.ran (hostnamectlArgs requested) ended).escapes = false := by
      rw [Step.escapes_of_error he, Step.handled_ctl, hc]
      rfl
    exact hrestore.full_iff [.ran ["/usr/bin/hostname"] ended₀,
      .ran (hostnamectlArgs requested) ended] (by simp [hread, hctl]) (hpart ended)
  | @publishRaised ended out exc l r ho hset hp hc =>
    refine full_iff_of_escapes ?_ ?_
    · obtain ⟨s, hs, he⟩ := hset.escapes_iff.2 ⟨exc, error_of_publishOutcome hp hc, hc⟩
      exact ⟨s, by simp [hs], he⟩
    · rw [hpart]
      exact fromCtl_of_not hset.isCtl
  | @publishFailed ended out exc l l' r r' ho hset hp hc hrestore =>
    refine hrestore.full_iff (.ran ["/usr/bin/hostname"] ended₀ ::
      .ran (hostnamectlArgs requested) ended :: l) ?_ fun l' => ?_
    · have hquiet : ∀ s ∈ l, s.escapes = false := fun s hs => by
        rw [Bool.eq_false_iff]
        intro he
        obtain ⟨exc', hr, hc'⟩ := hset.escapes_iff.1 ⟨s, hs, he⟩
        rw [hr] at hp
        cases hp
        rw [hc] at hc'
        cases hc'
      simpa [hread, Step.escapes_eq_false_of_ok ho] using hquiet
    · rw [List.cons_append, List.cons_append, hpart, fromCtl_append_of_not hset.isCtl]
  | accepted => cases hr

/-- A change that fails without an escape ends with a rollback, and the rollback decides its error. -/
theorem ChangeRun.ends_with_rollback {requested : String} {exc : Exc}
    {r : Except Exc HostnameResult} (h : ChangeRun rt requested original l r) (hr : r = .error exc)
    (hquiet : ∀ s ∈ l, s.escapes = false) (read : Ended) :
    ∃ what cause mid l' r', (what = System.linuxFailed ∨ what = System.publishFailed) ∧ l = mid ++ l' ∧
      rollbackPart (.ran ["/usr/bin/hostname"] read :: (mid ++ l')) = l' ∧
      RestoreRun rt original l' r' ∧
      (rolledBack what cause r' : Except Exc HostnameResult) = .error exc := by
  have hpart : ∀ (ended : Ended) (l : List Step), rollbackPart (.ran ["/usr/bin/hostname"] read ::
      .ran (hostnamectlArgs requested) ended :: l) = fromCtl l :=
    fun ended l => rollbackPart_cons_cons rfl rfl
  cases h with
  | linuxRaised he hc =>
    have := hquiet _ (List.mem_singleton_self _)
    rw [Step.escapes_of_error he, Step.handled_ctl, hc] at this
    cases this
  | @linuxFailed ended cause l' r' he hc hrestore =>
    exact ⟨_, cause, [.ran (hostnamectlArgs requested) ended], l', r', .inl rfl, rfl,
      (hpart ended l').trans hrestore.fromCtl_eq, hrestore, hr⟩
  | publishRaised ho hset hp hc =>
    obtain ⟨s, hs, he⟩ := hset.escapes_iff.2 ⟨_, error_of_publishOutcome hp hc, hc⟩
    rw [hquiet s (List.mem_cons_of_mem _ hs)] at he
    cases he
  | @publishFailed ended _ cause l l' _ r' ho hset hp hc hrestore =>
    refine ⟨_, cause, .ran (hostnamectlArgs requested) ended :: l, l', r', .inr rfl, rfl, ?_,
      hrestore, hr⟩
    exact ((hpart ended (l ++ l')).trans (fromCtl_append_of_not hset.isCtl)).trans
      hrestore.fromCtl_eq
  | accepted => cases hr

/-- **Full rollback.**  A request that fails after the original name has been read attempts both
restoration commands to their end exactly when its steps are undisturbed. -/
theorem fullRollback_iff {fuel : ℕ} {params : Dict} {tr : List (Event Reply Exc)} {exc : Exc}
    {ended : Ended} {l : List Step}
    (hp : Path (hostnameSet rt fuel params) tr (.done (.error exc)))
    (hsteps : steps tr = .ran ["/usr/bin/hostname"] ended :: l)
    (hread : readOutcome rt (ended.result ["/usr/bin/hostname"]) = .ok original) :
    FullRollback original (steps tr) ↔ Undisturbed (steps tr) := by
  have hrun := hostnameSet_run hp
  rw [hsteps] at hrun ⊢
  -- the read itself does not escape
  have hfirst : (Step.ran ["/usr/bin/hostname"] ended).escapes = false := by
    obtain ⟨out, hr, -⟩ := readOutcome_eq_ok_iff.1 hread
    exact Step.escapes_eq_false_of_ok hr
  cases hrun with
  | unread _ he => rw [hread] at he; cases he
  | change _ he hchange =>
    cases hread.symm.trans he
    exact hchange.full_iff rfl hfirst

/-- A request for the name `new`. -/
def newParams : Dict := [("hostname", .str "new")]

/-- The old name is read as `line`, both names are set, and Avahi reports a collision; then both
commands of the rollback succeed. -/
def collisionEnds (line : String) : List Ended :=
  [printed line, printed "", printed "", printed "i 2", printed "s \"new-2.local\"",
    printed "", printed "", printed "i 2", printed "s \"old.local\""]

theorem fullRollback_collision :
    FullRollback "old" (steps (scripted (collisionEnds "old\n") (hostnameSet .ascii 1 newParams)).1) ↔
      Undisturbed (steps (scripted (collisionEnds "old\n") (hostnameSet .ascii 1 newParams)).1) :=
  fullRollback_iff (path_of_scripted rfl) rfl rfl

def permissionDenied : Exc := .py ⟨.permission, "Permission denied"⟩

/-- The old name is read and replaced, and then `avahi-set-host-name` may not be executed. -/
def forbiddenEnds : List Ended := [printed "old\n", printed "", .notStarted permissionDenied]

/-- An exception that the `except` clauses do not name leaves the new Linux hostname in place. -/
theorem not_fullRollback_forbidden :
    ∃ tr, Path (hostnameSet .ascii 1 newParams) tr (.done (.error permissionDenied)) ∧
      steps tr = [.ran ["/usr/bin/hostname"] (printed "old\n"),
        .ran (hostnamectlArgs "new") (printed ""),
        .ran (avahiSetArgs "new") (.notStarted permissionDenied)] ∧
      ¬FullRollback "old" (steps tr) := by
  refine ⟨(scripted forbiddenEnds (hostnameSet .ascii 1 newParams)).1, path_of_scripted rfl, rfl, ?_⟩
  rintro ⟨ended, ended', l, h, -⟩
  cases h

end Rollback

end ApplianceAdmin.System
