import ApplianceAdmin.System.World

/-!
# Two hostname changes at once

Nothing locks a hostname change, so the steps of two requests may come in any order that keeps the
order within each request.  Both names then carry the name of an accepted request, or are what they
were when none is accepted, provided that the requests do not get in each other's way: their active
parts lie one after the other, no exception escapes, and the names to go back to can be restored.

* `Finished`, `Interleaves`: two complete runs and an order of their entries;
* `active`: the part of a request that matters to the other one;
* `Serialised`, `Separate`: what is wanted of the final names, and when it holds;
* `serialised_of_separate`: the result.
-/

namespace ApplianceAdmin.System

open Async Async.Prog Python

/-! ### The active part of a request -/

/-- The reading of the name. -/
def Step.isRead : Step → Bool
  | .ran argv _ => argv = ["/usr/bin/hostname"]
  | .slept _ => false

/-- An entry of a request with the steps `l` that changes something or is the source of what a
rollback writes: any but the reading of a request that is not rolled back. -/
def active (l : List Step) (e : Entry) : Bool := !(e.step.isRead && (rollbackPart l).isEmpty)

/-- Both sides run under `hostname`. -/
def Carries (rt : Runtime) (hostname : String) (w : World) : Prop :=
  w.linux = hostname ∧ seenName rt w.avahi = hostname ++ ".local"

/-- The names that a working rollback leaves when the request has read its name in `w`. -/
def rollbackOf (rt : Runtime) (w : World) : World :=
  ⟨rt.lower (strip w.linux), firstLabel (rt.lower (strip w.linux))⟩

variable {rt : Runtime} {w w' : World}

/-! ### What the steps do -/

theorem Effect.linux_eq {hostname : String} {ended : Ended}
    (h : Effect w (.ran (hostnamectlArgs hostname) ended) w') :
    w'.avahi = w.avahi ∧ (ended.Succeeded → w'.linux = hostname) := by
  generalize hstep : Step.ran (hostnamectlArgs hostname) ended = s at h
  cases h with
  | linux hs _ => cases hstep; exact ⟨rfl, hs⟩
  | read _ | avahi | state | fqdn _ | slept =>
    simp [hostnamectlArgs, avahiSetArgs, avahiArgs] at hstep

theorem Effect.avahi_eq {hostname : String} {ended : Ended}
    (h : Effect w (.ran (avahiSetArgs hostname) ended) w') : w'.linux = w.linux := by
  generalize hstep : Step.ran (avahiSetArgs hostname) ended = s at h
  cases h with
  | avahi => rfl
  | read _ | linux _ _ | state | fqdn _ | slept =>
    simp [hostnamectlArgs, avahiSetArgs, avahiArgs] at hstep

theorem Effect.poll_eq {s : Step} (h : Effect w s w') (hs : s.isPoll = true) : w' = w := by
  cases h with
  | read _ | linux _ _ | avahi => simp [Step.isPoll, hostnamectlArgs, avahiSetArgs] at hs
  | state | fqdn _ | slept => rfl

/-- Polling leaves the names alone. -/
theorem evolves_polls {l : List Step} (hl : ∀ s ∈ l, s.isPoll = true)
    (h : Evolves w (l.map (⟨false, ·⟩)) w') : w' = w := by
  induction l generalizing w with
  | nil => exact h
  | cons s l ih =>
    obtain ⟨w₁, h₁, h⟩ := h
    obtain rfl := Effect.poll_eq h₁ (hl s (List.mem_cons_self))
    exact ih (fun s hs => hl s (List.mem_cons_of_mem _ hs)) h

theorem Effect.fqdn_eq {completed : Completed} {name : String}
    (h : Effect w (.ran (avahiArgs "GetHostNameFqdn") (.exited completed)) w')
    (hrc : completed.returncode = 0) (hname : shlexSplit completed.output = .ok ["s", name]) :
    name = w.avahi ++ ".local" := by
  generalize hstep : Step.ran (avahiArgs "GetHostNameFqdn") (.exited completed) = s at h
  cases h with
  | fqdn hn => cases hstep; exact hn completed name rfl hrc hname
  | read _ | linux _ _ | avahi | state | slept =>
    simp [hostnamectlArgs, avahiSetArgs, avahiArgs] at hstep

/-- Avahi is observed under the name it has. -/
theorem evolves_observed {l : List Step} {name : String} (hl : ∀ s ∈ l, s.isPoll = true)
    (hobs : Observed rt name l) (h : Evolves w (l.map (⟨false, ·⟩)) w') :
    w' = w ∧ seenName rt w.avahi = name := by
  obtain ⟨before, _, rfl, running, named, words, printedName, rfl, -, -, -, hrc, hprinted, hname⟩ :=
    hobs
  refine ⟨evolves_polls hl h, ?_⟩
  rw [List.map_append, evolves_append] at h
  obtain ⟨w₁, hbefore, w₂, hstate, w₃, hfqdn, -⟩ := h
  obtain rfl := evolves_polls (fun s hs => hl s (List.mem_append_left _ hs)) hbefore
  obtain rfl := Effect.poll_eq hstate rfl
  rw [← hname, Effect.fqdn_eq hfqdn hrc hprinted]
  rfl

/-- A request that sets both names makes the machine carry the name. -/
theorem SetBoth.carries {hostname : String} {l : List Step} (h : SetBoth rt hostname l)
    (hev : Evolves w (l.map (⟨false, ·⟩)) w') : Carries rt hostname w' := by
  obtain ⟨ctl, _, rfl, hctl, avahi, polls, rfl, -, hobs, hpolls⟩ := h
  obtain ⟨w₁, h₁, w₂, h₂, hev⟩ := hev
  obtain ⟨rfl, hseen⟩ := evolves_observed hpolls hobs hev
  exact ⟨(Effect.avahi_eq h₂).trans ((Effect.linux_eq h₁).2 hctl), hseen⟩

/-! ### One request -/

theorem entries_of_rollbackPart_nil {l : List Step} (h : rollbackPart l = []) :
    entries l = l.map (⟨false, ·⟩) := by
  simp [entries, h]

theorem SetBoth.rollbackPart_eq {hostname : String} {read : Ended} {l : List Step}
    (h : SetBoth rt hostname l) :
    rollbackPart (.ran ["/usr/bin/hostname"] read :: l) = [] := by
  obtain ⟨ctl, _, rfl, -, avahi, polls, rfl, -, -, hpolls⟩ := h
  rw [rollbackPart_cons_cons rfl rfl]
  refine fromCtl_of_not fun s hs => ?_
  rcases List.mem_cons.1 hs with rfl | hs
  · rfl
  · exact Step.isCtl_of_isPoll (hpolls s hs)

/-- A working rollback takes the names where the read of its request says. -/
theorem RestoreRun.rollbackOf_eq {original : String} {read : Ended} {mid l : List Step}
    {r : Except Exc (List String)} (h : RestoreRun rt original l r)
    (hpart : rollbackPart (.ran ["/usr/bin/hostname"] read :: (mid ++ l)) = l)
    (hread : readOutcome rt (read.result ["/usr/bin/hostname"]) = .ok original)
    (hev : Evolves w (entries (.ran ["/usr/bin/hostname"] read :: (mid ++ l))) w') :
    w' = rollbackOf rt w := by
  rw [← List.cons_append] at hpart hev
  rw [entries_append hpart, evolves_append] at hev
  obtain ⟨w₁, ⟨w₀, hfirst, -⟩, hrest⟩ := hev
  obtain ⟨rfl, -⟩ := h.restores hrest
  rw [(Effect.read_eq hfirst).2 original hread, rollbackOf]

theorem SetBoth.filter_active {hostname : String} {read : Ended} {l : List Step}
    (h : SetBoth rt hostname l) :
    (entries (.ran ["/usr/bin/hostname"] read :: l)).filter
      (active (.ran ["/usr/bin/hostname"] read :: l)) = l.map (⟨false, ·⟩) := by
  rw [entries_of_rollbackPart_nil h.rollbackPart_eq, List.map_cons, List.filter_cons_of_neg]
  · rw [List.filter_eq_self]
    intro e he
    obtain ⟨s, hs, rfl⟩ := List.mem_map.1 he
    obtain ⟨ctl, _, rfl, -, avahi, polls, rfl, -, -, hpolls⟩ := h
    have hno : s.isRead = false := by
      rcases List.mem_cons.1 hs with rfl | hs
      · simp [Step.isRead, hostnamectlArgs]
      rcases List.mem_cons.1 hs with rfl | hs
      · simp [Step.isRead, avahiSetArgs]
      have hp := hpolls s hs
      cases s with
      | slept _ => rfl
      | ran argv _ =>
        simp only [Step.isPoll, decide_eq_true_eq] at hp
        simp only [Step.isRead, decide_eq_false_iff_not]
        rintro rfl
        simp at hp
    simp [active, hno]
  · simp [active, Step.isRead, h.rollbackPart_eq]

/-- **One request**, with the entries that are active in it.  An accepted one makes the machine carry
its name; a failed one leaves the names alone or takes them where a rollback takes them. -/
theorem HostnameRun.transaction {params : Dict} {l : List Step} {r : Except Exc HostnameResult}
    (h : HostnameRun rt params l r) (hquiet : ∀ s ∈ fromCtl l, s.escapes = false)
    (hev : Evolves w ((entries l).filter (active l)) w') :
    (∀ result, r = .ok result → IsLabel result.hostname ∧
      rt.lower result.hostname = result.hostname ∧ Carries rt result.hostname w') ∧
    (∀ exc, r = .error exc → w' = w ∨ (rollbackPart l ≠ [] ∧ w' = rollbackOf rt w)) := by
  cases h with
  | invalid _ => exact ⟨fun _ h => (nomatch h), fun _ _ => .inl hev⟩
  | @unread _ ended _ _ _ => exact ⟨fun _ h => (nomatch h), fun _ _ => .inl hev⟩
  | @change request read original l r hv hread hchange =>
    refine ⟨fun result hr => ?_, fun exc hr => .inr ?_⟩
    · obtain ⟨hset, rfl⟩ := hchange.setBoth hr
      rw [hset.filter_active] at hev
      exact ⟨HostnameSetRequest.isLabel_lower hv, Unicode.lower_lower _, hset.carries hev⟩
    · have hall : fromCtl (.ran ["/usr/bin/hostname"] read :: l) = l := by
        rw [← List.singleton_append, fromCtl_append_of_not (by simp [Step.isCtl])]
        cases hchange <;> exact fromCtl_cons_of_ctl rfl
      rw [hall] at hquiet
      obtain ⟨what, cause, mid, l', r', -, rfl, hpart, hrestore, -⟩ :=
        hchange.ends_with_rollback hr hquiet read
      have hne : rollbackPart (.ran ["/usr/bin/hostname"] read :: (mid ++ l')) ≠ [] := by
        rw [hpart]
        cases hrestore <;> exact List.cons_ne_nil _ _
      have hactive : ∀ e, active (.ran ["/usr/bin/hostname"] read :: (mid ++ l')) e = true := by
        intro e
        simp [active, hne]
      rw [List.filter_eq_self.2 fun e _ => hactive e] at hev
      exact ⟨hne, hrestore.rollbackOf_eq hpart hread hev⟩

/-! ### Two requests -/

/-- A complete run of `hostname_set`. -/
structure Finished (rt : Runtime) where
  fuel : ℕ
  params : Dict
  trace : List (Event Reply Exc)
  outcome : Except Exc HostnameResult
  path : Path (hostnameSet rt fuel params) trace (.done outcome)

namespace Finished

variable (run : Finished rt)

/-- The steps of the run. -/
def log : List Step := steps run.trace

def Accepted (hostname : String) : Prop :=
  ∃ result, run.outcome = .ok result ∧ result.hostname = hostname

def Failed : Prop := ∃ exc, run.outcome = .error exc

end Finished

/-- An entry of one of the two requests. -/
abbrev Tagged := Bool × Entry

variable (runs : Bool → Finished rt)

/-- The entries of both requests, each in its order. -/
def Interleaves (merged : List Tagged) : Prop :=
  ∀ who, (merged.filter (·.1 = who)).map (·.2) = entries (runs who).log

/-- The final names are those of an accepted request, or the old ones when there is none. -/
def Serialised (w w' : World) : Prop :=
  ((∀ who, (runs who).Failed) → w' = w) ∧
  ((∃ who hostname, (runs who).Accepted hostname) →
    ∃ who hostname, (runs who).Accepted hostname ∧ Carries rt hostname w')

/-- The entry is active in its request. -/
def activeIn (e : Tagged) : Bool := active (runs e.1).log e.2

/-- The two requests do not get in each other's way. -/
structure Separate (merged : List Tagged) (w : World) : Prop where
  /-- No step escapes from the first `hostnamectl` of a request on. -/
  quiet : ∀ who, ∀ s ∈ fromCtl (runs who).log, s.escapes = false
  /-- The active part of one request is over when that of the other begins. -/
  apart : ∃ first before after, merged = before ++ after ∧
    (∀ e ∈ before, activeIn runs e = true → e.1 = first) ∧
    (∀ e ∈ after, activeIn runs e = true → e.1 = !first)
  /-- A rollback after which no request is accepted has the old names to go back to. -/
  restorable : (∀ who, (runs who).Failed) → (∃ who, rollbackPart (runs who).log ≠ []) →
    rollbackOf rt w = w

variable {runs}

theorem Interleaves.mem {merged : List Tagged} (h : Interleaves runs merged) {e : Tagged}
    (he : e ∈ merged) : e.2 ∈ entries (runs e.1).log := by
  rw [← h e.1]
  exact List.mem_map.2 ⟨e, List.mem_filter.2 ⟨he, by simp⟩, rfl⟩

/-- What is not active reads the name outside of any rollback. -/
theorem Interleaves.reads {merged : List Tagged} (h : Interleaves runs merged) {e : Tagged}
    (he : e ∈ merged) (hno : activeIn runs e = false) :
    e.2.rollback = false ∧ e.2.step.isRead = true := by
  simp only [activeIn, active, Bool.not_eq_eq_eq_not, Bool.not_false, Bool.and_eq_true,
    List.isEmpty_iff] at hno
  refine ⟨?_, hno.1⟩
  have hmem := h.mem he
  rw [entries_of_rollbackPart_nil hno.2] at hmem
  obtain ⟨s, -, hs⟩ := List.mem_map.1 hmem
  rw [← hs]

theorem Step.eq_of_isRead {s : Step} (h : s.isRead = true) :
    ∃ ended, s = .ran ["/usr/bin/hostname"] ended := by
  cases s with
  | ran argv ended =>
    simp only [Step.isRead, decide_eq_true_eq] at h
    exact ⟨ended, by rw [h]⟩
  | slept outcome => cases h

/-- Entries that are not active drop out of a run. -/
theorem evolves_filter {merged : List Tagged}
    (hreads : ∀ e ∈ merged, activeIn runs e = false → e.2.rollback = false ∧ e.2.step.isRead = true)
    (h : Evolves w (merged.map (·.2)) w') :
    Evolves w ((merged.filter (activeIn runs)).map (·.2)) w' := by
  induction merged generalizing w with
  | nil => exact h
  | cons e merged ih =>
    obtain ⟨w₁, h₁, h⟩ := h
    have hrest := ih (fun e he => hreads e (List.mem_cons_of_mem _ he)) h
    cases hact : activeIn runs e with
    | true =>
      rw [List.filter_cons_of_pos hact]
      exact ⟨w₁, h₁, hrest⟩
    | false =>
      obtain ⟨hforward, hread⟩ := hreads e List.mem_cons_self hact
      obtain ⟨ended, hs⟩ := Step.eq_of_isRead hread
      rw [Entry.Acts, hforward, hs] at h₁
      have heff : Effect w (.ran ["/usr/bin/hostname"] ended) w₁ := h₁
      obtain ⟨rfl, -⟩ := @Effect.read_eq rt _ _ _ heff
      rw [List.filter_cons_of_neg (by simp [hact])]
      exact hrest

/-- The entries of one request among the active ones. -/
theorem Interleaves.map_filter {merged : List Tagged} (h : Interleaves runs merged) (who : Bool) :
    ((merged.filter (activeIn runs)).filter (·.1 = who)).map (·.2) =
      (entries (runs who).log).filter (active (runs who).log) := by
  rw [← h who, List.filter_map, List.filter_comm]
  congr 1
  refine List.filter_congr fun e he => ?_
  obtain ⟨-, rfl⟩ : e ∈ merged ∧ e.1 = who := by simpa using List.mem_filter.1 he
  rfl

/-- The name of an accepted request is what a later rollback goes back to. -/
theorem Carries.rollbackOf {hostname : String} (h : Carries rt hostname w) (hl : IsLabel hostname)
    (hlow : rt.lower hostname = hostname) : Carries rt hostname (rollbackOf rt w) := by
  have hname : rt.lower (strip w.linux) = hostname := by rw [h.1, hl.strip_eq, hlow]
  have hfirst : firstLabel hostname = hostname := firstLabel_eq_self_iff.2 hl.dot_notMem
  rw [System.rollbackOf, hname, hfirst]
  refine ⟨rfl, ?_⟩
  have := (seenName_firstLabel_iff hlow).2 hl.dot_notMem
  rwa [hfirst] at this

/-- The entries of the two requests that are active, one request after the other. -/
theorem Separate.evolves {merged : List Tagged} (hlog : Interleaves runs merged)
    (hsep : Separate runs merged w) (hev : Evolves w (merged.map (·.2)) w') :
    ∃ first w₁,
      Evolves w ((entries (runs first).log).filter (active (runs first).log)) w₁ ∧
      Evolves w₁ ((entries (runs !first).log).filter (active (runs !first).log)) w' := by
  obtain ⟨first, before, after, rfl, hbefore, hafter⟩ := hsep.apart
  have hfilter := evolves_filter (fun e he => hlog.reads he) hev
  rw [List.filter_append, List.map_append, evolves_append] at hfilter
  obtain ⟨w₁, h₁, h₂⟩ := hfilter
  -- a filter by the request keeps one of the two parts whole and drops the other
  have hkeep : ∀ {l : List Tagged} {who}, (∀ e ∈ l, activeIn runs e = true → e.1 = who) →
      (l.filter (activeIn runs)).filter (·.1 = who) = l.filter (activeIn runs) :=
    fun h => List.filter_eq_self.2 fun e he =>
      decide_eq_true (h e (List.mem_filter.1 he).1 (List.mem_filter.1 he).2)
  have hdrop : ∀ {l : List Tagged} {who}, (∀ e ∈ l, activeIn runs e = true → e.1 = !who) →
      (l.filter (activeIn runs)).filter (·.1 = who) = [] :=
    fun h => List.filter_eq_nil_iff.2 fun e he => by
      simp [h e (List.mem_filter.1 he).1 (List.mem_filter.1 he).2]
  refine ⟨first, w₁, ?_, ?_⟩
  · rw [← hlog.map_filter, List.filter_append, List.filter_append, hkeep hbefore, hdrop hafter,
      List.append_nil]
    exact h₁
  · rw [← hlog.map_filter, List.filter_append, List.filter_append, hkeep hafter,
      hdrop (by simpa using hbefore), List.nil_append]
    exact h₂

/-- What one request does, by its outcome. -/
theorem Finished.transaction (run : Finished rt)
    (hquiet : ∀ s ∈ fromCtl run.log, s.escapes = false)
    (hev : Evolves w ((entries run.log).filter (active run.log)) w') :
    (∃ hostname, run.Accepted hostname ∧ IsLabel hostname ∧ rt.lower hostname = hostname ∧
      Carries rt hostname w') ∨
    (run.Failed ∧ (w' = w ∨ (rollbackPart run.log ≠ [] ∧ w' = rollbackOf rt w))) := by
  obtain ⟨hok, herror⟩ := (hostnameSet_run run.path).transaction hquiet hev
  cases hout : run.outcome with
  | ok result =>
    obtain ⟨hl, hlow, hcarries⟩ := hok result hout
    exact .inl ⟨result.hostname, ⟨result, hout, rfl⟩, hl, hlow, hcarries⟩
  | error exc => exact .inr ⟨⟨exc, hout⟩, herror exc hout⟩

theorem Finished.not_failed_of_accepted {run : Finished rt} {hostname : String}
    (h : run.Accepted hostname) : ¬run.Failed := by
  rintro ⟨exc, hexc⟩
  obtain ⟨result, hres, -⟩ := h
  rw [hres] at hexc
  cases hexc

/-- **Separate requests are serialised.** -/
theorem serialised_of_separate {merged : List Tagged} (hlog : Interleaves runs merged)
    (hsep : Separate runs merged w) (hev : Evolves w (merged.map (·.2)) w') :
    Serialised runs w w' := by
  obtain ⟨first, w₁, h₁, h₂⟩ := hsep.evolves hlog hev
  rcases (runs first).transaction (hsep.quiet first) h₁ with
    ⟨name₁, hacc₁, hlabel, hlow, hcar₁⟩ | ⟨hfail₁, hw₁⟩
  · refine ⟨fun hall => absurd (hall first) (Finished.not_failed_of_accepted hacc₁), fun _ => ?_⟩
    rcases (runs !first).transaction (hsep.quiet !first) h₂ with
      ⟨name₂, hacc₂, -, -, hcar₂⟩ | ⟨-, rfl | ⟨-, rfl⟩⟩
    · exact ⟨!first, name₂, hacc₂, hcar₂⟩
    · exact ⟨first, name₁, hacc₁, hcar₁⟩
    · exact ⟨first, name₁, hacc₁, hcar₁.rollbackOf hlabel hlow⟩
  · rcases (runs !first).transaction (hsep.quiet !first) h₂ with
      ⟨name₂, hacc₂, -, -, hcar₂⟩ | ⟨hfail₂, hw₂⟩
    · exact ⟨fun hall => absurd (hall !first) (Finished.not_failed_of_accepted hacc₂),
        fun _ => ⟨!first, name₂, hacc₂, hcar₂⟩⟩
    · have hall : ∀ who, (runs who).Failed := fun who => by
        rcases Bool.eq_or_eq_not who first with rfl | rfl
        · exact hfail₁
        · exact hfail₂
      refine ⟨fun _ => ?_, fun ⟨who, hostname, hacc⟩ =>
        absurd (hall who) (Finished.not_failed_of_accepted hacc)⟩
      -- neither rollback takes the names anywhere
      have hw₁' : w₁ = w := by
        rcases hw₁ with hw | ⟨hpart, hw⟩
        · exact hw
        · rw [hw, hsep.restorable hall ⟨_, hpart⟩]
      subst hw₁'
      rcases hw₂ with hw | ⟨hpart, hw⟩
      · exact hw
      · rw [hw, hsep.restorable hall ⟨_, hpart⟩]

/-! ### Two runs that do, and two that do not get in each other's way -/

/-- The name is read as `line` and replaced, Avahi refuses, and a rollback to `back` works; Avahi
registers its name again before it runs. -/
def refusedEnds (line back : String) : List Ended :=
  [printed line, printed "", refused "no", printed "", printed "", printed "i 1", printed "i 2",
    printed ("s \"" ++ back ++ ".local\"")]

def refusedError : Exc :=
  .validation "Failed to publish the requested hostname: no; the original hostname was restored"

/-- The steps of a change to `requested` whose commands end so -/
def refusedSteps (requested line back : String) : List Step :=
  [.ran ["/usr/bin/hostname"] (printed line), .ran (hostnamectlArgs requested) (printed ""),
    .ran (avahiSetArgs requested) (refused "no"), .ran (hostnamectlArgs back) (printed ""),
    .ran (avahiSetArgs back) (printed ""), .ran (avahiArgs "GetState") (printed "i 1"),
    .slept (.ok ()), .ran (avahiArgs "GetState") (printed "i 2"),
    .ran (avahiArgs "GetHostNameFqdn") (printed ("s \"" ++ back ++ ".local\""))]

/-- A change to `a1` that starts with the name `old` and is refused. -/
def refusedA : Finished .ascii where
  fuel := 2
  params := [("hostname", .str "a1")]
  trace := (scripted (refusedEnds "old\n" "old") (hostnameSet .ascii 2 [("hostname", .str "a1")])).1
  outcome := .error refusedError
  path := path_of_scripted (by decide +kernel)

theorem refusedA_log : refusedA.log = refusedSteps "a1" "old\n" "old" := by decide +kernel

/-- A change to `b1` that starts with the name `a1` and is refused. -/
def refusedB : Finished .ascii where
  fuel := 2
  params := [("hostname", .str "b1")]
  trace := (scripted (refusedEnds "a1\n" "a1") (hostnameSet .ascii 2 [("hostname", .str "b1")])).1
  outcome := .error refusedError
  path := path_of_scripted (by decide +kernel)

theorem refusedB_log : refusedB.log = refusedSteps "b1" "a1\n" "a1" := by decide +kernel

/-- A change to `new` that starts with the name `old` and is accepted. -/
def acceptedNew : Finished .ascii where
  fuel := 1
  params := newParams
  trace := (scripted acceptedEnds (hostnameSet .ascii 1 newParams)).1
  outcome := .ok (acceptedResult "new")
  path := path_of_scripted rfl

/-- Entries of one of the two requests. -/
def tag (who : Bool) (es : List Entry) : List Tagged := es.map (who, ·)

theorem filter_tag (who who' : Bool) (es : List Entry) :
    ((tag who es).filter (·.1 = who')).map (·.2) = if who = who' then es else [] := by
  induction es with
  | nil => simp [tag]
  | cons e es ih =>
    by_cases h : who = who'
    · simpa [tag, h] using ih
    · simp [tag, h]

/-- `acceptedNew` begins when `refusedA` is done. -/
def oneAfterTheOther : List Tagged :=
  tag false (entries refusedA.log) ++ tag true (entries acceptedNew.log)

theorem oneAfterTheOther_serialised :
    Serialised (fun who => cond who acceptedNew refusedA) ⟨"old", "old"⟩ ⟨"new", "New"⟩ := by
  have hacc : acceptedNew.Accepted "new" := ⟨_, rfl, rfl⟩
  have hlog : Interleaves (fun who => cond who acceptedNew refusedA) oneAfterTheOther := by
    intro who
    simp only [oneAfterTheOther, List.filter_append, List.map_append, filter_tag]
    cases who <;> simp
  refine serialised_of_separate hlog ⟨?_, ⟨false, _, _, rfl, ?_, ?_⟩, ?_⟩ ?_
  · intro who
    cases who with
    | false =>
      rw [cond_false, refusedA_log]
      decide
    | true => decide
  · intro e he _
    obtain ⟨_, _, rfl⟩ := List.mem_map.1 he
    rfl
  · intro e he _
    obtain ⟨_, _, rfl⟩ := List.mem_map.1 he
    rfl
  · exact fun h => absurd (h true) (Finished.not_failed_of_accepted hacc)
  · rw [oneAfterTheOther, refusedA_log]
    exact ⟨_, effect_read rfl, _, .linux (fun _ => rfl) (.inr rfl), _, @Effect.avahi _ _ "old" _, _,
      .linux rfl, _, .avahi rfl, _, @Restores.state _ (printed "i 1") rfl, _, .slept, _,
      @Restores.state _ (printed "i 2") rfl, _, restores_fqdn rfl, _,
      effect_read rfl, _, .linux (fun _ => rfl) (.inr rfl), _, @Effect.avahi _ _ "New" _, _, .state, _,
      effect_fqdn rfl, rfl⟩

/-- `refusedB` reads the name that `refusedA` has just set, and goes on when that one is done. -/
def dirtyRead : List Tagged :=
  tag false ((entries refusedA.log).take 2) ++ tag true ((entries refusedB.log).take 1) ++
    tag false ((entries refusedA.log).drop 2) ++ tag true ((entries refusedB.log).drop 1)

/-- Both requests fail and say that the original name was restored, and the machine is left with the
name that one of them had set for a moment. -/
theorem dirtyRead_not_serialised :
    ∃ runs : Bool → Finished .ascii, Interleaves runs dirtyRead ∧ (∀ who, (runs who).Failed) ∧
      Evolves ⟨"old", "old"⟩ (dirtyRead.map (·.2)) ⟨"a1", "a1"⟩ ∧
      ¬Serialised runs ⟨"old", "old"⟩ ⟨"a1", "a1"⟩ := by
  have hfail : ∀ who, (cond who refusedB refusedA).Failed := fun who => by
    cases who <;> exact ⟨refusedError, rfl⟩
  refine ⟨fun who => cond who refusedB refusedA, ?_, hfail, ?_, ?_⟩
  · intro who
    simp only [dirtyRead, List.filter_append, List.map_append, filter_tag]
    cases who with
    | false => simp
    | true => simpa using List.take_append_drop 1 (entries refusedB.log)
  · rw [dirtyRead, refusedA_log, refusedB_log]
    refine ⟨_, effect_read rfl, _, .linux (fun _ => rfl) (.inr rfl), _, effect_read rfl, _,
      @Effect.avahi _ _ "old" _, _, .linux rfl, _, .avahi rfl, _, @Restores.state _ (printed "i 1") rfl, _,
      .slept, _, @Restores.state _ (printed "i 2") rfl, _, restores_fqdn rfl, _,
      .linux (fun _ => rfl) (.inr rfl), _, @Effect.avahi _ _ "old" _, _, .linux rfl, _, .avahi rfl, _,
      @Restores.state _ (printed "i 1") rfl, _, .slept, _, @Restores.state _ (printed "i 2") rfl, _,
      restores_fqdn rfl, rfl⟩
  · rintro ⟨h, -⟩
    exact absurd (h hfail) (by decide)

end ApplianceAdmin.System
