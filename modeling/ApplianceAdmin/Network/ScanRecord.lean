import ApplianceAdmin.Network.World

/-!
# The record of the scans

What holds of the `RequestScan` calls in every state of a manager that is only asked to scan.

* `Paced`: what the rate limit has to do with the record, whatever happens;
* `Trusted`: what a cache and a rate limit say about the latest scan, in the runs that `Regular`
  describes;
* `Sound`: both, with at most the latest scan undecided; lemmas for what changes the record;
* `scanning`: the scans as they share the world.
-/

namespace ApplianceAdmin.Network

open Async Async.Prog Async.Monitor Python

/-! ### Outcomes -/

namespace Outcome

variable {rt : Runtime} {previous : ℤ} {o : Outcome} {e : Event Reply Exc}

/-- Does the caller know how the scan ended? -/
def decided : Outcome → Bool
  | .completed => true
  | .failed _ => true
  | _ => false

theorem see_decided (h : o.decided = true) : o.see rt previous e = o := by
  cases o <;> first | rfl | cases h

/-- A scan ends with a signal, with properties, or with a failure. -/
theorem see_ok {c : Call} {r : Reply c} (hwait : ∀ t, c ≠ .waitEvent t)
    (hgetAll : ∀ path interface, c ≠ .getAll path interface) :
    o.see rt previous ⟨c, .ok r⟩ = o := by
  cases o <;> cases c <;> simp_all [see]

end Outcome

namespace Attempt

variable {rt : Runtime} {i : Tid} {e : Event Reply Exc} {a : Attempt}

theorem see_decided (h : a.outcome.decided = true) : a.see rt i e = a := by
  unfold see
  split
  · rw [Outcome.see_decided h]
  · rfl

theorem see_of_ne (h : a.owner ≠ i) : a.see rt i e = a := if_neg h

theorem see_ok {c : Call} {r : Reply c} (hwait : ∀ t, c ≠ .waitEvent t)
    (hgetAll : ∀ path interface, c ≠ .getAll path interface) : a.see rt i ⟨c, .ok r⟩ = a := by
  unfold see
  rw [Outcome.see_ok hwait hgetAll]
  exact ite_self _

end Attempt

/-- Every scan of the record is decided. -/
def AllDecided (attempts : List Attempt) : Prop := ∀ a ∈ attempts, a.outcome.decided = true

theorem AllDecided.map_see {rt : Runtime} {i : Tid} {e : Event Reply Exc}
    {attempts : List Attempt} (h : AllDecided attempts) : attempts.map (.see rt i e) = attempts :=
  (List.map_congr_left fun a ha => Attempt.see_decided (h a ha)).trans (List.map_id _)

/-! ### The record -/

section Record

variable (m : NetworkManager)

/-- The later of two scans, and the one before it: they were issued in this order, and the later one
was checked against the earlier one if that was completed. -/
def Follow (later earlier : Attempt) : Prop :=
  earlier.issued ≤ later.issued ∧
    (earlier.outcome = .completed → m.scanMinInterval ≤ later.checked - earlier.checked)

/-- What the rate limit makes of the record -/
structure Paced (w : World) : Prop where
  issued : ∀ a ∈ w.attempts, a.checked ≤ a.issued ∧ a.issued ≤ w.clock
  follow : w.attempts.IsChain (Follow m)
  latest : ∀ a, w.attempts.head? = some a → a.outcome = .completed →
    w.fields.lastScanRequest = a.checked

/-- What the rate limit and the cache say about the record -/
structure Trusted (w : World) : Prop where
  /-- Without a completed scan, both are as in a new manager. -/
  fresh : (∀ a ∈ w.attempts, a.outcome ≠ .completed) →
    w.fields.lastScanRequest = 0 ∧ w.fields.scanCache = []
  /-- After a scan that was not completed, another one is due. -/
  due : ∀ a, w.attempts.head? = some a → a.outcome ≠ .completed →
    m.scanMinInterval ≤ w.clock - w.fields.lastScanRequest

/-- Nobody checked the rate limit before the clock had come to the minimal interval, and no failure
was hidden behind the cache. -/
def Regular (w : World) : Prop :=
  (∀ t ∈ w.readings, m.scanMinInterval ≤ t) ∧ w.hidden = false

/-- At most the latest scan, of the holder of the lock, is undecided. -/
def Settled (lock : Option Tid) (attempts : List Attempt) : Prop :=
  AllDecided attempts ∨
    ∃ a before, attempts = a :: before ∧ AllDecided before ∧ lock = some a.owner

/-- What holds of the record; `b` is whether only regular runs are looked at. -/
structure Sound (b : Prop) (w : World) : Prop where
  paced : Paced m w
  trusted : b → Trusted m w
  settled : Settled w.scanLock w.attempts

end Record

section Sound

variable {m : NetworkManager} {b : Prop} {i : Tid} {w w' : World}

theorem sound_init (clock : ℚ) : Sound m b (.init clock) where
  paced := ⟨by simp [World.init], .nil, by simp [World.init]⟩
  trusted _ := ⟨fun _ => ⟨rfl, rfl⟩, by simp [World.init]⟩
  settled := .inl fun _ h => absurd h List.not_mem_nil

theorem Sound.allDecided_of_free (h : Sound m b w) (hfree : w.scanLock = none) :
    AllDecided w.attempts := by
  rcases h.settled with h | ⟨a, before, -, -, hlock⟩
  · exact h
  · rw [hfree] at hlock
    cases hlock

/-- What the record does not depend on -/
theorem Sound.mono (h : Sound m b w) (hclock : w.clock ≤ w'.clock)
    (hrequest : w'.fields.lastScanRequest = w.fields.lastScanRequest)
    (hcache : w'.fields.scanCache = w.fields.scanCache) (hattempts : w'.attempts = w.attempts)
    (hsettled : Settled w'.scanLock w'.attempts) : Sound m b w' where
  paced := {
    issued := by
      rw [hattempts]
      exact fun a ha => (h.paced.issued a ha).imp_right fun ha => ha.trans hclock
    follow := by
      rw [hattempts]
      exact h.paced.follow
    latest := by
      rw [hattempts, hrequest]
      exact h.paced.latest }
  trusted hb := {
    fresh := by
      rw [hattempts, hrequest, hcache]
      exact (h.trusted hb).fresh
    due := by
      rw [hattempts, hrequest]
      intro a ha hne
      exact ((h.trusted hb).due a ha hne).trans (by linarith) }
  settled := hsettled

/-- A new scan that was checked against the rate limit -/
theorem Paced.cons (h : Paced m w) {a : Attempt} (hattempts : w'.attempts = a :: w.attempts)
    (hdue : m.scanMinInterval ≤ a.checked - w.fields.lastScanRequest)
    (hchecked : a.checked ≤ a.issued) (hissued : w.clock ≤ a.issued) (hclock : a.issued ≤ w'.clock)
    (hlatest : a.outcome = .completed → w'.fields.lastScanRequest = a.checked) : Paced m w' where
  issued := by
    rw [hattempts]
    refine List.forall_mem_cons.2 ⟨⟨hchecked, hclock⟩, fun x hx => ?_⟩
    obtain ⟨h₁, h₂⟩ := h.issued x hx
    exact ⟨h₁, by linarith⟩
  follow := by
    rw [hattempts, List.isChain_cons_iff]
    refine or_iff_not_imp_left.2 fun hne => ?_
    obtain ⟨x, rest, hrest⟩ := List.exists_cons_of_ne_nil hne
    refine ⟨x, rest, ⟨?_, fun hx => ?_⟩, ?_, hrest⟩
    · exact ((h.issued x (by simp [hrest])).2).trans hissued
    · rw [h.latest x (by simp [hrest]) hx] at hdue
      exact hdue
    · rw [← hrest]
      exact h.follow
  latest := by
    rw [hattempts]
    intro x hx hc
    cases hx
    exact hlatest hc

/-- A scan of the holder of the lock, as long as it is not completed -/
theorem Sound.request (h : Sound m b w) (hdecided : AllDecided w.attempts) {a : Attempt}
    (hlock : w'.scanLock = some a.owner) (hattempts : w'.attempts = a :: w.attempts)
    (hrequest : w'.fields.lastScanRequest = w.fields.lastScanRequest)
    (hcache : w'.fields.scanCache = w.fields.scanCache)
    (hdue : m.scanMinInterval ≤ a.checked - w.fields.lastScanRequest)
    (hchecked : a.checked ≤ a.issued) (hissued : w.clock ≤ a.issued)
    (hclock : a.issued ≤ w'.clock) (hopen : a.outcome ≠ .completed) : Sound m b w' where
  paced := h.paced.cons hattempts hdue hchecked hissued hclock fun hc => absurd hc hopen
  trusted hb := {
    fresh := by
      rw [hattempts, hrequest, hcache]
      exact fun hall => (h.trusted hb).fresh (List.forall_mem_cons.1 hall).2
    due := by
      rw [hattempts, hrequest]
      intro x _ _
      linarith }
  settled := .inr ⟨a, _, hattempts, hdecided, hlock⟩

/-- A completed scan whose check is written down -/
theorem Sound.complete (h : Sound m b w) (hdecided : AllDecided w.attempts) {a : Attempt}
    (hattempts : w'.attempts = a :: w.attempts)
    (hrequest : w'.fields.lastScanRequest = a.checked)
    (hdue : m.scanMinInterval ≤ a.checked - w.fields.lastScanRequest)
    (hchecked : a.checked ≤ a.issued) (hissued : w.clock ≤ a.issued)
    (hclock : a.issued ≤ w'.clock) (hcompleted : a.outcome = .completed) : Sound m b w' where
  paced := h.paced.cons hattempts hdue hchecked hissued hclock fun _ => hrequest
  trusted _ := {
    fresh := by
      rw [hattempts]
      exact fun hall => absurd hcompleted (hall a List.mem_cons_self)
    due := by
      rw [hattempts]
      intro x hx hne
      cases hx
      exact absurd hcompleted hne }
  settled := .inl (by
    rw [hattempts]
    exact List.forall_mem_cons.2 ⟨by rw [hcompleted]; rfl, hdecided⟩)

end Sound

/-! ### The discipline -/

/-- What a scan relies on: the lock is its own or not, and while it is, only time passes. -/
structure ScanRelies (i : Tid) (w w' : World) : Prop where
  lock : w'.scanLock = some i ↔ w.scanLock = some i
  clock : w.clock ≤ w'.clock
  kept : w.scanLock = some i →
    w'.fields = w.fields ∧ w'.readings = w.readings ∧ w'.previous = w.previous ∧
      w'.attempts = w.attempts

/-- When scan `i` may make a call -/
def ScanAllowed (i : Tid) (w : World) : Call → Prop
  | .fields => True
  | .monotonic => True
  | .acquire .scan => w.scanLock ≠ some i
  | .release .scan => w.scanLock = some i
  | .setLastScanRequest _ => w.scanLock = some i
  | .setLastScanResult _ => w.scanLock = some i
  | .setScanCache _ => w.scanLock = some i
  | .requestScan _ => w.scanLock = some i
  | c => c.isRead = true ∧ w.scanLock = some i

namespace ScanRelies

variable {i j : Tid} {w w' : World}

theorem refl (i : Tid) (w : World) : ScanRelies i w w := ⟨.rfl, le_rfl, fun _ => ⟨rfl, rfl, rfl, rfl⟩⟩

theorem trans {w'' : World} (h : ScanRelies i w w') (h' : ScanRelies i w' w'') :
    ScanRelies i w w'' where
  lock := h'.lock.trans h.lock
  clock := h.clock.trans h'.clock
  kept hw := by
    obtain ⟨h₁, h₂, h₃, h₄⟩ := h.kept hw
    obtain ⟨h₁', h₂', h₃', h₄'⟩ := h'.kept (h.lock.2 hw)
    exact ⟨h₁'.trans h₁, h₂'.trans h₂, h₃'.trans h₃, h₄'.trans h₄⟩

/-- What the holder of the lock does is nothing to the others, as long as nobody else gets the
lock. -/
theorem of_holder (hw : w.scanLock = some i) (hclock : w'.clock = w.clock)
    (hw' : w'.scanLock = some i ∨ w'.scanLock = none) (hji : j ≠ i) : ScanRelies j w w' := by
  obtain ⟨hne, hne'⟩ := not_held_of_holder hw hw' hji
  exact ⟨iff_of_false hne' hne, hclock.ge, fun h => absurd h hne⟩

end ScanRelies

namespace World

variable {rt : Runtime} {i j : Tid} {w : World}

theorem issue_scanLock (c : Call) : (w.issue i c).scanLock = w.scanLock := by cases c <;> rfl

theorem issue_clock (c : Call) : (w.issue i c).clock = w.clock := by cases c <;> rfl

theorem setHolder_clock (l : Lock) (o : Option Tid) : (w.setHolder l o).clock = w.clock := by
  cases l <;> rfl

theorem apply_clock (c : Call) (r : Except Exc (Reply c)) :
    (w.apply rt i c r).clock = w.clock := by
  unfold apply receive
  split <;> try split_ifs
  all_goals first | rfl | exact setHolder_clock _ _

theorem apply_scanLock {c : Call} (hc : ∀ l, c ≠ .acquire l ∧ c ≠ .release l)
    (r : Except Exc (Reply c)) : (w.apply rt i c r).scanLock = w.scanLock := by
  unfold apply receive
  split <;> try split_ifs
  all_goals first | rfl | exact absurd rfl (hc _).1 | exact absurd rfl (hc _).2

theorem issue_readings (c : Call) : (w.issue i c).readings = w.readings := by cases c <;> rfl

theorem issue_hidden (c : Call) : (w.issue i c).hidden = w.hidden := by cases c <;> rfl

theorem setHolder_readings (l : Lock) (o : Option Tid) :
    (w.setHolder l o).readings = w.readings := by
  cases l <;> rfl

theorem mem_readings_apply (c : Call) (r : Except Exc (Reply c)) :
    ∀ t ∈ w.readings, t ∈ (w.apply rt i c r).readings := by
  unfold apply receive
  split <;> try split_ifs
  all_goals first
    | exact fun _ h => h
    | exact fun _ h => List.mem_cons_of_mem _ h
    | exact fun _ h => (setHolder_readings _ _).symm ▸ h

theorem apply_attempts_ok {c : Call} (r : Reply c) (hwait : ∀ t, c ≠ .waitEvent t)
    (hgetAll : ∀ path interface, c ≠ .getAll path interface) :
    (w.apply rt i c (.ok r)).attempts = w.attempts :=
  (List.map_congr_left fun _ _ => Attempt.see_ok hwait hgetAll).trans (List.map_id _)

theorem apply_attempts_now {c : Call} (r : Reply c) (hc : c.awaited = false) :
    (w.apply rt i c (.ok r)).attempts = w.attempts :=
  apply_attempts_ok r (by rintro t rfl; cases hc) (by rintro p q rfl; cases hc)

theorem hidden_of_apply {c : Call} {r : Except Exc (Reply c)}
    (h : (w.apply rt i c r).hidden = false) : w.hidden = false :=
  (Bool.or_eq_false_iff.1 h).1

end World

/-- Whoever does not hold the lock learns nothing about the record. -/
theorem Settled.map_see {rt : Runtime} {i : Tid} {e : Event Reply Exc} {lock : Option Tid}
    {attempts : List Attempt} (h : Settled lock attempts) (hi : lock ≠ some i) :
    attempts.map (.see rt i e) = attempts := by
  rcases h with h | ⟨a, before, rfl, hbefore, rfl⟩
  · exact h.map_see
  · rw [List.map_cons, hbefore.map_see, Attempt.see_of_ne fun hai => hi (by rw [hai])]

/-- A call that is allowed looks at the manager, or asks for the lock, or is made by its holder. -/
theorem ScanAllowed.cases {i : Tid} {w : World} {c : Call} (h : ScanAllowed i w c) :
    c = .fields ∨ c = .monotonic ∨ (c = .acquire .scan ∧ w.scanLock ≠ some i) ∨
      (w.scanLock = some i ∧ (c = .release .scan ∨ ∀ l, c ≠ .acquire l ∧ c ≠ .release l)) := by
  cases c with
  | acquire l => cases l <;> simp_all [ScanAllowed, Call.isRead]
  | release l => cases l <;> simp_all [ScanAllowed, Call.isRead]
  | _ => simp_all [ScanAllowed]

/-- Who looks at the attributes or at the clock disturbs nobody. -/
theorem ScanRelies.of_look {rt : Runtime} {i j : Tid} {w : World} {c : Call}
    (hc : c = .fields ∨ c = .monotonic) (hji : j ≠ i) :
    ScanRelies j w (w.apply rt i c (w.answer c)) := by
  rcases hc with rfl | rfl
  · refine ⟨.rfl, le_rfl, fun _ => ⟨rfl, rfl, rfl, ?_⟩⟩
    exact World.apply_attempts_ok _ (by simp) (by simp)
  · have hattempts := @World.apply_attempts_ok rt i w .monotonic w.clock (by simp) (by simp)
    by_cases hi : w.scanLock = some i
    · refine .of_holder hi (World.apply_clock _ _) (.inl ?_) hji
      rw [World.apply_scanLock (by simp), hi]
    · have hkept : w.receive i .monotonic (.ok w.clock) = w := if_neg hi
      unfold World.apply
      rw [show World.answer .monotonic w = .ok w.clock from rfl, hkept]
      exact ⟨.rfl, le_rfl, fun _ => ⟨rfl, rfl, rfl, hattempts⟩⟩

/-- Who gets the lock had nothing to do with the record, nor has who is cancelled before that. -/
theorem ScanRelies.of_acquire {rt : Runtime} {i j : Tid} {w : World} {r : Except Exc Unit}
    (hsettled : Settled w.scanLock w.attempts) (hi : w.scanLock ≠ some i)
    (hlegal : w.legal i (.acquire .scan) r = true) (hji : j ≠ i) :
    ScanRelies j w (w.apply rt i (.acquire .scan) r) := by
  cases r with
  | ok a =>
    have hfree : w.scanLock = none := of_decide_eq_true hlegal
    refine ⟨iff_of_false (fun h => hji (Option.some.inj h).symm) (by simp [hfree]), le_rfl, ?_⟩
    simp [hfree]
  | error x => exact ⟨.rfl, le_rfl, fun _ => ⟨rfl, rfl, rfl, hsettled.map_see hi⟩⟩

/-- The scans as they share the world -/
def scanning (m : NetworkManager) (rt : Runtime) (b : Prop) : Discipline (manager rt) where
  inv := Sound m b
  rely := ScanRelies
  idle i w := w.scanLock ≠ some i
  pre i w c := ScanAllowed i w c ∧ (c.awaited = true → Sound m b (w.issue i c))
  hist w := b → Regular m w
  rely_refl := .refl
  rely_trans := .trans
  idle_rely h hw := fun hw' => hw (h.lock.1 hw')
  inv_issue hy hc := hc.2 hy
  keeps_issue := by
    rintro i j w c ⟨hc, -⟩ hji
    show ScanRelies j w (w.issue i c)
    rcases hc.cases with rfl | rfl | ⟨rfl, -⟩ | ⟨hlock, -⟩
    · exact .refl j w
    · exact .refl j w
    · exact .refl j w
    · exact .of_holder hlock (World.issue_clock c) (.inl (by rw [World.issue_scanLock, hlock])) hji
  keeps_answer := by
    rintro i j w c hy ⟨hc, -⟩ hji
    show ScanRelies j (w.issue i c) ((w.issue i c).apply rt i c ((w.issue i c).answer c))
    have hclock := @World.apply_clock rt i (w.issue i c) c ((w.issue i c).answer c)
    rcases hc.cases with rfl | rfl | ⟨rfl, -⟩ | ⟨hlock, hc⟩
    · exact .of_look (.inl rfl) hji
    · exact .of_look (.inr rfl) hji
    · cases hy
    · rcases hc with rfl | hc
      · exact .of_holder hlock hclock (.inr rfl) hji
      · refine .of_holder (by rw [World.issue_scanLock, hlock]) hclock (.inl ?_) hji
        rw [World.apply_scanLock hc, World.issue_scanLock, hlock]
  keeps_reply := by
    rintro i j w c w' r hy ⟨hc, -⟩ hrely hinv hlegal hji
    show ScanRelies j w' (w'.apply rt i c r)
    rcases hc.cases with rfl | rfl | ⟨rfl, hlock⟩ | ⟨hlock, hc⟩
    · cases hy
    · cases hy
    · exact .of_acquire hinv.settled (fun h => hlock (hrely.lock.1 h)) hlegal hji
    · have hlock' := hrely.lock.2 (show (w.issue i c).scanLock = some i by
        rw [World.issue_scanLock, hlock])
      rcases hc with rfl | hc
      · cases hy
      · refine .of_holder hlock' (World.apply_clock _ _) (.inl ?_) hji
        rw [World.apply_scanLock hc, hlock']
  tau_inv := by
    rintro w w' hw ht
    cases ht with
    | time h => exact hw.mono h rfl rfl rfl hw.settled
    | handles _ => exact hw.mono le_rfl rfl rfl rfl hw.settled
  tau_rely := by
    rintro w w' i - ht
    cases ht with
    | time h => exact ⟨.rfl, h, fun _ => ⟨rfl, rfl, rfl, rfl⟩⟩
    | handles _ => exact ⟨.rfl, le_rfl, fun _ => ⟨rfl, rfl, rfl, rfl⟩⟩
  hist_issue := by
    rintro i w c h hb
    obtain ⟨h₁, h₂⟩ := h hb
    exact ⟨fun t ht => h₁ t ((World.issue_readings c).symm ▸ ht), (World.issue_hidden c).symm.trans h₂⟩
  hist_apply := fun h hb =>
    ⟨fun t ht => (h hb).1 t (World.mem_readings_apply _ _ t ht), World.hidden_of_apply (h hb).2⟩
  hist_tau := by
    rintro w w' ht h hb
    cases ht with
    | time _ => exact h hb
    | handles _ => exact h hb

end ApplianceAdmin.Network
