import ApplianceAdmin.Network.Lookup
import ApplianceAdmin.Network.ScanRecord

/-!
# One scan among the others

What a scan does to the record, stage by stage, under the discipline `scanning`.

* `Rest`: the scan holds the lock and every scan of the record is decided;
* `Asked`: its own `RequestScan` is the latest one;
* `wp_scan`: the record is sound after it, and in regular runs an empty list comes from a scan
  that was completed.
-/

namespace ApplianceAdmin.Network

open Async Async.Prog Async.Monitor Python

theorem Call.isRead_of_looksUp {c : Call} (h : c.looksUp = true) : c.isRead = true := by
  cases c <;> first | rfl | cases h

/-! ### At rest -/

section Task

variable {m : NetworkManager} {rt : Runtime} {b : Prop} {i : Tid} {w w' : World} {c : Call}

/-- Scan `i` holds the lock, and every scan of the record is decided. -/
structure Rest (m : NetworkManager) (b : Prop) (i : Tid) (w : World) : Prop where
  lock : w.scanLock = some i
  sound : Sound m b w
  decided : AllDecided w.attempts
  regular : b → Regular m w

/-- What stays as it is while scan `i` holds the lock and only looks at the bus -/
structure Keeps (i : Tid) (w w' : World) : Prop where
  lock : w'.scanLock = some i
  clock : w.clock ≤ w'.clock
  request : w'.fields.lastScanRequest = w.fields.lastScanRequest
  cache : w'.fields.scanCache = w.fields.scanCache
  readings : w'.readings = w.readings
  attempts : w'.attempts = w.attempts

namespace Keeps

theorem refl (hlock : w.scanLock = some i) : Keeps i w w := ⟨hlock, le_rfl, rfl, rfl, rfl, rfl⟩

theorem trans {w'' : World} (h : Keeps i w w') (h' : Keeps i w' w'') : Keeps i w w'' :=
  ⟨h'.lock, h.clock.trans h'.clock, h'.request.trans h.request, h'.cache.trans h.cache,
    h'.readings.trans h.readings, h'.attempts.trans h.attempts⟩

end Keeps

/-- Scan `i` is at rest in `w'`, and everything is as it was in `w`. -/
abbrev Stays (m : NetworkManager) (b : Prop) (i : Tid) (w w' : World) : Prop :=
  Rest m b i w' ∧ Keeps i w w'

theorem Rest.keeps (h : Rest m b i w) (hkeeps : Keeps i w w') (hregular : b → Regular m w') :
    Rest m b i w' where
  lock := hkeeps.lock
  sound := h.sound.mono hkeeps.clock hkeeps.request hkeeps.cache hkeeps.attempts
    (.inl (hkeeps.attempts ▸ h.decided))
  decided := hkeeps.attempts ▸ h.decided
  regular := hregular

/-- What a scan finds after one of its calls -/
theorem scanning_next {r : Except Exc (Reply c)}
    (hn : ((scanning m rt b).mon i).next w c r w') :
    (b → Regular m w') ∧ ∃ w₁, ScanRelies i (w.issue i c) w₁ ∧ w' = w₁.apply rt i c r ∧
      (c.awaited = true → Sound m b w₁ ∧ w₁.legal i c r = true) ∧
      (c.awaited = false → w₁ = w.issue i c ∧ r = (w.issue i c).answer c) := by
  obtain ⟨hhist, hn⟩ := hn
  refine ⟨hhist, ?_⟩
  by_cases hy : c.awaited = true
  · rw [if_pos (show (manager rt).yields c = true from hy)] at hn
    obtain ⟨w₁, hrely, hinv, hlegal, hw'⟩ := hn
    exact ⟨w₁, hrely, hw', fun _ => ⟨hinv, hlegal⟩, fun h => by simp [hy] at h⟩
  · rw [if_neg (show ¬(manager rt).yields c = true from hy)] at hn
    obtain ⟨hr, hw'⟩ := hn
    exact ⟨_, .refl i _, hw', fun h => absurd h hy, fun _ => ⟨rfl, hr⟩⟩

/-- The same for a call that nobody waits for -/
theorem scanning_next_now (hc : c.awaited = false) {r : Except Exc (Reply c)}
    (hn : ((scanning m rt b).mon i).next w c r w') :
    (b → Regular m w') ∧ r = (w.issue i c).answer c ∧
      w' = (w.issue i c).apply rt i c ((w.issue i c).answer c) := by
  obtain ⟨hregular, w₁, -, hw', -, hnow⟩ := scanning_next hn
  obtain ⟨rfl, rfl⟩ := hnow hc
  exact ⟨hregular, rfl, hw'⟩

theorem World.apply_fields_read (hc : c.isRead = true) (r : Except Exc (Reply c)) :
    (w.apply rt i c r).fields.lastScanRequest = w.fields.lastScanRequest ∧
      (w.apply rt i c r).fields.scanCache = w.fields.scanCache ∧
      (w.apply rt i c r).readings = w.readings := by
  unfold World.apply World.receive
  split <;> try split_ifs
  all_goals first | exact ⟨rfl, rfl, rfl⟩ | simp [Call.isRead] at hc

theorem scanAllowed_read (hc : c.isRead = true) (hlock : w.scanLock = some i) :
    ScanAllowed i w c := by
  cases c <;> simp_all [ScanAllowed, Call.isRead]

namespace Rest

theorem pre_read (h : Rest m b i w) (hc : c.isRead = true) :
    ((scanning m rt b).mon i).pre w c := by
  refine ⟨scanAllowed_read hc h.lock, fun _ => ?_⟩
  rw [World.issue_read hc]
  exact h.sound

theorem next_read (h : Rest m b i w) (hc : c.isRead = true) {r : Except Exc (Reply c)}
    (hn : ((scanning m rt b).mon i).next w c r w') : Stays m b i w w' := by
  obtain ⟨hregular, w₁, hrely, rfl, -⟩ := scanning_next hn
  rw [World.issue_read hc] at hrely
  obtain ⟨hfields, hreadings, -, hattempts⟩ := hrely.kept h.lock
  obtain ⟨hrequest, hcache, hreadings'⟩ := @World.apply_fields_read rt i w₁ c hc r
  have hkeeps : Keeps i w (w₁.apply rt i c r) := {
    lock := by
      rw [World.apply_scanLock (Call.ne_lock hc)]
      exact hrely.lock.2 h.lock
    clock := hrely.clock.trans (World.apply_clock _ _).ge
    request := by rw [hrequest, hfields]
    cache := by rw [hcache, hfields]
    readings := by rw [hreadings', hreadings]
    attempts := by
      show w₁.attempts.map _ = _
      rw [hattempts, h.decided.map_see] }
  exact ⟨h.keeps hkeeps hregular, hkeeps⟩

theorem stays_refl (h : Rest m b i w) : Stays m b i w w := ⟨h, .refl h.lock⟩

theorem stays_read {w'' : World} (h : Stays m b i w w') (hc : c.isRead = true)
    {r : Except Exc (Reply c)} (hn : ((scanning m rt b).mon i).next w' c r w'') :
    Stays m b i w w'' :=
  (h.1.next_read hc hn).imp_right h.2.trans

/-- Looking at the bus keeps everything. -/
theorem wp_reading {α : Type} {p : Proc α} (hp : Reading (fun _ => True) p) (h : Rest m b i w) :
    ((scanning m rt b).mon i).wp p (fun _ => Stays m b i w) w := by
  refine wp_mono (wp_of_within (S := fun c : Call => c.isRead = true) (P := Stays m b i w)
    ?_ ?_ hp h.stays_refl) fun r w' hr => hr.1
  · exact fun w' c hc hw' => hw'.1.pre_read hc
  · exact fun w' c r w'' hc hw' hn => ⟨stays_read hw' hc hn, fun _ _ => trivial⟩

theorem leads_read (hc : c.isRead = true) :
    Leads ((scanning m rt b).mon i) (Stays m b i w) (Stays m b i w) c fun _ => Stays m b i w :=
  fun _ hw' => ⟨hw'.1.pre_read hc, fun _ _ hn =>
    ⟨fun _ _ => stays_read hw' hc hn, fun _ _ => stays_read hw' hc hn⟩⟩

end Rest

/-- The failure `x` reaches the caller of `scan`, when only regular runs are looked at. -/
def Excused (b : Prop) (w : World) (x : Exc) : Prop :=
  x.isBackendUnavailable = true ∨ x.isException = false ∨ (b → w.fields.scanCache = [])

theorem excused_of_looked {x : Exc} (h : x.isBackendUnavailable = x.isException) :
    Excused b w x := by
  cases hx : x.isException with
  | true => exact .inl (h.trans hx)
  | false => exact .inr (.inl hx)

/-- In a regular run, properties without a readable `LastScan` come while there is no cache. -/
theorem World.readable_of_regular {path interface : String} {props : Dict}
    (h : (w.apply rt i (.getAll path interface) (.ok props)).hidden = false) :
    (w.apply rt i (.getAll path interface) (.ok props)).fields.scanCache = [] ∨
      ∃ current, lastScanOf rt props = .ok current := by
  obtain ⟨-, h⟩ := Bool.or_eq_false_iff.1 h
  rcases Bool.and_eq_false_iff.1 h with h | h
  · have hcache : w.fields.scanCache = [] := by simpa using h
    exact .inl hcache
  · refine .inr ?_
    have hread : (lastScanOf rt props).isOk = true := by
      simpa using (Bool.or_eq_false_iff.1 h).2
    cases hlast : lastScanOf rt props with
    | ok current => exact ⟨current, rfl⟩
    | error e => simp [hlast, Except.isOk, Except.toBool] at hread

theorem Rest.wp_lastScan (h : Rest m b i w) (device : String) :
    ((scanning m rt b).mon i).wp (lastScan rt device) (fun r w' =>
      Stays m b i w w' ∧ ∀ x, r = .error x → Excused b w' x) w := by
  have hget : Leads ((scanning m rt b).mon i) (Stays m b i w) (Stays m b i w)
      (.getAll device WIRELESS) fun props w' => Stays m b i w w' ∧
        (b → w'.fields.scanCache = [] ∨ ∃ current, lastScanOf rt props = .ok current) := by
    refine fun w₁ hw₁ => ⟨hw₁.1.pre_read rfl, fun r w₂ hn => ?_⟩
    refine ⟨fun props hr => ⟨stays_read hw₁ rfl hn, fun hb => ?_⟩, fun _ _ => stays_read hw₁ rfl hn⟩
    subst hr
    obtain ⟨hregular, w₃, -, rfl, -⟩ := scanning_next hn
    exact World.readable_of_regular (hregular hb).2
  unfold lastScan
  rw [wp_bind]
  refine wp_mono (wp_properties (fun c hc => leads_read (Call.isRead_of_looksUp hc)) hget
    h.stays_refl) fun r w' hr => ?_
  cases r with
  | error x => exact ⟨hr.1, fun _ hx => by cases hx; exact excused_of_looked hr.2⟩
  | ok props =>
    obtain ⟨hstays, hread⟩ := hr
    refine ⟨hstays, fun x hx => .inr (.inr fun hb => (hread hb).resolve_right ?_)⟩
    rintro ⟨current, hcurrent⟩
    rw [hcurrent] at hx
    cases hx

/-! ### A request under way -/

/-- The rate limit was checked at the time `now` and found that a scan is due. -/
structure Due (m : NetworkManager) (now : ℚ) (w : World) : Prop where
  read : w.readings.head? = some now
  past : now ≤ w.clock
  due : m.scanMinInterval ≤ now - w.fields.lastScanRequest

theorem Due.keeps {now : ℚ} (h : Due m now w) (hkeeps : Keeps i w w') : Due m now w' where
  read := hkeeps.readings ▸ h.read
  past := h.past.trans hkeeps.clock
  due := hkeeps.request ▸ h.due

/-- The scan that was checked at `now` has called `RequestScan` in the world `w₀`, and has learnt
`o` about it since. -/
structure Asked (m : NetworkManager) (b : Prop) (i : Tid) (now : ℚ) (previous : ℤ) (w₀ : World)
    (o : Outcome) (w : World) : Prop where
  base : Rest m b i w₀
  due : Due m now w₀
  lock : w.scanLock = some i
  clock : w₀.clock ≤ w.clock
  request : w.fields.lastScanRequest = w₀.fields.lastScanRequest
  cache : w.fields.scanCache = w₀.fields.scanCache
  attempts : w.attempts = ⟨i, now, w₀.clock, previous, o⟩ :: w₀.attempts

namespace Asked

variable {now : ℚ} {previous : ℤ} {w₀ : World} {o : Outcome}

theorem issue (h : Rest m b i w) (hdue : Due m now w) (device : String) :
    Asked m b i now w.previous w .pending (w.issue i (.requestScan device)) where
  base := h
  due := hdue
  lock := h.lock
  clock := le_rfl
  request := rfl
  cache := rfl
  attempts := by
    show (⟨i, w.readings.headD 0, w.clock, w.previous, .pending⟩ :: w.attempts : List Attempt) = _
    rw [List.headD_eq_head?_getD, hdue.read, Option.getD_some]

theorem sound (h : Asked m b i now previous w₀ o w) (hopen : o ≠ .completed) : Sound m b w :=
  h.base.sound.request h.base.decided h.lock h.attempts h.request h.cache h.due.due h.due.past
    le_rfl h.clock hopen

theorem rest (h : Asked m b i now previous w₀ o w) (hopen : o ≠ .completed)
    (hdecided : o.decided = true) (hregular : b → Regular m w) : Rest m b i w where
  lock := h.lock
  sound := h.sound hopen
  decided := by
    rw [h.attempts]
    exact List.forall_mem_cons.2 ⟨hdecided, h.base.decided⟩
  regular := hregular

theorem rely (h : Asked m b i now previous w₀ o w) (hrely : ScanRelies i w w') :
    Asked m b i now previous w₀ o w' := by
  obtain ⟨hfields, -, -, hattempts⟩ := hrely.kept h.lock
  exact ⟨h.base, h.due, hrely.lock.2 h.lock, h.clock.trans hrely.clock, by rw [hfields, h.request],
    by rw [hfields, h.cache], hattempts.trans h.attempts⟩

/-- What an answer tells about the scan -/
theorem apply (h : Asked m b i now previous w₀ o w) {r : Except Exc (Reply c)}
    (hc : c.isRead = true ∨ ∃ device, c = .requestScan device) :
    Asked m b i now previous w₀ (o.see rt previous ⟨c, r⟩) (w.apply rt i c r) where
  base := h.base
  due := h.due
  lock := by
    rw [World.apply_scanLock, h.lock]
    rcases hc with hc | ⟨device, rfl⟩
    · exact Call.ne_lock hc
    · simp
  clock := h.clock.trans (World.apply_clock _ _).ge
  request := by
    rw [← h.request]
    rcases hc with hc | ⟨device, rfl⟩
    · exact (World.apply_fields_read hc r).1
    · rfl
  cache := by
    rw [← h.cache]
    rcases hc with hc | ⟨device, rfl⟩
    · exact (World.apply_fields_read hc r).2.1
    · rfl
  attempts := by
    show w.attempts.map _ = _
    rw [h.attempts, List.map_cons, h.base.decided.map_see]
    simp [Attempt.see]

/-- In a regular run, a failure that `except Exception` catches comes while there is no cache. -/
theorem cache_of_caught (h : Asked m b i now previous w₀ o w) {r : Except Exc (Reply c)}
    (ho : o ≠ .failed true) (hsee : o.see rt previous ⟨c, r⟩ = .failed true)
    (hhidden : (w.apply rt i c r).hidden = false) : w.fields.scanCache = [] := by
  obtain ⟨-, hhidden⟩ := Bool.or_eq_false_iff.1 hhidden
  have hfails : w.fails rt i ⟨c, r⟩ = true := by
    refine Bool.or_eq_true_iff.2 (.inl ?_)
    rw [h.attempts, List.any_cons]
    simp [Attempt.see, hsee, ho]
  rw [hfails, Bool.and_true] at hhidden
  simpa using hhidden

theorem pre_read (h : Asked m b i now previous w₀ o w) (hopen : o ≠ .completed)
    (hc : c.isRead = true) : ((scanning m rt b).mon i).pre w c := by
  refine ⟨scanAllowed_read hc h.lock, fun _ => ?_⟩
  rw [World.issue_read hc]
  exact h.sound hopen

theorem next_read (h : Asked m b i now previous w₀ o w) (ho : o ≠ .failed true)
    (hc : c.isRead = true) {r : Except Exc (Reply c)}
    (hn : ((scanning m rt b).mon i).next w c r w') :
    Asked m b i now previous w₀ (o.see rt previous ⟨c, r⟩) w' ∧ (b → Regular m w') ∧
      (o.see rt previous ⟨c, r⟩ = .failed true → b → w'.fields.scanCache = []) := by
  obtain ⟨hregular, w₁, hrely, rfl, -⟩ := scanning_next hn
  rw [World.issue_read hc] at hrely
  refine ⟨(h.rely hrely).apply (.inl hc), hregular, fun hsee hb => ?_⟩
  rw [(World.apply_fields_read hc r).2.1]
  exact (h.rely hrely).cache_of_caught ho hsee (hregular hb).2

end Asked

/-- How `_request_scan_and_wait` ends once it has called `RequestScan` -/
def Ended {α : Type} (m : NetworkManager) (b : Prop) (i : Tid) (now : ℚ) :
    Except Exc α → World → Prop
  | .ok _, w => ∃ previous w₀, Asked m b i now previous w₀ .completed w ∧ (b → Regular m w)
  | .error x, w => Rest m b i w ∧ Excused b w x

section Wait

variable {now : ℚ} {previous : ℤ} {w₀ : World}

theorem advanced_of_ok {props : Dict} {current : ℤ} (h : lastScanOf rt props = .ok current) :
    advanced rt previous props = decide (current ≠ previous ∧ 0 ≤ current) := by
  simp [advanced, h]

theorem Asked.wp_recheckScan (h : Asked m b i now previous w₀ .timedOut w)
    (hregular : b → Regular m w) (device : String) :
    ((scanning m rt b).mon i).wp (recheckScan rt device previous) (Ended m b i now) w := by
  let P : World → Prop := fun w' => Asked m b i now previous w₀ .timedOut w' ∧ (b → Regular m w')
  let F : World → Prop := Rest m b i
  have hfailed : ∀ {w₁ w₂ : World} {c : Call} {x : Exc}, c.isRead = true →
      Asked m b i now previous w₀ .timedOut w₁ →
      ((scanning m rt b).mon i).next w₁ c (.error x) w₂ → F w₂ := by
    intro w₁ w₂ c x hc hasked hn
    obtain ⟨hasked', hregular', -⟩ := hasked.next_read (by simp) hc hn
    have hsee : Outcome.see rt previous .timedOut ⟨c, .error x⟩ = .failed false := by
      cases c <;> rfl
    rw [hsee] at hasked'
    exact hasked'.rest (by simp) rfl hregular'
  have hlook : ∀ c, c.looksUp = true → Leads ((scanning m rt b).mon i) P F c fun _ => P := by
    rintro c hc w₁ ⟨hasked, -⟩
    have hread := Call.isRead_of_looksUp hc
    refine ⟨hasked.pre_read (by simp) hread, fun r w₂ hn => ⟨?_, ?_⟩⟩
    · rintro a rfl
      obtain ⟨hasked', hregular', -⟩ := hasked.next_read (by simp) hread hn
      rw [Outcome.see_ok (by rintro t rfl; cases hc) (by rintro p q rfl; cases hc)] at hasked'
      exact ⟨hasked', hregular'⟩
    · rintro x rfl
      exact hfailed hread hasked hn
  have hget : Leads ((scanning m rt b).mon i) P F (.getAll device WIRELESS) fun props w' =>
      (b → Regular m w') ∧ if advanced rt previous props then
        Asked m b i now previous w₀ .completed w'
      else Rest m b i w' ∧ (b → w'.fields.scanCache = []) := by
    rintro w₁ ⟨hasked, -⟩
    refine ⟨hasked.pre_read (by simp) rfl, fun r w₂ hn => ⟨?_, ?_⟩⟩
    · rintro props rfl
      obtain ⟨hasked', hregular', hcache⟩ := hasked.next_read (by simp) rfl hn
      have hsee : Outcome.see rt previous .timedOut ⟨.getAll device WIRELESS, .ok props⟩ =
          if advanced rt previous props then .completed else .failed true := rfl
      rw [hsee] at hasked' hcache
      refine ⟨hregular', ?_⟩
      split_ifs at hasked' hcache ⊢
      · exact hasked'
      · exact ⟨hasked'.rest (by simp) rfl hregular', hcache rfl⟩
    · rintro x rfl
      exact hfailed rfl hasked hn
  unfold recheckScan lastScan
  rw [wp_bind, wp_bind]
  refine wp_mono (wp_properties hlook hget ⟨h, hregular⟩) fun r w' hr => ?_
  cases r with
  | error x => exact ⟨hr.1, excused_of_looked hr.2⟩
  | ok props =>
    obtain ⟨hregular', hr⟩ := hr
    cases hlast : lastScanOf rt props with
    | error e =>
      have hadvanced : advanced rt previous props = false := by simp [advanced, hlast]
      rw [hadvanced] at hr
      unfold py
      rw [andThen_ok, wp_lift, hlast]
      exact ⟨hr.1, .inr (.inr hr.2)⟩
    | ok current =>
      rw [advanced_of_ok hlast] at hr
      unfold py
      rw [andThen_ok, wp_lift, hlast]
      show ((scanning m rt b).mon i).wp (if current = previous ∨ current < 0 then _ else _) _ w'
      rw [wp_ite]
      by_cases hcurrent : current = previous ∨ current < 0
      · rw [if_pos hcurrent]
        rw [if_neg (by simp only [decide_eq_true_eq]; omega)] at hr
        exact ⟨hr.1, .inr (.inr hr.2)⟩
      · rw [if_neg hcurrent]
        rw [if_pos (by simp only [decide_eq_true_eq]; omega)] at hr
        exact ⟨previous, w₀, hr, hregular'⟩

/-- The handler of `_request_scan_and_wait`, when the call to scan or the wait for the signal has
raised `x` -/
theorem Asked.wp_handler (h : Asked m b i now previous w₀ .pending w) {x : Exc}
    (hc : c.isRead = true ∨ ∃ device, c = .requestScan device)
    (hsee : Outcome.see rt previous .pending ⟨c, .error x⟩ =
      if x.isTimeout then .timedOut else .failed (x.isException && !x.isBackendUnavailable))
    (hregular : b → Regular m (w.apply rt i c (.error x))) (device : String) :
    ((scanning m rt b).mon i).wp
      (if x.isTimeout then recheckScan rt device previous else raise x : Proc Unit)
      (Ended m b i now) (w.apply rt i c (.error x)) := by
  have hasked : Asked m b i now previous w₀ (Outcome.see rt previous .pending ⟨c, .error x⟩)
      (w.apply rt i c (.error x)) := h.apply hc
  rw [wp_ite]
  by_cases hx : x.isTimeout = true
  · rw [if_pos hx]
    rw [hsee, if_pos hx] at hasked
    exact hasked.wp_recheckScan hregular device
  · rw [if_neg hx]
    rw [if_neg hx] at hsee
    rw [hsee] at hasked
    refine ⟨hasked.rest (by simp) rfl hregular, ?_⟩
    cases hcaught : x.isException && !x.isBackendUnavailable with
    | true =>
      rw [hcaught] at hsee
      refine .inr (.inr fun hb => ?_)
      rw [hasked.cache, ← h.cache]
      exact h.cache_of_caught (by simp) hsee (hregular hb).2
    | false =>
      rcases Bool.and_eq_false_iff.1 hcaught with hx | hx
      · exact .inr (.inl hx)
      · exact .inl (by simpa using hx)

/-- `RequestScan` and the wait for the signal, with their handler -/
theorem Rest.wp_wait (h : Rest m b i w) (hdue : Due m now w) (device : String) :
    ((scanning m rt b).mon i).wp
      ((do
        perform (Call.requestScan device)
        perform (Call.waitEvent (min 8 m.activationTimeout)) : Proc Unit).tryCatch fun exc =>
          if exc.isTimeout then recheckScan rt device w.previous else raise exc)
      (Ended m b i now) w := by
  have hissue := Asked.issue h hdue device
  rw [wp_tryCatch, wp_bind, wp_perform]
  refine ⟨⟨h.lock, fun _ => hissue.sound (by simp)⟩, fun r w₁ hn => ?_⟩
  obtain ⟨hregular, w₂, hrely, rfl, -⟩ := scanning_next hn
  have hrequest : ∃ d, Call.requestScan device = .requestScan d := ⟨device, rfl⟩
  cases r with
  | error x => exact (hissue.rely hrely).wp_handler (.inr hrequest) rfl hregular device
  | ok a =>
    have hasked : Asked m b i now w.previous w
        (Outcome.see rt w.previous .pending ⟨.requestScan device, .ok a⟩)
        (w₂.apply rt i (.requestScan device) (.ok a)) :=
      (hissue.rely hrely).apply (.inr hrequest)
    rw [Outcome.see_ok (by simp) (by simp)] at hasked
    rw [andThen_ok, wp_perform]
    refine ⟨hasked.pre_read (by simp) rfl, fun r w₃ hn => ?_⟩
    cases r with
    | ok a =>
      obtain ⟨hasked', hregular', -⟩ := hasked.next_read (by simp) rfl hn
      exact ⟨_, _, hasked', hregular'⟩
    | error x =>
      obtain ⟨hregular', w₄, hrely', rfl, -⟩ := scanning_next hn
      exact (hasked.rely hrely').wp_handler (.inl rfl) rfl hregular' device

/-- `off_properties_changed` changes nothing about the scan. -/
theorem Ended.unsubscribe {α : Type} {r : Except Exc α} (h : Ended m b i now r w) {path : String}
    {a : Except Exc Unit} (hn : ((scanning m rt b).mon i).next w (.unsubscribe path) a w') :
    Ended m b i now r w' := by
  cases r with
  | error x =>
    obtain ⟨hrest, hexcused⟩ := h
    obtain ⟨hrest', hkeeps⟩ := hrest.next_read rfl hn
    exact ⟨hrest', hexcused.imp_right (.imp_right fun h hb => hkeeps.cache.trans (h hb))⟩
  | ok _ =>
    obtain ⟨previous, w₀, hasked, -⟩ := h
    obtain ⟨hasked', hregular, -⟩ := hasked.next_read (by simp) rfl hn
    exact ⟨previous, w₀, hasked', hregular⟩

theorem Ended.lock {α : Type} {r : Except Exc α} (h : Ended m b i now r w) :
    w.scanLock = some i := by
  cases r with
  | error x => exact h.1.lock
  | ok _ =>
    obtain ⟨_, _, hasked, -⟩ := h
    exact hasked.lock

theorem Rest.wp_requestScanAndWait (h : Rest m b i w) (hdue : Due m now w) (device : String) :
    ((scanning m rt b).mon i).wp (requestScanAndWait m rt device) (Ended m b i now) w := by
  unfold requestScanAndWait
  rw [wp_bind]
  refine wp_mono (wp_interfaces (fun c hc => Rest.leads_read (Call.isRead_of_looksUp hc)) device
    [WIRELESS, PROPS] h.stays_refl) fun r w₁ hr => ?_
  cases r with
  | error x => exact ⟨hr.1.1, excused_of_looked hr.2⟩
  | ok a =>
    obtain ⟨hrest₁, hkeeps₁⟩ := hr
    rw [andThen_ok, wp_bind]
    refine wp_mono (hrest₁.wp_lastScan device) fun r w₂ hr => ?_
    cases r with
    | error x => exact ⟨hr.1.1, hr.2 x rfl⟩
    | ok previous =>
      obtain ⟨⟨hrest₂, hkeeps₂⟩, -⟩ := hr
      rw [andThen_ok, wp_bind, wp_ask]
      refine ⟨hrest₂.pre_read rfl, fun a w₃ hn => ?_⟩
      obtain ⟨hrest₃, hkeeps₃⟩ := hrest₂.next_read rfl hn
      have hprevious : w₃.previous = previous := by
        obtain ⟨-, w₄, -, rfl, -⟩ := scanning_next hn
        rfl
      have hdue₃ := ((hdue.keeps hkeeps₁).keeps hkeeps₂).keeps hkeeps₃
      rw [andThen_ok, wp_ensure, ← hprevious]
      refine wp_mono (hrest₃.wp_wait hdue₃ device) fun r w₄ hr => ?_
      unfold andFinally
      rw [wp_ask]
      refine ⟨⟨scanAllowed_read rfl hr.lock, fun hy => (by cases hy)⟩, fun a w₅ hn => ?_⟩
      exact hr.unsubscribe hn

end Wait

/-! ### The manager's own attributes -/

/-- The latest `RequestScan` was completed. -/
def LatestCompleted (w : World) : Prop := ∃ a, w.attempts.head? = some a ∧ a.outcome = .completed

section Own

variable {now : ℚ} {previous : ℤ} {w₀ : World}

/-- A completed scan writes down when the rate limit was checked. -/
theorem Asked.written (h : Asked m b i now previous w₀ .completed w) {r : Except Exc Unit}
    (hn : ((scanning m rt b).mon i).next w (.setLastScanRequest now) r w') :
    Rest m b i w' ∧ LatestCompleted w' := by
  obtain ⟨hregular, rfl, rfl⟩ : (b → Regular m w') ∧ r = .ok () ∧
      w' = w.apply rt i (.setLastScanRequest now) (.ok ()) := scanning_next_now rfl hn
  have hattempts : (w.apply rt i (.setLastScanRequest now) (.ok ())).attempts =
      ⟨i, now, w₀.clock, previous, .completed⟩ :: w₀.attempts :=
    (World.apply_attempts_now _ rfl).trans h.attempts
  refine ⟨⟨h.lock, ?_, ?_, hregular⟩, ⟨_, congrArg List.head? hattempts, rfl⟩⟩
  · exact h.base.sound.complete h.base.decided hattempts rfl h.due.due h.due.past le_rfl h.clock rfl
  · show AllDecided (w.apply rt i (.setLastScanRequest now) (.ok ())).attempts
    rw [hattempts]
    exact List.forall_mem_cons.2 ⟨rfl, h.base.decided⟩

namespace Rest

theorem next_monotonic (h : Rest m b i w) {r : Except Exc ℚ}
    (hn : ((scanning m rt b).mon i).next w .monotonic r w') :
    Rest m b i w' ∧ r = .ok w.clock ∧ w'.clock = w.clock ∧ w'.fields = w.fields ∧
      w'.attempts = w.attempts ∧ w'.readings = w.clock :: w.readings := by
  obtain ⟨hregular, rfl, rfl⟩ : (b → Regular m w') ∧ r = .ok w.clock ∧
      w' = w.apply rt i .monotonic (.ok w.clock) := scanning_next_now rfl hn
  have hattempts : (w.apply rt i .monotonic (.ok w.clock)).attempts = w.attempts :=
    World.apply_attempts_now _ rfl
  have hreceive : w.receive i .monotonic (.ok w.clock) =
      { w with readings := w.clock :: w.readings } := if_pos h.lock
  have happly : (w.apply rt i .monotonic (.ok w.clock)).fields = w.fields ∧
      (w.apply rt i .monotonic (.ok w.clock)).readings = w.clock :: w.readings ∧
      (w.apply rt i .monotonic (.ok w.clock)).scanLock = w.scanLock ∧
      (w.apply rt i .monotonic (.ok w.clock)).clock = w.clock := by
    unfold World.apply
    rw [hreceive]
    exact ⟨rfl, rfl, rfl, rfl⟩
  obtain ⟨hfields, hreadings, hlock, hclock⟩ := happly
  have hdecided : AllDecided (w.apply rt i .monotonic (.ok w.clock)).attempts := by
    rw [hattempts]
    exact h.decided
  refine ⟨⟨hlock.trans h.lock, ?_, hdecided, hregular⟩, rfl, hclock, hfields, hattempts, hreadings⟩
  exact h.sound.mono hclock.ge (by rw [hfields]) (by rw [hfields]) hattempts (.inl hdecided)

/-- With a completed scan, the cache may hold anything. -/
theorem next_setScanCache (h : Rest m b i w) (hb : b → LatestCompleted w)
    {cache : List WifiAccessPoint} {r : Except Exc Unit}
    (hn : ((scanning m rt b).mon i).next w (.setScanCache cache) r w') :
    Rest m b i w' ∧ w'.attempts = w.attempts := by
  obtain ⟨hregular, rfl, rfl⟩ : (b → Regular m w') ∧ r = .ok () ∧
      w' = w.apply rt i (.setScanCache cache) (.ok ()) := scanning_next_now rfl hn
  have hattempts : (w.apply rt i (.setScanCache cache) (.ok ())).attempts = w.attempts :=
    World.apply_attempts_now _ rfl
  have hdecided : AllDecided (w.apply rt i (.setScanCache cache) (.ok ())).attempts := by
    rw [hattempts]
    exact h.decided
  refine ⟨⟨h.lock, ⟨⟨?_, ?_, ?_⟩, fun hb' => ⟨?_, ?_⟩, .inl hdecided⟩, hdecided, hregular⟩,
    hattempts⟩
  · intro a ha
    exact h.sound.paced.issued a (by rwa [hattempts] at ha)
  · rw [hattempts]
    exact h.sound.paced.follow
  · rw [hattempts]
    exact h.sound.paced.latest
  · rw [hattempts]
    obtain ⟨a, ha, hcompleted⟩ := hb hb'
    exact fun hall => absurd hcompleted (hall a (List.mem_of_mem_head? ha))
  · rw [hattempts]
    exact (h.sound.trusted hb').due

theorem next_setLastScanResult (h : Rest m b i w) {time : ℚ} {r : Except Exc Unit}
    (hn : ((scanning m rt b).mon i).next w (.setLastScanResult time) r w') :
    Rest m b i w' ∧ w'.attempts = w.attempts := by
  obtain ⟨hregular, rfl, rfl⟩ : (b → Regular m w') ∧ r = .ok () ∧
      w' = w.apply rt i (.setLastScanResult time) (.ok ()) := scanning_next_now rfl hn
  have hattempts : (w.apply rt i (.setLastScanResult time) (.ok ())).attempts = w.attempts :=
    World.apply_attempts_now _ rfl
  exact ⟨h.keeps ⟨h.lock, le_rfl, rfl, rfl, rfl, hattempts⟩ hregular, hattempts⟩

theorem next_release (h : Rest m b i w) {r : Except Exc Unit}
    (hn : ((scanning m rt b).mon i).next w (.release .scan) r w') :
    Sound m b w' ∧ w'.attempts = w.attempts := by
  obtain ⟨-, rfl, rfl⟩ : (b → Regular m w') ∧ r = .ok () ∧
      w' = w.apply rt i (.release .scan) (.ok ()) := scanning_next_now rfl hn
  have hattempts : (w.apply rt i (.release .scan) (.ok ())).attempts = w.attempts :=
    World.apply_attempts_now _ rfl
  refine ⟨h.sound.mono le_rfl rfl rfl hattempts (.inl ?_), hattempts⟩
  rw [hattempts]
  exact h.decided

end Rest

/-- Who gets the lock finds every scan decided. -/
theorem rest_of_acquire {a : Unit}
    (hn : ((scanning m rt b).mon i).next w (.acquire .scan) (.ok a) w') : Rest m b i w' := by
  obtain ⟨hregular, w₁, -, rfl, hlegal, -⟩ := scanning_next hn
  obtain ⟨hsound, hlegal⟩ := hlegal rfl
  have hdecided := hsound.allDecided_of_free (of_decide_eq_true hlegal)
  have hattempts : (w₁.apply rt i (.acquire .scan) (.ok a)).attempts = w₁.attempts :=
    hdecided.map_see
  have hdecided' : AllDecided (w₁.apply rt i (.acquire .scan) (.ok a)).attempts := by
    rw [hattempts]
    exact hdecided
  exact ⟨rfl, hsound.mono le_rfl rfl rfl hattempts (.inl hdecided'), hdecided', hregular⟩

/-- Who is cancelled while it waits for the lock leaves the record alone. -/
theorem sound_of_cancelled (hidle : w.scanLock ≠ some i) {x : Exc}
    (hn : ((scanning m rt b).mon i).next w (.acquire .scan) (.error x) w') : Sound m b w' := by
  obtain ⟨-, w₁, hrely, rfl, hlegal, -⟩ := scanning_next hn
  obtain ⟨hsound, -⟩ := hlegal rfl
  have hattempts : (w₁.apply rt i (.acquire .scan) (.error x)).attempts = w₁.attempts :=
    hsound.settled.map_see fun hi => hidle (hrely.lock.1 hi)
  refine hsound.mono le_rfl rfl rfl hattempts ?_
  rw [hattempts]
  exact hsound.settled

/-- Who does not hold the lock looks at the attributes or at the clock. -/
theorem next_look (h : Sound m b w) (hidle : w.scanLock ≠ some i)
    (hc : c = .fields ∨ c = .monotonic) {r : Except Exc (Reply c)}
    (hn : ((scanning m rt b).mon i).next w c r w') :
    Sound m b w' ∧ w'.scanLock ≠ some i := by
  rcases hc with rfl | rfl
  · obtain ⟨-, rfl, rfl⟩ : (b → Regular m w') ∧ r = .ok w.fields ∧
        w' = w.apply rt i .fields (.ok w.fields) := scanning_next_now rfl hn
    have hattempts : (w.apply rt i .fields (.ok w.fields)).attempts = w.attempts :=
      World.apply_attempts_now _ rfl
    refine ⟨h.mono le_rfl rfl rfl hattempts ?_, hidle⟩
    rw [hattempts]
    exact h.settled
  · obtain ⟨-, rfl, rfl⟩ : (b → Regular m w') ∧ r = .ok w.clock ∧
        w' = w.apply rt i .monotonic (.ok w.clock) := scanning_next_now rfl hn
    have hattempts : (w.apply rt i .monotonic (.ok w.clock)).attempts = w.attempts :=
      World.apply_attempts_now _ rfl
    have hreceive : w.receive i .monotonic (.ok w.clock) = w := if_neg hidle
    have hsettled : Settled w.scanLock (w.apply rt i .monotonic (.ok w.clock)).attempts := by
      rw [hattempts]
      exact h.settled
    unfold World.apply at hattempts hsettled ⊢
    rw [hreceive] at *
    exact ⟨h.mono le_rfl rfl rfl hattempts hsettled, hidle⟩

end Own

/-! ### The scan -/

section Scan

variable {now : ℚ}

theorem Rest.wp_attemptScan (h : Rest m b i w) (hdue : Due m now w) (device : String) :
    ((scanning m rt b).mon i).wp (attemptScan m rt device now) (fun r w' =>
      Rest m b i w' ∧ ∀ a, r = .ok a → b → LatestCompleted w') w := by
  unfold attemptScan
  rw [wp_tryCatch, wp_bind]
  refine wp_mono (h.wp_requestScanAndWait hdue device) fun r w₁ hr => ?_
  cases r with
  | ok a =>
    obtain ⟨previous, w₀, hasked, -⟩ := hr
    rw [andThen_ok, wp_ask]
    refine ⟨⟨hasked.lock, fun hy => (by cases hy)⟩, fun a w₂ hn => ?_⟩
    obtain ⟨hrest, hcompleted⟩ := hasked.written hn
    exact ⟨hrest, fun _ _ _ => hcompleted⟩
  | error x =>
    obtain ⟨hrest, hexcused⟩ := hr
    rw [andThen_error, orElse_error, wp_ite]
    split
    · exact ⟨hrest, fun _ hx => (by cases hx)⟩
    · rename_i hbackend
      rw [wp_ite]
      split
      · rename_i hexc
        rw [wp_bind, wp_ask]
        refine ⟨⟨trivial, fun hy => (by cases hy)⟩, fun self w₂ hn => ?_⟩
        obtain ⟨-, hself, -⟩ : _ ∧ .ok self = Except.ok w₁.fields ∧ _ := scanning_next_now rfl hn
        cases hself
        obtain ⟨hrest₂, -⟩ := hrest.next_read rfl hn
        rw [andThen_ok, wp_ite]
        split
        · exact ⟨hrest₂, fun _ hx => (by cases hx)⟩
        · rename_i hcache
          -- a regular run does not hide the failure
          refine ⟨hrest₂, fun _ _ hb => absurd ?_ hcache⟩
          rcases hexcused with hx | hx | hx
          · exact absurd hx hbackend
          · simp [hexc] at hx
          · exact hx hb
      · exact ⟨hrest, fun _ hx => (by cases hx)⟩

/-- In a regular run, the rate limit holds a scan back only after a completed one. -/
theorem Rest.latestCompleted_of_held (h : Rest m b i w) (hread : w.readings.head? = some now)
    (hpast : now = w.clock) (hheld : ¬m.scanMinInterval ≤ now - w.fields.lastScanRequest)
    (hb : b) : LatestCompleted w := by
  obtain ⟨hfresh, hdue⟩ := h.sound.trusted hb
  cases hattempts : w.attempts with
  | nil =>
    have hzero := (hfresh (by simp [hattempts])).1
    have hlate := (h.regular hb).1 now (List.mem_of_mem_head? hread)
    rw [hzero, sub_zero] at hheld
    exact absurd hlate hheld
  | cons a before =>
    refine ⟨a, by simp [hattempts], ?_⟩
    by_contra hne
    rw [hpast] at hheld
    exact hheld (hdue a (by simp [hattempts]) hne)

/-- What is done after the rate limit -/
theorem Rest.wp_show (h : Rest m b i w) (hb : b → LatestCompleted w) (device : String) :
    ((scanning m rt b).mon i).wp (do
      let result ← readAccessPoints rt device
      ask (Call.setScanCache result)
      let time ← ask Call.monotonic
      ask (Call.setLastScanResult time)
      return (⟨false, result⟩ : ScanResponse) : Proc ScanResponse) (fun r w' =>
      Rest m b i w' ∧ ∀ a, r = .ok a → b → LatestCompleted w') w := by
  have hlatest : ∀ {w' : World}, w'.attempts = w.attempts → b → LatestCompleted w' := by
    intro w' hattempts hb'
    unfold LatestCompleted
    rw [hattempts]
    exact hb hb'
  rw [wp_bind]
  refine wp_mono (h.wp_reading (reading_any.readAccessPoints device))
    fun r w₁ hr => ?_
  obtain ⟨hrest₁, hkeeps⟩ := hr
  cases r with
  | error x => exact ⟨hrest₁, fun _ hx => (by cases hx)⟩
  | ok result =>
    rw [andThen_ok, wp_bind, wp_ask]
    refine ⟨⟨hrest₁.lock, fun hy => (by cases hy)⟩, fun a w₂ hn => ?_⟩
    obtain ⟨hrest₂, hattempts₂⟩ := hrest₁.next_setScanCache (hlatest hkeeps.attempts) hn
    rw [andThen_ok, wp_bind, wp_ask]
    refine ⟨⟨trivial, fun hy => (by cases hy)⟩, fun time w₃ hn => ?_⟩
    obtain ⟨hrest₃, -, -, -, hattempts₃, -⟩ := hrest₂.next_monotonic hn
    rw [andThen_ok, wp_bind, wp_ask]
    refine ⟨⟨hrest₃.lock, fun hy => (by cases hy)⟩, fun a w₄ hn => ?_⟩
    obtain ⟨hrest₄, hattempts₄⟩ := hrest₃.next_setLastScanResult hn
    refine ⟨hrest₄, fun _ _ => hlatest ?_⟩
    rw [hattempts₄, hattempts₃, hattempts₂, hkeeps.attempts]

theorem Rest.wp_lockedScan (h : Rest m b i w) :
    ((scanning m rt b).mon i).wp (lockedScan m rt) (fun r w' =>
      Rest m b i w' ∧ ∀ a, r = .ok a → b → LatestCompleted w') w := by
  unfold lockedScan
  rw [wp_bind]
  refine wp_mono (h.wp_reading (reading_any.wifiDevice true))
    fun r w₁ hr => ?_
  obtain ⟨hrest₁, -⟩ := hr
  cases r with
  | error x => exact ⟨hrest₁, fun _ hx => (by cases hx)⟩
  | ok device =>
    rw [andThen_ok, wp_bind, wp_ask]
    refine ⟨⟨trivial, fun hy => (by cases hy)⟩, fun now w₂ hn => ?_⟩
    obtain ⟨hrest₂, hnow, hclock, -, -, hreadings⟩ := hrest₁.next_monotonic hn
    cases hnow
    have hread : w₂.readings.head? = some w₁.clock := by rw [hreadings, List.head?_cons]
    rw [andThen_ok, wp_bind, wp_ask]
    refine ⟨⟨trivial, fun hy => (by cases hy)⟩, fun self w₃ hn => ?_⟩
    obtain ⟨-, hself, -⟩ : _ ∧ .ok self = Except.ok w₂.fields ∧ _ := scanning_next_now rfl hn
    cases hself
    obtain ⟨hrest₃, hkeeps₃⟩ := hrest₂.next_read rfl hn
    have hread₃ : w₃.readings.head? = some w₁.clock := by rw [hkeeps₃.readings, hread]
    rw [andThen_ok]
    by_cases hdue : m.scanMinInterval ≤ w₁.clock - w₂.fields.lastScanRequest
    · rw [if_pos hdue, wp_bind]
      have hdue₂ : Due m w₁.clock w₂ := ⟨hread, hclock.ge, hdue⟩
      refine wp_mono (hrest₃.wp_attemptScan (hdue₂.keeps hkeeps₃) device) fun r w₄ hr => ?_
      obtain ⟨hrest₄, hlatest⟩ := hr
      cases r with
      | error x => exact ⟨hrest₄, fun _ hx => (by cases hx)⟩
      | ok a => exact hrest₄.wp_show (hlatest a rfl) device
    · rw [if_neg hdue]
      have hlatest : b → LatestCompleted w₂ :=
        hrest₂.latestCompleted_of_held hread hclock.symm hdue
      refine hrest₃.wp_show (fun hb => ?_) device
      unfold LatestCompleted
      rw [hkeeps₃.attempts]
      exact hlatest hb

/-- **A scan leaves the record sound, and in a regular run it returns an empty list only after a
completed scan.** -/
theorem wp_scan (h : Sound m b w) (hidle : w.scanLock ≠ some i) (params : Dict) :
    ((scanning m rt b).mon i).wp (scan m rt params) (fun r w' =>
      Sound m b w' ∧ ∀ a, r = .ok a → a.accessPoints = [] → b → LatestCompleted w') w := by
  unfold scan
  rw [wp_ite]
  split
  · exact ⟨h, fun _ hx => (by cases hx)⟩
  · rw [wp_bind, wp_ask]
    refine ⟨⟨trivial, fun hy => (by cases hy)⟩, fun now w₁ hn => ?_⟩
    obtain ⟨h₁, hidle₁⟩ := next_look h hidle (.inr rfl) hn
    rw [andThen_ok, wp_bind, wp_ask]
    refine ⟨⟨trivial, fun hy => (by cases hy)⟩, fun self w₂ hn => ?_⟩
    obtain ⟨h₂, hidle₂⟩ := next_look h₁ hidle₁ (.inl rfl) hn
    rw [andThen_ok, wp_ite]
    split
    · rename_i hcached
      refine ⟨h₂, fun a ha hempty => ?_⟩
      cases ha
      have hnone : self.scanCache = [] := hempty
      simp [hnone] at hcached
    · unfold withLock
      rw [wp_bind, wp_perform]
      refine ⟨⟨hidle₂, fun _ => h₂⟩, fun r w₃ hn => ?_⟩
      cases r with
      | error x => exact ⟨sound_of_cancelled hidle₂ hn, fun _ hx => (by cases hx)⟩
      | ok a =>
        rw [andThen_ok, wp_ensure]
        refine wp_mono (rest_of_acquire hn).wp_lockedScan fun r w₄ hr => ?_
        obtain ⟨hrest, hlatest⟩ := hr
        unfold andFinally
        rw [wp_ask]
        refine ⟨⟨hrest.lock, fun hy => (by cases hy)⟩, fun a w₅ hn => ?_⟩
        obtain ⟨hsound, hattempts⟩ := hrest.next_release hn
        refine ⟨hsound, fun a ha _ hb => ?_⟩
        unfold LatestCompleted
        rw [hattempts]
        exact hlatest a ha hb

end Scan

end Task

end ApplianceAdmin.Network
