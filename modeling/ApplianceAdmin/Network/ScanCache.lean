import ApplianceAdmin.Async.Segments
import ApplianceAdmin.Network.Radios
import ApplianceAdmin.Network.ScanRecord

/-!
# The cache of scans

Any number of `scan` calls at once, each of which may be forced, fail or be cancelled.

* `SameCache`: what every move does, unless an uncached scan is completed with it;
* `Answers`: the move with which a call ends;
* `Logged`: the uncached scans that a run has completed; `matches_of_logged`: the cache is the latest
  of them;
* `cache_coherent`: what a cached response shows, and what leaves the cache alone.
-/

namespace ApplianceAdmin.Network

open Async Async.Prog Async.Monitor Python

/-- The cached list and its timestamp are the same. -/
structure SameCache (w w' : World) : Prop where
  list : w'.fields.scanCache = w.fields.scanCache
  time : w'.fields.lastScanResult = w.fields.lastScanResult

/-- A call that leaves them alone -/
def Call.spares : Call → Bool
  | .setScanCache _ | .setLastScanResult _ => false
  | _ => true

/-- A program that makes only such calls -/
abbrev Sparing {α : Type} (p : Proc α) : Prop :=
  Within (fun c : Call => c.spares = true) (fun _ => True) p

/-! ### What a scan does before it has a result -/

section Sparing

variable {m : NetworkManager} {rt : Runtime}

theorem sparing_of_reading {α : Type} {p : Proc α} (h : Reading (fun _ => True) p) : Sparing p :=
  within_mono (fun c (hc : c.isRead = true) => by cases c <;> first | rfl | cases hc) h

theorem sparing_perform {c : Call} (hc : c.spares = true) : Sparing (perform c : Proc (Reply c)) :=
  (within_perform c).2 hc

theorem sparing_ask {c : Call} (hc : c.spares = true) : Sparing (ask c : Proc (Reply c)) :=
  (within_ask c).2 hc

theorem sparing_raise {α : Type} (x : Exc) : Sparing (raise x : Proc α) := (within_raise x).2 trivial

theorem sparing_lastScan (device : String) : Sparing (lastScan rt device) :=
  sparing_of_reading (reading_any.lastScan device)

theorem sparing_requestScanAndWait (device : String) : Sparing (requestScanAndWait m rt device) := by
  unfold requestScanAndWait
  refine within_bind (sparing_of_reading (reading_any.interfaces _ _)) fun _ => ?_
  refine within_bind (sparing_lastScan device) fun previous => within_bind (sparing_ask rfl) fun _ => ?_
  refine within_ensure (within_tryCatch ?_ fun x _ => ?_) (sparing_ask rfl)
  · exact within_bind (sparing_perform rfl) fun _ => sparing_perform rfl
  · split
    · refine within_bind (sparing_lastScan device) fun current => ?_
      split
      · exact sparing_raise _
      · exact within_pure _
    · exact sparing_raise _

theorem sparing_attemptScan (device : String) (now : ℚ) : Sparing (attemptScan m rt device now) := by
  unfold attemptScan
  refine within_tryCatch ?_ fun x _ => ?_
  · exact within_bind (sparing_requestScanAndWait device) fun _ => sparing_ask rfl
  · split_ifs
    · exact sparing_raise _
    · refine within_bind (sparing_ask rfl) fun self => ?_
      split
      · exact sparing_raise _
      · exact within_pure _
    · exact sparing_raise _

end Sparing

/-! ### The moves of a scan -/

/-- `bool(params.get("force", False))` -/
def forced (params : Dict) : Bool := ((params.get? "force").getD (.bool false)).truthy

/-- A call of `scan`; its outcome remembers the parameters. -/
def scanCall (m : NetworkManager) (rt : Runtime) (params : Dict) : Proc (Dict × ScanResponse) := do
  let response ← scan m rt params
  return (params, response)

def IsScanCall (m : NetworkManager) (rt : Runtime) (p : Proc (Dict × ScanResponse)) : Prop :=
  ∃ params, p = scanCall m rt params

/-- The move with which a scan ends: the worlds before and after it -/
def Answers (m : NetworkManager) : Except Exc (Dict × ScanResponse) → World × World → Prop
  | .error _, w => SameCache w.1 w.2
  | .ok (params, ⟨true, accessPoints⟩), w => SameCache w.1 w.2 ∧
      accessPoints = w.2.fields.scanCache ∧ accessPoints ≠ [] ∧
      w.2.clock - w.2.fields.lastScanResult < m.scanCacheSeconds ∧ forced params = false
  | .ok (_, ⟨false, accessPoints⟩), w =>
      w.2.fields.scanCache = accessPoints ∧ w.2.fields.lastScanResult = w.2.clock

section Moves

variable {m : NetworkManager} {rt : Runtime} {i : Tid} {w w₀ : World} {c : Call}

theorem SameCache.refl (w : World) : SameCache w w := ⟨rfl, rfl⟩

theorem SameCache.trans {w'' : World} (h : SameCache w₀ w) (h' : SameCache w w'') :
    SameCache w₀ w'' :=
  ⟨h'.list.trans h.list, h'.time.trans h.time⟩

theorem sameCache_issue (c : Call) : SameCache w (w.issue i c) := by
  constructor <;> rw [World.issue_fields]

theorem sameCache_apply (hc : c.spares = true) (r : Except Exc (Reply c)) :
    SameCache w (w.apply rt i c r) := by
  show SameCache w { w.receive i c r with attempts := _, hidden := _ }
  unfold World.receive
  split <;> try split_ifs
  all_goals first
    | exact ⟨rfl, rfl⟩
    | (cases ‹Lock› <;> exact ⟨rfl, rfl⟩)
    | cases hc

theorem sameCache_tau {w w' : World} (h : World.Tau w w') : SameCache w w' := by
  constructor <;> rw [World.tau_fields h]

/-- The monitor of the moves of scan `i` -/
abbrev moves (rt : Runtime) (i : Tid) : Monitor Reply Exc (World × World) :=
  (manager rt).segments SameCache i

theorem moves_next (hc : c.spares = true) {r : Except Exc (Reply c)} {s s' : World × World}
    (hs : SameCache s.1 s.2) (hn : (moves rt i).next s c r s') : SameCache s'.1 s'.2 := by
  simp only [moves, Env.segments] at hn
  split at hn
  · rw [hn.2]
    exact sameCache_apply hc r
  · rw [hn.2]
    exact (hs.trans (sameCache_issue c)).trans (sameCache_apply hc r)

theorem wp_sparing {α : Type} {p : Proc α} (hp : Sparing p) {s : World × World}
    (hs : SameCache s.1 s.2) : (moves rt i).wp p (fun _ s => SameCache s.1 s.2) s := by
  refine wp_mono (wp_of_within (S := fun c : Call => c.spares = true)
    (P := fun s => SameCache s.1 s.2) ?_ ?_ hp hs) fun r s hr => hr.1
  · exact fun s c _ hs _ => hs.trans (sameCache_issue c)
  · exact fun s c r s' hc hs hn => ⟨moves_next hc hs hn, fun _ _ => trivial⟩

/-- A call that nobody waits for -/
theorem moves_now (hc : c.awaited = false) {r : Except Exc (Reply c)} {s s' : World × World}
    (hn : (moves rt i).next s c r s') : r = (s.2.issue i c).answer c ∧
      s' = (s.1, (s.2.issue i c).apply rt i c r) := by
  simp only [moves, Env.segments] at hn
  rwa [if_neg (show ¬(manager rt).yields c = true by simp [manager, hc])] at hn

/-- A scan that has not found its answer in the cache -/
def Scanned : Except Exc ScanResponse → World × World → Prop
  | .error _, s => SameCache s.1 s.2
  | .ok response, s => response.cached = false ∧ s.2.fields.scanCache = response.accessPoints ∧
      s.2.fields.lastScanResult = s.2.clock

/-- A sparing program and what comes after it -/
theorem wp_sparing_bind {α β : Type} {p : Proc α} (hp : Sparing p) {f : α → Proc β}
    {Q : Except Exc β → World × World → Prop} {s : World × World} (hs : SameCache s.1 s.2)
    (herr : ∀ x s', SameCache s'.1 s'.2 → Q (.error x) s')
    (hok : ∀ a s', SameCache s'.1 s'.2 → (moves rt i).wp (f a) Q s') :
    (moves rt i).wp (p >>= f) Q s := by
  rw [wp_bind]
  refine wp_mono (wp_sparing hp hs) fun r s' hs' => ?_
  cases r with
  | ok a => exact hok a s' hs'
  | error x => exact herr x s' hs'

theorem World.apply_monotonic (r : Except Exc ℚ) : (w.apply rt i .monotonic r).fields = w.fields := by
  show (w.receive i .monotonic r).fields = _
  unfold World.receive
  dsimp only
  split <;> rfl

theorem next_monotonic {time : ℚ} {s s' : World × World}
    (hn : (moves rt i).next s .monotonic (.ok time) s') : time = s.2.clock ∧ s'.1 = s.1 ∧
      s'.2.fields = s.2.fields ∧ s'.2.clock = s.2.clock := by
  obtain ⟨htime, rfl⟩ := moves_now rfl hn
  exact ⟨Except.ok.inj htime, rfl, World.apply_monotonic _, World.apply_clock _ _⟩

theorem next_fields {self : Fields} {s s' : World × World}
    (hn : (moves rt i).next s .fields (.ok self) s') : self = s.2.fields ∧ s'.1 = s.1 ∧
      s'.2.fields = s.2.fields ∧ s'.2.clock = s.2.clock := by
  obtain ⟨hself, rfl⟩ := moves_now rfl hn
  exact ⟨Except.ok.inj hself, rfl, rfl, rfl⟩

/-- The result is stored together with the time. -/
theorem wp_store (result : List WifiAccessPoint) (s : World × World) :
    (moves rt i).wp (do
      ask (Call.setScanCache result)
      let time ← ask Call.monotonic
      ask (Call.setLastScanResult time)
      return (⟨false, result⟩ : ScanResponse)) Scanned s := by
  rw [wp_bind, wp_ask]
  refine ⟨nofun, fun _ s₁ hn => ?_⟩
  have hlist : s₁.2.fields.scanCache = result := by
    obtain ⟨-, rfl⟩ := moves_now rfl hn
    rfl
  rw [andThen_ok, wp_bind, wp_ask]
  refine ⟨nofun, fun time s₂ hn => ?_⟩
  obtain ⟨rfl, -, hfields, hclock⟩ := next_monotonic hn
  rw [andThen_ok, wp_bind, wp_ask]
  refine ⟨nofun, fun _ s₃ hn => ?_⟩
  obtain ⟨-, rfl⟩ := moves_now rfl hn
  exact ⟨rfl, (congrArg Fields.scanCache hfields).trans hlist, hclock.symm⟩

theorem wp_lockedScan {s : World × World} (hs : SameCache s.1 s.2) :
    (moves rt i).wp (lockedScan m rt) Scanned s := by
  unfold lockedScan
  refine wp_sparing_bind (sparing_of_reading (reading_any.wifiDevice true)) hs
    (fun _ _ h => h) fun device s₁ h₁ => ?_
  refine wp_sparing_bind (sparing_ask rfl) h₁ (fun _ _ h => h) fun now s₂ h₂ => ?_
  refine wp_sparing_bind (sparing_ask rfl) h₂ (fun _ _ h => h) fun self s₃ h₃ => ?_
  have hread : ∀ s, SameCache s.1 s.2 → (moves rt i).wp (do
      let result ← readAccessPoints rt device
      ask (Call.setScanCache result)
      let time ← ask Call.monotonic
      ask (Call.setLastScanResult time)
      return (⟨false, result⟩ : ScanResponse)) Scanned s := by
    intro s hs
    exact wp_sparing_bind (sparing_of_reading (reading_any.readAccessPoints device))
      hs (fun _ _ h => h) fun result s' _ => wp_store result s'
  dsimp only
  rw [wp_ite]
  split
  · exact wp_sparing_bind (sparing_attemptScan device now) h₃ (fun _ _ h => h)
      fun _ s' h' => hread s' h'
  · exact hread s₃ h₃

/-- Giving the lock back changes nothing. -/
theorem scanned_release {r : Except Exc ScanResponse} {s s' : World × World} (h : Scanned r s)
    {answer : Except Exc Unit} (hn : (moves rt i).next s (.release .scan) answer s') :
    Scanned r s' := by
  obtain ⟨-, rfl⟩ := moves_now rfl hn
  cases r with
  | error x => exact ⟨h.list, h.time⟩
  | ok response => exact h

theorem wp_slowScan {s : World × World} (hs : SameCache s.1 s.2) :
    (moves rt i).wp (withLock .scan (lockedScan m rt)) Scanned s := by
  unfold withLock
  refine wp_sparing_bind (sparing_perform rfl) hs (fun _ _ h => h) fun _ s₁ h₁ => ?_
  rw [wp_ensure]
  refine wp_mono (wp_lockedScan h₁) fun r s₂ h₂ => ?_
  unfold andFinally
  rw [wp_ask]
  exact ⟨nofun, fun _ s₃ hn => scanned_release h₂ hn⟩

/-- **How a call of `scan` moves.** -/
theorem wp_scanCall {p : Proc (Dict × ScanResponse)} (hp : IsScanCall m rt p) (w : World) :
    (moves rt i).wp p (Answers m) (w, w) := by
  obtain ⟨params, rfl⟩ := hp
  unfold scanCall scan
  rw [wp_bind, wp_ite]
  split
  · exact SameCache.refl w
  rw [wp_bind, wp_ask]
  refine ⟨nofun, fun now s₁ hn => ?_⟩
  obtain ⟨rfl, hw₁, hfields₁, hclock₁⟩ := next_monotonic hn
  rw [andThen_ok, wp_bind, wp_ask]
  refine ⟨nofun, fun self s₂ hn => ?_⟩
  obtain ⟨rfl, hw₂, hfields₂, hclock₂⟩ := next_fields hn
  have hsame : SameCache s₂.1 s₂.2 := by
    rw [hw₂, hw₁]
    exact ⟨by rw [hfields₂, hfields₁], by rw [hfields₂, hfields₁]⟩
  rw [andThen_ok, wp_ite]
  split
  · rename_i hfast
    simp only [Bool.and_eq_true, Bool.not_eq_true', List.isEmpty_eq_false_iff,
      decide_eq_true_eq] at hfast
    obtain ⟨⟨hforced, hlist⟩, htime⟩ := hfast
    refine ⟨hsame, by rw [hfields₂], hlist, ?_, hforced⟩
    rw [hclock₂, hclock₁, hfields₂]
    exact htime
  · refine wp_mono (wp_slowScan hsame) fun r s' hs' => ?_
    cases r with
    | error x => exact hs'
    | ok response =>
      obtain ⟨cached, accessPoints⟩ := response
      obtain ⟨rfl, hlist, htime⟩ := hs'
      exact ⟨hlist, htime⟩

end Moves

/-! ### Runs with their uncached scans -/

/-- An uncached scan that has been completed -/
structure Completed where
  accessPoints : List WifiAccessPoint
  time : ℚ
  deriving DecidableEq

/-- Task `i` completes an uncached scan with this list. -/
def Completes (a b : Config Reply Exc (Dict × ScanResponse) World) (i : Tid)
    (accessPoints : List WifiAccessPoint) : Prop :=
  a.result i = none ∧ ∃ params, b.result i = some (.ok (params, ⟨false, accessPoints⟩))

/-- A run and the uncached scans that were completed in it, the latest first -/
inductive Logged (m : NetworkManager) (rt : Runtime) (clock : ℚ) :
    Config Reply Exc (Dict × ScanResponse) World → List Completed → Prop
  | init : Logged m rt clock ⟨.init clock, []⟩ []
  | completes {a b : Config Reply Exc (Dict × ScanResponse) World} {log : List Completed} {i : Tid}
      {accessPoints : List WifiAccessPoint} : Logged m rt clock a log →
      (manager rt).Step (IsScanCall m rt) a b → Completes a b i accessPoints →
      Logged m rt clock b (⟨accessPoints, b.world.clock⟩ :: log)
  | other {a b : Config Reply Exc (Dict × ScanResponse) World} {log : List Completed} :
      Logged m rt clock a log → (manager rt).Step (IsScanCall m rt) a b →
      (∀ i accessPoints, ¬Completes a b i accessPoints) → Logged m rt clock b log

/-- The cache is the latest uncached scan. -/
def Matches : List Completed → World → Prop
  | [], w => w.fields.scanCache = []
  | latest :: _, w =>
      w.fields.scanCache = latest.accessPoints ∧ w.fields.lastScanResult = latest.time

section Runs

variable {m : NetworkManager} {rt : Runtime} {clock : ℚ} {log : List Completed} {i : Tid}
  {a b : Config Reply Exc (Dict × ScanResponse) World}

theorem Matches.same {w w' : World} (h : Matches log w) (hs : SameCache w w') : Matches log w' := by
  cases log with
  | nil => exact hs.list.trans h
  | cons latest log => exact ⟨hs.list.trans h.1, hs.time.trans h.2⟩

theorem moved (h : (manager rt).Reach (IsScanCall m rt) (.init clock) a)
    (hs : (manager rt).Step (IsScanCall m rt) a b) :
    Env.Moved SameCache (fun _ => Answers m) a b :=
  Env.moved_of_reach (fun _ hp _ w => wp_scanCall hp w) (fun _ _ h => sameCache_tau h) h hs

/-- The move of the task that ends -/
theorem answers_of_ends {r : Except Exc (Dict × ScanResponse)}
    (hmoved : Env.Moved SameCache (fun _ => Answers m) a b) (hbefore : a.result i = none)
    (hend : b.result i = some r) : Answers m r (a.world, b.world) := by
  cases hmoved with
  | quiet hresult _ =>
    rw [hresult i, hbefore] at hend
    cases hend
  | ends j r' _ hj hothers hanswers =>
    by_cases hij : i = j
    · subst hij
      cases hj.symm.trans hend
      exact hanswers
    · rw [hothers i hij, hbefore] at hend
      cases hend

/-- Without an uncached scan, the cache stays. -/
theorem same_of_not_completes (hmoved : Env.Moved SameCache (fun _ => Answers m) a b)
    (hnot : ∀ i accessPoints, ¬Completes a b i accessPoints) : SameCache a.world b.world := by
  cases hmoved with
  | quiet _ hsame => exact hsame
  | ends j r hbefore hend _ hanswers =>
    cases r with
    | error x => exact hanswers
    | ok answer =>
      obtain ⟨params, cached, accessPoints⟩ := answer
      cases cached with
      | true => exact hanswers.1
      | false => exact absurd ⟨hbefore, params, hend⟩ (hnot j accessPoints)

theorem Logged.reach (h : Logged m rt clock a log) :
    (manager rt).Reach (IsScanCall m rt) (.init clock) a := by
  induction h with
  | init => exact .init
  | completes _ hs _ ih => exact ih.step hs
  | other _ hs _ ih => exact ih.step hs

/-- Every run has a log. -/
theorem exists_logged (h : (manager rt).Reach (IsScanCall m rt) (.init clock) a) :
    ∃ log, Logged m rt clock a log := by
  induction h with
  | init => exact ⟨[], .init⟩
  | @step a b _ hs ih =>
    obtain ⟨log, hlog⟩ := ih
    by_cases h : ∃ i accessPoints, Completes a b i accessPoints
    · obtain ⟨i, accessPoints, h⟩ := h
      exact ⟨_, hlog.completes hs h⟩
    · exact ⟨log, hlog.other hs fun i accessPoints hc => h ⟨i, accessPoints, hc⟩⟩

/-- The cache is always the latest uncached scan. -/
theorem matches_of_logged (h : Logged m rt clock a log) : Matches log a.world := by
  induction h with
  | init => exact rfl
  | completes hlog hs hcompletes _ =>
    obtain ⟨hbefore, params, hend⟩ := hcompletes
    exact answers_of_ends (moved hlog.reach hs) hbefore hend
  | other hlog hs hnot ih => exact ih.same (same_of_not_completes (moved hlog.reach hs) hnot)

/-- **A cached response shows the latest uncached scan, which is not empty and not too old, to a
request that was not forced; and a call that raises leaves the cache and its timestamp alone, as does
every step with which no uncached scan is completed.** -/
theorem cache_coherent (h : Logged m rt clock a log)
    (hs : (manager rt).Step (IsScanCall m rt) a b) :
    (∀ i params accessPoints, a.result i = none →
      b.result i = some (.ok (params, ⟨true, accessPoints⟩)) →
        (∃ latest earlier, log = latest :: earlier ∧ accessPoints = latest.accessPoints ∧
          b.world.clock - latest.time < m.scanCacheSeconds) ∧
        accessPoints ≠ [] ∧ forced params = false) ∧
      (∀ i x, a.result i = none → b.result i = some (.error x) → SameCache a.world b.world) ∧
      ((∀ i accessPoints, ¬Completes a b i accessPoints) → SameCache a.world b.world) := by
  have hmoved := moved h.reach hs
  refine ⟨fun i params accessPoints hbefore hend => ?_, fun i x => answers_of_ends hmoved,
    same_of_not_completes hmoved⟩
  obtain ⟨hsame, hcache, hnonempty, htime, hforced⟩ := answers_of_ends hmoved hbefore hend
  have hmatches := (matches_of_logged h).same hsame
  refine ⟨?_, hnonempty, hforced⟩
  cases log with
  | nil => exact absurd (hcache.trans hmatches) hnonempty
  | cons latest earlier =>
    refine ⟨latest, earlier, rfl, hcache.trans hmatches.1, ?_⟩
    rw [← hmatches.2]
    exact htime

end Runs

/-! ### Runs -/

/-- What a machine near one access point answers -/
def nearby : (c : Call) → Reply c
  | .getAllAccessPoints _ => ["/ap/1"]
  | .getAll path interface =>
      if interface = AP then
        Radio.props ⟨"/ap/1", [104, 111, 109, 101], "02:00:00:00:00:01", 70, 2412, 0, 0, 0⟩
      else quiet (.getAll path interface)
  | c => quiet c

/-- A scan that is completed -/
def nearbyMoves : List ((manager .ascii).Move (Dict × ScanResponse)) :=
  .spawn (scanCall .default .ascii []) :: List.replicate 19 (.resume 0 fun c => .ok (nearby c))

def nearbyRun : Option (Config Reply Exc (Dict × ScanResponse) World) :=
  (manager .ascii).play nearbyMoves ⟨.init 100, []⟩

theorem isSome_nearbyRun : nearbyRun.isSome = true := by decide +kernel

theorem reach_nearbyRun : (manager .ascii).Reach (IsScanCall .default .ascii) (.init 100)
    (nearbyRun.get isSome_nearbyRun) := by
  refine Env.reach_of_play _ nearbyMoves (fun p hp => ?_) .init
    (Option.some_get isSome_nearbyRun).symm
  obtain rfl : p = scanCall .default .ascii [] := by
    simpa [nearbyMoves, Env.spawns, List.replicate] using hp
  exact ⟨[], rfl⟩

/-- Another scan right after it -/
def cachedRun : Option (Config Reply Exc (Dict × ScanResponse) World) :=
  (manager .ascii).playOne (nearbyRun.get isSome_nearbyRun) (.spawn (scanCall .default .ascii []))

theorem isSome_cachedRun : cachedRun.isSome = true := by decide +kernel

/-- The second scan is answered from the cache. -/
theorem nearby_coherent : ∃ log, Logged .default .ascii 100 (nearbyRun.get isSome_nearbyRun) log ∧
    ∃ latest earlier, log = latest :: earlier ∧
      ((cachedRun.get isSome_cachedRun).result 1).map (·.map fun answer => answer.2) =
        some (.ok ⟨true, latest.accessPoints⟩) := by
  obtain ⟨log, hlog⟩ := exists_logged reach_nearbyRun
  have hstep : (manager .ascii).Step (IsScanCall .default .ascii)
      (nearbyRun.get isSome_nearbyRun) (cachedRun.get isSome_cachedRun) :=
    Env.step_of_playOne _ (fun p hp => by cases hp; exact ⟨[], rfl⟩)
      (Option.some_get isSome_cachedRun).symm
  have hcached : ((cachedRun.get isSome_cachedRun).result 1).map
      (·.map fun answer => answer.2.cached) = some (.ok true) := by decide +kernel
  obtain ⟨r, hend, hr⟩ := Option.map_eq_some_iff.mp hcached
  cases r with
  | error x => cases hr
  | ok answer =>
    obtain ⟨params, cached, accessPoints⟩ := answer
    obtain rfl : cached = true := Except.ok.inj hr
    obtain ⟨⟨latest, earlier, hlatest, rfl, -⟩, -⟩ :=
      (cache_coherent hlog hstep).1 1 params accessPoints (by decide +kernel) hend
    refine ⟨log, hlog, latest, earlier, hlatest, ?_⟩
    rw [hend]
    rfl

end ApplianceAdmin.Network
