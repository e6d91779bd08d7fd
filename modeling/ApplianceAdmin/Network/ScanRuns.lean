import ApplianceAdmin.Network.Requests
import ApplianceAdmin.Network.ScanTask

/-!
# Runs of scans

Any number of `scan` calls at once, each of which may fail or be cancelled, with any delays.

* `requests_spaced`: how far apart the `RequestScan` calls are;
* `rejected_tooSoon`: after a rejected scan, the next one follows at once;
* `empty_completed`: when an empty list means that a scan was completed;
* `booted_empty`: an empty list without any scan.
-/

namespace ApplianceAdmin.Network

open Async Async.Prog Python

/-- The calls of `scan` -/
def IsScan (m : NetworkManager) (rt : Runtime) (p : Proc ScanResponse) : Prop :=
  ∃ params, p = scan m rt params

variable {m : NetworkManager} {rt : Runtime} {clock : ℚ}

theorem idle_init (i : Tid) : (World.init clock).scanLock ≠ some i := by
  intro h
  cases h

/-! ### The rate limit -/

/-- The later of two scans was checked when the minimal interval had passed since the earlier
request; or the earlier scan was completed, and took no longer from its check to its request. -/
def Careful (m : NetworkManager) (later earlier : Attempt) : Prop :=
  m.scanMinInterval ≤ later.checked - earlier.issued ∨
    (earlier.outcome = .completed ∧
      earlier.issued - earlier.checked ≤ later.issued - later.checked)

instance (later earlier : Attempt) : Decidable (Careful m later earlier) :=
  inferInstanceAs (Decidable (_ ∨ _))

/-- The requests are at least the minimal interval apart. -/
def Spaced (m : NetworkManager) (later earlier : Attempt) : Prop :=
  m.scanMinInterval ≤ later.issued - earlier.issued

theorem spaced_of_careful {later earlier : Attempt} (hissued : later.checked ≤ later.issued)
    (hfollow : Follow m later earlier) (hcareful : Careful m later earlier) :
    Spaced m later earlier := by
  unfold Spaced
  rcases hcareful with h | ⟨hcompleted, hdelay⟩
  · linarith
  · have hchecked := hfollow.2 hcompleted
    linarith

/-- Each request is spaced from the one before it, so from all that are earlier. -/
theorem pairwise_spaced {attempts : List Attempt}
    (hissued : ∀ a ∈ attempts, a.checked ≤ a.issued) (hfollow : attempts.IsChain (Follow m))
    (hcareful : attempts.IsChain (Careful m)) : attempts.Pairwise (Spaced m) := by
  have hboth : attempts.IsChain fun later earlier =>
      earlier.issued ≤ later.issued ∧ Spaced m later earlier := by
    induction attempts with
    | nil => exact .nil
    | cons y attempts ih =>
      cases attempts with
      | nil => exact .singleton y
      | cons x attempts =>
        rw [List.isChain_cons_cons] at hfollow hcareful ⊢
        obtain ⟨hy, hissued⟩ := List.forall_mem_cons.1 hissued
        exact ⟨⟨hfollow.1.1, spaced_of_careful hy hfollow.1 hcareful.1⟩,
          ih hissued hfollow.2 hcareful.2⟩
  have htrans : IsTrans Attempt fun later earlier =>
      earlier.issued ≤ later.issued ∧ Spaced m later earlier := by
    refine ⟨fun z y x hzy hyx => ⟨hyx.1.trans hzy.1, ?_⟩⟩
    have := hzy.2
    unfold Spaced at this ⊢
    linarith [hyx.1]
  exact (List.isChain_iff_pairwise.1 hboth).imp fun h => h.2

/-- **In a run whose scans are careful, any two requests are at least the minimal interval apart.** -/
theorem requests_spaced {a : Config Reply Exc ScanResponse World}
    (h : (manager rt).Reach (IsScan m rt) (.init clock) a)
    (hcareful : a.world.attempts.IsChain (Careful m)) :
    a.world.attempts.Pairwise fun later earlier =>
      m.scanMinInterval ≤ later.issued - earlier.issued := by
  have hnew : ∀ p, IsScan m rt p → ∀ i w, (scanning m rt False).inv w →
      (scanning m rt False).idle i w → ((scanning m rt False).mon i).wp p
        (fun _ w' => Sound m False w') w := by
    rintro p ⟨params, rfl⟩ i w hw hidle
    exact Monitor.wp_mono (wp_scan hw hidle params) fun _ _ hr => hr.1
  have hgood := Discipline.reach_good (D := scanning m rt False)
    (Q := fun _ _ w => Sound m False w) (fun _ _ _ h => h) hnew (sound_init clock) idle_init h
    False.elim
  have hsound : Sound m False a.world := hgood.inv
  exact pairwise_spaced (fun x hx => (hsound.paced.issued x hx).1) hsound.paced.follow hcareful

/-! ### Runs against the rate limit -/

/-- `wifi.scan` without parameters -/
def scanTask : Proc ScanResponse := scan .default .ascii []

theorem isScan_scanTask : IsScan .default .ascii scanTask := ⟨[], rfl⟩

/-- Time passes until the clock shows `clock`. -/
def passes (clock : ℚ) (w : World) : Option World :=
  if w.clock ≤ clock then some { w with clock := clock } else none

theorem tau_passes (clock : ℚ) (w w' : World) (h : passes clock w = some w') : World.Tau w w' := by
  unfold passes at h
  split_ifs at h with hle
  cases h
  exact .time hle

/-- A scan and, twelve seconds later, the request of another one -/
def carefulMoves : List ((manager .ascii).Move ScanResponse) :=
  [.spawn scanTask] ++ List.replicate 17 (goOn 0) ++
    [.tau (passes 112) (tau_passes 112), .spawn scanTask] ++ List.replicate 10 (goOn 1)

def carefulRun : Option (Config Reply Exc ScanResponse World) :=
  (manager .ascii).play carefulMoves ⟨.init 100, []⟩

theorem isSome_carefulRun : carefulRun.isSome = true := by decide +kernel

theorem reach_carefulRun : (manager .ascii).Reach (IsScan .default .ascii) (.init 100)
    (carefulRun.get isSome_carefulRun) := by
  refine Env.reach_of_play _ carefulMoves (fun p hp => ?_) .init
    (Option.some_get isSome_carefulRun).symm
  obtain rfl : p = scanTask := by simpa [carefulMoves, Env.spawns, goOn, List.replicate] using hp
  exact isScan_scanTask

/-- Two scans in a row -/
theorem careful_spaced :
    (carefulRun.get isSome_carefulRun).world.attempts.length = 2 ∧
      (carefulRun.get isSome_carefulRun).world.attempts.Pairwise fun later earlier =>
        NetworkManager.default.scanMinInterval ≤ later.issued - earlier.issued :=
  ⟨by decide +kernel, requests_spaced reach_carefulRun (by decide +kernel)⟩

/-- NetworkManager rejects a scan, and there is another one. -/
def rejectedMoves : List ((manager .ascii).Move ScanResponse) :=
  [.spawn scanTask] ++ List.replicate 11 (goOn 0) ++
    [fails 0 (.py ⟨.dbus, "scanning not allowed"⟩), .spawn scanTask] ++
    List.replicate 10 (goOn 1)

def rejectedRun : Option (Config Reply Exc ScanResponse World) :=
  (manager .ascii).play rejectedMoves ⟨.init 100, []⟩

theorem isSome_rejectedRun : rejectedRun.isSome = true := by decide +kernel

/-- A rejected scan is not remembered: the next one is requested at once. -/
theorem rejected_tooSoon :
    ∃ a, (manager .ascii).Reach (IsScan .default .ascii) (.init 100) a ∧
      ¬a.world.attempts.Pairwise fun later earlier =>
        NetworkManager.default.scanMinInterval ≤ later.issued - earlier.issued := by
  refine ⟨rejectedRun.get isSome_rejectedRun, ?_, by decide +kernel⟩
  refine Env.reach_of_play _ rejectedMoves (fun p hp => ?_) .init
    (Option.some_get isSome_rejectedRun).symm
  obtain rfl : p = scanTask := by
    simpa [rejectedMoves, Env.spawns, goOn, fails, List.replicate] using hp
  exact isScan_scanTask

/-! ### Empty lists -/

/-- **In a run that is regular, a scan returns an empty list only when the latest `RequestScan` was
completed.** -/
theorem empty_completed {a b : Config Reply Exc ScanResponse World}
    (ha : (manager rt).Reach (IsScan m rt) (.init clock) a)
    (hs : (manager rt).Step (IsScan m rt) a b) (hregular : Regular m b.world) {i : Tid}
    {response : ScanResponse} (hbefore : a.result i = none)
    (hend : b.result i = some (.ok response)) (hempty : response.accessPoints = []) :
    LatestCompleted b.world := by
  have hnew : ∀ p, IsScan m rt p → ∀ i w, (scanning m rt True).inv w →
      (scanning m rt True).idle i w → ((scanning m rt True).mon i).wp p (fun r w' =>
        Sound m True w' ∧ ∀ x, r = .ok x → x.accessPoints = [] → True → LatestCompleted w') w := by
    rintro p ⟨params, rfl⟩ i w hw hidle
    exact wp_scan hw hidle params
  have houtcome := Discipline.reach_outcome (D := scanning m rt True) (fun _ _ _ h => h.1) hnew
    (sound_init clock) idle_init ha hs (fun _ => hregular) hbefore hend
  exact houtcome.2 response rfl hempty trivial

/-! ### Runs to an empty list -/

/-- A single scan, answered `n` times -/
def aloneMoves (n : ℕ) : List ((manager .ascii).Move ScanResponse) :=
  .spawn scanTask :: List.replicate n (goOn 0)

/-- The single scan when the clock shows `clock` -/
def aloneRun (clock : ℚ) (n : ℕ) : Option (Config Reply Exc ScanResponse World) :=
  (manager .ascii).play (aloneMoves n) ⟨.init clock, []⟩

theorem spawns_aloneMoves (n : ℕ) : (manager .ascii).spawns (aloneMoves n) = [scanTask] := by
  have hnone : (manager .ascii).spawns
      (List.replicate n (goOn 0 : (manager .ascii).Move ScanResponse)) = [] := by
    induction n with
    | zero => rfl
    | succ n ih => exact ih
  exact congrArg (List.cons scanTask) hnone

theorem reach_aloneRun {clock : ℚ} {n : ℕ} (h : (aloneRun clock n).isSome = true) :
    (manager .ascii).Reach (IsScan .default .ascii) (.init clock) ((aloneRun clock n).get h) := by
  refine Env.reach_of_play _ (aloneMoves n) (fun p hp => ?_) .init (Option.some_get h).symm
  rw [spawns_aloneMoves, List.mem_singleton] at hp
  exact hp ▸ isScan_scanTask

/-- The single scan after one more answer -/
def aloneEnd {clock : ℚ} {n : ℕ} (h : (aloneRun clock n).isSome = true) :
    Option (Config Reply Exc ScanResponse World) :=
  (manager .ascii).playOne ((aloneRun clock n).get h) (goOn 0)

theorem step_aloneEnd {clock : ℚ} {n : ℕ} {h : (aloneRun clock n).isSome = true}
    (h' : (aloneEnd h).isSome = true) : (manager .ascii).Step (IsScan .default .ascii)
      ((aloneRun clock n).get h) ((aloneEnd h).get h') :=
  Env.step_of_playOne _ (fun p hp => by cases hp) (Option.some_get h').symm

theorem isSome_healthyRun : (aloneRun 100 16).isSome = true := by decide +kernel

theorem isSome_healthyEnd : (aloneEnd isSome_healthyRun).isSome = true := by decide +kernel

/-- A scan that is completed and finds nothing -/
theorem healthy_completed :
    ((aloneEnd isSome_healthyRun).get isSome_healthyEnd).result 0 = some (.ok ⟨false, []⟩) ∧
      LatestCompleted ((aloneEnd isSome_healthyRun).get isSome_healthyEnd).world := by
  have hend : ((aloneEnd isSome_healthyRun).get isSome_healthyEnd).result 0 =
      some (.ok ⟨false, []⟩) := by decide +kernel
  exact ⟨hend, empty_completed (reach_aloneRun isSome_healthyRun) (step_aloneEnd isSome_healthyEnd)
    ⟨by decide +kernel, by decide +kernel⟩ (by decide +kernel) hend rfl⟩

theorem isSome_bootRun : (aloneRun 5 11).isSome = true := by decide +kernel

theorem isSome_bootEnd : (aloneEnd isSome_bootRun).isSome = true := by decide +kernel

/-- Five seconds after the start of the machine, a new manager holds the first scan back and returns
an empty list. -/
theorem booted_empty :
    ∃ a b, (manager .ascii).Reach (IsScan .default .ascii) (.init 5) a ∧
      (manager .ascii).Step (IsScan .default .ascii) a b ∧ a.result 0 = none ∧
      b.result 0 = some (.ok ⟨false, []⟩) ∧ b.world.attempts = [] :=
  ⟨_, _, reach_aloneRun isSome_bootRun, step_aloneEnd isSome_bootEnd, by decide +kernel,
    by decide +kernel, by decide +kernel⟩

end ApplianceAdmin.Network
