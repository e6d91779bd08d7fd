import ApplianceAdmin.Network.Lookup
import ApplianceAdmin.Network.Scan
import Mathlib.Logic.Relation

/-!
# When a scan has completed

Scans finish at NetworkManager at any time, whoever has asked for them.

* `Scans`: `LastScan`, the signals on their way, and what `_request_scan_and_wait` has done so far;
* `Scans.Step`: a scan finishes, or a signal is delivered; `Scans.Drift`: any number of these;
* `hearing`: the answers of the bus while scans finish;
* `Before`, `Baseline`, `Listening`, `Requested`: what holds at each point of the function.
-/

namespace ApplianceAdmin.Network

open Async Async.Prog Async.Monitor Python

/-- The scans of a device, and how far `_request_scan_and_wait` has come. -/
structure Scans where
  /-- The property `LastScan` -/
  lastScan : ℤ
  /-- The values that `LastScan` has had. -/
  past : List ℤ
  /-- The changes that have been signalled and not delivered yet, in order. -/
  signals : List ℤ
  /-- The `previous` of the handler that is subscribed. -/
  handler : Option ℤ
  /-- Is the event `finished` set? -/
  finished : Bool
  /-- Has the baseline been read? -/
  baseline : Bool
  /-- Has `RequestScan` been issued? -/
  requested : Bool
  /-- Has a scan finished after the baseline was read and before `RequestScan` was issued? -/
  foreign : Bool
  /-- Has a scan finished after `RequestScan` was issued? -/
  completed : Bool
  deriving DecidableEq

namespace Scans

/-- Does the handler take this value of `LastScan` for the end of a scan? -/
def heard (handler : Option ℤ) (value : ℤ) : Bool :=
  handler.any fun previous => value ≠ previous && 0 ≤ value

/-- A scan finishes. -/
def finish (s : Scans) (value : ℤ) : Scans :=
  { s with
    lastScan := value
    past := value :: s.past
    signals := s.signals ++ [value]
    foreign := s.foreign || (s.baseline && !s.requested)
    completed := s.completed || s.requested }

/-- The signal of `value` is delivered, and `rest` are left. -/
def deliver (s : Scans) (value : ℤ) (rest : List ℤ) : Scans :=
  { s with signals := rest, finished := s.finished || heard s.handler value }

/-- All signals are delivered. -/
def deliverAll (s : Scans) : Scans :=
  { s with signals := [], finished := s.finished || s.signals.any (heard s.handler) }

/-- What happens at NetworkManager and on the bus, whoever started the scan; a signal that races
with the subscription can be lost. -/
inductive Step : Scans → Scans → Prop
  | finish {s : Scans} {value : ℤ} : 0 ≤ value → value ∉ s.past → Step s (s.finish value)
  | deliver {s : Scans} {value : ℤ} {rest : List ℤ} : s.signals = value :: rest →
      Step s (s.deliver value rest)
  | lose {s : Scans} {value : ℤ} {rest : List ℤ} : s.signals = value :: rest →
      Step s { s with signals := rest }

/-- What happens between two steps of the function -/
def Drift : Scans → Scans → Prop := Relation.ReflTransGen Step

/-- The function issues a call. -/
def issue (s : Scans) : Call → Scans
  | .requestScan _ => { s with requested := true }
  | _ => s

/-- The call is answered.  What was signalled before `LastScan` is read has been delivered when the
answer to that read comes. -/
inductive Answer (rt : Runtime) (device : String) :
    Scans → (c : Call) → Except Exc (Reply c) → Scans → Prop
  | lastScan {s : Scans} {props : Dict} : lastScanOf rt props = .ok s.lastScan →
      Answer rt device s (.getAll device WIRELESS) (.ok props) { s.deliverAll with baseline := true }
  | subscribe {s : Scans} {path : String} {previous : Option ℤ} :
      Answer rt device s (.subscribe path previous) (.ok ())
        { s with handler := previous, finished := false }
  | unsubscribe {s : Scans} {path : String} :
      Answer rt device s (.unsubscribe path) (.ok ()) { s with handler := none }
  | waitEvent {s : Scans} {timeout : ℚ} : s.finished = true →
      Answer rt device s (.waitEvent timeout) (.ok ()) s
  | other {s : Scans} {c : Call} {a : Reply c} : c ≠ .getAll device WIRELESS →
      (∀ path previous, c ≠ .subscribe path previous) → (∀ path, c ≠ .unsubscribe path) →
      (∀ timeout, c ≠ .waitEvent timeout) → Answer rt device s c (.ok a) s
  | raises {s : Scans} {c : Call} {x : Exc} : Answer rt device s c (.error x) s

end Scans

/-- The bus while scans finish: a call is issued, things happen, it takes effect, things happen, and
its answer is there. -/
def hearing (rt : Runtime) (device : String) : Monitor Reply Exc Scans where
  pre _ _ := True
  next s c r s' := ∃ s₁ s₂, (s.issue c).Drift s₁ ∧ Scans.Answer rt device s₁ c r s₂ ∧ s₂.Drift s'

namespace Scans

variable {rt : Runtime} {device : String} {s s' : Scans} {v : ℤ} {α : Type}

/-- What every step keeps is kept while things happen. -/
theorem Drift.keeps {P : Scans → Prop} (h : s.Drift s') (hstep : ∀ s s', Step s s' → P s → P s')
    (hs : P s) : P s' := by
  induction h with
  | refl => exact hs
  | tail _ hlast ih => exact hstep _ _ hlast ih

/-! ### How far the function has come -/

/-- Nothing has been read yet. -/
structure Before (s : Scans) : Prop where
  baseline : s.baseline = false
  requested : s.requested = false
  foreign : s.foreign = false
  completed : s.completed = false

/-- The baseline is `v`, and the request has not been issued. -/
structure Baseline (v : ℤ) (s : Scans) : Prop where
  baseline : s.baseline = true
  requested : s.requested = false
  lastScan : s.foreign = false → s.lastScan = v
  signals : s.foreign = false → s.signals = []

/-- The handler is subscribed, too. -/
structure Listening (v : ℤ) (s : Scans) : Prop extends Baseline v s where
  finished : s.foreign = false → s.finished = false

/-- The request has been issued; without a foreign scan, only one that finishes now is seen. -/
structure Requested (v : ℤ) (s : Scans) : Prop where
  requested : s.requested = true
  baseline : s.baseline = true
  lastScan : s.foreign = false → s.completed = false → s.lastScan = v
  signals : s.foreign = false → s.completed = false → s.signals = []
  finished : s.foreign = false → s.completed = false → s.finished = false

/-- Without a foreign scan, one has finished since the request was issued. -/
def Genuine (s : Scans) : Prop := s.foreign = false → s.completed = true

theorem before_step (h : Step s s') (hs : s.Before) : s'.Before := by
  obtain ⟨hb, hr, hf, hc⟩ := hs
  cases h with
  | finish hv hpast => exact ⟨hb, hr, by simp [finish, hb, hf], by simp [finish, hr, hc]⟩
  | deliver hq => exact ⟨hb, hr, hf, hc⟩
  | lose hq => exact ⟨hb, hr, hf, hc⟩

theorem baseline_step (h : Step s s') (hs : s.Baseline v) : s'.Baseline v := by
  obtain ⟨hb, hr, hv, hq⟩ := hs
  cases h with
  | finish hvalue hpast =>
    -- a scan that finishes here is a foreign one
    refine ⟨hb, hr, fun hf => ?_, fun hf => ?_⟩
    · simp [finish, hb, hr] at hf
    · simp [finish, hb, hr] at hf
  | deliver hsignals =>
    refine ⟨hb, hr, hv, fun hf => ?_⟩
    rw [hq hf] at hsignals
    cases hsignals
  | lose hsignals =>
    refine ⟨hb, hr, hv, fun hf => ?_⟩
    rw [hq hf] at hsignals
    cases hsignals

theorem listening_step (h : Step s s') (hs : s.Listening v) : s'.Listening v := by
  refine ⟨baseline_step h hs.toBaseline, fun hf => ?_⟩
  cases h with
  | finish hvalue hpast => simp [finish, hs.baseline, hs.requested] at hf
  | deliver hsignals =>
    rw [hs.signals hf] at hsignals
    cases hsignals
  | lose hsignals => exact hs.finished hf

theorem requested_step (h : Step s s') (hs : s.Requested v) : s'.Requested v := by
  obtain ⟨hr, hb, hv, hq, hfin⟩ := hs
  cases h with
  | finish hvalue hpast =>
    have hdone : ¬(s.completed || s.requested) = false := by simp [hr]
    exact ⟨hr, hb, fun _ hc => absurd hc hdone, fun _ hc => absurd hc hdone,
      fun _ hc => absurd hc hdone⟩
  | deliver hsignals =>
    refine ⟨hr, hb, hv, fun hf hc => ?_, fun hf hc => ?_⟩
    · rw [hq hf hc] at hsignals
      cases hsignals
    · rw [hq hf hc] at hsignals
      cases hsignals
  | lose hsignals =>
    refine ⟨hr, hb, hv, fun hf hc => ?_, hfin⟩
    rw [hq hf hc] at hsignals
    cases hsignals

theorem genuine_step (h : Step s s') (hr : s.requested = true ∧ s.Genuine) :
    s'.requested = true ∧ s'.Genuine := by
  cases h with
  | finish hvalue hpast => exact ⟨hr.1, fun _ => by simp [finish, hr.1]⟩
  | deliver hsignals => exact hr
  | lose hsignals => exact hr

/-- The request is issued. -/
theorem requested_issue (h : s.Listening v) (device : String) :
    (s.issue (.requestScan device)).Requested v :=
  ⟨rfl, h.baseline, fun hf _ => h.lastScan hf, fun hf _ => h.signals hf, fun hf _ => h.finished hf⟩

/-! ### The calls of the function -/

/-- A lookup changes nothing, but things happen meanwhile. -/
theorem drift_of_looksUp {c : Call} {r : Except Exc (Reply c)} (hc : c.looksUp = true)
    (h : (hearing rt device).next s c r s') : s.Drift s' := by
  obtain ⟨s₁, s₂, h₁, hanswer, h₂⟩ := h
  have hissue : s.issue c = s := by
    cases c <;> first | rfl | cases hc
  rw [hissue] at h₁
  cases hanswer with
  | lastScan h => cases hc
  | subscribe => cases hc
  | unsubscribe => cases hc
  | waitEvent h => cases hc
  | other _ _ _ _ => exact h₁.trans h₂
  | raises => exact h₁.trans h₂

section Rules

variable {P : Scans → Prop} (hstep : ∀ s s', Step s s' → P s → P s')

include hstep

theorem leads_looksUp (c : Call) (hc : c.looksUp = true) :
    Leads (hearing rt device) P (fun _ => True) c fun _ => P :=
  fun _ hs => ⟨trivial, fun _ _ hn =>
    ⟨fun _ _ => (drift_of_looksUp hc hn).keeps hstep hs, fun _ _ => trivial⟩⟩

/-- `LastScan` is read at some point, at which what was signalled before has been delivered. -/
theorem hearing_lastScan {Q : Except Exc ℤ → Scans → Prop} (hs : P s)
    (hok : ∀ s₁ s', P s₁ → Drift { s₁.deliverAll with baseline := true } s' → Q (.ok s₁.lastScan) s')
    (herror : ∀ x s', Q (.error x) s') : (hearing rt device).wp (Network.lastScan rt device) Q s := by
  have hget : Leads (hearing rt device) P (fun _ => True) (.getAll device WIRELESS) fun props s' =>
      ∃ s₁, P s₁ ∧ lastScanOf rt props = .ok s₁.lastScan ∧
        Drift { s₁.deliverAll with baseline := true } s' := by
    intro s hs
    refine ⟨trivial, fun r s' hn => ⟨?_, fun _ _ => trivial⟩⟩
    rintro props rfl
    obtain ⟨s₁, s₂, h₁, hanswer, h₂⟩ := hn
    cases hanswer with
    | lastScan hvalue => exact ⟨s₁, Drift.keeps h₁ hstep hs, hvalue, h₂⟩
    | other hne _ _ _ => exact absurd rfl hne
  refine (wp_bind _).2 (wp_mono (wp_properties (leads_looksUp hstep) hget hs) fun r s' hr => ?_)
  cases r with
  | error x => exact herror x s'
  | ok props =>
    obtain ⟨s₁, hs₁, hvalue, hdrift⟩ := hr
    rw [andThen_ok, hvalue]
    exact hok s₁ s' hs₁ hdrift

end Rules

/-- What is known when `_request_scan_and_wait` returns -/
def Concluded (r : Except Exc Unit) (s : Scans) : Prop :=
  r = .ok () → s.requested = true ∧ s.Genuine

theorem concluded_error (x : Exc) (s : Scans) : Concluded (.error x) s := nofun

/-- After the timeout, another value of `LastScan` is that of a scan that has finished since. -/
theorem hearing_recheckScan (hs : s.Requested v) :
    (hearing rt device).wp (recheckScan rt device v) Concluded s := by
  refine (wp_bind _).2 (hearing_lastScan (fun _ _ => requested_step) hs ?_ concluded_error)
  intro s₁ s' hs₁ hdrift
  refine (wp_ite _).2 ?_
  split
  · exact concluded_error _ s'
  · rename_i hne
    rw [not_or] at hne
    refine fun _ => hdrift.keeps (fun _ _ => genuine_step) ⟨hs₁.requested, fun hf => ?_⟩
    by_contra hc
    exact hne.1 (hs₁.lastScan hf (Bool.eq_false_of_not_eq_true hc))

/-- The request and the wait -/
theorem hearing_wait {m : NetworkManager} (hs : s.Listening v) :
    (hearing rt device).wp ((do
      perform (Call.requestScan device)
      perform (Call.waitEvent (min 8 m.activationTimeout)) : Proc Unit).tryCatch fun exc =>
        if exc.isTimeout then recheckScan rt device v else raise exc) Concluded s := by
  have hcatch : ∀ (x : Exc) {s : Scans}, s.Requested v → (hearing rt device).wp
      (if x.isTimeout then recheckScan rt device v else raise x : Proc Unit) Concluded s := by
    intro x s hs
    refine (wp_ite _).2 ?_
    split
    · exact hearing_recheckScan hs
    · exact concluded_error x s
  refine (wp_tryCatch _).2 ((wp_bind _).2 ((wp_perform _).2 ⟨trivial, fun r s' hn => ?_⟩))
  -- the request goes out in `s₁`: what finishes from then on counts
  obtain ⟨s₁, s₂, h₁, hanswer, h₂⟩ := hn
  have hs₁ : s₁.Requested v := h₁.keeps (fun _ _ => requested_step) (requested_issue hs device)
  have hs' : s'.Requested v := by
    cases hanswer <;> exact h₂.keeps (fun _ _ => requested_step) hs₁
  cases r with
  | error x => exact hcatch x hs'
  | ok u =>
    refine (wp_perform _).2 ⟨trivial, fun r s'' hn => ?_⟩
    obtain ⟨s₃, s₄, h₃, hwaited, h₄⟩ := hn
    have hs₃ : s₃.Requested v := Drift.keeps h₃ (fun _ _ => requested_step) hs'
    cases hwaited with
    | waitEvent hfinished =>
      -- the event is set, which without a foreign scan only a scan after the request has done
      refine fun _ => h₄.keeps (fun _ _ => genuine_step) ⟨hs₃.requested, fun hf => ?_⟩
      by_contra hc
      have hunset := hs₃.finished hf (Bool.eq_false_of_not_eq_true hc)
      exact absurd (hfinished.symm.trans hunset) Bool.noConfusion
    | other _ _ _ hne => exact absurd rfl (hne _)
    | raises => exact hcatch _ (h₄.keeps (fun _ _ => requested_step) hs₃)

theorem hearing_requestScanAndWait {m : NetworkManager} (hs : s.Before) :
    (hearing rt device).wp (requestScanAndWait m rt device) Concluded s := by
  refine (wp_bind _).2 (wp_mono (wp_interfaces (leads_looksUp fun _ _ => before_step) device _ hs)
    fun r s₁ hs₁ => ?_)
  cases r with
  | error x => exact concluded_error x s₁
  | ok u =>
    refine (wp_bind _).2 (hearing_lastScan (fun _ _ => before_step) hs₁ ?_ concluded_error)
    intro s₂ s₃ hs₂ hdrift
    -- the baseline is the value in `s₂`; the states after it are `Baseline`, then `Listening`
    have hs₃ : s₃.Baseline s₂.lastScan := by
      refine hdrift.keeps (fun _ _ => baseline_step) ⟨rfl, hs₂.requested, fun _ => rfl, fun _ => rfl⟩
    refine wp_ask_bind _ trivial fun _ s' hn => (wp_ensure _).2 ?_
    obtain ⟨s₄, s₅, h₄, hanswer, h₅⟩ := hn
    have hs₄ : s₄.Baseline s₂.lastScan := Drift.keeps h₄ (fun _ _ => baseline_step) hs₃
    have hs' : s'.Listening s₂.lastScan := by
      cases hanswer with
      | subscribe =>
        exact h₅.keeps (fun _ _ => listening_step) ⟨⟨hs₄.1, hs₄.2, hs₄.3, hs₄.4⟩, fun _ => rfl⟩
      | other _ hne _ _ => exact absurd rfl (hne _ _)
    refine wp_mono (hearing_wait hs') fun r s₆ hs₆ => (wp_ask _).2 ⟨trivial, fun u s₇ hn => ?_⟩
    obtain ⟨s₈, s₉, h₈, hanswer, h₉⟩ := hn
    intro hr
    have hs₈ := Drift.keeps h₈ (fun _ _ => genuine_step) (hs₆ hr)
    cases hanswer with
    | unsubscribe => exact h₉.keeps (fun _ _ => genuine_step) hs₈
    | other _ _ hne _ => exact absurd rfl (hne _)

/-- **A completed wait.**  When `_request_scan_and_wait` returns and no scan has finished between
the read of the baseline and the request, a scan has finished after the request. -/
theorem scan_awaited {m : NetworkManager} {tr : List (Event Reply Exc)}
    (hp : Path (requestScanAndWait m rt device) tr (.done (.ok ()))) (hs : s.Before)
    (ht : (hearing rt device).Trail s tr s') (hforeign : s'.foreign = false) :
    s'.completed = true :=
  (wp_outcome hp ht (hearing_requestScanAndWait hs) rfl).2 hforeign

/-! ### Two runs -/

/-- A value that `LastScan` has not had -/
def fresh (past : List ℤ) : ℤ := past.foldr (fun value bound => max (value + 1) bound) 0

theorem fresh_nonneg (past : List ℤ) : 0 ≤ fresh past := by
  induction past with
  | nil => exact le_rfl
  | cons value past ih => exact le_max_of_le_right ih

theorem lt_fresh {past : List ℤ} {value : ℤ} (h : value ∈ past) : value < fresh past := by
  induction past with
  | nil => cases h
  | cons first past ih =>
    rcases List.mem_cons.1 h with rfl | h
    · exact lt_max_of_lt_left (lt_add_one _)
    · exact lt_max_of_lt_right (ih h)

/-- A scan finishes and its signal arrives at once. -/
def finishNow (s : Scans) : Scans := (s.finish (fresh s.past)).deliverAll

theorem drift_deliverAll (s : Scans) : s.Drift s.deliverAll := by
  obtain ⟨lastScan, past, signals, handler, finished, baseline, requested, foreign, completed⟩ := s
  induction signals generalizing finished with
  | nil =>
    rw [deliverAll, List.any_nil, Bool.or_false]
    exact .refl
  | cons value rest ih =>
    refine .head (.deliver rfl) ?_
    rw [deliverAll, List.any_cons, ← Bool.or_assoc]
    exact ih (finished || heard handler value)

theorem drift_finishNow (s : Scans) : s.Drift s.finishNow :=
  .head (.finish (fresh_nonneg _) fun h => lt_irrefl _ (lt_fresh h)) (drift_deliverAll _)

/-- One scan finishes: that of somebody else, right after the subscription, or the one that was
requested, during the wait. -/
def hearer (device : String) (somebody : Bool) (s : Scans) : (c : Call) → Except Exc (Reply c) × Scans
  | .getAll path interface =>
      if path = device ∧ interface = WIRELESS then
        (.ok [("LastScan", .int s.lastScan)], { s.deliverAll with baseline := true })
      else (.ok (quiet (.getAll path interface)), s)
  | .subscribe _ previous =>
      let s := { s with handler := previous, finished := false }
      (.ok (), if somebody then s.finishNow else s)
  | .unsubscribe _ => (.ok (), { s with handler := none })
  | .waitEvent _ =>
      let s := if somebody then s else s.finishNow
      (if s.finished then .ok () else .error Exc.timeoutError, s)
  | c => (.ok (quiet c), s.issue c)

theorem hearer_next (somebody : Bool) (s : Scans) (c : Call) :
    (hearing rt device).next s c (hearer device somebody s c).1 (hearer device somebody s c).2 := by
  cases c with
  | getAll path interface =>
    by_cases h : path = device ∧ interface = WIRELESS
    · rw [hearer, if_pos h]
      obtain ⟨rfl, rfl⟩ := h
      exact ⟨s, _, .refl, .lastScan rfl, .refl⟩
    · rw [hearer, if_neg h]
      refine ⟨s, _, .refl, .other (fun heq => h ?_) nofun nofun nofun, .refl⟩
      cases heq
      exact ⟨rfl, rfl⟩
  | subscribe path previous =>
    refine ⟨s, _, .refl, .subscribe, ?_⟩
    cases somebody with
    | true => exact drift_finishNow _
    | false => exact .refl
  | unsubscribe path => exact ⟨s, _, .refl, .unsubscribe, .refl⟩
  | waitEvent timeout =>
    have hdrift : s.Drift (if somebody then s else s.finishNow) := by
      cases somebody with
      | true => exact .refl
      | false => exact drift_finishNow s
    by_cases h : (if somebody then s else s.finishNow).finished = true
    · refine ⟨_, _, hdrift, ?_, .refl⟩
      show Answer rt device _ _ (if _ then _ else _) _
      rw [if_pos h]
      exact .waitEvent h
    · refine ⟨_, _, hdrift, ?_, .refl⟩
      show Answer rt device _ _ (if _ then _ else _) _
      rw [if_neg h]
      exact .raises
  | _ => exact ⟨_, _, .refl, .other nofun nofun nofun nofun, .refl⟩

/-- A device that has been scanned once -/
def scannedOnce : Scans := ⟨100, [100], [], none, false, false, false, false, false⟩

theorem before_scannedOnce : scannedOnce.Before := ⟨rfl, rfl, rfl, rfl⟩

/-- A run of `_request_scan_and_wait` with the default configuration -/
def heardRun (somebody : Bool) : List (Event Reply Exc) × Proc Unit × Scans :=
  advance (hearer "/device/wifi" somebody) 20 (requestScanAndWait .default .ascii "/device/wifi")
    scannedOnce

theorem path_heardRun (somebody : Bool) :
    Path (requestScanAndWait .default .ascii "/device/wifi") (heardRun somebody).1
      (.done (.ok ())) := by
  cases somebody <;> exact path_advance _ 20 _ _

theorem trail_heardRun (somebody : Bool) :
    (hearing .ascii "/device/wifi").Trail scannedOnce (heardRun somebody).1
      (heardRun somebody).2.2 :=
  (trail_advance id (fun s c (_ : True) => ⟨hearer_next somebody s c, trivial⟩) 20 _
    trivial).1

/-- The requested scan finishes during the wait. -/
theorem scan_awaited_requested : (heardRun false).2.2.completed = true :=
  scan_awaited (path_heardRun false) before_scannedOnce (trail_heardRun false) rfl

/-- Somebody else's scan, finished before the request is issued, is taken for the requested one. -/
theorem foreign_scan_awaited :
    Path (requestScanAndWait .default .ascii "/device/wifi") (heardRun true).1 (.done (.ok ())) ∧
      scannedOnce.Before ∧
      (hearing .ascii "/device/wifi").Trail scannedOnce (heardRun true).1 (heardRun true).2.2 ∧
      (heardRun true).2.2.completed = false :=
  ⟨path_heardRun true, before_scannedOnce, trail_heardRun true, rfl⟩

end Scans

end ApplianceAdmin.Network
