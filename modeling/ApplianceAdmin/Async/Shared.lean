import ApplianceAdmin.Async.Pool

/-!
# Sharing a world between tasks

Rely–guarantee reasoning for the pools of `ApplianceAdmin.Async.Pool`.  A discipline says, for an
environment,

* `inv`: what holds whenever no task is running;
* `rely i`: what task `i` may assume of everything that happens while it waits;
* `pre i`: under which circumstances task `i` may make a call;
* `hist`: the runs that are looked at, by what the world records of them;

and carries the proofs that a call made under its `pre` respects what the other tasks rely on.  The
monitor `D.mon i` lets the world move by `rely i` at each wait, so a weakest precondition of
`D.mon i` is a proof about one task that takes the others into account.  `reach_good` puts the
tasks together.
-/

namespace ApplianceAdmin.Async

/-- As long as task `i` keeps a lock or gives it up, no other task holds it. -/
theorem not_held_of_holder {i j : Tid} {lock lock' : Option Tid} (h : lock = some i)
    (h' : lock' = some i ∨ lock' = none) (hji : j ≠ i) : lock ≠ some j ∧ lock' ≠ some j := by
  have hne : some i ≠ some j := fun hij => hji (Option.some.inj hij).symm
  refine ⟨h.trans_ne hne, ?_⟩
  rcases h' with h' | h'
  · exact h'.trans_ne hne
  · exact h'.trans_ne (Option.some_ne_none j).symm

variable {C : Type} {R : C → Type} {ε α ω : Type}

/-- How the tasks of a pool share the world of `E`. -/
structure Discipline (E : Env R ε ω) where
  inv : ω → Prop
  rely : Tid → ω → ω → Prop
  /-- What holds for the number of a task that has not been started. -/
  idle : Tid → ω → Prop
  pre : Tid → ω → C → Prop
  /-- What is recorded of the runs that are looked at; once it is false it stays false. -/
  hist : ω → Prop := fun _ => True
  rely_refl : ∀ i w, rely i w w
  rely_trans : ∀ {i w w' w''}, rely i w w' → rely i w' w'' → rely i w w''
  idle_rely : ∀ {i w w'}, rely i w w' → idle i w → idle i w'
  inv_issue : ∀ {i w c}, E.yields c = true → pre i w c → inv (E.issue i c w)
  keeps_issue : ∀ {i j w c}, pre i w c → j ≠ i → rely j w (E.issue i c w)
  keeps_answer : ∀ {i j w c}, E.yields c = false → pre i w c → j ≠ i →
    rely j (E.issue i c w) (E.apply i c (E.answer i c (E.issue i c w)) (E.issue i c w))
  keeps_reply : ∀ {i j w c w' r}, E.yields c = true → pre i w c → rely i (E.issue i c w) w' →
    inv w' → E.legal i c r w' = true → j ≠ i → rely j w' (E.apply i c r w')
  tau_inv : ∀ {w w'}, inv w → E.tau w w' → inv w'
  tau_rely : ∀ {w w'} (i), inv w → E.tau w w' → rely i w w'
  hist_issue : ∀ {i w c}, hist (E.issue i c w) → hist w := by intros; trivial
  hist_apply : ∀ {i w c r}, hist (E.apply i c r w) → hist w := by intros; trivial
  hist_tau : ∀ {w w'}, E.tau w w' → hist w' → hist w := by intros; trivial

namespace Discipline

variable {E : Env R ε ω} (D : Discipline E)

/-- Task `i` among the others. -/
def mon (i : Tid) : Monitor R ε ω where
  pre := D.pre i
  next w c r w' := D.hist w' ∧
    if E.yields c = true then
      ∃ w₁, D.rely i (E.issue i c w) w₁ ∧ D.inv w₁ ∧ E.legal i c r w₁ = true ∧ w' = E.apply i c r w₁
    else r = E.answer i c (E.issue i c w) ∧ w' = E.apply i c r (E.issue i c w)

/-- Task `i` is at rest in `w`: it waits at a call made under `pre`, and whatever the others have
done since, it goes on to an outcome `Q`; or it has ended with such an outcome. -/
def Rests (i : Tid) (Q : Except ε α → ω → Prop) : Prog R ε α → ω → Prop
  | .done r, w => ∃ w₀, Q r w₀ ∧ D.rely i w₀ w
  | .spin, _ => True
  | .call c k, w => E.yields c = true ∧ ∃ w₀, D.pre i w₀ c ∧ D.rely i (E.issue i c w₀) w ∧
      ∀ r w', (D.mon i).next w₀ c r w' → (D.mon i).wp (k r) Q w'

variable {D}

theorem Rests.rely {i : Tid} {Q : Except ε α → ω → Prop} {p : Prog R ε α} {w w' : ω}
    (h : D.Rests i Q p w) (hr : D.rely i w w') : D.Rests i Q p w' := by
  cases p with
  | done r => exact h.imp fun _ h => ⟨h.1, D.rely_trans h.2 hr⟩
  | spin => trivial
  | call c k =>
    obtain ⟨hy, w₀, hpre, hw, hk⟩ := h
    exact ⟨hy, w₀, hpre, D.rely_trans hw hr, hk⟩

theorem hist_settle {i : Tid} {p p' : Prog R ε α} {w w' : ω}
    (h : E.settle i p w = some (p', w')) (hh : D.hist w') : D.hist w := by
  induction p generalizing w with
  | done r => cases h; exact hh
  | spin => cases h
  | call c k ih =>
    simp only [Env.settle] at h
    split at h
    · cases h
      exact D.hist_issue hh
    · exact D.hist_issue (D.hist_apply (ih _ h))

/-- A task that settles comes to rest, re-establishes the invariant and disturbs no other task. -/
theorem settle_rests {i : Tid} {Q : Except ε α → ω → Prop} (hQ : ∀ r w, Q r w → D.inv w)
    {p p' : Prog R ε α} {w w' : ω} (hp : (D.mon i).wp p Q w)
    (h : E.settle i p w = some (p', w')) (hh : D.hist w') :
    D.Rests i Q p' w' ∧ D.inv w' ∧ ∀ j, j ≠ i → D.rely j w w' := by
  induction p generalizing w with
  | done r =>
    cases h
    exact ⟨⟨_, hp, D.rely_refl i _⟩, hQ r _ hp, fun j _ => D.rely_refl j _⟩
  | spin => cases h
  | call c k ih =>
    obtain ⟨hpre, hk⟩ := hp
    simp only [Env.settle] at h
    split at h
    · rename_i hy
      cases h
      exact ⟨⟨hy, _, hpre, D.rely_refl i _, hk⟩, D.inv_issue hy hpre, fun j hj =>
        D.keeps_issue hpre hj⟩
    · rename_i hy
      have hn := hk _ _ (by simp only [mon, if_neg hy]; exact ⟨hist_settle h hh, rfl, rfl⟩)
      obtain ⟨hrest, hinv, hothers⟩ := ih _ hn h
      refine ⟨hrest, hinv, fun j hj => ?_⟩
      have hans := D.keeps_answer (Bool.eq_false_iff.2 hy) hpre hj
      exact D.rely_trans (D.keeps_issue hpre hj) (D.rely_trans hans (hothers j hj))

variable (D)

/-- What a discipline guarantees of a configuration. -/
structure Good (Q : Tid → Except ε α → ω → Prop) (a : Config R ε α ω) : Prop where
  inv : D.inv a.world
  rests : ∀ i p, a.tasks[i]? = some p → D.Rests i (Q i) p a.world
  idle : ∀ i, a.tasks.length ≤ i → D.idle i a.world

variable {D}

theorem good_spawn {Q : Tid → Except ε α → ω → Prop} (hQ : ∀ i r w, Q i r w → D.inv w)
    {w w' : ω} {ts : List (Prog R ε α)} {p p' : Prog R ε α}
    (hp : (D.mon ts.length).wp p (Q ts.length) w) (hs : E.settle ts.length p w = some (p', w'))
    (hh : D.hist w') (h : D.Good Q ⟨w, ts⟩) : D.Good Q ⟨w', ts ++ [p']⟩ := by
  obtain ⟨hrest, hinv, hothers⟩ := settle_rests (hQ _) hp hs hh
  refine ⟨hinv, fun i q hq => ?_, fun i hi => ?_⟩
  · rcases Nat.lt_trichotomy i ts.length with hlt | rfl | hgt
    · rw [List.getElem?_append_left hlt] at hq
      exact (h.rests i q hq).rely (hothers i hlt.ne)
    · rw [List.getElem?_append_right le_rfl] at hq
      simp only [Nat.sub_self, List.getElem?_cons_zero, Option.some.injEq] at hq
      exact hq ▸ hrest
    · rw [List.getElem?_eq_none (by simp; omega)] at hq
      cases hq
  · have hi' : ts.length + 1 ≤ i := by simpa using hi
    exact D.idle_rely (hothers i (Nat.ne_of_gt hi')) (h.idle i (Nat.le_of_succ_le hi'))

/-- What the other tasks rely on is kept when a task goes on. -/
theorem resume_rely {Q : Tid → Except ε α → ω → Prop} (hQ : ∀ i r w, Q i r w → D.inv w)
    {w w' : ω} {ts : List (Prog R ε α)} {p' : Prog R ε α} {i : Tid} {c : C}
    {k : Except ε (R c) → Prog R ε α} {r : Except ε (R c)} (hi : ts[i]? = some (.call c k))
    (hl : E.legal i c r w = true) (hs : E.settle i (k r) (E.apply i c r w) = some (p', w'))
    (hh : D.hist w') (h : D.Good Q ⟨w, ts⟩) {j : Tid} (hj : j ≠ i) : D.rely j w w' := by
  obtain ⟨hy, w₀, hpre, hw, hk⟩ := h.rests i _ hi
  have hn := hk r _ (by
    simp only [mon, if_pos hy]
    exact ⟨hist_settle hs hh, w, hw, h.inv, hl, rfl⟩)
  obtain ⟨-, -, hothers⟩ := settle_rests (hQ i) hn hs hh
  exact D.rely_trans (D.keeps_reply hy hpre hw h.inv hl hj) (hothers j hj)

theorem good_resume {Q : Tid → Except ε α → ω → Prop} (hQ : ∀ i r w, Q i r w → D.inv w)
    {w w' : ω} {ts : List (Prog R ε α)} {p' : Prog R ε α} {i : Tid} {c : C}
    {k : Except ε (R c) → Prog R ε α} {r : Except ε (R c)} (hi : ts[i]? = some (.call c k))
    (hl : E.legal i c r w = true) (hs : E.settle i (k r) (E.apply i c r w) = some (p', w'))
    (hh : D.hist w') (h : D.Good Q ⟨w, ts⟩) : D.Good Q ⟨w', ts.set i p'⟩ := by
  obtain ⟨hy, w₀, hpre, hw, hk⟩ := h.rests i _ hi
  have hn := hk r _ (by
    simp only [mon, if_pos hy]
    exact ⟨hist_settle hs hh, w, hw, h.inv, hl, rfl⟩)
  obtain ⟨hrest, hinv, -⟩ := settle_rests (hQ i) hn hs hh
  have hrely : ∀ j, j ≠ i → D.rely j w w' := fun j hj => resume_rely hQ hi hl hs hh h hj
  have hlen : i < ts.length := (List.getElem?_eq_some_iff.1 hi).1
  refine ⟨hinv, fun j q hq => ?_, fun j hj => ?_⟩
  · by_cases hji : j = i
    · subst hji
      rw [List.getElem?_set_self hlen] at hq
      cases hq
      exact hrest
    · rw [List.getElem?_set_ne (Ne.symm hji)] at hq
      exact (h.rests j q hq).rely (hrely j hji)
  · have hj' : ts.length ≤ j := by simpa using hj
    exact D.idle_rely (hrely j (Nat.ne_of_gt (lt_of_lt_of_le hlen hj'))) (h.idle j hj')

/-- What is recorded of a run was recorded of its parts. -/
theorem hist_step {new : Prog R ε α → Prop} {a b : Config R ε α ω} (hs : E.Step new a b)
    (hb : D.hist b.world) : D.hist a.world := by
  cases hs with
  | spawn _ hset => exact hist_settle hset hb
  | resume _ _ hset => exact D.hist_apply (hist_settle hset hb)
  | tau ht => exact D.hist_tau ht hb

/-- **Soundness.**  When every program that is started is proved for its task number under the
discipline, every configuration that is reached by a run that is looked at is good. -/
theorem reach_good {Q : Tid → Except ε α → ω → Prop} (hQ : ∀ i r w, Q i r w → D.inv w)
    {new : Prog R ε α → Prop}
    (hnew : ∀ p, new p → ∀ i w, D.inv w → D.idle i w → (D.mon i).wp p (Q i) w) {w₀ : ω}
    (hinv : D.inv w₀) (hidle : ∀ i, D.idle i w₀) {a : Config R ε α ω}
    (h : E.Reach new w₀ a) (hh : D.hist a.world) : D.Good Q a := by
  induction h with
  | init => exact ⟨hinv, by simp, fun i _ => hidle i⟩
  | step _ hs ih =>
    have ih := ih (hist_step hs hh)
    cases hs with
    | @spawn w w' ts p p' hp hset =>
      exact good_spawn hQ (hnew p hp _ _ ih.inv (ih.idle _ le_rfl)) hset hh ih
    | @resume w w' ts p' i c k r hi hl hset => exact good_resume hQ hi hl hset hh ih
    | @tau w w' ts ht =>
      exact ⟨D.tau_inv ih.inv ht, fun i p hp => (ih.rests i p hp).rely (D.tau_rely i ih.inv ht),
        fun i hi => D.idle_rely (D.tau_rely i ih.inv ht) (ih.idle i hi)⟩

/-- A task that has just ended did so with its outcome. -/
theorem settle_outcome {i : Tid} {Q : Except ε α → ω → Prop} {p : Prog R ε α} {r : Except ε α}
    {w w' : ω} (hp : (D.mon i).wp p Q w) (h : E.settle i p w = some (.done r, w'))
    (hh : D.hist w') : Q r w' := by
  induction p generalizing w with
  | done r' => cases h; exact hp
  | spin => cases h
  | call c k ih =>
    obtain ⟨-, hk⟩ := hp
    simp only [Env.settle] at h
    split at h
    · cases h
    · rename_i hy
      have hn := hk _ _ (by simp only [mon, if_neg hy]; exact ⟨hist_settle h hh, rfl, rfl⟩)
      exact ih _ hn h

/-- **Outcomes.**  The step by which a task ends leads to a world that satisfies its outcome. -/
theorem reach_outcome {Q : Tid → Except ε α → ω → Prop} (hQ : ∀ i r w, Q i r w → D.inv w)
    {new : Prog R ε α → Prop}
    (hnew : ∀ p, new p → ∀ i w, D.inv w → D.idle i w → (D.mon i).wp p (Q i) w) {w₀ : ω}
    (hinv : D.inv w₀) (hidle : ∀ i, D.idle i w₀) {a b : Config R ε α ω}
    (ha : E.Reach new w₀ a) (hs : E.Step new a b) (hh : D.hist b.world) {i : Tid} {r : Except ε α}
    (hbefore : a.result i = none) (hend : b.result i = some r) : Q i r b.world := by
  have hb := Config.result_eq_some.1 hend
  have hnot : a.tasks[i]? ≠ some (.done r) := by
    intro h
    rw [Config.result_eq_some.2 h] at hbefore
    cases hbefore
  have hgood := reach_good hQ hnew hinv hidle ha (hist_step hs hh)
  cases hs with
  | @spawn w w' ts p p' hp hset =>
    rcases Nat.lt_trichotomy i ts.length with hlt | rfl | hgt
    · rw [List.getElem?_append_left hlt] at hb
      exact absurd hb hnot
    · rw [List.getElem?_append_right le_rfl] at hb
      simp only [Nat.sub_self, List.getElem?_cons_zero, Option.some.injEq] at hb
      subst hb
      exact settle_outcome (hnew p hp _ _ hgood.inv (hgood.idle _ le_rfl)) hset hh
    · rw [List.getElem?_eq_none (by simp; omega)] at hb
      cases hb
  | @resume w w' ts p' j c k r' hj hl hset =>
    by_cases hij : i = j
    · subst hij
      rw [List.getElem?_set_self (List.getElem?_eq_some_iff.1 hj).1] at hb
      cases hb
      obtain ⟨hy, w₁, hpre, hw, hk⟩ := hgood.rests i _ hj
      have hn := hk r' _ (by
        simp only [mon, if_pos hy]
        exact ⟨hist_settle hset hh, w, hw, hgood.inv, hl, rfl⟩)
      exact settle_outcome hn hset hh
    · rw [List.getElem?_set_ne (Ne.symm hij)] at hb
      exact absurd hb hnot
  | tau ht => exact absurd hb hnot

end Discipline

end ApplianceAdmin.Async
