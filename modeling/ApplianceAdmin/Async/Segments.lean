import ApplianceAdmin.Async.Pool

/-!
# What a task does between two waits

Between two of its waits a task runs alone, so that the moves of a pool can be described one at a
time: by the world before and after a move that leads to another wait, and by those of the move with
which a task ends.

* `Env.segments E T`: the monitor of a task whose moves satisfy `T`, with the world at the beginning
  of the current move;
* `Env.Moved T Q a b`: a move of a pool of such tasks;
* `moved_of_reach`: every move of the pool is of this kind.
-/

namespace ApplianceAdmin.Async

variable {C : Type} {R : C → Type} {ε α ω : Type}

namespace Env

variable (E : Env R ε ω)

/-- The task `i` whose moves up to a wait satisfy `T`.  The first world is that in which the current
move began; it may be any world whenever the task goes on after a wait. -/
def segments (T : ω → ω → Prop) (i : Tid) : Monitor R ε (ω × ω) where
  pre w c := E.yields c = true → T w.1 (E.issue i c w.2)
  next w c r w' :=
    if E.yields c = true then E.legal i c r w'.1 = true ∧ w'.2 = E.apply i c r w'.1
    else r = E.answer i c (E.issue i c w.2) ∧
      w' = (w.1, E.apply i c r (E.issue i c w.2))

variable {E} {T : ω → ω → Prop} {i : Tid}

/-- The task waits, and whenever it goes on, it makes a move of this kind. -/
def Poised (T : ω → ω → Prop) (i : Tid) (Q : Except ε α → ω × ω → Prop) : Prog R ε α → Prop
  | .done _ => True
  | .spin => True
  | .call c k => ∀ r w, E.legal i c r w = true →
      (E.segments T i).wp (k r) Q (w, E.apply i c r w)

/-- What a task does until it waits or ends -/
theorem settle_segment {Q : Except ε α → ω × ω → Prop} {p p' : Prog R ε α} {w₀ w w' : ω}
    (hp : (E.segments T i).wp p Q (w₀, w)) (h : E.settle i p w = some (p', w')) :
    E.Poised T i Q p' ∧ (p'.outcome = none → T w₀ w') ∧
      ∀ r, p'.outcome = some r → Q r (w₀, w') := by
  induction p generalizing w with
  | done r =>
    cases h
    refine ⟨trivial, fun hr => ?_, fun r' hr => ?_⟩
    · cases hr
    · cases hr
      exact hp
  | spin => cases h
  | call c k ih =>
    obtain ⟨hpre, hk⟩ := hp
    simp only [settle] at h
    split at h
    · rename_i hy
      cases h
      refine ⟨fun r w hl => hk r (w, E.apply i c r w) ?_, fun _ => hpre hy, fun r hr => ?_⟩
      · simp only [segments, if_pos hy]
        exact ⟨hl, trivial⟩
      · cases hr
    · rename_i hy
      refine ih _ (hk _ (w₀, _) ?_) h
      simp only [segments, if_neg hy]
      exact ⟨trivial, trivial⟩

/-- A move of a pool: no task ends with it and it satisfies `T`, or one task ends with an outcome
that satisfies `Q`. -/
inductive Moved (T : ω → ω → Prop) (Q : Tid → Except ε α → ω × ω → Prop) (a b : Config R ε α ω) :
    Prop
  | quiet : (∀ i, b.result i = a.result i) → T a.world b.world → Moved T Q a b
  | ends (i : Tid) (r : Except ε α) : a.result i = none → b.result i = some r →
      (∀ j, j ≠ i → b.result j = a.result j) → Q i r (a.world, b.world) → Moved T Q a b

/-- The move of the task that takes the place `i`, in which nothing had ended -/
theorem moved_of_settled {Q : Tid → Except ε α → ω × ω → Prop} {a b : Config R ε α ω}
    {p' : Prog R ε α} (hbefore : a.result i = none) (hafter : b.result i = p'.outcome)
    (hothers : ∀ j, j ≠ i → b.result j = a.result j)
    (hT : p'.outcome = none → T a.world b.world)
    (hQ : ∀ r, p'.outcome = some r → Q i r (a.world, b.world)) : Moved T Q a b := by
  cases houtcome : p'.outcome with
  | none =>
    refine .quiet (fun j => ?_) (hT houtcome)
    by_cases hji : j = i
    · rw [hji, hafter, houtcome, hbefore]
    · exact hothers j hji
  | some r => exact .ends i r hbefore (hafter.trans houtcome) hothers (hQ r houtcome)

theorem result_append {w w' : ω} {ts : List (Prog R ε α)} {p : Prog R ε α} (j : Tid) :
    (⟨w', ts ++ [p]⟩ : Config R ε α ω).result j =
      if j = ts.length then p.outcome else (⟨w, ts⟩ : Config R ε α ω).result j := by
  unfold Config.result
  split_ifs with hj
  · rw [hj, List.getElem?_concat_length]
    rfl
  · rcases Nat.lt_or_gt_of_ne hj with hlt | hgt
    · rw [List.getElem?_append_left hlt]
    · rw [List.getElem?_eq_none (show (ts ++ [p]).length ≤ j by simp; omega),
        List.getElem?_eq_none (show ts.length ≤ j from hgt.le)]

theorem result_set {w w' : ω} {ts : List (Prog R ε α)} {p : Prog R ε α} (hi : i < ts.length)
    (j : Tid) : (⟨w', ts.set i p⟩ : Config R ε α ω).result j =
      if j = i then p.outcome else (⟨w, ts⟩ : Config R ε α ω).result j := by
  unfold Config.result
  split_ifs with hj
  · rw [hj, List.getElem?_set_self hi]
    rfl
  · rw [List.getElem?_set_ne (Ne.symm hj)]

section Pool

variable {Q : Tid → Except ε α → ω × ω → Prop} {new : Prog R ε α → Prop}
  (hnew : ∀ p, new p → ∀ i w, (E.segments T i).wp p (Q i) (w, w))

include hnew

/-- Every waiting task of a pool is poised. -/
theorem poised_of_reach {w₀ : ω} {a : Config R ε α ω} (h : E.Reach new w₀ a) :
    ∀ i p, a.tasks[i]? = some p → E.Poised T i (Q i) p := by
  induction h with
  | init => exact fun i p hp => by cases hp
  | step _ hs ih =>
    intro i q hq
    cases hs with
    | @spawn w w' ts p p' hp hset =>
      rcases Nat.lt_trichotomy i ts.length with hlt | rfl | hgt
      · rw [List.getElem?_append_left hlt] at hq
        exact ih i q hq
      · rw [List.getElem?_concat_length] at hq
        cases hq
        exact (settle_segment (hnew p hp _ w) hset).1
      · rw [List.getElem?_eq_none (by simp; omega)] at hq
        cases hq
    | @resume w w' ts p' j c k r hj hl hset =>
      by_cases hij : i = j
      · subst hij
        rw [List.getElem?_set_self (List.getElem?_eq_some_iff.1 hj).1] at hq
        cases hq
        exact (settle_segment (ih i _ hj r w hl) hset).1
      · rw [List.getElem?_set_ne (Ne.symm hij)] at hq
        exact ih i q hq
    | tau ht => exact ih i q hq

/-- **Every move of a pool is one that its tasks may make.** -/
theorem moved_of_reach (htau : ∀ w w', E.tau w w' → T w w') {w₀ : ω} {a b : Config R ε α ω}
    (h : E.Reach new w₀ a) (hs : E.Step new a b) : Moved T Q a b := by
  cases hs with
  | @spawn w w' ts p p' hp hset =>
    obtain ⟨-, hT, hQ⟩ := settle_segment (hnew p hp _ w) hset
    have hresult : ∀ j, (⟨w', ts ++ [p']⟩ : Config R ε α ω).result j = _ :=
      result_append (w := w)
    refine moved_of_settled (i := ts.length) ?_ ?_ (fun j hj => ?_) hT hQ
    · simp [Config.result]
    · rw [hresult, if_pos rfl]
    · rw [hresult, if_neg hj]
  | @resume w w' ts p' i c k r hi hl hset =>
    obtain ⟨-, hT, hQ⟩ := settle_segment (poised_of_reach hnew h i _ hi r w hl) hset
    have hlen : i < ts.length := (List.getElem?_eq_some_iff.1 hi).1
    have hresult : ∀ j, (⟨w', ts.set i p'⟩ : Config R ε α ω).result j = _ :=
      result_set (w := w) hlen
    refine moved_of_settled (i := i) ?_ ?_ (fun j hj => ?_) hT hQ
    · simp [Config.result, hi, Prog.outcome]
    · rw [hresult, if_pos rfl]
    · rw [hresult, if_neg hj]
  | tau ht => exact .quiet (fun _ => rfl) (htau _ _ ht)

end Pool

end Env

end ApplianceAdmin.Async
