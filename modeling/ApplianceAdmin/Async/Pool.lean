import ApplianceAdmin.Async.Monitor

/-!
# Pools of tasks

Several programs share one world.  A task runs alone until it reaches a call that yields to the
scheduler; there it waits, other tasks run, and at some point the world answers.  Calls that do
not yield are answered at once, so what a task does between two of its waits is atomic, as in a
single-threaded event loop.

* `Env`: how calls and answers change the world, which answers are possible, and what the world
  does by itself (`tau`);
* `settle`: run a task up to its next wait;
* `Step`, `Reach`: the configurations a pool can reach; a task that is out of fuel is not stepped;
* `play`: one scheduled run, computed;
* `traced`: the same pool with the answered calls of each task written down;
* `Serves`: the configurations of a pool whose tasks are there for something, such as a request;
  `serves_path` says that every task moves along a path of the program started for it.
-/

namespace ApplianceAdmin.Async

/-- The number of a task, in the order of the spawns. -/
abbrev Tid := ℕ

/-- The world of a pool. -/
structure Env {C : Type} (R : C → Type) (ε ω : Type) where
  /-- Does the call give way to other tasks? -/
  yields : C → Bool
  /-- What making the call changes. -/
  issue : Tid → C → ω → ω
  /-- The answer to a call that does not yield. -/
  answer : Tid → (c : C) → ω → Except ε (R c)
  /-- The answers that a call which yields may get. -/
  legal : Tid → (c : C) → Except ε (R c) → ω → Bool
  /-- What the answer changes. -/
  apply : Tid → (c : C) → Except ε (R c) → ω → ω
  /-- What the world does by itself. -/
  tau : ω → ω → Prop

/-- A world together with its tasks. -/
structure Config {C : Type} (R : C → Type) (ε α ω : Type) where
  world : ω
  tasks : List (Prog R ε α)

variable {C : Type} {R : C → Type} {ε α ω : Type}

/-- The outcome of task `i`, once it has ended. -/
def Config.result (a : Config R ε α ω) (i : Tid) : Option (Except ε α) :=
  a.tasks[i]?.bind Prog.outcome

theorem Config.result_eq_some {a : Config R ε α ω} {i : Tid} {r : Except ε α} :
    a.result i = some r ↔ a.tasks[i]? = some (.done r) := by
  rw [Config.result, Option.bind_eq_some_iff]
  refine ⟨?_, fun h => ⟨_, h, rfl⟩⟩
  rintro ⟨p, hp, hr⟩
  rw [hp, Prog.outcome_eq_some.1 hr]

namespace Env

/-- Run task `i` up to its next wait, or to its end. -/
def settle (E : Env R ε ω) (i : Tid) : Prog R ε α → ω → Option (Prog R ε α × ω)
  | .done r, w => some (.done r, w)
  | .spin, _ => none
  | .call c k, w =>
      let w₁ := E.issue i c w
      if E.yields c then some (.call c k, w₁)
      else E.settle i (k (E.answer i c w₁)) (E.apply i c (E.answer i c w₁) w₁)

variable (E : Env R ε ω)

/-- The same world with fewer answers. -/
def restrict (guard : Tid → (c : C) → Except ε (R c) → ω → Bool) : Env R ε ω :=
  { E with legal := fun i c r w => E.legal i c r w && guard i c r w }

/-- One move of a pool whose new tasks are taken from `new`. -/
inductive Step (new : Prog R ε α → Prop) : Config R ε α ω → Config R ε α ω → Prop
  | spawn {w w' : ω} {ts : List (Prog R ε α)} {p p' : Prog R ε α} :
      new p → E.settle ts.length p w = some (p', w') →
      Step new ⟨w, ts⟩ ⟨w', ts ++ [p']⟩
  | resume {w w' : ω} {ts : List (Prog R ε α)} {p' : Prog R ε α} {i : Tid} {c : C}
      {k : Except ε (R c) → Prog R ε α} {r : Except ε (R c)} :
      ts[i]? = some (.call c k) → E.legal i c r w = true →
      E.settle i (k r) (E.apply i c r w) = some (p', w') →
      Step new ⟨w, ts⟩ ⟨w', ts.set i p'⟩
  | tau {w w' : ω} {ts : List (Prog R ε α)} : E.tau w w' → Step new ⟨w, ts⟩ ⟨w', ts⟩

/-- The configurations that a pool can reach from the world `w₀` without tasks. -/
inductive Reach (new : Prog R ε α → Prop) (w₀ : ω) : Config R ε α ω → Prop
  | init : Reach new w₀ ⟨w₀, []⟩
  | step {a b : Config R ε α ω} : Reach new w₀ a → E.Step new a b → Reach new w₀ b

/-- `p` has ended, or waits at a call. -/
def AtRest : Prog R ε α → Prop
  | .done _ => True
  | .spin => False
  | .call c _ => E.yields c = true

/-- A task settles at rest, somewhere in its program. -/
theorem settle_at_rest {P : Prog R ε α → Prop} (hP : ∀ c k r, P (.call c k) → P (k r)) {i : Tid}
    {p p' : Prog R ε α} {w w' : ω} (hp : P p) (h : E.settle i p w = some (p', w')) :
    E.AtRest p' ∧ P p' := by
  induction p generalizing w with
  | done r => cases h; exact ⟨trivial, hp⟩
  | spin => cases h
  | call c k ih =>
    simp only [settle] at h
    split at h
    · rename_i hy
      cases h
      exact ⟨hy, hp⟩
    · exact ih _ (hP c k _ hp) h

/-- The tasks of a pool are at rest, and keep what a program keeps with each answer. -/
theorem forall_tasks {new P : Prog R ε α → Prop} (hP : ∀ c k r, P (.call c k) → P (k r))
    (hnew : ∀ p, new p → P p) {w₀ : ω} {a : Config R ε α ω} (h : E.Reach new w₀ a) :
    ∀ p ∈ a.tasks, E.AtRest p ∧ P p := by
  induction h with
  | init => exact fun p hp => absurd hp List.not_mem_nil
  | step _ hs ih =>
    cases hs with
    | spawn hp hset =>
      refine List.forall_mem_append.2 ⟨ih, fun q hq => ?_⟩
      obtain rfl := List.mem_singleton.1 hq
      exact E.settle_at_rest hP (hnew _ hp) hset
    | @resume w w' ts p' i c k r hi _ hset =>
      intro q hq
      rcases List.mem_or_eq_of_mem_set hq with hq | rfl
      · exact ih q hq
      · exact E.settle_at_rest hP (hP c k r (ih _ (List.mem_of_getElem? hi)).2) hset
    | tau _ => exact ih

/-- What calls and answers keep is kept while a task settles. -/
theorem settle_keeps {P : ω → Prop} (hissue : ∀ i c w, P w → P (E.issue i c w))
    (hanswer : ∀ i c w, E.yields c = false → P w → P (E.apply i c (E.answer i c w) w)) {i : Tid}
    {p p' : Prog R ε α} {w w' : ω} (hw : P w) (h : E.settle i p w = some (p', w')) : P w' := by
  induction p generalizing w with
  | done r => cases h; exact hw
  | spin => cases h
  | call c k ih =>
    simp only [settle] at h
    split at h
    · cases h
      exact hissue i c w hw
    · rename_i hy
      exact ih _ (hanswer i c _ (Bool.eq_false_iff.2 hy) (hissue i c w hw)) h

/-- What calls, answers and the world by itself keep holds in every configuration that is reached,
whatever the tasks do. -/
theorem reach_keeps {P : ω → Prop} (hissue : ∀ i c w, P w → P (E.issue i c w))
    (hanswer : ∀ i c w, E.yields c = false → P w → P (E.apply i c (E.answer i c w) w))
    (hreply : ∀ i c r w, E.legal i c r w = true → P w → P (E.apply i c r w))
    (htau : ∀ w w', E.tau w w' → P w → P w') {new : Prog R ε α → Prop} {w₀ : ω} (hw₀ : P w₀)
    {a : Config R ε α ω} (h : E.Reach new w₀ a) : P a.world := by
  induction h with
  | init => exact hw₀
  | step _ hs ih =>
    cases hs with
    | spawn _ hset => exact E.settle_keeps hissue hanswer ih hset
    | resume _ hl hset => exact E.settle_keeps hissue hanswer (hreply _ _ _ _ hl ih) hset
    | tau ht => exact htau _ _ ht ih

/-! ### Scheduled runs -/

/-- A scheduler's decision: start a program, answer the call at which a task waits, or let the
world move in one of its ways. -/
inductive Move (E : Env R ε ω) (α : Type)
  | spawn (p : Prog R ε α)
  | resume (i : Tid) (reply : (c : C) → Except ε (R c))
  | tau (f : ω → Option ω) (h : ∀ w w', f w = some w' → E.tau w w')

/-- The configuration after one decision, when the world allows it. -/
def playOne (a : Config R ε α ω) : E.Move α → Option (Config R ε α ω)
  | .spawn p =>
      (E.settle a.tasks.length p a.world).map fun s => ⟨s.2, a.tasks ++ [s.1]⟩
  | .resume i reply =>
      match a.tasks[i]? with
      | some (.call c k) =>
          if E.legal i c (reply c) a.world then
            (E.settle i (k (reply c)) (E.apply i c (reply c) a.world)).map
              fun s => ⟨s.2, a.tasks.set i s.1⟩
          else none
      | _ => none
  | .tau f _ => (f a.world).map fun w => ⟨w, a.tasks⟩

/-- The configuration after a list of decisions. -/
def play : List (E.Move α) → Config R ε α ω → Option (Config R ε α ω)
  | [], a => some a
  | m :: ms, a => (E.playOne a m).bind (play ms)

/-- The programs that a list of decisions starts. -/
def spawns : List (E.Move α) → List (Prog R ε α)
  | [] => []
  | .spawn p :: ms => p :: spawns ms
  | .resume _ _ :: ms => spawns ms
  | .tau _ _ :: ms => spawns ms

theorem step_of_playOne {new : Prog R ε α → Prop} {a b : Config R ε α ω} {m : E.Move α}
    (hm : ∀ p, m = .spawn p → new p) (h : E.playOne a m = some b) : E.Step new a b := by
  obtain ⟨w, ts⟩ := a
  cases m with
  | spawn p =>
    obtain ⟨⟨p', w'⟩, hs, rfl⟩ := Option.map_eq_some_iff.1 h
    exact .spawn (hm p rfl) hs
  | resume i reply =>
    simp only [playOne] at h
    split at h
    · rename_i c k hi
      split at h
      · rename_i hl
        obtain ⟨⟨p', w'⟩, hs, rfl⟩ := Option.map_eq_some_iff.1 h
        exact .resume hi hl hs
      · cases h
    · cases h
  | tau f hf =>
    obtain ⟨w', hw, rfl⟩ := Option.map_eq_some_iff.1 h
    exact .tau (hf w w' hw)

/-- A scheduled run that starts only programs from `new` stays in the reachable configurations. -/
theorem reach_of_play {new : Prog R ε α → Prop} {w₀ : ω} (ms : List (E.Move α))
    (hms : ∀ p ∈ E.spawns ms, new p) {a b : Config R ε α ω} (ha : E.Reach new w₀ a)
    (h : E.play ms a = some b) : E.Reach new w₀ b := by
  induction ms generalizing a with
  | nil => cases h; exact ha
  | cons m ms ih =>
    obtain ⟨a', h₁, h₂⟩ := Option.bind_eq_some_iff.1 h
    have hm : ∀ p, m = .spawn p → new p := by
      rintro p rfl
      exact hms p (by simp [spawns])
    have hrest : ∀ p ∈ E.spawns ms, new p := by
      intro p hp
      refine hms p ?_
      cases m with
      | spawn q => exact List.mem_cons_of_mem _ hp
      | resume i reply => exact hp
      | tau f hf => exact hp
    exact ih hrest (.step ha (E.step_of_playOne hm h₁)) h₂

/-! ### Traces of the tasks -/

/-- The pool that writes down what each task has been answered. -/
def traced : Env R ε (ω × (Tid → List (Event R ε))) where
  yields := E.yields
  issue i c w := (E.issue i c w.1, w.2)
  answer i c w := E.answer i c w.1
  legal i c r w := E.legal i c r w.1
  apply i c r w := (E.apply i c r w.1, Function.update w.2 i (w.2 i ++ [⟨c, r⟩]))
  tau w w' := E.tau w.1 w'.1 ∧ w'.2 = w.2

/-- Settling a task extends its own trace along its program and leaves the other traces alone. -/
theorem settle_traced {i : Tid} {p₀ p p' : Prog R ε α} {w w' : ω × (Tid → List (Event R ε))}
    (hp : Path p₀ (w.2 i) p) (h : E.traced.settle i p w = some (p', w')) :
    Path p₀ (w'.2 i) p' ∧ ∀ j, j ≠ i → w'.2 j = w.2 j := by
  induction p generalizing w with
  | done r => cases h; exact ⟨hp, fun _ _ => rfl⟩
  | spin => cases h
  | call c k ih =>
    simp only [settle] at h
    split at h
    · cases h; exact ⟨hp, fun _ _ => rfl⟩
    · refine (ih _ ?_ h).imp_right fun hj j hne => ?_
      · simpa [traced] using hp.snoc _
      · simpa [traced, hne] using hj j hne

/-- A pool with traces is a pool. -/
theorem settle_of_traced {i : Tid} {p p' : Prog R ε α} {w w' : ω × (Tid → List (Event R ε))}
    (h : E.traced.settle i p w = some (p', w')) : E.settle i p w.1 = some (p', w'.1) := by
  induction p generalizing w with
  | done r => cases h; rfl
  | spin => cases h
  | call c k ih =>
    simp only [settle] at h ⊢
    split at h
    · rename_i hy
      cases h
      exact if_pos hy
    · rename_i hy
      rw [if_neg (show ¬E.yields c = true from hy)]
      exact ih _ h

theorem step_of_traced {new : Prog R ε α → Prop}
    {a b : Config R ε α (ω × (Tid → List (Event R ε)))} (h : E.traced.Step new a b) :
    E.Step new ⟨a.world.1, a.tasks⟩ ⟨b.world.1, b.tasks⟩ := by
  cases h with
  | spawn hp hset => exact .spawn hp (E.settle_of_traced hset)
  | resume hi hl hset => exact .resume hi hl (E.settle_of_traced hset)
  | tau ht => exact .tau ht.1

theorem reach_of_traced {new : Prog R ε α → Prop} {w₀ : ω}
    {a : Config R ε α (ω × (Tid → List (Event R ε)))}
    (h : E.traced.Reach new (w₀, fun _ => []) a) : E.Reach new w₀ ⟨a.world.1, a.tasks⟩ := by
  induction h with
  | init => exact .init
  | step _ hs ih => exact .step ih (E.step_of_traced hs)

/-! ### What the tasks are for -/

section Serves

variable {L : Type}

/-- The configurations of a pool whose tasks are started for something: `new l p` says that `p` may
be started for `l`, and the list has what the tasks were started for. -/
inductive Serves (new : L → Prog R ε α → Prop) (w₀ : ω) : List L → Config R ε α ω → Prop
  | init : Serves new w₀ [] ⟨w₀, []⟩
  | spawn {ls : List L} {l : L} {w w' : ω} {ts : List (Prog R ε α)} {p p' : Prog R ε α} :
      Serves new w₀ ls ⟨w, ts⟩ → new l p → E.settle ts.length p w = some (p', w') →
      Serves new w₀ (ls ++ [l]) ⟨w', ts ++ [p']⟩
  | step {ls : List L} {a b : Config R ε α ω} :
      Serves new w₀ ls a → E.Step (fun _ => False) a b → Serves new w₀ ls b

variable {new : L → Prog R ε α → Prop} {w₀ : ω} {ls : List L}

/-- What a step does that starts no task -/
theorem Step.length_tasks {a b : Config R ε α ω} (h : E.Step (fun _ => False) a b) :
    b.tasks.length = a.tasks.length := by
  cases h with
  | spawn hp _ => exact hp.elim
  | resume _ _ _ => exact List.length_set
  | tau _ => rfl

/-- Every task is there for something. -/
theorem Serves.length_eq {a : Config R ε α ω} (h : E.Serves new w₀ ls a) :
    ls.length = a.tasks.length := by
  induction h with
  | init => rfl
  | spawn _ _ _ ih => simpa using ih
  | step _ hs ih => rw [ih, Step.length_tasks E hs]

/-- The configurations that a pool can reach are those where the tasks are for themselves. -/
theorem serves_of_reach {new : Prog R ε α → Prop} {a : Config R ε α ω} (h : E.Reach new w₀ a) :
    ∃ ps, E.Serves (fun p p' => p' = p ∧ new p) w₀ ps a := by
  induction h with
  | init => exact ⟨[], .init⟩
  | step _ hs ih =>
    obtain ⟨ps, hserves⟩ := ih
    cases hs with
    | spawn hp hset => exact ⟨_, hserves.spawn ⟨rfl, hp⟩ hset⟩
    | resume hi hl hset => exact ⟨ps, hserves.step (.resume hi hl hset)⟩
    | tau ht => exact ⟨ps, hserves.step (.tau ht)⟩

/-- A scheduled run that starts its programs for `ls`, one after the other -/
theorem serves_of_play (ms : List (E.Move α)) {ls' : List L}
    (hms : List.Forall₂ new ls' (E.spawns ms)) {a b : Config R ε α ω} (ha : E.Serves new w₀ ls a)
    (h : E.play ms a = some b) : E.Serves new w₀ (ls ++ ls') b := by
  induction ms generalizing a ls ls' with
  | nil =>
    cases h
    cases hms
    rwa [List.append_nil]
  | cons m ms ih =>
    obtain ⟨a', h₁, h₂⟩ := Option.bind_eq_some_iff.1 h
    cases m with
    | spawn p =>
      cases hms with
      | @cons l _ ls' _ hp hms =>
        obtain ⟨⟨p', w'⟩, hset, rfl⟩ := Option.map_eq_some_iff.1 h₁
        have hrest := ih hms (ha.spawn hp hset) h₂
        rwa [List.append_assoc] at hrest
    | resume i reply => exact ih hms (ha.step (E.step_of_playOne (fun _ h => by cases h) h₁)) h₂
    | tau f hf => exact ih hms (ha.step (E.step_of_playOne (fun _ h => by cases h) h₁)) h₂

/-- **Every task of a pool moves along a path of the program that it was started with.** -/
theorem serves_path {a : Config R ε α (ω × (Tid → List (Event R ε)))}
    (h : E.traced.Serves new (w₀, fun _ => []) ls a) :
    (∀ i l, ls[i]? = some l →
      ∃ p p₀, a.tasks[i]? = some p ∧ new l p₀ ∧ Path p₀ (a.world.2 i) p) ∧
      ∀ i, a.tasks.length ≤ i → a.world.2 i = [] := by
  induction h with
  | init => exact ⟨by simp, fun _ _ => rfl⟩
  | @spawn ls l w w' ts p p' hserves hp hset ih =>
    obtain ⟨ih₁, ih₂⟩ := ih
    have hlength : ls.length = ts.length := hserves.length_eq
    have hnil : w.2 ts.length = [] := ih₂ _ le_rfl
    have hstart : Path p (w.2 ts.length) p := by
      rw [hnil]
      exact .nil p
    obtain ⟨hpath, hother⟩ := E.settle_traced hstart hset
    refine ⟨fun i l' hl => ?_, fun i hi => ?_⟩
    · rcases Nat.lt_trichotomy i ts.length with hlt | rfl | hgt
      · rw [List.getElem?_append_left (hlength ▸ hlt)] at hl
        rw [List.getElem?_append_left hlt, hother i hlt.ne]
        exact ih₁ i l' hl
      · rw [List.getElem?_append_right hlength.le, hlength, Nat.sub_self] at hl
        cases hl
        exact ⟨p', p, List.getElem?_concat_length, hp, hpath⟩
      · rw [List.getElem?_eq_none (by simp; omega)] at hl
        cases hl
    · have hi' : ts.length + 1 ≤ i := by simpa using hi
      rw [hother i (Nat.ne_of_gt hi')]
      exact ih₂ i (Nat.le_of_succ_le hi')
  | @step ls a b hserves hs ih =>
    obtain ⟨ih₁, ih₂⟩ := ih
    cases hs with
    | spawn hp _ => exact hp.elim
    | @resume w w' ts p' i c k r hi hl hset =>
      have hlen : i < ts.length := (List.getElem?_eq_some_iff.1 hi).1
      have hlabel : i < ls.length := by
        rw [hserves.length_eq]
        exact hlen
      obtain ⟨p, p₀, hp, hnew, hpath⟩ := ih₁ i _ (List.getElem?_eq_getElem hlabel)
      obtain rfl : .call c k = p := Option.some.inj (hi.symm.trans hp)
      have hsnoc : Path p₀ ((E.traced.apply i c r w).2 i) (k r) := by
        simpa [traced] using hpath.snoc r
      obtain ⟨hpath', hother⟩ := E.settle_traced hsnoc hset
      have hkeep : ∀ j, j ≠ i → w'.2 j = w.2 j := fun j hj => by
        rw [hother j hj]; simp [traced, hj]
      refine ⟨fun j l hj => ?_, fun j hj => ?_⟩
      · by_cases hji : j = i
        · subst hji
          obtain rfl : ls[j] = l := Option.some.inj ((List.getElem?_eq_getElem hlabel).symm.trans hj)
          rw [List.getElem?_set_self hlen]
          exact ⟨p', p₀, rfl, hnew, hpath'⟩
        · rw [List.getElem?_set_ne (Ne.symm hji), hkeep j hji]
          exact ih₁ j l hj
      · have hj' : ts.length ≤ j := by simpa using hj
        rw [hkeep j (Nat.ne_of_gt (lt_of_lt_of_le hlen hj'))]
        exact ih₂ j hj'
    | @tau w w' ts ht =>
      refine ⟨fun i l hl => ?_, fun i hi => ?_⟩
      · simp only [ht.2]
        exact ih₁ i l hl
      · simp only [ht.2]
        exact ih₂ i hi

end Serves

/-- The same without what the tasks are for -/
theorem reach_path {new : Prog R ε α → Prop} {w₀ : ω}
    {a : Config R ε α (ω × (Tid → List (Event R ε)))}
    (h : E.traced.Reach new (w₀, fun _ => []) a) :
    (∀ i p, a.tasks[i]? = some p → ∃ p₀, new p₀ ∧ Path p₀ (a.world.2 i) p) ∧
      ∀ i, a.tasks.length ≤ i → a.world.2 i = [] := by
  obtain ⟨ps, hserves⟩ := E.traced.serves_of_reach h
  obtain ⟨hpath, hnil⟩ := E.serves_path hserves
  refine ⟨fun i p hi => ?_, hnil⟩
  have hlen : i < ps.length := by
    rw [hserves.length_eq]
    exact (List.getElem?_eq_some_iff.1 hi).1
  obtain ⟨p', p₀, hp', ⟨rfl, hnew⟩, hp₀⟩ := hpath i _ (List.getElem?_eq_getElem hlen)
  obtain rfl : p = p' := Option.some.inj (hi.symm.trans hp')
  exact ⟨_, hnew, hp₀⟩

end Env

end ApplianceAdmin.Async
