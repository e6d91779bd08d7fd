import ApplianceAdmin.Async.Pool

/-!
# Interruptions

An interruption is an exception that any call which waits may raise, such as the cancellation of a
task.  A program is prompt when, wherever it is interrupted, it does not wait again: it makes only
calls that clean up, and passes the interruption on.

* `Leads r p`: answered by values, `p` makes only calls that clean up and ends with `r`;
* `Prompt S p`: every call of `p` satisfies `S`, and an interruption leads to the end;
* `exists_settle`: in a pool, one step ends a task that is interrupted.
-/

namespace ApplianceAdmin.Async

open Prog

/-- An exception that any call which waits may raise -/
structure Interruption (C ε : Type) where
  exc : ε
  /-- Does the call wait? -/
  waits : C → Prop
  /-- Is the call made on the way out? -/
  cleans : C → Prop

variable {C : Type} {R : C → Type} {ε α β ω : Type}

namespace Interruption

variable (I : Interruption C ε)

/-- Answered by values, `p` makes only calls that clean up and ends with `r`. -/
def Leads (r : Except ε α) : Prog R ε α → Prop
  | .done r' => r' = r
  | .spin => False
  | .call c k => I.cleans c ∧ ∀ a, Leads r (k (.ok a))

/-- Every call of `p` satisfies `S`, and an interruption of any of them leads to the end of `p`. -/
def Prompt (S : C → Prop) : Prog R ε α → Prop
  | .done _ => True
  | .spin => True
  | .call c k =>
      S c ∧ (I.waits c → I.Leads (.error I.exc) (k (.error I.exc))) ∧ ∀ r, Prompt S (k r)

variable {I}

/-! ### The way out -/

theorem leads_bind {p : Prog R ε α} (hp : I.Leads (.error I.exc) p) (f : α → Prog R ε β) :
    I.Leads (.error I.exc) (p >>= f) := by
  induction p with
  | done r => cases hp; rfl
  | spin => exact hp
  | call c k ih => exact ⟨hp.1, fun a => ih _ (hp.2 a)⟩

theorem leads_then {p : Prog R ε α} {f : α → Prog R ε β} {a : α} {r : Except ε β}
    (hp : I.Leads (.ok a) p) (hf : I.Leads r (f a)) : I.Leads r (p >>= f) := by
  induction p with
  | done r' => cases hp; exact hf
  | spin => exact hp.elim
  | call c k ih => exact ⟨hp.1, fun a => ih _ (hp.2 a)⟩

theorem leads_tryCatch {p : Prog R ε α} (hp : I.Leads (.error I.exc) p) {h : ε → Prog R ε α}
    (hh : I.Leads (.error I.exc) (h I.exc)) : I.Leads (.error I.exc) (p.tryCatch h) := by
  induction p with
  | done r => cases hp; exact hh
  | spin => exact hp
  | call c k ih => exact ⟨hp.1, fun a => ih _ (hp.2 a)⟩

theorem leads_ensure {p : Prog R ε α} (hp : I.Leads (.error I.exc) p) {q : Prog R ε Unit}
    (hq : I.Leads (.ok ()) q) : I.Leads (.error I.exc) (p.ensure q) := by
  induction p with
  | done r =>
    cases hp
    exact leads_then hq rfl
  | spin => exact hp
  | call c k ih => exact ⟨hp.1, fun a => ih _ (hp.2 a)⟩

/-! ### Prompt programs -/

section Prompt

variable {S T : C → Prop}

theorem prompt_pure (a : α) : I.Prompt S (pure a : Prog R ε α) := trivial

theorem prompt_raise (e : ε) : I.Prompt S (raise e : Prog R ε α) := trivial

theorem prompt_lift (r : Except ε α) : I.Prompt S (lift r : Prog R ε α) := trivial

theorem prompt_spin : I.Prompt S (.spin : Prog R ε α) := trivial

theorem prompt_perform {c : C} (hc : S c) : I.Prompt S (perform c : Prog R ε (R c)) :=
  ⟨hc, fun _ => rfl, fun _ => trivial⟩

/-- A call that does not wait -/
theorem prompt_ask {c : C} (hc : S c) (hwaits : ¬I.waits c) :
    I.Prompt S (ask c : Prog R ε (R c)) := by
  refine ⟨hc, fun h => absurd h hwaits, fun r => ?_⟩
  cases r with
  | ok a => trivial
  | error e => trivial

theorem prompt_bind {p : Prog R ε α} {f : α → Prog R ε β} (hp : I.Prompt S p)
    (hf : ∀ a, I.Prompt S (f a)) : I.Prompt S (p >>= f) := by
  induction p with
  | done r =>
    cases r with
    | ok a => exact hf a
    | error e => trivial
  | spin => trivial
  | call c k ih =>
    exact ⟨hp.1, fun hw => leads_bind (hp.2.1 hw) f, fun r => ih r (hp.2.2 r)⟩

/-- The handler does not catch the interruption. -/
theorem prompt_tryCatch {p : Prog R ε α} {h : ε → Prog R ε α} (hp : I.Prompt S p)
    (hh : ∀ e, I.Prompt S (h e)) (hexc : I.Leads (.error I.exc) (h I.exc)) :
    I.Prompt S (p.tryCatch h) := by
  induction p with
  | done r =>
    cases r with
    | ok a => trivial
    | error e => exact hh e
  | spin => trivial
  | call c k ih =>
    exact ⟨hp.1, fun hw => leads_tryCatch (hp.2.1 hw) hexc, fun r => ih r (hp.2.2 r)⟩

theorem prompt_ensure {p : Prog R ε α} {q : Prog R ε Unit} (hp : I.Prompt S p)
    (hq : I.Prompt S q) (hleads : I.Leads (.ok ()) q) : I.Prompt S (p.ensure q) := by
  induction p with
  | done r => exact prompt_bind hq fun _ => trivial
  | spin => trivial
  | call c k ih =>
    exact ⟨hp.1, fun hw => leads_ensure (hp.2.1 hw) hleads, fun r => ih r (hp.2.2 r)⟩

theorem prompt_mono (hST : ∀ c, S c → T c) {p : Prog R ε α} (h : I.Prompt S p) :
    I.Prompt T p := by
  induction p with
  | done r => trivial
  | spin => trivial
  | call c k ih => exact ⟨hST c h.1, h.2.1, fun r => ih r (h.2.2 r)⟩

theorem calls_of_prompt {p : Prog R ε α} (h : I.Prompt S p) : Calls S p := by
  induction p with
  | done r => trivial
  | spin => trivial
  | call c k ih => exact ⟨h.1, fun r => ih r (h.2.2 r)⟩

end Prompt

/-! ### Interrupting a task -/

/-- The interruption is a possible answer to every call of `E` that waits. -/
structure Interrupts (I : Interruption C ε) (E : Env R ε ω) : Prop where
  waits : ∀ c, E.yields c = true → I.waits c
  legal : ∀ i c w, E.legal i c (.error I.exc) w = true
  cleans : ∀ i c w, I.cleans c → E.yields c = false ∧ ∃ a, E.answer i c w = .ok a

variable {E : Env R ε ω}

/-- The way out is one step, which keeps what every call that cleans up keeps. -/
theorem settle_of_leads (hE : I.Interrupts E) {i : Tid} {P : ω → Prop}
    (hP : ∀ c a w, I.cleans c → P w → P (E.apply i c (.ok a) (E.issue i c w))) {p : Prog R ε α}
    {r : Except ε α} (hp : I.Leads r p) {w : ω} (hw : P w) :
    ∃ w', E.settle i p w = some (.done r, w') ∧ P w' := by
  induction p generalizing w with
  | done r' =>
    cases hp
    exact ⟨w, rfl, hw⟩
  | spin => exact hp.elim
  | call c k ih =>
    obtain ⟨hy, a, ha⟩ := hE.cleans i c (E.issue i c w) hp.1
    obtain ⟨w', hset, hw'⟩ := ih _ (hp.2 a) (hP c a w hp.1 hw)
    refine ⟨w', ?_, hw'⟩
    simp only [Env.settle, hy, ha]
    exact hset

theorem Interrupts.traced (hE : I.Interrupts E) : I.Interrupts E.traced where
  waits := hE.waits
  legal i c w := hE.legal i c w.1
  cleans i c w := hE.cleans i c w.1

/-- **A task that is interrupted does not wait again**: it ends in the same step. -/
theorem exists_settle (hE : I.Interrupts E) {new : Prog R ε α → Prop} {S : C → Prop}
    (hnew : ∀ p, new p → I.Prompt S p) {w₀ : ω} {a : Config R ε α ω} (h : E.Reach new w₀ a)
    {i : Tid} {c : C} {k : Except ε (R c) → Prog R ε α} (hi : a.tasks[i]? = some (.call c k))
    {P : ω → Prop} (hstart : E.yields c = true → P (E.apply i c (.error I.exc) a.world))
    (hP : ∀ c a w, I.cleans c → P w → P (E.apply i c (.ok a) (E.issue i c w))) :
    ∃ w', E.settle i (k (.error I.exc)) (E.apply i c (.error I.exc) a.world) =
        some (.done (.error I.exc), w') ∧ P w' := by
  obtain ⟨hrest, hprompt⟩ := E.forall_tasks (P := I.Prompt S) (fun c k r hp => hp.2.2 r) hnew h _
    (List.mem_of_getElem? hi)
  exact settle_of_leads hE hP (hprompt.2.1 (hE.waits c hrest)) (hstart hrest)

end Interruption

end ApplianceAdmin.Async
