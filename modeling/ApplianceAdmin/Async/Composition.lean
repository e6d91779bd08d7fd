import ApplianceAdmin.Async.Interruption
import ApplianceAdmin.Async.Subroutine

/-!
# Properties of what is put together

Many properties hold of a program because they hold of its parts.  What is derived from the clauses
of `Composes` alone holds for every such property at once, so that a program is taken apart one time
for all of them.

* `Composes E P`: `P` holds of what is put together from programs with `P`; the exceptions in `E` are
  raised and caught, and every other one passes the handlers;
* `Cleans K q`: `q` does nothing but the calls in `K`, none of which fails, as what stands in a
  `finally` does;
* `composes_within`, `composes_prompt`, `composes_built`, `composes_settles`.
-/

namespace ApplianceAdmin.Async

open Prog Interruption

variable {C : Type} {R : C → Type} {ε : Type} {E : ε → Prop} {S K : C → Prop}

/-- `P` is kept when programs are put together that raise and catch exceptions in `E`. -/
structure Composes (E : ε → Prop) (P : {α : Type} → Prog R ε α → Prop) : Prop where
  lift {α : Type} {r : Except ε α} : (∀ e, r = .error e → E e) → P (lift r)
  bind {α β : Type} {p : Prog R ε α} {f : α → Prog R ε β} : P p → (∀ a, P (f a)) → P (p >>= f)
  tryCatch {α : Type} {p : Prog R ε α} {h : ε → Prog R ε α} : P p → (∀ e, E e → P (h e)) →
    (∀ e, ¬E e → h e = raise e) → P (p.tryCatch h)

namespace Composes

variable {P : {α : Type} → Prog R ε α → Prop} {α : Type}

theorem pure (hP : Composes E P) (a : α) : P (pure a : Prog R ε α) :=
  hP.lift fun _ h => by cases h

theorem raise (hP : Composes E P) {e : ε} (he : E e) : P (raise e : Prog R ε α) :=
  hP.lift fun _ h => by cases h; exact he

end Composes

/-! ### Clean-up -/

/-- `q` makes only calls in `K`, takes none of them to fail, and ends. -/
def Cleans (K : C → Prop) : Prog R ε Unit → Prop
  | .done r => r = .ok ()
  | .spin => False
  | .call c k => K c ∧ (∀ a, Cleans K (k (.ok a))) ∧ ∀ e, k (.error e) = .spin

section Cleans

variable {q : Prog R ε Unit}

theorem cleans_ask_bind {c : C} {f : R c → Prog R ε Unit} (hc : K c) (hf : ∀ a, Cleans K (f a)) :
    Cleans K (ask c >>= f) :=
  ⟨hc, hf, fun _ => rfl⟩

theorem within_of_cleans (hKS : ∀ c, K c → S c) (hq : Cleans K q) : Within S E q := by
  induction q with
  | done r =>
    cases hq
    exact within_ok ()
  | spin => exact within_spin
  | call c k ih =>
    refine ⟨hKS c hq.1, fun r _ => ?_⟩
    cases r with
    | ok a => exact ih _ (hq.2.1 a)
    | error e =>
      rw [hq.2.2 e]
      exact within_spin

theorem built_of_cleans {u : Prog R ε Unit} (hKS : ∀ c, K c → S c) (hq : Cleans K q) :
    Built S u q := by
  induction q with
  | done r => exact .done r
  | spin => exact .spin
  | call c k ih =>
    refine .call (hKS c hq.1) fun r => ?_
    cases r with
    | ok a => exact ih _ (hq.2.1 a)
    | error e =>
      rw [hq.2.2 e]
      exact .spin

variable {I : Interruption C ε}

theorem prompt_of_cleans (hKS : ∀ c, K c → S c) (hwaits : ∀ c, K c → ¬I.waits c)
    (hq : Cleans K q) : I.Prompt S q := by
  induction q with
  | done r => trivial
  | spin => trivial
  | call c k ih =>
    refine ⟨hKS c hq.1, fun hw => absurd hw (hwaits c hq.1), fun r => ?_⟩
    cases r with
    | ok a => exact ih _ (hq.2.1 a)
    | error e =>
      rw [hq.2.2 e]
      exact prompt_spin

theorem leads_of_cleans (hK : ∀ c, K c → I.cleans c) (hq : Cleans K q) : I.Leads (.ok ()) q := by
  induction q with
  | done r => exact hq
  | spin => exact hq
  | call c k ih => exact ⟨hK c hq.1, fun a => ih _ (hq.2.1 a)⟩

/-- A clean-up ends, and leaves what its calls leave. -/
theorem wp_of_cleans {σ : Type} {M : Monitor R ε σ} {P : σ → Prop}
    (hcall : ∀ s c, K c → P s → M.pre s c ∧ ∀ a s', M.next s c (.ok a) s' → P s')
    (hq : Cleans K q) {s : σ} (hs : P s) : M.wp q (fun r s' => r = .ok () ∧ P s') s := by
  induction q generalizing s with
  | done r => exact ⟨hq, hs⟩
  | spin => trivial
  | call c k ih =>
    obtain ⟨hpre, hnext⟩ := hcall s c hq.1 hs
    refine ⟨hpre, fun r s' hn => ?_⟩
    cases r with
    | ok a => exact ih _ (hq.2.1 a) (hnext a s' hn)
    | error e =>
      rw [hq.2.2 e]
      trivial

end Cleans

/-! ### The properties of this library -/

/-- The exceptions that are raised are among those that may be. -/
theorem composes_within {E' : ε → Prop} (hE : ∀ e, E e → E' e) :
    Composes (R := R) E (Within S E') where
  lift h := within_lift fun e he => hE e (h e he)
  bind hp hf := within_bind hp hf
  tryCatch hp hh hpass := within_tryCatch hp fun e he => by
    by_cases hcaught : E e
    · exact hh e hcaught
    -- the handler raises again what it does not catch
    · rw [hpass e hcaught]
      exact (within_raise e).2 he

/-- The interruption passes the handlers. -/
theorem composes_prompt {I : Interruption C ε} (hI : ¬E I.exc) :
    Composes (R := R) E (I.Prompt S) where
  lift _ := prompt_lift _
  bind hp hf := prompt_bind hp hf
  tryCatch hp hh hpass := by
    refine prompt_tryCatch hp (fun e => ?_) ?_
    · by_cases hcaught : E e
      · exact hh e hcaught
      · rw [hpass e hcaught]
        exact prompt_raise e
    · rw [hpass _ hI]
      rfl

theorem composes_built {u : Prog R ε Unit} : Composes E (Built S u) where
  lift _ := .done _
  bind hp hf := .bind hp hf
  tryCatch hp hh hpass := .tryCatch hp fun e => by
    by_cases hcaught : E e
    · exact hh e hcaught
    · rw [hpass e hcaught]
      exact .done _

theorem composes_settles {σ : Type} {M : Monitor R ε σ} : Composes E M.Settles where
  lift _ := Monitor.settles_done _
  bind hp hf := Monitor.settles_bind hp hf
  tryCatch hp hh hpass := Monitor.settles_tryCatch hp fun e => by
    by_cases hcaught : E e
    · exact hh e hcaught
    · rw [hpass e hcaught]
      exact Monitor.settles_done _

end ApplianceAdmin.Async
