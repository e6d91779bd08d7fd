import ApplianceAdmin.Async.Monitor

/-!
# Programs with a subroutine

`Built S u p` says that the program `p` is put together from calls that satisfy `S` and from the
subroutine `u`, whose own calls may be others.

`wp_of_built` is the frame rule for such programs: a property that `u` keeps as a whole and the
other calls keep one by one is kept by `p`.  Inside `u` the property may fail for a while, which
`wp_of_calls` does not allow.
-/

namespace ApplianceAdmin.Async

open Prog

variable {C : Type} {R : C → Type} {ε α β σ : Type} {S : C → Prop} {u : Prog R ε Unit}

/-- `p` is put together from calls in `S` and from `u`. -/
inductive Built (S : C → Prop) (u : Prog R ε Unit) : {α : Type} → Prog R ε α → Prop
  | done {α : Type} (r : Except ε α) : Built S u (.done r)
  | spin {α : Type} : Built S u (.spin : Prog R ε α)
  | call {α : Type} {c : C} {k : Except ε (R c) → Prog R ε α} :
      S c → (∀ r, Built S u (k r)) → Built S u (.call c k)
  | sub : Built S u u
  | bind {α β : Type} {p : Prog R ε α} {f : α → Prog R ε β} :
      Built S u p → (∀ a, Built S u (f a)) → Built S u (p >>= f)
  | tryCatch {α : Type} {p : Prog R ε α} {h : ε → Prog R ε α} :
      Built S u p → (∀ e, Built S u (h e)) → Built S u (p.tryCatch h)
  | ensure {α : Type} {p : Prog R ε α} {q : Prog R ε Unit} :
      Built S u p → Built S u q → Built S u (p.ensure q)

theorem built_perform {c : C} (hc : S c) : Built S u (perform c : Prog R ε (R c)) :=
  .call hc .done

theorem built_ask {c : C} (hc : S c) : Built S u (ask c : Prog R ε (R c)) := by
  refine .call hc fun r => ?_
  cases r with
  | ok a => exact .done _
  | error e => exact .spin

/-- **Frame rule.**  What the subroutine and each of the other calls keep is kept. -/
theorem wp_of_built {M : Monitor R ε σ} {P : σ → Prop}
    (hcall : ∀ s c, S c → P s → M.pre s c ∧ ∀ r s', M.next s c r s' → P s')
    (hu : ∀ s, P s → M.wp u (fun _ => P) s) {p : Prog R ε α} (hp : Built S u p) :
    ∀ s, P s → M.wp p (fun _ => P) s := by
  induction hp with
  | done r => exact fun _ hs => hs
  | spin => exact fun _ _ => trivial
  | call hc _ ih =>
    intro s hs
    obtain ⟨hpre, hnext⟩ := hcall s _ hc hs
    exact ⟨hpre, fun r s' hn => ih r s' (hnext r s' hn)⟩
  | sub => exact hu
  | bind _ _ ihp ihf =>
    intro s hs
    refine M.wp_bind.2 (Monitor.wp_mono (ihp s hs) fun r s' hs' => ?_)
    cases r with
    | ok a => exact ihf a s' hs'
    | error e => exact hs'
  | tryCatch _ _ ihp ihh =>
    intro s hs
    refine M.wp_tryCatch.2 (Monitor.wp_mono (ihp s hs) fun r s' hs' => ?_)
    cases r with
    | ok a => exact hs'
    | error e => exact ihh e s' hs'
  | ensure _ _ ihp ihq =>
    intro s hs
    refine M.wp_ensure.2 (Monitor.wp_mono (ihp s hs) fun r s' hs' => ?_)
    refine Monitor.wp_mono (ihq s' hs') fun r' s'' hs'' => ?_
    cases r' with
    | ok a => exact hs''
    | error e => exact hs''

end ApplianceAdmin.Async
