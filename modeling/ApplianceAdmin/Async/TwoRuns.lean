import ApplianceAdmin.Async.Interpret

/-!
# Two runs that look alike

An observer sees of a call and of its answer what a `View` shows.  Two programs look alike when no
answers that look alike to the observer let him tell them apart.

* `View`: what is seen; `Resembles W Q p p'`: the programs look alike, and values that they return are
  related by `Q`;
* `resembles_bind`, `resembles_tryCatch`, …: the rules; `resembles_self`: a program that is shown everything;
* `resembles_paths`: two runs with answers that look alike look alike, and come to the same end.
-/

namespace ApplianceAdmin.Async

open Prog

/-- What an observer sees of a call, and of a call together with its answer. -/
structure View {C : Type} (R : C → Type) (ε V O : Type) where
  call : C → V
  event : Event R ε → O

variable {C : Type} {R : C → Type} {ε α α' β β' V O : Type}

/-- Outcomes that look alike: the same exception, or values that are related. -/
inductive AlikeOutcome (Q : α → α' → Prop) : Except ε α → Except ε α' → Prop
  | ok {a : α} {a' : α'} : Q a a' → AlikeOutcome Q (.ok a) (.ok a')
  | error (x : ε) : AlikeOutcome Q (.error x) (.error x)

/-- The programs look alike: they make calls that look alike, and go on alike after answers that
do. -/
inductive Resembles (W : View R ε V O) (Q : α → α' → Prop) : Prog R ε α → Prog R ε α' → Prop
  | done {r : Except ε α} {r' : Except ε α'} : AlikeOutcome Q r r' → Resembles W Q (.done r) (.done r')
  | spin : Resembles W Q .spin .spin
  | call {c c' : C} {k : Except ε (R c) → Prog R ε α} {k' : Except ε (R c') → Prog R ε α'} :
      W.call c = W.call c' →
      (∀ r r', W.event ⟨c, r⟩ = W.event ⟨c', r'⟩ → Resembles W Q (k r) (k' r')) →
      Resembles W Q (.call c k) (.call c' k')

/-! ### Rules -/

section Rules

variable {W : View R ε V O} {Q : α → α' → Prop} {Q' : β → β' → Prop} {p : Prog R ε α}
  {p' : Prog R ε α'}

theorem resembles_pure {a : α} {a' : α'} (h : Q a a') :
    Resembles W Q (pure a : Prog R ε α) (pure a' : Prog R ε α') := .done (.ok h)

theorem resembles_raise (x : ε) : Resembles W Q (raise x : Prog R ε α) (raise x : Prog R ε α') :=
  .done (.error x)

theorem resembles_lift {r : Except ε α} {r' : Except ε α'} (h : AlikeOutcome Q r r') :
    Resembles W Q (lift r : Prog R ε α) (lift r' : Prog R ε α') := .done h

theorem resembles_follow {k : Except ε α → Prog R ε β} {k' : Except ε α' → Prog R ε β'}
    (hp : Resembles W Q p p') (hk : ∀ r r', AlikeOutcome Q r r' → Resembles W Q' (k r) (k' r')) :
    Resembles W Q' (p.follow k) (p'.follow k') := by
  induction hp with
  | done h => exact hk _ _ h
  | spin => exact .spin
  | call hc _ ih => exact .call hc ih

theorem resembles_bind {f : α → Prog R ε β} {f' : α' → Prog R ε β'} (hp : Resembles W Q p p')
    (hf : ∀ a a', Q a a' → Resembles W Q' (f a) (f' a')) : Resembles W Q' (p >>= f) (p' >>= f') := by
  induction hp with
  | done h =>
    cases h with
    | ok h => exact hf _ _ h
    | error x => exact .done (.error x)
  | spin => exact .spin
  | call hc _ ih => exact .call hc ih

theorem resembles_tryCatch {h : ε → Prog R ε α} {h' : ε → Prog R ε α'} (hp : Resembles W Q p p')
    (hh : ∀ x, Resembles W Q (h x) (h' x)) : Resembles W Q (p.tryCatch h) (p'.tryCatch h') := by
  induction hp with
  | done hr =>
    cases hr with
    | ok hr => exact .done (.ok hr)
    | error x => exact hh x
  | spin => exact .spin
  | call hc _ ih => exact .call hc ih

theorem resembles_ensure {q q' : Prog R ε Unit} (hp : Resembles W Q p p')
    (hq : Resembles W (fun _ _ => True) q q') : Resembles W Q (p.ensure q) (p'.ensure q') := by
  induction hp with
  | done hr => exact resembles_bind hq fun _ _ _ => .done hr
  | spin => exact .spin
  | call hc _ ih => exact .call hc ih

/-- The answers to `c` are seen as they are. -/
def View.Shows (W : View R ε V O) (c : C) : Prop :=
  ∀ r r' : Except ε (R c), W.event ⟨c, r⟩ = W.event ⟨c, r'⟩ → r = r'

theorem alikeOutcome_refl (r : Except ε α) : AlikeOutcome (· = ·) r r := by
  cases r with
  | ok a => exact .ok rfl
  | error x => exact .error x

/-- A program whose answers are all seen looks like itself. -/
theorem resembles_self (hp : Calls W.Shows p) : Resembles W (· = ·) p p := by
  induction p with
  | done r => exact .done (alikeOutcome_refl r)
  | spin => exact .spin
  | call c k ih =>
    refine .call rfl fun r r' h => ?_
    obtain rfl := hp.1 r r' h
    exact ih r (hp.2 r)

/-- Under another name, and to an observer who sees of the calls what the first one does -/
theorem resembles_rename {C' : Type} {R' : C' → Type} {f : C → C'} {V' O' : Type}
    {W : View (fun c => R' (f c)) ε V O} {W' : View R' ε V' O'}
    {p : Prog (fun c => R' (f c)) ε α} {p' : Prog (fun c => R' (f c)) ε α'}
    (hcall : ∀ c c', W.call c = W.call c' → W'.call (f c) = W'.call (f c'))
    (hevent : ∀ e e' : Event (fun c => R' (f c)) ε,
      W'.event (e.rename f) = W'.event (e'.rename f) → W.event e = W.event e')
    (hp : Resembles W Q p p') : Resembles W' Q p.rename p'.rename := by
  induction hp with
  | done h => exact .done h
  | spin => exact .spin
  | call hc _ ih =>
    exact .call (hcall _ _ hc) fun r r' h => ih r r' (hevent ⟨_, r⟩ ⟨_, r'⟩ h)

end Rules

/-! ### Two runs -/

/-- What is seen of a program at rest: its next call, or its outcome. -/
def View.ahead (W : View R ε V O) : Prog R ε α → Option (V ⊕ Except ε α)
  | .done r => some (.inr r)
  | .spin => none
  | .call c _ => some (.inl (W.call c))

theorem ahead_eq {W : View R ε V O} {p p' : Prog R ε α} (h : Resembles W (· = ·) p p') :
    W.ahead p = W.ahead p' := by
  cases h with
  | done h =>
    cases h with
    | ok h => rw [h]
    | error x => rfl
  | spin => rfl
  | call h _ => rw [View.ahead, View.ahead, h]

/-- The answers look alike where the calls do. -/
def AlikeAnswers (W : View R ε V O) : List (Event R ε) → List (Event R ε) → Prop :=
  List.Forall₂ fun e e' => W.call e.call = W.call e'.call → W.event e = W.event e'

/-- **Two runs of programs that look alike, with answers that look alike, look alike.** -/
theorem resembles_paths {W : View R ε V O} {Q : α → α' → Prop} {p q : Prog R ε α}
    {p' q' : Prog R ε α'} {tr tr' : List (Event R ε)} (hp : Resembles W Q p p') (h : Path p tr q)
    (h' : Path p' tr' q') (hans : AlikeAnswers W tr tr') :
    tr.map W.event = tr'.map W.event ∧ Resembles W Q q q' := by
  induction h generalizing p' tr' with
  | nil p =>
    cases hans
    cases h'
    exact ⟨rfl, hp⟩
  | @cons c k r tr q h ih =>
    cases hans with
    | @cons _ e' _ tr' hhead htail =>
      cases hp with
      | @call _ c' _ k' hc hk =>
        cases h' with
        | @cons _ _ r' _ _ h' =>
          have hevent : W.event ⟨c, r⟩ = W.event ⟨c', r'⟩ := hhead hc
          obtain ⟨hevents, hrest⟩ := ih (hk r r' hevent) h' htail
          exact ⟨List.cons_eq_cons.2 ⟨hevent, hevents⟩, hrest⟩

end ApplianceAdmin.Async
