import ApplianceAdmin.Async.Prog

/-!
# Monitors and weakest preconditions

A monitor watches a program from outside: it has a state `σ`, a relation `next` that says which
answers a call may get in a state and where they lead, and an obligation `pre` that the program
has to meet whenever it makes a call.  `M.wp p Q s` says that `p`, started in the state `s`, meets
every obligation and that each of its outcomes satisfies `Q`.

The rules follow the constructors and combinators of `Prog`; `wp_path` and `wp_outcome` bring a
weakest precondition back to paths, and `wp_of_calls` is the frame rule: a property kept by every
call of a program is kept by the program.  `M.Yields p s r s'` is the other way to look at complete
runs: it says which outcomes there are, in both directions.
-/

namespace ApplianceAdmin.Async

open Prog

/-- An observer of programs with calls `C`. -/
structure Monitor {C : Type} (R : C → Type) (ε σ : Type) where
  /-- What has to hold when the call is made. -/
  pre : σ → C → Prop
  /-- The answers that are possible, and the state after them. -/
  next : σ → (c : C) → Except ε (R c) → σ → Prop

variable {C : Type} {R : C → Type} {ε σ α β : Type}

namespace Monitor

/-- The monitor whose state is a fold over the events that `legal` admits. -/
def ofFold (pre : σ → C → Prop) (legal : σ → Event R ε → Prop) (step : σ → Event R ε → σ) :
    Monitor R ε σ where
  pre := pre
  next s c r s' := legal s ⟨c, r⟩ ∧ s' = step s ⟨c, r⟩

/-- Weakest precondition of `p` for the outcome `Q`. -/
def wp (M : Monitor R ε σ) : Prog R ε α → (Except ε α → σ → Prop) → σ → Prop
  | .done r, Q, s => Q r s
  | .spin, _, _ => True
  | .call c k, Q, s => M.pre s c ∧ ∀ r s', M.next s c r s' → M.wp (k r) Q s'

variable (M : Monitor R ε σ)

section Rules

variable {Q : Except ε α → σ → Prop} {s : σ}

@[simp] theorem wp_done (r : Except ε α) : M.wp (.done r) Q s ↔ Q r s := Iff.rfl

@[simp] theorem wp_pure (a : α) : M.wp (pure a) Q s ↔ Q (.ok a) s := Iff.rfl

@[simp] theorem wp_raise (e : ε) : M.wp (raise e) Q s ↔ Q (.error e) s := Iff.rfl

@[simp] theorem wp_lift (r : Except ε α) : M.wp (lift r) Q s ↔ Q r s := Iff.rfl

@[simp] theorem wp_spin : M.wp .spin Q s := trivial

theorem wp_call {c : C} {k : Except ε (R c) → Prog R ε α} :
    M.wp (.call c k) Q s ↔ M.pre s c ∧ ∀ r s', M.next s c r s' → M.wp (k r) Q s' := Iff.rfl

@[simp] theorem wp_perform {c : C} {Q : Except ε (R c) → σ → Prop} :
    M.wp (perform c) Q s ↔ M.pre s c ∧ ∀ r s', M.next s c r s' → Q r s' := Iff.rfl

theorem wp_ask {c : C} {Q : Except ε (R c) → σ → Prop} :
    M.wp (ask c) Q s ↔ M.pre s c ∧ ∀ a s', M.next s c (.ok a) s' → Q (.ok a) s' := by
  refine and_congr_right fun _ => ⟨fun h a s' hn => h (.ok a) s' hn, fun h r s' hn => ?_⟩
  cases r with
  | ok a => exact h a s' hn
  | error e => trivial

@[simp] theorem wp_ite {b : Prop} [Decidable b] {p q : Prog R ε α} :
    M.wp (if b then p else q) Q s ↔ if b then M.wp p Q s else M.wp q Q s := by
  split <;> rfl

variable {M} in
theorem wp_mono {Q' : Except ε α → σ → Prop} {p : Prog R ε α} (h : M.wp p Q s)
    (hQ : ∀ r s', Q r s' → Q' r s') : M.wp p Q' s := by
  induction p generalizing s with
  | done r => exact hQ r s h
  | spin => trivial
  | call c k ih => exact ⟨h.1, fun r s' hn => ih r (h.2 r s' hn)⟩

/-- Outcome of a sequence: exceptions are passed on, values go to the second program. -/
def andThen (f : α → Prog R ε β) (Q : Except ε β → σ → Prop) : Except ε α → σ → Prop
  | .ok a, s => M.wp (f a) Q s
  | .error e, s => Q (.error e) s

@[simp] theorem andThen_ok {f : α → Prog R ε β} {Q : Except ε β → σ → Prop} (a : α) :
    M.andThen f Q (.ok a) s ↔ M.wp (f a) Q s := Iff.rfl

@[simp] theorem andThen_error {f : α → Prog R ε β} {Q : Except ε β → σ → Prop} (e : ε) :
    M.andThen f Q (.error e) s ↔ Q (.error e) s := Iff.rfl

theorem wp_bind {p : Prog R ε α} {f : α → Prog R ε β} {Q : Except ε β → σ → Prop} :
    M.wp (p >>= f) Q s ↔ M.wp p (M.andThen f Q) s := by
  induction p generalizing s with
  | done r => cases r <;> exact Iff.rfl
  | spin => exact Iff.rfl
  | call c k ih =>
    exact and_congr_right fun _ => forall_congr' fun r => forall_congr' fun s' =>
      imp_congr_right fun _ => ih r

theorem wp_ask_bind {c : C} {f : R c → Prog R ε β} {Q : Except ε β → σ → Prop} (hpre : M.pre s c)
    (h : ∀ a s', M.next s c (.ok a) s' → M.wp (f a) Q s') : M.wp (ask c >>= f) Q s :=
  M.wp_bind.2 (M.wp_ask.2 ⟨hpre, h⟩)

theorem wp_perform_bind {c : C} {f : R c → Prog R ε β} {Q : Except ε β → σ → Prop}
    (hpre : M.pre s c) (hok : ∀ a s', M.next s c (.ok a) s' → M.wp (f a) Q s')
    (herror : ∀ e s', M.next s c (.error e) s' → Q (.error e) s') : M.wp (perform c >>= f) Q s := by
  refine ⟨hpre, fun r s' hn => ?_⟩
  cases r with
  | ok a => exact hok a s' hn
  | error e => exact herror e s' hn

/-- Outcome of the body of a loop: the loop goes on in states that satisfy `P`. -/
def andLoop (P : σ → Prop) (Q : Except ε Unit → σ → Prop) : Except ε Unit → σ → Prop
  | .ok _, s => P s
  | .error e, s => Q (.error e) s

@[simp] theorem andLoop_ok {P : σ → Prop} {Q : Except ε Unit → σ → Prop} (u : Unit) :
    andLoop P Q (.ok u) s ↔ P s := Iff.rfl

@[simp] theorem andLoop_error {P : σ → Prop} {Q : Except ε Unit → σ → Prop} (e : ε) :
    andLoop P Q (.error e) s ↔ Q (.error e) s := Iff.rfl

/-- The invariant of a loop speaks of the elements that are still to come. -/
theorem wp_forEach {f : β → Prog R ε Unit} {Q : Except ε Unit → σ → Prop}
    (I : List β → σ → Prop) {l : List β} (hs : I l s)
    (hbody : ∀ b rest s, I (b :: rest) s → M.wp (f b) (andLoop (I rest) Q) s)
    (hend : ∀ s, I [] s → Q (.ok ()) s) : M.wp (forEach f l) Q s := by
  induction l generalizing s with
  | nil => exact hend s hs
  | cons b rest ih =>
    refine M.wp_bind.2 (M.wp_mono (hbody b rest s hs) fun r s' h => ?_)
    cases r with
    | ok u => exact ih h
    | error e => exact h

/-- Outcome of `try … except`: values are passed on, exceptions go to the handler. -/
def orElse (h : ε → Prog R ε α) (Q : Except ε α → σ → Prop) : Except ε α → σ → Prop
  | .ok a, s => Q (.ok a) s
  | .error e, s => M.wp (h e) Q s

@[simp] theorem orElse_ok {h : ε → Prog R ε α} (a : α) :
    M.orElse h Q (.ok a) s ↔ Q (.ok a) s := Iff.rfl

@[simp] theorem orElse_error {h : ε → Prog R ε α} (e : ε) :
    M.orElse h Q (.error e) s ↔ M.wp (h e) Q s := Iff.rfl

theorem wp_tryCatch {p : Prog R ε α} {h : ε → Prog R ε α} :
    M.wp (p.tryCatch h) Q s ↔ M.wp p (M.orElse h Q) s := by
  induction p generalizing s with
  | done r => cases r <;> exact Iff.rfl
  | spin => exact Iff.rfl
  | call c k ih =>
    exact and_congr_right fun _ => forall_congr' fun r => forall_congr' fun s' =>
      imp_congr_right fun _ => ih r

/-- Outcome of `try … finally`: the cleanup runs on every outcome. -/
def andFinally (q : Prog R ε Unit) (Q : Except ε α → σ → Prop) (r : Except ε α) : σ → Prop :=
  M.wp q (M.andThen (fun _ => .done r) Q)

theorem wp_ensure {p : Prog R ε α} {q : Prog R ε Unit} :
    M.wp (p.ensure q) Q s ↔ M.wp p (M.andFinally q Q) s := by
  induction p generalizing s with
  | done r => exact M.wp_bind
  | spin => exact Iff.rfl
  | call c k ih =>
    exact and_congr_right fun _ => forall_congr' fun r => forall_congr' fun s' =>
      imp_congr_right fun _ => ih r

end Rules

variable {M}

/-- **Frame rule.**  A property that every call of `p` keeps, and under which every call of `p` is
allowed, is kept by `p`. -/
theorem wp_of_calls {S : C → Prop} {P : σ → Prop} (hpre : ∀ s c, S c → P s → M.pre s c)
    (hnext : ∀ s c r s', S c → P s → M.next s c r s' → P s') {p : Prog R ε α} (hp : Calls S p)
    {s : σ} (hs : P s) : M.wp p (fun _ => P) s := by
  induction p generalizing s with
  | done r => exact hs
  | spin => trivial
  | call c k ih => exact ⟨hpre s c hp.1 hs, fun r s' hn => ih r (hp.2 r) (hnext s c r s' hp.1 hs hn)⟩

/-- The frame rule for a program whose exceptions are known too. -/
theorem wp_of_within {S : C → Prop} {E : ε → Prop} {P : σ → Prop}
    (hpre : ∀ s c, S c → P s → M.pre s c)
    (hnext : ∀ s c r s', S c → P s → M.next s c r s' → P s' ∧ ∀ e, r = .error e → E e)
    {p : Prog R ε α} (hp : Within S E p) {s : σ} (hs : P s) :
    M.wp p (fun r s' => P s' ∧ ∀ e, r = .error e → E e) s := by
  induction p generalizing s with
  | done r => exact ⟨hs, hp⟩
  | spin => trivial
  | call c k ih =>
    refine ⟨hpre s c hp.1 hs, fun r s' hn => ?_⟩
    obtain ⟨hs', hr⟩ := hnext s c r s' hp.1 hs hn
    exact ih r (hp.2 r hr) hs'

/-- **Simulation.**  When every step of `N` can be followed by `M` and the obligations of `M` give
those of `N`, a weakest precondition of `M` is one of `N`. -/
theorem wp_sim {τ : Type} {N : Monitor R ε τ} (ρ : τ → σ → Prop)
    (hpre : ∀ t s c, ρ t s → M.pre s c → N.pre t c)
    (hnext : ∀ t s c r t', ρ t s → M.pre s c → N.next t c r t' → ∃ s', M.next s c r s' ∧ ρ t' s')
    {p : Prog R ε α} {Q : Except ε α → σ → Prop} {t : τ} {s : σ} (hρ : ρ t s) (h : M.wp p Q s) :
    N.wp p (fun r t' => ∃ s', ρ t' s' ∧ Q r s') t := by
  induction p generalizing t s with
  | done r => exact ⟨s, hρ, h⟩
  | spin => trivial
  | call c k ih =>
    refine ⟨hpre t s c hρ h.1, fun r t' hn => ?_⟩
    obtain ⟨s', hs', hρ'⟩ := hnext t s c r t' hρ h.1 hn
    exact ih r hρ' (h.2 r s' hs')

/-- A weakest precondition of `M` is one of `N` when `N` has no other answers than `M` and allows
every call of the program. -/
theorem wp_restrict {N : Monitor R ε σ} {S : C → Prop} (hpre : ∀ s c, S c → N.pre s c)
    (hnext : ∀ s c r s', N.next s c r s' → M.next s c r s') {p : Prog R ε α} (hp : Calls S p)
    {Q : Except ε α → σ → Prop} {s : σ} (h : M.wp p Q s) : N.wp p Q s := by
  induction p generalizing s with
  | done r => exact h
  | spin => trivial
  | call c k ih => exact ⟨hpre s c hp.1, fun r s' hn => ih r (hp.2 r) (h.2 r s' (hnext s c r s' hn))⟩

/-! ### Back to paths -/

/-- The monitor goes from `s` to `s'` over the events `tr`. -/
def Trail (M : Monitor R ε σ) : σ → List (Event R ε) → σ → Prop
  | s, [], s' => s' = s
  | s, e :: tr, s' => ∃ s₁, M.next s e.call e.reply s₁ ∧ M.Trail s₁ tr s'

/-- A fold that admits every event has one trail over each list of events. -/
theorem trail_ofFold {pre : σ → C → Prop} {step : σ → Event R ε → σ} (s : σ)
    (tr : List (Event R ε)) :
    (ofFold pre (fun _ _ => True) step).Trail s tr (tr.foldl step s) := by
  induction tr generalizing s with
  | nil => rfl
  | cons e tr ih => exact ⟨step s e, ⟨trivial, rfl⟩, ih _⟩

/-- The obligations `pre` along the events of a list, for a state that folds over them. -/
def Meets (pre : σ → C → Prop) (step : σ → Event R ε → σ) : σ → List (Event R ε) → Prop
  | _, [] => True
  | s, e :: tr => pre s e.call ∧ Meets pre step (step s e) tr

theorem meets_of_path {pre : σ → C → Prop} {step : σ → Event R ε → σ} {p q : Prog R ε α}
    {tr : List (Event R ε)} (hp : Path p tr q) {Q : Except ε α → σ → Prop} {s : σ}
    (h : (ofFold pre (fun _ _ => True) step).wp p Q s) : Meets pre step s tr := by
  induction hp generalizing s with
  | nil p => trivial
  | cons _ ih => exact ⟨h.1, ih (h.2 _ _ ⟨trivial, rfl⟩)⟩

/-- An oracle that keeps to the monitor computes a trail of it. -/
theorem trail_exec {o : σ → (c : C) → Except ε (R c) × σ}
    (h : ∀ s c, M.next s c (o s c).1 (o s c).2) (p : Prog R ε α) (s : σ) :
    ∃ s', M.Trail s (exec o p s).1 s' := by
  induction p generalizing s with
  | done r => exact ⟨s, rfl⟩
  | spin => exact ⟨s, rfl⟩
  | call c k ih =>
    obtain ⟨s', hs'⟩ := ih (o s c).1 (o s c).2
    exact ⟨s', (o s c).2, h s c, hs'⟩

/-- The same over the first calls, for an oracle with a state of its own that keeps `ok`. -/
theorem trail_advance {τ : Type} {o : τ → (c : C) → Except ε (R c) × τ} (view : τ → σ)
    {ok : τ → Prop}
    (h : ∀ t c, ok t → M.next (view t) c (o t c).1 (view (o t c).2) ∧ ok (o t c).2) (n : ℕ)
    (p : Prog R ε α) {t : τ} (ht : ok t) :
    M.Trail (view t) (advance o n p t).1 (view (advance o n p t).2.2) ∧
      ok (advance o n p t).2.2 := by
  induction n generalizing p t with
  | zero => cases p <;> exact ⟨rfl, ht⟩
  | succ n ih =>
    cases p with
    | done r => exact ⟨rfl, ht⟩
    | spin => exact ⟨rfl, ht⟩
    | call c k =>
      obtain ⟨hn, ht'⟩ := h t c ht
      exact ⟨⟨_, hn, (ih _ ht').1⟩, (ih _ ht').2⟩

theorem wp_path {p q : Prog R ε α} {tr : List (Event R ε)} (hp : Path p tr q)
    {Q : Except ε α → σ → Prop} {s s' : σ} (hs : M.Trail s tr s') (h : M.wp p Q s) :
    M.wp q Q s' := by
  induction hp generalizing s with
  | nil p => cases hs; exact h
  | cons _ ih =>
    obtain ⟨s₁, hn, ht⟩ := hs
    exact ih ht (h.2 _ _ hn)

/-- The outcome of a complete path. -/
theorem wp_outcome {p : Prog R ε α} {tr : List (Event R ε)} {r : Except ε α}
    (hp : Path p tr (.done r)) {Q : Except ε α → σ → Prop} {s s' : σ} (hs : M.Trail s tr s')
    (h : M.wp p Q s) : Q r s' :=
  wp_path hp hs h

/-- The obligation at a call that a path has reached. -/
theorem wp_pre {p : Prog R ε α} {tr : List (Event R ε)} {c : C} {k : Except ε (R c) → Prog R ε α}
    (hp : Path p tr (.call c k)) {Q : Except ε α → σ → Prop} {s s' : σ} (hs : M.Trail s tr s')
    (h : M.wp p Q s) : M.pre s' c :=
  (wp_path hp hs h).1

/-- What every allowed step keeps is kept on the paths of a program that meets its obligations. -/
theorem wp_invariant {p q : Prog R ε α} {tr : List (Event R ε)} (hp : Path p tr q)
    {Q : Except ε α → σ → Prop} {s s' : σ} (hs : M.Trail s tr s') (h : M.wp p Q s) {P : σ → Prop}
    (hstep : ∀ s c r s', P s → M.pre s c → M.next s c r s' → P s') (h₀ : P s) : P s' := by
  induction hp generalizing s with
  | nil p => cases hs; exact h₀
  | cons _ ih =>
    obtain ⟨s₁, hn, ht⟩ := hs
    exact ih ht (h.2 _ _ hn) (hstep _ _ _ _ h₀ h.1 hn)

/-! ### Complete runs -/

/-- From `s` the program may end with the outcome `r` in the state `s'`. -/
def Yields (M : Monitor R ε σ) : Prog R ε α → σ → Except ε α → σ → Prop
  | .done r, s, r', s' => r' = r ∧ s' = s
  | .spin, _, _, _ => False
  | .call c k, s, r', s' => ∃ r s₁, M.next s c r s₁ ∧ M.Yields (k r) s₁ r' s'

section Yields

variable {s s' : σ} {c : C}

/-- Such an outcome is the end of a path that the monitor admits. -/
theorem yields_iff_path {p : Prog R ε α} {r : Except ε α} :
    M.Yields p s r s' ↔ ∃ tr, Path p tr (.done r) ∧ M.Trail s tr s' := by
  induction p generalizing s with
  | done r' =>
    constructor
    · rintro ⟨rfl, rfl⟩
      exact ⟨[], .nil _, rfl⟩
    · rintro ⟨tr, hp, hs⟩
      obtain ⟨rfl, hr⟩ := hp.of_done
      cases hr
      exact ⟨rfl, hs⟩
  | spin =>
    constructor
    · exact False.elim
    · rintro ⟨tr, hp, -⟩
      cases hp
  | call c k ih =>
    constructor
    · rintro ⟨r₁, s₁, hn, h⟩
      obtain ⟨tr, hp, hs⟩ := (ih r₁).1 h
      exact ⟨_ :: tr, .cons hp, s₁, hn, hs⟩
    · rintro ⟨tr, hp, hs⟩
      cases hp with
      | cons hp =>
        obtain ⟨s₁, hn, hs⟩ := hs
        exact ⟨_, s₁, hn, (ih _).2 ⟨_, hp, hs⟩⟩

@[simp] theorem yields_pure {a : α} {r : Except ε α} :
    M.Yields (pure a) s r s' ↔ r = .ok a ∧ s' = s := Iff.rfl

@[simp] theorem yields_perform {r : Except ε (R c)} :
    M.Yields (perform c) s r s' ↔ M.next s c r s' := by
  constructor
  · rintro ⟨r', s₁, hn, rfl, rfl⟩
    exact hn
  · exact fun hn => ⟨r, s', hn, rfl, rfl⟩

@[simp] theorem yields_ask {a : R c} : M.Yields (ask c) s (.ok a) s' ↔ M.next s c (.ok a) s' := by
  constructor
  · rintro ⟨r, s₁, hn, h⟩
    cases r with
    | ok a' =>
      obtain ⟨ha, rfl⟩ := h
      cases ha
      exact hn
    | error x => exact h.elim
  · exact fun hn => ⟨.ok a, s', hn, rfl, rfl⟩

@[simp] theorem yields_ite {b : Prop} [Decidable b] {p q : Prog R ε α} {r : Except ε α} :
    M.Yields (if b then p else q) s r s' ↔ if b then M.Yields p s r s' else M.Yields q s r s' := by
  split <;> rfl

theorem yields_bind {p : Prog R ε α} {f : α → Prog R ε β} {b : β} :
    M.Yields (p >>= f) s (.ok b) s' ↔
      ∃ a s₁, M.Yields p s (.ok a) s₁ ∧ M.Yields (f a) s₁ (.ok b) s' := by
  induction p generalizing s with
  | done r =>
    cases r with
    | ok a =>
      constructor
      · exact fun h => ⟨a, s, ⟨rfl, rfl⟩, h⟩
      · rintro ⟨a', s₁, ⟨ha, rfl⟩, h⟩
        cases ha
        exact h
    | error x =>
      constructor
      · rintro ⟨hr, -⟩
        cases hr
      · rintro ⟨a, s₁, ⟨hr, -⟩, -⟩
        cases hr
  | spin => exact ⟨False.elim, fun ⟨_, _, h, _⟩ => h⟩
  | call c k ih =>
    constructor
    · rintro ⟨r, s₁, hn, h⟩
      obtain ⟨a, s₂, hp, hf⟩ := (ih r).1 h
      exact ⟨a, s₂, ⟨r, s₁, hn, hp⟩, hf⟩
    · rintro ⟨a, s₂, ⟨r, s₁, hn, hp⟩, hf⟩
      exact ⟨r, s₁, hn, (ih r).2 ⟨a, s₂, hp, hf⟩⟩

theorem yields_tryCatch {p : Prog R ε α} {h : ε → Prog R ε α} {a : α} :
    M.Yields (p.tryCatch h) s (.ok a) s' ↔ M.Yields p s (.ok a) s' ∨
      ∃ x s₁, M.Yields p s (.error x) s₁ ∧ M.Yields (h x) s₁ (.ok a) s' := by
  induction p generalizing s with
  | done r =>
    cases r with
    | ok a' =>
      constructor
      · exact .inl
      · rintro (h | ⟨x, s₁, ⟨hr, -⟩, -⟩)
        · exact h
        · cases hr
    | error y =>
      constructor
      · exact fun hh => .inr ⟨y, s, ⟨rfl, rfl⟩, hh⟩
      · rintro (⟨hr, -⟩ | ⟨x, s₁, ⟨hr, rfl⟩, hh⟩)
        · cases hr
        · cases hr
          exact hh
  | spin =>
    constructor
    · exact .inl
    · rintro (h | ⟨_, _, h, -⟩)
      · exact h
      · exact h.elim
  | call c k ih =>
    constructor
    · rintro ⟨r, s₁, hn, hk⟩
      rcases (ih r).1 hk with hp | ⟨x, s₂, hp, hh⟩
      · exact .inl ⟨r, s₁, hn, hp⟩
      · exact .inr ⟨x, s₂, ⟨r, s₁, hn, hp⟩, hh⟩
    · rintro (⟨r, s₁, hn, hp⟩ | ⟨x, s₂, ⟨r, s₁, hn, hp⟩, hh⟩)
      · exact ⟨r, s₁, hn, (ih r).2 (.inl hp)⟩
      · exact ⟨r, s₁, hn, (ih r).2 (.inr ⟨x, s₂, hp, hh⟩)⟩

/-- One step for each element of a list, one after the other -/
def Chain (T : β → σ → σ → Prop) : List β → σ → σ → Prop
  | [], s, s' => s' = s
  | b :: l, s, s' => ∃ s₁, T b s s₁ ∧ Chain T l s₁ s'

theorem chain_append {T : β → σ → σ → Prop} {l₁ l₂ : List β} :
    Chain T (l₁ ++ l₂) s s' ↔ ∃ s₁, Chain T l₁ s s₁ ∧ Chain T l₂ s₁ s' := by
  induction l₁ generalizing s with
  | nil => exact ⟨fun h => ⟨s, rfl, h⟩, fun ⟨_, hs, h⟩ => hs ▸ h⟩
  | cons b l₁ ih =>
    constructor
    · rintro ⟨s₂, hb, h⟩
      obtain ⟨s₁, h₁, h₂⟩ := ih.1 h
      exact ⟨s₁, ⟨s₂, hb, h₁⟩, h₂⟩
    · rintro ⟨s₁, ⟨s₂, hb, h₁⟩, h₂⟩
      exact ⟨s₂, hb, ih.2 ⟨s₁, h₁, h₂⟩⟩

/-- What every step keeps is kept. -/
theorem chain_invariant {T : β → σ → σ → Prop} {P : σ → Prop} {l : List β}
    (hstep : ∀ b ∈ l, ∀ s s', P s → T b s s' → P s') (h : Chain T l s s') (hs : P s) : P s' := by
  induction l generalizing s with
  | nil =>
    obtain rfl := h
    exact hs
  | cons b l ih =>
    obtain ⟨hb, hl⟩ := List.forall_mem_cons.1 hstep
    obtain ⟨s₁, hfirst, hrest⟩ := h
    exact ih hl hrest (hb s s₁ hs hfirst)

theorem exists_chain {T : β → σ → σ → Prop} (hT : ∀ b s, ∃ s', T b s s') (l : List β) (s : σ) :
    ∃ s', Chain T l s s' := by
  induction l generalizing s with
  | nil => exact ⟨s, rfl⟩
  | cons b l ih =>
    obtain ⟨s₁, hfirst⟩ := hT b s
    obtain ⟨s', hrest⟩ := ih s₁
    exact ⟨s', s₁, hfirst, hrest⟩

/-- A loop completes when its rounds do. -/
theorem yields_forEach {f : β → Prog R ε Unit} {T : β → σ → σ → Prop}
    (hf : ∀ b s s', M.Yields (f b) s (.ok ()) s' ↔ T b s s') {l : List β} :
    M.Yields (forEach f l) s (.ok ()) s' ↔ Chain T l s s' := by
  induction l generalizing s with
  | nil => exact ⟨And.right, fun h => ⟨rfl, h⟩⟩
  | cons b l ih =>
    refine (yields_bind (f := fun _ => forEach f l)).trans ?_
    constructor
    · rintro ⟨⟨⟩, s₁, hb, hl⟩
      exact ⟨s₁, (hf b s s₁).1 hb, ih.1 hl⟩
    · rintro ⟨s₁, hb, hl⟩
      exact ⟨(), s₁, (hf b s s₁).2 hb, ih.2 hl⟩

end Yields

/-! ### Programs that halt -/

/-- On the paths that the monitor admits, `p` does not run out of fuel. -/
def Halts (M : Monitor R ε σ) : Prog R ε α → σ → Prop
  | .done _, _ => True
  | .spin, _ => False
  | .call c k, s => ∀ r s', M.next s c r s' → M.Halts (k r) s'

/-- `p` halts, whatever has happened before. -/
abbrev Settles (M : Monitor R ε σ) (p : Prog R ε α) : Prop := ∀ s, M.Halts p s

section Halts

theorem settles_done (r : Except ε α) : M.Settles (.done r : Prog R ε α) := fun _ => trivial

theorem settles_perform (c : C) : M.Settles (perform c : Prog R ε (R c)) :=
  fun _ _ _ _ => trivial

/-- A call to which the monitor admits no exception -/
theorem settles_ask {c : C} (h : ∀ s x s', ¬M.next s c (.error x) s') :
    M.Settles (ask c : Prog R ε (R c)) := by
  intro s r s' hn
  cases r with
  | ok a => trivial
  | error x => exact absurd hn (h s x s')

theorem halts_then {p : Prog R ε α} {f : α → Prog R ε β} {s : σ} (hp : M.Halts p s)
    (hf : ∀ a, M.Settles (f a)) : M.Halts (p >>= f) s := by
  induction p generalizing s with
  | done r =>
    cases r with
    | ok a => exact hf a s
    | error e => trivial
  | spin => exact hp
  | call c k ih => exact fun r s' hn => ih r (hp r s' hn)

theorem settles_bind {p : Prog R ε α} {f : α → Prog R ε β} (hp : M.Settles p)
    (hf : ∀ a, M.Settles (f a)) : M.Settles (p >>= f) :=
  fun s => halts_then (hp s) hf

theorem halts_tryCatch {p : Prog R ε α} {h : ε → Prog R ε α} {s : σ} (hp : M.Halts p s)
    (hh : ∀ e, M.Settles (h e)) : M.Halts (p.tryCatch h) s := by
  induction p generalizing s with
  | done r =>
    cases r with
    | ok a => trivial
    | error e => exact hh e s
  | spin => exact hp
  | call c k ih => exact fun r s' hn => ih r (hp r s' hn)

theorem settles_tryCatch {p : Prog R ε α} {h : ε → Prog R ε α} (hp : M.Settles p)
    (hh : ∀ e, M.Settles (h e)) : M.Settles (p.tryCatch h) :=
  fun s => halts_tryCatch (hp s) hh

theorem settles_ite {b : Prop} [Decidable b] {p q : Prog R ε α} (hp : M.Settles p)
    (hq : M.Settles q) : M.Settles (if b then p else q) :=
  iteInduction (fun _ => hp) fun _ => hq

/-- The second program starts in the states in which the first one may end. -/
theorem halts_bind {p : Prog R ε α} {f : α → Prog R ε β} {s : σ} (hp : M.Halts p s)
    (hf : M.wp p (fun r s' => ∀ a, r = .ok a → M.Halts (f a) s') s) : M.Halts (p >>= f) s := by
  induction p generalizing s with
  | done r =>
    cases r with
    | ok a => exact hf a rfl
    | error e => trivial
  | spin => exact hp
  | call c k ih => exact fun r s' hn => ih r (hp r s' hn) (hf.2 r s' hn)

/-- A call to which the monitor admits no exception, and what follows it -/
theorem halts_ask_bind {c : C} {f : R c → Prog R ε β} {s : σ}
    (h : ∀ s x s', ¬M.next s c (.error x) s')
    (hf : ∀ a s', M.next s c (.ok a) s' → M.Halts (f a) s') : M.Halts (ask c >>= f) s := by
  intro r s' hn
  cases r with
  | ok a => exact hf a s' hn
  | error x => exact absurd hn (h s x s')

theorem halts_ensure {p : Prog R ε α} {q : Prog R ε Unit} {s : σ} (hp : M.Halts p s)
    (hq : M.Settles q) : M.Halts (p.ensure q) s := by
  induction p generalizing s with
  | done r => exact halts_then (hq s) fun _ => settles_done r
  | spin => exact hp
  | call c k ih => exact fun r s' hn => ih r (hp r s' hn)

/-- A program that halts does not run out of fuel on a path that the monitor admits. -/
theorem Halts.not_spin {p : Prog R ε α} {tr : List (Event R ε)} {s s' : σ} (h : M.Halts p s)
    (hs : M.Trail s tr s') : ¬Path p tr .spin := by
  intro hp
  generalize hq : (.spin : Prog R ε α) = q at hp
  induction hp generalizing s with
  | nil p => subst hq; exact h
  | cons _ ih =>
    obtain ⟨s₁, hn, ht⟩ := hs
    exact ih (h _ _ hn) ht hq

end Halts

end Monitor

end ApplianceAdmin.Async
