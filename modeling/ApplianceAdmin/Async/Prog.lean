import Mathlib.Tactic

/-!
# Programs that make calls

A coroutine is a tree of calls.  Each call goes to the surroundings of the program (a lock, a
clock, a bus, a child process) and is answered by a value or by a raised exception; the program
goes on from the answer.  `Prog R ε α` is the type of such trees: `R c` is what call `c` returns,
`ε` the exceptions, `α` the result.

* `bind`, `tryCatch`, `ensure`: sequencing, `try … except`, `try … finally`;
* `forEach`: a loop over a list; `spin`: a loop whose fuel is used up, after which nothing is
  claimed;
* `Path p tr q`: from `p` the answered calls `tr` lead to `q`, every answer being possible;
  `Path.of_bind` and its like take the path of a sequence apart;
* `exec`: the one path on which an oracle answers; `conclude`: its end; `advance`: its first calls;
* `Ends p`: `p` has an outcome on every path that is long enough;
* `Calls S p`: every call that `p` can ever make satisfies `S`;
* `Within S E p`: the same, and as long as the answers raise only exceptions in `E`, so does `p`.
-/

namespace ApplianceAdmin.Async

/-- A program: finished, out of fuel, or at a call with one continuation for each answer. -/
inductive Prog {C : Type} (R : C → Type) (ε α : Type) : Type
  | done (r : Except ε α)
  | spin
  | call (c : C) (k : Except ε (R c) → Prog R ε α)

/-- A call together with its answer. -/
structure Event {C : Type} (R : C → Type) (ε : Type) where
  call : C
  reply : Except ε (R call)

variable {C : Type} {R : C → Type} {ε α β : Type}

namespace Prog

/-- Run `p`, then `f` on its value; an exception of `p` is passed on. -/
def bind : Prog R ε α → (α → Prog R ε β) → Prog R ε β
  | .done (.ok a), f => f a
  | .done (.error e), _ => .done (.error e)
  | .spin, _ => .spin
  | .call c k, f => .call c fun r => (k r).bind f

/-- `try p except h`: `h` decides for each exception, and raises again what it does not catch. -/
def tryCatch : Prog R ε α → (ε → Prog R ε α) → Prog R ε α
  | .done (.ok a), _ => .done (.ok a)
  | .done (.error e), h => h e
  | .spin, _ => .spin
  | .call c k, h => .call c fun r => (k r).tryCatch h

/-- `try p finally q`: an exception of `q` replaces the outcome of `p`. -/
def ensure : Prog R ε α → Prog R ε Unit → Prog R ε α
  | .done r, q => q.bind fun _ => .done r
  | .spin, _ => .spin
  | .call c k, q => .call c fun r => (k r).ensure q

/-- Raise an exception. -/
def raise (e : ε) : Prog R ε α := .done (.error e)

/-- Make one call. -/
def perform (c : C) : Prog R ε (R c) := .call c .done

/-- Make a call that cannot raise: an exception in answer to it is not part of any run. -/
def ask (c : C) : Prog R ε (R c) :=
  .call c fun
    | .ok a => .done (.ok a)
    | .error _ => .spin

/-- A computation without calls. -/
def lift : Except ε α → Prog R ε α := .done

/-- The outcome of a program that has finished. -/
def outcome : Prog R ε α → Option (Except ε α)
  | .done r => some r
  | _ => none

theorem outcome_eq_some {p : Prog R ε α} {r : Except ε α} :
    p.outcome = some r ↔ p = .done r := by
  cases p <;> simp [outcome]

instance : Monad (Prog R ε) where
  pure a := .done (.ok a)
  bind := bind

/-- `for b in l: f b`, over a list that the body does not change. -/
def forEach (f : β → Prog R ε Unit) : List β → Prog R ε Unit
  | [] => .done (.ok ())
  | b :: l => (f b).bind fun _ => forEach f l

end Prog

open Prog

/-! ### Paths -/

/-- From `p` the answered calls `tr` lead to `q`. -/
inductive Path : Prog R ε α → List (Event R ε) → Prog R ε α → Prop
  | nil (p : Prog R ε α) : Path p [] p
  | cons {c : C} {k : Except ε (R c) → Prog R ε α} {r : Except ε (R c)}
      {tr : List (Event R ε)} {q : Prog R ε α} :
      Path (k r) tr q → Path (.call c k) (⟨c, r⟩ :: tr) q

/-- One more answered call at the end of a path. -/
theorem Path.snoc {p : Prog R ε α} {tr : List (Event R ε)} {c : C}
    {k : Except ε (R c) → Prog R ε α} (h : Path p tr (.call c k)) (r : Except ε (R c)) :
    Path p (tr ++ [⟨c, r⟩]) (k r) := by
  generalize hq : Prog.call c k = q at h
  induction h with
  | nil p => subst hq; exact .cons (.nil _)
  | cons _ ih => exact .cons (ih hq)

/-- Where a path stood before one of its calls was answered. -/
theorem Path.at_event {p q : Prog R ε α} {before after : List (Event R ε)} {e : Event R ε}
    (h : Path p (before ++ e :: after) q) : ∃ k, Path p before (.call e.call k) := by
  induction before generalizing p with
  | nil =>
    cases h with
    | cons _ => exact ⟨_, .nil _⟩
  | cons e' before ih =>
    cases h with
    | cons h =>
      obtain ⟨k, hk⟩ := ih h
      exact ⟨k, .cons hk⟩

/-- A program that has finished stays where it is. -/
theorem Path.of_done {r : Except ε α} {tr : List (Event R ε)} {q : Prog R ε α}
    (h : Path (.done r) tr q) : tr = [] ∧ q = .done r := by
  cases h
  exact ⟨rfl, rfl⟩

/-! ### Paths of sequences -/

theorem Path.of_perform {c : C} {r : Except ε (R c)} {tr : List (Event R ε)}
    (h : Path (perform c) tr (.done r)) : tr = [⟨c, r⟩] := by
  cases h with
  | cons h =>
    obtain ⟨rfl, hr⟩ := h.of_done
    cases hr
    rfl

theorem Path.of_ask {c : C} {a : R c} {tr : List (Event R ε)}
    (h : Path (ask c) tr (.done (.ok a))) : tr = [⟨c, .ok a⟩] := by
  cases h with
  | @cons _ _ r _ _ h =>
    cases r with
    | ok b =>
      obtain ⟨rfl, hr⟩ := Path.of_done (r := .ok b) h
      cases hr
      rfl
    | error x => cases h

/-- A sequence that returns: its first part has returned before. -/
theorem Path.of_bind {p : Prog R ε α} {f : α → Prog R ε β} {tr : List (Event R ε)} {b : β}
    (h : Path (p >>= f) tr (.done (.ok b))) : ∃ a first rest, tr = first ++ rest ∧
      Path p first (.done (.ok a)) ∧ Path (f a) rest (.done (.ok b)) := by
  induction p generalizing tr with
  | done r =>
    cases r with
    | ok a => exact ⟨a, [], tr, rfl, .nil _, h⟩
    | error x =>
      obtain ⟨-, hr⟩ := Path.of_done (r := .error x) h
      cases hr
  | spin => cases h
  | call c k ih =>
    cases h with
    | cons h =>
      obtain ⟨a, first, rest, rfl, hp, hf⟩ := ih _ h
      exact ⟨a, _ :: first, rest, rfl, .cons hp, hf⟩

theorem Path.of_perform_bind {c : C} {f : R c → Prog R ε β} {tr : List (Event R ε)} {b : β}
    (h : Path (perform c >>= f) tr (.done (.ok b))) :
    ∃ a rest, tr = ⟨c, .ok a⟩ :: rest ∧ Path (f a) rest (.done (.ok b)) := by
  obtain ⟨a, first, rest, rfl, hp, hf⟩ := h.of_bind
  obtain rfl := hp.of_perform
  exact ⟨a, rest, rfl, hf⟩

theorem Path.of_ask_bind {c : C} {f : R c → Prog R ε β} {tr : List (Event R ε)} {b : β}
    (h : Path (ask c >>= f) tr (.done (.ok b))) :
    ∃ a rest, tr = ⟨c, .ok a⟩ :: rest ∧ Path (f a) rest (.done (.ok b)) := by
  obtain ⟨a, first, rest, rfl, hp, hf⟩ := h.of_bind
  obtain rfl := hp.of_ask
  exact ⟨a, rest, rfl, hf⟩

/-- A guarded program that returns did so by itself, unless the handler returned. -/
theorem Path.of_tryCatch {p : Prog R ε α} {h : ε → Prog R ε α} {tr : List (Event R ε)} {a : α}
    (hraise : ∀ x tr, ¬Path (h x) tr (.done (.ok a)))
    (hp : Path (p.tryCatch h) tr (.done (.ok a))) : Path p tr (.done (.ok a)) := by
  induction p generalizing tr with
  | done r =>
    cases r with
    | ok a' => exact hp
    | error x => exact absurd hp (hraise x tr)
  | spin => cases hp
  | call c k ih =>
    cases hp with
    | cons hp => exact .cons (ih _ hp)

/-- A program with a cleanup that returns: the cleanup has returned after it. -/
theorem Path.of_ensure {p : Prog R ε α} {q : Prog R ε Unit} {tr : List (Event R ε)} {a : α}
    (h : Path (p.ensure q) tr (.done (.ok a))) : ∃ first rest, tr = first ++ rest ∧
      Path p first (.done (.ok a)) ∧ Path q rest (.done (.ok ())) := by
  induction p generalizing tr with
  | done r =>
    obtain ⟨⟨⟩, first, rest, rfl, hq, hr⟩ := Path.of_bind (f := fun _ => .done r) h
    obtain ⟨rfl, hr⟩ := hr.of_done
    cases hr
    exact ⟨[], first, by simp, .nil _, hq⟩
  | spin => cases h
  | call c k ih =>
    cases h with
    | cons h =>
      obtain ⟨first, rest, rfl, hp, hq⟩ := ih _ h
      exact ⟨_ :: first, rest, rfl, .cons hp, hq⟩

theorem Path.trans {p q q' : Prog R ε α} {tr tr' : List (Event R ε)} (h : Path p tr q)
    (h' : Path q tr' q') : Path p (tr ++ tr') q' := by
  induction h with
  | nil p => exact h'
  | cons _ ih => exact .cons (ih h')

/-- A path of the first part is one of the sequence. -/
theorem Path.bind {p q : Prog R ε α} {tr : List (Event R ε)} (h : Path p tr q)
    (f : α → Prog R ε β) : Path (p >>= f) tr (q >>= f) := by
  induction h with
  | nil p => exact .nil _
  | cons _ ih => exact .cons ih

/-- The first part returns, and the sequence goes on. -/
theorem Path.seq {p : Prog R ε α} {f : α → Prog R ε β} {tr tr' : List (Event R ε)} {a : α}
    {q : Prog R ε β} (h : Path p tr (.done (.ok a))) (h' : Path (f a) tr' q) :
    Path (p >>= f) (tr ++ tr') q := (h.bind f).trans h'

theorem Path.ensure {p q : Prog R ε α} {tr : List (Event R ε)} (h : Path p tr q)
    (u : Prog R ε Unit) : Path (p.ensure u) tr (q.ensure u) := by
  induction h with
  | nil p => exact .nil _
  | cons _ ih => exact .cons ih

/-- A sequence that raises does so in its first part or after it. -/
theorem Path.of_bind_raise {p : Prog R ε α} {f : α → Prog R ε β} {tr : List (Event R ε)} {x : ε}
    (h : Path (p >>= f) tr (.done (.error x))) : Path p tr (.done (.error x)) ∨
      ∃ a first rest, tr = first ++ rest ∧ Path p first (.done (.ok a)) ∧
        Path (f a) rest (.done (.error x)) := by
  induction p generalizing tr with
  | done r =>
    cases r with
    | ok a => exact .inr ⟨a, [], tr, rfl, .nil _, h⟩
    | error y =>
      obtain ⟨rfl, hr⟩ := Path.of_done (r := .error y) h
      cases hr
      exact .inl (.nil _)
  | spin => cases h
  | call c k ih =>
    cases h with
    | cons h =>
      rcases ih _ h with hp | ⟨a, first, rest, rfl, hp, hf⟩
      · exact .inl (.cons hp)
      · exact .inr ⟨a, _ :: first, rest, rfl, .cons hp, hf⟩

/-- A guarded program that raises: its handler has raised. -/
theorem Path.of_tryCatch_raise {p : Prog R ε α} {h : ε → Prog R ε α} {tr : List (Event R ε)} {x : ε}
    (hp : Path (p.tryCatch h) tr (.done (.error x))) : ∃ y first rest, tr = first ++ rest ∧
      Path p first (.done (.error y)) ∧ Path (h y) rest (.done (.error x)) := by
  induction p generalizing tr with
  | done r =>
    cases r with
    | ok a =>
      obtain ⟨-, hr⟩ := Path.of_done (r := .ok a) hp
      cases hr
    | error y => exact ⟨y, [], tr, rfl, .nil _, hp⟩
  | spin => cases hp
  | call c k ih =>
    cases hp with
    | cons hp =>
      obtain ⟨y, first, rest, rfl, hfirst, hrest⟩ := ih _ hp
      exact ⟨y, _ :: first, rest, rfl, .cons hfirst, hrest⟩

/-- A program with a cleanup that raises: the program or its cleanup has raised. -/
theorem Path.of_ensure_raise {p : Prog R ε α} {q : Prog R ε Unit} {tr : List (Event R ε)} {x : ε}
    (h : Path (p.ensure q) tr (.done (.error x))) : ∃ r first rest, tr = first ++ rest ∧
      Path p first (.done r) ∧ (r = .error x ∧ Path q rest (.done (.ok ())) ∨
        Path q rest (.done (.error x))) := by
  induction p generalizing tr with
  | done r =>
    rcases Path.of_bind_raise (f := fun _ => .done r) h with h | ⟨⟨⟩, first, rest, rfl, hq, h⟩
    · exact ⟨r, [], tr, rfl, .nil _, .inr h⟩
    · obtain ⟨rfl, hr⟩ := Path.of_done h
      cases hr
      exact ⟨_, [], first, by simp, .nil _, .inl ⟨rfl, hq⟩⟩
  | spin => cases h
  | call c k ih =>
    cases h with
    | cons h =>
      obtain ⟨r, first, rest, rfl, hp, hq⟩ := ih _ h
      exact ⟨r, _ :: first, rest, rfl, .cons hp, hq⟩

theorem not_path_raise {x : ε} {tr : List (Event R ε)} {a : α} :
    ¬Path (raise x : Prog R ε α) tr (.done (.ok a)) := fun h => by
  obtain ⟨-, hr⟩ := Path.of_done (r := .error x) h
  cases hr

/-- The path on which the oracle `o`, with its own state, answers every call. -/
def exec {σ : Type} (o : σ → (c : C) → Except ε (R c) × σ) :
    Prog R ε α → σ → List (Event R ε) × Option (Except ε α)
  | .done r, _ => ([], some r)
  | .spin, _ => ([], none)
  | .call c k, s =>
      let a := o s c
      let rest := exec o (k a.1) a.2
      (⟨c, a.1⟩ :: rest.1, rest.2)

/-- The outcome after one answer -/
theorem exec_call {σ : Type} (o : σ → (c : C) → Except ε (R c) × σ) (c : C)
    (k : Except ε (R c) → Prog R ε α) (s : σ) :
    (exec o (.call c k) s).2 = (exec o (k (o s c).1) (o s c).2).2 := rfl

/-- What an oracle computes is a path. -/
theorem path_of_exec {σ : Type} (o : σ → (c : C) → Except ε (R c) × σ) (p : Prog R ε α) (s : σ)
    {r : Except ε α} (h : (exec o p s).2 = some r) : Path p (exec o p s).1 (.done r) := by
  induction p generalizing s with
  | done r' => cases h; exact .nil _
  | spin => cases h
  | call c k ih => exact .cons (ih _ _ h)

/-- What holds of every answer of an oracle holds of the path that it computes. -/
theorem forall_exec {σ : Type} {o : σ → (c : C) → Except ε (R c) × σ} {P : Event R ε → Prop}
    (h : ∀ s c, P ⟨c, (o s c).1⟩) (p : Prog R ε α) (s : σ) : ∀ e ∈ (exec o p s).1, P e := by
  induction p generalizing s with
  | done r => exact fun _ he => absurd he List.not_mem_nil
  | spin => exact fun _ he => absurd he List.not_mem_nil
  | call c k ih => exact List.forall_mem_cons.2 ⟨h s c, ih _ _⟩

/-- The outcome at the end of that path, and the state in which the oracle is left. -/
def conclude {σ : Type} (o : σ → (c : C) → Except ε (R c) × σ) :
    Prog R ε α → σ → Option (Except ε α × σ)
  | .done r, s => some (r, s)
  | .spin, _ => none
  | .call c k, s => conclude o (k (o s c).1) (o s c).2

section Conclude

variable {σ : Type} {o : σ → (c : C) → Except ε (R c) × σ} {s s' : σ}

theorem conclude_ask {c : C} {a : R c} (h : o s c = (.ok a, s')) :
    conclude o (ask c : Prog R ε (R c)) s = some (.ok a, s') := by
  rw [ask, conclude, h]
  rfl

theorem conclude_bind_ok {p : Prog R ε α} {f : α → Prog R ε β} {a : α}
    (h : conclude o p s = some (.ok a, s')) : conclude o (p >>= f) s = conclude o (f a) s' := by
  induction p generalizing s with
  | done r => cases h; rfl
  | spin => cases h
  | call c k ih => exact ih _ h

theorem conclude_bind_error {p : Prog R ε α} {f : α → Prog R ε β} {e : ε}
    (h : conclude o p s = some (.error e, s')) :
    conclude o (p >>= f) s = some (.error e, s') := by
  induction p generalizing s with
  | done r => cases h; rfl
  | spin => cases h
  | call c k ih => exact ih _ h

theorem conclude_tryCatch_ok {p : Prog R ε α} {h : ε → Prog R ε α} {a : α}
    (hp : conclude o p s = some (.ok a, s')) : conclude o (p.tryCatch h) s = some (.ok a, s') := by
  induction p generalizing s with
  | done r => cases hp; rfl
  | spin => cases hp
  | call c k ih => exact ih _ hp

theorem conclude_tryCatch_error {p : Prog R ε α} {h : ε → Prog R ε α} {e : ε}
    (hp : conclude o p s = some (.error e, s')) :
    conclude o (p.tryCatch h) s = conclude o (h e) s' := by
  induction p generalizing s with
  | done r => cases hp; rfl
  | spin => cases hp
  | call c k ih => exact ih _ hp

end Conclude

/-- The first `n` calls of that path, the program they lead to and the state of the oracle. -/
def advance {σ : Type} (o : σ → (c : C) → Except ε (R c) × σ) :
    ℕ → Prog R ε α → σ → List (Event R ε) × Prog R ε α × σ
  | n + 1, .call c k, s =>
      let a := o s c
      let rest := advance o n (k a.1) a.2
      (⟨c, a.1⟩ :: rest.1, rest.2)
  | _, p, s => ([], p, s)

theorem path_advance {σ : Type} (o : σ → (c : C) → Except ε (R c) × σ) (n : ℕ) (p : Prog R ε α)
    (s : σ) : Path p (advance o n p s).1 (advance o n p s).2.1 := by
  induction n generalizing p s with
  | zero => cases p <;> exact .nil _
  | succ n ih =>
    cases p with
    | done r => exact .nil _
    | spin => exact .nil _
    | call c k => exact .cons (ih _ _)

theorem forall_advance {σ : Type} {o : σ → (c : C) → Except ε (R c) × σ} {P : Event R ε → Prop}
    (h : ∀ s c, P ⟨c, (o s c).1⟩) (n : ℕ) (p : Prog R ε α) (s : σ) :
    ∀ e ∈ (advance o n p s).1, P e := by
  induction n generalizing p s with
  | zero => cases p <;> exact fun _ he => absurd he List.not_mem_nil
  | succ n ih =>
    cases p with
    | done r => exact fun _ he => absurd he List.not_mem_nil
    | spin => exact fun _ he => absurd he List.not_mem_nil
    | call c k => exact List.forall_mem_cons.2 ⟨h s c, ih _ _⟩

/-! ### Programs that end -/

/-- `p` never runs out of fuel. -/
def Ends : Prog R ε α → Prop
  | .done _ => True
  | .spin => False
  | .call _ k => ∀ r, Ends (k r)

@[simp] theorem ends_done (r : Except ε α) : Ends (.done r : Prog R ε α) := trivial

@[simp] theorem ends_perform (c : C) : Ends (perform c : Prog R ε (R c)) := fun _ => trivial

theorem ends_bind {p : Prog R ε α} {f : α → Prog R ε β} (hp : Ends p) (hf : ∀ a, Ends (f a)) :
    Ends (p >>= f) := by
  induction p with
  | done r =>
    cases r with
    | ok a => exact hf a
    | error e => trivial
  | spin => exact hp
  | call c k ih => exact fun r => ih r (hp r)

theorem ends_tryCatch {p : Prog R ε α} {h : ε → Prog R ε α} (hp : Ends p) (hh : ∀ e, Ends (h e)) :
    Ends (p.tryCatch h) := by
  induction p with
  | done r =>
    cases r with
    | ok a => trivial
    | error e => exact hh e
  | spin => exact hp
  | call c k ih => exact fun r => ih r (hp r)

theorem ends_ensure {p : Prog R ε α} {q : Prog R ε Unit} (hp : Ends p) (hq : Ends q) :
    Ends (p.ensure q) := by
  induction p with
  | done r => exact ends_bind hq fun _ => trivial
  | spin => exact hp
  | call c k ih => exact fun r => ih r (hp r)

/-- Such a program has an outcome, whatever is answered. -/
theorem exec_of_ends {σ : Type} (o : σ → (c : C) → Except ε (R c) × σ) {p : Prog R ε α}
    (hp : Ends p) (s : σ) : ∃ r, (exec o p s).2 = some r := by
  induction p generalizing s with
  | done r => exact ⟨r, rfl⟩
  | spin => exact hp.elim
  | call c k ih => exact ih _ (hp _) _

/-! ### The calls of a program -/

/-- Every call that `p` can make, whatever is answered, satisfies `S`. -/
def Calls (S : C → Prop) : Prog R ε α → Prop
  | .done _ => True
  | .spin => True
  | .call c k => S c ∧ ∀ r, Calls S (k r)

section Calls

variable {S T : C → Prop}

@[simp] theorem calls_done (r : Except ε α) : Calls S (.done r : Prog R ε α) := trivial

@[simp] theorem calls_pure (a : α) : Calls S (pure a : Prog R ε α) := trivial

@[simp] theorem calls_raise (e : ε) : Calls S (raise e : Prog R ε α) := trivial

@[simp] theorem calls_lift (r : Except ε α) : Calls S (lift r : Prog R ε α) := trivial

@[simp] theorem calls_spin : Calls S (.spin : Prog R ε α) := trivial

@[simp] theorem calls_perform (c : C) : Calls S (perform c : Prog R ε (R c)) ↔ S c :=
  ⟨fun h => h.1, fun h => ⟨h, fun _ => trivial⟩⟩

@[simp] theorem calls_ask (c : C) : Calls S (ask c : Prog R ε (R c)) ↔ S c :=
  ⟨fun h => h.1, fun h => ⟨h, fun r => by cases r <;> trivial⟩⟩

/-- The calls on a path -/
theorem Path.calls {p q : Prog R ε α} {tr : List (Event R ε)} (h : Path p tr q) (hp : Calls S p) :
    ∀ e ∈ tr, S e.call := by
  induction h with
  | nil p => exact fun _ he => absurd he List.not_mem_nil
  | cons _ ih => exact List.forall_mem_cons.2 ⟨hp.1, ih (hp.2 _)⟩

theorem calls_bind {p : Prog R ε α} {f : α → Prog R ε β} (hp : Calls S p)
    (hf : ∀ a, Calls S (f a)) : Calls S (p >>= f) := by
  induction p with
  | done r => cases r with
    | ok a => exact hf a
    | error e => trivial
  | spin => trivial
  | call c k ih => exact ⟨hp.1, fun r => ih r (hp.2 r)⟩

/-- One call, and what follows it. -/
theorem calls_seq {c : C} {f : R c → Prog R ε α} (hc : S c) (hf : ∀ a, Calls S (f a)) :
    Calls S (perform c >>= f) := calls_bind ((calls_perform c).2 hc) hf

theorem calls_mono (hST : ∀ c, S c → T c) {p : Prog R ε α} (h : Calls S p) : Calls T p := by
  induction p with
  | done r => trivial
  | spin => trivial
  | call c k ih => exact ⟨hST c h.1, fun r => ih r (h.2 r)⟩

theorem calls_tryCatch {p : Prog R ε α} {h : ε → Prog R ε α} (hp : Calls S p)
    (hh : ∀ e, Calls S (h e)) : Calls S (p.tryCatch h) := by
  induction p with
  | done r => cases r with
    | ok a => trivial
    | error e => exact hh e
  | spin => trivial
  | call c k ih => exact ⟨hp.1, fun r => ih r (hp.2 r)⟩

theorem calls_ensure {p : Prog R ε α} {q : Prog R ε Unit} (hp : Calls S p) (hq : Calls S q) :
    Calls S (p.ensure q) := by
  induction p with
  | done r => exact calls_bind hq fun _ => trivial
  | spin => trivial
  | call c k ih => exact ⟨hp.1, fun r => ih r (hp.2 r)⟩

end Calls

/-! ### The exceptions of a program -/

/-- Every call that `p` can make satisfies `S`, and what `p` raises satisfies `E`, as long as the
answers raise only exceptions that satisfy `E`. -/
def Within (S : C → Prop) (E : ε → Prop) : Prog R ε α → Prop
  | .done r => ∀ e, r = .error e → E e
  | .spin => True
  | .call c k => S c ∧ ∀ r, (∀ e, r = .error e → E e) → Within S E (k r)

section Within

variable {S T : C → Prop} {E : ε → Prop}

@[simp] theorem within_ok (a : α) : Within S E (.done (.ok a) : Prog R ε α) := by
  intro e h
  cases h

@[simp] theorem within_pure (a : α) : Within S E (pure a : Prog R ε α) := within_ok a

@[simp] theorem within_raise (e : ε) : Within S E (raise e : Prog R ε α) ↔ E e :=
  ⟨fun h => h e rfl, fun h _ he => by cases he; exact h⟩

theorem within_lift {r : Except ε α} (h : ∀ e, r = .error e → E e) :
    Within S E (lift r : Prog R ε α) := h

@[simp] theorem within_spin : Within S E (.spin : Prog R ε α) := trivial

@[simp] theorem within_perform (c : C) : Within S E (perform c : Prog R ε (R c)) ↔ S c :=
  ⟨fun h => h.1, fun h => ⟨h, fun _ hr => hr⟩⟩

@[simp] theorem within_ask (c : C) : Within S E (ask c : Prog R ε (R c)) ↔ S c := by
  refine ⟨fun h => h.1, fun h => ⟨h, fun r _ => ?_⟩⟩
  cases r with
  | ok a => exact within_ok a
  | error e => trivial

/-- The calls on a path of a program whose exceptions are not looked at. -/
theorem Path.within {p q : Prog R ε α} {tr : List (Event R ε)} (h : Path p tr q)
    (hp : Within S (fun _ => True) p) : ∀ e ∈ tr, S e.call := by
  induction h with
  | nil p => exact fun _ he => absurd he List.not_mem_nil
  | cons _ ih => exact List.forall_mem_cons.2 ⟨hp.1, ih (hp.2 _ fun _ _ => trivial)⟩

theorem within_mono (hST : ∀ c, S c → T c) {p : Prog R ε α} (h : Within S E p) :
    Within T E p := by
  induction p with
  | done r => exact h
  | spin => trivial
  | call c k ih => exact ⟨hST c h.1, fun r hr => ih r (h.2 r hr)⟩

theorem within_bind {p : Prog R ε α} {f : α → Prog R ε β} (hp : Within S E p)
    (hf : ∀ a, Within S E (f a)) : Within S E (p >>= f) := by
  induction p with
  | done r =>
    cases r with
    | ok a => exact hf a
    | error e => exact (within_raise e).2 (hp e rfl)
  | spin => trivial
  | call c k ih => exact ⟨hp.1, fun r hr => ih r (hp.2 r hr)⟩

theorem within_tryCatch {p : Prog R ε α} {h : ε → Prog R ε α} (hp : Within S E p)
    (hh : ∀ e, E e → Within S E (h e)) : Within S E (p.tryCatch h) := by
  induction p with
  | done r =>
    cases r with
    | ok a => exact within_ok a
    | error e => exact hh e (hp e rfl)
  | spin => trivial
  | call c k ih => exact ⟨hp.1, fun r hr => ih r (hp.2 r hr)⟩

theorem within_ensure {p : Prog R ε α} {q : Prog R ε Unit} (hp : Within S E p)
    (hq : Within S E q) : Within S E (p.ensure q) := by
  induction p with
  | done r => exact within_bind hq fun _ => hp
  | spin => trivial
  | call c k ih => exact ⟨hp.1, fun r hr => ih r (hp.2 r hr)⟩

end Within

end ApplianceAdmin.Async
