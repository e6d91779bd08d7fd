import ApplianceAdmin.Async.Prog

/-!
# Programs in place of calls

What is one call to a program may be a program to those who answer it: a server calls a handler,
and the handler makes calls of its own.

* `follow p k`: `k` goes on from the outcome of `p`, whether it is a value or an exception;
* `interpret h p`: `p` with the program `h c` in place of each call `c`;
* `Plays h outer inner`: the answered calls `inner` are runs of `h` for the answered calls `outer`;
* `Path.of_interpret_done`, `Path.interpret`: the complete paths of `interpret h p` are those of `p`
  that are played.
-/

namespace ApplianceAdmin.Async

open Prog

variable {C C' : Type} {R : C → Type} {R' : C' → Type} {ε α β : Type}

namespace Prog

/-- Run `p`, then `k` on its outcome. -/
def follow : Prog R ε α → (Except ε α → Prog R ε β) → Prog R ε β
  | .done r, k => k r
  | .spin, _ => .spin
  | .call c k', k => .call c fun r => (k' r).follow k

/-- `p` with the program `h c` in place of each call `c` -/
def interpret (h : (c : C) → Prog R' ε (R c)) : Prog R ε α → Prog R' ε α
  | .done r => .done r
  | .spin => .spin
  | .call c k => (h c).follow fun r => (k r).interpret h

end Prog

/-! ### What follows an outcome -/

section Follow

variable {p : Prog R ε α} {k : Except ε α → Prog R ε β}

theorem calls_follow {S : C → Prop} (hp : Calls S p) (hk : ∀ r, Calls S (k r)) :
    Calls S (p.follow k) := by
  induction p with
  | done r => exact hk r
  | spin => trivial
  | call c k' ih => exact ⟨hp.1, fun r => ih r (hp.2 r)⟩

/-- A path of `p` with `k` behind it is inside `p`, or `p` has an outcome. -/
theorem Path.of_follow {tr : List (Event R ε)} {q : Prog R ε β} (h : Path (p.follow k) tr q) :
    (∃ q', Path p tr q' ∧ q = q'.follow k) ∨
      ∃ r first rest, tr = first ++ rest ∧ Path p first (.done r) ∧ Path (k r) rest q := by
  induction p generalizing tr with
  | done r => exact .inr ⟨r, [], tr, rfl, .nil _, h⟩
  | spin =>
    cases h
    exact .inl ⟨.spin, .nil _, rfl⟩
  | call c k' ih =>
    cases h with
    | nil => exact .inl ⟨_, .nil _, rfl⟩
    | cons h =>
      rcases ih _ h with ⟨q', hp, rfl⟩ | ⟨r, first, rest, rfl, hp, hk⟩
      · exact .inl ⟨q', .cons hp, rfl⟩
      · exact .inr ⟨r, _ :: first, rest, rfl, .cons hp, hk⟩

theorem Path.follow {q : Prog R ε α} {tr : List (Event R ε)} (h : Path p tr q)
    (k : Except ε α → Prog R ε β) : Path (p.follow k) tr (q.follow k) := by
  induction h with
  | nil p => exact .nil _
  | cons _ ih => exact .cons ih

end Follow

/-! ### Playing the calls -/

/-- The answered calls of the second list are runs of `h` for those of the first, in their order. -/
inductive Plays (h : (c : C) → Prog R' ε (R c)) : List (Event R ε) → List (Event R' ε) → Prop
  | nil : Plays h [] []
  | cons {e : Event R ε} {inner : List (Event R' ε)} {outer : List (Event R ε)}
      {tr : List (Event R' ε)} : Path (h e.call) inner (.done e.reply) → Plays h outer tr →
      Plays h (e :: outer) (inner ++ tr)

section Interpret

variable {h : (c : C) → Prog R' ε (R c)} {p : Prog R ε α}

/-- A complete path of an interpreted program -/
theorem Path.of_interpret_done {tr : List (Event R' ε)} {r : Except ε α}
    (hq : Path (p.interpret h) tr (.done r)) :
    ∃ outer, Path p outer (.done r) ∧ Plays h outer tr := by
  induction p generalizing tr with
  | done r' =>
    obtain ⟨rfl, hr⟩ := Path.of_done (r := r') hq
    cases hr
    exact ⟨[], .nil _, .nil⟩
  | spin => cases hq
  | call c k ih =>
    rcases Path.of_follow hq with ⟨q', hc, hq'⟩ | ⟨r', first, rest, rfl, hc, hk⟩
    · -- inside the call there is an outcome only at its end
      cases q' with
      | done r' =>
        have hk : Path ((k r').interpret h) [] (.done r) := by
          rw [show (k r').interpret h = .done r from hq'.symm]
          exact .nil _
        obtain ⟨outer, hp, hplays⟩ := ih r' hk
        have htr : tr = tr ++ [] := (List.append_nil tr).symm
        exact ⟨⟨c, r'⟩ :: outer, .cons hp, htr ▸ .cons hc hplays⟩
      | spin => cases hq'
      | call c' k' => cases hq'
    · obtain ⟨outer, hp, hplays⟩ := ih r' hk
      exact ⟨⟨c, r'⟩ :: outer, .cons hp, .cons hc hplays⟩

/-- A path whose calls are played is one of the interpreted program. -/
theorem Path.interpret {outer : List (Event R ε)} {tr : List (Event R' ε)} {p' : Prog R ε α}
    (hp : Path p outer p') (hplays : Plays h outer tr) :
    Path (p.interpret h) tr (p'.interpret h) := by
  induction hp generalizing tr with
  | nil p =>
    cases hplays
    exact .nil _
  | cons _ ih =>
    cases hplays with
    | cons hc hplays => exact (hc.follow _).trans (ih hplays)

theorem calls_interpret {S : C → Prop} {T : C' → Prop} (hp : Calls S p)
    (hh : ∀ c, S c → Calls T (h c)) : Calls T (p.interpret h) := by
  induction p with
  | done r => trivial
  | spin => trivial
  | call c k ih => exact calls_follow (hh c hp.1) fun r => ih r (hp.2 r)

/-- What is played of a list and then of another -/
theorem Plays.split {before after : List (Event R ε)} {tr : List (Event R' ε)}
    (hplays : Plays h (before ++ after) tr) :
    ∃ first rest, tr = first ++ rest ∧ Plays h before first ∧ Plays h after rest := by
  induction before generalizing tr with
  | nil => exact ⟨[], tr, rfl, .nil, hplays⟩
  | cons e before ih =>
    cases hplays with
    | cons hc hplays =>
      obtain ⟨first, rest, rfl, hbefore, hafter⟩ := ih hplays
      exact ⟨_, rest, (List.append_assoc _ _ _).symm, .cons hc hbefore, hafter⟩

end Interpret

/-! ### Calls by another name -/

section Rename

variable {f : C → C'}

/-- A call of `p` is the call `f c` to the surroundings. -/
def Prog.rename (p : Prog (fun c => R' (f c)) ε α) : Prog R' ε α :=
  p.interpret fun c => perform (f c)

/-- An answered call under its other name -/
def Event.rename (f : C → C') (e : Event (fun c => R' (f c)) ε) : Event R' ε := ⟨f e.call, e.reply⟩

variable {p : Prog (fun c => R' (f c)) ε α} {tr : List (Event R' ε)}

/-- A path of a renamed program is a renamed path. -/
theorem Path.of_rename {q : Prog R' ε α} (h : Path p.rename tr q) :
    ∃ outer p', Path p outer p' ∧ tr = outer.map (Event.rename f) ∧ q = p'.rename := by
  induction p generalizing tr with
  | done r =>
    obtain ⟨rfl, rfl⟩ := Path.of_done (r := r) h
    exact ⟨[], _, .nil _, rfl, rfl⟩
  | spin =>
    cases h
    exact ⟨[], _, .nil _, rfl, rfl⟩
  | call c k ih =>
    cases h with
    | nil => exact ⟨[], _, .nil _, rfl, rfl⟩
    | @cons _ _ r _ _ h =>
      obtain ⟨outer, p', hp, rfl, rfl⟩ := ih r h
      exact ⟨⟨c, r⟩ :: outer, p', .cons hp, rfl, rfl⟩

end Rename

end ApplianceAdmin.Async
