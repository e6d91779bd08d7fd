import ApplianceAdmin.Async.Interpret
import ApplianceAdmin.Async.Monitor

/-!
# What a call rests on

Whether a call may be made can depend on all that the program has been answered before.  `J tr c`
says that the answered calls `tr` are a ground for the call `c`.

* `Justified J tr p`: every call of `tr` had its ground when it was made, and so has the next one;
* `history J`: the monitor that writes down what is answered, and `justified_of_path`;
* `wp_history`: a program whose calls are known, after answers that are a ground for all of them;
* `justified_of_calls`, `ground_of_follow`: the calls of a program one by one, and those after it.
-/

namespace ApplianceAdmin.Async

open Prog

variable {C : Type} {R : C → Type} {ε α β : Type} {J : List (Event R ε) → C → Prop}

/-- Every call that has been answered in `tr`, and the one at which `p` stands, had its ground when
it was made. -/
structure Justified (J : List (Event R ε) → C → Prop) (tr : List (Event R ε)) (p : Prog R ε α) :
    Prop where
  answered : ∀ {before after e}, tr = before ++ e :: after → J before e.call
  waiting : ∀ {c k}, p = .call c k → J tr c

/-- The monitor that writes down what is answered -/
def history (J : List (Event R ε) → C → Prop) : Monitor R ε (List (Event R ε)) :=
  .ofFold J (fun _ _ => True) fun tr e => tr ++ [e]

theorem trail_history (tr : List (Event R ε)) : (history J).Trail [] tr tr := by
  have hfold : ∀ start : List (Event R ε), tr.foldl (fun tr e => tr ++ [e]) start = start ++ tr := by
    induction tr with
    | nil => exact fun start => (List.append_nil start).symm
    | cons e tr ih => exact fun start => (ih _).trans (List.append_assoc start [e] tr)
  have htrail : (history J).Trail [] tr _ := Monitor.trail_ofFold [] tr
  rwa [hfold] at htrail

theorem justified_of_path {p q : Prog R ε α} {Q : Except ε α → List (Event R ε) → Prop}
    (h : (history J).wp p Q []) {tr : List (Event R ε)} (hp : Path p tr q) : Justified J tr q where
  answered {before after e} htr := by
    subst htr
    obtain ⟨k, hbefore⟩ := hp.at_event
    exact Monitor.wp_pre hbefore (trail_history before) h
  waiting hq := by
    subst hq
    exact Monitor.wp_pre hp (trail_history tr) h

/-- Along the calls of `p`, the answers before it stay a ground. -/
theorem wp_history {S : C → Prop} {p : Prog R ε α} (hp : Calls S p) {tr : List (Event R ε)}
    (hJ : ∀ new c, (∀ e ∈ new, S e.call) → S c → J (tr ++ new) c) :
    (history J).wp p (fun r tr' => ∃ new, tr' = tr ++ new ∧ Path p new (.done r)) tr := by
  induction p generalizing tr with
  | done r => exact ⟨[], (List.append_nil tr).symm, .nil _⟩
  | spin => trivial
  | call c k ih =>
    refine ⟨?_, ?_⟩
    · have hfirst := hJ [] c (fun e he => absurd he List.not_mem_nil) hp.1
      rwa [List.append_nil] at hfirst
    · rintro r tr' ⟨-, rfl⟩
      refine Monitor.wp_mono (ih r (hp.2 r) fun new c' hnew hc' => ?_) ?_
      · rw [List.append_assoc]
        exact hJ (⟨c, r⟩ :: new) c' (List.forall_mem_cons.2 ⟨hp.1, hnew⟩) hc'
      · rintro r' tr' ⟨new, rfl, hpath⟩
        exact ⟨⟨c, r⟩ :: new, List.append_assoc tr [⟨c, r⟩] new, .cons hpath⟩

/-- The same for the first part of a sequence -/
theorem wp_history_bind {S : C → Prop} {p : Prog R ε α} (hp : Calls S p) {tr : List (Event R ε)}
    (hJ : ∀ new c, (∀ e ∈ new, S e.call) → S c → J (tr ++ new) c) {f : α → Prog R ε β}
    {Q : Except ε β → List (Event R ε) → Prop}
    (hf : ∀ a new, Path p new (.done (.ok a)) → (∀ e ∈ new, S e.call) →
      (history J).wp (f a) Q (tr ++ new))
    (herror : ∀ x new, (∀ e ∈ new, S e.call) → Q (.error x) (tr ++ new)) :
    (history J).wp (p >>= f) Q tr := by
  refine (Monitor.wp_bind _).2 (Monitor.wp_mono (wp_history hp hJ) ?_)
  rintro r tr' ⟨new, rfl, hpath⟩
  cases r with
  | ok a => exact hf a new hpath (hpath.calls hp)
  | error x => exact herror x new (hpath.calls hp)

/-! ### One call at a time -/

/-- The calls that a program can still make, wherever it is -/
theorem Path.calls_rest {p q : Prog R ε α} {tr : List (Event R ε)} {S : C → Prop}
    (h : Path p tr q) (hp : Calls S p) : Calls S q := by
  induction h with
  | nil p => exact hp
  | cons _ ih => exact ih (hp.2 _)

/-- A call has its ground on every path when it has it wherever it is made. -/
theorem justified_of_calls {p q : Prog R ε α} (h : ∀ tr c k, Path p tr (.call c k) → J tr c)
    {tr : List (Event R ε)} (hp : Path p tr q) : Justified J tr q where
  answered {before after e} htr := by
    subst htr
    obtain ⟨k, hbefore⟩ := hp.at_event
    exact h before e.call k hbefore
  waiting {c k} hq := by
    subst hq
    exact h tr c k hp

/-- The calls of a program and of what follows its outcome, which needs no ground -/
theorem ground_of_follow {p : Prog R ε α} {k : Except ε α → Prog R ε β} {S : C → Prop}
    (hp : ∀ tr c k', Path p tr (.call c k') → J tr c) (hk : ∀ r, Calls S (k r))
    (hJ : ∀ tr c, S c → J tr c) {tr : List (Event R ε)} {c : C} {k' : Except ε (R c) → Prog R ε β}
    (h : Path (p.follow k) tr (.call c k')) : J tr c := by
  rcases Path.of_follow h with ⟨q', hpath, hq⟩ | ⟨r, first, rest, rfl, -, hpath⟩
  · cases q' with
    | done r =>
      have hcalls : Calls S (.call c k') := hq ▸ hk r
      exact hJ tr c hcalls.1
    | spin => cases hq
    | call c' k'' =>
      cases hq
      exact hp tr _ _ hpath
  · exact hJ _ c (hpath.calls_rest (hk r)).1

end ApplianceAdmin.Async
