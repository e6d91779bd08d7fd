import ApplianceAdmin.Network.World

/-!
# Checkpoints that nobody has decided about

The checkpoints of a world when at most one of them, the latest, is still without a decision.

* `Quiet`: every checkpoint is settled, so nothing of what requests or NetworkManager do to the
  others touches it;
* `Handled`: what NetworkManager can have done in the meantime, for each phase of the latest one;
* `Shape`: settled checkpoints, after which one of the holder of the lock may follow.
-/

namespace ApplianceAdmin.Network

open Async

namespace Checkpoint

variable {k : Checkpoint}

theorem settled_iff : k.settled = true ↔
    (k.phase = .destroyed ∧ k.verified = true) ∨ k.phase = .rolledBack ∨ k.phase = .refused := by
  simp [settled, or_assoc]

/-- A settled checkpoint is in none of the phases that anything starts from. -/
theorem phase_ne (h : k.settled = true) :
    k.phase ≠ .asked ∧ k.phase ≠ .live ∧ k.phase ≠ .destroying ∧ k.phase ≠ .discarded := by
  rcases settled_iff.1 h with ⟨h, -⟩ | h | h <;> simp [h]

theorem discard_settled (h : k.settled = true) : k.discard = k := by
  obtain ⟨-, h₁, h₂, -⟩ := phase_ne h
  simp [discard, h₁, h₂]

theorem activate_settled (i : Tid) (h : k.settled = true) : k.activate i = k := by
  simp [activate, (phase_ne h).2.1]

theorem verify_settled (i : Tid) (h : k.settled = true) : k.verify i = k := by
  simp [verify, (phase_ne h).2.1]

theorem refuse_settled (i : Tid) (h : k.settled = true) : k.refuse i = k := by
  simp [refuse, (phase_ne h).1]

theorem move_of_ne {c : String} {p p' : Phase} (h : k.phase ≠ p) : k.move c p p' = k := by
  simp [move, h]

theorem move_settled {c : String} {p p' : Phase} (hp : p = .live ∨ p = .destroying)
    (h : k.settled = true) : k.move c p p' = k := by
  refine move_of_ne ?_
  obtain ⟨-, h₁, h₂, -⟩ := phase_ne h
  rcases hp with rfl | rfl
  · exact h₁
  · exact h₂

/-- Without a decision, and not by mistake -/
def underway (k : Checkpoint) : Prop :=
  k.phase = .asked ∨ k.phase = .live ∨ (k.phase = .destroying ∧ k.verified = true)

end Checkpoint

/-! ### Settled checkpoints -/

/-- Every checkpoint is settled. -/
def Quiet (cs : List Checkpoint) : Prop := ∀ k ∈ cs, k.settled = true

section Quiet

variable {cs cs' before : List Checkpoint} {k : Checkpoint} {e : CheckpointEvent}

theorem Quiet.map_eq {f : Checkpoint → Checkpoint} (hf : ∀ k, k.settled = true → f k = k)
    (h : Quiet cs) : cs.map f = cs :=
  (List.map_congr_left fun k hk => hf k (h k hk)).trans (List.map_id _)

theorem Quiet.not_handles (h : Quiet cs) : ¬Handles cs e cs' := by
  intro hs
  cases hs with
  | create hk _ _ => exact (Checkpoint.phase_ne (h _ (by simp))).1 hk
  | destroy hk => exact (Checkpoint.phase_ne (h _ (by simp))).2.2.1 hk

/-- With one checkpoint after settled ones, it is that one that NetworkManager handles. -/
theorem Handles.of_head (h : Quiet before) (hs : Handles (k :: before) e cs') :
    (k.phase = .asked ∧ ∃ c, cs' = { k with path := c, phase := .live } :: before) ∨
      (k.phase = .destroying ∧ cs' = { k with phase := .destroyed } :: before) := by
  generalize hcs : k :: before = cs at hs
  cases hs with
  | @create after before' k' c hk _ _ =>
    cases after with
    | nil =>
      obtain ⟨rfl, rfl⟩ := List.cons.inj hcs
      refine .inl ⟨hk, c, ?_⟩
      rw [List.map_nil, List.nil_append, h.map_eq fun _ => Checkpoint.discard_settled]
    | cons a after =>
      obtain ⟨-, rfl⟩ := List.cons.inj hcs
      exact absurd hk (Checkpoint.phase_ne (h k' (by simp))).1
  | @destroy after before' k' hk =>
    cases after with
    | nil =>
      obtain ⟨rfl, rfl⟩ := List.cons.inj hcs
      exact .inr ⟨hk, rfl⟩
    | cons a after =>
      obtain ⟨-, rfl⟩ := List.cons.inj hcs
      exact absurd hk (Checkpoint.phase_ne (h k' (by simp))).2.2.1

/-- NetworkManager has handled calls. -/
abbrev Handled : List Checkpoint → List Checkpoint → Prop :=
  Relation.ReflTransGen fun cs cs' => ∃ e, Handles cs e cs'

theorem Handled.of_quiet (h : Quiet cs) (hs : Handled cs cs') : cs' = cs := by
  induction hs with
  | refl => rfl
  | tail _ hlast ih =>
    obtain ⟨_, hlast⟩ := hlast
    subst ih
    exact absurd hlast h.not_handles

theorem Handled.of_live (h : Quiet before) (hk : k.phase = .live)
    (hs : Handled (k :: before) cs') : cs' = k :: before := by
  induction hs with
  | refl => rfl
  | tail _ hlast ih =>
    obtain ⟨_, hlast⟩ := hlast
    subst ih
    rcases hlast.of_head h with ⟨hp, -⟩ | ⟨hp, -⟩
    · simp [hk] at hp
    · simp [hk] at hp

theorem Handled.of_asked (h : Quiet before) (hk : k.phase = .asked)
    (hs : Handled (k :: before) cs') :
    cs' = k :: before ∨ ∃ c, cs' = { k with path := c, phase := .live } :: before := by
  induction hs with
  | refl => exact .inl rfl
  | tail _ hlast ih =>
    obtain ⟨_, hlast⟩ := hlast
    rcases ih with rfl | ⟨c, rfl⟩
    · rcases hlast.of_head h with ⟨-, hc⟩ | ⟨hp, -⟩
      · exact .inr hc
      · simp [hk] at hp
    · rcases hlast.of_head h with ⟨hp, -⟩ | ⟨hp, -⟩ <;> cases hp

theorem Handled.of_destroying (h : Quiet before) (hk : k.phase = .destroying)
    (hs : Handled (k :: before) cs') :
    cs' = k :: before ∨ cs' = { k with phase := .destroyed } :: before := by
  induction hs with
  | refl => exact .inl rfl
  | tail _ hlast ih =>
    obtain ⟨_, hlast⟩ := hlast
    rcases ih with rfl | rfl
    · rcases hlast.of_head h with ⟨hp, -⟩ | ⟨-, hc⟩
      · simp [hk] at hp
      · exact .inr hc
    · rcases hlast.of_head h with ⟨hp, -⟩ | ⟨hp, -⟩ <;> cases hp

end Quiet

/-! ### At most one without a decision -/

/-- Settled checkpoints, after which one of the holder of the lock may be under way. -/
inductive Shape (lock : Option Tid) : List Checkpoint → Prop
  | quiet {cs : List Checkpoint} : Quiet cs → Shape lock cs
  | head {k : Checkpoint} {before : List Checkpoint} :
      k.underway → lock = some k.owner → Quiet before → Shape lock (k :: before)

namespace Shape

variable {lock : Option Tid} {cs cs' : List Checkpoint}

theorem quiet_of_free (h : Shape none cs) : Quiet cs := by
  cases h with
  | quiet h => exact h
  | head _ hlock _ => cases hlock

theorem not_discarded (h : Shape lock cs) : ∀ k ∈ cs, k.phase ≠ .discarded := by
  intro k hk
  cases h with
  | quiet h => exact (Checkpoint.phase_ne (h k hk)).2.2.2
  | head hu _ hq =>
    rcases List.mem_cons.1 hk with rfl | hk
    · rcases hu with h | h | ⟨h, -⟩ <;> simp [h]
    · exact (Checkpoint.phase_ne (hq k hk)).2.2.2

/-- What is done to the checkpoints, when it leaves settled ones alone and keeps the latest one
under way or settles it. -/
theorem map (h : Shape lock cs) {f : Checkpoint → Checkpoint}
    (hsettled : ∀ k, k.settled = true → f k = k)
    (hhead : ∀ k ∈ cs, k.underway →
      (f k).settled = true ∨ ((f k).underway ∧ (f k).owner = k.owner)) :
    Shape lock (cs.map f) := by
  cases h with
  | quiet h =>
    rw [h.map_eq hsettled]
    exact .quiet h
  | @head k before hu hlock hq =>
    rw [List.map_cons, hq.map_eq hsettled]
    rcases hhead k List.mem_cons_self hu with hs | ⟨hu', ho⟩
    · exact .quiet (List.forall_mem_cons.2 ⟨hs, hq⟩)
    · exact .head hu' (by rw [ho, hlock]) hq

theorem activate (h : Shape lock cs) (i : Tid) : Shape lock (cs.map (.activate i)) := by
  refine h.map (fun k => Checkpoint.activate_settled i) fun k _ hu => .inr ?_
  unfold Checkpoint.activate
  split <;> exact ⟨hu, rfl⟩

theorem verify (h : Shape lock cs) (i : Tid) : Shape lock (cs.map (.verify i)) := by
  refine h.map (fun k => Checkpoint.verify_settled i) fun k _ hu => .inr ?_
  unfold Checkpoint.verify
  split
  · rename_i hk
    exact ⟨.inr (.inl hk.2), rfl⟩
  · exact ⟨hu, rfl⟩

theorem refuse (h : Shape lock cs) (i : Tid) : Shape lock (cs.map (.refuse i)) := by
  refine h.map (fun k => Checkpoint.refuse_settled i) fun k _ hu => ?_
  unfold Checkpoint.refuse
  split
  · exact .inl (Checkpoint.settled_iff.2 (.inr (.inr rfl)))
  · exact .inr ⟨hu, rfl⟩

/-- A verified checkpoint may be destroyed. -/
theorem destroying (h : Shape lock cs) (c : String)
    (hv : ∀ k ∈ cs, k.phase = .live → k.verified = true) :
    Shape lock (cs.map (.move c .live .destroying)) := by
  refine h.map (fun k => Checkpoint.move_settled (.inl rfl)) fun k hk hu => .inr ?_
  unfold Checkpoint.move
  split
  · rename_i hmove
    exact ⟨.inr (.inr ⟨rfl, hv k hk hmove.2⟩), rfl⟩
  · exact ⟨hu, rfl⟩

theorem rolledBack (h : Shape lock cs) (c : String) :
    Shape lock (cs.map (.move c .live .rolledBack)) := by
  refine h.map (fun k => Checkpoint.move_settled (.inl rfl)) fun k _ hu => ?_
  unfold Checkpoint.move
  split
  · exact .inl (Checkpoint.settled_iff.2 (.inr (.inl rfl)))
  · exact .inr ⟨hu, rfl⟩

theorem handles (h : Shape lock cs) {e : CheckpointEvent} (hs : Handles cs e cs') :
    Shape lock cs' := by
  cases h with
  | quiet h => exact absurd hs h.not_handles
  | @head k before hu hlock hq =>
    rcases hs.of_head hq with ⟨-, c, rfl⟩ | ⟨hp, rfl⟩
    · exact .head (.inr (.inl rfl)) hlock hq
    · refine .quiet (List.forall_mem_cons.2 ⟨Checkpoint.settled_iff.2 (.inl ⟨rfl, ?_⟩), hq⟩)
      rcases hu with h | h | ⟨-, hv⟩
      · simp [hp] at h
      · simp [hp] at h
      · exact hv

end Shape

end ApplianceAdmin.Network
