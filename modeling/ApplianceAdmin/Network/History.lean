import ApplianceAdmin.Network.World

/-!
# What NetworkManager has done with checkpoints

Whatever the tasks of a pool do, and whatever they are answered, the history of a world says about
every checkpoint what has happened between its creation and its destruction: nothing.

* `Checkpoint.Like`: what requests do to a checkpoint leaves its place in the history alone;
* `Recorded`: the checkpoints and the answers of the tasks agree with the history;
* `recorded_of_reach`: in every reachable world they do;
* `Recorded.directly`: a checkpoint that a task created and that was destroyed on request was
  destroyed before NetworkManager created another one.
-/

namespace ApplianceAdmin.Network

open Async

namespace Checkpoint

/-- Created, with nothing said about it since -/
def Current (k : Checkpoint) : Prop := k.phase = .live ∨ k.phase = .destroying

/-- Two checkpoints with a path do not share it. -/
def Apart (k k' : Checkpoint) : Prop := k.path = k'.path → k.path = ""

instance : Std.Symm Apart := ⟨fun _ _ h he => he.trans (h he.symm)⟩

/-- `k'` is `k` after something that is no matter for the history. -/
structure Like (k k' : Checkpoint) : Prop where
  owner : k'.owner = k.owner
  path : k'.path = k.path
  asked : k'.phase = .asked → k.phase = .asked
  current : k'.Current → k.Current
  destroyed : k'.phase = .destroyed ↔ k.phase = .destroyed

variable {k : Checkpoint}

theorem Like.refl (k : Checkpoint) : k.Like k := ⟨rfl, rfl, id, id, Iff.rfl⟩

theorem like_activate (i : Tid) : k.Like (k.activate i) := by
  unfold activate
  split
  · exact ⟨rfl, rfl, id, id, Iff.rfl⟩
  · exact .refl k

theorem like_verify (i : Tid) : k.Like (k.verify i) := by
  unfold verify
  split
  · exact ⟨rfl, rfl, id, id, Iff.rfl⟩
  · exact .refl k

theorem like_refuse (i : Tid) : k.Like (k.refuse i) := by
  unfold refuse
  split
  · rename_i h
    refine ⟨rfl, rfl, nofun, ?_, by simp [h.2]⟩
    rintro (hc | hc) <;> cases hc
  · exact .refl k

theorem like_discard : k.Like k.discard := by
  unfold discard
  split
  · rename_i h
    refine ⟨rfl, rfl, nofun, fun _ => h, ?_⟩
    rcases h with h | h <;> simp [h]
  · exact .refl k

theorem not_current_ask {i : Tid} : ¬(ask i).Current := by
  rintro (h | h) <;> cases h

theorem not_current_discard : ¬k.discard.Current := by
  unfold discard
  split
  · rintro (h | h) <;> cases h
  · assumption

/-- From current to another phase that a request brings about -/
theorem like_move {c : String} {p p' : Phase} (hp : p = .live ∨ p = .destroying)
    (hasked : p' ≠ .asked) (hdestroyed : p' ≠ .destroyed) : k.Like (k.move c p p') := by
  unfold move
  split
  · rename_i h
    refine ⟨rfl, rfl, fun h => absurd h hasked, fun _ => ?_, ?_⟩
    · rwa [Current, h.2]
    · rcases hp with rfl | rfl <;> simp [h.2, hdestroyed]
  · exact .refl k

end Checkpoint

/-- The checkpoints and the answers of the tasks, as the history has them -/
structure Recorded (cs : List Checkpoint) (history : List CheckpointEvent)
    (answers : Tid → List (Event Reply Exc)) : Prop where
  apart : cs.Pairwise Checkpoint.Apart
  unnamed : ∀ k ∈ cs, k.phase = .asked → k.path = ""
  named : ∀ k ∈ cs, k.Current → k.path ≠ ""
  /-- The current checkpoint is the last thing that happened. -/
  current : ∀ k ∈ cs, k.Current → ∃ before, history = .created k.owner k.path :: before
  /-- A checkpoint that was destroyed was so directly after its creation. -/
  destroyed : ∀ k ∈ cs, k.phase = .destroyed →
    ∃ after before, history = after ++ .destroyed k.path :: .created k.owner k.path :: before
  creation : ∀ {i ds s f c}, ⟨.checkpointCreate ds s f, .ok c⟩ ∈ answers i →
    c ≠ "" ∧ ∃ k ∈ cs, k.owner = i ∧ k.path = c
  destruction : ∀ {i c}, ⟨.checkpointDestroy c, .ok ()⟩ ∈ answers i →
    ∃ k ∈ cs, k.path = c ∧ k.phase = .destroyed

namespace Recorded

variable {cs cs' : List Checkpoint} {history : List CheckpointEvent}
  {answers : Tid → List (Event Reply Exc)}

theorem init : Recorded [] [] fun _ => [] :=
  ⟨.nil, by simp, by simp, by simp, by simp, by simp, by simp⟩

theorem map (h : Recorded cs history answers) {f : Checkpoint → Checkpoint}
    (hf : ∀ k : Checkpoint, k.Like (f k)) : Recorded (cs.map f) history answers where
  apart := by
    refine List.pairwise_map.2 (h.apart.imp fun {k k'} hk => ?_)
    rwa [Checkpoint.Apart, (hf k).path, (hf k').path]
  unnamed := by
    refine List.forall_mem_map.2 fun k hk ha => ?_
    rw [(hf k).path]
    exact h.unnamed k hk ((hf k).asked ha)
  named := by
    refine List.forall_mem_map.2 fun k hk hc => ?_
    rw [(hf k).path]
    exact h.named k hk ((hf k).current hc)
  current := by
    refine List.forall_mem_map.2 fun k hk hc => ?_
    rw [(hf k).owner, (hf k).path]
    exact h.current k hk ((hf k).current hc)
  destroyed := by
    refine List.forall_mem_map.2 fun k hk hd => ?_
    rw [(hf k).owner, (hf k).path]
    exact h.destroyed k hk ((hf k).destroyed.1 hd)
  creation hmem := by
    obtain ⟨hc, k, hk, howner, hpath⟩ := h.creation hmem
    exact ⟨hc, f k, List.mem_map_of_mem hk, (hf k).owner.trans howner, (hf k).path.trans hpath⟩
  destruction hmem := by
    obtain ⟨k, hk, hpath, hd⟩ := h.destruction hmem
    exact ⟨f k, List.mem_map_of_mem hk, (hf k).path.trans hpath, (hf k).destroyed.2 hd⟩

/-- A request asks for a checkpoint. -/
theorem ask (h : Recorded cs history answers) (i : Tid) :
    Recorded (.ask i :: cs) history answers where
  apart := List.pairwise_cons.2 ⟨fun _ _ _ => rfl, h.apart⟩
  unnamed := List.forall_mem_cons.2 ⟨fun _ => rfl, h.unnamed⟩
  named := List.forall_mem_cons.2 ⟨fun hc => absurd hc Checkpoint.not_current_ask, h.named⟩
  current := List.forall_mem_cons.2 ⟨fun hc => absurd hc Checkpoint.not_current_ask, h.current⟩
  destroyed := List.forall_mem_cons.2 ⟨nofun, h.destroyed⟩
  creation hmem := (h.creation hmem).imp_right fun ⟨k, hk, h⟩ => ⟨k, List.mem_cons_of_mem _ hk, h⟩
  destruction hmem := (h.destruction hmem).imp fun _ h => ⟨List.mem_cons_of_mem _ h.1, h.2⟩

theorem perm (h : Recorded cs history answers) (hp : cs.Perm cs') :
    Recorded cs' history answers where
  apart := (hp.pairwise_iff fun {_ _} hxy => Std.Symm.symm _ _ hxy).1 h.apart
  unnamed k hk := h.unnamed k (hp.mem_iff.2 hk)
  named k hk := h.named k (hp.mem_iff.2 hk)
  current k hk := h.current k (hp.mem_iff.2 hk)
  destroyed k hk := h.destroyed k (hp.mem_iff.2 hk)
  creation hmem := (h.creation hmem).imp_right fun ⟨k, hk, h⟩ => ⟨k, hp.mem_iff.1 hk, h⟩
  destruction hmem := (h.destruction hmem).imp fun _ h => ⟨hp.mem_iff.1 h.1, h.2⟩

/-- What was destroyed directly after its creation still was so when something else happens. -/
theorem later {e : CheckpointEvent} {k : Checkpoint}
    (h : ∃ after before,
      history = after ++ .destroyed k.path :: .created k.owner k.path :: before) :
    ∃ after before,
      e :: history = after ++ .destroyed k.path :: .created k.owner k.path :: before := by
  obtain ⟨after, before, rfl⟩ := h
  exact ⟨e :: after, before, rfl⟩

variable {k : Checkpoint} {others : List Checkpoint}

/-- NetworkManager creates a checkpoint. -/
theorem create {c : String} (h : Recorded (k :: others) history answers) (hk : k.phase = .asked)
    (hc : c ≠ "") (hfresh : ∀ k' ∈ others, k'.path ≠ c) :
    Recorded ({ k with path := c, phase := .live } :: others.map .discard)
      (.created k.owner c :: history) answers := by
  have hothers := h.map fun _ => Checkpoint.like_discard
  obtain ⟨hunnamed, hothers'⟩ := List.forall_mem_cons.1 hothers.unnamed
  have hk' : k.discard.phase = .asked := by simp [Checkpoint.discard, hk]
  refine ⟨?_, List.forall_mem_cons.2 ⟨nofun, hothers'⟩, ?_, ?_, ?_, fun hmem => ?_, fun hmem => ?_⟩
  · refine List.pairwise_cons.2 ⟨List.forall_mem_map.2 fun k' hk' he => ?_, ?_⟩
    · exact absurd (he.trans Checkpoint.like_discard.path).symm (hfresh k' hk')
    · exact (List.pairwise_cons.1 hothers.apart).2
  · exact List.forall_mem_cons.2 ⟨fun _ => hc, List.forall_mem_map.2 fun k' _ hcurrent =>
      absurd hcurrent Checkpoint.not_current_discard⟩
  · exact List.forall_mem_cons.2 ⟨fun _ => ⟨history, rfl⟩, List.forall_mem_map.2 fun k' _ hcurrent =>
      absurd hcurrent Checkpoint.not_current_discard⟩
  · exact List.forall_mem_cons.2 ⟨nofun, fun k' hk' hd =>
      later (hothers.destroyed k' (List.mem_cons_of_mem _ hk') hd)⟩
  · obtain ⟨hc', k', hmem', howner, hpath⟩ := hothers.creation hmem
    rcases List.mem_cons.1 hmem' with rfl | hmem'
    · exact absurd (hpath.symm.trans (hunnamed hk')) hc'
    · exact ⟨hc', k', List.mem_cons_of_mem _ hmem', howner, hpath⟩
  · obtain ⟨k', hmem', hpath, hd⟩ := hothers.destruction hmem
    rcases List.mem_cons.1 hmem' with rfl | hmem'
    · rw [hk'] at hd
      cases hd
    · exact ⟨k', List.mem_cons_of_mem _ hmem', hpath, hd⟩

/-- NetworkManager destroys a checkpoint. -/
theorem destroy (h : Recorded (k :: others) history answers) (hk : k.phase = .destroying) :
    Recorded ({ k with phase := .destroyed } :: others) (.destroyed k.path :: history) answers := by
  obtain ⟨hnamed, hnamed'⟩ := List.forall_mem_cons.1 h.named
  obtain ⟨hcurrent, hcurrent'⟩ := List.forall_mem_cons.1 h.current
  obtain ⟨hapart, hapart'⟩ := List.pairwise_cons.1 h.apart
  obtain ⟨before, hbefore⟩ := hcurrent (.inr hk)
  -- no other checkpoint is current, as the history would begin with its creation
  have hothers : ∀ k' ∈ others, ¬k'.Current := by
    intro k' hk' hc
    obtain ⟨before', hbefore'⟩ := hcurrent' k' hk' hc
    rw [hbefore] at hbefore'
    have hpath : k.path = k'.path := by
      injection hbefore' with hhead
      injection hhead
    exact hnamed (.inr hk) (hapart k' hk' hpath)
  refine ⟨List.pairwise_cons.2 ⟨hapart, hapart'⟩, ?_, ?_, ?_, ?_, fun hmem => ?_, fun hmem => ?_⟩
  · exact List.forall_mem_cons.2 ⟨nofun, (List.forall_mem_cons.1 h.unnamed).2⟩
  · exact List.forall_mem_cons.2 ⟨fun _ => hnamed (.inr hk), hnamed'⟩
  · refine List.forall_mem_cons.2 ⟨?_, fun k' hk' hc => absurd hc (hothers k' hk')⟩
    rintro (hc | hc) <;> cases hc
  · refine List.forall_mem_cons.2 ⟨fun _ => ⟨[], before, by rw [hbefore]; rfl⟩, fun k' hk' hd => ?_⟩
    exact later (h.destroyed k' (List.mem_cons_of_mem _ hk') hd)
  · obtain ⟨hc, k', hmem', howner, hpath⟩ := h.creation hmem
    rcases List.mem_cons.1 hmem' with rfl | hmem'
    · exact ⟨hc, _, List.mem_cons_self, howner, hpath⟩
    · exact ⟨hc, k', List.mem_cons_of_mem _ hmem', howner, hpath⟩
  · obtain ⟨k', hmem', hpath, hd⟩ := h.destruction hmem
    rcases List.mem_cons.1 hmem' with rfl | hmem'
    · exact ⟨_, List.mem_cons_self, hpath, rfl⟩
    · exact ⟨k', List.mem_cons_of_mem _ hmem', hpath, hd⟩

theorem handles {e : CheckpointEvent} (h : Recorded cs history answers) (hs : Handles cs e cs') :
    Recorded cs' (e :: history) answers := by
  cases hs with
  | create hk hc hfresh =>
    refine ((h.perm List.perm_middle).create hk hc hfresh).perm ?_
    rw [List.map_append]
    exact List.perm_middle.symm
  | destroy hk => exact ((h.perm List.perm_middle).destroy hk).perm List.perm_middle.symm

/-- Another answer -/
theorem answered (h : Recorded cs history answers) {i : Tid} {e : Event Reply Exc}
    (hcreation : ∀ {ds s f c}, e = ⟨.checkpointCreate ds s f, .ok c⟩ →
      c ≠ "" ∧ ∃ k ∈ cs, k.owner = i ∧ k.path = c)
    (hdestruction : ∀ {c}, e = ⟨.checkpointDestroy c, .ok ()⟩ →
      ∃ k ∈ cs, k.path = c ∧ k.phase = .destroyed) :
    Recorded cs history (Function.update answers i (answers i ++ [e])) := by
  have hmem : ∀ {j e'}, e' ∈ Function.update answers i (answers i ++ [e]) j →
      e' ∈ answers j ∨ (j = i ∧ e' = e) := by
    intro j e' he'
    by_cases hj : j = i
    · subst hj
      rw [Function.update_self, List.mem_append, List.mem_singleton] at he'
      exact he'.imp_right fun he' => ⟨rfl, he'⟩
    · rw [Function.update_of_ne hj] at he'
      exact .inl he'
  refine { h with creation := fun hc => ?_, destruction := fun hd => ?_ }
  · rcases hmem hc with hc | ⟨rfl, he⟩
    · exact h.creation hc
    · exact hcreation he.symm
  · rcases hmem hd with hd | ⟨rfl, he⟩
    · exact h.destruction hd
    · exact hdestruction he.symm

/-- **A checkpoint that a task created, and that was destroyed on request, was destroyed before
NetworkManager created another one.** -/
theorem directly (h : Recorded cs history answers) {i j : Tid} {ds : List String} {s f : ℕ}
    {c : String} (hcreate : ⟨.checkpointCreate ds s f, .ok c⟩ ∈ answers i)
    (hdestroy : ⟨.checkpointDestroy c, .ok ()⟩ ∈ answers j) :
    ∃ after before, history = after ++ .destroyed c :: .created i c :: before := by
  obtain ⟨hc, k, hk, rfl, rfl⟩ := h.creation hcreate
  obtain ⟨k', hk', hpath, hd⟩ := h.destruction hdestroy
  obtain rfl : k' = k := by
    by_contra hne
    exact hc (h.apart.forall hk hk' (Ne.symm hne) hpath.symm)
  exact h.destroyed k' hk' hd

end Recorded

/-! ### Every reachable world -/

variable {rt : Runtime} {w w' : World} {answers : Tid → List (Event Reply Exc)}

theorem recorded_issue (i : Tid) (c : Call) (h : Recorded w.checkpoints w.history answers) :
    Recorded (w.issue i c).checkpoints (w.issue i c).history answers := by
  cases c with
  | checkpointCreate ds s f => exact h.ask i
  | addAndActivateConnection2 _ _ _ _ => exact h.map fun _ => Checkpoint.like_activate i
  | activateConnection _ _ _ => exact h.map fun _ => Checkpoint.like_activate i
  | checkpointDestroy c =>
    exact h.map fun _ => Checkpoint.like_move (.inl rfl) (by simp) (by simp)
  | checkpointRollback c =>
    exact h.map fun _ => Checkpoint.like_move (.inl rfl) (by simp) (by simp)
  | _ => exact h

theorem recorded_apply (i : Tid) (c : Call) (r : Except Exc (Reply c))
    (h : Recorded w.checkpoints w.history answers) :
    Recorded (w.apply rt i c r).checkpoints (w.apply rt i c r).history answers := by
  show Recorded (w.receive i c r).checkpoints (w.receive i c r).history answers
  unfold World.receive
  split <;> try split_ifs
  all_goals first
    | exact h
    | exact h.map fun _ => Checkpoint.like_refuse i
    | exact h.map fun _ => Checkpoint.like_verify i
    | exact h.map fun _ => Checkpoint.like_move (.inr rfl) (by simp) (by simp)
    | (cases ‹Lock› <;> exact h)

theorem recorded_tau (h : Recorded w.checkpoints w.history answers) (htau : World.Tau w w') :
    Recorded w'.checkpoints w'.history answers := by
  cases htau with
  | time _ => exact h
  | handles hs => exact h.handles hs

/-- **In every reachable world the checkpoints and the answers are as the history has them.** -/
theorem recorded_of_reach {α : Type} {new : Proc α → Prop} {clock : ℚ}
    {a : Config Reply Exc α (World × (Tid → List (Event Reply Exc)))}
    (h : (manager rt).traced.Reach new (.init clock, fun _ => []) a) :
    Recorded a.world.1.checkpoints a.world.1.history a.world.2 := by
  refine Env.reach_keeps (P := fun w : World × (Tid → List (Event Reply Exc)) =>
    Recorded w.1.checkpoints w.1.history w.2) _ ?_ ?_ ?_ ?_ .init h
  · exact fun i c w hw => recorded_issue i c hw
  · intro i c w hy hw
    refine (recorded_apply i c _ hw).answered (fun he => ?_) fun he => ?_
    · obtain rfl := congrArg Event.call he
      cases hy
    · obtain rfl := congrArg Event.call he
      cases hy
  · intro i c r w hlegal hw
    refine (recorded_apply i c r hw).answered (fun he => ?_) fun he => ?_
    · cases he
      obtain ⟨k, hk, hlive⟩ := List.any_eq_true.1 (show w.1.checkpoints.any _ = true from hlegal)
      obtain ⟨⟨howner, hphase⟩, hpath⟩ : (k.owner = i ∧ k.phase = .live) ∧ k.path = _ := by
        simpa using hlive
      exact ⟨hpath ▸ hw.named k hk (.inl hphase), k, hk, howner, hpath⟩
    · cases he
      obtain ⟨k, hfound, hdestroyed⟩ := (Option.any_eq_true _ _).1
        (show (w.1.checkpoints.find? _).any _ = true from hlegal)
      refine ⟨k, List.mem_of_find?_eq_some hfound, ?_, of_decide_eq_true hdestroyed⟩
      simpa using List.find?_some hfound
  · intro w w' htau hw
    rw [htau.2]
    exact recorded_tau hw htau.1

end ApplianceAdmin.Network
