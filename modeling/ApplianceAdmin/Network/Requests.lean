import ApplianceAdmin.Network.Checkpoints
import ApplianceAdmin.Network.Transaction
import ApplianceAdmin.Server

/-!
# Transactions that share a manager

Any number of `connect` and `activate_profile` requests at once, each of which may be cancelled.

* `World.kept`: the answers after which a request still decides about its checkpoint;
* `sharing`: what the requests rely on, and the proof that they keep to it;
* `agree_next`: a request in the shared world does what `Txn.monitor` sees;
* `free_settled`: while the lock is free, every checkpoint has been decided about.
-/

namespace ApplianceAdmin.Network

open Async Async.Prog Async.Monitor Python

variable {rt : Runtime} {i j : Tid} {w w' : World}

namespace World

/-- The failures that a request survives with its checkpoint decided about: while it has one, an
`Exception`, and that only while it asks for the checkpoint or once it has asked for the
activation. -/
def kept (i : Tid) (c : Call) (r : Except Exc (Reply c)) (w : World) : Bool :=
  match r with
  | .ok _ => true
  | .error x => w.checkpoints.all fun k =>
      k.owner ≠ i || k.settled || (x.isException && (k.phase = .asked || k.activated))

/-! ### What reading leaves alone -/

@[simp] theorem issue_connectionLock (c : Call) :
    (w.issue i c).connectionLock = w.connectionLock := by
  cases c <;> rfl

theorem apply_connectionLock {c : Call} (hc : ∀ l, c ≠ .acquire l ∧ c ≠ .release l)
    (r : Except Exc (Reply c)) : (w.apply rt i c r).connectionLock = w.connectionLock := by
  unfold apply receive
  split <;> try split_ifs
  all_goals first | rfl | exact absurd rfl (hc _).1 | exact absurd rfl (hc _).2

theorem apply_read {c : Call} (hc : c.isRead = true) (r : Except Exc (Reply c)) :
    (w.apply rt i c r).connectionLock = w.connectionLock ∧
      (w.apply rt i c r).checkpoints = w.checkpoints := by
  unfold apply receive
  split <;> try split_ifs
  all_goals first | exact ⟨rfl, rfl⟩ | simp [Call.isRead] at hc

end World

/-- The manager while nothing goes wrong between a checkpoint and the decision about it -/
def guarded (rt : Runtime) : Env Reply Exc World := (manager rt).restrict World.kept

/-! ### The discipline -/

/-- What a request relies on: the lock is its own or not, and while it is, only NetworkManager does
anything about checkpoints. -/
def Relies (i : Tid) (w w' : World) : Prop :=
  (w'.connectionLock = some i ↔ w.connectionLock = some i) ∧
    (w.connectionLock = some i → Handled w.checkpoints w'.checkpoints)

/-- When request `i` may make a call -/
def Allowed (i : Tid) (w : World) : Call → Prop
  | .acquire .connection => w.connectionLock ≠ some i
  | .release .connection => w.connectionLock = some i ∧ Quiet w.checkpoints
  | .checkpointCreate _ _ _ => w.connectionLock = some i ∧ Quiet w.checkpoints
  | .addAndActivateConnection2 _ _ _ _ => w.connectionLock = some i
  | .activateConnection _ _ _ => w.connectionLock = some i
  | .checkConnectivity => w.connectionLock = some i
  | .checkpointDestroy _ => w.connectionLock = some i ∧
      ∀ k ∈ w.checkpoints, k.phase = .live → k.verified = true
  | .checkpointRollback _ => w.connectionLock = some i
  | c => c.isRead = true

namespace Relies

theorem of_eq (hlock : w'.connectionLock = w.connectionLock)
    (hcs : w'.checkpoints = w.checkpoints) : Relies i w w' :=
  ⟨by rw [hlock], fun _ => by rw [hcs]⟩

/-- What the holder of the lock does is nothing to the others, as long as nobody else gets the
lock. -/
theorem of_holder (hw : w.connectionLock = some i)
    (hw' : w'.connectionLock = some i ∨ w'.connectionLock = none) (hji : j ≠ i) : Relies j w w' := by
  obtain ⟨hne, hne'⟩ := not_held_of_holder hw hw' hji
  exact ⟨iff_of_false hne' hne, fun h => absurd h hne⟩

end Relies

/-- A call that is allowed reads, or has to do with the lock, or is made by its holder. -/
theorem Allowed.cases {c : Call} (h : Allowed i w c) :
    c.isRead = true ∨ c = .acquire .connection ∨ c = .release .connection ∨
      (w.connectionLock = some i ∧ ∀ l, c ≠ .acquire l ∧ c ≠ .release l) := by
  cases c with
  | acquire l => cases l <;> simp_all [Allowed, Call.isRead]
  | release l => cases l <;> simp_all [Allowed, Call.isRead]
  | _ => simp_all [Allowed, Call.isRead]

/-- The requests as they share the world -/
def sharing (rt : Runtime) : Discipline (guarded rt) where
  inv w := Shape w.connectionLock w.checkpoints
  rely := Relies
  idle i w := w.connectionLock ≠ some i
  pre i w c := Shape w.connectionLock w.checkpoints ∧ Allowed i w c
  rely_refl i w := .of_eq rfl rfl
  rely_trans h h' := ⟨h'.1.trans h.1, fun hw => (h.2 hw).trans (h'.2 (h.1.2 hw))⟩
  idle_rely h hw := fun hw' => hw (h.1.1 hw')
  inv_issue := by
    rintro i w c - ⟨hshape, hc⟩
    show Shape (w.issue i c).connectionLock (w.issue i c).checkpoints
    rw [World.issue_connectionLock]
    cases c with
    | checkpointCreate ds s f => exact .head (.inl rfl) hc.1 hc.2
    | addAndActivateConnection2 _ _ _ _ => exact hshape.activate i
    | activateConnection _ _ _ => exact hshape.activate i
    | checkpointDestroy c => exact hshape.destroying c hc.2
    | checkpointRollback c => exact hshape.rolledBack c
    | _ => exact hshape
  keeps_issue := by
    rintro i j w c ⟨-, hc⟩ hji
    show Relies j w (w.issue i c)
    rcases hc.cases with hread | rfl | rfl | ⟨hlock, -⟩
    · rw [World.issue_read hread]
      exact .of_eq rfl rfl
    · exact .of_eq rfl rfl
    · exact .of_eq rfl rfl
    · exact .of_holder hlock (.inl (by rw [World.issue_connectionLock, hlock])) hji
  keeps_answer := by
    rintro i j w c hy ⟨-, hc⟩ hji
    show Relies j (w.issue i c) ((w.issue i c).apply rt i c _)
    rcases hc.cases with hread | rfl | rfl | ⟨hlock, hother⟩
    · obtain ⟨hl, hcs⟩ := @World.apply_read rt i (w.issue i c) c hread
        ((guarded rt).answer i c (w.issue i c))
      exact .of_eq hl hcs
    · cases hy
    · exact .of_holder hc.1 (.inr rfl) hji
    · refine .of_holder (by rw [World.issue_connectionLock, hlock]) (.inl ?_) hji
      rw [World.apply_connectionLock hother, World.issue_connectionLock, hlock]
  keeps_reply := by
    rintro i j w c w' r hy ⟨-, hc⟩ hrely - hlegal hji
    show Relies j w' (w'.apply rt i c r)
    rcases hc.cases with hread | rfl | rfl | ⟨hlock, hother⟩
    · obtain ⟨hl, hcs⟩ := @World.apply_read rt i w' c hread r
      exact .of_eq hl hcs
    · cases r with
      | error x => exact .of_eq rfl rfl
      | ok a =>
        have hfree : w'.connectionLock = none :=
          of_decide_eq_true (Bool.and_eq_true_iff.1 hlegal).1
        refine ⟨iff_of_false ?_ (by simp [hfree]), by simp [hfree]⟩
        intro h
        exact hji (Option.some.inj h).symm
    · cases hy
    · have hlock' := hrely.1.2 (show (w.issue i c).connectionLock = some i by
        rw [World.issue_connectionLock, hlock])
      refine .of_holder hlock' (.inl ?_) hji
      rw [World.apply_connectionLock hother, hlock']
  tau_inv := by
    rintro w w' hw ht
    cases ht with
    | time _ => exact hw
    | handles h => exact hw.handles h
  tau_rely := by
    rintro w w' i - ht
    cases ht with
    | time _ => exact .of_eq rfl rfl
    | handles h => exact ⟨Iff.rfl, fun _ => .single ⟨_, h⟩⟩

/-! ### One request among the others -/

/-- A transaction without an open checkpoint -/
structure Txn.Decided (t : Txn) : Prop where
  closed : t.isOpen = false
  found : t.lookupFailed = false
  asked : t.checkpoint = none ∨ t.activated = true

/-- The transaction `t` of request `i`, as the world shows it -/
inductive View (i : Tid) (w : World) : Txn → Prop
  | outside {t : Txn} : t.held = false → w.connectionLock ≠ some i → t.Decided → View i w t
  | quiet {t : Txn} : t.held = true → w.connectionLock = some i → t.Decided →
      Quiet w.checkpoints → View i w t
  | live {t : Txn} {k : Checkpoint} {before : List Checkpoint} : t.held = true →
      w.connectionLock = some i → t.isOpen = true → t.checkpoint = some k.path →
      w.checkpoints = k :: before → k.phase = .live → k.owner = i → k.activated = t.activated →
      k.verified = t.verified → Quiet before → View i w t

namespace View

variable {t : Txn} {c : Call}

theorem congr (h : View i w t) (hlock : w'.connectionLock = w.connectionLock)
    (hcs : w'.checkpoints = w.checkpoints) : View i w' t := by
  cases h with
  | outside h₁ h₂ h₃ => exact .outside h₁ (by rwa [hlock]) h₃
  | quiet h₁ h₂ h₃ h₄ => exact .quiet h₁ (by rw [hlock, h₂]) h₃ (by rwa [hcs])
  | live h₁ h₂ h₃ h₄ h₅ h₆ h₇ h₈ h₉ h₀ =>
    exact .live h₁ (by rw [hlock, h₂]) h₃ h₄ (by rw [hcs, h₅]) h₆ h₇ h₈ h₉ h₀

/-- What happens while the request waits does not change the view. -/
theorem rely (h : View i w t) (hrely : Relies i w w') : View i w' t := by
  cases h with
  | outside h₁ h₂ h₃ => exact .outside h₁ (fun hw => h₂ (hrely.1.1 hw)) h₃
  | quiet h₁ h₂ h₃ h₄ =>
    have hcs := (hrely.2 h₂).of_quiet h₄
    exact .quiet h₁ (hrely.1.2 h₂) h₃ (by rwa [hcs])
  | live h₁ h₂ h₃ h₄ h₅ h₆ h₇ h₈ h₉ h₀ =>
    have hhandled := hrely.2 h₂
    rw [h₅] at hhandled
    exact .live h₁ (hrely.1.2 h₂) h₃ h₄ (hhandled.of_live h₀ h₆) h₆ h₇ h₈ h₉ h₀

theorem shape (h : View i w t) (hheld : t.held = true) :
    Shape w.connectionLock w.checkpoints := by
  cases h with
  | outside h₁ _ _ => simp [hheld] at h₁
  | quiet _ _ _ h₄ => exact .quiet h₄
  | live _ h₂ _ _ h₅ h₆ h₇ _ _ h₀ =>
    rw [h₅]
    exact .head (.inr (.inl h₆)) (by rw [h₂, h₇]) h₀

theorem allowed (h : View i w t) (hc : t.pre c) : Allowed i w c := by
  have hlock : t.held = true → w.connectionLock = some i := by
    intro hheld
    cases h with
    | outside h₁ _ _ => simp [hheld] at h₁
    | quiet _ h₂ _ _ => exact h₂
    | live _ h₂ _ _ _ _ _ _ _ _ => exact h₂
  have hquiet : t.held = true → t.isOpen = false → Quiet w.checkpoints := by
    intro hheld hopen
    cases h with
    | outside h₁ _ _ => simp [hheld] at h₁
    | quiet _ _ _ h₄ => exact h₄
    | live _ _ h₃ _ _ _ _ _ _ _ => simp [hopen] at h₃
  cases c with
  | acquire l =>
    cases l with
    | scan => exact hc
    | connection =>
      obtain rfl : t = .init := hc
      cases h with
      | outside _ h₂ _ => exact h₂
      | quiet h₁ _ _ _ => cases h₁
      | live h₁ _ _ _ _ _ _ _ _ _ => cases h₁
  | release l =>
    cases l with
    | scan => exact hc
    | connection => exact ⟨hlock hc.1, hquiet hc.1 hc.2⟩
  | checkpointCreate ds s f =>
    obtain rfl : t = { Txn.init with held := true } := hc
    exact ⟨hlock rfl, hquiet rfl rfl⟩
  | addAndActivateConnection2 _ _ _ _ => exact hlock hc.1
  | activateConnection _ _ _ => exact hlock hc.1
  | checkConnectivity => exact hlock hc.1
  | checkpointDestroy c =>
    refine ⟨hlock hc.1, fun k hk hlive => ?_⟩
    cases h with
    | outside h₁ _ _ => simp [hc.1] at h₁
    | quiet _ _ _ h₄ => exact absurd hlive (Checkpoint.phase_ne (h₄ k hk)).2.1
    | live _ _ _ _ h₅ _ _ _ h₉ h₀ =>
      rw [h₅] at hk
      rcases List.mem_cons.1 hk with rfl | hk
      · rw [h₉, hc.2.2.2.2]
      · exact absurd hlive (Checkpoint.phase_ne (h₀ k hk)).2.1
  | checkpointRollback c => exact hlock hc.1
  | _ => exact hc

end View

/-! ### Its calls, kind by kind -/

/-- Request `i` at transaction `t` -/
structure Agree (i : Tid) (w : World) (t : Txn) : Prop where
  shape : Shape w.connectionLock w.checkpoints
  view : View i w t

/-- The answer `r` to the call `c` of request `i` is one that its transaction `t` may get, and
both go on together. -/
def Follows (rt : Runtime) (i : Tid) (w : World) (t : Txn) (c : Call) (r : Except Exc (Reply c)) :
    Prop :=
  t.legal ⟨c, r⟩ ∧ Agree i (w.apply rt i c r) (t.see ⟨c, r⟩)

section Kinds

variable {t : Txn} {c : Call} {r : Except Exc (Reply c)} {k : Checkpoint}
  {before : List Checkpoint}

/-- What a failure with a checkpoint under way is like -/
theorem of_kept {x : Exc} (h : w.kept i c (.error x : Except Exc (Reply c)) = true)
    (hk : k ∈ w.checkpoints) (hi : k.owner = i) (hs : k.settled = false) :
    x.isException = true ∧ (k.phase = .asked ∨ k.activated = true) := by
  have := List.all_eq_true.1 h k hk
  simpa [hi, hs] using this

theorem settled_eq_false (h : k.phase = .asked ∨ k.phase = .live ∨ k.phase = .destroying) :
    k.settled = false := by
  by_contra hs
  obtain ⟨h₁, h₂, h₃, -⟩ := Checkpoint.phase_ne (by simpa using hs)
  exact h.elim h₁ fun h => h.elim h₂ h₃

theorem decided_of_init : Txn.Decided .init := ⟨rfl, rfl, .inl rfl⟩

/-- While the checkpoint is live, only `Exception`s are raised. -/
theorem legal_of_kept (hopen : t.isOpen = true → ∃ k ∈ w.checkpoints, k.owner = i ∧
    k.settled = false) (hkept : w.kept i c r = true)
    (hcreate : ∀ ds s f, c ≠ .checkpointCreate ds s f) : t.legal ⟨c, r⟩ := by
  intro x hr hx
  refine ⟨hcreate, fun ho => ?_⟩
  obtain ⟨k, hk, hi, hs⟩ := hopen ho
  rw [show r = .error x from hr] at hkept
  rw [(of_kept hkept hk hi hs).1] at hx
  cases hx

theorem View.open_mem (h : View i w t) (hopen : t.isOpen = true) :
    ∃ k ∈ w.checkpoints, k.owner = i ∧ k.settled = false := by
  cases h with
  | outside _ _ h₃ => simp [h₃.closed] at hopen
  | quiet _ _ h₃ _ => simp [h₃.closed] at hopen
  | @live k before _ _ _ _ h₅ h₆ h₇ _ _ _ =>
    exact ⟨k, by simp [h₅], h₇, settled_eq_false (.inr (.inl h₆))⟩

theorem follows_read (hc : c.isRead = true) (hview : View i w t)
    (hshape : Shape w.connectionLock w.checkpoints) (hkept : w.kept i c r = true) :
    Follows rt i w t c r := by
  have hlegal : t.legal ⟨c, r⟩ := legal_of_kept hview.open_mem hkept fun _ _ _ h => by
    rw [h] at hc
    cases hc
  have hsee : t.see ⟨c, r⟩ = t := by
    cases r with
    | ok a => cases c <;> simp_all [Txn.see, Call.isRead]
    | error x =>
      refine Txn.see_read hc ?_ _
      cases hview with
      | outside _ _ h₃ => exact h₃.asked
      | quiet _ _ h₃ _ => exact h₃.asked
      | @live k before _ _ _ _ h₅ h₆ h₇ h₈ _ _ =>
        have := of_kept hkept (k := k) (by simp [h₅]) h₇ (settled_eq_false (.inr (.inl h₆)))
        rw [h₆, h₈] at this
        exact .inr (this.2.resolve_left (by simp))
  obtain ⟨hlock, hcs⟩ := @World.apply_read rt i w c hc r
  refine ⟨hlegal, ?_, ?_⟩
  · rwa [hlock, hcs]
  · rw [hsee]
    exact hview.congr hlock hcs

theorem follows_acquire {r : Except Exc Unit} (hview : View i w .init)
    (hshape : Shape w.connectionLock w.checkpoints)
    (hlegal : w.legal i (.acquire .connection) r = true) :
    Follows rt i w .init (.acquire .connection) r := by
  refine ⟨fun x _ _ => ⟨fun _ _ _ h => (by cases h), fun h => (by cases h)⟩, ?_⟩
  cases r with
  | error x => exact ⟨hshape, hview.congr rfl rfl⟩
  | ok a =>
    have hfree : w.connectionLock = none := of_decide_eq_true hlegal
    have hquiet : Quiet w.checkpoints := by
      rw [hfree] at hshape
      exact hshape.quiet_of_free
    exact ⟨.quiet hquiet, .quiet rfl rfl ⟨rfl, rfl, .inl rfl⟩ hquiet⟩

theorem follows_release {r : Except Exc Unit} (hview : View i w t) (hheld : t.held = true)
    (hopen : t.isOpen = false) (hr : r = .ok ()) :
    Follows rt i w t (.release .connection) r := by
  subst hr
  refine ⟨fun x h => (by cases h), ?_⟩
  cases hview with
  | outside h₁ _ _ => simp [hheld] at h₁
  | live _ _ h₃ _ _ _ _ _ _ _ => simp [hopen] at h₃
  | quiet _ _ h₃ h₄ =>
    exact ⟨.quiet h₄, .outside rfl (fun h => (by cases h)) ⟨h₃.closed, h₃.found, h₃.asked⟩⟩

theorem follows_create {ds : List String} {s f : ℕ} {r : Except Exc String}
    (hlock : w.connectionLock = some i) (hquiet : Quiet before)
    (hcs : w.checkpoints = .ask i :: before ∨
      ∃ c, w.checkpoints = { Checkpoint.ask i with path := c, phase := .live } :: before)
    (hlegal : w.legal i (.checkpointCreate ds s f) r = true)
    (hkept : w.kept i (.checkpointCreate ds s f) r = true) :
    Follows rt i w { Txn.init with held := true } (.checkpointCreate ds s f) r := by
  have hexc : ∀ x, r = .error x → x.isException = true := by
    rintro x rfl
    rcases hcs with hcs | ⟨c, hcs⟩
    · exact (of_kept hkept (k := .ask i) (by simp [hcs]) rfl (settled_eq_false (.inl rfl))).1
    · exact (of_kept hkept (k := { Checkpoint.ask i with path := c, phase := .live })
        (by simp [hcs]) rfl (settled_eq_false (.inr (.inl rfl)))).1
  refine ⟨fun x hx hcancel => ?_, ?_⟩
  · rw [hexc x hx] at hcancel
    cases hcancel
  have hnot : ∀ k ∈ before, k.phase ≠ .asked ∧ k.phase ≠ .live := fun k hk =>
    ⟨(Checkpoint.phase_ne (hquiet k hk)).1, (Checkpoint.phase_ne (hquiet k hk)).2.1⟩
  cases r with
  | ok c =>
    obtain ⟨k, hk, hlive⟩ := List.any_eq_true.1 hlegal
    simp only [Bool.and_eq_true, decide_eq_true_eq] at hlive
    obtain ⟨⟨-, hphase⟩, hpath⟩ := hlive
    rcases hcs with hcs | ⟨c', hcs⟩
    · rw [hcs] at hk
      rcases List.mem_cons.1 hk with rfl | hk
      · cases hphase
      · exact absurd hphase (hnot k hk).2
    · rw [hcs] at hk
      rcases List.mem_cons.1 hk with rfl | hk
      · subst hpath
        have hcs' : (w.apply rt i (.checkpointCreate ds s f) (.ok c')).checkpoints =
            { Checkpoint.ask i with path := c', phase := .live } :: before := hcs
        refine ⟨?_, .live rfl hlock rfl rfl hcs' rfl rfl rfl rfl hquiet⟩
        rw [hcs']
        exact .head (.inr (.inl rfl)) hlock hquiet
      · exact absurd hphase (hnot k hk).2
  | error x =>
    have hasked : w.checkpoints = .ask i :: before := by
      rcases hcs with hcs | ⟨c', hcs⟩
      · exact hcs
      · have hany : w.checkpoints.any (fun k => k.owner = i && k.phase = .asked) = true := by
          cases x with
          | cancelled => cases hexc _ rfl
          | _ => exact hlegal
        obtain ⟨k, hk, hphase⟩ := List.any_eq_true.1 hany
        simp only [Bool.and_eq_true, decide_eq_true_eq] at hphase
        rw [hcs] at hk
        rcases List.mem_cons.1 hk with rfl | hk
        · cases hphase.2
        · exact absurd hphase.2 (hnot k hk).1
    have hrefused : Quiet (w.apply rt i (.checkpointCreate ds s f) (.error x)).checkpoints := by
      have hmap : (w.apply rt i (.checkpointCreate ds s f) (.error x)).checkpoints =
          (Checkpoint.ask i).refuse i :: before := by
        cases x with
        | cancelled => cases hexc _ rfl
        | _ =>
          show w.checkpoints.map (Checkpoint.refuse i) = _
          rw [hasked, List.map_cons, hquiet.map_eq fun _ => Checkpoint.refuse_settled i]
      rw [hmap]
      refine List.forall_mem_cons.2 ⟨?_, hquiet⟩
      simp [Checkpoint.refuse, Checkpoint.ask, Checkpoint.settled]
    have hlock' : (w.apply rt i (.checkpointCreate ds s f) (.error x)).connectionLock = some i := by
      rw [World.apply_connectionLock (by simp), hlock]
    exact ⟨.quiet hrefused, .quiet rfl hlock' ⟨rfl, rfl, .inl rfl⟩ hrefused⟩

/-- A live checkpoint stays live under an answer that changes its flags only. -/
theorem follows_live {t' : Txn} {k' : Checkpoint} (hlock : w.connectionLock = some i)
    (hcs : w.checkpoints = k :: before) (hlive : k.phase = .live) (howner : k.owner = i)
    (hquiet : Quiet before) (hkept : w.kept i c r = true)
    (hc : ∀ ds s f, c ≠ .checkpointCreate ds s f) (hl : ∀ l, c ≠ .acquire l ∧ c ≠ .release l)
    (hsee : (∀ x, r = .error x → x.isException = true) → t.see ⟨c, r⟩ = t')
    (hcs' : (w.apply rt i c r).checkpoints = k' :: before)
    (hk : k'.phase = .live ∧ k'.owner = i ∧ k'.activated = t'.activated ∧
      k'.verified = t'.verified)
    (ht : t'.held = true ∧ t'.isOpen = true ∧ t'.checkpoint = some k'.path) :
    Follows rt i w t c r := by
  have hmem : ∃ k ∈ w.checkpoints, k.owner = i ∧ k.settled = false :=
    ⟨k, by simp [hcs], howner, settled_eq_false (.inr (.inl hlive))⟩
  have hexc : ∀ x, r = .error x → x.isException = true := by
    rintro x hr
    obtain ⟨k, hk, hi, hs⟩ := hmem
    rw [hr] at hkept
    exact (of_kept hkept hk hi hs).1
  have hlock' : (w.apply rt i c r).connectionLock = some i := by
    rw [World.apply_connectionLock hl, hlock]
  refine ⟨legal_of_kept (fun _ => hmem) hkept hc, ?_, ?_⟩
  · rw [hcs', hlock']
    exact .head (.inr (.inl hk.1)) (by rw [hk.2.1]) hquiet
  · rw [hsee hexc]
    exact .live ht.1 hlock' ht.2.1 ht.2.2 hcs' hk.1 hk.2.1 hk.2.2.1 hk.2.2.2 hquiet

/-- Asking for the activation -/
theorem follows_activate (hview : View i w t) (hheld : t.held = true) (hopen : t.isOpen = true)
    (hrely : Relies i (w.issue i c) w') (hkept : w'.kept i c r = true)
    (hissue : (w.issue i c).checkpoints = w.checkpoints.map (.activate i))
    (hsee : t.see ⟨c, r⟩ = { t with activated := true })
    (happly : (w'.apply rt i c r).checkpoints = w'.checkpoints)
    (hc : ∀ ds s f, c ≠ .checkpointCreate ds s f) (hl : ∀ l, c ≠ .acquire l ∧ c ≠ .release l) :
    Follows rt i w' t c r := by
  cases hview with
  | outside h₁ _ _ => simp [hheld] at h₁
  | quiet _ _ h₃ _ => exact absurd h₃.closed (by simp [hopen])
  | @live k before _ h₂ _ h₄ h₅ h₆ h₇ _ h₉ h₀ =>
    have hlock : (w.issue i c).connectionLock = some i := by
      rw [World.issue_connectionLock, h₂]
    have hhead : k.activate i = { k with activated := true } := by
      simp [Checkpoint.activate, h₆, h₇]
    have hhandled := hrely.2 hlock
    rw [hissue, h₅, List.map_cons, h₀.map_eq fun _ => Checkpoint.activate_settled i, hhead]
      at hhandled
    have hcs := Handled.of_live (k := { k with activated := true }) h₀ h₆ hhandled
    exact follows_live (hrely.1.2 hlock) hcs h₆ h₇ h₀ hkept hc hl (fun _ => hsee)
      (happly.trans hcs) ⟨h₆, h₇, rfl, h₉⟩ ⟨hheld, hopen, h₄⟩

theorem follows_checkConnectivity {r : Except Exc ℤ} (hview : View i w t) (hheld : t.held = true)
    (hopen : t.isOpen = true) (hact : t.activated = true)
    (hkept : w.kept i .checkConnectivity r = true) : Follows rt i w t .checkConnectivity r := by
  cases hview with
  | outside h₁ _ _ => simp [hheld] at h₁
  | quiet _ _ h₃ _ => exact absurd h₃.closed (by simp [hopen])
  | @live k before _ h₂ _ h₄ h₅ h₆ h₇ h₈ h₉ h₀ =>
    have hlive := @follows_live rt i w t .checkConnectivity r k before
    have hsame : (w.apply rt i .checkConnectivity r).checkpoints = k :: before →
        ((∀ x, r = .error x → x.isException = true) → t.see ⟨.checkConnectivity, r⟩ = t) →
        Follows rt i w t .checkConnectivity r := fun hcs hsee =>
      hlive h₂ h₅ h₆ h₇ h₀ hkept (by simp) (by simp) hsee hcs ⟨h₆, h₇, h₈, h₉⟩ ⟨hheld, hopen, h₄⟩
    cases r with
    | error x => exact hsame h₅ fun hx => by cases x <;> simp [Txn.see, hact]
    | ok n =>
      by_cases hn : n ∈ [1, 2, 3]
      · refine hsame ?_ fun _ => by simp only [Txn.see, if_pos hn]
        show (if n ∈ [1, 2, 3] then w else _ : World).checkpoints = _
        rw [if_pos hn, h₅]
      · refine @hlive { t with verified := true } { k with verified := true } h₂ h₅ h₆ h₇ h₀ hkept
          (by simp) (by simp) (fun _ => by simp only [Txn.see, if_neg hn]) ?_
          ⟨h₆, h₇, h₈, rfl⟩ ⟨hheld, hopen, h₄⟩
        have hhead : k.verify i = { k with verified := true } := by
          simp [Checkpoint.verify, h₆, h₇]
        show (if n ∈ [1, 2, 3] then w else _ : World).checkpoints = _
        rw [if_neg hn]
        show w.checkpoints.map (Checkpoint.verify i) = _
        rw [h₅, List.map_cons, h₀.map_eq fun _ => Checkpoint.verify_settled i, hhead]

theorem follows_destroy {p : String} {r : Except Exc Unit}
    (hlock : w.connectionLock = some i) (hquiet : Quiet before) (howner : k.owner = i)
    (hlive : k.phase = .live) (hpath : k.path = p) (hactivated : k.activated = t.activated)
    (hverified : k.verified = t.verified) (hpre : t.pre (.checkpointDestroy p))
    (hcs : w.checkpoints = { k with phase := .destroying } :: before ∨
      w.checkpoints = { k with phase := .destroyed } :: before)
    (hlegal : w.legal i (.checkpointDestroy p) r = true)
    (hkept : w.kept i (.checkpointDestroy p) r = true) :
    Follows rt i w t (.checkpointDestroy p) r := by
  obtain ⟨hheld, hcp, hopen, hact, hver⟩ := hpre
  have hfound : t.lookupFailed = false := by
    simp only [Txn.isOpen, Bool.and_eq_true, Bool.not_eq_true'] at hopen
    exact hopen.1.1.1.2
  have hdone : Quiet ({ k with phase := .destroyed } :: before) :=
    List.forall_mem_cons.2
      ⟨Checkpoint.settled_iff.2 (.inl ⟨rfl, by rw [← hver]; exact hverified⟩), hquiet⟩
  refine ⟨fun x _ _ => ⟨fun _ _ _ h => (by cases h), fun _ => rfl⟩, ?_⟩
  have hlock' : (w.apply rt i (.checkpointDestroy p) r).connectionLock = some i := by
    rw [World.apply_connectionLock (by simp), hlock]
  cases r with
  | ok a =>
    have hcs' : (w.apply rt i (.checkpointDestroy p) (.ok a)).checkpoints =
        { k with phase := .destroyed } :: before := by
      show w.checkpoints = _
      rcases hcs with hcs | hcs
      · have hdone : (w.checkpoints.find? fun k => k.path = p).any (·.phase = .destroyed) = true :=
          hlegal
        rw [hcs, List.find?_cons_of_pos (by simp [hpath])] at hdone
        simp at hdone
      · exact hcs
    have hsee : t.see ⟨.checkpointDestroy p, .ok a⟩ = { t with destroyed := true } := by
      simp [Txn.see, hcp]
    refine ⟨by rw [hcs']; exact .quiet hdone, ?_⟩
    rw [hsee]
    exact .quiet hheld hlock' ⟨by simp [Txn.isOpen], hfound, .inr hact⟩ (by rwa [hcs'])
  | error x =>
    by_cases hx : x.isException = true
    · -- NetworkManager has not destroyed it
      have hall : w.checkpoints.all (fun k => k.path ≠ p || k.phase ≠ .destroyed) = true := by
        cases x with
        | cancelled => cases hx
        | _ => exact hlegal
      have hcs₁ : w.checkpoints = { k with phase := .destroying } :: before := by
        rcases hcs with hcs | hcs
        · exact hcs
        · rw [hcs, List.all_cons] at hall
          simp [hpath] at hall
      have hcs' : (w.apply rt i (.checkpointDestroy p) (.error x)).checkpoints = k :: before := by
        have hback : { k with phase := .destroying }.move p .destroying .live = k := by
          simp only [Checkpoint.move, hpath, and_self, if_true]
          rw [← hlive, ← hpath]
        cases x with
        | cancelled => cases hx
        | _ =>
          show w.checkpoints.map (Checkpoint.move p .destroying .live) = _
          rw [hcs₁, List.map_cons, hquiet.map_eq fun _ => Checkpoint.move_settled (.inr rfl), hback]
      have hsee : t.see ⟨.checkpointDestroy p, .error x⟩ = t := by
        cases x with
        | cancelled => cases hx
        | _ => simp [Txn.see, hact]
      refine ⟨?_, ?_⟩
      · rw [hcs', hlock']
        exact .head (.inr (.inl hlive)) (by rw [howner]) hquiet
      · rw [hsee]
        exact .live hheld hlock' hopen (by rw [hcp, hpath]) hcs' hlive howner hactivated hverified
          hquiet
    · -- it was destroyed before the cancellation
      obtain rfl := Exc.isException_eq_false.1 (by simpa using hx)
      have hcs' : w.checkpoints = { k with phase := .destroyed } :: before := by
        rcases hcs with hcs | hcs
        · have := (of_kept hkept (k := { k with phase := .destroying }) (by simp [hcs]) howner
            (settled_eq_false (.inr (.inr rfl)))).1
          cases this
        · exact hcs
      have hsee : t.see ⟨.checkpointDestroy p, .error .cancelled⟩ = { t with cutShort := true } := by
        simp [Txn.see, hcp]
      have hquiet' : Quiet (w.apply rt i (.checkpointDestroy p) (.error .cancelled)).checkpoints := by
        show Quiet w.checkpoints
        rwa [hcs']
      refine ⟨.quiet hquiet', ?_⟩
      rw [hsee]
      exact .quiet hheld hlock' ⟨by simp [Txn.isOpen], hfound, .inr hact⟩ hquiet'

theorem follows_rollback {p : String} {r : Except Exc Unit} (hlock : w.connectionLock = some i)
    (hquiet : Quiet w.checkpoints) (hfound : t.lookupFailed = false)
    (hpre : t.pre (.checkpointRollback p)) : Follows rt i w t (.checkpointRollback p) r := by
  obtain ⟨hheld, hcp, hact, -, -⟩ := hpre
  have hsee : t.see ⟨.checkpointRollback p, r⟩ = { t with rolledBack := true } := by
    simp [Txn.see, hcp]
  refine ⟨fun x _ _ => ⟨fun _ _ _ h => (by cases h), fun _ => rfl⟩, ?_⟩
  have hquiet' : Quiet (w.apply rt i (.checkpointRollback p) r).checkpoints := hquiet
  refine ⟨.quiet hquiet', ?_⟩
  rw [hsee]
  exact .quiet hheld hlock ⟨by simp [Txn.isOpen], hfound, .inr hact⟩ hquiet'

end Kinds

/-! ### One request among the others -/

section Sharing

variable {t : Txn} {c : Call} {r : Except Exc (Reply c)}

theorem World.answer_ok (c : Call) (w : World) : ∃ a, w.answer c = .ok a := by
  cases c <;> exact ⟨_, rfl⟩

/-- A call that nobody waits for -/
theorem follows_immediate (hA : Agree i w t) (hc : t.pre c) (hy : c.awaited = false) :
    Follows rt i (w.issue i c) t c ((w.issue i c).answer c) := by
  obtain ⟨a, ha⟩ := World.answer_ok c (w.issue i c)
  rw [ha]
  by_cases hread : c.isRead = true
  · rw [World.issue_read hread]
    exact follows_read hread hA.view hA.shape rfl
  · cases c with
    | release l =>
      cases l with
      | scan => exact absurd hc hread
      | connection => exact follows_release hA.view hc.1 hc.2 rfl
    | acquire _ | checkpointCreate _ _ _ | addAndActivateConnection2 _ _ _ _
    | activateConnection _ _ _ | checkConnectivity | checkpointDestroy _
    | checkpointRollback _ => cases hy
    | _ => exact absurd hc hread

/-- A call that the request waits for, answered in the world `w'` -/
theorem follows_awaited (hA : Agree i w t) (hc : t.pre c) (hy : c.awaited = true)
    (hrely : Relies i (w.issue i c) w') (hshape : Shape w'.connectionLock w'.checkpoints)
    (hlegal : w'.legal i c r = true) (hkept : w'.kept i c r = true) : Follows rt i w' t c r := by
  by_cases hread : c.isRead = true
  · rw [World.issue_read hread] at hrely
    exact follows_read hread (hA.view.rely hrely) hshape hkept
  cases c with
  | acquire l =>
    cases l with
    | scan => exact absurd hc hread
    | connection =>
      obtain rfl : t = .init := hc
      exact follows_acquire (hA.view.rely hrely) hshape hlegal
  | release l => cases hy
  | checkpointCreate ds s f =>
    obtain rfl : t = { Txn.init with held := true } := hc
    cases hA.view with
    | outside h₁ _ _ => cases h₁
    | live _ _ h₃ _ _ _ _ _ _ _ => cases h₃
    | quiet _ h₂ _ h₄ =>
      exact follows_create (hrely.1.2 h₂) h₄ ((hrely.2 h₂).of_asked h₄ rfl) hlegal hkept
  | addAndActivateConnection2 _ _ _ _ =>
    exact follows_activate hA.view hc.1 hc.2 hrely hkept rfl rfl rfl (by simp) (by simp)
  | activateConnection _ _ _ =>
    exact follows_activate hA.view hc.1 hc.2 hrely hkept rfl rfl rfl (by simp) (by simp)
  | checkConnectivity =>
    exact follows_checkConnectivity (hA.view.rely hrely) hc.1 hc.2.1 hc.2.2 hkept
  | checkpointDestroy p =>
    cases hA.view with
    | outside h₁ _ _ => simp [hc.1] at h₁
    | quiet _ _ h₃ _ => exact absurd h₃.closed (by simp [hc.2.2.1])
    | @live k before _ h₂ _ h₄ h₅ h₆ h₇ h₈ h₉ h₀ =>
      have hpath : k.path = p := by
        rw [hc.2.1] at h₄
        exact (Option.some.inj h₄).symm
      have hhandled := hrely.2 h₂
      have hhead : k.move p .live .destroying = { k with phase := .destroying } := by
        simp [Checkpoint.move, hpath, h₆]
      have hissue : (w.issue i (.checkpointDestroy p)).checkpoints =
          { k with phase := .destroying } :: before := by
        show w.checkpoints.map (Checkpoint.move p .live .destroying) = _
        rw [h₅, List.map_cons, h₀.map_eq fun _ => Checkpoint.move_settled (.inl rfl), hhead]
      rw [hissue] at hhandled
      exact follows_destroy (hrely.1.2 h₂) h₀ h₇ h₆ hpath h₈ h₉ hc
        (hhandled.of_destroying h₀ rfl) hlegal hkept
  | checkpointRollback p =>
    have hquiet : Quiet (w.issue i (.checkpointRollback p)).checkpoints ∧
        t.lookupFailed = false ∧ w.connectionLock = some i := by
      show Quiet (w.checkpoints.map (Checkpoint.move p .live .rolledBack)) ∧ _
      cases hA.view with
      | outside h₁ _ _ => simp [hc.1] at h₁
      | quiet _ h₂ h₃ h₄ =>
        rw [h₄.map_eq fun _ => Checkpoint.move_settled (.inl rfl)]
        exact ⟨h₄, h₃.found, h₂⟩
      | @live k before _ h₂ h₃ h₄ h₅ h₆ _ _ _ h₀ =>
        have hpath : k.path = p := by
          rw [hc.2.1] at h₄
          exact (Option.some.inj h₄).symm
        rw [h₅, List.map_cons, h₀.map_eq fun _ => Checkpoint.move_settled (.inl rfl)]
        refine ⟨List.forall_mem_cons.2 ⟨?_, h₀⟩, ?_, h₂⟩
        · simp [Checkpoint.move, hpath, h₆, Checkpoint.settled]
        · simp only [Txn.isOpen, Bool.and_eq_true, Bool.not_eq_true'] at h₃
          exact h₃.1.1.1.2
    have hcs := (hrely.2 hquiet.2.2).of_quiet hquiet.1
    exact follows_rollback (hrely.1.2 hquiet.2.2) (by rw [hcs]; exact hquiet.1) hquiet.2.1 hc
  | _ => exact absurd hc hread

/-- **A request in the shared world does what `Txn.monitor` sees.** -/
theorem agree_next (hA : Agree i w t) (hc : t.pre c) (hn : ((sharing rt).mon i).next w c r w') :
    ∃ t', Txn.monitor.next t c r t' ∧ Agree i w' t' := by
  have hfollows : ∀ {w₁}, w' = World.apply rt i c r w₁ → Follows rt i w₁ t c r →
      ∃ t', Txn.monitor.next t c r t' ∧ Agree i w' t' := by
    rintro w₁ rfl ⟨hlegal, hA'⟩
    exact ⟨_, ⟨hlegal, rfl⟩, hA'⟩
  by_cases hy : c.awaited = true
  · simp only [Discipline.mon, if_pos (show (guarded rt).yields c = true from hy)] at hn
    obtain ⟨-, w₁, hrely, hshape, hlegal, hw'⟩ := hn
    obtain ⟨hlegal, hkept⟩ := Bool.and_eq_true_iff.1 hlegal
    exact hfollows hw' (follows_awaited hA hc hy hrely hshape hlegal hkept)
  · simp only [Discipline.mon, if_neg (show ¬(guarded rt).yields c = true from hy)] at hn
    obtain ⟨-, hr, hw'⟩ := hn
    refine hfollows hw' ?_
    rw [hr]
    exact follows_immediate hA hc (by simpa using hy)

end Sharing

/-! ### The lock is free -/

/-- Requests that change the Wi-Fi connection, as the server answers them -/
def IsRequest (m : NetworkManager) (rt : Runtime)
    (p : Prog Reply Exc (IPCResponse (ConnectResult ⊕ ActivateResult))) : Prop :=
  ∃ (id : String) (fuel : ℕ) (request : TransactionRequest),
    p = respond id (request.handle m rt fuel)

variable {m : NetworkManager}

theorem wp_request {p : Prog Reply Exc (IPCResponse (ConnectResult ⊕ ActivateResult))}
    (hp : IsRequest m rt p) (hw : Shape w.connectionLock w.checkpoints)
    (hidle : w.connectionLock ≠ some i) :
    ((sharing rt).mon i).wp p (fun _ w' => Shape w'.connectionLock w'.checkpoints) w := by
  obtain ⟨id, fuel, request, rfl⟩ := hp
  have hseen : Txn.monitor.wp (respond id (request.handle m rt fuel)) (fun _ _ => True) .init :=
    wp_respond (wp_mono (Txn.wp_handle m rt fuel request) fun _ _ _ => trivial)
  have hagree : Agree i w .init := ⟨hw, .outside rfl hidle decided_of_init⟩
  refine wp_mono (wp_sim (fun w t => Agree i w t) ?_ ?_ hagree hseen) ?_
  · exact fun w t c hA hc => ⟨hA.shape, hA.view.allowed hc⟩
  · exact fun w t c r w' hA hc hn => agree_next hA hc hn
  · rintro r w' ⟨t, hA, -⟩
    exact hA.shape

/-- **While the lock is free, every checkpoint was destroyed after a verification or rolled back, or
was never created; and none is ever discarded by the creation of another.** -/
theorem free_settled {clock : ℚ}
    {a : Config Reply Exc (IPCResponse (ConnectResult ⊕ ActivateResult)) World}
    (h : (guarded rt).Reach (IsRequest m rt) (.init clock) a) :
    (a.world.connectionLock = none → ∀ k ∈ a.world.checkpoints,
      (k.phase = .destroyed ∧ k.verified = true) ∨ k.phase = .rolledBack ∨ k.phase = .refused) ∧
      ∀ k ∈ a.world.checkpoints, k.phase ≠ .discarded := by
  have hinit : (sharing rt).inv (.init clock) := Shape.quiet fun _ hk => absurd hk List.not_mem_nil
  have hidle : ∀ i, (sharing rt).idle i (.init clock) := fun i hi => by cases hi
  have hgood := Discipline.reach_good (D := sharing rt)
    (Q := fun _ _ w => Shape w.connectionLock w.checkpoints) (fun _ _ _ h => h)
    (fun p hp i w hw hidle => wp_request hp hw hidle) hinit hidle h trivial
  have hshape : Shape a.world.connectionLock a.world.checkpoints := hgood.inv
  refine ⟨fun hfree k hk => ?_, hshape.not_discarded⟩
  rw [hfree] at hshape
  exact Checkpoint.settled_iff.1 (hshape.quiet_of_free k hk)

/-! ### Runs -/

/-- NetworkManager creates the latest checkpoint that it has been asked for. -/
def creates (c : String) (w : World) : Option World :=
  match w.checkpoints with
  | [] => none
  | k :: before =>
      if k.phase = .asked ∧ c ≠ "" ∧ ∀ k' ∈ before, k'.path ≠ c then
        some { w with
          checkpoints := { k with path := c, phase := .live } :: before.map .discard
          history := .created k.owner c :: w.history }
      else none

theorem tau_creates (c : String) (w w' : World) (h : creates c w = some w') : World.Tau w w' := by
  unfold creates at h
  split at h
  · cases h
  · rename_i k before hcs
    split at h
    · rename_i hk
      cases h
      refine .handles ?_
      rw [hcs]
      exact @Handles.create [] before k c hk.1 hk.2.1 hk.2.2
    · cases h

/-- NetworkManager destroys the latest checkpoint. -/
def destroys (w : World) : Option World :=
  match w.checkpoints with
  | [] => none
  | k :: before =>
      if k.phase = .destroying then
        some { w with
          checkpoints := { k with phase := .destroyed } :: before
          history := .destroyed k.path :: w.history }
      else none

theorem tau_destroys (w w' : World) (h : destroys w = some w') : World.Tau w w' := by
  unfold destroys at h
  split at h
  · cases h
  · rename_i k before hcs
    split at h
    · rename_i hk
      cases h
      refine .handles ?_
      rw [hcs]
      exact @Handles.destroy [] before k hk
    · cases h

/-- The server's task for the request `id` to connect to the network `ssid` -/
def connectTask (id ssid : String) :
    Prog Reply Exc (IPCResponse (ConnectResult ⊕ ActivateResult)) :=
  respond id ((TransactionRequest.connect "uuid" [("ssid", .str ssid)]).handle .default .ascii 1)

theorem isRequest_connectTask (id ssid : String) : IsRequest .default .ascii (connectTask id ssid) :=
  ⟨id, 1, _, rfl⟩

/-- Task `i` is answered as a quiet machine does. -/
def goOn {E : Env Reply Exc World} {α : Type} (i : Tid) : E.Move α :=
  .resume i fun c => .ok (quiet c)

/-- Task `i` gets the exception `x`. -/
def fails {E : Env Reply Exc World} {α : Type} (i : Tid) (x : Exc) : E.Move α :=
  .resume i fun _ => .error x

/-- A request whose activation is refused -/
def refusedMoves : List ((guarded .ascii).Move (IPCResponse (ConnectResult ⊕ ActivateResult))) :=
  [.spawn (connectTask "1" "home")] ++ List.replicate 9 (goOn 0) ++
    [.tau (creates "/checkpoint/1") (tau_creates _), goOn 0, goOn 0,
      fails 0 (.py ⟨.dbus, "not authorized"⟩), goOn 0]

/-- A later request that is accepted -/
def acceptedMoves : List ((guarded .ascii).Move (IPCResponse (ConnectResult ⊕ ActivateResult))) :=
  let onward : (guarded .ascii).Move (IPCResponse (ConnectResult ⊕ ActivateResult)) :=
    .resume 1 fun c => .ok (online "/checkpoint/2" c)
  [.spawn (connectTask "2" "cafe")] ++ List.replicate 8 onward ++
    [.tau (creates "/checkpoint/2") (tau_creates _)] ++ List.replicate 14 onward ++
    [.tau destroys tau_destroys, onward]

def settledRun : Option (Config Reply Exc (IPCResponse (ConnectResult ⊕ ActivateResult)) World) :=
  (guarded .ascii).play (refusedMoves ++ acceptedMoves) ⟨.init 0, []⟩

theorem isSome_settledRun : settledRun.isSome = true := by decide +kernel

/-- After a refused activation the checkpoint has been rolled back; that of the next request has been
destroyed after its verification. -/
theorem refused_settled :
    ∃ a, (guarded .ascii).Reach (IsRequest .default .ascii) (.init 0) a ∧
      a.world.connectionLock = none ∧
      a.world.checkpoints.map (fun k => (k.owner, k.phase)) = [(1, .destroyed), (0, .rolledBack)] ∧
      ∀ k ∈ a.world.checkpoints,
        (k.phase = .destroyed ∧ k.verified = true) ∨ k.phase = .rolledBack ∨ k.phase = .refused := by
  have hreach : (guarded .ascii).Reach (IsRequest .default .ascii) (.init 0)
      (settledRun.get isSome_settledRun) := by
    refine Env.reach_of_play _ (refusedMoves ++ acceptedMoves) (fun p hp => ?_) .init
      (Option.some_get isSome_settledRun).symm
    have hp : p = connectTask "1" "home" ∨ p = connectTask "2" "cafe" := by
      simpa [refusedMoves, acceptedMoves, Env.spawns, goOn, fails, List.replicate] using hp
    rcases hp with rfl | rfl <;> exact isRequest_connectTask _ _
  have hfree : (settledRun.get isSome_settledRun).world.connectionLock = none := by decide +kernel
  exact ⟨_, hreach, hfree, by decide +kernel, (free_settled hreach).1 hfree⟩

/-- A request that is cancelled while it waits for the activation -/
def cancelledMoves : List ((manager .ascii).Move (IPCResponse (ConnectResult ⊕ ActivateResult))) :=
  [.spawn (connectTask "1" "home")] ++ List.replicate 9 (goOn 0) ++
    [.tau (creates "/checkpoint/1") (tau_creates _), goOn 0, goOn 0, fails 0 .cancelled]

/-- Another request creates its checkpoint. -/
def laterMoves : List ((manager .ascii).Move (IPCResponse (ConnectResult ⊕ ActivateResult))) :=
  [.spawn (connectTask "2" "cafe")] ++ List.replicate 8 (goOn 1) ++
    [.tau (creates "/checkpoint/2") (tau_creates _)]

def cancelledRun : Option (Config Reply Exc (IPCResponse (ConnectResult ⊕ ActivateResult)) World) :=
  (manager .ascii).play cancelledMoves ⟨.init 0, []⟩

theorem isSome_cancelledRun : cancelledRun.isSome = true := rfl

def laterRun : Option (Config Reply Exc (IPCResponse (ConnectResult ⊕ ActivateResult)) World) :=
  (manager .ascii).play laterMoves (cancelledRun.get isSome_cancelledRun)

/-- A request that times out while it waits for the activation leaves its checkpoint behind, and the
next request makes what it did permanent. -/
theorem cancelled_discarded :
    (∃ a, (manager .ascii).Reach (IsRequest .default .ascii) (.init 0) a ∧
      a.world.connectionLock = none ∧ (∃ k ∈ a.world.checkpoints, k.phase = .live) ∧
      a.tasks = [.done (.ok ⟨"1", false, none, some ⟨"timeout", "Operation timed out"⟩⟩)]) ∧
    ∃ b, (manager .ascii).Reach (IsRequest .default .ascii) (.init 0) b ∧
      ∃ k ∈ b.world.checkpoints, k.owner = 0 ∧ k.phase = .discarded := by
  have hreach : (manager .ascii).Reach (IsRequest .default .ascii) (.init 0)
      (cancelledRun.get isSome_cancelledRun) := by
    refine Env.reach_of_play _ cancelledMoves (fun p hp => ?_) .init
      (Option.some_get isSome_cancelledRun).symm
    obtain rfl : p = connectTask "1" "home" := by
      simpa [cancelledMoves, Env.spawns, goOn, fails] using hp
    exact isRequest_connectTask _ _
  have hsome' : laterRun.isSome = true := rfl
  have hreach' : (manager .ascii).Reach (IsRequest .default .ascii) (.init 0)
      (laterRun.get hsome') := by
    refine Env.reach_of_play _ laterMoves (fun p hp => ?_) hreach (Option.some_get hsome').symm
    obtain rfl : p = connectTask "2" "cafe" := by
      simpa [laterMoves, Env.spawns, goOn, fails] using hp
    exact isRequest_connectTask _ _
  exact ⟨⟨_, hreach, rfl, ⟨⟨0, "/checkpoint/1", .live, true, false⟩, List.mem_cons_self, rfl⟩, rfl⟩,
    _, hreach', ⟨0, "/checkpoint/1", .discarded, true, false⟩,
    List.mem_cons_of_mem _ List.mem_cons_self, rfl, rfl⟩

end ApplianceAdmin.Network
