import ApplianceAdmin.Recovery.Polls

/-!
# Signals

`SIGTERM` and `SIGINT` run `stop_all`.  The trap does not exit, so the shell goes on with the
command at which the signal arrived: the loop that it has interrupted, and the next polls.

* `Signalled`: a run of the script up to the signal, the trap, and what the script does after it;
  a signal that interrupts `wait` is handled before `wait` returns;
* `Final`: no process is started after the trap, and none of those started is running;
* `Progress`: where the script stands, read off its calls, and `progressing`, its monitor;
* `Quiet`: when the script has nothing left to publish, and `final_of_quiet`.
-/

namespace ApplianceAdmin.Recovery

open Async Monitor

/-! ### Runs with a signal -/

/-- A signal at some call of the script. -/
structure Signalled (lower : Char → Char) where
  rounds : ℕ
  before : List (Event Reply Exit)
  position : Script Unit
  atSignal : World
  trap : List (Event Reply Exit)
  trapped : World
  after : List (Event Reply Exit)
  stop : Script Unit
  later : World
  reaches : Path (script lower rounds) before position
  at_call : ∃ c k, position = .call c k
  trail_before : world.Trail .initial before atSignal
  traps : Path stopAll trap (.done (.ok ()))
  trail_trap : world.Trail atSignal trap trapped
  resumes : Path position after stop
  trail_after : world.Trail trapped after later

/-- The trap is the end of the publishers. -/
structure Signalled.Final {lower : Char → Char} (t : Signalled lower) : Prop where
  starts : ∀ address pid, ⟨.start address, .ok pid⟩ ∉ t.after
  trapped : ∀ pid address, ¬t.trapped.Running pid address
  later : ∀ pid address, ¬t.later.Running pid address

/-! ### Where the script stands -/

/-- The addresses that the second loop has still to come to, the publishers that the first loop
has still to come to, and whether an address was found without a publisher and has none yet. -/
structure Progress where
  pending : List String
  unexamined : List String
  due : Bool

namespace Progress

def start : Progress := ⟨[], [], false⟩

def step (g : Progress) : Event Reply Exit → Progress
  | ⟨.hostname, _⟩ => start
  | ⟨.ipAddressShow, .ok lines⟩ => { g with pending := activeAddresses lines }
  | ⟨.publisherKeys, .ok keys⟩ => { g with unexamined := keys }
  | ⟨.expand address, .ok (some _)⟩ => { g with unexamined := g.unexamined.erase address }
  | ⟨.activeKeys _, .ok keys⟩ => { g with pending := keys }
  | ⟨.isPublished address, .ok published⟩ =>
      { g with pending := g.pending.erase address, due := !published }
  | ⟨.assign _ _, _⟩ => { g with due := false }
  -- the script ends
  | ⟨.expand _, .ok none⟩ => { g with pending := [] }
  | ⟨.echo _, .ok false⟩ => { g with pending := [] }
  | ⟨.sleep, .ok false⟩ => { g with pending := [] }
  | _ => g

/-- What is known of the progress at a call. -/
def Obliged (g : Progress) : Call → Prop
  | .start _ => g.due = true
  | .assign _ _ => g.due = true
  | .publisherKeys => g.due = false ∧ (g.unexamined = [] ∨ g.pending = [])
  | .activeKeys active => g.due = false ∧ g.unexamined = [] ∧ g.pending = active
  | .isPublished _ => g.due = false ∧ g.unexamined = [] ∧ g.pending ≠ []
  | _ => g.due = false

end Progress

/-- The monitor of the progress, for any answers. -/
def progressing : Monitor Reply Exit Progress :=
  ofFold Progress.Obliged (fun _ _ => True) Progress.step

variable {g : Progress} {Q : Except Exit Unit → Progress → Prop}

theorem progressing_ask {c : Call} {β : Type} {f : Reply c → Script β}
    {Q : Except Exit β → Progress → Prop} (hpre : g.Obliged c)
    (h : ∀ a, progressing.wp (f a) Q (g.step ⟨c, .ok a⟩)) :
    progressing.wp (Prog.ask c >>= f) Q g := by
  refine progressing.wp_ask_bind hpre ?_
  rintro a g' ⟨-, rfl⟩
  exact h a

theorem progressing_stopPublisher {address : String} (hg : g.due = false) (hQ : Q (.ok ()) g) :
    progressing.wp (stopPublisher address) Q g := by
  refine progressing_ask hg fun pid => ?_
  cases pid with
  | none => exact hQ
  | some pid =>
    refine progressing_ask hg fun _ => progressing_ask hg fun _ => (progressing.wp_ask).2 ⟨hg, ?_⟩
    rintro u g' ⟨-, rfl⟩
    exact hQ

/-- Between two polls, or at the end of the script: nothing is pending that could be published. -/
structure Progress.Resting (g : Progress) : Prop where
  due : g.due = false
  pending : g.pending = []

theorem progressing_stopAll (hg : g.Resting) (hQ : ∀ g', g'.Resting → Q (.ok ()) g') :
    progressing.wp stopAll Q g := by
  refine progressing_ask ⟨hg.due, .inr hg.pending⟩ fun keys => ?_
  exact progressing.wp_forEach (fun _ => Progress.Resting) ⟨hg.due, hg.pending⟩
    (fun address rest g' h => progressing_stopPublisher h.due h) hQ

theorem progressing_pause (hg : g.Resting) (hQ : ∀ r g', g'.Resting → Q r g') :
    progressing.wp pause Q g := by
  refine progressing_ask hg.due fun slept => ?_
  cases slept
  · exact hQ _ _ ⟨hg.due, rfl⟩
  · exact hQ _ _ hg

/-- In the first loop the publishers of `rest` are unexamined. -/
structure Progress.Sweeping (active rest : List String) (g : Progress) : Prop where
  due : g.due = false
  pending : g.pending = active
  unexamined : g.unexamined = rest

theorem progressing_check {active rest : List String} {address : String}
    (hg : g.Sweeping active (address :: rest)) (hQ : ∀ g', g'.Sweeping active rest → Q (.ok ()) g')
    (hE : ∀ e g', g'.Resting → Q (.error e) g') :
    progressing.wp (check active address) Q g := by
  refine progressing_ask hg.due fun pid => ?_
  cases pid with
  | none => exact hE _ _ ⟨hg.due, rfl⟩
  | some pid =>
    have h : (g.step ⟨.expand address, .ok (some pid)⟩).Sweeping active rest :=
      ⟨hg.due, hg.pending, by simp [Progress.step, hg.unexamined]⟩
    refine (progressing.wp_ite).2 ?_
    split
    · exact progressing_stopPublisher h.due (hQ _ h)
    · refine progressing_ask h.due fun alive => ?_
      cases alive with
      | true => exact hQ _ h
      | false => exact progressing_stopPublisher h.due (hQ _ h)

theorem progressing_sweep {active : List String} (hg : g.Sweeping active [])
    (hQ : ∀ g', g'.Sweeping active [] → Q (.ok ()) g')
    (hE : ∀ e g', g'.Resting → Q (.error e) g') : progressing.wp (sweep active) Q g := by
  refine progressing_ask ⟨hg.due, .inl hg.unexamined⟩ fun keys => ?_
  exact progressing.wp_forEach (fun rest => Progress.Sweeping active rest)
    ⟨hg.due, hg.pending, rfl⟩ (fun address rest g' h => progressing_check h (fun _ h' => h') hE) hQ

theorem progressing_announce {rest : List String} {address : String}
    (hg : g.Sweeping (address :: rest) []) (hQ : ∀ g', g'.Sweeping rest [] → Q (.ok ()) g')
    (hE : ∀ e g', g'.Resting → Q (.error e) g') : progressing.wp (announce address) Q g := by
  refine progressing_ask ⟨hg.due, hg.unexamined, by simp [hg.pending]⟩ fun published => ?_
  have hrest : g.pending.erase address = rest := by simp [hg.pending]
  cases published with
  | true => exact hQ _ ⟨rfl, hrest, hg.unexamined⟩
  | false =>
    refine progressing_ask rfl fun pid => progressing_ask rfl fun _ => ?_
    refine progressing_ask rfl fun written => ?_
    cases written with
    | true => exact hQ _ ⟨rfl, hrest, hg.unexamined⟩
    | false => exact hE _ _ ⟨rfl, rfl⟩

theorem progressing_publish {active : List String} (hg : g.Sweeping active [])
    (hQ : ∀ g', g'.Resting → Q (.ok ()) g') (hE : ∀ e g', g'.Resting → Q (.error e) g') :
    progressing.wp (publish active) Q g := by
  refine progressing_ask ⟨hg.due, hg.unexamined, hg.pending⟩ fun keys => ?_
  exact progressing.wp_forEach (fun rest => Progress.Sweeping rest [])
    ⟨hg.due, rfl, hg.unexamined⟩ (fun address rest g' h => progressing_announce h (fun _ h' => h') hE)
    fun g' h => hQ g' ⟨h.due, h.pending⟩

theorem progressing_poll {lower : Char → Char} (hg : g.due = false) :
    progressing.wp (poll lower) (fun _ g' => g'.Resting) g := by
  refine progressing_ask hg fun hostname => (progressing.wp_ite).2 ?_
  have hrest : Progress.start.Resting := ⟨rfl, rfl⟩
  split
  · exact (progressing.wp_bind).2 (progressing_stopAll hrest fun g' h =>
      progressing_pause h fun _ _ h' => h')
  · refine progressing_ask rfl fun lines => (progressing.wp_bind).2 ?_
    refine progressing_sweep ⟨rfl, rfl, rfl⟩ (fun g₁ h₁ => ?_) fun _ _ h => h
    refine (progressing.wp_bind).2 (progressing_publish h₁ (fun g₂ h₂ => ?_) fun _ _ h => h)
    exact progressing_pause h₂ fun _ _ h => h

theorem progressing_script {lower : Char → Char} (n : ℕ) :
    progressing.wp (script lower n) (fun _ g' => g'.Resting) .start := by
  refine (progressing.wp_tryCatch).2 (wp_mono (wp_loop
    (fun _ h => progressing_poll h.due) n ⟨rfl, rfl⟩) fun r g h => ?_)
  cases r with
  | ok _ => exact h
  | error _ => exact (progressing.wp_bind).2 (progressing_stopAll h fun g' h' => h')

/-! ### After the trap -/

/-- Nothing is recorded and nothing runs, and the script has no address to publish: the second loop
is through, or the first loop has still to look at a publisher that is gone. -/
structure Calm (g : Progress) (v : View) : Prop where
  recorded : ∀ a, v.recorded a = none
  unreaped : ∀ q, v.unreaped q = none
  due : g.due = false
  left : g.pending = [] ∨ g.unexamined ≠ []

/-- A call of the script while nothing runs, when no address is listed -/
theorem Calm.step {v : View} {c : Call} {a : Reply c} (h : Calm g v) (hpre : g.Obliged c)
    (ht : v.Told c a) (hl : ∀ lines, (⟨c, .ok a⟩ : Event Reply Exit) = ⟨.ipAddressShow, .ok lines⟩ →
      activeAddresses lines = []) :
    Calm (g.step ⟨c, .ok a⟩) (v.after c a) ∧ ∀ address, c ≠ .start address := by
  obtain ⟨hr, hu, hd, hp⟩ := h
  cases c with
  | hostname => exact ⟨⟨hr, hu, rfl, .inl rfl⟩, fun _ h => Call.noConfusion h⟩
  | ipAddressShow => exact ⟨⟨hr, hu, hd, .inl (hl a rfl)⟩, fun _ h => Call.noConfusion h⟩
  | publisherKeys =>
    refine ⟨⟨hr, hu, hd, .inl ?_⟩, fun _ h => Call.noConfusion h⟩
    exact hpre.2.elim (fun hn => hp.resolve_right (not_not.2 hn)) id
  | activeKeys active =>
    obtain ⟨-, hn, rfl⟩ := hpre
    refine ⟨⟨hr, hu, hd, .inl (List.eq_nil_iff_forall_not_mem.2 fun b hb => ?_)⟩, fun _ h => Call.noConfusion h⟩
    have hnil := hp.resolve_right (not_not.2 hn)
    simpa [hnil] using (ht.2 b).1 hb
  | expand address =>
    obtain rfl : a = none := ht.trans (hr address)
    exact ⟨⟨hr, hu, hd, .inl rfl⟩, fun _ h => Call.noConfusion h⟩
  | isPublished address =>
    obtain ⟨-, hn, hne⟩ := hpre
    exact absurd (hp.resolve_right (not_not.2 hn)) hne
  | killZero pid => cases a <;> exact ⟨⟨hr, hu, hd, hp⟩, fun _ h => Call.noConfusion h⟩
  | wait pid =>
    refine ⟨⟨hr, fun q => ?_, hd, hp⟩, fun _ h => Call.noConfusion h⟩
    simp [View.after, Function.update_apply, hu]
  | unset address =>
    refine ⟨⟨fun b => ?_, hu, hd, hp⟩, fun _ h => Call.noConfusion h⟩
    simp [View.after, Function.update_apply, hr]
  | start address => exact absurd hpre (by simp [Progress.Obliged, hd])
  | assign address pid => exact absurd hpre (by simp [Progress.Obliged, hd])
  | echo address =>
    cases a with
    | true => exact ⟨⟨hr, hu, hd, hp⟩, fun _ h => Call.noConfusion h⟩
    | false => exact ⟨⟨hr, hu, hd, .inl rfl⟩, fun _ h => Call.noConfusion h⟩
  | sleep =>
    cases a with
    | true => exact ⟨⟨hr, hu, hd, hp⟩, fun _ h => Call.noConfusion h⟩
    | false => exact ⟨⟨hr, hu, hd, .inl rfl⟩, fun _ h => Call.noConfusion h⟩
  | lookup address => exact ⟨⟨hr, hu, hd, hp⟩, fun _ h => Call.noConfusion h⟩
  | kill pid => exact ⟨⟨hr, hu, hd, hp⟩, fun _ h => Call.noConfusion h⟩

/-- The rest of the run -/
theorem Calm.run {v v' : View} {tr : List (Event Reply Exit)} (h : Calm g v)
    (hm : Meets Progress.Obliged Progress.step g tr) (ht : viewing.Trail v tr v')
    (hl : ∀ lines, ⟨.ipAddressShow, .ok lines⟩ ∈ tr → activeAddresses lines = []) :
    (∀ address pid, ⟨.start address, .ok pid⟩ ∉ tr) ∧ ∀ q, v'.unreaped q = none := by
  induction tr generalizing g v with
  | nil =>
    cases ht
    exact ⟨fun _ _ => List.not_mem_nil, h.unreaped⟩
  | cons e tr ih =>
    obtain ⟨c, r⟩ := e
    obtain ⟨v₁, hn, ht⟩ := ht
    obtain ⟨a, rfl, htold, rfl⟩ : ∃ a, r = .ok a ∧ v.Told c a ∧ v₁ = v.after c a := hn
    obtain ⟨hcalm, hstart⟩ := h.step hm.1 htold fun lines he => hl lines (he ▸ List.mem_cons_self)
    obtain ⟨hstarts, hnone⟩ := ih hcalm hm.2 ht fun lines hmem => hl lines (.tail _ hmem)
    refine ⟨fun address pid hmem => ?_, hnone⟩
    obtain he | hmem := List.mem_cons.1 hmem
    · exact hstart address (congrArg Event.call he).symm
    · exact hstarts address pid hmem

theorem wp_script {lower : Char → Char} (n : ℕ) {v : View} (hv : v.Tidy) :
    viewing.wp (script lower n) (fun _ v' => v'.Tidy) v := by
  refine (viewing.wp_tryCatch).2 (wp_mono (wp_loop (fun _ h => wp_poll h) n hv) fun r v' h => ?_)
  cases r with
  | ok _ => exact h
  | error _ => exact (viewing.wp_bind).2 (wp_stopAll h.recorded v'.tidy_cleared)

namespace Signalled

variable {lower : Char → Char} (t : Signalled lower)

/-- Where the script stands at the signal. -/
def progress : Progress := t.before.foldl Progress.step .start

/-- The signal does not come between the test that finds an address without a publisher and the
record of its new publisher.  The poll that it interrupts has no address left to publish, or ends
the script: at a publisher in the first loop that is gone, or at a message that cannot be written.
And the lists of addresses that are read afterwards are empty. -/
structure Quiet : Prop where
  recorded : t.progress.due = false
  left : t.progress.pending = [] ∨ t.progress.unexamined ≠ [] ∨
    ∃ address, t.after.head? = some ⟨.echo address, .ok false⟩
  lists : ∀ lines, ⟨.ipAddressShow, .ok lines⟩ ∈ t.after → activeAddresses lines = []

theorem meets_after : Meets Progress.Obliged Progress.step t.progress t.after :=
  meets_of_path t.resumes (wp_path t.reaches (trail_ofFold _ _) (progressing_script t.rounds))

/-- When no address is between its test and its record, every process is recorded. -/
theorem recorded_atSignal (h : t.progress.due = false) (found : List ℕ) :
    (t.atSignal.view found).Recorded := by
  obtain ⟨c, k, hposition⟩ := t.at_call
  have hreaches : Path (script lower t.rounds) t.before (.call c k) := hposition ▸ t.reaches
  have hc : t.progress.Obliged c :=
    wp_pre hreaches (trail_ofFold _ _) (progressing_script t.rounds)
  obtain ⟨found', htr, -, -⟩ := trail_view t.trail_before []
  have hv : (t.atSignal.view found').Obliged c :=
    wp_pre hreaches htr (wp_script t.rounds ((Polled.initial : Polled lower _).tidy []))
  cases c with
  | start address => exact hv.1
  | assign address pid => cases h.symm.trans hc
  | _ => exact hv

/-- The trap then leaves nothing. -/
theorem cleared_trapped (h : t.progress.due = false) :
    (∀ a, t.trapped.publishers.lookup a = none) ∧ ∀ q, t.trapped.unreaped q = none := by
  obtain ⟨found, htr, -, -⟩ := trail_view t.trail_trap []
  have hview : t.trapped.view found = (t.atSignal.view []).cleared :=
    wp_outcome t.traps htr (wp_stopAll (Q := fun _ v => v = (t.atSignal.view []).cleared)
      (t.recorded_atSignal h []) rfl)
  exact ⟨congrFun (congrArg View.recorded hview), congrFun (congrArg View.unreaped hview)⟩

/-- The rest of a run from there -/
theorem not_start_after (h : t.Quiet) :
    (∀ address pid, ⟨.start address, .ok pid⟩ ∉ t.after) ∧ ∀ q, t.later.unreaped q = none := by
  obtain ⟨hr, hu⟩ := t.cleared_trapped h.recorded
  obtain ⟨found, htr, -, -⟩ := trail_view t.trail_after []
  have hrun := fun hleft => Calm.run (v := t.trapped.view []) ⟨hr, hu, h.recorded, hleft⟩
    t.meets_after htr h.lists
  obtain hleft | hleft | ⟨address, hecho⟩ := h.left
  · exact hrun (.inl hleft)
  · exact hrun (.inr hleft)
  · obtain ⟨rest, hafter⟩ := List.head?_eq_some_iff.1 hecho
    have hmeets := t.meets_after
    have hlists := h.lists
    rw [hafter] at hmeets htr hlists ⊢
    obtain ⟨_, ⟨_, ⟨⟩, -, rfl⟩, htr⟩ := htr
    -- the message could not be written, so nothing is pending any more
    have hcalm : Calm (t.progress.step ⟨.echo address, .ok false⟩) (t.trapped.view []) :=
      ⟨hr, hu, h.recorded, .inl rfl⟩
    obtain ⟨hstarts, hnone⟩ := hcalm.run hmeets.2 htr fun lines hm => hlists lines (.tail _ hm)
    exact ⟨fun a pid hm => hstarts a pid ((List.mem_cons.1 hm).resolve_left nofun), hnone⟩

end Signalled

/-- **Signals.**  A signal that the script handles while it has nothing left to publish, and no
address is listed afterwards, is the end of its publishers: the trap leaves no process running, and
none is started or running in the rest of the run. -/
theorem final_of_quiet {lower : Char → Char} (t : Signalled lower) (h : t.Quiet) : t.Final := by
  obtain ⟨hstarts, hlater⟩ := t.not_start_after h
  refine ⟨hstarts, fun pid address hr => ?_, fun pid address hr => ?_⟩
  · cases hr.unreaped.symm.trans ((t.cleared_trapped h.recorded).2 pid)
  · cases hr.unreaped.symm.trans (hlater pid)

/-- A signal after `before` calls in a scene, `after` calls after the trap, and the lines that are
listed then. -/
def Scene.signalled (s : Scene) (hw : s.world = .initial) (hs : s.Fresh)
    (rounds before trap after : ℕ) (lines : List String)
    (hcall : ∃ c k, (advance answer before (script Char.toLower rounds) s).2.1 = .call c k)
    (hdone : (advance answer trap stopAll
      (advance answer before (script Char.toLower rounds) s).2.2).2.1 = .done (.ok ())) :
    Signalled Char.toLower :=
  let first := advance answer before (script Char.toLower rounds) s
  let second := advance answer trap stopAll first.2.2
  let third := advance answer after first.2.1 { second.2.2 with lines }
  have hfirst := trail_advance Scene.world next_answer before (script Char.toLower rounds) hs
  have hsecond := trail_advance Scene.world next_answer trap stopAll hfirst.2
  { rounds
    before := first.1
    position := first.2.1
    atSignal := first.2.2.world
    trap := second.1
    trapped := second.2.2.world
    after := third.1
    stop := third.2.1
    later := third.2.2.world
    reaches := path_advance answer before _ s
    at_call := hcall
    trail_before := hw ▸ hfirst.1
    traps := hdone ▸ path_advance answer trap _ _
    trail_trap := hsecond.1
    resumes := path_advance answer after _ _
    trail_after := (trail_advance Scene.world next_answer after first.2.1
      (show Fresh { second.2.2 with lines } from hsecond.2)).1 }

/-- A signal during the first sleep -/
def resumed : Signalled Char.toLower :=
  wired.signalled rfl fresh_wired 3 8 5 8 wired.lines ⟨_, _, rfl⟩ rfl

/-- The next poll starts a process for the same address again. -/
theorem resumed_starts : ¬resumed.Final := fun h =>
  h.starts "10.0.0.5" 2 (List.mem_of_getElem? (i := 6) rfl)

/-- A signal during the first sleep, after which no address is listed -/
def unplugged : Signalled Char.toLower :=
  wired.signalled rfl fresh_wired 3 8 5 6 [] ⟨_, _, rfl⟩ rfl

theorem unplugged_after : unplugged.after = [⟨.sleep, .ok true⟩, ⟨.hostname, .ok "pi"⟩,
    ⟨.ipAddressShow, .ok []⟩, ⟨.publisherKeys, .ok []⟩, ⟨.activeKeys [], .ok []⟩,
    ⟨.sleep, .ok true⟩] := rfl

theorem final_of_quiet_unplugged : unplugged.Final :=
  final_of_quiet unplugged
    { recorded := rfl
      left := .inl rfl
      lists := fun lines h => by
        have hlines : lines = [] := by simpa [unplugged_after] using h
        rw [hlines]
        rfl }

end ApplianceAdmin.Recovery
