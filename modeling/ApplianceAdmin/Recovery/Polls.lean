import ApplianceAdmin.Recovery.World

/-!
# The publishers after each poll

What the functions and the loops of the script do to the view, and from it the invariant of the
publisher map over all polls.

* `wp_stopPublisher`, `wp_stopAll`: one publisher, and all of them, recorded and running no longer;
* `Swept`, `Published`: the invariants of the two loops over addresses;
* `Refreshed`: what a poll has done when the hostname is not the recovery name;
* `Polled`, `polled_publishers`: a world between two polls, and the invariant.
-/

namespace ApplianceAdmin.Recovery

open Async Monitor

/-! ### Stopping publishers -/

namespace View

/-- The publisher of an address is stopped. -/
def stopped (v : View) (address : String) : View where
  recorded := Function.update v.recorded address none
  unreaped := fun q => if v.recorded address = some q then none else v.unreaped q
  found := v.found

/-- Every publisher is stopped. -/
def cleared (v : View) : View := ⟨fun _ => none, fun _ => none, v.found⟩

theorem stopped_of_none {v : View} {address : String} (h : v.recorded address = none) :
    v.stopped address = v := by
  refine View.ext ?_ ?_ rfl
  · rw [stopped, ← h, Function.update_eq_self]
  · simp [stopped, h]

/-- Waiting for a recorded process and removing its record -/
theorem after_wait_unset {v : View} {address : String} {pid : ℕ}
    (h : v.recorded address = some pid) :
    (v.after (.wait pid) ()).after (.unset address) () = v.stopped address := by
  refine View.ext rfl ?_ rfl
  funext q
  by_cases hq : q = pid
  · subst hq
    simp [View.after, stopped, h]
  · simp [View.after, stopped, h, hq, Ne.symm hq]

theorem Recorded.wait {v : View} (h : v.Recorded) (pid : ℕ) :
    (v.after (.wait pid) ()).Recorded := by
  intro q a hq
  simp only [View.after, Function.update_apply] at hq
  split at hq
  · cases hq
  · exact h q a hq

theorem Recorded.stopped {v : View} (h : v.Recorded) (address : String) :
    (v.stopped address).Recorded := by
  intro q a hq
  simp only [View.stopped] at hq ⊢
  split at hq
  · cases hq
  · next hne =>
    have ha : a ≠ address := fun ha => hne (ha ▸ h q a hq)
    rw [Function.update_of_ne ha]
    exact h q a hq

theorem Tidy.stopped {v : View} (h : v.Tidy) (address : String) : (v.stopped address).Tidy := by
  refine fun q a => ⟨h.recorded.stopped address q a, fun hq => ?_⟩
  have ha : a ≠ address := by
    rintro rfl
    simp [View.stopped] at hq
  simp only [View.stopped, Function.update_of_ne ha] at hq ⊢
  have hu := (h q a).2 hq
  rw [if_neg fun hr => ha (Option.some.inj (hu.symm.trans ((h q address).2 hr)))]
  exact hu

end View

variable {v : View} {Q : Except Exit Unit → View → Prop}

theorem wp_stopPublisher {address : String} (hv : v.Recorded)
    (hQ : Q (.ok ()) (v.stopped address)) : viewing.wp (stopPublisher address) Q v := by
  refine wp_ask hv fun pid hpid => ?_
  cases pid with
  | none => exact (View.stopped_of_none hpid.symm) ▸ hQ
  | some pid =>
    refine wp_ask hv fun _ _ => wp_ask hv fun _ _ => (viewing.wp_ask).2 ⟨hv.wait pid, ?_⟩
    rintro u v' ⟨_, ⟨⟩, -, rfl⟩
    exact (View.after_wait_unset hpid.symm) ▸ hQ

theorem wp_stopAll (hv : v.Recorded) (hQ : Q (.ok ()) v.cleared) : viewing.wp stopAll Q v := by
  refine wp_ask hv fun keys hkeys => viewing.wp_forEach (fun rest v' => v'.Recorded ∧
    (∀ a ∉ rest, v'.recorded a = none) ∧ v'.found = v.found) ⟨hv, fun a ha => ?_, rfl⟩ ?_ ?_
  · simpa [View.after] using mt (hkeys.2 a).2 ha
  · rintro address rest v' ⟨hr, hn, hf⟩
    refine wp_stopPublisher hr ⟨hr.stopped address, fun a ha => ?_, hf⟩
    by_cases haddress : a = address
    · simp [View.stopped, haddress]
    · simpa [View.stopped, haddress] using hn a (by simp [haddress, ha])
  · rintro v' ⟨hr, hn, hf⟩
    have hrec : v'.recorded = fun _ => none := funext fun a => hn a List.not_mem_nil
    have hun : v'.unreaped = fun _ => none := by
      refine funext fun q => Option.eq_none_iff_forall_ne_some.2 fun a ha => ?_
      have := hr q a ha
      simp [hrec] at this
    rwa [show v' = v.cleared from View.ext hrec hun hf]

theorem wp_pause (hv : v.Recorded) (hQ : Q (.ok ()) v) (hE : Q (.error .errexit) v) :
    viewing.wp pause Q v := by
  refine wp_ask hv fun slept _ => ?_
  cases slept
  · exact hE
  · exact hQ

/-! ### The first loop -/

/-- The publishers of `rest` are still to be checked: those of `v₀` whose address is not active
are stopped, and those that were found alive are kept. -/
structure Swept (active : List String) (v₀ : View) (rest : List String) (v : View) : Prop where
  tidy : v.Tidy
  nodup : rest.Nodup
  kept : ∀ a q, v.recorded a = some q → v₀.recorded a = some q
  left : ∀ a ∈ rest, (v.recorded a).isSome
  active : ∀ a q, v.recorded a = some q → a ∈ rest ∨ a ∈ active
  found : ∀ q ∈ v.found, q ∈ v₀.found ∨ ∃ a ∉ rest, v.recorded a = some q

namespace Swept

variable {active rest : List String} {v₀ v : View} {address : String}

theorem stopped (h : Swept active v₀ (address :: rest) v) :
    Swept active v₀ rest (v.stopped address) where
  tidy := h.tidy.stopped address
  nodup := h.nodup.of_cons
  kept a q hq := by
    simp only [View.stopped, Function.update_apply] at hq
    split at hq
    · cases hq
    · exact h.kept a q hq
  left a ha := by
    have hne : a ≠ address := fun he => (List.nodup_cons.1 h.nodup).1 (he ▸ ha)
    simpa [View.stopped, hne] using h.left a (List.mem_cons_of_mem _ ha)
  active a q hq := by
    simp only [View.stopped, Function.update_apply] at hq
    split at hq
    · cases hq
    · next hne => exact (h.active a q hq).imp_left fun ha => (List.mem_cons.1 ha).resolve_left hne
  found q hq := by
    refine (h.found q hq).imp_right fun ⟨a, ha, hr⟩ => ⟨a, fun hm => ha (.tail _ hm), ?_⟩
    have hne : a ≠ address := fun he => ha (he ▸ List.mem_cons_self)
    simpa [View.stopped, hne] using hr

theorem alive (h : Swept active v₀ (address :: rest) v) (hactive : address ∈ active) {pid : ℕ}
    (hpid : v.recorded address = some pid) :
    Swept active v₀ rest (v.after (.killZero pid) true) where
  tidy := h.tidy
  nodup := h.nodup.of_cons
  kept := h.kept
  left a ha := h.left a (List.mem_cons_of_mem _ ha)
  active a q hq := by
    refine (h.active a q hq).elim (fun ha => ?_) .inr
    obtain rfl | ha := List.mem_cons.1 ha
    · exact .inr hactive
    · exact .inl ha
  found q hq := by
    obtain rfl | hq := List.mem_cons.1 hq
    · exact .inr ⟨address, (List.nodup_cons.1 h.nodup).1, hpid⟩
    · exact (h.found q hq).imp_right fun ⟨a, ha, hr⟩ => ⟨a, fun hm => ha (.tail _ hm), hr⟩

end Swept

theorem wp_check {active rest : List String} {v₀ : View} {address : String}
    (h : Swept active v₀ (address :: rest) v) (hQ : ∀ v', Swept active v₀ rest v' → Q (.ok ()) v') :
    viewing.wp (check active address) Q v := by
  have hv := h.tidy.recorded
  refine wp_ask hv fun pid hpid => ?_
  cases pid with
  | none =>
    have hleft := h.left address List.mem_cons_self
    rw [← (hpid : none = v.recorded address)] at hleft
    cases hleft
  | some pid =>
    refine (viewing.wp_ite).2 ?_
    split
    · exact wp_stopPublisher hv (hQ _ h.stopped)
    · next hactive =>
      refine wp_ask hv fun alive _ => ?_
      cases alive with
      | true => exact hQ _ (h.alive (not_not.1 hactive) hpid.symm)
      | false => exact wp_stopPublisher hv (hQ _ h.stopped)

theorem wp_sweep {active : List String} (hv : v.Tidy)
    (hQ : ∀ v', Swept active v [] v' → Q (.ok ()) v') : viewing.wp (sweep active) Q v := by
  refine wp_ask hv.recorded fun keys hkeys => viewing.wp_forEach (Swept active v) ?_
    (fun address rest v' h => wp_check h fun _ h' => h') hQ
  exact {
    tidy := hv
    nodup := hkeys.1
    kept := fun a q h => h
    left := fun a ha => (hkeys.2 a).1 ha
    active := fun a q h => .inl ((hkeys.2 a).2 (Option.isSome_of_eq_some h))
    found := fun q hq => .inl hq }

/-! ### The second loop -/

/-- The addresses of `rest` are still to be published, after those of `active` before them. -/
structure Published (active : List String) (v₀ : View) (rest : List String) (v : View) : Prop where
  tidy : v.Tidy
  nodup : rest.Nodup
  subset : rest ⊆ active
  kept : ∀ a q, v₀.recorded a = some q → v.recorded a = some q
  recorded_iff : ∀ a, (v.recorded a).isSome ↔ (v₀.recorded a).isSome ∨ a ∈ active ∧ a ∉ rest
  found : v.found = v₀.found

/-- A new process that is recorded for an address without one -/
theorem View.Tidy.started {v : View} (h : v.Tidy) {address : String} {pid : ℕ}
    (hnone : v.recorded address = none) (hpid : v.unreaped pid = none) :
    ((v.after (.start address) pid).after (.assign address pid) ()).Tidy := by
  intro q a
  have hiff := h q a
  simp only [View.after, Function.update_apply]
  by_cases hq : q = pid <;> by_cases ha : a = address
  · simp [hq, ha]
  · subst hq
    simpa [ha, Ne.symm ha, hpid] using hiff
  · subst ha
    simpa [hq, Ne.symm hq, hnone] using hiff
  · simpa [hq, ha] using hiff

namespace Published

variable {active rest : List String} {v₀ v : View} {address : String}

theorem skip (h : Published active v₀ (address :: rest) v) (hsome : (v.recorded address).isSome) :
    Published active v₀ rest v where
  tidy := h.tidy
  nodup := h.nodup.of_cons
  subset := fun a ha => h.subset (.tail _ ha)
  kept := h.kept
  recorded_iff a := by
    rw [h.recorded_iff a]
    by_cases ha : a = address
    · subst ha
      have hrest := (List.nodup_cons.1 h.nodup).1
      have := (h.recorded_iff a).1 hsome
      have := h.subset List.mem_cons_self
      grind
    · simp [ha]
  found := h.found

theorem started (h : Published active v₀ (address :: rest) v) (hnone : v.recorded address = none)
    {pid : ℕ} (hpid : v.unreaped pid = none) : Published active v₀ rest
      ((v.after (.start address) pid).after (.assign address pid) ()) where
  tidy := h.tidy.started hnone hpid
  nodup := h.nodup.of_cons
  subset := fun a ha => h.subset (.tail _ ha)
  kept a q hq := by
    have hr := h.kept a q hq
    have ha : a ≠ address := by
      rintro rfl
      cases hnone.symm.trans hr
    simpa [View.after, ha] using hr
  recorded_iff a := by
    by_cases ha : a = address
    · subst ha
      simp [View.after, (List.nodup_cons.1 h.nodup).1, h.subset List.mem_cons_self]
    · simpa [View.after, ha] using h.recorded_iff a
  found := h.found

end Published

theorem wp_announce {active rest : List String} {v₀ : View} {address : String}
    (h : Published active v₀ (address :: rest) v)
    (hQ : ∀ v', Published active v₀ rest v' → Q (.ok ()) v')
    (hE : ∀ v', v'.Tidy → Q (.error .errexit) v') : viewing.wp (announce address) Q v := by
  have hv := h.tidy.recorded
  refine wp_ask hv fun published hpublished => ?_
  have hpublished : published = (v.recorded address).isSome := hpublished
  refine (viewing.wp_ite).2 ?_
  split
  · next hp => exact hQ _ (h.skip (hpublished ▸ hp))
  · next hp =>
    have hnone : v.recorded address = none := by simpa [hpublished] using hp
    refine wp_ask ⟨hv, fun q hq => ?_⟩ fun pid hpid => wp_ask trivial fun _ _ => ?_
    · cases hnone.symm.trans (hv q address hq)
    · refine wp_ask (h.started hnone hpid).tidy.recorded fun written _ => ?_
      cases written with
      | true => exact hQ _ (h.started hnone hpid)
      | false => exact hE _ (h.started hnone hpid).tidy

theorem wp_publish {active : List String} (hv : v.Tidy)
    (hQ : ∀ v', v'.Tidy → (∀ a q, v.recorded a = some q → v'.recorded a = some q) →
      (∀ a, (v'.recorded a).isSome ↔ (v.recorded a).isSome ∨ a ∈ active) →
      v'.found = v.found → Q (.ok ()) v')
    (hE : ∀ v', v'.Tidy → Q (.error .errexit) v') : viewing.wp (publish active) Q v := by
  refine wp_ask hv.recorded fun keys hkeys => viewing.wp_forEach (Published keys v) ?_
    (fun address rest v' h => wp_announce h (fun _ h' => h') hE) fun v' h => ?_
  · exact {
      tidy := hv
      nodup := hkeys.1
      subset := List.Subset.refl _
      kept := fun a q h => h
      recorded_iff := by simp [View.after]
      found := rfl }
  · refine hQ v' h.tidy h.kept (fun a => ?_) h.found
    simpa [hkeys.2 a] using h.recorded_iff a

/-! ### One poll -/

/-- What a poll has done when the hostname is another: the map records the processes for the
addresses of the list, and what was found alive among them is what was recorded before. -/
structure Refreshed (active : List String) (v₀ v : View) : Prop where
  tidy : v.Tidy
  recorded_iff : ∀ a, (v.recorded a).isSome ↔ a ∈ active
  same : ∀ a ∈ active, ∀ q, v₀.recorded a = some q → q ∈ v.found → q ∈ v₀.found ∨
    v.recorded a = some q

theorem wp_refresh {lines : List String} (hv : v.Tidy)
    (hQ : ∀ v', Refreshed (activeAddresses lines) v v' → Q (.ok ()) v')
    (hE : ∀ v', v'.Tidy → Q (.error .errexit) v') : viewing.wp (refresh lines) Q v := by
  refine (viewing.wp_bind).2 (wp_sweep hv fun v₁ h₁ => (viewing.wp_bind).2 ?_)
  refine wp_publish h₁.tidy (fun v₂ h₂ hkept hiff hfound => ?_) hE
  refine wp_pause h₂.recorded (hQ v₂ ⟨h₂, fun a => ?_, fun a ha q hq hf => ?_⟩) (hE v₂ h₂)
  · rw [hiff, or_iff_right_of_imp]
    intro hs
    obtain ⟨q, hq⟩ := Option.isSome_iff_exists.1 hs
    exact (h₁.active a q hq).resolve_left List.not_mem_nil
  · refine (h₁.found q (hfound ▸ hf)).imp_right fun ⟨b, _, hb⟩ => ?_
    -- a process has one address, so the address at which it was found is `a`
    have hba := ((hv q b).2 (h₁.kept b q hb)).symm.trans ((hv q a).2 hq)
    exact hkept a q (Option.some.inj hba ▸ hb)

theorem View.tidy_cleared (v : View) : v.cleared.Tidy := fun q a => by simp [View.cleared]

/-- What a poll does when the hostname is the recovery name -/
theorem wp_defer (hv : v.Recorded) (hQ : Q (.ok ()) v.cleared)
    (hE : Q (.error .errexit) v.cleared) :
    viewing.wp (stopAll >>= fun _ => pause) Q v :=
  (viewing.wp_bind).2 (wp_stopAll hv (wp_pause v.tidy_cleared.recorded hQ hE))

theorem wp_poll {lower : Char → Char} (hv : v.Tidy) :
    viewing.wp (poll lower) (fun _ v' => v'.Tidy) v := by
  refine wp_ask hv.recorded fun hostname _ => (viewing.wp_ite).2 ?_
  split
  · exact wp_defer hv.recorded v.tidy_cleared v.tidy_cleared
  · exact wp_ask hv.recorded fun lines _ => wp_refresh hv (fun _ h => h.tidy) fun _ h => h

/-! ### Every sequence of polls -/

/-- A world between two polls of the script. -/
inductive Polled (lower : Char → Char) : World → Prop
  | initial : Polled lower .initial
  | poll {w w' : World} {tr : List (Event Reply Exit)} : Polled lower w →
      Path (Recovery.poll lower) tr (.done (.ok ())) → world.Trail w tr w' → Polled lower w'

/-- The map and the processes agree between two polls. -/
theorem Polled.tidy {lower : Char → Char} {w : World} (h : Polled lower w) (found : List ℕ) :
    (w.view found).Tidy := by
  induction h generalizing found with
  | initial => exact fun q a => by simp [World.view, World.initial, World.unreaped]
  | poll _ hp ht ih =>
    obtain ⟨found', htr, -, -⟩ := trail_view ht []
    exact wp_outcome hp htr (wp_poll (ih []))

theorem View.Tidy.single {v : View} (h : v.Tidy) : v.Single := fun q q' a hq hq' =>
  Option.some.inj (((h q a).1 hq).symm.trans ((h q' a).1 hq'))

theorem World.publishers_eq_empty {w : World} (h : ∀ a, w.publishers.lookup a = none) :
    w.publishers = ∅ := by
  refine AList.ext (List.eq_nil_iff_forall_not_mem.2 fun e he => ?_)
  have := h e.1
  rw [AList.lookup_eq_none] at this
  exact this (List.mem_keys_of_mem he)

/-- **The recovery publisher.**  In every round of the main loop no two processes run for one
address.  At its end the script has no process and an empty map when the hostname is the recovery
name; otherwise the map records, for the addresses of the list that was read and for no others,
the one process that is not reaped, and it is the process recorded before where that was found
alive. -/
theorem polled_publishers {lower : Char → Char} {w w' : World} (hw : Polled lower w)
    {tr : List (Event Reply Exit)} {q : Script Unit} (hp : Path (poll lower) tr q)
    (ht : world.Trail w tr w') :
    (∀ p p' a, w'.Running p a → w'.Running p' a → p = p') ∧
    (q = .done (.ok ()) → ∃ hostname rest, tr = ⟨.hostname, .ok hostname⟩ :: rest ∧
      (isNative lower hostname = true → (∀ p a, ¬w'.Running p a) ∧ w'.publishers = ∅) ∧
      (isNative lower hostname = false →
        ∃ lines tail, rest = ⟨.ipAddressShow, .ok lines⟩ :: tail ∧
          (∀ a, a ∈ w'.publishers ↔ a ∈ activeAddresses lines) ∧
          (∀ a p, w'.publishers.lookup a = some p ↔ w'.unreaped p = some a) ∧
          ∀ a ∈ activeAddresses lines, ∀ p, w.publishers.lookup a = some p →
            ⟨.killZero p, .ok true⟩ ∈ tr → w'.publishers.lookup a = some p)) := by
  have hv := hw.tidy []
  obtain ⟨found, htr, -, hfound⟩ := trail_view ht []
  constructor
  · have hsingle := wp_invariant hp htr (wp_poll hv) (P := View.Single) ?_ hv.single
    · exact fun p p' a h h' => hsingle p p' a h.unreaped h'.unreaped
    · rintro v c r v' hs hpre ⟨a, -, -, rfl⟩
      exact hs.after hpre a
  · rintro rfl
    obtain ⟨hostname, rest, rfl, hrest⟩ := hp.of_ask_bind
    obtain ⟨_, ⟨_, -, -, rfl⟩, htr⟩ := htr
    refine ⟨hostname, rest, rfl, fun hn => ?_, fun hn => ?_⟩
    · rw [if_pos hn] at hrest
      have hview : w'.view found = (w.view []).cleared :=
        wp_outcome hrest htr (wp_defer (Q := fun _ v' => v' = (w.view []).cleared)
          hv.recorded rfl rfl)
      refine ⟨fun p a hr => ?_, World.publishers_eq_empty (congrFun (congrArg View.recorded hview))⟩
      cases hr.unreaped.symm.trans (congrFun (congrArg View.unreaped hview) p)
    · rw [if_neg (by simp [hn])] at hrest
      obtain ⟨lines, tail, rfl, htail⟩ := hrest.of_ask_bind
      obtain ⟨_, ⟨_, -, -, rfl⟩, htr⟩ := htr
      have h := wp_outcome htail htr (wp_refresh (Q := fun r v' => r = .ok () →
        Refreshed (activeAddresses lines) (w.view []) v') hv (fun _ h _ => h) nofun) rfl
      refine ⟨lines, tail, rfl, fun a => ?_, fun a p => (h.tidy p a).symm, fun a ha p hp hk => ?_⟩
      · exact AList.lookup_isSome.symm.trans (h.recorded_iff a)
      · exact (h.same a ha p hp (hfound p hk)).resolve_left List.not_mem_nil

/-- The calls of one poll in a scene, and the scene after it. -/
def Scene.polled (s : Scene) : List (Event Reply Exit) × Script Unit × Scene :=
  advance Scene.answer 16 (poll Char.toLower) s

/-- One address, before the first poll -/
def wired : Scene :=
  ⟨.initial, 1, "pi", ["2: eth0    inet 10.0.0.5/24 brd 10.0.0.255 scope global eth0"]⟩

theorem fresh_wired : wired.Fresh := fun _ _ => rfl

/-- The second poll finds the process that the first has started. -/
theorem polled_publishers_wired :
    wired.polled.2.2.polled.2.2.world.publishers.lookup "10.0.0.5" = some 1 ∧
      ∀ p p' a, wired.polled.2.2.polled.2.2.world.Running p a →
        wired.polled.2.2.polled.2.2.world.Running p' a → p = p' := by
  have first := trail_advance Scene.world Scene.next_answer 16 (poll Char.toLower) fresh_wired
  have second := trail_advance Scene.world Scene.next_answer 16 (poll Char.toLower) first.2
  have hpolled : Polled Char.toLower wired.polled.2.2.world :=
    .poll .initial (path_advance Scene.answer 16 (poll Char.toLower) wired) first.1
  obtain ⟨hsingle, hround⟩ := polled_publishers hpolled
    (path_advance Scene.answer 16 (poll Char.toLower) wired.polled.2.2) second.1
  obtain ⟨hostname, rest, htr, -, hother⟩ := hround rfl
  cases htr
  obtain ⟨lines, tail, hrest, -, -, hsame⟩ := hother rfl
  cases hrest
  exact ⟨hsame "10.0.0.5" (by decide) 1 rfl (List.mem_of_getElem? (i := 4) rfl), hsingle⟩

end ApplianceAdmin.Recovery
