import ApplianceAdmin.Migration.Profiles

/-!
# A profile for every Ethernet adapter

What the Ethernet loop of `migrate-wifi-to-networkmanager.sh` makes of the saved profiles.

* `Turn`: one round of the loop, as a step of the store; `yields_configureEthernet`: it is what the
  script does;
* `Settled`: every device has its profile, and no other profile has suffered;
* `Unclaimed`: the names that the script needs belong to nobody else;
* `ethernet_settled_iff`: from exactly these stores the loop always settles the devices.

A profile that has just been added is configured under its name, and another profile may come first
under that name.
-/

namespace ApplianceAdmin.Migration

open Async Async.Prog Async.Monitor

/-! ### Rounds -/

theorem profileName_injective : Function.Injective profileName := fun _ _ h =>
  (String.append_right_inj _).1 h

/-- One round of the loop -/
inductive Turn (e : String) (s : Store) : Store → Prop
  | skip : e = "" → Turn e s s
  | reuse {p : Profile} : e ≠ "" → s.serving e = some p → Turn e s (s.configure p.uuid e)
  | add {s₁ : Store} {p : Profile} : e ≠ "" → s.serving e = none → s.Adds e (profileName e) s₁ →
      s₁.named (profileName e) = some p → Turn e s (s₁.configure p.uuid e)

/-- The loop has completed: no command has ended the script. -/
def Completes (devices : List String) (s s' : Store) : Prop :=
  ∃ tr, Path (ethernetLoop devices) tr (.done (.ok ())) ∧ saving.Trail s tr s'

variable {s s₁ s' : Store} {p q : Profile} {e e' : String} {devices : List String}

theorem yields_interfaceName (hp : p ∈ s.profiles) {name : String} :
    saving.Yields (perform (Call.interfaceName p.uuid.text)) s (.ok name) s' ↔
      name = p.interfaceName ∧ s' = s := by
  rw [yields_perform]
  constructor
  · rintro ⟨⟨q, hq, rfl⟩, rfl⟩
    rw [Store.target_uuid hp, Option.some.injEq] at hq
    exact ⟨hq ▸ rfl, rfl⟩
  · rintro ⟨rfl, rfl⟩
    exact ⟨⟨p, Store.target_uuid hp, rfl⟩, rfl⟩

/-- The inner loop tells the first profile that serves the device. -/
theorem yields_findProfile {l : List Profile} (hl : ∀ p ∈ l, p ∈ s.profiles) {found : String} :
    saving.Yields (findProfile e (l.map fun p => (p.uuid.text, p.type))) s (.ok found) s' ↔
      found = ((l.find? fun p => p.Serves e).elim "" fun p => p.uuid.text) ∧ s' = s := by
  induction l with
  | nil => simp [findProfile]
  | cons p l ih =>
    obtain ⟨hp, hl⟩ := List.forall_mem_cons.1 hl
    rw [List.map_cons, findProfile]
    by_cases htype : p.type = ethernetType
    · rw [if_neg (not_not.2 htype), yields_bind]
      by_cases hname : p.interfaceName = e
      · rw [List.find?_cons_of_pos (by simp [Profile.Serves, htype, hname])]
        constructor
        · rintro ⟨name, s₁, hask, hrest⟩
          obtain ⟨rfl, rfl⟩ := (yields_interfaceName hp).1 hask
          rw [if_pos hname, yields_pure] at hrest
          exact ⟨Except.ok.inj hrest.1, hrest.2⟩
        · rintro ⟨rfl, rfl⟩
          refine ⟨_, s', (yields_interfaceName hp).2 ⟨rfl, rfl⟩, ?_⟩
          rw [if_pos hname]
          exact ⟨rfl, rfl⟩
      · rw [List.find?_cons_of_neg (by simp [Profile.Serves, hname]), ← ih hl]
        constructor
        · rintro ⟨name, s₁, hask, hrest⟩
          obtain ⟨rfl, rfl⟩ := (yields_interfaceName hp).1 hask
          rwa [if_neg hname] at hrest
        · intro hrest
          refine ⟨_, s, (yields_interfaceName hp).2 ⟨rfl, rfl⟩, ?_⟩
          rwa [if_neg hname]
    · rw [if_pos htype, List.find?_cons_of_neg (by simp [Profile.Serves, htype])]
      exact ih hl

/-- The end of a round -/
theorem yields_modifyEthernet {profile : String} :
    saving.Yields (perform (Call.modifyEthernet profile e) >>= fun _ =>
      orTrue (perform (Call.up profile e))) s (.ok ()) s' ↔
      ∃ p, s.target profile = some p ∧ s' = s.configure p.uuid e := by
  rw [yields_bind]
  constructor
  · rintro ⟨⟨⟩, s₁, hmodify, hup⟩
    obtain ⟨p, hp, rfl⟩ := yields_perform.1 hmodify
    rcases yields_tryCatch.1 hup with h | ⟨x, s₂, h, -, rfl⟩
    · exact ⟨p, hp, yields_perform.1 h⟩
    · exact ⟨p, hp, yields_perform.1 h⟩
  · rintro ⟨p, hp, rfl⟩
    refine ⟨(), _, yields_perform.2 ⟨p, hp, rfl⟩, yields_tryCatch.2 (.inl ?_)⟩
    exact yields_perform.2 rfl

/-- The profile that a round configures: one that serves the device, or the one that it adds. -/
theorem yields_choose {found profile : String}
    (hfound : found = (s.serving e).elim "" fun p => p.uuid.text) :
    saving.Yields (if found = "" then do
        perform (Call.addEthernet e (profileName e))
        pure (profileName e)
      else pure found : Script String) s (.ok profile) s' ↔
      (∃ p, s.serving e = some p ∧ profile = p.uuid.text ∧ s' = s) ∨
        (s.serving e = none ∧ profile = profileName e ∧ s.Adds e (profileName e) s') := by
  cases hserving : s.serving e with
  | none =>
    obtain rfl : found = "" := by rw [hfound, hserving]; rfl
    rw [if_pos rfl, yields_bind]
    constructor
    · rintro ⟨⟨⟩, s₁, hadd, hpure⟩
      obtain ⟨hprofile, rfl⟩ := hpure
      exact .inr ⟨rfl, Except.ok.inj hprofile, yields_perform.1 hadd⟩
    · rintro (⟨p, hp, -⟩ | ⟨-, rfl, hadd⟩)
      · cases hp
      · exact ⟨(), s', yields_perform.2 hadd, rfl, rfl⟩
  | some p =>
    rw [hserving] at hfound
    have hne : found ≠ "" := hfound ▸ p.uuid.ne_empty
    rw [if_neg hne, yields_pure]
    constructor
    · rintro ⟨hprofile, rfl⟩
      exact .inl ⟨p, rfl, (Except.ok.inj hprofile).trans hfound, rfl⟩
    · rintro (⟨q, hq, rfl, rfl⟩ | ⟨hq, -⟩)
      · cases hq
        exact ⟨congrArg Except.ok hfound.symm, rfl⟩
      · cases hq

/-- **The script makes these rounds.** -/
theorem yields_configureEthernet :
    saving.Yields (configureEthernet e) s (.ok ()) s' ↔ Turn e s s' := by
  unfold configureEthernet
  by_cases he : e = ""
  · rw [if_pos he, yields_pure]
    constructor
    · rintro ⟨-, rfl⟩
      exact .skip he
    · rintro (⟨-⟩ | ⟨h, -⟩ | ⟨h, -, -, -⟩)
      · exact ⟨rfl, rfl⟩
      · exact absurd he h
      · exact absurd he h
  · rw [if_neg he]
    constructor
    · intro h
      obtain ⟨listed, s₁, hlist, hlisted⟩ := yields_bind.1 h
      obtain ⟨rfl, rfl⟩ := yields_ask.1 hlist
      obtain ⟨found, s₂, hfind, hround⟩ := yields_bind.1 hlisted
      obtain ⟨hfound, rfl⟩ := (yields_findProfile fun p hp => hp).1 hfind
      obtain ⟨profile, s₃, hchoose, hmodify⟩ := yields_bind.1 hround
      obtain ⟨p, hp, rfl⟩ := yields_modifyEthernet.1 hmodify
      rcases (yields_choose hfound).1 hchoose with ⟨q, hq, rfl, rfl⟩ | ⟨hnone, rfl, hadd⟩
      · rw [Store.target_uuid (Store.mem_of_serving hq), Option.some.injEq] at hp
        subst hp
        exact .reuse he hq
      · rw [Store.target_profileName] at hp
        exact .add he hnone hadd hp
    · intro h
      refine yields_bind.2 ⟨s.listing, s, yields_ask.2 ⟨rfl, rfl⟩, yields_bind.2 ⟨_, s,
        (yields_findProfile fun p hp => hp).2 ⟨rfl, rfl⟩, yields_bind.2 ?_⟩⟩
      cases h with
      | skip h => exact absurd h he
      | reuse _ hq =>
        refine ⟨_, s, (yields_choose rfl).2 (.inl ⟨_, hq, rfl, rfl⟩), yields_modifyEthernet.2 ?_⟩
        exact ⟨_, Store.target_uuid (Store.mem_of_serving hq), rfl⟩
      | add _ hnone hadd hp =>
        refine ⟨_, _, (yields_choose rfl).2 (.inr ⟨hnone, rfl, hadd⟩), yields_modifyEthernet.2 ?_⟩
        exact ⟨_, Store.target_profileName.trans hp, rfl⟩

/-- A run of the loop is one round for each device. -/
theorem completes_iff : Completes devices s s' ↔ Chain Turn devices s s' :=
  yields_iff_path.symm.trans (yields_forEach fun _ _ _ => yields_configureEthernet)

/-! ### What one round changes -/

/-- A saved profile is changed only if it serves the device or has the name that is made for it. -/
theorem Turn.mem_of_other (h : Turn e s s') (hp : p ∈ s.profiles) (hserves : ¬p.Serves e)
    (hid : p.id ≠ profileName e) : p ∈ s'.profiles := by
  cases h with
  | skip => exact hp
  | reuse _ hq =>
    refine Store.mem_configure_of_ne hp fun huuid => hserves ?_
    rw [Store.eq_of_uuid hp (Store.mem_of_serving hq) huuid]
    exact Store.serves_of_serving hq
  | add _ _ hadd hq =>
    obtain ⟨u, -, hmem⟩ := hadd.mem
    have hp₁ := (hmem p).2 (.inr hp)
    refine Store.mem_configure_of_ne hp₁ fun huuid => hid ?_
    rw [Store.eq_of_uuid hp₁ (Store.mem_of_named hq) huuid]
    exact Store.id_of_named hq

/-- What is bound to another device afterwards was there before. -/
theorem Turn.mem_before (h : Turn e s s') (hq : q ∈ s'.profiles) (hne : q.interfaceName ≠ e) :
    q ∈ s.profiles := by
  cases h with
  | skip => exact hq
  | reuse =>
    obtain ⟨p, hp, rfl⟩ := Store.mem_configure.1 hq
    split at hne
    · exact absurd rfl hne
    · rwa [if_neg ‹_›]
  | add _ _ hadd =>
    obtain ⟨u, -, hmem⟩ := hadd.mem
    obtain ⟨p, hp, rfl⟩ := Store.mem_configure.1 hq
    split at hne
    · exact absurd rfl hne
    · rw [if_neg ‹_›]
      rcases (hmem p).1 hp with rfl | hp
      · exact absurd rfl hne
      · exact hp

/-- A round gives no other device a profile. -/
theorem Turn.serving_eq_none (h : Turn e s s') (hne : e' ≠ e) (hnone : s.serving e' = none) :
    s'.serving e' = none := by
  rw [Store.serving_eq_none] at hnone ⊢
  intro q hq hserves
  have hbefore : q ∈ s.profiles := h.mem_before hq fun he => hne (hserves.2.symm.trans he)
  exact hnone q hbefore hserves

/-- What a round adds -/
theorem Turn.added (h : Turn e s s') (hq : q ∈ s'.profiles) (hnew : q.uuid ∉ s.uuids) :
    e ≠ "" ∧ q.interfaceName = e ∧ s.serving e = none := by
  have hname : q.interfaceName = e := by
    by_contra hne
    exact hnew (Store.mem_uuids (h.mem_before hq hne))
  cases h with
  | skip => exact absurd (Store.mem_uuids hq) hnew
  | reuse =>
    have hmem := Store.mem_uuids hq
    rw [Store.uuids_configure] at hmem
    exact absurd hmem hnew
  | add he hnone => exact ⟨he, hname, hnone⟩

/-- The first profile with the name of another device -/
theorem Turn.named (h : Turn e s s') (hne : e' ≠ e) : ∃ g : Profile → Profile,
    s'.named (profileName e') = (s.named (profileName e')).map g ∧
    ∀ p, s.named (profileName e') = some p →
      g p = p ∨ e ≠ "" ∧ p.Serves e ∧ g p = p.configure e := by
  cases h with
  | skip => exact ⟨id, Option.map_id'.symm, fun p _ => .inl rfl⟩
  | @reuse q he hq =>
    refine ⟨_, Store.named_configure, fun p hp => ?_⟩
    by_cases huuid : p.uuid = q.uuid
    · rw [if_pos huuid]
      rw [Store.eq_of_uuid (Store.mem_of_named hp) (Store.mem_of_serving hq) huuid]
      exact .inr ⟨he, Store.serves_of_serving hq, rfl⟩
    · exact .inl (if_neg huuid)
  | @add s₁ q he hnone hadd hq =>
    have hname : profileName e' ≠ profileName e := fun h => hne (profileName_injective h)
    have hnamed := hadd.named_of_ne hname
    refine ⟨_, Store.named_configure.trans (congrArg _ hnamed), fun p hp => .inl (if_neg ?_)⟩
    rintro huuid
    rw [← hnamed] at hp
    rw [Store.eq_of_uuid (Store.mem_of_named hp) (Store.mem_of_named hq) huuid] at hp
    exact hname ((Store.id_of_named hp).symm.trans (Store.id_of_named hq))

/-! ### Names that nobody else has -/

/-- The first profile with the name that is made for the device is an Ethernet profile that is bound
to no device, if there is one. -/
def Store.Free (s : Store) (e : String) : Prop :=
  ∀ p ∈ s.named (profileName e), p.type = ethernetType ∧ p.interfaceName = ""

instance (s : Store) (e : String) : Decidable (s.Free e) :=
  inferInstanceAs (Decidable (∀ p ∈ s.named (profileName e), _ ∧ _))

/-- The names that the loop needs are free. -/
def Unclaimed (devices : List String) (s : Store) : Prop :=
  ∀ e ∈ devices, e ≠ "" → s.serving e = none → s.Free e

theorem Turn.free (h : Turn e s s') (hne : e' ≠ e) (hfree : s.Free e') : s'.Free e' := by
  obtain ⟨g, hnamed, hg⟩ := h.named hne
  intro p' hp'
  rw [hnamed] at hp'
  obtain ⟨p, hp, rfl⟩ := Option.map_eq_some_iff.1 hp'
  obtain ⟨htype, hname⟩ := hfree p hp
  rcases hg p hp with hsame | ⟨he, hserves, -⟩
  · rw [hsame]
    exact ⟨htype, hname⟩
  · exact absurd (hserves.2.symm.trans hname) he

/-- What the loop wants of a profile -/
def Profile.Ready (p : Profile) : Prop := p.autoconnect = true ∧ p.autoconnectPriority = 100

/-- What becomes of a profile that is bound to a device -/
def Profile.Follows (p p' : Profile) : Prop := p' = p ∨ p' = p.configure p.interfaceName

namespace Profile.Follows

theorem trans {p p' p'' : Profile} (h : p.Follows p') (h' : p'.Follows p'') : p.Follows p'' := by
  rcases h with rfl | rfl
  · exact h'
  · rcases h' with rfl | rfl
    · exact .inr rfl
    · exact .inr rfl

variable {p p' : Profile} (h : p.Follows p')
include h

theorem uuid : p'.uuid = p.uuid := by
  rcases h with rfl | rfl <;> rfl

theorem type : p'.type = p.type := by
  rcases h with rfl | rfl <;> rfl

theorem interfaceName : p'.interfaceName = p.interfaceName := by
  rcases h with rfl | rfl <;> rfl

theorem serves (hp : p.Serves e) : p'.Serves e := ⟨h.type.trans hp.1, h.interfaceName.trans hp.2⟩

theorem ready (hp : p.Ready) : p'.Ready := by
  rcases h with rfl | rfl
  · exact hp
  · exact ⟨rfl, rfl⟩

end Profile.Follows

/-- The device of the round has its profile. -/
theorem Turn.served (h : Turn e s s') (he : e ≠ "")
    (hfree : e ≠ "" → s.serving e = none → s.Free e) : ∃ p ∈ s'.profiles, p.Serves e ∧ p.Ready := by
  cases h with
  | skip h => exact absurd h he
  | @reuse p _ hp =>
    have htype : p.type = ethernetType := (Store.serves_of_serving hp).1
    exact ⟨_, Store.mem_configure_self (Store.mem_of_serving hp), ⟨htype, rfl⟩, rfl, rfl⟩
  | @add s₁ p _ hnone hadd hp =>
    have htype : p.type = ethernetType := by
      rcases hadd.named with ⟨u, -, hnew⟩ | hold
      · rw [hp, Option.some.injEq] at hnew
        rw [hnew]
        rfl
      · exact (hfree he hnone p (hold ▸ hp)).1
    exact ⟨_, Store.mem_configure_self (Store.mem_of_named hp), ⟨htype, rfl⟩, rfl, rfl⟩

/-- A profile that is bound to a device stays with it. -/
theorem Turn.keeps (h : Turn e s s') (hfree : e ≠ "" → s.serving e = none → s.Free e)
    (hp : p ∈ s.profiles) (hbound : p.interfaceName ≠ "") : ∃ p' ∈ s'.profiles, p.Follows p' := by
  cases h with
  | skip => exact ⟨p, hp, .inl rfl⟩
  | @reuse q _ hq =>
    by_cases huuid : p.uuid = q.uuid
    · obtain rfl := Store.eq_of_uuid hp (Store.mem_of_serving hq) huuid
      obtain ⟨-, rfl⟩ := Store.serves_of_serving hq
      exact ⟨_, Store.mem_configure_self hp, .inr rfl⟩
    · exact ⟨p, Store.mem_configure_of_ne hp huuid, .inl rfl⟩
  | @add s₁ q he hnone hadd hq =>
    obtain ⟨u, -, hmem⟩ := hadd.mem
    have hp₁ := (hmem p).2 (.inr hp)
    refine ⟨p, Store.mem_configure_of_ne hp₁ fun huuid => ?_, .inl rfl⟩
    obtain rfl := Store.eq_of_uuid hp₁ (Store.mem_of_named hq) huuid
    -- the profile that is configured is new, or bound to no device
    rcases hadd.named with ⟨u, hfresh, hnew⟩ | hold
    · rw [hq, Option.some.injEq] at hnew
      rw [hnew] at hp
      exact hfresh (Store.mem_uuids hp)
    · exact hbound (hfree he hnone p (hold ▸ hq)).2

/-- A device keeps its profile. -/
theorem Turn.serving_of_serving (h : Turn e s s') (hfree : e ≠ "" → s.serving e = none → s.Free e)
    (he' : e' ≠ "") (hnone : s'.serving e' = none) : s.serving e' = none := by
  rw [Store.serving_eq_none] at hnone ⊢
  intro p hp hserves
  obtain ⟨p', hp', hfollows⟩ := h.keeps hfree hp (hserves.2 ▸ he')
  exact hnone p' hp' (hfollows.serves hserves)

/-! ### All rounds -/

/-- What a run of the loop has done -/
structure Grown (devices : List String) (s s' : Store) : Prop where
  served : ∀ e ∈ devices, e ≠ "" → ∃ p ∈ s'.profiles, p.Serves e ∧ p.Ready
  added : ∀ p ∈ s'.profiles, p.uuid ∉ s.uuids →
    p.interfaceName ∈ devices ∧ p.interfaceName ≠ "" ∧ s.serving p.interfaceName = none
  kept : ∀ p ∈ s.profiles, p.interfaceName ≠ "" → ∃ p' ∈ s'.profiles, p.Follows p'

/-- One more round, before the others -/
theorem Grown.cons (h : Grown devices s₁ s') (hturn : Turn e s s₁)
    (hfree : e ≠ "" → s.serving e = none → s.Free e) : Grown (e :: devices) s s' := by
  refine ⟨fun e' he' hempty => ?_, fun p hp hnew => ?_, fun p hp hbound => ?_⟩
  · rcases List.mem_cons.1 he' with rfl | he'
    · -- the other rounds keep what this one has configured
      obtain ⟨p, hp, hserves, hready⟩ := hturn.served hempty hfree
      obtain ⟨p', hp', hfollows⟩ := h.kept p hp (hserves.2 ▸ hempty)
      exact ⟨p', hp', hfollows.serves hserves, hfollows.ready hready⟩
    · exact h.served e' he' hempty
  · by_cases hround : p.uuid ∈ s₁.uuids
    · -- the profile has been added in this round, and has kept its device
      obtain ⟨q, hq, huuid⟩ := List.mem_map.1 hround
      obtain ⟨he, hname, hnone⟩ := hturn.added hq (huuid ▸ hnew)
      obtain ⟨q', hq', hfollows⟩ := h.kept q hq (hname ▸ he)
      obtain rfl := Store.eq_of_uuid hq' hp (hfollows.uuid.trans huuid)
      have hdevice : q'.interfaceName = e := hfollows.interfaceName.trans hname
      rw [hdevice]
      exact ⟨List.mem_cons_self, he, hnone⟩
    · obtain ⟨hmem, hempty, hnone⟩ := h.added p hp hround
      exact ⟨.tail _ hmem, hempty, hturn.serving_of_serving hfree hempty hnone⟩
  · obtain ⟨p₁, hp₁, hfollows⟩ := hturn.keeps hfree hp hbound
    obtain ⟨p', hp', hfollows'⟩ := h.kept p₁ hp₁ (hfollows.interfaceName.symm ▸ hbound)
    exact ⟨p', hp', hfollows.trans hfollows'⟩

/-- From unclaimed names the loop does its work. -/
theorem grown_of_chain (hdevices : devices.Nodup) (hunclaimed : Unclaimed devices s)
    (h : Chain Turn devices s s') : Grown devices s s' := by
  induction devices generalizing s with
  | nil =>
    obtain rfl := h
    exact ⟨fun _ he => absurd he List.not_mem_nil,
      fun p hp hnew => absurd (Store.mem_uuids hp) hnew, fun p hp _ => ⟨p, hp, .inl rfl⟩⟩
  | cons e devices ih =>
    obtain ⟨hnot, hdevices⟩ := List.nodup_cons.1 hdevices
    obtain ⟨s₁, hturn, hrest⟩ := h
    have hne {e' : String} (he' : e' ∈ devices) : e' ≠ e := fun h => hnot (h ▸ he')
    have hfree : e ≠ "" → s.serving e = none → s.Free e := hunclaimed e List.mem_cons_self
    have hgrown : Grown devices s₁ s' := by
      refine ih hdevices (fun e' he' hempty hnone => ?_) hrest
      have hbefore := hturn.serving_of_serving hfree hempty hnone
      exact hturn.free (hne he') (hunclaimed e' (.tail _ he') hempty hbefore)
    exact hgrown.cons hturn hfree

/-! ### Settled devices -/

/-- What the loop is for -/
structure Settled (devices : List String) (s s' : Store) : Prop where
  /-- Every device has an Ethernet profile of its own. -/
  served : ∀ e ∈ devices, e ≠ "" → ∃ p ∈ s'.profiles, p.Serves e ∧ p.autoconnect = true ∧
    p.autoconnectPriority = 100
  /-- A new profile is for a device that had none. -/
  added : ∀ p ∈ s'.profiles, p.uuid ∉ s.uuids → s.serving p.interfaceName = none
  /-- A profile that was bound to a device still is. -/
  kept : ∀ p ∈ s.profiles, p.interfaceName ≠ "" →
    ∃ p' ∈ s'.profiles, p'.uuid = p.uuid ∧ p'.interfaceName = p.interfaceName
  /-- Running the loop again adds no profile. -/
  again : ∀ s'', Completes devices s' s'' → ∀ p ∈ s''.profiles, p.uuid ∈ s'.uuids

/-- A device that has a profile does not need a name. -/
theorem Grown.unclaimed (h : Grown devices s s') : Unclaimed devices s' := by
  intro e he hempty hnone
  obtain ⟨p, hp, hserves, -⟩ := h.served e he hempty
  exact absurd hserves (Store.serving_eq_none.1 hnone p hp)

theorem settled_of_unclaimed (hdevices : devices.Nodup) (hunclaimed : Unclaimed devices s)
    (h : Completes devices s s') : Settled devices s s' := by
  have hgrown := grown_of_chain hdevices hunclaimed (completes_iff.1 h)
  refine ⟨hgrown.served, fun p hp hnew => (hgrown.added p hp hnew).2.2, fun p hp hbound => ?_,
    fun s'' hagain p hp => ?_⟩
  · obtain ⟨p', hp', hfollows⟩ := hgrown.kept p hp hbound
    exact ⟨p', hp', hfollows.uuid, hfollows.interfaceName⟩
  · have hsecond := grown_of_chain hdevices hgrown.unclaimed (completes_iff.1 hagain)
    by_contra hnew
    obtain ⟨he, hempty, hnone⟩ := hsecond.added p hp hnew
    obtain ⟨q, hq, hserves, -⟩ := hgrown.served _ he hempty
    exact Store.serving_eq_none.1 hnone q hq hserves

/-! ### Names that somebody else has -/

/-- Every device can have its round. -/
theorem exists_turn (e : String) (s : Store) : ∃ s', Turn e s s' := by
  by_cases he : e = ""
  · exact ⟨s, .skip he⟩
  · cases hserving : s.serving e with
    | some p => exact ⟨_, .reuse he hserving⟩
    | none =>
      obtain ⟨u, s₁, hadd, hnamed⟩ := s.exists_adds e (profileName e)
      exact ⟨_, .add he hserving hadd hnamed⟩

/-- The profile that has the name can be taken for the one that has been added, which then stays as
it is. -/
theorem exists_turn_of_named (he : e ≠ "") (hnone : s.serving e = none)
    (hp : s.named (profileName e) = some p) : ∃ s', Turn e s s' ∧ p.configure e ∈ s'.profiles ∧
      (p.type ≠ ethernetType → ∀ q ∈ s'.profiles, q.Serves e → q.autoconnectPriority ≠ 100) := by
  obtain ⟨u, s₁, hadd, hnamed⟩ := s.exists_adds e (profileName e)
  rw [hp, Option.getD_some] at hnamed
  refine ⟨_, .add he hnone hadd hnamed, Store.mem_configure_self (Store.mem_of_named hnamed), ?_⟩
  intro htype q hq hserves
  obtain ⟨v, -, hmem⟩ := hadd.mem
  obtain ⟨q₁, hq₁, rfl⟩ := Store.mem_configure.1 hq
  by_cases huuid : q₁.uuid = p.uuid
  · -- what has been configured is no Ethernet profile
    rw [if_pos huuid] at hserves
    rw [Store.eq_of_uuid hq₁ (Store.mem_of_named hnamed) huuid] at hserves
    exact absurd hserves.1 htype
  · rw [if_neg huuid] at hserves ⊢
    rcases (hmem q₁).1 hq₁ with rfl | hq₁
    · simp [Profile.create]
    · exact absurd hserves (Store.serving_eq_none.1 hnone q₁ hq₁)

section Others

variable (he : e ∉ devices) (h : Chain Turn devices s s')
include he h

/-- Rounds of other devices leave the device without a profile, and its name where it is. -/
theorem named_of_chain (hnone : s.serving e = none) (hp : s.named (profileName e) = some p) :
    s'.serving e = none ∧ ∃ p', s'.named (profileName e) = some p' ∧ p'.uuid = p.uuid ∧
      p'.type = p.type ∧ p'.interfaceName = p.interfaceName := by
  refine chain_invariant (P := fun t => t.serving e = none ∧ ∃ p', t.named (profileName e) = some p' ∧
    p'.uuid = p.uuid ∧ p'.type = p.type ∧ p'.interfaceName = p.interfaceName) ?_ h
    ⟨hnone, p, hp, rfl, rfl, rfl⟩
  rintro e' he' t t' ⟨hnone, q, hq, huuid, htype, hname⟩ hturn
  have hne : e ≠ e' := fun h => he (h ▸ he')
  obtain ⟨g, hnamed, hg⟩ := hturn.named hne
  rw [hq, Option.map_some] at hnamed
  refine ⟨hturn.serving_eq_none hne hnone, g q, hnamed, ?_⟩
  rcases hg q hq with hsame | ⟨-, hserves, hsame⟩
  · rw [hsame]
    exact ⟨huuid, htype, hname⟩
  · rw [hsame]
    exact ⟨huuid, htype, hserves.2.symm.trans hname⟩

/-- Rounds of other devices leave a profile alone that is bound to the device and has its name. -/
theorem mem_of_chain (hp : p ∈ s.profiles) (hid : p.id = profileName e)
    (hname : p.interfaceName = e) : p ∈ s'.profiles := by
  refine chain_invariant (P := fun t => p ∈ t.profiles) (fun e' he' t t' ht hturn => ?_) h hp
  have hne : e ≠ e' := fun h => he (h ▸ he')
  refine hturn.mem_of_other ht (fun hserves => ?_) fun hid' => ?_
  · exact hne (hname.symm.trans hserves.2)
  · exact hne (profileName_injective (hid.symm.trans hid'))

/-- What is bound to the device in the end was there before the rounds of other devices. -/
theorem mem_before_chain (hq : q ∈ s'.profiles) (hname : q.interfaceName = e) : q ∈ s.profiles := by
  refine chain_invariant (P := fun t => q ∈ t.profiles → q ∈ s.profiles)
    (fun e' he' t t' ht hturn hq => ht (hturn.mem_before hq fun hother => ?_)) h id hq
  have hsame : e = e' := hname.symm.trans hother
  exact he (hsame ▸ he')

end Others

/-- A name that is not free can be the end of a profile, or of its device. -/
theorem unclaimed_of_settled (hdevices : devices.Nodup)
    (h : ∀ s', Completes devices s s' → Settled devices s s') : Unclaimed devices s := by
  intro e he hempty hnone p₀ hp₀
  obtain ⟨before, after, rfl⟩ := List.append_of_mem he
  have hsplit := List.nodup_middle.1 hdevices
  rw [List.nodup_cons, List.mem_append, not_or] at hsplit
  obtain ⟨⟨hbefore, hafter⟩, -⟩ := hsplit
  -- the rounds before, the round of the device, in which the name is taken for that of the new
  -- profile, and the rounds after
  obtain ⟨s₁, hchain₁⟩ := exists_chain exists_turn before s
  obtain ⟨hnone₁, p, hp, huuid, htype, hname⟩ := named_of_chain hbefore hchain₁ hnone hp₀
  obtain ⟨s₂, hturn, hmem, hpriority⟩ := exists_turn_of_named hempty hnone₁ hp
  obtain ⟨s', hchain₂⟩ := exists_chain exists_turn after s₂
  have hsettled := h s' (completes_iff.2 (chain_append.2 ⟨s₁, hchain₁, s₂, hturn, hchain₂⟩))
  have hethernet : p.type = ethernetType := by
    by_contra hother
    obtain ⟨q, hq, hserves, -, hq100⟩ := hsettled.served e he hempty
    exact hpriority hother q (mem_before_chain hafter hchain₂ hq hserves.2) hserves hq100
  refine ⟨htype.symm.trans hethernet, ?_⟩
  by_contra hbound
  obtain ⟨q, hq, hquuid, hqname⟩ := hsettled.kept p₀ (Store.mem_of_named hp₀) hbound
  have hconfigured : p.configure e ∈ s'.profiles :=
    mem_of_chain hafter hchain₂ hmem (Profile.configure_id.trans (Store.id_of_named hp)) rfl
  obtain rfl := Store.eq_of_uuid hq hconfigured (hquuid.trans huuid.symm)
  exact Store.serving_eq_none.1 hnone p₀ (Store.mem_of_named hp₀)
    ⟨htype.symm.trans hethernet, hqname.symm⟩

/-! ### The loop -/

/-- **The Ethernet loop.**  Every run that completes settles the devices if and only if, for each of
them that has no Ethernet profile, the name that the script makes is free. -/
theorem ethernet_settled_iff (hdevices : devices.Nodup) :
    (∀ s', Completes devices s s' → Settled devices s s') ↔ Unclaimed devices s :=
  ⟨unclaimed_of_settled hdevices, fun hunclaimed _ => settled_of_unclaimed hdevices hunclaimed⟩

/-- A Wi-Fi connection, and what NetworkManager makes for `eth0` by itself -/
def wired : Store where
  profiles :=
    [{ Profile.create (.zeros 0) "wlan0" "AC1750" with type := "802-11-wireless" },
      Profile.create (.zeros 1) "eth0" "Wired connection 1"]
  nodup := by decide

/-- The profile that the script has made for `eth0`, after a user has bound it to `eth1` -/
def moved : Profile :=
  { (Profile.create (.zeros 0) "eth0" (profileName "eth0")).configure "eth0" with
    interfaceName := "eth1" }

def rebound : Store := ⟨[moved], List.nodup_singleton _⟩

theorem wired_unclaimed : Unclaimed ["eth0", "eth1"] wired := by
  unfold Unclaimed
  decide

/-- The loop completes there, and settles both devices. -/
theorem wired_settled : (∃ s', Completes ["eth0", "eth1"] wired s') ∧
    ∀ s', Completes ["eth0", "eth1"] wired s' → Settled ["eth0", "eth1"] wired s' := by
  refine ⟨?_, (ethernet_settled_iff (by decide)).2 wired_unclaimed⟩
  obtain ⟨s', h⟩ := exists_chain exists_turn ["eth0", "eth1"] wired
  exact ⟨s', completes_iff.2 h⟩

/-- `eth1` is first: its profile is configured, and then taken for the new one of `eth0`. -/
theorem eth1_robbed : ["eth1", "eth0"].Nodup ∧ ∃ s', Completes ["eth1", "eth0"] rebound s' ∧
    ¬Settled ["eth1", "eth0"] rebound s' ∧ ∀ p ∈ s'.profiles, ¬p.Serves "eth1" := by
  have hserving : rebound.serving "eth1" = some moved := rfl
  have hturn₁ : Turn "eth1" rebound (rebound.configure moved.uuid "eth1") :=
    .reuse (by decide) hserving
  obtain ⟨s', hturn₂, hmem, -⟩ := exists_turn_of_named (e := "eth0") (p := moved.configure "eth1")
    (s := rebound.configure moved.uuid "eth1") (by decide) (by decide) (by decide)
  have hnone : ∀ q ∈ s'.profiles, ¬q.Serves "eth1" := by
    intro q hq hserves
    have hbefore := hturn₂.mem_before hq fun hname =>
      absurd (hserves.2.symm.trans hname) (by decide)
    have huuid := Store.mem_uuids hbefore
    rw [Store.uuids_configure] at huuid
    obtain rfl := Store.eq_of_uuid hq hmem (List.mem_singleton.1 huuid)
    exact absurd hserves (by decide)
  refine ⟨by decide, s', completes_iff.2 ⟨_, hturn₁, s', hturn₂, rfl⟩, fun hsettled => ?_, hnone⟩
  obtain ⟨q, hq, hserves, -⟩ := hsettled.served "eth1" (by decide) (by decide)
  exact hnone q hq hserves

end ApplianceAdmin.Migration
