import ApplianceAdmin.Network.Ranking

/-!
# Radios with one address

The address of a radio may be listed more than once.  `mergeInto` looks for a repeated address only
when the radio is not the strongest so far, and passes over all of such a radio.

* `Repeats`, `Outdoes`: what `mergeInto` tells apart; `Gathered`: what an entry has of its radios;
* `Faithful`: each radio once, and active with one of them; `Clean`: the lists for which it is so;
* `scan_faithful_iff`, `twins_unfaithful`; `allClean_of_nodup`: radios with an address each.
-/

namespace ApplianceAdmin.Network

open Async Async.Prog Async.Monitor Python ApplianceAdmin.Lists

/-- The address of the radio is that of one before it. -/
def Repeats (before : List Radio) (radio : Radio) : Prop :=
  radio.hwAddress ∈ before.map (·.hwAddress)

/-- The radio is stronger than all before it. -/
def Outdoes (before : List Radio) (radio : Radio) : Prop :=
  ∀ other ∈ before, other.strength < radio.strength

/-- No radio repeats an address when it is the strongest so far. -/
def Once (radios : List Radio) : Prop :=
  ∀ before radio, before ++ [radio] <+: radios → Repeats before radio → ¬Outdoes before radio

/-- One of the radios is the active one, and is not passed over. -/
def Noticed (activePath : String) (radios : List Radio) : Prop :=
  ∃ before radio, before ++ [radio] <+: radios ∧ radio.path = activePath ∧
    (Repeats before radio → Outdoes before radio)

section Append

variable {activePath : String} {radios : List Radio} {radio : Radio}

theorem prefix_snoc_iff {α : Type} {before l : List α} {x y : α} :
    before ++ [x] <+: l ++ [y] ↔ (before = l ∧ x = y) ∨ before ++ [x] <+: l := by
  rw [List.prefix_concat_iff]
  exact or_congr_left ⟨fun h => by simpa using List.append_inj' h rfl, fun h => by rw [h.1, h.2]⟩

theorem once_snoc :
    Once (radios ++ [radio]) ↔ Once radios ∧ (Repeats radios radio → ¬Outdoes radios radio) := by
  constructor
  · intro h
    exact ⟨fun before x hx => h before x (prefix_snoc_iff.2 (.inr hx)),
      h radios radio (List.prefix_refl _)⟩
  · rintro ⟨h, hradio⟩ before x hx
    rcases prefix_snoc_iff.1 hx with ⟨rfl, rfl⟩ | hx
    · exact hradio
    · exact h before x hx

theorem noticed_snoc : Noticed activePath (radios ++ [radio]) ↔ Noticed activePath radios ∨
    (radio.path = activePath ∧ (Repeats radios radio → Outdoes radios radio)) := by
  constructor
  · rintro ⟨before, x, hx, hactive⟩
    rcases prefix_snoc_iff.1 hx with ⟨rfl, rfl⟩ | hx
    · exact .inr hactive
    · exact .inl ⟨before, x, hx, hactive⟩
  · rintro (⟨before, x, hx, hactive⟩ | hactive)
    · exact ⟨before, x, prefix_snoc_iff.2 (.inr hx), hactive⟩
    · exact ⟨radios, radio, List.prefix_refl _, hactive⟩

theorem once_singleton (radio : Radio) : Once [radio] := by
  intro before x hx hrepeats
  obtain ⟨rfl, rfl⟩ | hx := prefix_snoc_iff (l := []).1 hx
  · cases hrepeats
  · exact absurd (List.prefix_nil.1 hx) (by simp)

theorem noticed_singleton (radio : Radio) :
    Noticed activePath [radio] ↔ radio.path = activePath := by
  rw [← List.nil_append [radio], noticed_snoc]
  refine ⟨fun h => ?_, fun h => .inr ⟨h, fun h => nomatch h⟩⟩
  rcases h with ⟨before, x, hx, -⟩ | h
  · exact absurd (List.prefix_nil.1 hx) (by simp)
  · exact h.1

/-- What is noticed is there. -/
theorem Noticed.exists (h : Noticed activePath radios) :
    ∃ radio ∈ radios, radio.path = activePath := by
  obtain ⟨before, radio, hprefix, hactive, -⟩ := h
  exact ⟨radio, hprefix.subset (List.mem_append_right _ List.mem_cons_self), hactive⟩

end Append

/-! ### What an entry gathers -/

/-- What the entry has of its radios -/
structure Gathered (activePath : String) (radios : List Radio) (e : WifiAccessPoint) : Prop where
  strongest : Strongest radios e
  bssids : ∀ b, b ∈ e.bssids ↔ b ∈ radios.map (·.hwAddress)
  nodup : e.bssids.Nodup ↔ Once radios
  active : e.active = true ↔ Noticed activePath radios

section Gathered

variable {activePath : String} {radios : List Radio} {e : WifiAccessPoint}

theorem Strongest.outdoes_iff (h : Strongest radios e) (radio : Radio) :
    Outdoes radios radio ↔ e.strength < radio.strength := by
  constructor
  · intro houtdoes
    obtain ⟨other, hother, hstrength⟩ := h.attained
    exact hstrength ▸ houtdoes other hother
  · exact fun hlt other hother => (h.le hother).trans_lt hlt

theorem gathered_item (radio : Radio) : Gathered activePath [radio] (radio.item activePath) where
  strongest := strongest_item radio
  bssids _ := Iff.rfl
  nodup := iff_of_true (List.nodup_singleton _) (once_singleton radio)
  active := decide_eq_true_iff.trans (noticed_singleton radio).symm

namespace Gathered

theorem repeats_iff (h : Gathered activePath radios e) (radio : Radio) :
    Repeats radios radio ↔ radio.hwAddress ∈ e.bssids := (h.bssids _).symm

theorem mem_snoc (h : Gathered activePath radios e) (radio : Radio) (b : String) :
    b ∈ e.bssids ++ [radio.hwAddress] ↔ b ∈ (radios ++ [radio]).map (·.hwAddress) := by
  rw [List.map_append, List.mem_append, List.mem_append, h.bssids]
  rfl

theorem nodup_snoc (h : Gathered activePath radios e) (radio : Radio) :
    (e.bssids ++ [radio.hwAddress]).Nodup ↔ Once radios ∧ ¬Repeats radios radio := by
  rw [← List.concat_eq_append, List.nodup_concat, h.nodup, h.repeats_iff]
  exact and_comm

theorem active_item (radio : Radio) :
    (radio.item activePath).active = true ↔ radio.path = activePath := decide_eq_true_iff

/-- A radio that is the strongest so far is added without a look at its address. -/
theorem mergeInto_stronger (h : Gathered activePath radios e) {radio : Radio}
    (hstronger : e.strength < radio.strength) :
    Gathered activePath (radios ++ [radio]) (mergeInto (radio.item activePath) e) := by
  have houtdoes := (h.strongest.outdoes_iff radio).2 hstronger
  refine ⟨h.strongest.mergeInto radio, ?_, ?_, ?_⟩
  all_goals rw [Network.mergeInto_stronger hstronger]
  · exact h.mem_snoc radio
  · rw [h.nodup_snoc, once_snoc]
    exact and_congr_right fun _ => ⟨fun hnew hold => absurd hold hnew, fun hw hold => hw hold houtdoes⟩
  · rw [noticed_snoc, Bool.or_eq_true, or_comm, h.active, active_item]
    exact or_congr_right ⟨fun hactive => ⟨hactive, fun _ => houtdoes⟩, fun hactive => hactive.1⟩

theorem mergeInto_new (h : Gathered activePath radios e) {radio : Radio}
    (hweaker : ¬e.strength < radio.strength) (hnew : ¬Repeats radios radio) :
    Gathered activePath (radios ++ [radio]) (mergeInto (radio.item activePath) e) := by
  refine ⟨h.strongest.mergeInto radio, ?_, ?_, ?_⟩
  all_goals rw [Network.mergeInto_new hweaker (mt (h.repeats_iff radio).2 hnew)]
  · exact h.mem_snoc radio
  · rw [h.nodup_snoc, once_snoc]
    exact and_congr_right fun _ => iff_of_true hnew fun hold => absurd hold hnew
  · rw [noticed_snoc, Bool.or_eq_true, h.active, active_item]
    exact or_congr_right ⟨fun hactive => ⟨hactive, fun hold => absurd hold hnew⟩,
      fun hactive => hactive.1⟩

/-- A radio with a known address is passed over, whether it is active or not. -/
theorem mergeInto_repeated (h : Gathered activePath radios e) {radio : Radio}
    (hweaker : ¬e.strength < radio.strength) (hold : Repeats radios radio) :
    Gathered activePath (radios ++ [radio]) (mergeInto (radio.item activePath) e) := by
  have houtdoes : ¬Outdoes radios radio := mt (h.strongest.outdoes_iff radio).1 hweaker
  refine ⟨h.strongest.mergeInto radio, fun b => ?_, ?_, ?_⟩
  all_goals rw [Network.mergeInto_repeated hweaker ((h.repeats_iff radio).1 hold)]
  · rw [h.bssids, List.map_append, List.mem_append]
    refine ⟨.inl, fun hb => hb.elim id fun hb => ?_⟩
    obtain rfl : b = radio.hwAddress := List.mem_singleton.1 hb
    exact hold
  · rw [once_snoc, h.nodup]
    exact ⟨fun honce => ⟨honce, fun _ => houtdoes⟩, fun honce => honce.1⟩
  · rw [noticed_snoc, h.active]
    exact ⟨.inl, fun hnoticed => hnoticed.elim id fun hactive => absurd (hactive.2 hold) houtdoes⟩

theorem mergeInto (h : Gathered activePath radios e) (radio : Radio) :
    Gathered activePath (radios ++ [radio]) (mergeInto (radio.item activePath) e) := by
  by_cases hstronger : e.strength < radio.strength
  · exact h.mergeInto_stronger hstronger
  · by_cases hold : Repeats radios radio
    · exact h.mergeInto_repeated hstronger hold
    · exact h.mergeInto_new hstronger hold

theorem of_mem_networks (he : e ∈ networks activePath radios) :
    Gathered activePath (group radios (networkKey e)) e :=
  summary_induction (fun radio => gathered_item radio) (fun _ _ radio h => h.mergeInto radio)
    (summary_of_mem_networks he)

end Gathered

end Gathered

/-! ### Faithful entries -/

/-- The entry lists each radio of its network once and nothing else, has the address of one of them
itself, and is active with one of them. -/
structure Faithful (activePath : String) (radios : List Radio) (e : WifiAccessPoint) : Prop where
  nodup : e.bssids.Nodup
  bssids : ∀ b, b ∈ e.bssids ↔ b ∈ radios.map (·.hwAddress)
  own : e.bssid ∈ e.bssids
  active : e.active = true ↔ ∃ radio ∈ radios, radio.path = activePath

/-- No radio of a network repeats an address when it is the strongest so far, and when one of the
network is active, then one that is not passed over is. -/
structure Clean (activePath : String) (radios : List Radio) : Prop where
  once : Once radios
  noticed : (∃ radio ∈ radios, radio.path = activePath) → Noticed activePath radios

/-- Every network of the list is clean. -/
def AllClean (activePath : String) (radios : List Radio) : Prop :=
  ∀ k : NetworkKey, k.ssid ≠ "" → k ∈ radios.map Radio.network → Clean activePath (group radios k)

/-- Radios with an address each are clean. -/
theorem allClean_of_nodup {activePath : String} {radios : List Radio}
    (h : (radios.map Radio.hwAddress).Nodup) : AllClean activePath radios := by
  intro k _ _
  have hnew : ∀ before radio, before ++ [radio] <+: group radios k → ¬Repeats before radio := by
    intro before radio hprefix hrepeats
    have hsub : (before ++ [radio]).Sublist radios :=
      hprefix.sublist.trans List.filter_sublist
    have hnodup := (hsub.map Radio.hwAddress).nodup h
    rw [List.map_append, List.nodup_append] at hnodup
    exact hnodup.2.2 _ hrepeats _ (List.mem_singleton_self _) rfl
  refine ⟨fun before radio hprefix hrepeats => absurd hrepeats (hnew before radio hprefix), ?_⟩
  rintro ⟨radio, hradio, hactive⟩
  obtain ⟨before, after, hsplit⟩ := List.append_of_mem hradio
  have hprefix : before ++ [radio] <+: group radios k := ⟨after, by simp [hsplit]⟩
  exact ⟨before, radio, hprefix, hactive, fun hold => absurd hold (hnew before radio hprefix)⟩

/-- The two lists have the same networks, with the same addresses and the same active flags. -/
structure Alike (entries entries' : List WifiAccessPoint) : Prop where
  networks : ∀ k, k ∈ entries.map networkKey ↔ k ∈ entries'.map networkKey
  bssids : ∀ e ∈ entries, ∀ e' ∈ entries', networkKey e = networkKey e' →
    ∀ b, b ∈ e.bssids ↔ b ∈ e'.bssids
  active : ∀ e ∈ entries, ∀ e' ∈ entries', networkKey e = networkKey e' → e.active = e'.active

section Faithful

variable {rt : Runtime} {device device' activePath : String} {radios radios' : List Radio}
  {e : WifiAccessPoint} {entries entries' : List WifiAccessPoint}

theorem Gathered.own (h : Gathered activePath radios e) : e.bssid ∈ e.bssids := by
  obtain ⟨before, radio, after, rfl, -, -, -, hbssid, -⟩ := h.strongest
  rw [h.bssids, hbssid]
  exact List.mem_map_of_mem (List.mem_append_right _ List.mem_cons_self)

theorem Gathered.faithful_iff (h : Gathered activePath radios e) :
    Faithful activePath radios e ↔ Clean activePath radios := by
  constructor
  · exact fun hf => ⟨h.nodup.1 hf.nodup, fun hactive => h.active.1 (hf.active.2 hactive)⟩
  · exact fun hc => ⟨h.nodup.2 hc.once, h.bssids, h.own, h.active.trans ⟨Noticed.exists, hc.noticed⟩⟩

theorem Reported.eq_networks (h : Reported rt device activePath radios entries) :
    entries = byStrength (networks activePath radios) := by
  obtain ⟨byNetwork, hread, rfl⟩ := h.readAll
  rw [readAll_eq_ok hread, foldl_merge]
  rfl

theorem Reported.gathered (h : Reported rt device activePath radios entries) (he : e ∈ entries) :
    Gathered activePath (group radios (networkKey e)) e := by
  rw [h.eq_networks] at he
  exact .of_mem_networks ((List.mem_insertionSort _).1 he)

theorem Reported.mem_key (h : Reported rt device activePath radios entries) (k : NetworkKey) :
    k ∈ entries.map networkKey ↔ k.ssid ≠ "" ∧ k ∈ radios.map Radio.network := by
  rw [h.eq_networks]
  exact ranked_byStrength.networks k

theorem Reported.faithful_iff (h : Reported rt device activePath radios entries) :
    (∀ e ∈ entries, Faithful activePath (group radios (networkKey e)) e) ↔
      AllClean activePath radios := by
  constructor
  · intro hall k hname hk
    obtain ⟨e, he, rfl⟩ := List.mem_map.1 ((h.mem_key k).2 ⟨hname, hk⟩)
    exact (h.gathered he).faithful_iff.1 (hall e he)
  · intro hclean e he
    obtain ⟨hname, hk⟩ := (h.mem_key (networkKey e)).1 (List.mem_map_of_mem he)
    exact (h.gathered he).faithful_iff.2 (hclean _ hname hk)

theorem group_perm (hperm : radios.Perm radios') (k : NetworkKey) :
    (group radios k).Perm (group radios' k) := hperm.filter _

theorem noticed_of_clean (hclean : Clean activePath radios) :
    Noticed activePath radios ↔ ∃ radio ∈ radios, radio.path = activePath :=
  ⟨Noticed.exists, hclean.noticed⟩

/-- Two orders of one list differ at most in the active flags. -/
theorem alike_iff (h : Reported rt device activePath radios entries)
    (h' : Reported rt device' activePath radios' entries') (hperm : radios.Perm radios') :
    Alike entries entries' ↔ ∀ k : NetworkKey, k.ssid ≠ "" → k ∈ radios.map Radio.network →
      (Noticed activePath (group radios k) ↔ Noticed activePath (group radios' k)) := by
  have hkeys : ∀ k, k ∈ entries.map networkKey ↔ k ∈ entries'.map networkKey := by
    intro k
    rw [h.mem_key, h'.mem_key, (hperm.map Radio.network).mem_iff]
  constructor
  · intro halike k hname hk
    have hmem := (h.mem_key k).2 ⟨hname, hk⟩
    obtain ⟨e, he, rfl⟩ := List.mem_map.1 hmem
    obtain ⟨e', he', hkey⟩ := List.mem_map.1 ((hkeys _).1 hmem)
    rw [← (h.gathered he).active, halike.active e he e' he' hkey.symm, ← hkey]
    exact (h'.gathered he').active
  · intro hnoticed
    refine ⟨hkeys, fun e he e' he' hkey b => ?_, fun e he e' he' hkey => ?_⟩
    · rw [(h.gathered he).bssids, (h'.gathered he').bssids, hkey,
        ((group_perm hperm _).map Radio.hwAddress).mem_iff]
    · obtain ⟨hname, hk⟩ := (h.mem_key (networkKey e)).1 (List.mem_map_of_mem he)
      rw [Bool.eq_iff_iff, (h.gathered he).active, (h'.gathered he').active, ← hkey]
      exact hnoticed _ hname hk

/-- **An entry is faithful to its radios exactly when they are clean**, and two orders of the
radios give the same flags exactly when the same networks are noticed. -/
theorem scan_faithful_iff (h : Reported rt device activePath radios entries)
    (h' : Reported rt device' activePath radios' entries') (hperm : radios.Perm radios') :
    ((∀ e ∈ entries, Faithful activePath (group radios (networkKey e)) e) ↔
        AllClean activePath radios) ∧
      (Alike entries entries' ↔ ∀ k : NetworkKey, k.ssid ≠ "" → k ∈ radios.map Radio.network →
        (Noticed activePath (group radios k) ↔ Noticed activePath (group radios' k))) ∧
      (AllClean activePath radios → AllClean activePath radios' → Alike entries entries') := by
  refine ⟨h.faithful_iff, alike_iff h h' hperm, fun hclean hclean' => ?_⟩
  refine (alike_iff h h' hperm).2 fun k hname hk => ?_
  have hk' := ((hperm.map Radio.network).mem_iff).1 hk
  rw [noticed_of_clean (hclean k hname hk), noticed_of_clean (hclean' k hname hk')]
  exact ⟨fun ⟨radio, hradio, hactive⟩ => ⟨radio, (group_perm hperm k).mem_iff.1 hradio, hactive⟩,
    fun ⟨radio, hradio, hactive⟩ => ⟨radio, (group_perm hperm k).mem_iff.2 hradio, hactive⟩⟩

end Faithful

/-! ### Runs -/

/-- One address on two bands; the weaker one is in use. -/
def twins : List Radio :=
  [⟨"/ap/1", [104, 111, 109, 101], "02:00:00:00:00:01", 40, 2412, 1, 0, 0⟩,
    ⟨"/ap/2", [104, 111, 109, 101], "02:00:00:00:00:01", 60, 5180, 1, 0, 0⟩]

def twinEntry (bssids : List String) (active : Bool) : WifiAccessPoint where
  ssid := "home"
  bssid := "02:00:00:00:00:01"
  bssids := bssids
  strength := 60
  frequencyMhz := 5180
  secured := true
  active := active

theorem reported_twins : Reported .ascii "/device/wifi" "/ap/1" twins
    [twinEntry ["02:00:00:00:00:01", "02:00:00:00:00:01"] true] :=
  reported_of_displayed (by decide +kernel)

theorem reported_twins_reverse : Reported .ascii "/device/wifi" "/ap/1" twins.reverse
    [twinEntry ["02:00:00:00:00:01"] false] :=
  reported_of_displayed (by decide +kernel)

/-- The addresses are listed twice in one order, and in the other the active radio is missed. -/
theorem twins_unfaithful :
    (∃ entries, Reported .ascii "/device/wifi" "/ap/1" twins entries ∧
      ∃ e ∈ entries, ¬e.bssids.Nodup) ∧
    ∃ entries, Reported .ascii "/device/wifi" "/ap/1" twins.reverse entries ∧
      ∃ e ∈ entries, e.active = false ∧
        ∃ radio ∈ group twins.reverse (networkKey e), radio.path = "/ap/1" := by
  refine ⟨⟨_, reported_twins, _, List.mem_cons_self, by decide⟩,
    _, reported_twins_reverse, _, List.mem_cons_self, rfl, twins.head (by decide), ?_, rfl⟩
  exact List.mem_filter.2 ⟨List.mem_reverse.2 (List.head_mem _), by decide +kernel⟩

/-- Two radios of one network, the weaker one in use, and one of another network -/
def pair : List Radio :=
  [⟨"/ap/1", [104, 111, 109, 101], "02:00:00:00:00:01", 40, 2412, 1, 0, 0⟩,
    ⟨"/ap/2", [104, 111, 109, 101], "02:00:00:00:00:02", 60, 5180, 1, 0, 0⟩,
    ⟨"/ap/3", [99, 97, 102, 101], "02:00:00:00:00:03", 50, 2437, 0, 0, 0⟩]

def homeEntry (bssids : List String) : WifiAccessPoint :=
  { twinEntry bssids true with bssid := "02:00:00:00:00:02" }

def cafeEntry : WifiAccessPoint where
  ssid := "cafe"
  bssid := "02:00:00:00:00:03"
  bssids := ["02:00:00:00:00:03"]
  strength := 50
  frequencyMhz := 2437
  secured := false
  active := false

theorem allClean_pair : AllClean "/ap/1" pair := allClean_of_nodup (by decide +kernel)

theorem allClean_pair_reverse : AllClean "/ap/1" pair.reverse :=
  allClean_of_nodup (by decide +kernel)

/-- Each radio is listed once, and the weaker one is seen to be in use, in both orders. -/
theorem scan_faithful_pair :
    (∀ e ∈ [homeEntry ["02:00:00:00:00:01", "02:00:00:00:00:02"], cafeEntry],
      Faithful "/ap/1" (group pair (networkKey e)) e) ∧
    (∀ e ∈ [homeEntry ["02:00:00:00:00:02", "02:00:00:00:00:01"], cafeEntry],
      Faithful "/ap/1" (group pair.reverse (networkKey e)) e) ∧
    Alike [homeEntry ["02:00:00:00:00:01", "02:00:00:00:00:02"], cafeEntry]
      [homeEntry ["02:00:00:00:00:02", "02:00:00:00:00:01"], cafeEntry] := by
  have h : Reported .ascii "/device/wifi" "/ap/1" pair
      [homeEntry ["02:00:00:00:00:01", "02:00:00:00:00:02"], cafeEntry] :=
    reported_of_displayed (by decide +kernel)
  have h' : Reported .ascii "/device/wifi" "/ap/1" pair.reverse
      [homeEntry ["02:00:00:00:00:02", "02:00:00:00:00:01"], cafeEntry] :=
    reported_of_displayed (by decide +kernel)
  obtain ⟨hfaithful, -, halike⟩ := scan_faithful_iff h h' (List.reverse_perm pair).symm
  obtain ⟨hfaithful', -, -⟩ := scan_faithful_iff h' h (List.reverse_perm pair)
  exact ⟨hfaithful.2 allClean_pair, hfaithful'.2 allClean_pair_reverse,
    halike allClean_pair allClean_pair_reverse⟩

end ApplianceAdmin.Network
