import ApplianceAdmin.Network.Radios

/-!
# Networks and their radios

What the entries of a scan say about the radios that NetworkManager lists.

* `networkKey`, `merge_eq_upsert`: the networks are the groups of the radios;
* `Strongest`: an entry has the data of its strongest radio;
* `Ranked`, `scan_ranked`: one entry for each network, the strongest network first.
-/

namespace ApplianceAdmin.Network

open Async Async.Prog Async.Monitor Python ApplianceAdmin.Lists

/-! ### Groups -/

/-- The key `(ssid, secured)` of `by_network` -/
structure NetworkKey where
  ssid : String
  secured : Bool
  deriving DecidableEq

def networkKey (a : WifiAccessPoint) : NetworkKey := ⟨a.ssid, a.secured⟩

/-- The key of the network of a radio -/
def Radio.network (radio : Radio) : NetworkKey := ⟨radio.name, radio.secured⟩

/-- The radios of one network, in the order of the list -/
def group (radios : List Radio) (k : NetworkKey) : List Radio :=
  radios.filter (·.network = k)

theorem merge_eq_upsert (item : WifiAccessPoint) (entries : List WifiAccessPoint) :
    merge item entries = upsert networkKey mergeInto item entries := by
  induction entries with
  | nil => rfl
  | cons old rest ih =>
    rw [merge, upsert, ih]
    refine if_congr ?_ rfl rfl
    simp [networkKey]

theorem networkKey_mergeInto (item old : WifiAccessPoint) (h : networkKey old = networkKey item) :
    networkKey (mergeInto item old) = networkKey item := by
  unfold mergeInto
  split_ifs
  · rfl
  · exact h
  · exact h

/-- `by_network` after the radios -/
def networks (activePath : String) (radios : List Radio) : List WifiAccessPoint :=
  groups networkKey mergeInto (items activePath radios)

section Groups

variable {rt : Runtime} {activePath : String} {radios : List Radio} {k : NetworkKey}
  {e : WifiAccessPoint}

theorem foldl_merge (items : List WifiAccessPoint) :
    items.foldl (fun entries item => merge item entries) [] = groups networkKey mergeInto items := by
  simp only [groups, merge_eq_upsert]

theorem mem_items_key :
    k ∈ (items activePath radios).map networkKey ↔ k.ssid ≠ "" ∧ k ∈ radios.map Radio.network := by
  constructor
  · intro h
    obtain ⟨item, hitem, rfl⟩ := List.mem_map.1 h
    obtain ⟨radio, hradio, rfl⟩ := List.mem_map.1 hitem
    obtain ⟨hradio, hname⟩ := List.mem_filter.1 hradio
    exact ⟨of_decide_eq_true hname, List.mem_map_of_mem hradio⟩
  · rintro ⟨hname, h⟩
    obtain ⟨radio, hradio, rfl⟩ := List.mem_map.1 h
    have hitem : radio.item activePath ∈ items activePath radios :=
      List.mem_map_of_mem (List.mem_filter.2 ⟨hradio, by simpa [Radio.network] using hname⟩)
    exact List.mem_map_of_mem hitem

/-- The entries are the networks that are not hidden. -/
theorem mem_networks_key :
    k ∈ (networks activePath radios).map networkKey ↔ k.ssid ≠ "" ∧ k ∈ radios.map Radio.network :=
  (mem_map_key_groups networkKey_mergeInto).trans mem_items_key

theorem filter_items (hk : k.ssid ≠ "") :
    (items activePath radios).filter (networkKey · = k) =
      (group radios k).map (Radio.item activePath) := by
  rw [items, List.filter_map, List.filter_filter, group]
  congr 1
  refine List.filter_congr fun radio _ => ?_
  have hkey : networkKey (radio.item activePath) = radio.network := rfl
  rw [Function.comp_apply, hkey, ← Bool.decide_and]
  exact decide_eq_decide.2 ⟨fun h => h.1, fun h => ⟨h, fun hname => hk (h ▸ hname)⟩⟩

/-- **An entry is the summary of its radios.** -/
theorem summary_of_mem_networks (he : e ∈ networks activePath radios) :
    summary mergeInto ((group radios (networkKey e)).map (Radio.item activePath)) = some e := by
  have hnamed := (mem_networks_key.1 (List.mem_map_of_mem he)).1
  rw [← filter_items hnamed]
  exact summary_of_mem_groups networkKey_mergeInto he

end Groups

/-! ### Joining a radio -/

section Join

variable {activePath : String} {radio : Radio} {e : WifiAccessPoint}

theorem mergeInto_stronger (h : e.strength < radio.strength) :
    mergeInto (radio.item activePath) e = { radio.item activePath with
      bssids := e.bssids ++ [radio.hwAddress]
      active := (radio.item activePath).active || e.active } := if_pos h

theorem mergeInto_new (h : ¬e.strength < radio.strength) (hnew : radio.hwAddress ∉ e.bssids) :
    mergeInto (radio.item activePath) e = { e with
      bssids := e.bssids ++ [radio.hwAddress]
      active := e.active || (radio.item activePath).active } :=
  (if_neg h).trans (if_pos hnew)

theorem mergeInto_repeated (h : ¬e.strength < radio.strength) (hold : radio.hwAddress ∈ e.bssids) :
    mergeInto (radio.item activePath) e = e :=
  (if_neg h).trans (if_neg (not_not.2 hold))

end Join

/-! ### The strongest radio -/

/-- The entry has the data of the first of the strongest radios. -/
def Strongest (radios : List Radio) (e : WifiAccessPoint) : Prop :=
  ∃ before radio after, radios = before ++ radio :: after ∧
    (∀ other ∈ before, other.strength < radio.strength) ∧
    (∀ other ∈ after, other.strength ≤ radio.strength) ∧
    e.strength = radio.strength ∧ e.bssid = radio.hwAddress ∧ e.frequencyMhz = radio.frequency

section Strongest

variable {activePath : String} {radios : List Radio} {e : WifiAccessPoint}

theorem strongest_item (radio : Radio) : Strongest [radio] (radio.item activePath) :=
  ⟨[], radio, [], rfl, fun _ h => absurd h List.not_mem_nil, fun _ h => absurd h List.not_mem_nil,
    rfl, rfl, rfl⟩

theorem Strongest.le (h : Strongest radios e) {radio : Radio} (hradio : radio ∈ radios) :
    radio.strength ≤ e.strength := by
  obtain ⟨before, first, after, rfl, hbefore, hafter, hstrength, -⟩ := h
  rw [hstrength]
  rcases List.mem_append.1 hradio with hradio | hradio
  · exact (hbefore radio hradio).le
  rcases List.mem_cons.1 hradio with rfl | hradio
  · exact le_rfl
  · exact hafter radio hradio

/-- The strength of an entry is that of one of its radios. -/
theorem Strongest.attained (h : Strongest radios e) :
    ∃ radio ∈ radios, radio.strength = e.strength := by
  obtain ⟨before, first, after, rfl, -, -, hstrength, -⟩ := h
  exact ⟨first, List.mem_append_right _ List.mem_cons_self, hstrength.symm⟩

theorem Strongest.mergeInto (radio : Radio) (h : Strongest radios e) :
    Strongest (radios ++ [radio]) (mergeInto (radio.item activePath) e) := by
  by_cases hstronger : e.strength < radio.strength
  · rw [mergeInto_stronger hstronger]
    exact ⟨radios, radio, [], rfl, fun other hother => (h.le hother).trans_lt hstronger,
      fun _ h => absurd h List.not_mem_nil, rfl, rfl, rfl⟩
  · obtain ⟨before, first, after, rfl, hbefore, hafter, hstrength, hdata⟩ := h
    have hweaker : ∀ other ∈ after ++ [radio], other.strength ≤ first.strength := by
      intro other hother
      rcases List.mem_append.1 hother with hother | hother
      · exact hafter other hother
      · rw [List.mem_singleton.1 hother, ← hstrength]
        exact not_lt.1 hstronger
    refine ⟨before, first, after ++ [radio], by rw [List.append_assoc, List.cons_append], hbefore,
      hweaker, ?_⟩
    by_cases hold : radio.hwAddress ∈ e.bssids
    · rw [mergeInto_repeated hstronger hold]
      exact ⟨hstrength, hdata⟩
    · rw [mergeInto_new hstronger hold]
      exact ⟨hstrength, hdata⟩

theorem strongest_of_mem_networks (he : e ∈ networks activePath radios) :
    Strongest (group radios (networkKey e)) e :=
  summary_induction (fun radio => strongest_item radio) (fun _ _ radio h => h.mergeInto radio)
    (summary_of_mem_networks he)

end Strongest

/-! ### Ranking -/

/-- One entry for each network that is not hidden, with the data of its strongest radio; the
strongest network comes first, and of equals the one that is listed first. -/
structure Ranked (radios : List Radio) (entries : List WifiAccessPoint) : Prop where
  distinct : (entries.map networkKey).Nodup
  networks : ∀ k, k ∈ entries.map networkKey ↔ k.ssid ≠ "" ∧ k ∈ radios.map Radio.network
  strongest : ∀ e ∈ entries, Strongest (group radios (networkKey e)) e
  ordered : entries.Pairwise fun a b => b.strength ≤ a.strength ∧
    (a.strength = b.strength → (radios.map Radio.network).idxOf (networkKey a) <
      (radios.map Radio.network).idxOf (networkKey b))

section Ranked

variable {rt : Runtime} {device activePath : String} {radios left : List Radio}

/-- The keys of the items are those of the radios without the hidden networks. -/
theorem map_key_items : (items activePath radios).map networkKey =
    (radios.map Radio.network).filter (·.ssid ≠ "") := by
  rw [items, List.map_map, List.filter_map]
  rfl

/-- The networks stand in the order in which they are listed. -/
theorem pairwise_networks : (networks activePath radios).Pairwise fun a b =>
    (radios.map Radio.network).idxOf (networkKey a) <
      (radios.map Radio.network).idxOf (networkKey b) := by
  have hpair := List.pairwise_map.1
    (pairwise_groups networkKey_mergeInto (items activePath radios))
  refine hpair.imp_of_mem fun _ hb h => ?_
  rw [map_key_items] at h
  have hnamed := (mem_networks_key.1 (List.mem_map_of_mem hb)).1
  exact idxOf_lt_of_filter (p := (·.ssid ≠ "")) (decide_eq_true hnamed) h

theorem ranked_byStrength : Ranked radios (byStrength (networks activePath radios)) where
  distinct := ((List.perm_insertionSort _ _).map networkKey).nodup_iff.2
    (nodup_groups networkKey_mergeInto _)
  networks k := ((List.perm_insertionSort _ _).map networkKey).mem_iff.trans mem_networks_key
  strongest e he := strongest_of_mem_networks ((List.mem_insertionSort _).1 he)
  ordered := by
    have hsorted : (byStrength (networks activePath radios)).Pairwise
        fun a b => b.strength ≤ a.strength :=
      List.pairwise_insertionSort _ _
    have hstable : (byStrength (networks activePath radios)).Pairwise fun a b =>
        a.strength ≤ b.strength → (radios.map Radio.network).idxOf (networkKey a) <
          (radios.map Radio.network).idxOf (networkKey b) :=
      Lists.pairwise_insertionSort pairwise_networks
    exact (hsorted.and hstable).imp fun h => ⟨h.1, fun hequal => h.2 hequal.le⟩

/-- **A scan ranks the networks.**  The strengths are those that NetworkManager may report. -/
theorem scan_ranked {tr : List (Event Reply Exc)} {r : Except Exc (List WifiAccessPoint)}
    (hp : Path (readAccessPoints rt device) tr (.done r))
    (ht : (listing device activePath radios).Trail radios tr left)
    (hrange : ∀ radio ∈ radios, radio.InRange) :
    ∃ entries, r = .ok entries ∧ Ranked radios entries := by
  refine ⟨byStrength (networks activePath radios), ?_, ranked_byStrength⟩
  rw [read_listing hp ht, readAll_of_inRange hrange, foldl_merge]
  rfl

end Ranked

/-- Two radios of one network, a stronger open one in between, and a hidden one -/
def street : List Radio :=
  [⟨"/ap/1", [104, 111, 109, 101], "02:00:00:00:00:01", 40, 2412, 1, 0, 0⟩,
    ⟨"/ap/2", [], "02:00:00:00:00:02", 90, 2437, 0, 0, 0⟩,
    ⟨"/ap/3", [99, 97, 102, 101], "02:00:00:00:00:03", 55, 2437, 0, 0, 0⟩,
    ⟨"/ap/4", [104, 111, 109, 101], "02:00:00:00:00:04", 55, 5180, 1, 0, 0⟩]

theorem isSome_street : (displayed "/device/wifi" "/" street).2.isSome = true := by decide +kernel

/-- The network that is listed first comes first. -/
theorem scan_ranked_street : ∃ entries,
    (displayed "/device/wifi" "/" street).2 = some (.ok entries) ∧ Ranked street entries := by
  obtain ⟨left, ht⟩ := trail_displayed "/device/wifi" "/" street
  have hrun := (Option.some_get isSome_street).symm
  obtain ⟨entries, hentries, hranked⟩ := scan_ranked (path_displayed hrun) ht
    (by simp [street, Radio.InRange])
  exact ⟨entries, hrun.trans (congrArg some hentries), hranked⟩

end ApplianceAdmin.Network
