import ApplianceAdmin.Network.Surface
import Mathlib.Data.List.ReduceOption

/-!
# Saved profiles

A saved profile is named by its UUID.

* `validatedUuid_spec`: what `_validated_uuid` accepts is the canonical text of a UUID, and that
  text is accepted as itself;
* `Canonical`: an operation on one profile asks for it, and reports it, by the canonical text;
* `profiles_canonical`: activating and deleting do;
* `Describes`: an entry of the list tells what the settings of a profile are;
* `profiles_listed`: the list has the Wi-Fi and Ethernet profiles that NetworkManager has listed.
-/

namespace ApplianceAdmin.Network

open Async Async.Prog Async.Monitor Python

/-! ### UUIDs -/

/-- The parameters are a UUID, in any of the ways to write it, and `u` is its canonical text. -/
def Spells (rt : Runtime) (params : Dict) (u : String) : Prop :=
  ∃ v n, params = [("uuid", v)] ∧ parseUuid rt.toUnicode (toStr rt v) = some n ∧ u = uuidText n

section Uuids

variable {rt : Runtime} {params : Dict} {action u : String}

theorem Spells.isUuidText (h : Spells rt params u) : IsUuidText u := by
  obtain ⟨v, n, rfl, hn, rfl⟩ := h
  exact isUuidText_uuidText n

/-- A canonical text is its own. -/
theorem spells_of_isUuidText (h : IsUuidText u) : Spells rt [("uuid", .str u)] u := by
  obtain ⟨n, hn, rfl⟩ := h.exists_uuidText
  refine ⟨_, n, rfl, ?_, rfl⟩
  rw [toStr, Value.toStr_str]
  exact parseUuid_uuidText hn

/-- What is accepted is what is spelled. -/
theorem validatedUuid_eq_ok_iff : validatedUuid rt params action = .ok u ↔ Spells rt params u := by
  unfold validatedUuid
  constructor
  · intro h
    split at h
    · rename_i v
      split at h
      · rename_i n hn
        cases h
        exact ⟨v, n, rfl, hn, rfl⟩
      · cases h
    · cases h
  · rintro ⟨v, n, rfl, hn, rfl⟩
    simp only [hn]

end Uuids

/-- The one profile that is asked for, and that is reported, is the one with this UUID. -/
structure About {α : Type} (u : String) (uuidOf : α → String) (p : Proc α) : Prop where
  asked : ∀ tr q, Path p tr q → ∀ e ∈ tr, ∀ v, e.call = .getConnectionByUuid v → v = u
  completed : ∀ tr result, Path p tr (.done (.ok result)) →
    (∃ path, ⟨.getConnectionByUuid u, .ok path⟩ ∈ tr) ∧ uuidOf result = u

/-- An operation on one profile knows it by its canonical UUID. -/
structure Canonical {α : Type} (rt : Runtime) (uuidOf : α → String) (p : Dict → Proc α) : Prop where
  /-- Parameters that are no UUID are refused. -/
  refused : ∀ params, (∀ u, ¬Spells rt params u) → ∃ message, p params = raise (.validation message)
  /-- Those that are one stand for its canonical text. -/
  named : ∀ params u, Spells rt params u →
    IsUuidText u ∧ p params = p [("uuid", .str u)] ∧ About u uuidOf (p params)
  /-- No canonical text is refused. -/
  accepted : ∀ u, IsUuidText u →
    Spells rt [("uuid", .str u)] u ∧ ∀ x, p [("uuid", .str u)] ≠ raise x

section Canonical

variable {m : NetworkManager} {rt : Runtime} {fuel : ℕ}

/-- The calls of an operation with its surface, of which one asks for a profile -/
theorem names_of_path {α : Type} {op : Operation} {p q : Proc α} {tr : List (Event Reply Exc)}
    (hsurface : (history (op.Surface m rt)).wp p (fun _ _ => True) []) (h : Path p tr q)
    {e : Event Reply Exc} (he : e ∈ tr) {v : String} (hcall : e.call = .getConnectionByUuid v) :
    op.Names rt v := by
  obtain ⟨before, after, rfl⟩ := List.append_of_mem he
  have hground := (justified_of_path hsurface h).answered rfl
  rw [hcall] at hground
  exact hground.2

theorem canonical_of_validated {α : Type} {uuidOf : α → String} {action : String}
    {f : String → Proc α} {p : Dict → Proc α}
    (heq : ∀ params, p params = lift (validatedUuid rt params action) >>= f)
    (habout : ∀ params u, validatedUuid rt params action = .ok u → About u uuidOf (p params))
    (hf : ∀ u x, f u ≠ raise x) : Canonical rt uuidOf p where
  refused params hno := by
    cases hu : validatedUuid rt params action with
    | error x =>
      obtain ⟨message, rfl⟩ := validatedUuid_error hu
      refine ⟨message, ?_⟩
      rw [heq, hu]
      rfl
    | ok u => exact absurd (validatedUuid_eq_ok_iff.1 hu) (hno u)
  named params u hu := by
    have hself : validatedUuid rt [("uuid", .str u)] action = .ok u :=
      validatedUuid_eq_ok_iff.2 (spells_of_isUuidText hu.isUuidText)
    have hok : validatedUuid rt params action = .ok u := validatedUuid_eq_ok_iff.2 hu
    refine ⟨hu.isUuidText, ?_, habout params u hok⟩
    rw [heq, heq, hok, hself]
  accepted u hu := by
    have hself := @spells_of_isUuidText rt _ hu
    refine ⟨hself, fun x => ?_⟩
    rw [heq, validatedUuid_eq_ok_iff.2 hself]
    exact hf u x

theorem about_activateProfile {params : Dict} {u : String}
    (hu : validatedUuid rt params "network.profile.activate" = .ok u) :
    About u (·.uuid) (activateProfile m rt fuel params) where
  asked tr q h e he v hcall := by
    have hnames : validatedUuid rt params "network.profile.activate" = .ok v :=
      names_of_path surface_activateProfile h he hcall
    exact Except.ok.inj (hnames.symm.trans hu)
  completed tr result h := by
    unfold activateProfile at h
    rw [hu] at h
    obtain ⟨body, rfl, hbody⟩ := path_withLock h
    obtain ⟨device, located, _, rfl, -, h₁⟩ := hbody.of_bind
    obtain ⟨_, settled, _, rfl, -, h₂⟩ := h₁.of_bind
    obtain ⟨path, asked, _, rfl, hasked, h₃⟩ := h₂.of_bind
    obtain rfl := (path_of_replace hasked).of_perform
    refine ⟨⟨path, by simp⟩, ?_⟩
    obtain ⟨_, _, _, -, -, h₄⟩ := h₃.of_bind
    obtain ⟨settings, _, _, -, -, h₅⟩ := h₄.of_bind
    dsimp only at h₅
    split at h₅
    · exact absurd h₅ not_path_raise
    · obtain ⟨transaction, _, _, -, -, h₆⟩ := h₅.of_bind
      obtain ⟨-, hresult⟩ := h₆.of_done
      cases hresult
      rfl

theorem about_deleteProfile {params : Dict} {u : String}
    (hu : validatedUuid rt params "network.profile.delete" = .ok u) :
    About u (·.uuid) (deleteProfile rt params) where
  asked tr q h e he v hcall := by
    have hnames : validatedUuid rt params "network.profile.delete" = .ok v :=
      names_of_path (m := .default) surface_deleteProfile h he hcall
    exact Except.ok.inj (hnames.symm.trans hu)
  completed tr result h := by
    unfold deleteProfile at h
    obtain ⟨u', hu', h₁⟩ := path_lift_bind h
    obtain rfl := Except.ok.inj (hu'.symm.trans hu)
    obtain ⟨_, settled, _, rfl, -, h₂⟩ := h₁.of_bind
    obtain ⟨_, deleted, _, rfl, hdeleted, hreturn⟩ := h₂.of_bind
    have hfound := hdeleted.of_tryCatch fun x tr hx => by
      split_ifs at hx
      all_goals exact not_path_raise hx
    obtain ⟨path, rest, rfl, -⟩ := hfound.of_perform_bind
    obtain ⟨-, hresult⟩ := hreturn.of_done
    cases hresult
    exact ⟨⟨path, by simp⟩, rfl⟩

/-- **A profile is known by the canonical text of the UUID that the parameters spell**, however they
do: every call for a profile asks for this text, every run that succeeds has asked for it, the
result reports it, and the operation is the same with this text as its parameter. -/
theorem profiles_canonical (m : NetworkManager) (rt : Runtime) (fuel : ℕ) :
    Canonical rt (·.uuid) (activateProfile m rt fuel) ∧ Canonical rt (·.uuid) (deleteProfile rt) := by
  constructor
  · exact canonical_of_validated (fun _ => rfl) (fun _ _ => about_activateProfile) fun u x h => by
      cases h
  · exact canonical_of_validated (fun _ => rfl) (fun _ _ => about_deleteProfile) fun u x h => by
      cases h

/-- The profile is deleted whose UUID is written in capitals and braces. -/
def bracedParams : Dict := [("uuid", .str "\x7b6F9619FF-8B86-4011-B42D-00C04FC964FF\x7d")]

def deleteRun : List (Event Reply Exc) × Option (Except Exc DeleteResult) :=
  exec (fun _ c => (.ok (quiet c), ())) (deleteProfile .ascii bracedParams) ()

theorem path_deleteRun : Path (deleteProfile .ascii bracedParams) deleteRun.1
    (.done (.ok ⟨true, "6f9619ff-8b86-4011-b42d-00c04fc964ff"⟩)) :=
  path_of_exec _ _ _ (by decide +kernel)

/-- It is asked for by the canonical text, and reported so. -/
theorem braced_canonical :
    Spells .ascii bracedParams "6f9619ff-8b86-4011-b42d-00c04fc964ff" ∧
      (∃ path, ⟨.getConnectionByUuid "6f9619ff-8b86-4011-b42d-00c04fc964ff", .ok path⟩ ∈
        deleteRun.1) ∧
      deleteProfile .ascii bracedParams =
        deleteProfile .ascii [("uuid", .str "6f9619ff-8b86-4011-b42d-00c04fc964ff")] := by
  have hspells : Spells .ascii bracedParams "6f9619ff-8b86-4011-b42d-00c04fc964ff" :=
    ⟨_, 0x6f9619ff8b864011b42d00c04fc964ff, rfl, by decide +kernel, by decide +kernel⟩
  obtain ⟨-, heq, habout⟩ := (profiles_canonical .default .ascii 1).2.named _ _ hspells
  exact ⟨hspells, (habout.completed _ _ path_deleteRun).1, heq⟩

end Canonical

/-! ### Loops over objects -/

section Collect

variable {α β γ : Type}

/-- The items of a list that is collected are those of its elements, in their order. -/
theorem path_collect {f : α → Proc (Option β)} {xs : List α} {ys : List β}
    {tr : List (Event Reply Exc)} (h : Path (collect f xs) tr (.done (.ok ys))) :
    ∃ found : List (Option β), ys = found.reduceOption ∧
      List.Forall₂ (fun x y => ∃ tr', tr' ⊆ tr ∧ Path (f x) tr' (.done (.ok y))) xs found := by
  induction xs generalizing ys tr with
  | nil =>
    obtain ⟨-, hys⟩ := Path.of_done (r := .ok []) h
    cases hys
    exact ⟨[], rfl, .nil⟩
  | cons x xs ih =>
    obtain ⟨y, first, rest, rfl, hfirst, h⟩ := Path.of_bind h
    obtain ⟨zs, second, last, rfl, hsecond, h⟩ := h.of_bind
    obtain ⟨rfl, hys⟩ := Path.of_done (r := .ok (y.toList ++ zs)) h
    cases hys
    obtain ⟨found, rfl, hfound⟩ := ih hsecond
    refine ⟨y :: found, ?_, .cons ⟨first, List.subset_append_left _ _, hfirst⟩ ?_⟩
    · cases y <;> rfl
    · refine hfound.imp fun x' y' => ?_
      rintro ⟨tr', hsub, hpath⟩
      refine ⟨tr', fun e he => ?_, hpath⟩
      exact List.mem_append_right _ (List.mem_append_left _ (hsub he))

/-- What is between the elements of two lists -/
theorem forall₂_exists {P : α → γ → β → Prop} {xs : List α} {ys : List β}
    (h : List.Forall₂ (fun x y => ∃ z, P x z y) xs ys) : ∃ zs : List γ,
      List.Forall₂ (fun x z => ∃ y, P x z y) xs zs ∧ List.Forall₂ (fun z y => ∃ x, P x z y) zs ys := by
  induction h with
  | nil => exact ⟨[], .nil, .nil⟩
  | cons hxy _ ih =>
    obtain ⟨z, hz⟩ := hxy
    obtain ⟨zs, hleft, hright⟩ := ih
    exact ⟨z :: zs, .cons ⟨_, hz⟩ hleft, .cons ⟨_, hz⟩ hright⟩

/-- The elements that have a counterpart are those that pass a test. -/
theorem forall₂_reduceOption {p : α → Bool} {P : α → β → Prop} {xs : List α}
    {found : List (Option β)}
    (h : List.Forall₂ (fun x y => y = none ∧ p x = false ∨ ∃ b, y = some b ∧ p x = true ∧ P x b)
      xs found) : List.Forall₂ P (xs.filter p) found.reduceOption := by
  induction h with
  | nil => exact .nil
  | cons hxy _ ih =>
    rcases hxy with ⟨rfl, hp⟩ | ⟨b, rfl, hp, hP⟩
    · rwa [List.filter_cons_of_neg (by simp [hp]), List.reduceOption_cons_of_none]
    · rw [List.filter_cons_of_pos hp, List.reduceOption_cons_of_some]
      exact .cons hP ih

end Collect

/-! ### The list of profiles -/

/-- The settings of a Wi-Fi or Ethernet profile -/
def isListed (rt : Runtime) (settings : Settings) : Bool :=
  toStr rt (unwrapGet (settings.section "connection") "type" (.str "")) ∈
    ["802-11-wireless", "802-3-ethernet"]

/-- The SSID with these octets, if there are any -/
def SsidOf (raw : Value) : Option String → Prop
  | none => raw = .none
  | some ssid => ∃ octets, toBytes raw = .ok octets ∧ ssid = decodeReplace octets

/-- The entry for a profile tells what its settings are; `active` are the UUIDs of the active
connections. -/
structure Describes (rt : Runtime) (active : List String) (settings : Settings)
    (profile : NetworkProfile) : Prop where
  id : profile.id = toStr rt (unwrapGet (settings.section "connection") "id" (.str ""))
  uuid : profile.uuid = toStr rt (unwrapGet (settings.section "connection") "uuid" (.str ""))
  type : profile.type = toStr rt (unwrapGet (settings.section "connection") "type" (.str ""))
  interfaceName : nullable textField
    (unwrapGet (settings.section "connection") "interface-name" .none) = .ok profile.interfaceName
  ssid : SsidOf (unwrapGet (settings.section "802-11-wireless") "ssid" .none) profile.ssid
  autoconnect : profile.autoconnect =
    (unwrapGet (settings.section "connection") "autoconnect" (.bool true)).truthy
  active : profile.active = true ↔ profile.uuid ∈ active

/-- The list of profiles is what NetworkManager has answered. -/
structure Listed (m : NetworkManager) (rt : Runtime) (tr : List (Event Reply Exc))
    (profiles : List NetworkProfile) : Prop where
  device : ∃ device, Located m rt tr device
  /-- Each active connection has been read, and each profile that is listed, in this order. -/
  read : ∃ nmProps actives paths uuids, ∃ books : List Settings,
    ⟨.getAll NM_PATH NM_IFACE, .ok nmProps⟩ ∈ tr ∧
    (unwrapGet nmProps "ActiveConnections" (.list [])).iter = .ok actives ∧
    List.Forall₂ (fun path uuid => ∃ props v, ⟨.getAll (toStr rt path) ACTIVE, .ok props⟩ ∈ tr ∧
      props.get? "Uuid" = some v ∧ uuid = toStr rt v) actives uuids ∧
    ⟨.listConnections, .ok paths⟩ ∈ tr ∧
    List.Forall₂ (fun path settings => ⟨.getSettings path, .ok settings⟩ ∈ tr) paths books ∧
    List.Forall₂ (Describes rt uuids) (books.filter (isListed rt)) profiles

section Listed

variable {m : NetworkManager} {rt : Runtime} {tr : List (Event Reply Exc)}

theorem path_strItem {props : Dict} {key s : String}
    (h : Path (strItem rt props key) tr (.done (.ok s))) :
    ∃ v, props.get? key = some v ∧ s = toStr rt v := by
  unfold strItem item py at h
  obtain ⟨v, hv, h⟩ := path_lift_bind h
  have hitem := mapError_eq_ok hv
  obtain ⟨-, hs⟩ := Path.of_done (r := .ok (toStr rt v)) h
  cases hs
  refine ⟨v, ?_, rfl⟩
  unfold Dict.item at hitem
  split at hitem
  · cases hitem
    assumption
  · cases hitem

theorem path_optionalSsid {raw : Value} {s : Option String}
    (h : Path (optionalSsid raw) tr (.done (.ok s))) : SsidOf raw s := by
  unfold optionalSsid at h
  split at h
  · rename_i hnone
    obtain ⟨-, hs⟩ := Path.of_done (r := .ok none) h
    cases hs
    unfold isNone at hnone
    split at hnone
    · rfl
    · cases hnone
  · obtain ⟨text, htext, h⟩ := path_lift_bind h
    obtain ⟨-, hs⟩ := Path.of_done (r := .ok (some text)) h
    cases hs
    have hmap := mapError_eq_ok htext
    cases hoctets : toBytes raw with
    | error e =>
      rw [hoctets] at hmap
      cases hmap
    | ok octets =>
      rw [hoctets] at hmap
      cases hmap
      exact ⟨octets, hoctets, rfl⟩

/-- One round of the loop -/
theorem path_readProfile {active : List String} {path : String} {found : Option NetworkProfile}
    (h : Path (readProfile rt active path) tr (.done (.ok found))) : ∃ settings,
      ⟨.getSettings path, .ok settings⟩ ∈ tr ∧ (found = none ∧ isListed rt settings = false ∨
        ∃ profile, found = some profile ∧ isListed rt settings = true ∧
          Describes rt active settings profile) := by
  unfold readProfile at h
  obtain ⟨_, first, rest, rfl, -, h⟩ := h.of_bind
  obtain ⟨settings, rest, rfl, hread⟩ := h.of_perform_bind
  refine ⟨settings, List.mem_append_right _ List.mem_cons_self, ?_⟩
  dsimp only at hread
  split at hread
  · rename_i htype
    obtain ⟨-, hfound⟩ := Path.of_done (r := .ok none) hread
    cases hfound
    exact .inl ⟨rfl, decide_eq_false htype⟩
  · rename_i htype
    obtain ⟨ssid, second, rest, rfl, hssid, hread⟩ := hread.of_bind
    obtain ⟨interfaceName, hname, hread⟩ := path_lift_bind hread
    obtain ⟨-, hfound⟩ := Path.of_done (r := .ok (some _)) hread
    cases hfound
    refine .inr ⟨_, rfl, decide_eq_true (not_not.1 htype), ?_⟩
    refine ⟨rfl, rfl, rfl, ?_, path_optionalSsid hssid, rfl, decide_eq_true_iff⟩
    cases hfield : nullable textField
        (unwrapGet (settings.section "connection") "interface-name" .none) with
    | ok name =>
      rw [hfield] at hname
      cases hname
      rfl
    | error kind =>
      rw [hfield] at hname
      cases hname

/-- The UUIDs of the active connections -/
theorem path_activeUuids {paths : List Value} {uuids : List String}
    (h : Path (activeUuids rt paths) tr (.done (.ok uuids))) :
    List.Forall₂ (fun path uuid => ∃ props v, ⟨.getAll (toStr rt path) ACTIVE, .ok props⟩ ∈ tr ∧
      props.get? "Uuid" = some v ∧ uuid = toStr rt v) paths uuids := by
  obtain ⟨found, rfl, hfound⟩ := path_collect h
  rw [← List.filter_true paths]
  refine forall₂_reduceOption (p := fun _ => true) (hfound.imp fun path y => ?_)
  rintro ⟨tr', hsub, hpath⟩
  obtain ⟨props, first, rest, rfl, hprops, hpath⟩ := hpath.of_bind
  obtain ⟨uuid, second, rest, rfl, huuid, hpath⟩ := hpath.of_bind
  obtain ⟨-, hy⟩ := Path.of_done (r := .ok (some uuid)) hpath
  cases hy
  obtain ⟨v, hv, rfl⟩ := path_strItem huuid
  refine .inr ⟨_, rfl, rfl, props, v, ?_, hv, rfl⟩
  exact hsub (List.mem_append_left _ (mem_of_properties hprops))

/-- **The list has the Wi-Fi and Ethernet profiles that NetworkManager has listed**, each as its
settings have it, in their order; it is active if one of the active connections has its UUID. -/
theorem profiles_listed {params : Dict} {result : List NetworkProfile}
    (h : Path (profiles m rt params) tr (.done (.ok result))) :
    params = [] ∧ Listed m rt tr result := by
  unfold profiles at h
  split at h
  · exact absurd h not_path_raise
  rename_i hparams
  refine ⟨by simpa using hparams, ?_⟩
  obtain ⟨device, tr₁, rest, rfl, hdevice, h⟩ := h.of_bind
  obtain ⟨nmProps, tr₂, rest, rfl, hprops, h⟩ := h.of_bind
  obtain ⟨actives, hactives, h⟩ := path_lift_bind h
  obtain ⟨uuids, tr₃, rest, rfl, huuids, h⟩ := h.of_bind
  obtain ⟨_, tr₄, rest, rfl, -, h⟩ := h.of_bind
  obtain ⟨paths, rest, rfl, hloop⟩ := h.of_perform_bind
  obtain ⟨found, rfl, hfound⟩ := path_collect hloop
  obtain ⟨books, hbooks, hdescribed⟩ :=
    forall₂_exists (P := fun path settings y =>
        ⟨.getSettings path, .ok settings⟩ ∈ rest ∧
          (y = none ∧ isListed rt settings = false ∨ ∃ profile, y = some profile ∧
            isListed rt settings = true ∧ Describes rt uuids settings profile))
      (hfound.imp fun path y => by
        rintro ⟨tr', hsub, hpath⟩
        obtain ⟨settings, hmem, hcase⟩ := path_readProfile hpath
        exact ⟨settings, hsub hmem, hcase⟩)
  refine ⟨⟨device, (located_of_wifiDevice hdevice).mono (List.subset_append_left _ _)⟩,
    nmProps, actives, paths, uuids, books, ?_, mapError_eq_ok hactives, ?_, ?_, ?_, ?_⟩
  · exact List.mem_append_right _ (List.mem_append_left _ (mem_of_properties hprops))
  · refine (path_activeUuids huuids).imp fun path uuid => ?_
    rintro ⟨props, v, hmem, hv⟩
    exact ⟨props, v, by simp [hmem], hv⟩
  · simp
  · refine hbooks.imp fun path settings => ?_
    rintro ⟨_, hmem, -⟩
    simp [hmem]
  · refine forall₂_reduceOption (hdescribed.imp fun settings y => ?_)
    rintro ⟨_, -, hcase⟩
    exact hcase

/-- A machine with three saved profiles, the first of which is active -/
def desk : (c : Call) → Reply c
  | .getAll path interface =>
      if interface = NM_IFACE then [("ActiveConnections", .list [.str "/active/1"])]
      else if interface = ACTIVE then [("Uuid", .str "uuid-home")]
      else quiet (.getAll path interface)
  | .listConnections => ["/settings/1", "/settings/2", "/settings/3"]
  | .getSettings path =>
      if path = "/settings/1" then
        [("connection", [("id", .str "home"), ("uuid", .str "uuid-home"),
          ("type", .str "802-11-wireless")]), ("802-11-wireless", [("ssid", .bytes [0x68, 0x6f])])]
      else if path = "/settings/2" then
        [("connection", [("id", .str "office"), ("uuid", .str "uuid-office"), ("type", .str "vpn")])]
      else
        [("connection", [("id", .str "cable"), ("uuid", .str "uuid-cable"),
          ("type", .str "802-3-ethernet"), ("interface-name", .str "eth0"),
          ("autoconnect", .bool false)])]
  | c => quiet c

def deskRun : List (Event Reply Exc) × Option (Except Exc (List NetworkProfile)) :=
  exec (fun _ c => (.ok (desk c), ())) (profiles .default .ascii []) ()

def deskProfiles : List NetworkProfile :=
  [⟨"home", "uuid-home", "802-11-wireless", none, some "ho", true, true⟩,
    ⟨"cable", "uuid-cable", "802-3-ethernet", some "eth0", none, false, false⟩]

theorem path_deskRun : Path (profiles .default .ascii []) deskRun.1 (.done (.ok deskProfiles)) :=
  path_of_exec _ _ _ (by decide +kernel)

/-- The virtual private network is left out, and the network in use is marked. -/
theorem desk_profiles_listed :
    deskRun.2 = some (.ok deskProfiles) ∧ Listed .default .ascii deskRun.1 deskProfiles :=
  ⟨by decide +kernel, (profiles_listed path_deskRun).2⟩

end Listed

end ApplianceAdmin.Network
