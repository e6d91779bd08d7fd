import ApplianceAdmin.Migration.Script
import Mathlib.Data.List.Basic

/-!
# Saved connection profiles

The profiles of NetworkManager, in the order in which `nmcli connection show` lists them.

* `ProfileUuid`, `Profile`, `Store`: no two profiles have the same UUID, and a UUID is never the
  name that the script makes;
* `Store.target`: the profile that `nmcli` takes an argument for;
* `Store.Adds`, `Store.configure`: what `nmcli connection add` and `modify` do;
* `saving`: the monitor of the store.

A new profile is listed at any position.  Commands that fail leave the store as it is; the answers
of `nmcli` tell what is stored.
-/

namespace ApplianceAdmin.Migration

open Async Async.Prog Async.Monitor

/-! ### Profiles -/

/-- `connection.uuid` -/
@[ext] structure ProfileUuid where
  text : String
  ne_empty : text ≠ ""
  digits : ∀ c ∈ text.toList, c.isHexDigit = true ∨ c = '-'
  deriving DecidableEq

namespace ProfileUuid

/-- A UUID of `n + 1` zeros -/
def zeros (n : ℕ) : ProfileUuid where
  text := String.ofList (List.replicate (n + 1) '0')
  ne_empty := by simp [String.ext_iff]
  digits c hc := by
    rw [String.toList_ofList] at hc
    rw [List.eq_of_mem_replicate hc]
    exact .inl (by decide)

/-- There are as many as needed. -/
instance : Infinite ProfileUuid := by
  refine Infinite.of_injective zeros fun m n h => ?_
  have hlength := congrArg (fun u => u.text.toList.length) h
  simpa [zeros] using hlength

/-- The names that the script makes are not UUIDs. -/
theorem text_ne_profileName (u : ProfileUuid) (ethernet : String) :
    u.text ≠ profileName ethernet := by
  intro h
  have hfirst : 'p' ∈ "appliance-ethernet-".toList := by simp
  have htext : u.text.toList = "appliance-ethernet-".toList ++ ethernet.toList := by
    rw [h]
    exact String.toList_append
  have hp : 'p' ∈ u.text.toList := htext ▸ List.mem_append_left _ hfirst
  rcases u.digits 'p' hp with hdigit | hhyphen
  · exact absurd hdigit (by decide)
  · exact absurd hhyphen (by decide)

end ProfileUuid

structure Profile where
  uuid : ProfileUuid
  /-- `connection.id`, the name -/
  id : String
  /-- `connection.type` -/
  type : String
  /-- `connection.interface-name`; empty where the profile is bound to no device -/
  interfaceName : String
  autoconnect : Bool
  autoconnectPriority : ℤ
  autoconnectRetries : ℤ
  ipv4Method : String
  ipv6Method : String
  ipv4RouteMetric : ℤ
  ipv6RouteMetric : ℤ
  deriving DecidableEq

namespace Profile

/-- `nmcli connection add type ethernet ifname "$ethernet" con-name "$profile" …`, with the defaults
of the properties that it does not name -/
def create (uuid : ProfileUuid) (ethernet profile : String) : Profile where
  uuid := uuid
  id := profile
  type := ethernetType
  interfaceName := ethernet
  autoconnect := true
  autoconnectPriority := 0
  autoconnectRetries := -1
  ipv4Method := "auto"
  ipv6Method := "auto"
  ipv4RouteMetric := -1
  ipv6RouteMetric := -1

/-- `nmcli connection modify "$profile" connection.interface-name "$ethernet" …` -/
def configure (p : Profile) (ethernet : String) : Profile :=
  { p with
    interfaceName := ethernet
    autoconnect := true
    autoconnectPriority := 100
    autoconnectRetries := 0
    ipv4Method := "auto"
    ipv6Method := "auto"
    ipv4RouteMetric := 100
    ipv6RouteMetric := 100 }

/-- An Ethernet profile that is bound to the device -/
def Serves (p : Profile) (ethernet : String) : Prop :=
  p.type = ethernetType ∧ p.interfaceName = ethernet

instance (p : Profile) (ethernet : String) : Decidable (p.Serves ethernet) :=
  inferInstanceAs (Decidable (_ ∧ _))

variable {p : Profile} {e e' : String}

@[simp] theorem configure_uuid : (p.configure e).uuid = p.uuid := rfl

@[simp] theorem configure_id : (p.configure e).id = p.id := rfl

@[simp] theorem configure_type : (p.configure e).type = p.type := rfl

@[simp] theorem configure_interfaceName : (p.configure e).interfaceName = e := rfl

/-- The last configuration counts. -/
@[simp] theorem configure_configure : (p.configure e).configure e' = p.configure e' := rfl

end Profile

/-! ### The store -/

@[ext] structure Store where
  /-- In the order of the listing -/
  profiles : List Profile
  nodup : (profiles.map Profile.uuid).Nodup

namespace Store

variable {s s' : Store} {p q : Profile} {u : ProfileUuid} {e e' name : String}

/-- `nmcli -t -f UUID,TYPE connection show` -/
def listing (s : Store) : List (String × String) := s.profiles.map fun p => (p.uuid.text, p.type)

/-- The first profile with this name -/
def named (s : Store) (id : String) : Option Profile := s.profiles.find? fun p => p.id = id

/-- The profile that is meant by the argument of `nmcli connection`: the one with that UUID, or else
the first one with that name -/
def target (s : Store) (key : String) : Option Profile :=
  (s.profiles.find? fun p => p.uuid.text = key).or (s.named key)

/-- The first Ethernet profile that is bound to the device -/
def serving (s : Store) (ethernet : String) : Option Profile :=
  s.profiles.find? fun p => p.Serves ethernet

def uuids (s : Store) : List ProfileUuid := s.profiles.map Profile.uuid

/-- A new profile is listed somewhere. -/
def Adds (s : Store) (ethernet profile : String) (s' : Store) : Prop :=
  ∃ u before after, s.profiles = before ++ after ∧
    s'.profiles = before ++ Profile.create u ethernet profile :: after

/-- Only the profile with this UUID is changed. -/
def configure (s : Store) (u : ProfileUuid) (ethernet : String) : Store where
  profiles := s.profiles.map fun p => if p.uuid = u then p.configure ethernet else p
  nodup := by
    have huuid : (Profile.uuid ∘ fun p => if p.uuid = u then p.configure ethernet else p) =
        Profile.uuid := by
      funext p
      simp only [Function.comp_apply]
      split <;> rfl
    rw [List.map_map, huuid]
    exact s.nodup

/-! ### Looking profiles up -/

/-- A profile is known by its UUID. -/
theorem eq_of_uuid (hp : p ∈ s.profiles) (hq : q ∈ s.profiles) (h : p.uuid = q.uuid) : p = q :=
  List.inj_on_of_nodup_map s.nodup hp hq h

theorem mem_uuids (hp : p ∈ s.profiles) : p.uuid ∈ s.uuids := List.mem_map_of_mem hp

theorem mem_of_serving (h : s.serving e = some p) : p ∈ s.profiles := List.mem_of_find?_eq_some h

theorem serves_of_serving (h : s.serving e = some p) : p.Serves e := by
  simpa using List.find?_some h

theorem serving_eq_none : s.serving e = none ↔ ∀ p ∈ s.profiles, ¬p.Serves e := by
  simp [serving]

theorem mem_of_named (h : s.named name = some p) : p ∈ s.profiles := List.mem_of_find?_eq_some h

theorem id_of_named (h : s.named name = some p) : p.id = name := by
  simpa using List.find?_some h

/-- A UUID is an argument for its own profile. -/
theorem target_uuid (hp : p ∈ s.profiles) : s.target p.uuid.text = some p := by
  have hfind : (s.profiles.find? fun q => q.uuid.text = p.uuid.text) = some p := by
    cases h : s.profiles.find? fun q => q.uuid.text = p.uuid.text with
    | none =>
      have hne : p.uuid.text ≠ p.uuid.text := by simpa using List.find?_eq_none.1 h p hp
      exact absurd rfl hne
    | some q =>
      have huuid : q.uuid.text = p.uuid.text := by simpa using List.find?_some h
      rw [eq_of_uuid (List.mem_of_find?_eq_some h) hp (ProfileUuid.ext huuid)]
  rw [target, hfind]
  rfl

/-- A name that the script has made is an argument for the first profile with that name. -/
theorem target_profileName : s.target (profileName e) = s.named (profileName e) := by
  have hfind : (s.profiles.find? fun q => q.uuid.text = profileName e) = none := by
    rw [List.find?_eq_none]
    intro q _
    simpa using q.uuid.text_ne_profileName e
  rw [target, hfind]
  rfl

/-! ### Changing one profile -/

theorem mem_configure : q ∈ (s.configure u e).profiles ↔
    ∃ p ∈ s.profiles, q = if p.uuid = u then p.configure e else p := by
  simp only [configure, List.mem_map, eq_comm]

/-- What becomes of a profile that is not changed -/
theorem mem_configure_of_ne (hp : p ∈ s.profiles) (hne : p.uuid ≠ u) :
    p ∈ (s.configure u e).profiles :=
  mem_configure.2 ⟨p, hp, (if_neg hne).symm⟩

/-- What becomes of the profile that is changed -/
theorem mem_configure_self (hp : p ∈ s.profiles) :
    p.configure e ∈ (s.configure p.uuid e).profiles :=
  mem_configure.2 ⟨p, hp, (if_pos rfl).symm⟩

@[simp] theorem uuids_configure : (s.configure u e).uuids = s.uuids := by
  rw [uuids, uuids, configure, List.map_map]
  refine List.map_congr_left fun p _ => ?_
  simp only [Function.comp_apply]
  split <;> rfl

/-- Names stay in their order. -/
theorem named_configure : (s.configure u e).named name =
    (s.named name).map fun p => if p.uuid = u then p.configure e else p := by
  simp only [named, configure, List.find?_map]
  congr 2
  funext p
  simp only [Function.comp_apply]
  split <;> rfl

/-! ### Adding a profile -/

/-- The UUID of a new profile is new. -/
theorem fresh_of_insert {before after : List Profile} (hs : s.profiles = before ++ after)
    (hs' : s'.profiles = before ++ p :: after) : p.uuid ∉ s.uuids := by
  have hnodup := s'.nodup
  rw [hs', List.map_append, List.map_cons, List.nodup_middle] at hnodup
  rw [uuids, hs, List.map_append]
  exact (List.nodup_cons.1 hnodup).1

/-- The profiles after an addition -/
theorem Adds.mem (h : s.Adds e name s') : ∃ u, u ∉ s.uuids ∧
    ∀ p, p ∈ s'.profiles ↔ p = Profile.create u e name ∨ p ∈ s.profiles := by
  obtain ⟨u, before, after, hs, hs'⟩ := h
  refine ⟨u, fresh_of_insert hs hs', fun p => ?_⟩
  rw [hs, hs']
  simp only [List.mem_append, List.mem_cons]
  tauto

/-- The order of the other names is the same. -/
theorem Adds.named_of_ne (h : s.Adds e name s') {id : String} (hid : id ≠ name) :
    s'.named id = s.named id := by
  obtain ⟨u, before, after, hs, hs'⟩ := h
  have hnot : ¬(Profile.create u e name).id = id := fun he => hid he.symm
  rw [named, named, hs, hs', List.find?_append, List.find?_append,
    List.find?_cons_of_neg (by simpa using hnot)]

/-- The first profile with the name is the new one, or it was the first one before. -/
theorem Adds.named (h : s.Adds e name s') : (∃ u, u ∉ s.uuids ∧
    s'.named name = some (Profile.create u e name)) ∨ s'.named name = s.named name := by
  obtain ⟨u, before, after, hs, hs'⟩ := h
  cases hbefore : before.find? fun p => p.id = name with
  | some p =>
    refine .inr ?_
    rw [Store.named, Store.named, hs, hs', List.find?_append, List.find?_append, hbefore]
    rfl
  | none =>
    refine .inl ⟨u, fresh_of_insert hs hs', ?_⟩
    rw [Store.named, hs', List.find?_append, hbefore]
    simp [Profile.create]

/-- A new profile can be listed last. -/
theorem exists_adds (s : Store) (ethernet profile : String) : ∃ u s', s.Adds ethernet profile s' ∧
    s'.named profile = some ((s.named profile).getD (Profile.create u ethernet profile)) := by
  obtain ⟨u, hu⟩ := Infinite.exists_notMem_finset s.uuids.toFinset
  rw [List.mem_toFinset] at hu
  have hnodup : ((s.profiles ++ [Profile.create u ethernet profile]).map Profile.uuid).Nodup := by
    rw [List.map_append, List.nodup_append]
    refine ⟨s.nodup, List.nodup_singleton _, fun v hv w hw hvw => hu ?_⟩
    have huv : u = v := (List.mem_singleton.1 hw).symm.trans hvw.symm
    exact huv ▸ hv
  refine ⟨u, ⟨_, hnodup⟩, ⟨u, s.profiles, [], (List.append_nil _).symm, rfl⟩, ?_⟩
  rw [Store.named, Store.named, List.find?_append]
  cases s.profiles.find? fun p => p.id = profile with
  | some p => rfl
  | none => simp [Profile.create]

/-! ### The monitor -/

/-- One command of the loop, with its answer. -/
def Step (s : Store) (c : Call) (r : Except Failure (Reply c)) (s' : Store) : Prop :=
  match c, r with
  | .listConnections, .ok listed => listed = s.listing ∧ s' = s
  | .interfaceName uuid, .ok name =>
      (∃ p, s.target uuid = some p ∧ name = p.interfaceName) ∧ s' = s
  | .addEthernet ethernet profile, .ok _ => s.Adds ethernet profile s'
  | .modifyEthernet profile ethernet, .ok _ =>
      ∃ p, s.target profile = some p ∧ s' = s.configure p.uuid ethernet
  -- a connection that comes up, or does not, is stored as before
  | _, _ => s' = s

end Store

/-- The store, as the loop acts on it. -/
def saving : Monitor Reply Failure Store where
  pre _ _ := True
  next := Store.Step

end ApplianceAdmin.Migration
