import ApplianceAdmin.Errors

/-!
# Data models

The pydantic models of `models.py` as structures, and validation of request parameters as pydantic
does it in its lax mode: every field is checked, the errors of all fields are collected in the
order of the fields, and parameters without a field are ignored.

* `strField`: one constrained string field; each request model is this check with its own bounds;
* `boolField`: the lax reading of a `bool`;
* `WifiConnectRequest`, `HostnameSetRequest`, `ServiceActionRequest`: requests with `validate`;
* the result models of the network and the service handlers.
-/

namespace ApplianceAdmin

open Python

/-! ### Field checks -/

/-- The bounds of a string field, both in characters. -/
structure StrBounds where
  minLength : ℕ
  maxLength : ℕ

/-- The constraints of a string field on a text, in the order in which they are checked. -/
def checkText (b : StrBounds) (pattern : List Char → Bool) (s : String) : Except String String :=
  if s.length < b.minLength then .error "string_too_short"
  else if b.maxLength < s.length then .error "string_too_long"
  else if !pattern s.toList then .error "string_pattern_mismatch"
  else .ok s

theorem checkText_eq_ok_iff {b : StrBounds} {pattern : List Char → Bool} {s t : String} :
    checkText b pattern s = .ok t ↔
      s = t ∧ b.minLength ≤ s.length ∧ s.length ≤ b.maxLength ∧ pattern s.toList = true := by
  unfold checkText
  split_ifs with h₁ h₂ h₃
  · simp; omega
  · simp; omega
  · simp_all
  · simp_all

/-- A `str` field: a text within the bounds that matches the pattern. -/
def strField (b : StrBounds) (pattern : List Char → Bool) : Value → Except String String
  | .str s => checkText b pattern s
  | .bytes bs =>
      match String.fromUTF8? ⟨bs.toArray⟩ with
      | some s => checkText b pattern s
      | none => .error "string_unicode"
  | _ => .error "string_type"

theorem strField_spec {b : StrBounds} {pattern : List Char → Bool} {v : Value} {s : String}
    (h : strField b pattern v = .ok s) :
    b.minLength ≤ s.length ∧ s.length ≤ b.maxLength ∧ pattern s.toList = true := by
  unfold strField at h
  split at h
  · obtain ⟨rfl, hs⟩ := checkText_eq_ok_iff.1 h
    exact hs
  · split at h
    · obtain ⟨rfl, hs⟩ := checkText_eq_ok_iff.1 h
      exact hs
    · cases h
  · cases h

/-- A `str` field without bounds -/
def textField : Value → Except String String
  | .str s => .ok s
  | .bytes bs =>
      match String.fromUTF8? ⟨bs.toArray⟩ with
      | some s => .ok s
      | none => .error "string_unicode"
  | _ => .error "string_type"

/-- The texts that stand for a `bool`. -/
def boolText (s : String) : Except String Bool :=
  let t := String.ofList (s.toList.map Char.toLower)
  if t ∈ ["0", "off", "f", "false", "n", "no"] then .ok false
  else if t ∈ ["1", "on", "t", "true", "y", "yes"] then .ok true
  else .error "bool_parsing"

/-- The integers that stand for a `bool`; those outside 64 bits are no integers here. -/
def boolInt (n : ℤ) : Except String Bool :=
  if n = 0 then .ok false else if n = 1 then .ok true
  else if -2 ^ 63 ≤ n ∧ n < 2 ^ 63 then .error "bool_parsing" else .error "bool_type"

/-- A `bool` field. -/
def boolField : Value → Except String Bool
  | .bool b => .ok b
  | .int n => boolInt n
  | .float x =>
      match x.value with
      | some q => if q.den = 1 ∧ q ≠ -2 ^ 63 then boolInt q.num else .error "bool_type"
      | none => .error "bool_type"
  | .str s => boolText s
  | .bytes bs =>
      match String.fromUTF8? ⟨bs.toArray⟩ with
      | some s => boolText s
      | none => .error "bool_parsing"
  | _ => .error "bool_type"

/-- A field that has to be there. -/
def required {α : Type} (params : Dict) (loc : String) (check : Value → Except String α) :
    Except FieldError α :=
  match params.get? loc with
  | none => .error ⟨loc, "missing"⟩
  | some v => (check v).mapError fun kind => ⟨loc, kind⟩

/-- A field with a default. -/
def optional {α : Type} (params : Dict) (loc : String) (default : α)
    (check : Value → Except String α) : Except FieldError α :=
  match params.get? loc with
  | none => .ok default
  | some v => (check v).mapError fun kind => ⟨loc, kind⟩

/-- The check of a field of type `… | None`. -/
def nullable {α : Type} (check : Value → Except String α) : Value → Except String (Option α)
  | .none => .ok none
  | v => (check v).map some

section Checks

variable {α : Type} {params : Dict} {loc : String} {check : Value → Except String α} {a : α}

theorem mapError_eq_ok {ε ε' : Type} {f : ε → ε'} {r : Except ε α} (h : r.mapError f = .ok a) :
    r = .ok a := by
  cases r with
  | ok b =>
    cases h
    rfl
  | error e => cases h

theorem required_eq_ok (h : required params loc check = .ok a) : ∃ v, check v = .ok a := by
  unfold required at h
  split at h
  · cases h
  · exact ⟨_, mapError_eq_ok h⟩

theorem optional_eq_ok {default : α} (h : optional params loc default check = .ok a) :
    a = default ∨ ∃ v, check v = .ok a := by
  unfold optional at h
  split at h
  · cases h
    exact .inl rfl
  · exact .inr ⟨_, mapError_eq_ok h⟩

theorem nullable_eq_ok {v : Value} (h : nullable check v = .ok (some a)) : check v = .ok a := by
  unfold nullable at h
  split at h
  · cases h
  · cases hv : check v with
    | ok b =>
      rw [hv] at h
      cases h
      rfl
    | error kind =>
      rw [hv] at h
      cases h

end Checks

/-- The error entry of a field, if it failed. -/
def entry {α : Type} : Except FieldError α → List FieldError
  | .ok _ => []
  | .error e => [e]

/-- The `ValidationError` of a model for the input `input`, whose text shows what is wrong in it. -/
def pydanticError (rt : Runtime) (model : String) (input : Value) (errors : List FieldError) : Exc :=
  .pydantic (rt.pydanticText model input errors) errors

/-- A pattern that every text matches, for fields without one. -/
def anyText : List Char → Bool := fun _ => true

/-! ### Requests -/

structure WifiConnectRequest where
  ssid : String
  password : Option String
  hidden : Bool

namespace WifiConnectRequest

def ssidBounds : StrBounds := ⟨1, 32⟩

def passwordBounds : StrBounds := ⟨8, 63⟩

/-- `WifiConnectRequest.model_validate(params)` -/
def validate (rt : Runtime) (params : Dict) : Except Exc WifiConnectRequest :=
  let ssid := required params "ssid" (strField ssidBounds anyText)
  let password := optional params "password" none (nullable (strField passwordBounds anyText))
  let hidden := optional params "hidden" false boolField
  match ssid, password, hidden with
  | .ok ssid, .ok password, .ok hidden => .ok ⟨ssid, password, hidden⟩
  | _, _, _ =>
      .error (pydanticError rt "WifiConnectRequest" (.dict params)
        (entry ssid ++ entry password ++ entry hidden))

end WifiConnectRequest

/-- `[A-Za-z0-9]` -/
def isAlnum (c : Char) : Bool := c.isUpper || c.isLower || c.isDigit

/-- `[A-Za-z0-9-]` -/
def isLabelChar (c : Char) : Bool := isAlnum c || c = '-'

/-! ### Labels -/

/-- `[a-z0-9-]` -/
def isSmallLabelChar (c : Char) : Bool := c.isLower || c.isDigit || c = '-'

/-- A label of 1 to 63 lower-case ASCII letters, digits and inner hyphens. -/
structure IsLabel (s : String) : Prop where
  length_pos : 1 ≤ s.length
  length_le : s.length ≤ 63
  chars : ∀ c ∈ s.toList, isSmallLabelChar c = true
  head : s.toList.head? ≠ some '-'
  last : s.toList.getLast? ≠ some '-'

theorem isAscii_of_isLabelChar {c : Char} (h : isLabelChar c = true) : isAscii c = true := by
  simp only [isLabelChar, isAlnum, Bool.or_eq_true, isUpper_iff, isLower_iff, isDigit_iff,
    decide_eq_true_eq] at h
  have hn : c.toNat < 128 := by
    rcases h with ((h | h) | h) | rfl
    · omega
    · omega
    · omega
    · decide
  simpa [isAscii, UInt32.lt_iff_toNat_lt] using hn

theorem isSmallLabelChar_toLower {c : Char} (h : isLabelChar c = true) :
    isSmallLabelChar c.toLower = true := by
  rw [isSmallLabelChar, Bool.or_eq_true, Bool.or_eq_true]
  rcases toLower_cases c with hc | hc
  · rw [hc]
    simp only [isLabelChar, isAlnum, Bool.or_eq_true] at h
    rcases h with ((h | h) | h) | h
    · -- a capital letter is not its own lower case
      have hn := toNat_toLower_of_isUpper h
      rw [hc] at hn
      omega
    · exact .inl (.inl h)
    · exact .inl (.inr h)
    · exact .inr h
  · exact .inl (.inl hc)

theorem toLower_ne_hyphen {c : Char} (h : isAlnum c = true) : c.toLower ≠ '-' := by
  intro he
  rw [eq_of_toLower_eq (by decide) he] at h
  exact absurd h (by decide)

theorem isSmallLabelChar_iff {c : Char} : isSmallLabelChar c = true ↔
    (97 ≤ c.toNat ∧ c.toNat ≤ 122) ∨ (48 ≤ c.toNat ∧ c.toNat ≤ 57) ∨ c = '-' := by
  simp only [isSmallLabelChar, Bool.or_eq_true, isLower_iff, isDigit_iff, decide_eq_true_eq,
    or_assoc]

namespace IsLabel

variable {s : String}

theorem isSpace_eq_false (h : IsLabel s) : ∀ c ∈ s.toList, isSpace c = false := by
  intro c hc
  have := isSmallLabelChar_iff.1 (h.chars c hc)
  rcases this with h | h | rfl
  · simp [isSpace]; omega
  · simp [isSpace]; omega
  · decide

theorem strip_eq (h : IsLabel s) : strip s = s := strip_eq_self h.isSpace_eq_false

theorem dot_notMem (h : IsLabel s) : '.' ∉ s.toList := fun hdot =>
  absurd (h.chars '.' hdot) (by decide)

end IsLabel

/-! ### The hostname and service requests -/

structure HostnameSetRequest where
  hostname : String

namespace HostnameSetRequest

def hostnameBounds : StrBounds := ⟨1, 63⟩

/-- `^[A-Za-z0-9](?:[A-Za-z0-9-]{0,61}[A-Za-z0-9])?$`, where `$` is the end of the text. -/
def hostnamePattern : List Char → Bool
  | [] => false
  | [c] => isAlnum c
  | c :: rest =>
      isAlnum c && rest.length ≤ 62 && rest.dropLast.all isLabelChar && rest.getLast?.any isAlnum

/-- `HostnameSetRequest.model_validate(params)` -/
def validate (rt : Runtime) (params : Dict) : Except Exc HostnameSetRequest :=
  match required params "hostname" (strField hostnameBounds hostnamePattern) with
  | .ok hostname => .ok ⟨hostname⟩
  | .error e => .error (pydanticError rt "HostnameSetRequest" (.dict params) [e])

theorem hostnamePattern_spec {cs : List Char} (h : hostnamePattern cs = true) :
    (∀ c ∈ cs, isLabelChar c = true) ∧ (∀ c, cs.head? = some c → isAlnum c = true) ∧
      (∀ c, cs.getLast? = some c → isAlnum c = true) := by
  have hlabel : ∀ {c : Char}, isAlnum c = true → isLabelChar c = true := fun h => by
    simp [isLabelChar, h]
  match cs with
  | [] => cases h
  | [c] =>
    have hc : isAlnum c = true := h
    exact ⟨by simpa using hlabel hc, by simpa using hc, by simpa using hc⟩
  | c :: d :: rest =>
    simp only [hostnamePattern, Bool.and_eq_true, List.all_eq_true] at h
    obtain ⟨⟨⟨hc, -⟩, hinner⟩, hlast⟩ := h
    have hne : d :: rest ≠ [] := List.cons_ne_nil _ _
    rw [List.getLast?_eq_some_getLast hne, Option.any_some] at hlast
    refine ⟨fun e he => ?_, by simpa using hc, fun e he => ?_⟩
    · rcases List.mem_cons.1 he with rfl | he
      · exact hlabel hc
      · rw [← List.dropLast_append_getLast hne, List.mem_append, List.mem_singleton] at he
        rcases he with he | rfl
        · exact hinner e he
        · exact hlabel hlast
    · rw [List.getLast?_cons_cons, List.getLast?_eq_some_getLast hne, Option.some.injEq] at he
      exact he ▸ hlast

theorem isLabel_lower {rt : Runtime} {params : Dict} {request : HostnameSetRequest}
    (h : validate rt params = .ok request) : IsLabel (rt.lower request.hostname) := by
  have hfield : ∃ v, strField hostnameBounds hostnamePattern v = .ok request.hostname := by
    unfold validate at h
    split at h
    · rename_i hostname hrequired
      cases h
      exact required_eq_ok hrequired
    · cases h
  obtain ⟨v, hv⟩ := hfield
  obtain ⟨hmin, hmax, hpattern⟩ := strField_spec hv
  obtain ⟨hchars, hhead, hlast⟩ := hostnamePattern_spec hpattern
  have hascii : request.hostname.toList.all isAscii = true :=
    List.all_eq_true.2 fun c hc => isAscii_of_isLabelChar (hchars c hc)
  rw [Unicode.lower_ascii hascii]
  constructor
  · rw [String.length_ofList, List.length_map, String.length_toList]
    exact hmin
  · rw [String.length_ofList, List.length_map, String.length_toList]
    exact hmax
  · intro c hc
    rw [String.toList_ofList] at hc
    obtain ⟨d, hd, rfl⟩ := List.mem_map.1 hc
    exact isSmallLabelChar_toLower (hchars d hd)
  · rw [String.toList_ofList, List.head?_map]
    intro h
    obtain ⟨c, hc, he⟩ := Option.map_eq_some_iff.1 h
    exact toLower_ne_hyphen (hhead c hc) he
  · rw [String.toList_ofList, List.getLast?_map]
    intro h
    obtain ⟨c, hc, he⟩ := Option.map_eq_some_iff.1 h
    exact toLower_ne_hyphen (hlast c hc) he

end HostnameSetRequest

structure ServiceActionRequest where
  service : String

namespace ServiceActionRequest

def serviceBounds : StrBounds := ⟨1, 128⟩

/-- `ServiceActionRequest(service=raw)` for a `str` -/
def make (rt : Runtime) (raw : String) : Except Exc ServiceActionRequest :=
  match strField serviceBounds anyText (.str raw) with
  | .ok service => .ok ⟨service⟩
  | .error kind =>
      .error (pydanticError rt "ServiceActionRequest" (.dict [("service", .str raw)])
        [⟨"service", kind⟩])

end ServiceActionRequest

/-! ### Results -/

structure ServiceStatus where
  service : String
  activeState : String
  subState : String
  unitFileState : Option String
  deriving DecidableEq

structure WifiAccessPoint where
  ssid : String
  bssid : String
  bssids : List String
  strength : ℤ
  frequencyMhz : ℤ
  secured : Bool
  active : Bool
  deriving DecidableEq

/-- `WifiAccessPoint(…)`: the strength has to lie in `0 … 100`. -/
def WifiAccessPoint.make (rt : Runtime) (item : WifiAccessPoint) : Except Exc WifiAccessPoint :=
  let input := Value.dict [("strength", .int item.strength)]
  if item.strength < 0 then
    .error (pydanticError rt "WifiAccessPoint" input [⟨"strength", "greater_than_equal"⟩])
  else if 100 < item.strength then
    .error (pydanticError rt "WifiAccessPoint" input [⟨"strength", "less_than_equal"⟩])
  else .ok item

/-- An address with the length of its network part (`prefix` in the source). -/
structure InterfaceAddress where
  address : String
  prefixLen : ℤ
  deriving DecidableEq

structure NetworkRoute where
  destination : String
  prefixLen : ℤ
  nextHop : Option String
  metric : Option ℤ
  deriving DecidableEq

inductive InterfaceKind
  | wifi
  | ethernet
  | other
  deriving DecidableEq

structure NetworkInterface where
  name : String
  kind : InterfaceKind
  state : String
  stateReason : Option ℤ
  managed : Bool
  carrier : Option Bool
  activeConnection : Option String
  ipv4 : List InterfaceAddress
  gateway4 : Option String
  dns4 : List String
  routes4 : List NetworkRoute
  deriving DecidableEq

structure NetworkStatus where
  connectivity : String
  primaryConnection : Option String
  wifiSsid : Option String
  interfaces : List NetworkInterface
  deriving DecidableEq

structure NetworkProfile where
  id : String
  uuid : String
  type : String
  interfaceName : Option String
  ssid : Option String
  autoconnect : Bool
  active : Bool
  deriving DecidableEq

/-! ### Responses -/

structure IPCError where
  code : String
  message : String
  deriving DecidableEq

structure IPCResponse (α : Type) where
  id : String
  ok : Bool
  result : Option α
  error : Option IPCError

end ApplianceAdmin
