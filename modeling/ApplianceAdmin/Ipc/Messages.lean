import ApplianceAdmin.Ipc.Wire

/-!
# Requests and responses

The two models of `models.py` that go over the socket, as the values behind their JSON and back.

* `IPCRequest.modelValidateJson`, `IPCResponse.modelValidateJson`: what a line is parsed to;
* `IPCResponse.line`: what is written for a response; `line_success`, `line_failure`: every response
  can be written whose result can;
* `validate_toValue`: what is parsed from the value of a response.
-/

namespace ApplianceAdmin

open Python Ipc

structure IPCRequest where
  id : String
  action : String
  params : Dict
  auditUser : Option String

/-- A `dict` field -/
def dictField : Value → Except String Dict
  | .dict kv => .ok kv
  | _ => .error "dict_type"

/-- The JSON value of an optional text -/
def optionalText : Option String → Value
  | some s => .str s
  | none => .none

namespace IPCRequest

def actionBounds : StrBounds := ⟨1, 128⟩

def auditUserBounds : StrBounds := ⟨0, 128⟩

/-- The fields of a request; `fresh` is what `uuid4()` returns for a request without an `id`. -/
def validate (rt : Runtime) (fresh : String) (fields : Dict) : Except Exc IPCRequest :=
  let id := optional fields "id" fresh textField
  let action := required fields "action" (strField actionBounds anyText)
  let params := optional fields "params" [] dictField
  let auditUser := optional fields "audit_user" none (nullable (strField auditUserBounds anyText))
  match id, action, params, auditUser with
  | .ok id, .ok action, .ok params, .ok auditUser => .ok ⟨id, action, params, auditUser⟩
  | _, _, _, _ =>
      .error (pydanticError rt "IPCRequest" (.dict fields)
        (entry id ++ entry action ++ entry params ++ entry auditUser))

/-- `IPCRequest.model_validate_json(line)` -/
def modelValidateJson (json : Json) (rt : Runtime) (fresh : String) (line : List UInt8) :
    Except Exc IPCRequest :=
  match json.loads line with
  | some (.dict fields) => validate rt fresh fields
  | some v => .error (pydanticError rt "IPCRequest" v [⟨"", "model_type"⟩])
  | none => .error (pydanticError rt "IPCRequest" (.bytes line) [⟨"", "json_invalid"⟩])

/-- The value behind `request.model_dump_json()` -/
def toValue (request : IPCRequest) : Value :=
  .dict [("id", .str request.id), ("action", .str request.action), ("params", .dict request.params),
    ("audit_user", optionalText request.auditUser)]

/-- The fields of `IPCRequest(action=action, params=params, audit_user=audit_user)` -/
def fields (action : String) (params : Dict) (auditUser : Option String) : Dict :=
  [("action", .str action), ("params", .dict params), ("audit_user", optionalText auditUser)]

theorem auditUser_of_nullable {auditUser auditUser' : Option String}
    (h : nullable (strField auditUserBounds anyText) (optionalText auditUser) = .ok auditUser') :
    auditUser' = auditUser := by
  cases auditUser with
  | none => cases h; rfl
  | some s =>
    have hcheck : (checkText auditUserBounds anyText s).map some = .ok auditUser' := h
    cases htext : checkText auditUserBounds anyText s with
    | error kind => rw [htext] at hcheck; cases hcheck
    | ok t =>
      rw [htext] at hcheck
      cases hcheck
      rw [(checkText_eq_ok_iff.1 htext).1]

theorem validate_eq_ok_iff {rt : Runtime} {fresh : String} {kv : Dict} {request : IPCRequest} :
    validate rt fresh kv = .ok request ↔ optional kv "id" fresh textField = .ok request.id ∧
      required kv "action" (strField actionBounds anyText) = .ok request.action ∧
      optional kv "params" [] dictField = .ok request.params ∧
      optional kv "audit_user" none (nullable (strField auditUserBounds anyText)) =
        .ok request.auditUser := by
  constructor
  · intro h
    unfold validate at h
    simp only at h
    split at h
    · rename_i hid haction hparams hauditUser
      cases h
      exact ⟨hid, haction, hparams, hauditUser⟩
    · cases h
  · rintro ⟨hid, haction, hparams, hauditUser⟩
    unfold validate
    rw [hid, haction, hparams, hauditUser]

/-- **A request that was made is read back from its value.** -/
theorem validate_toValue {rt : Runtime} {fresh action : String} {params : Dict}
    {auditUser : Option String} {request : IPCRequest}
    (h : validate rt fresh (fields action params auditUser) = .ok request) :
    request = ⟨fresh, action, params, auditUser⟩ ∧ ∀ fresh' kv, request.toValue = .dict kv →
      validate rt fresh' kv = .ok request := by
  obtain ⟨hid, haction, hparams, hauditUser⟩ := validate_eq_ok_iff.1 h
  obtain ⟨id, action', params', auditUser'⟩ := request
  have hcheck : checkText actionBounds anyText action = .ok action' := mapError_eq_ok haction
  have hnullable : nullable (strField auditUserBounds anyText) (optionalText auditUser) =
      .ok auditUser' := mapError_eq_ok hauditUser
  obtain rfl : action = action' := (checkText_eq_ok_iff.1 hcheck).1
  obtain rfl : auditUser' = auditUser := auditUser_of_nullable hnullable
  cases hid
  cases hparams
  refine ⟨rfl, fun fresh' kv hkv => ?_⟩
  cases hkv
  exact validate_eq_ok_iff.2 ⟨rfl, haction, rfl, hauditUser⟩

/-- `request.model_dump_json().encode() + b"\n"` -/
def line (json : Json) (request : IPCRequest) : Except Exc (List UInt8) :=
  (json.dumps request.toValue).map messageLine

end IPCRequest

namespace IPCError

/-- The value behind the JSON of the model -/
def toValue (error : IPCError) : Value :=
  .dict [("code", .str error.code), ("message", .str error.message)]

/-- The field `error` of a response -/
def validate : Value → Except (List FieldError) IPCError
  | .dict fields =>
      let code := required fields "code" textField
      let message := required fields "message" textField
      match code, message with
      | .ok code, .ok message => .ok ⟨code, message⟩
      | _, _ =>
          .error ((entry code ++ entry message).map fun e => { e with loc := "error." ++ e.loc })
  | _ => .error [⟨"error", "model_type"⟩]

end IPCError

namespace IPCResponse

/-- The value behind `response.model_dump_json()` -/
def toValue (response : IPCResponse Value) : Value :=
  .dict [("id", .str response.id), ("ok", .bool response.ok),
    ("result", response.result.getD .none),
    ("error", (response.error.map IPCError.toValue).getD .none)]

/-- The field `error`, which has a default -/
def errorField (fields : Dict) : Except (List FieldError) (Option IPCError) :=
  match fields.get? "error" with
  | none => .ok none
  | some .none => .ok none
  | some v => (IPCError.validate v).map some

/-- The error entries of the field `error`, if it failed -/
def errorEntries : Except (List FieldError) (Option IPCError) → List FieldError
  | .ok _ => []
  | .error es => es

/-- The fields of a response -/
def validate (rt : Runtime) (fields : Dict) : Except Exc (IPCResponse Value) :=
  let id := required fields "id" textField
  let ok := required fields "ok" boolField
  let error := errorField fields
  match id, ok, error with
  | .ok id, .ok ok, .ok error => .ok ⟨id, ok, fields.get? "result", error⟩
  | _, _, _ =>
      .error (pydanticError rt "IPCResponse" (.dict fields)
        (entry id ++ entry ok ++ errorEntries error))

/-- `IPCResponse.model_validate_json(line)` -/
def modelValidateJson (json : Json) (rt : Runtime) (line : List UInt8) :
    Except Exc (IPCResponse Value) :=
  match json.loads line with
  | some (.dict fields) => validate rt fields
  | some v => .error (pydanticError rt "IPCResponse" v [⟨"", "model_type"⟩])
  | none => .error (pydanticError rt "IPCResponse" (.bytes line) [⟨"", "json_invalid"⟩])

/-- `response.model_dump_json().encode() + b"\n"` -/
def line (json : Json) (response : IPCResponse Value) : Except Exc (List UInt8) :=
  (json.dumps response.toValue).map messageLine

theorem line_failure (json : Json) (id code message : String) :
    ∃ text, OneLine text ∧ line json ⟨id, false, none, some ⟨code, message⟩⟩ =
      .ok (messageLine text) :=
  ⟨_, json.oneLine_dumps (toValue ⟨id, false, none, some ⟨code, message⟩⟩) _ rfl, rfl⟩

theorem line_success {json : Json} {result : Value} {s : String} (h : json.dumps result = .ok s)
    (id : String) : ∃ text, OneLine text ∧ line json ⟨id, true, some result, none⟩ =
      .ok (messageLine text) := by
  have hdumps : ∃ text, json.dumps (toValue ⟨id, true, some result, none⟩) = .ok text := by
    simp only [toValue, Option.getD_some, Option.map_none, Option.getD_none, Json.dumps,
      Json.dumpsDict, h]
    exact ⟨_, rfl⟩
  obtain ⟨text, htext⟩ := hdumps
  refine ⟨text, json.oneLine_dumps _ _ htext, ?_⟩
  rw [line, htext]
  rfl

/-- **The fields of a response are read back from its value.** -/
theorem validate_toValue (rt : Runtime) (response : IPCResponse Value) {fields : Dict}
    (h : response.toValue = .dict fields) : validate rt fields =
      .ok { response with result := some (response.result.getD .none) } := by
  obtain ⟨id, ok, result, error⟩ := response
  cases h
  cases error <;> rfl

end IPCResponse

end ApplianceAdmin
