import ApplianceAdmin.Python.Value

/-!
# Exceptions of the daemon

`AdminClass` is the class hierarchy of `errors.py`, with the codes that the IPC response carries.
`Exc` adds what the language, the libraries and the event loop can raise.  `CancelledError` is the
one exception here that is not an `Exception`.
-/

namespace ApplianceAdmin

open Python

/-- The subclasses of `AdminError`. -/
inductive AdminClass
  | adminError
  | authorizationError
  | validationError
  | notFoundError
  | busyError
  | networkBackendUnavailableError
  | networkActivationError
  deriving DecidableEq

/-- The attribute `code` of each class. -/
def AdminClass.code : AdminClass → String
  | .adminError => "admin_error"
  | .authorizationError => "not_authorized"
  | .validationError => "invalid_request"
  | .notFoundError => "not_found"
  | .busyError => "busy"
  | .networkBackendUnavailableError => "network_backend_unavailable"
  | .networkActivationError => "network_activation_failed"

/-- One entry of a pydantic `ValidationError`: the field and the kind of the error. -/
structure FieldError where
  loc : String
  kind : String
  deriving DecidableEq

/-- An exception object. -/
inductive Exc
  | admin (cls : AdminClass) (message : String)
  | py (e : PyError)
  | pydantic (message : String) (errors : List FieldError)
  | cancelled
  deriving DecidableEq

namespace Exc

/-- `NotFoundError(message)` -/
def notFound (message : String) : Exc := .admin .notFoundError message

/-- `ValidationError(message)` of `errors.py` -/
def validation (message : String) : Exc := .admin .validationError message

/-- `BusyError(message)` -/
def busy (message : String) : Exc := .admin .busyError message

/-- `NetworkBackendUnavailableError(message)` -/
def backendUnavailable (message : String) : Exc := .admin .networkBackendUnavailableError message

/-- `NetworkActivationError(message)` -/
def activation (message : String) : Exc := .admin .networkActivationError message

/-- `str(exc)` -/
def text : Exc → String
  | .admin _ message => message
  | .py e => e.message
  | .pydantic message _ => message
  | .cancelled => ""

/-- Caught by `except Exception`. -/
def isException : Exc → Bool
  | .cancelled => false
  | _ => true

/-- An instance of the `AdminError` subclass `cls`. -/
def isAdmin (cls : AdminClass) : Exc → Bool
  | .admin cls' _ => cls' = cls
  | _ => false

/-- Caught by `except NotFoundError`. -/
def isNotFound : Exc → Bool := isAdmin .notFoundError

/-- Caught by `except ValidationError` of `errors.py`. -/
def isValidation : Exc → Bool := isAdmin .validationError

/-- Caught by `except NetworkBackendUnavailableError`. -/
def isBackendUnavailable : Exc → Bool := isAdmin .networkBackendUnavailableError

/-- Caught by `except NetworkActivationError`. -/
def isActivation : Exc → Bool := isAdmin .networkActivationError

/-- Caught by `except TimeoutError`. -/
def isTimeout : Exc → Bool
  | .py e => e.cls = .timeout
  | _ => false

/-- Caught by `except ValueError`: pydantic's `ValidationError` is a `ValueError`. -/
def isValueError : Exc → Bool
  | .py e => e.cls = .value
  | .pydantic _ _ => true
  | _ => false

/-- Caught by `except FileNotFoundError`. -/
def isFileNotFound : Exc → Bool
  | .py e => e.cls = .fileNotFound
  | _ => false

/-- `TimeoutError()` as `asyncio` raises it. -/
def timeoutError : Exc := .py ⟨.timeout, ""⟩

@[simp] theorem isException_eq_false {e : Exc} : e.isException = false ↔ e = .cancelled := by
  cases e <;> simp [isException]

end Exc

/-- What the model takes from the interpreter and its libraries as it finds it: the character
database and the text of a pydantic `ValidationError` for a model, what was validated and the
entries. -/
structure Runtime extends Unicode where
  pydanticText : String → Value → List FieldError → String

/-- An interpreter that knows the ASCII part of the database. -/
def Runtime.ascii : Runtime where
  toUnicode := .ascii
  pydanticText model _ errors := toString errors.length ++ " validation errors for " ++ model

end ApplianceAdmin
