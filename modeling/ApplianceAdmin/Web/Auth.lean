import ApplianceAdmin.Errors

/-!
# Who may use the web interface

`admin_dependency` of `web/auth.py`.

* `Failure`: how a web request ends other than with a result;
* `Jwt`: the library that decodes tokens;
* `requireAdmin`: the dependency; `requireAdmin_eq_ok_iff`: whom it lets in, and under which name.
-/

namespace ApplianceAdmin.Web

open Python

/-- The end of a request without a result. -/
inductive Failure
  /-- `HTTPException` -/
  | http (statusCode : ℕ) (detail : Value) (headers : List (String × String))
  /-- The parameters of the request do not pass the checks of the route. -/
  | unprocessable
  /-- The result does not pass the check of the response model. -/
  | responseModel
  /-- An exception that nothing handles -/
  | unhandled (exc : Exc)

/-- The status code of the response -/
def Failure.status : Failure → ℕ
  | .http statusCode _ _ => statusCode
  | .unprocessable => 422
  | .responseModel | .unhandled _ => 500

structure WebUser where
  username : String
  isAdmin : Bool
  deriving DecidableEq

/-- The settings of the web process that are read here. -/
structure WebSettings where
  authSecret : String
  authIssuer : String
  authAudience : String

/-- The settings of a process whose environment has the secret only -/
def WebSettings.default (authSecret : String) : WebSettings :=
  ⟨authSecret, "appliance-admin", "appliance-admin-api"⟩

/-- `HTTPAuthorizationCredentials`, as `HTTPBearer` reads them from the header -/
structure Credentials where
  scheme : String
  credentials : String

/-- What `jwt.decode` is asked for besides the token. -/
structure JwtOptions where
  key : String
  algorithms : List String
  issuer : String
  audience : String
  require : List String

/-- What `jwt.decode` raises. -/
inductive JwtExc
  | pyJwt
  | other (exc : Exc)

/-- `jwt.decode`: the claims of a token -/
abbrev Jwt := String → JwtOptions → Except JwtExc Dict

section Auth

variable (rt : Runtime) (jwt : Jwt) (settings : WebSettings)

/-- `HTTPException` with the status 401 -/
def unauthorized (detail : String) : Failure :=
  .http 401 (.str detail) [("WWW-Authenticate", "Bearer")]

/-- `HTTPException` with the status 403 -/
def forbidden (detail : String) : Failure := .http 403 (.str detail) []

/-- The arguments of `jwt.decode` -/
def WebSettings.jwtOptions : JwtOptions where
  key := settings.authSecret
  algorithms := ["HS256"]
  issuer := settings.authIssuer
  audience := settings.authAudience
  require := ["exp", "sub", "role"]

/-- `claims.get("role") == "admin"` -/
def hasAdminRole (claims : Dict) : Bool :=
  match claims.get? "role" with
  | some (.str role) => role = "admin"
  | _ => false

/-- `username[:128]` -/
def firstChars (n : ℕ) (s : String) : String := String.ofList (s.toList.take n)

/-- `require_admin` -/
def requireAdmin : Option Credentials → Except Failure WebUser
  | none => .error (unauthorized "Admin login required")
  | some given =>
      if rt.lower given.scheme ≠ "bearer" then .error (unauthorized "Admin login required")
      else match jwt given.credentials settings.jwtOptions with
        | .error .pyJwt => .error (unauthorized "Invalid or expired session")
        | .error (.other exc) => .error (.unhandled exc)
        | .ok claims =>
            match claims.get? "sub" with
            | some (.str username) =>
                if username = "" ∨ !hasAdminRole claims then .error (forbidden "Admin role required")
                else .ok ⟨firstChars 128 username, true⟩
            | _ => .error (forbidden "Admin role required")

/-- A token of an administrator with the name `username`: its claims, as they are decoded -/
structure Admits (given : Credentials) (username : String) (claims : Dict) : Prop where
  bearer : rt.lower given.scheme = "bearer"
  decoded : jwt given.credentials settings.jwtOptions = .ok claims
  subject : claims.get? "sub" = some (.str username)
  named : username ≠ ""
  role : claims.get? "role" = some (.str "admin")

end Auth

section Admitted

variable {rt : Runtime} {jwt : Jwt} {settings : WebSettings} {credentials : Option Credentials}
  {user : WebUser}

theorem hasAdminRole_iff {claims : Dict} :
    hasAdminRole claims = true ↔ claims.get? "role" = some (.str "admin") := by
  unfold hasAdminRole
  split
  · rename_i role hrole
    rw [hrole, decide_eq_true_eq]
    exact ⟨fun h => h ▸ rfl, fun h => Value.str.inj (Option.some.inj h)⟩
  · rename_i hother
    exact ⟨fun h => (Bool.false_ne_true h).elim, fun h => (hother _ h).elim⟩

/-- **The dependency lets in exactly the administrators**, under the first 128 characters of their
name. -/
theorem requireAdmin_eq_ok_iff : requireAdmin rt jwt settings credentials = .ok user ↔
    ∃ given username claims, credentials = some given ∧
      Admits rt jwt settings given username claims ∧ user = ⟨firstChars 128 username, true⟩ := by
  constructor
  · intro h
    unfold requireAdmin at h
    split at h
    · cases h
    · rename_i given
      split_ifs at h with hscheme
      split at h
      · cases h
      · cases h
      · rename_i claims hclaims
        split at h
        · rename_i username hsub
          split_ifs at h with hrole
          rw [not_or] at hrole
          have hadmin : hasAdminRole claims = true := by simpa using hrole.2
          exact ⟨given, username, claims, rfl, ⟨not_not.1 hscheme, hclaims, hsub, hrole.1,
            hasAdminRole_iff.1 hadmin⟩, (Except.ok.inj h).symm⟩
        · cases h
  · rintro ⟨given, username, claims, rfl, hadmits, rfl⟩
    have hrole := hasAdminRole_iff.2 hadmits.role
    rw [requireAdmin, if_neg (not_not.2 hadmits.bearer), hadmits.decoded]
    simp only [hadmits.subject]
    rw [if_neg (by simp [hadmits.named, hrole])]

/-- The name of a user is a valid `audit_user`. -/
theorem length_username_le (h : requireAdmin rt jwt settings credentials = .ok user) :
    user.username.length ≤ 128 := by
  obtain ⟨given, username, claims, -, -, rfl⟩ := requireAdmin_eq_ok_iff.1 h
  rw [firstChars, String.length_ofList, List.length_take]
  exact min_le_left _ _

end Admitted

end ApplianceAdmin.Web
