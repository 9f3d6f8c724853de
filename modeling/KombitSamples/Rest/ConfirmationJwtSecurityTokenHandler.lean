import KombitSamples.Base64Url
import KombitSamples.Platform

/-!
# KombitSamples.Rest.ConfirmationJwtSecurityTokenHandler

Validation of a bearer token that may be confirmed by a client certificate.

The libraries that validate JSON web tokens and read JSON are not part of
the repository; they are the parameter `Libraries`.
-/

namespace KombitSamples.Rest

open Fallible

/-! ## Requests -/

structure AuthenticationHeaderValue where
  scheme : String
  parameter : Option String
deriving DecidableEq, Repr

/-- What the code reads of an HTTP request. -/
structure HttpRequestMessage where
  absolutePath : String
  authorization : Option AuthenticationHeaderValue := none
  clientCertificate : Option X509Certificate2 := none
deriving DecidableEq, Repr

/-- The token of a request: the parameter of its `Authorization` header. -/
def HttpRequestMessage.token (request : HttpRequestMessage) : Option String :=
  request.authorization.bind (·.parameter)

/-! ## Libraries -/

structure TokenValidationParameters where
  validIssuer : Option String
  validateAudience : Bool
  issuerSigningKey : X509Certificate2
deriving DecidableEq, Repr

structure Libraries where
  /-- `JwtSecurityTokenHandler.ValidateToken`. -/
  validateToken : TokenValidationParameters → DateTime → Option String →
    Except Exception (Option ClaimsPrincipal)
  /-- `JObject.Parse(json).SelectToken(path)`, as text. -/
  selectToken : String → String → Except Exception (Option String)

/-- The claims of an accepted token are read from the token. -/
def Libraries.ReadsClaims (lib : Libraries) : Prop :=
  ∀ parameters parameters' now now' token principal principal',
    lib.validateToken parameters now token = .ok (some principal) →
    lib.validateToken parameters' now' token = .ok (some principal') →
    principal.claims = principal'.claims

/-! ## ValidateToken -/

def confirmationClaimType : String := "cnf"

def x5tS256 : String := "x5t#S256"

/-- The check of the confirmation claim, when there is one. -/
def validateConfirmation (lib : Libraries) (request : HttpRequestMessage) :
    Option Claim → Except Exception Unit
  | none => .ok ()
  | some confirmationClaim => do
      let clientCertificate ←
        deref (.argument "Client certificate is null") request.clientCertificate
      let selected ← lib.selectToken confirmationClaim.value x5tS256
      let x5tS256Value ← deref .nullReference selected
      let hashedThumbprint := Base64Url.encode clientCertificate.certHashSha256
      ensure (.securityTokenValidation "Failed to validate the confirmatin claim.")
        (hashedThumbprint == x5tS256Value)

/-- `ValidateToken`. -/
def validateToken (lib : Libraries) (now : DateTime) (request : Option HttpRequestMessage)
    (validationParameters : TokenValidationParameters) : Except Exception ClaimsPrincipal := do
  let request ← deref (.argumentNull "request") request
  let authorization ← deref (.argument "Authorization header is null") request.authorization
  let validated ← lib.validateToken validationParameters now authorization.parameter
  let claimsPrincipal ← deref .nullReference validated
  validateConfirmation lib request (firstClaim confirmationClaimType claimsPrincipal.claims)
  pure claimsPrincipal

/-- The request was sent with the certificate that the first confirmation
claim names, if there is one. -/
def Confirmed (lib : Libraries) (request : HttpRequestMessage) (claims : List Claim) : Prop :=
  ∀ cnf, firstClaim confirmationClaimType claims = some cnf →
    ∃ certificate, request.clientCertificate = some certificate ∧
      lib.selectToken cnf.value x5tS256 = .ok (some (Base64Url.encode certificate.certHashSha256))

theorem validateConfirmation_eq_ok_iff {lib : Libraries} {request : HttpRequestMessage}
    {claims : List Claim} {u : Unit} :
    validateConfirmation lib request (firstClaim confirmationClaimType claims) = .ok u ↔
      Confirmed lib request claims := by
  unfold Confirmed
  cases firstClaim confirmationClaimType claims with
  | none => simp [validateConfirmation]
  | some cnf =>
      simp only [validateConfirmation, bind_eq_ok, deref_eq_ok, ensure_eq_ok, beq_iff_eq,
        Option.some.injEq, forall_eq']
      constructor
      · intro h
        obtain ⟨certificate, hcert, selected, hselect, value, hvalue, hhash⟩ := h
        refine ⟨certificate, hcert, ?_⟩
        rw [hselect, hvalue, hhash]
      · intro h
        obtain ⟨certificate, hcert, hselect⟩ := h
        exact ⟨certificate, hcert, _, hselect, _, rfl, rfl⟩

/-- A token is accepted exactly when the library accepts it and its
confirmation claim is met. -/
theorem validateToken_eq_ok_iff {lib : Libraries} {now : DateTime} {request : HttpRequestMessage}
    {validationParameters : TokenValidationParameters} {principal : ClaimsPrincipal} :
    validateToken lib now (some request) validationParameters = .ok principal ↔
      ∃ authorization, request.authorization = some authorization ∧
        lib.validateToken validationParameters now authorization.parameter =
          .ok (some principal) ∧
        Confirmed lib request principal.claims := by
  simp only [validateToken, deref_some, ok_bind, bind_eq_ok, deref_eq_ok, pure_eq_ok,
    validateConfirmation_eq_ok_iff]
  constructor
  · intro h
    obtain ⟨authorization, hauth, validated, hlib, principal', rfl, _, hconfirmed, rfl⟩ := h
    exact ⟨authorization, hauth, hlib, hconfirmed⟩
  · intro h
    obtain ⟨authorization, hauth, hlib, hconfirmed⟩ := h
    exact ⟨authorization, hauth, _, hlib, principal, rfl, (), hconfirmed, rfl⟩

/-- **Confirmation is exclusive.** Two requests that meet one confirmation
claim were sent with certificates of the same hash. -/
theorem certHashSha256_of_confirmed {lib : Libraries} {request request' : HttpRequestMessage}
    {claims : List Claim} {cnf : Claim} (hcnf : firstClaim confirmationClaimType claims = some cnf)
    (h : Confirmed lib request claims) (h' : Confirmed lib request' claims) :
    ∃ certificate certificate', request.clientCertificate = some certificate ∧
      request'.clientCertificate = some certificate' ∧
      certificate.certHashSha256 = certificate'.certHashSha256 := by
  obtain ⟨certificate, hcert, hselect⟩ := h cnf hcnf
  obtain ⟨certificate', hcert', hselect'⟩ := h' cnf hcnf
  have hencode : Base64Url.encode certificate.certHashSha256 =
      Base64Url.encode certificate'.certHashSha256 :=
    Option.some.inj (Except.ok.inj (hselect.symm.trans hselect'))
  exact ⟨certificate, certificate', hcert, hcert', Base64Url.encode_injective hencode⟩

end KombitSamples.Rest
