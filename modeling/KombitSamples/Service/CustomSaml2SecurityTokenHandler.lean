import KombitSamples.Documented

/-!
# KombitSamples.Service.CustomSaml2SecurityTokenHandler

The handler by which the sample service validates a token: its own checks of
the issuer, then those of the base class with the check of the confirmation
data overridden.

`returns_validateToken_iff_checks` says when a token is accepted, and
`dropsOnlyRecipient_iff` when that is all that was meant to be dropped.
-/

namespace KombitSamples.Service

open Fallible Saml2SecurityTokenHandler

structure Constants where
  serviceAddress : String
  stsSigningCertificate : X509Certificate2
deriving DecidableEq, Repr

/-! ## ValidateToken -/

/-- The cast `token as Saml2SecurityToken`. -/
def asSaml2 : SecurityToken → Option Saml2SecurityToken
  | .saml2 token => some token
  | _ => none

theorem asSaml2_eq_some_iff {token : SecurityToken} {saml2Token : Saml2SecurityToken} :
    asSaml2 token = some saml2Token ↔ token = .saml2 saml2Token := by
  cases token <;> simp [asSaml2]

/-- The cast `token as X509SecurityToken`. -/
def asX509 : IssuerToken → Option X509Certificate2
  | .x509 certificate => some certificate
  | .other _ => none

theorem asX509_eq_some_iff {issuerToken : IssuerToken} {certificate : X509Certificate2} :
    asX509 issuerToken = some certificate ↔ issuerToken = .x509 certificate := by
  cases issuerToken <;> simp [asX509]

/-- The overridden `ValidateConfirmationData` returns at once. -/
def validateConfirmationData (_ : Saml2SubjectConfirmationData) : Except Exception Unit := .ok ()

/-- `ValidateToken`. -/
def validateToken (constants : Constants) (im : IdentityModel)
    (configuration : SecurityTokenHandlerConfiguration) (now : DateTime) (token : SecurityToken) :
    Except Exception ClaimsIdentity := do
  let saml2Token ← deref (.argument "Only saml2 security token is accepted!") (asSaml2 token)
  let issuer ← deref (.argument "Only X509SecurityToken is accepted as issuer token.")
    (saml2Token.issuerToken.bind asX509)
  ensure (.argument "Invalid issuer.")
    (issuer.thumbprint == constants.stsSigningCertificate.thumbprint)
  im.saml2.validateToken validateConfirmationData configuration now saml2Token

/-- The issuer checks of the handler itself. -/
def IssuedBySts (constants : Constants) (token : Saml2SecurityToken) : Prop :=
  ∃ certificate, token.issuerToken = some (.x509 certificate) ∧
    certificate.thumbprint = constants.stsSigningCertificate.thumbprint

/-- A token is accepted exactly when it is a SAML 2.0 token of the STS that
passes the checks of the base class other than that of its confirmation
data. -/
theorem returns_validateToken_iff_checks {constants : Constants} {im : IdentityModel}
    {configuration : SecurityTokenHandlerConfiguration} {now : DateTime} {token : SecurityToken} :
    Returns (validateToken constants im configuration now token) ↔
      ∃ saml2Token, token = .saml2 saml2Token ∧ IssuedBySts constants saml2Token ∧
        OtherChecks im.saml2 configuration now saml2Token := by
  -- The overridden check of the confirmation data always returns.
  simp only [validateToken, returns_bind, deref_eq_ok, ensure_eq_ok, asSaml2_eq_some_iff,
    Option.bind_eq_some_iff, asX509_eq_some_iff, exists_eq_right, beq_iff_eq, exists_const,
    returns_validateToken_iff, validateConfirmationData, returns_ok, implies_true, and_true,
    IssuedBySts]
  constructor
  · intro h
    obtain ⟨saml2Token, htoken, issuer, hissuer, hthumb, hchecks⟩ := h
    exact ⟨saml2Token, htoken, ⟨issuer, hissuer, hthumb⟩, hchecks⟩
  · intro h
    obtain ⟨saml2Token, htoken, ⟨issuer, hissuer, hthumb⟩, hchecks⟩ := h
    exact ⟨saml2Token, htoken, issuer, hissuer, hthumb, hchecks⟩

/-! ## What the override was meant to drop -/

/-- The token without the recipient of its first confirmation. -/
def clearRecipient (token : Saml2SecurityToken) : Saml2SecurityToken :=
  { token with assertion := { token.assertion with
      subject := token.assertion.subject.map fun subject => { subject with
        subjectConfirmations := match subject.subjectConfirmations with
          | [] => []
          | confirmation :: rest => { confirmation with
              subjectConfirmationData := confirmation.subjectConfirmationData.map
                fun data => { data with recipient := none } } :: rest } } }

/-- The handler accepts exactly the tokens of the STS that the base class
would accept without the recipient. -/
def DropsOnlyRecipient (constants : Constants) (im : IdentityModel)
    (configuration : SecurityTokenHandlerConfiguration) (now : DateTime) (token : SecurityToken) :
    Prop :=
  Returns (validateToken constants im configuration now token) ↔
    ∃ saml2Token, token = .saml2 saml2Token ∧ IssuedBySts constants saml2Token ∧
      Returns (im.saml2.validateToken
        (Saml2SecurityTokenHandler.validateConfirmationData configuration now) configuration now
        (clearRecipient saml2Token))

theorem confirmationData_clearRecipient (token : Saml2SecurityToken) :
    (clearRecipient token).confirmationData =
      token.confirmationData.map fun data => { data with recipient := none } := by
  obtain ⟨⟨issuer, subject, -, -, -, -⟩, -⟩ := token
  rcases subject with _ | ⟨nameId, _ | ⟨confirmation, rest⟩⟩ <;> rfl

/-- The recipient plays no part in the other checks. -/
theorem otherChecks_clearRecipient {base : Saml2SecurityTokenHandler}
    {configuration : SecurityTokenHandlerConfiguration} {now : DateTime}
    {token : Saml2SecurityToken} :
    OtherChecks base configuration now (clearRecipient token) ↔
      OtherChecks base configuration now token := by
  obtain ⟨⟨issuer, subject, signing, conditions, advice, statements⟩, issuerToken⟩ := token
  rcases subject with _ | ⟨nameId, _ | ⟨confirmation, rest⟩⟩ <;>
    simp [OtherChecks, clearRecipient]

/-- Data that the base class accepts once the recipient is cleared. -/
def AcceptableData (configuration : SecurityTokenHandlerConfiguration) (now : DateTime)
    (data : Saml2SubjectConfirmationData) : Prop :=
  data.address = none ∧ data.inResponseTo = none ∧ InWindow configuration now data

/-- The base class accepts a token without its recipient exactly when the
token passes the other checks, and its data the other four. -/
theorem returns_validateToken_clearRecipient_iff {base : Saml2SecurityTokenHandler}
    {configuration : SecurityTokenHandlerConfiguration} {now : DateTime}
    {token : Saml2SecurityToken} :
    Returns (base.validateToken
        (Saml2SecurityTokenHandler.validateConfirmationData configuration now) configuration now
        (clearRecipient token)) ↔
      OtherChecks base configuration now token ∧
        ∀ data, token.confirmationData = some data → AcceptableData configuration now data := by
  rw [returns_validateToken_iff, otherChecks_clearRecipient, confirmationData_clearRecipient]
  cases token.confirmationData with
  | none => simp
  | some data =>
      simp only [Option.map_some, Option.some.injEq, forall_eq', Returns,
        validateConfirmationData_eq_ok_iff, exists_const, AcceptableData, true_and]
      rfl

/-- **The override drops only the recipient check** exactly for the tokens
that are refused anyway, and for those without confirmation data or with data
that the other four checks let through. -/
theorem dropsOnlyRecipient_iff (constants : Constants) (im : IdentityModel)
    (configuration : SecurityTokenHandlerConfiguration) (now : DateTime) (token : SecurityToken) :
    DropsOnlyRecipient constants im configuration now token ↔
      ∀ saml2Token, token = .saml2 saml2Token → IssuedBySts constants saml2Token →
        OtherChecks im.saml2 configuration now saml2Token →
        ∀ data, saml2Token.confirmationData = some data → AcceptableData configuration now data := by
  simp only [DropsOnlyRecipient, returns_validateToken_iff_checks,
    returns_validateToken_clearRecipient_iff]
  constructor
  · intro h saml2Token htoken hissuer hchecks
    obtain ⟨saml2Token', htoken', -, -, hdata⟩ := h.mp ⟨saml2Token, htoken, hissuer, hchecks⟩
    obtain rfl : saml2Token = saml2Token' :=
      SecurityToken.saml2.inj (htoken.symm.trans htoken')
    exact hdata
  · intro h
    constructor
    · intro haccepted
      obtain ⟨saml2Token, htoken, hissuer, hchecks⟩ := haccepted
      have hdata := h saml2Token htoken hissuer hchecks
      exact ⟨saml2Token, htoken, hissuer, hchecks, hdata⟩
    · intro hbase
      obtain ⟨saml2Token, htoken, hissuer, hchecks, -⟩ := hbase
      exact ⟨saml2Token, htoken, hissuer, hchecks⟩

/-! ### An expired confirmation -/

def sampleConstants : Constants where
  serviceAddress := "https://service.projekt-stoettesystemerne.dk/kombit/service"
  stsSigningCertificate :=
    { thumbprint := "01699B6C50396AC060C8AE9BC3D4B343C9B57EB1", subjectName := "CN=STS" }

/-- A configuration that trusts the STS for any audience. -/
def anyAudience : SecurityTokenHandlerConfiguration where
  audienceMode := .never
  trustedIssuers := [(sampleConstants.stsSigningCertificate.thumbprint, "CN=STS")]

/-- A token of the STS whose confirmation ended at instant zero. -/
def expiredToken : Saml2SecurityToken where
  assertion := {
    issuer := ⟨"https://sts.example/", none, by decide⟩
    subject := some {
      subjectConfirmations := [{
        method := ConfirmationMethods.bearer
        subjectConfirmationData := some { notOnOrAfter := some 0 } }] } }
  issuerToken := some (.x509 sampleConstants.stsSigningCertificate)

/-- Ten minutes later it is still accepted. -/
theorem not_dropsOnlyRecipient_expired :
    ¬ DropsOnlyRecipient sampleConstants Documented.identityModel anyAudience
      (TimeSpan.fromMinutes 10) (.saml2 expiredToken) := by
  intro h
  have haccepted : Returns (validateToken sampleConstants Documented.identityModel anyAudience
      (TimeSpan.fromMinutes 10) (.saml2 expiredToken)) := by
    decide
  obtain ⟨_, ⟨⟩, -, hbase⟩ := h.mp haccepted
  exact absurd hbase (by decide)

end KombitSamples.Service
