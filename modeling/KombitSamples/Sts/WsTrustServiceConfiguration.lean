import KombitSamples.Sts.Constants

/-!
# KombitSamples.Sts.WsTrustServiceConfiguration

The configuration of the token service, with the handlers it registers for
the tokens that requests are made on behalf of.
-/

namespace KombitSamples.Sts

open Fallible Saml2SecurityTokenHandler

/-! ## The on-behalf-of handler -/

namespace CustomNormalOnBehalfOfSaml2TokenHandler

/-- `ValidateConfirmationData`: the base method, except that its complaint
about a recipient is ignored. -/
def validateConfirmationData (configuration : SecurityTokenHandlerConfiguration) (now : DateTime)
    (confirmationData : Saml2SubjectConfirmationData) : Except Exception Unit :=
  match Saml2SecurityTokenHandler.validateConfirmationData configuration now confirmationData with
  | .ok () => .ok ()
  | .error ex =>
      if !Text.contains ex.message "ID4157" || confirmationData.recipient.isNone then .error ex
      else .ok ()

/-- `ValidateToken`, which the handler inherits. -/
def validateToken (im : IdentityModel) (configuration : SecurityTokenHandlerConfiguration)
    (now : DateTime) (token : Saml2SecurityToken) : Except Exception ClaimsIdentity :=
  im.saml2.validateToken (validateConfirmationData configuration now) configuration now token

end CustomNormalOnBehalfOfSaml2TokenHandler

/-! ## The configuration -/

/-- `SetupDelegationSecurityTokenHandler`: the default handlers, with the
audience unrestricted and the SAML 2.0 handler replaced. -/
def setupDelegationSecurityTokenHandler (im : IdentityModel) : SecurityTokenHandlerCollection :=
  { im.defaultHandlers with
    configuration := { im.defaultHandlers.configuration with audienceMode := .never }
    saml2 := CustomNormalOnBehalfOfSaml2TokenHandler.validateToken im }

/-- `SetupConfiguration`. -/
def wsTrustServiceConfiguration (constants : Constants) (im : IdentityModel) :
    SecurityTokenServiceConfiguration where
  tokenIssuerName := constants.baseAddress
  defaultTokenLifetime := TimeSpan.fromMinutes 10
  maximumTokenLifetime := TimeSpan.fromMinutes 20
  maxClockSkew := TimeSpan.fromSeconds 100
  signingCredentials := constants.signingCredentials
  onBehalfOf := setupDelegationSecurityTokenHandler im

/-! ## What the registered handlers accept -/

/-- Only that complaint has `ID4157` in its message. -/
theorem contains_message_confirmationErrors :
    ∀ ex ∈ confirmationErrors,
      Text.contains ex.message "ID4157" = decide (ex = .securityTokenValidation "ID4157") := by
  decide

/-- The base method complains about the recipient before it looks at the
instants, so data with a recipient is accepted at any time. -/
theorem returns_validateConfirmationData_iff {configuration : SecurityTokenHandlerConfiguration}
    {now : DateTime} {data : Saml2SubjectConfirmationData} :
    Returns (CustomNormalOnBehalfOfSaml2TokenHandler.validateConfirmationData configuration now
        data) ↔
      data.address = none ∧ data.inResponseTo = none ∧
        (data.recipient = none → InWindow configuration now data) := by
  unfold CustomNormalOnBehalfOfSaml2TokenHandler.validateConfirmationData
  split
  · next h =>
      obtain ⟨h1, h2, -, h4⟩ := validateConfirmationData_eq_ok_iff.mp h
      exact ⟨fun _ => ⟨h1, h2, fun _ => h4⟩, fun _ => returns_ok _⟩
  · next ex h =>
      obtain ⟨hmem, hrecipient⟩ := validateConfirmationData_eq_error h
      rw [contains_message_confirmationErrors ex hmem]
      by_cases hex : ex = .securityTokenValidation "ID4157"
      · obtain ⟨h1, h2, h3⟩ := hrecipient.mp hex
        simp [hex, h1, h2, h3]
      · have hnot : ¬ (data.address = none ∧ data.inResponseTo = none ∧
            (data.recipient = none → InWindow configuration now data)) := by
          intro h'
          obtain ⟨h1, h2, h4⟩ := h'
          by_cases h3 : data.recipient = none
          · have hok := validateConfirmationData_eq_ok_iff (u := ()).mpr ⟨h1, h2, h3, h4 h3⟩
            rw [h] at hok
            cases hok
          · exact hex (hrecipient.mpr ⟨h1, h2, h3⟩)
        simp [hex, hnot]

/-- The handler treats the data as the base method treats the same data
without its recipient; in particular it rejects the data outside of its
window. -/
def IgnoresOnlyRecipient (configuration : SecurityTokenHandlerConfiguration) (now : DateTime)
    (data : Saml2SubjectConfirmationData) : Prop :=
  (Returns (CustomNormalOnBehalfOfSaml2TokenHandler.validateConfirmationData configuration now
      data) ↔
    Returns (Saml2SecurityTokenHandler.validateConfirmationData configuration now
      { data with recipient := none })) ∧
  (¬ InWindow configuration now data →
    ¬ Returns (CustomNormalOnBehalfOfSaml2TokenHandler.validateConfirmationData configuration now
      data))

/-- **The recipient hides the instants.** The handler ignores more than the
recipient exactly when there is a recipient, the two checks before it pass and
the instant is outside of the window: then the data is accepted. -/
theorem ignoresOnlyRecipient_iff (configuration : SecurityTokenHandlerConfiguration)
    (now : DateTime) (data : Saml2SubjectConfirmationData) :
    IgnoresOnlyRecipient configuration now data ↔
      data.recipient = none ∨ data.address ≠ none ∨ data.inResponseTo ≠ none ∨
        InWindow configuration now data := by
  have hbase : Returns (Saml2SecurityTokenHandler.validateConfirmationData configuration now
      { data with recipient := none }) ↔
      data.address = none ∧ data.inResponseTo = none ∧ InWindow configuration now data := by
    simp only [Returns, validateConfirmationData_eq_ok_iff, exists_const, true_and]
    rfl
  unfold IgnoresOnlyRecipient
  rw [returns_validateConfirmationData_iff, hbase]
  by_cases hwindow : InWindow configuration now data
  · simp [hwindow]
  · by_cases haddress : data.address = none
    · by_cases hresponse : data.inResponseTo = none
      · simp [hwindow, haddress, hresponse]
      · simp [hwindow, hresponse]
    · simp [hwindow, haddress]

/-- Data of a bootstrap token that expired long ago is accepted for its
recipient, and rejected without it. -/
theorem accepts_expired_recipient :
    ¬ IgnoresOnlyRecipient { maxClockSkew := 0 } 1000
      { recipient := some ⟨"https://service.kombit.dk/"⟩, notOnOrAfter := some 0 } := by
  intro h
  have hbase := h.1.mp (by decide)
  revert hbase
  decide

/-- What the registered handlers ask of a token that a request is made on
behalf of. -/
def AcceptedOnBehalfOf (im : IdentityModel) (now : DateTime) (token : SecurityToken) : Prop :=
  let configuration := (setupDelegationSecurityTokenHandler im).configuration
  match token with
  | .saml2 token => OtherChecks im.saml2 configuration now token ∧
      ∀ data, token.confirmationData = some data →
        data.address = none ∧ data.inResponseTo = none ∧
          (data.recipient = none → InWindow configuration now data)
  | .x509 certificate => Returns (im.defaultHandlers.x509 configuration now certificate)
  | .other kind => Returns (im.defaultHandlers.other configuration now kind)

theorem returns_validateToken_onBehalfOf_iff {im : IdentityModel} {now : DateTime}
    {token : SecurityToken} :
    Returns ((setupDelegationSecurityTokenHandler im).validateToken now token) ↔
      AcceptedOnBehalfOf im now token := by
  cases token with
  | saml2 token =>
      change Returns (im.saml2.validateToken _ _ now token) ↔ _
      simp only [returns_validateToken_iff, returns_validateConfirmationData_iff,
        AcceptedOnBehalfOf]
  | x509 certificate => rfl
  | other kind => rfl

/-- An unsigned assertion is not accepted on behalf of anyone. -/
theorem not_acceptedOnBehalfOf_unsigned (im : IdentityModel) (now : DateTime)
    (assertion : Saml2Assertion) : ¬ AcceptedOnBehalfOf im now (.saml2 ⟨assertion, none⟩) := by
  intro h
  obtain ⟨⟨issuerToken, subject, issuer, htoken, -⟩, -⟩ := h
  cases htoken

end KombitSamples.Sts
