import KombitSamples.Service.CustomSaml2SecurityTokenHandler
import KombitSamples.Sts.Issue
import KombitSamples.Sts.OutputClaims

/-!
# KombitSamples.Service.ServiceServiceHostFactory

The configuration of the sample service, and what it takes for a token of
the STS to be accepted there.

`accepts_issued_iff` composes the two programs: the address of the relying
party goes from `getScope` through `createToken` into the audience of the
assertion, which the service compares with its own address.
-/

namespace KombitSamples.Service

open Fallible Saml2SecurityTokenHandler

/-! ## CreateServiceHost -/

/-- `ConfigurationBasedIssuerNameRegistry.AddTrustedIssuer`. -/
def addTrustedIssuer (thumbprint name : String) (trustedIssuers : List (String × String)) :
    Except Exception (List (String × String)) := do
  ensure (.argumentNull "certificateThumbprint") (!thumbprint.isEmpty)
  ensure (.argumentNull "name") (!name.isEmpty)
  pure ((thumbprint, name) :: trustedIssuers)

/-- The service address and its variant with a slash are added to the
allowed audiences, unless the former is there already. -/
def allowServiceAddress (constants : Constants) (im : IdentityModel)
    (allowedAudienceUris : List Uri) : Except Exception (List Uri) := do
  let audience := Text.trimEnd constants.serviceAddress '/'
  let uri ← im.newUri audience
  if allowedAudienceUris.any (·.equals uri) then pure allowedAudienceUris
  else do
    let withSlash ← im.newUri (audience ++ "/")
    pure (allowedAudienceUris ++ [uri, withSlash])

/-- The identity configuration that `CreateServiceHost` sets up, from the
one in the configuration file. -/
def createServiceHost (constants : Constants) (im : IdentityModel)
    (idConfig : SecurityTokenHandlerConfiguration) :
    Except Exception SecurityTokenHandlerConfiguration := do
  let allowedAudienceUris ← allowServiceAddress constants im idConfig.allowedAudienceUris
  let nameRegistry ← addTrustedIssuer constants.stsSigningCertificate.thumbprint
    constants.stsSigningCertificate.subjectName []
  pure { idConfig with
    allowedAudienceUris := allowedAudienceUris
    trustedIssuers := nameRegistry }

/-- `ReadToken`: the assertion with the token it was signed with. -/
def readToken (im : IdentityModel) (assertion : Saml2Assertion) : Saml2SecurityToken where
  assertion := assertion
  issuerToken := im.resolveIssuerToken assertion

/-! ## The audience of an issued token -/

/-- A configuration file without settings for the audience. -/
structure NoAudienceSettings (idConfig : SecurityTokenHandlerConfiguration) : Prop where
  allowedAudienceUris_eq : idConfig.allowedAudienceUris = []
  audienceMode_eq : idConfig.audienceMode = .always

/-- The service address without trailing slashes, or that plus one slash. -/
def IsServiceAddress (constants : Constants) (im : IdentityModel) (address : Uri) : Prop :=
  im.newUri (Text.trimEnd constants.serviceAddress '/') = .ok address ∨
    im.newUri (Text.trimEnd constants.serviceAddress '/' ++ "/") = .ok address

/-- A service without further settings allows exactly its own address, and
trusts exactly the STS. -/
theorem of_createServiceHost {constants : Constants} {im : IdentityModel}
    {idConfig configuration : SecurityTokenHandlerConfiguration} (hnone : NoAudienceSettings idConfig)
    (h : createServiceHost constants im idConfig = .ok configuration) :
    (∀ address, address ∈ configuration.allowedAudienceUris ↔ IsServiceAddress constants im address) ∧
    configuration.trustedIssuers = [(constants.stsSigningCertificate.thumbprint,
      constants.stsSigningCertificate.subjectName)] ∧
    configuration.audienceMode = .always := by
  simp only [createServiceHost, allowServiceAddress, hnone.allowedAudienceUris_eq, addTrustedIssuer,
    List.any_nil, Bool.false_eq_true, if_false, bind_eq_ok, ensure_eq_ok, pure_eq_ok,
    List.nil_append] at h
  obtain ⟨_, ⟨uri, huri, withSlash, hslash, rfl⟩, _, ⟨-, -, -, -, rfl⟩, rfl⟩ := h
  refine ⟨fun address => ?_, rfl, hnone.audienceMode_eq⟩
  simp only [IsServiceAddress, huri, hslash, Except.ok.injEq, List.mem_cons, List.not_mem_nil,
    or_false, eq_comm (a := address)]

/-- An assertion with the signature of a token of the STS is read together with the
certificate it was signed with. -/
theorem issuerToken_readToken {stsConstants : Sts.Constants} {im : IdentityModel}
    (hreturns : im.saml2.ReturnsOnIssuerName im.newUri) (hresolves : im.ResolvesSigner)
    {clock : Sts.IssueClock} {principal : ClaimsPrincipal} {request : RequestSecurityToken}
    {token : Saml2SecurityToken}
    (i : Sts.IssuedFrom stsConstants im clock principal request token)
    {assertion : Saml2Assertion}
    (hsigned : assertion.signingCredentials = token.assertion.signingCredentials) :
    (readToken im assertion).issuerToken = some (.x509 stsConstants.signingCertificate) := by
  have hresolved := hresolves _ _ (hsigned.trans (i.signingCredentials_eq hreturns))
  rw [stsConstants.certificate_signingCredentials] at hresolved
  exact hresolved

/-- In their window, the conditions of an issued token are met exactly when
its relying party is the service. -/
theorem returns_validateConditions_issued_iff {stsConstants : Sts.Constants}
    {constants : Constants} {im : IdentityModel} (hcopies : im.saml2.CopiesConditions im.newUri)
    (hchecks : im.saml2.ChecksByConfiguration) {clock : Sts.IssueClock}
    {principal : ClaimsPrincipal} {request : RequestSecurityToken}
    (haddress : Sts.AddressIsUri im request) {token : Saml2SecurityToken}
    (i : Sts.IssuedFrom stsConstants im clock principal request token)
    {configuration : SecurityTokenHandlerConfiguration}
    (hallowed : ∀ address,
      address ∈ configuration.allowedAudienceUris ↔ IsServiceAddress constants im address)
    (hmode : configuration.audienceMode = .always) {now : DateTime}
    (hnow : ∀ conditions, token.assertion.conditions = some conditions →
      InConditionsWindow 0 now conditions) :
    Returns (im.saml2.validateConditions configuration now token.assertion.conditions) ↔
      ∃ address, IsServiceAddress constants im address ∧
        address.equals i.appliesTo.uri.leftPart = true := by
  have hconditions := i.conditions_eq hcopies (haddress _ i.appliesTo_eq)
  have hwindow := (hnow _ hconditions).mono configuration.maxClockSkew
  rw [hconditions, hchecks.returns_validateConditions_iff _ _ _ hmode]
  simp [hwindow, hallowed]

/-- **The audience.** Within the conditions of an issued token, the service
accepts it exactly when the request applied to the address of the service, up
to query and fragment. -/
theorem accepts_issued_iff {stsConstants : Sts.Constants} {constants : Constants}
    {im : IdentityModel} (hreturns : im.saml2.ReturnsOnIssuerName im.newUri)
    (hcopies : im.saml2.CopiesConditions im.newUri) (hchecks : im.saml2.ChecksByConfiguration)
    (hresolves : im.ResolvesSigner) {clock : Sts.IssueClock} {principal : ClaimsPrincipal}
    {request : RequestSecurityToken} (haddress : Sts.AddressIsUri im request)
    (hsigning : stsConstants.signingCertificate.thumbprint =
      constants.stsSigningCertificate.thumbprint)
    {token : Saml2SecurityToken}
    (hissue : Sts.issue stsConstants im clock principal request = .ok token)
    {idConfig configuration : SecurityTokenHandlerConfiguration} (hnone : NoAudienceSettings idConfig)
    (hhost : createServiceHost constants im idConfig = .ok configuration) {now : DateTime}
    (hnow : ∀ conditions, token.assertion.conditions = some conditions →
      InConditionsWindow 0 now conditions) :
    Returns (validateToken constants im configuration now (.saml2 (readToken im token.assertion))) ↔
      ∃ appliesTo address, request.appliesTo = some appliesTo ∧
        IsServiceAddress constants im address ∧ address.equals appliesTo.uri.leftPart = true := by
  obtain ⟨hallowed, htrusted, hmode⟩ := of_createServiceHost hnone hhost
  obtain ⟨i⟩ := Sts.issue_eq_ok_iff.mp hissue
  have hsigner := issuerToken_readToken hreturns hresolves i rfl
  have hvalid := returns_validateConditions_issued_iff hcopies hchecks haddress i hallowed hmode hnow
  rw [returns_validateToken_iff_checks]
  constructor
  · intro h
    obtain ⟨_, ⟨⟩, -, _, _, _, _, hchecked, -⟩ := h
    obtain ⟨address, hservice, hequals⟩ := hvalid.mp hchecked
    exact ⟨i.appliesTo, address, i.appliesTo_eq, hservice, hequals⟩
  · intro h
    obtain ⟨appliesTo, address, happ, hservice, hequals⟩ := h
    obtain rfl : i.appliesTo = appliesTo := Option.some.inj (i.appliesTo_eq.symm.trans happ)
    have hchecked := hvalid.mpr ⟨address, hservice, hequals⟩
    obtain ⟨subject, hsubject, hconfirmations⟩ := i.createdFrom.exists_subject
    have htrust : Returns (im.saml2.validateIssuer configuration now
        (.x509 stsConstants.signingCertificate) token.assertion.issuer) := by
      rw [hchecks.returns_validateIssuer_iff, htrusted, hsigning]
      simp
    obtain ⟨issuer, hissuer⟩ := htrust
    have hclaims := hchecks.returns_createClaims issuer subject.nameId token.assertion.statements
    exact ⟨_, rfl, ⟨_, hsigner, hsigning⟩, _, subject, issuer, hsigner, hchecked, hsubject,
      hconfirmations, hissuer, hclaims⟩

/-- A request for the sample service, with a query. -/
def serviceRequest : RequestSecurityToken :=
  { Sts.sampleRequest with appliesTo := some ⟨⟨sampleConstants.serviceAddress ++ "?wsdl"⟩⟩ }

/-- Its token is accepted there. -/
theorem accepts_issued_sample :
    ∃ token configuration,
      Sts.issue Sts.sampleConstants Documented.identityModel ⟨0, 0, 0⟩ Sts.sampleClient
        serviceRequest = .ok token ∧
      createServiceHost sampleConstants Documented.identityModel {} = .ok configuration ∧
      Returns (validateToken sampleConstants Documented.identityModel configuration 0
        (.saml2 (readToken Documented.identityModel token.assertion))) := by
  have haddress : Sts.AddressIsUri Documented.identityModel serviceRequest := by
    intro appliesTo h
    cases h
    exact ⟨by decide, by decide⟩
  obtain ⟨token, hissue⟩ : Returns (Sts.issue Sts.sampleConstants Documented.identityModel
      ⟨0, 0, 0⟩ Sts.sampleClient serviceRequest) := by decide
  obtain ⟨configuration, hhost⟩ :
      Returns (createServiceHost sampleConstants Documented.identityModel {}) := by decide
  refine ⟨token, configuration, hissue, hhost, (accepts_issued_iff Documented.returnsOnIssuerName
    Documented.copiesConditions Documented.checksByConfiguration Documented.resolvesSigner haddress
    rfl hissue ⟨rfl, rfl⟩ hhost ?_).mpr ⟨_, ⟨sampleConstants.serviceAddress⟩, rfl, Or.inl ?_, ?_⟩⟩
  · intro conditions hconditions
    obtain ⟨i⟩ := Sts.issue_eq_ok_iff.mp hissue
    have hlifetime := Documented.computesLifetime.eq_of_ok _ _ _ _ i.lifetime_eq
    rw [i.conditions_eq Documented.copiesConditions (haddress _ i.appliesTo_eq),
      hlifetime] at hconditions
    cases hconditions
    exact ⟨fun t ht => by cases ht; decide, fun t ht => by cases ht; decide⟩
  · decide
  · decide

end KombitSamples.Service
