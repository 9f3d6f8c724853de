import KombitSamples.Sts.CustomSaml2SecurityTokenHandler
import KombitSamples.Sts.WsTrustSecurityTokenService
import KombitSamples.Sts.WsTrustServiceConfiguration

/-!
# KombitSamples.Sts.Issue

Issuing a token, from a request that the base class has let through to the
signed assertion: the base class calls `getScope`, fills in a token
descriptor, calls `getOutputClaimsIdentity` for its subject and hands the
descriptor to `createToken`.

* `issue_eq_ok_iff` — what an issued token is made from;
* `returns_issue_iff` — the requests that are issued a token.
-/

namespace KombitSamples.Sts

open Fallible Saml2SecurityTokenHandler

/-! ## The issuing sequence -/

/-- The instants at which issuing a token reads the clock. -/
structure IssueClock where
  tokenLifetime : DateTime
  authenticationInstant : DateTime
  createToken : DateTime

/-- `SecurityTokenService.Issue`, with the callbacks of this service. -/
def issue (constants : Constants) (im : IdentityModel) (clock : IssueClock)
    (principal : ClaimsPrincipal) (request : RequestSecurityToken) :
    Except Exception Saml2SecurityToken := do
  let configuration := wsTrustServiceConfiguration constants im
  let (scope, request) ← getScope constants request
  let lifetime ← im.service.getTokenLifetime configuration clock.tokenLifetime request.lifetime
  let proof ← im.service.getProofToken request
  let subject ← getOutputClaimsIdentity constants im clock.authenticationInstant principal request
  createToken constants im clock.createToken request {
    appliesToAddress := scope.appliesToAddress
    tokenIssuerName := configuration.tokenIssuerName
    lifetime := some lifetime
    signingCredentials := some scope.signingCredentials
    proof := proof
    subject := subject }

/-- The descriptor of an issued token. -/
def descriptorOf (constants : Constants) (im : IdentityModel) (clock : IssueClock)
    (principal : ClaimsPrincipal) (request : RequestSecurityToken) (appliesTo : EndpointReference)
    (lifetime : Lifetime) (proof : Option String) (thumbprint bppValue : String) :
    SecurityTokenDescriptor where
  appliesToAddress := appliesTo.uri.absoluteUri
  tokenIssuerName := constants.baseAddress
  lifetime := some lifetime
  signingCredentials := some constants.signingCredentials
  proof := proof
  subject := outputIdentity constants im clock.authenticationInstant principal thumbprint
    request.onBehalfOf bppValue

/-- It names the subject after the requestor. -/
@[simp] theorem nameIdentifiers_descriptorOf (constants : Constants) (im : IdentityModel)
    (clock : IssueClock) (principal : ClaimsPrincipal) (request : RequestSecurityToken)
    (appliesTo : EndpointReference) (lifetime : Lifetime) (proof : Option String)
    (thumbprint bppValue : String) :
    nameIdentifiers (descriptorOf constants im clock principal request appliesTo lifetime proof
      thumbprint bppValue) = claimsOfType ClaimTypes.nameIdentifier principal.claims :=
  claimsOfType_nameIdentifier_outputIdentity ..

/-- What an issued token is made from. -/
structure IssuedFrom (constants : Constants) (im : IdentityModel) (clock : IssueClock)
    (principal : ClaimsPrincipal) (request : RequestSecurityToken) (token : Saml2SecurityToken) where
  appliesTo : EndpointReference
  lifetime : Lifetime
  proof : Option String
  requestor : Claim
  bppValue : String
  appliesTo_eq : request.appliesTo = some appliesTo
  isNoConnection_eq : isNoConnection appliesTo = false
  lifetime_eq : im.service.getTokenLifetime (wsTrustServiceConfiguration constants im)
    clock.tokenLifetime request.lifetime = .ok lifetime
  proof_eq : im.service.getProofToken (withSecondaryParameters request) = .ok proof
  requestor_eq : firstClaim requestorCertificateClaimType principal.claims = some requestor
  requestor_ne : requestor.value ≠ constants.stsServiceCertificate.thumbprint
  claims_ne : request.claims.getD [] ≠ []
  readable : Readable request.onBehalfOf
  bppValue_eq : constants.bppValue = some bppValue
  createdFrom : CreatedFrom constants im clock.createToken (withSecondaryParameters request)
    (descriptorOf constants im clock principal request appliesTo lifetime proof requestor.value
      bppValue) token

section Issue

variable {constants : Constants} {im : IdentityModel} {clock : IssueClock}
  {principal : ClaimsPrincipal} {request : RequestSecurityToken} {token : Saml2SecurityToken}

/-- Issuing succeeds exactly when everything a token is made from can be
made. -/
theorem issue_eq_ok_iff :
    issue constants im clock principal request = .ok token ↔
      Nonempty (IssuedFrom constants im clock principal request token) := by
  simp only [issue, bind_eq_ok, Prod.exists, getScope_eq_ok_iff,
    getOutputClaimsIdentity_eq_ok_iff, createToken_eq_ok_iff]
  constructor
  · rintro ⟨-, -, ⟨appliesTo, happ, hconn, rfl, rfl⟩, lifetime, hlife, proof, hproof, subject,
      ⟨requestor, bppValue, hreq, hsts, hclaims, hread, hbpp, rfl⟩, ⟨created⟩⟩
    simp only [claims_withSecondaryParameters, onBehalfOf_withSecondaryParameters,
      lifetime_withSecondaryParameters] at hlife hclaims hread created
    exact ⟨⟨appliesTo, lifetime, proof, requestor, bppValue, happ, hconn, hlife, hproof, hreq,
      hsts, hclaims, hread, hbpp, created⟩⟩
  · intro h
    obtain ⟨i⟩ := h
    refine ⟨_, _, ⟨i.appliesTo, i.appliesTo_eq, i.isNoConnection_eq, rfl, rfl⟩, i.lifetime, ?_,
      i.proof, i.proof_eq, _, ⟨i.requestor, i.bppValue, i.requestor_eq, i.requestor_ne, ?_, ?_,
      i.bppValue_eq, rfl⟩, ⟨?_⟩⟩
    · rw [lifetime_withSecondaryParameters]
      exact i.lifetime_eq
    · rw [claims_withSecondaryParameters]
      exact i.claims_ne
    · rw [onBehalfOf_withSecondaryParameters]
      exact i.readable
    · rw [onBehalfOf_withSecondaryParameters]
      exact i.createdFrom

/-- The user attributes of an issued token are the claims that the request
and the requestor select. -/
theorem IssuedFrom.attributeValues_eq (i : IssuedFrom constants im clock principal request token)
    (hstates : im.saml2.StatesAttributes) {type : String} (htype : type ∈ userClaimTypes) :
    attributeValues type token.assertion.statements =
      (claimsOfType type (selectedClaims constants i.requestor.value request.onBehalfOf)).map
        (·.value) := by
  have hattribute : type ∉ notAttributes := by
    revert htype
    revert type
    decide
  rw [i.createdFrom.attributeValues_eq,
    hstates.attributeValues_eq _ _ i.createdFrom.statements_eq type hattribute, descriptorOf,
    claimsOfType_outputIdentity htype]

/-- The address of the relying party is the only audience. -/
theorem IssuedFrom.conditions_eq (i : IssuedFrom constants im clock principal request token)
    (hcopies : im.saml2.CopiesConditions im.newUri)
    (haddress : i.appliesTo.uri.absoluteUri ≠ "" ∧
      im.newUri i.appliesTo.uri.absoluteUri = .ok i.appliesTo.uri) :
    token.assertion.conditions =
      some ⟨i.lifetime.created, i.lifetime.expires, [[i.appliesTo.uri]]⟩ := by
  obtain ⟨audiences, hcopy, haudience⟩ := hcopies.eq_of_ok _ _ _ _ i.createdFrom.conditions_eq
  obtain ⟨audience, huri, rfl⟩ := haudience haddress.1
  obtain rfl : i.appliesTo.uri = audience := Except.ok.inj (haddress.2.symm.trans huri)
  rw [i.createdFrom.assertion_conditions_eq, hcopy]

/-- The assertion is signed with the certificate of the settings. -/
theorem IssuedFrom.signingCredentials_eq
    (i : IssuedFrom constants im clock principal request token)
    (hreturns : im.saml2.ReturnsOnIssuerName im.newUri) :
    token.assertion.signingCredentials = some constants.signingCredentials := by
  have hsigning := (hreturns.getSigningCredentials _).symm.trans i.createdFrom.signingCredentials_eq
  rw [i.createdFrom.assertion_signingCredentials_eq, ← Except.ok.inj hsigning]
  rfl

/-! ## Which requests are issued a token -/

/-- The address of a relying party is a URI: its text is not empty and reads
back as the same URI. -/
def AddressIsUri (im : IdentityModel) (request : RequestSecurityToken) : Prop :=
  ∀ appliesTo, request.appliesTo = some appliesTo →
    appliesTo.uri.absoluteUri ≠ "" ∧ im.newUri appliesTo.uri.absoluteUri = .ok appliesTo.uri

/-- What a request, its requestor and the configuration have to provide. -/
structure Issuable (constants : Constants) (im : IdentityModel) (clock : IssueClock)
    (principal : ClaimsPrincipal) (request : RequestSecurityToken) : Prop where
  appliesTo : ∃ appliesTo, request.appliesTo = some appliesTo ∧ isNoConnection appliesTo = false
  lifetime : Returns (im.service.getTokenLifetime (wsTrustServiceConfiguration constants im)
    clock.tokenLifetime request.lifetime)
  proof : Returns (im.service.getProofToken (withSecondaryParameters request))
  requestor : KnownRequestor constants principal
  claims : request.claims.getD [] ≠ []
  bppValue : constants.bppValue ≠ none
  issuerName : constants.baseAddress ≠ ""
  nameIdentifier : (claimsOfType ClaimTypes.nameIdentifier principal.claims).length ≤ 1 ∧
    ∀ claim ∈ claimsOfType ClaimTypes.nameIdentifier principal.claims, claim.value ≠ ""
  onBehalfOf : ∀ element, request.onBehalfOf = some element →
    claimsOfType ClaimTypes.nameIdentifier principal.claims ≠ [] ∧
    ∃ token, element.getSecurityToken = .ok token ∧ NamedIfSaml2 token

/-- The conditions of a descriptor with a computed lifetime can be made. -/
theorem returns_createConditions (hreturns : im.saml2.ReturnsOnIssuerName im.newUri)
    (hlifetime : im.service.ComputesLifetime) (haddress : AddressIsUri im request)
    {appliesTo : EndpointReference} (happ : request.appliesTo = some appliesTo)
    {configuration : SecurityTokenServiceConfiguration} {now : DateTime}
    {requested : Option Lifetime} {lifetime : Lifetime}
    (hlife : im.service.getTokenLifetime configuration now requested = .ok lifetime)
    {d : SecurityTokenDescriptor} (hd : d.appliesToAddress = appliesTo.uri.absoluteUri) :
    Returns (im.saml2.createConditions (some lifetime) d.appliesToAddress d) := by
  have hlt := hlifetime.created_lt_expires _ _ _ ⟨lifetime, hlife⟩
  have huri : Returns (im.newUri d.appliesToAddress) := by
    rw [hd]
    exact ⟨_, (haddress appliesTo happ).2⟩
  rw [hlifetime.eq_of_ok _ _ _ _ hlife]
  exact hreturns.createConditions _ _ d hlt huri

/-- **Issuing.** A request is issued a token exactly when it is issuable.
The handlers that are registered for on-behalf-of tokens play no part. -/
theorem returns_issue_iff (hnames : im.saml2.NamesSubject)
    (hreturns : im.saml2.ReturnsOnIssuerName im.newUri) (hlifetime : im.service.ComputesLifetime)
    (haddress : AddressIsUri im request) :
    Returns (issue constants im clock principal request) ↔
      Issuable constants im clock principal request := by
  simp only [issue, returns_bind, Prod.exists, getScope_eq_ok_iff,
    getOutputClaimsIdentity_eq_ok_iff]
  constructor
  · rintro ⟨-, -, ⟨appliesTo, happ, hconn, rfl, rfl⟩, lifetime, hlife, proof, hproof, subject,
      ⟨requestor, bppValue, hreq, hsts, hclaims, -, hbpp, rfl⟩, hcreate⟩
    rw [lifetime_withSecondaryParameters] at hlife
    obtain ⟨hissuer, hids, hobo⟩ := (returns_createToken_iff hnames hreturns
      (returns_createConditions hreturns hlifetime haddress happ hlife rfl)
      (by simp [happ])).mp hcreate
    simp only [nameIdentifiers, claimsOfType_nameIdentifier_outputIdentity,
      onBehalfOf_withSecondaryParameters] at hids hobo
    rw [claims_withSecondaryParameters] at hclaims
    exact {
      appliesTo := ⟨appliesTo, happ, hconn⟩
      lifetime := ⟨lifetime, hlife⟩
      proof := ⟨proof, hproof⟩
      requestor := ⟨requestor, hreq, hsts⟩
      claims := hclaims
      bppValue := by simp [hbpp]
      issuerName := hissuer
      nameIdentifier := hids
      onBehalfOf := hobo }
  · intro h
    obtain ⟨appliesTo, happ, hconn⟩ := h.appliesTo
    obtain ⟨lifetime, hlife⟩ := h.lifetime
    obtain ⟨proof, hproof⟩ := h.proof
    obtain ⟨requestor, hreq, hsts⟩ := h.requestor
    obtain ⟨bppValue, hbpp⟩ := Option.ne_none_iff_exists'.mp h.bppValue
    refine ⟨_, _, ⟨appliesTo, happ, hconn, rfl, rfl⟩, lifetime, ?_, proof, hproof, _,
      ⟨requestor, bppValue, hreq, hsts, ?_, ?_, hbpp, rfl⟩, ?_⟩
    · rw [lifetime_withSecondaryParameters]
      exact hlife
    · rw [claims_withSecondaryParameters]
      exact h.claims
    · rw [onBehalfOf_withSecondaryParameters]
      intro element he
      obtain ⟨-, token, htoken, -⟩ := h.onBehalfOf element he
      exact ⟨token, htoken⟩
    · refine (returns_createToken_iff hnames hreturns
        (returns_createConditions hreturns hlifetime haddress happ hlife rfl)
        (by simp [happ])).mpr ?_
      simp only [nameIdentifiers, claimsOfType_nameIdentifier_outputIdentity,
        onBehalfOf_withSecondaryParameters]
      exact ⟨h.issuerName, h.nameIdentifier, h.onBehalfOf⟩

end Issue

end KombitSamples.Sts
