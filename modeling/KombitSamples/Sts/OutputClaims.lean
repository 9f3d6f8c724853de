import KombitSamples.Documented
import KombitSamples.Sts.WsTrustSecurityTokenService

/-!
# KombitSamples.Sts.OutputClaims

Which requestors the token service lets through and which claims it issues
them, read off the success conditions of its two callbacks:

* `authorize_sound` — only the client and the on-behalf-of user get an
  identity, and it holds one claim of each of eight types;
* `namedOnce_iff` — exactly when one name identifier leaves the validation;
* `requiresCvrClaim_iff` — exactly when a request needs a CVR claim.
-/

namespace KombitSamples.Sts

open Fallible

/-! ## Who is issued a token, and with which claims -/

/-- The claim types of an issued identity. -/
def outputClaimTypes : List String :=
  [ClaimTypes.nameIdentifier, ClaimTypes.authenticationInstant, ClaimTypes.authenticationMethod,
    assuranceLevel, specVer, kombitSpecVer, cvrNumberIdentifier, privilegesIntermediate]

/-- The base handler makes no requestor claim of its own, and at most one
name identifier. -/
structure PlainClaims (baseClaims : List Claim) : Prop where
  no_requestor : claimsOfType requestorCertificateClaimType baseClaims = []
  nameIdentifier_le_one : (claimsOfType ClaimTypes.nameIdentifier baseClaims).length ≤ 1

/-- The requestor of a validated certificate is that certificate. -/
theorem requestor_of_clientIdentity {constants : Constants} {cert : X509Certificate2}
    {baseClaims : List Claim} (hbase : claimsOfType requestorCertificateClaimType baseClaims = [])
    {requestor : Claim}
    (hreq : firstClaim requestorCertificateClaimType
      (ClaimsPrincipal.claims ⟨[clientIdentity constants cert baseClaims]⟩) = some requestor) :
    requestor = requestorClaim cert := by
  rw [ClaimsPrincipal.claims_singleton,
    firstClaim_clientIdentity_requestor constants cert baseClaims hbase, Option.some.injEq] at hreq
  exact hreq.symm

/-- A validated certificate has one name identifier, the faked one. -/
theorem nameIdentifiers_of_clientIdentity {constants : Constants} {cert : X509Certificate2}
    {baseClaims : List Claim}
    (hbase : (claimsOfType ClaimTypes.nameIdentifier baseClaims).length ≤ 1) :
    claimsOfType ClaimTypes.nameIdentifier
        (ClaimsPrincipal.claims ⟨[clientIdentity constants cert baseClaims]⟩) =
      [nameIdentifierClaim constants cert] := by
  have htail : (claimsOfType ClaimTypes.nameIdentifier baseClaims).tail = [] := by
    rw [← List.length_eq_zero_iff, List.length_tail]
    omega
  rw [ClaimsPrincipal.claims_singleton, claimsOfType_clientIdentity_nameIdentifier, htail,
    List.nil_append]

/-- With distinct certificates a request of one of the two users leads to
the claims of exactly one level. -/
theorem exists_selectedClaims {constants : Constants} (hdistinct : constants.DistinctCertificates)
    {thumbprint : String} (onBehalfOf : Option SecurityTokenElement)
    (huser : thumbprint = constants.aValidClientCertificate.thumbprint ∨
      thumbprint = constants.aValidOnBehalfOfCertificate.thumbprint) :
    ∃ level, selectedClaims constants thumbprint onBehalfOf = userClaims level := by
  cases onBehalfOf with
  | some element => exact ⟨"4", rfl⟩
  | none =>
      rcases huser with rfl | rfl
      · refine ⟨"1", ?_⟩
        rw [selectedClaims, if_pos rfl, if_neg hdistinct.client_ne_onBehalfOf, List.append_nil]
        rfl
      · refine ⟨"4", ?_⟩
        rw [selectedClaims, if_neg hdistinct.client_ne_onBehalfOf.symm, if_pos rfl,
          List.nil_append]
        rfl

/-- A request from the validation of its certificate to the identity it is
issued a token for. -/
def authorize (constants : Constants) (im : IdentityModel) (utcNow : DateTime)
    (cert : X509Certificate2) (request : RequestSecurityToken) : Except Exception ClaimsIdentity := do
  let identities ← validateToken constants im (some (.x509 cert))
  let (_, clientRequest) ← getScope constants request
  getOutputClaimsIdentity constants im utcNow ⟨identities⟩ clientRequest

/-- The claims of an authorised request: the faked name of the certificate,
how and when it authenticated, the user claims of one level and the
privileges. -/
theorem claims_of_authorize {constants : Constants} {im : IdentityModel}
    (hdistinct : constants.DistinctCertificates) {cert : X509Certificate2}
    (hbase : ∀ validatedClaims, im.validateX509 cert = .ok validatedClaims →
      PlainClaims (validatedClaims.flatMap (·.claims)))
    {utcNow : DateTime} {request : RequestSecurityToken} {identity : ClaimsIdentity}
    (h : authorize constants im utcNow cert request = .ok identity) :
    (cert.thumbprint = constants.aValidClientCertificate.thumbprint ∨
      cert.thumbprint = constants.aValidOnBehalfOfCertificate.thumbprint) ∧
    ∃ level bppValue, identity.claims =
      [nameIdentifierClaim constants cert, authenticationInstantClaim im utcNow,
        authenticationMethodClaim] ++ userClaims level ++
        [{ type := privilegesIntermediate, value := bppValue }] := by
  simp only [authorize, bind_eq_ok, validateToken_eq_ok_iff] at h
  obtain ⟨identities, ⟨hvalid, validatedClaims, hclaims, rfl⟩, ⟨scope, clientRequest⟩, -, h⟩ := h
  obtain ⟨hno, hle⟩ := hbase validatedClaims hclaims
  obtain ⟨requestor, bppValue, hreq, hsts, -, -, -, rfl⟩ :=
    (getOutputClaimsIdentity_eq_ok_iff constants im utcNow _ clientRequest identity).mp h
  obtain rfl := requestor_of_clientIdentity hno hreq
  have huser := isUser_of_isValidThumbprint hvalid hsts
  obtain ⟨level, hlevel⟩ := exists_selectedClaims hdistinct clientRequest.onBehalfOf huser
  refine ⟨huser, level, bppValue, ?_⟩
  change claimsOfType _ _ ++ _ ++ selectedClaims constants cert.thumbprint _ ++ _ = _
  rw [nameIdentifiers_of_clientIdentity hle, hlevel]
  rfl

/-- **Issuing authorisation.** When a certificate validates and both
callbacks return, it is that of the client or of the on-behalf-of user, and
the identity holds eight claims, one of each type, among them the faked name
of the certificate. -/
theorem authorize_sound {constants : Constants} {im : IdentityModel}
    (hdistinct : constants.DistinctCertificates) {cert : X509Certificate2}
    (hbase : ∀ validatedClaims, im.validateX509 cert = .ok validatedClaims →
      PlainClaims (validatedClaims.flatMap (·.claims)))
    {utcNow : DateTime} {request : RequestSecurityToken} {identity : ClaimsIdentity}
    (h : authorize constants im utcNow cert request = .ok identity) :
    (cert.thumbprint = constants.aValidClientCertificate.thumbprint ∨
      cert.thumbprint = constants.aValidOnBehalfOfCertificate.thumbprint) ∧
    cert.thumbprint ≠ constants.stsServiceCertificate.thumbprint ∧
    identity.claims.length = 8 ∧
    (∀ type ∈ outputClaimTypes, (claimsOfType type identity.claims).length = 1) ∧
    (claimsOfType ClaimTypes.nameIdentifier identity.claims).map (·.value) =
      [constants.getSubjectNameId cert] := by
  obtain ⟨huser, level, bppValue, hclaims⟩ := claims_of_authorize hdistinct hbase h
  rw [hclaims]
  refine ⟨huser, ?_, rfl, ?_, rfl⟩
  · rcases huser with huser | huser
    · exact huser ▸ hdistinct.client_ne_sts
    · exact huser ▸ hdistinct.onBehalfOf_ne_sts
  · intro type htype
    simp only [outputClaimTypes, List.mem_cons, List.not_mem_nil, or_false] at htype
    rcases htype with rfl | rfl | rfl | rfl | rfl | rfl | rfl | rfl <;> rfl

/-- The shipped settings. -/
def sampleConstants : Constants := .shipped "bpp"

/-- The client, with a validated certificate. -/
def sampleClient : ClaimsPrincipal :=
  ⟨[clientIdentity sampleConstants sampleConstants.aValidClientCertificate []]⟩

/-- A request that asks for a CVR number. -/
def sampleRequest : RequestSecurityToken where
  appliesTo := some ⟨⟨"https://service.example/svc"⟩⟩
  claims := some [{ claimType := cvrNumberIdentifier }]

/-- A request on behalf of the owner of a token. -/
def requestOnBehalfOf (token : SecurityToken) : RequestSecurityToken :=
  { sampleRequest with onBehalfOf := some ⟨.ok token⟩ }

theorem plainClaims_documented {cert : X509Certificate2} {validatedClaims : List ClaimsIdentity}
    (h : Documented.identityModel.validateX509 cert = .ok validatedClaims) :
    PlainClaims (validatedClaims.flatMap (·.claims)) := by
  cases h
  exact ⟨rfl, Nat.zero_le 1⟩

theorem authorize_sound_sample :
    let cert := sampleConstants.aValidClientCertificate
    ∃ identity, authorize sampleConstants Documented.identityModel 0 cert sampleRequest =
        .ok identity ∧
      identity.claims.length = 8 ∧
      (claimsOfType ClaimTypes.nameIdentifier identity.claims).map (·.value) =
        [sampleConstants.getSubjectNameId cert] := by
  intro cert
  obtain ⟨identity, h⟩ :
      Returns (authorize sampleConstants Documented.identityModel 0 cert sampleRequest) := by decide
  obtain ⟨-, -, hlength, -, hname⟩ :=
    authorize_sound (Constants.distinctCertificates_shipped "bpp")
      (fun _ hclaims => plainClaims_documented hclaims) h
  exact ⟨identity, h, hlength, hname⟩

/-! ## One name identifier -/

/-- The claims of other types than the name identifier's, in order. -/
def otherClaims (claims : List Claim) : List Claim :=
  claims.filter fun c => !(c.type == ClaimTypes.nameIdentifier)

/-- The identity has one name identifier, the faked one, next to the other
claims of the base handler and the thumbprint, and hands it on to every identity
that a token is issued for. -/
structure NamedOnce (constants : Constants) (im : IdentityModel) (cert : X509Certificate2)
    (baseClaims : List Claim) (identity : ClaimsIdentity) : Prop where
  nameIdentifiers : (claimsOfType ClaimTypes.nameIdentifier identity.claims).map (·.value) =
    [constants.getSubjectNameId cert]
  others : otherClaims identity.claims = otherClaims baseClaims ++ [requestorClaim cert]
  issued : ∀ utcNow request issued,
    getOutputClaimsIdentity constants im utcNow ⟨[identity]⟩ request = .ok issued →
    (claimsOfType ClaimTypes.nameIdentifier issued.claims).map (·.value) =
      [constants.getSubjectNameId cert]

/-- Validation returns one identity, and that is named once. -/
def ValidatesNamedOnce (constants : Constants) (im : IdentityModel) (cert : X509Certificate2)
    (baseClaims : List Claim) : Prop :=
  ∃ identity, validateToken constants im (some (.x509 cert)) = .ok [identity] ∧
    NamedOnce constants im cert baseClaims identity

/-- Swapping a name identifier and adding the thumbprint leaves the other
claims. -/
theorem otherClaims_clientIdentity (constants : Constants) (cert : X509Certificate2)
    (baseClaims : List Claim) :
    otherClaims (clientIdentity constants cert baseClaims).claims =
      otherClaims baseClaims ++ [requestorClaim cert] := by
  have herase : otherClaims (baseClaims.eraseP (·.type == ClaimTypes.nameIdentifier)) =
      otherClaims baseClaims :=
    Removal.filter_eraseP_of_disjoint fun c _ hc => by rw [hc]; rfl
  have hadded : otherClaims [nameIdentifierClaim constants cert, requestorClaim cert] =
      [requestorClaim cert] := by
    have hne : (requestorCertificateClaimType == ClaimTypes.nameIdentifier) = false := by decide
    simp [otherClaims, nameIdentifierClaim, requestorClaim, hne]
  rw [claims_clientIdentity, List.append_assoc, otherClaims, List.filter_append, ← otherClaims,
    herase]
  exact congrArg (otherClaims baseClaims ++ ·) hadded

/-- The values of the name identifiers of a validated certificate. -/
theorem nameIdentifierValues_clientIdentity (constants : Constants) (cert : X509Certificate2)
    (baseClaims : List Claim) :
    (claimsOfType ClaimTypes.nameIdentifier (clientIdentity constants cert baseClaims).claims).map
        (·.value) =
      (claimsOfType ClaimTypes.nameIdentifier baseClaims).tail.map (·.value) ++
        [constants.getSubjectNameId cert] := by
  rw [claimsOfType_clientIdentity_nameIdentifier, List.map_append]
  rfl

/-- What validation returns for a certificate that is let through. -/
theorem validateToken_eq_ok {constants : Constants} {im : IdentityModel} {cert : X509Certificate2}
    {validatedClaims : List ClaimsIdentity}
    (hvalid : isValidThumbprint constants cert.thumbprint = true)
    (hbase : im.validateX509 cert = .ok validatedClaims) :
    validateToken constants im (some (.x509 cert)) =
      .ok [clientIdentity constants cert (validatedClaims.flatMap (·.claims))] :=
  (validateToken_eq_ok_iff _ _ _ _).mpr ⟨hvalid, validatedClaims, hbase, rfl⟩

/-- **One name identifier** leaves the validation of a certificate that is let
through exactly when the base handler returns at most one: the first is taken
out, and no other. -/
theorem namedOnce_iff {constants : Constants} {im : IdentityModel} {cert : X509Certificate2}
    {validatedClaims : List ClaimsIdentity}
    (hvalid : isValidThumbprint constants cert.thumbprint = true)
    (hbase : im.validateX509 cert = .ok validatedClaims) :
    ValidatesNamedOnce constants im cert (validatedClaims.flatMap (·.claims)) ↔
      (claimsOfType ClaimTypes.nameIdentifier (validatedClaims.flatMap (·.claims))).length ≤ 1 := by
  have hvalidate := validateToken_eq_ok hvalid hbase
  constructor
  · intro h'
    obtain ⟨identity, hidentity, hnamed, -, -⟩ := h'
    obtain rfl := (List.cons.inj (Except.ok.inj (hvalidate.symm.trans hidentity))).1
    rw [nameIdentifierValues_clientIdentity] at hnamed
    have hlength := congrArg List.length hnamed
    rw [List.length_append, List.length_map, List.length_tail, List.length_singleton] at hlength
    omega
  · intro hle
    have hone := @nameIdentifiers_of_clientIdentity constants cert _ hle
    refine ⟨_, hvalidate, ?_, otherClaims_clientIdentity _ _ _, ?_⟩
    · rw [← ClaimsPrincipal.claims_singleton, hone]
      rfl
    · intro utcNow request issued h
      obtain ⟨requestor, bppValue, -, -, -, -, -, rfl⟩ :=
        (getOutputClaimsIdentity_eq_ok_iff constants im utcNow _ request issued).mp h
      rw [claimsOfType_nameIdentifier_outputIdentity, hone]
      rfl

theorem namedOnce_documented :
    ∃ baseClaims, ValidatesNamedOnce sampleConstants Documented.identityModel
      sampleConstants.aValidClientCertificate baseClaims :=
  ⟨_, (namedOnce_iff (by decide) rfl).mpr (by decide)⟩

/-- Two identities of one certificate, each with its name identifier. -/
def twoNames : List ClaimsIdentity :=
  [{ claims := [{ type := ClaimTypes.nameIdentifier, value := "CN=client" }] },
    { claims := [{ type := ClaimTypes.nameIdentifier, value := "client" }] }]

/-- A base handler that returns them. -/
def namesTwice : IdentityModel :=
  { Documented.identityModel with validateX509 := fun _ => .ok twoNames }

/-- The second one is still there after the validation. -/
theorem namedOnce_namesTwice_fails :
    isValidThumbprint sampleConstants sampleConstants.aValidClientCertificate.thumbprint = true ∧
      ¬ ValidatesNamedOnce sampleConstants namesTwice sampleConstants.aValidClientCertificate
        (twoNames.flatMap (·.claims)) := by
  have hvalid : isValidThumbprint sampleConstants
      sampleConstants.aValidClientCertificate.thumbprint = true := by decide
  refine ⟨hvalid, ?_⟩
  intro h'
  obtain ⟨identity, hidentity, hnamed, -, -⟩ := h'
  have hbase : namesTwice.validateX509 sampleConstants.aValidClientCertificate = .ok twoNames := rfl
  obtain rfl := (List.cons.inj (Except.ok.inj
    ((validateToken_eq_ok hvalid hbase).symm.trans hidentity))).1
  rw [nameIdentifierValues_clientIdentity] at hnamed
  exact absurd hnamed (by decide)

/-! ## The CVR claim of a request -/

/-- The request asks for the CVR number of the user. -/
def HasCvrClaim (request : RequestSecurityToken) : Prop :=
  ∃ claim ∈ request.claims.getD [], claim.claimType = cvrNumberIdentifier

/-- What the fault `5015` announces: a request is answered only if it has a
CVR claim, and one without fails with that fault, unless the requestor was
refused before. -/
structure RequiresCvrClaim (constants : Constants) (im : IdentityModel) (utcNow : DateTime)
    (principal : ClaimsPrincipal) (request : RequestSecurityToken) : Prop where
  hasCvrClaim_of_ok : ∀ identity,
    getOutputClaimsIdentity constants im utcNow principal request = .ok identity →
    HasCvrClaim request
  fault_of_not : ¬ HasCvrClaim request → KnownRequestor constants principal →
    ∃ message,
      getOutputClaimsIdentity constants im utcNow principal request = .error (.fault message "5015")

section Faults

variable {constants : Constants} (im : IdentityModel) (utcNow : DateTime)
  {principal : ClaimsPrincipal} {request : RequestSecurityToken}

/-- A known requestor without any claim in the request gets the fault. -/
theorem getOutputClaimsIdentity_of_no_claims (hknown : KnownRequestor constants principal)
    (hclaims : request.claims.getD [] = []) :
    getOutputClaimsIdentity constants im utcNow principal request = .error expectedCvrClaim := by
  obtain ⟨requestor, hreq, hsts⟩ := hknown.checks_eq_ok
  simp only [getOutputClaimsIdentity, hreq, deref_some, ok_bind, hsts, hclaims, List.isEmpty_nil,
    Bool.not_true, ensure_false, error_bind]

/-- What follows the test for claims fails with other errors only. -/
theorem addUserClaims_ne_fault (thumbprint : String) (onBehalfOf : Option SecurityTokenElement)
    (identity : ClaimsIdentity) (message : String) :
    addUserClaims constants im thumbprint onBehalfOf identity ≠
      .error (.fault message "5015") := by
  cases onBehalfOf with
  | none => simp [addUserClaims, pure, Except.pure]
  | some element =>
      simp only [addUserClaims, readOnBehalfOf]
      cases element.getSecurityToken <;> simp [Exception.faultOf, pure, Except.pure]

/-- A request with claims of any type never gets the fault. -/
theorem getOutputClaimsIdentity_ne_fault (hknown : KnownRequestor constants principal)
    (hclaims : request.claims.getD [] ≠ []) (message : String) :
    getOutputClaimsIdentity constants im utcNow principal request ≠
      .error (.fault message "5015") := by
  obtain ⟨requestor, hreq, hsts⟩ := hknown.checks_eq_ok
  have hclaims' : (!(request.claims.getD []).isEmpty) = true := by simpa using hclaims
  intro h
  simp only [getOutputClaimsIdentity, hreq, deref_some, ok_bind, hsts, ensure_true, hclaims',
    bind_eq_error, addUserClaims_ne_fault, false_or] at h
  -- Only making the privilege claim can still fail, for lack of a value.
  obtain ⟨-, -, hbpp | ⟨-, -, ⟨⟩⟩⟩ := h
  rw [generateBppClaim] at hbpp
  cases hvalue : constants.bppValue with
  | none => simp [hvalue] at hbpp
  | some value => simp [hvalue, pure, Except.pure] at hbpp

end Faults

/-- **The CVR requirement** holds only where the requestor is refused
before, where the request has no claims at all, and where it has a CVR
claim: the flag `missingCvr` is computed from the claims of the principal
and never read. -/
theorem requiresCvrClaim_iff (constants : Constants) (im : IdentityModel) (utcNow : DateTime)
    (principal : ClaimsPrincipal) (request : RequestSecurityToken) :
    RequiresCvrClaim constants im utcNow principal request ↔
      ¬ KnownRequestor constants principal ∨ request.claims.getD [] = [] ∨ HasCvrClaim request := by
  constructor
  · intro h
    by_contra hnot
    simp only [not_or, not_not] at hnot
    obtain ⟨hknown, hclaims, hcvr⟩ := hnot
    obtain ⟨message, hfault⟩ := h.fault_of_not hcvr hknown
    exact getOutputClaimsIdentity_ne_fault im utcNow hknown hclaims message hfault
  · intro h
    refine ⟨fun identity hok => ?_, fun hcvr hknown => ?_⟩
    · obtain ⟨requestor, -, hreq, hsts, hclaims, -⟩ :=
        (getOutputClaimsIdentity_eq_ok_iff constants im utcNow principal request identity).mp hok
      rcases h with h | h | h
      · exact absurd ⟨requestor, hreq, hsts⟩ h
      · exact absurd h hclaims
      · exact h
    · have hclaims : request.claims.getD [] = [] := by
        rcases h with h | h | h
        · exact absurd hknown h
        · exact h
        · exact absurd h hcvr
      exact ⟨_, getOutputClaimsIdentity_of_no_claims im utcNow hknown hclaims⟩

/-- A request of the client for its specification version only. -/
def specVerRequest : RequestSecurityToken where
  appliesTo := some ⟨⟨"https://service.example/svc"⟩⟩
  claims := some [{ claimType := specVer }]

/-- It is answered. -/
theorem not_requiresCvrClaim_specVerRequest :
    ¬ RequiresCvrClaim sampleConstants Documented.identityModel 0 sampleClient specVerRequest := by
  intro h
  obtain ⟨claim, hmem, htype⟩ := h.hasCvrClaim_of_ok _ rfl
  obtain rfl : claim = { claimType := specVer } := by
    simpa [specVerRequest] using hmem
  exact absurd htype (by decide)

end KombitSamples.Sts
