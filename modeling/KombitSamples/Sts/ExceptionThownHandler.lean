import KombitSamples.Sts.Issue
import KombitSamples.Sts.OutputClaims

/-!
# KombitSamples.Sts.ExceptionThownHandler

The error handler of the token service, which puts the message of every
exception on the wire as the reason of a fault, and the fault codes that
leave the service while a token is issued.

* `issue_eq_issuingSequence` — the sequence is that of `issue`;
* `faultCodes_iff` — when the codes are the documented ones.
-/

namespace KombitSamples.Sts

open Fallible Saml2SecurityTokenHandler

/-! ## ProvideFault -/

/-- `System.ServiceModel.Channels.MessageVersion`, by name. -/
structure MessageVersion where
  name : String
deriving DecidableEq, Repr

structure MessageFault where
  reason : String
  code : String
deriving DecidableEq, Repr

/-- `System.ServiceModel.Channels.Message`; the fault of one that is not a
fault message is null. -/
structure Message where
  version : MessageVersion
  fault : Option MessageFault
  action : String
deriving DecidableEq, Repr

def faultAction : String := "http://docs.oasis-open.org/ws-sx/ws-trust/200512/RST/Fault"

/-- The code that `ProvideFault` picks for an exception. -/
def faultCodeOf : Exception → String
  | .fault _ code => code
  | _ => "5050"

/-- `ProvideFault`: it replaces the message `msg`, unless there is no error. -/
def provideFault (error : Option Exception) (version : MessageVersion) (msg : Option Message) :
    Option Message :=
  match error with
  | none => msg
  | some error => some {
      version := version
      fault := some ⟨error.message, faultCodeOf error⟩
      action := faultAction }

@[simp] theorem faultCodeOf_faultOf (message : String) :
    faultCodeOf (.faultOf message) = "Sender" := rfl

theorem faultCodeOf_of_isFault {ex : Exception} (h : ex.isFault = false) :
    faultCodeOf ex = "5050" := by
  cases ex with
  | fault message code => cases h
  | _ => rfl

/-! ## The issuing sequence -/

/-- The three calls that `SecurityTokenService.Issue` makes into this service,
in their order.  `describe` is the descriptor that the base class fills in
between them. -/
def issuingSequence (constants : Constants) (im : IdentityModel)
    (describe : Scope → RequestSecurityToken → ClaimsIdentity → SecurityTokenDescriptor)
    (utcNow now : DateTime) (principal : ClaimsPrincipal) (request : RequestSecurityToken) :
    Except Exception Saml2SecurityToken := do
  let (scope, request) ← getScope constants request
  let subject ← getOutputClaimsIdentity constants im utcNow principal request
  createToken constants im now request (describe scope request subject)

/-- The descriptor that is filled in with a lifetime and a proof token. -/
def describeWith (constants : Constants) (lifetime : Lifetime) (proof : Option String)
    (scope : Scope) (_ : RequestSecurityToken) (subject : ClaimsIdentity) :
    SecurityTokenDescriptor where
  appliesToAddress := scope.appliesToAddress
  tokenIssuerName := constants.baseAddress
  lifetime := some lifetime
  signingCredentials := some scope.signingCredentials
  proof := proof
  subject := subject

section Sequence

variable {constants : Constants} {im : IdentityModel} {principal : ClaimsPrincipal}
  {request : RequestSecurityToken}

/-- Once the base class has a lifetime and a proof token, issuing a token is
the sequence of the three calls. -/
theorem issue_eq_issuingSequence {clock : IssueClock} {lifetime : Lifetime}
    {proof : Option String}
    (hlifetime : im.service.getTokenLifetime (wsTrustServiceConfiguration constants im)
      clock.tokenLifetime request.lifetime = .ok lifetime)
    (hproof : im.service.getProofToken (withSecondaryParameters request) = .ok proof) :
    issue constants im clock principal request =
      issuingSequence constants im (describeWith constants lifetime proof)
        clock.authenticationInstant clock.createToken principal request := by
  unfold issue issuingSequence
  cases hscope : getScope constants request with
  | error ex => rfl
  | ok result =>
      obtain ⟨scope, clientRequest⟩ := result
      obtain ⟨appliesTo, -, -, -, rfl⟩ := (getScope_eq_ok_iff _ _ _ _).mp hscope
      simp only [ok_bind, lifetime_withSecondaryParameters, hlifetime, hproof]
      rfl

/-! ## How each of the calls fails -/

/-- `GetScope` fails with code 5002 for the address without a connection, and
with a null reference when there is no address. -/
theorem faultCodeOf_getScope {ex : Exception} (h : getScope constants request = .error ex) :
    faultCodeOf ex = if request.appliesTo.any isNoConnection then "5002" else "5050" := by
  cases happ : request.appliesTo with
  | none =>
      rw [getScope, happ] at h
      cases h
      rfl
  | some appliesTo =>
      simp only [getScope, checkIfErrorShouldBeThrown, happ, deref_some, ok_bind] at h
      cases hconn : isNoConnection appliesTo with
      | true =>
          rw [hconn] at h
          cases h
          simp [faultCodeOf, hconn]
      | false =>
          rw [hconn] at h
          cases h

/-- `GetOutputClaimsIdentity` does not look at the secondary parameters. -/
theorem getOutputClaimsIdentity_withSecondaryParameters (utcNow : DateTime) :
    getOutputClaimsIdentity constants im utcNow principal (withSecondaryParameters request) =
      getOutputClaimsIdentity constants im utcNow principal request := by
  simp only [getOutputClaimsIdentity, claims_withSecondaryParameters,
    onBehalfOf_withSecondaryParameters]

/-- The documented code of a request that is not issued a token. -/
def expectedCode (constants : Constants) (principal : ClaimsPrincipal)
    (request : RequestSecurityToken) : String :=
  if request.appliesTo.any isNoConnection then "5002"
  else match request.appliesTo, firstClaim requestorCertificateClaimType principal.claims with
    | some _, some requestor =>
        if requestor.value = constants.stsServiceCertificate.thumbprint then "5607"
        else if request.claims.getD [] = [] then "5015"
        else "5050"
    | _, _ => "5050"

/-- The request passes every check that comes before its on-behalf-of element
is read. -/
structure PassesChecks (constants : Constants) (principal : ClaimsPrincipal)
    (request : RequestSecurityToken) : Prop where
  appliesTo : ∃ appliesTo, request.appliesTo = some appliesTo ∧ isNoConnection appliesTo = false
  requestor : KnownRequestor constants principal
  claims : request.claims.getD [] ≠ []

/-- A request that passes the checks has no code but the general one. -/
theorem PassesChecks.expectedCode_eq (h : PassesChecks constants principal request) :
    expectedCode constants principal request = "5050" := by
  obtain ⟨appliesTo, happ, hconn⟩ := h.appliesTo
  obtain ⟨requestor, hreq, hsts⟩ := h.requestor
  simp [expectedCode, happ, hconn, hreq, hsts, h.claims]

/-- The branch on a readable element does not fail. -/
theorem failsOnly_addUserClaims {P : Exception → Prop} {onBehalfOf : Option SecurityTokenElement}
    (hread : Readable onBehalfOf) (thumbprint : String) (identity : ClaimsIdentity) :
    FailsOnly P (addUserClaims constants im thumbprint onBehalfOf identity) := by
  rw [(addUserClaims_eq_ok_iff constants im thumbprint onBehalfOf identity _).mpr ⟨hread, rfl⟩]
  exact failsOnly_ok _

/-- The checks of `GetOutputClaimsIdentity` have their documented codes, in
their order, and so does everything after them but reading the element. -/
theorem failsOnly_getOutputClaimsIdentity (utcNow : DateTime) {appliesTo : EndpointReference}
    (happ : request.appliesTo = some appliesTo) (hconn : isNoConnection appliesTo = false)
    (hread : PassesChecks constants principal request → Readable request.onBehalfOf) :
    FailsOnly (faultCodeOf · = expectedCode constants principal request)
      (getOutputClaimsIdentity constants im utcNow principal request) := by
  unfold getOutputClaimsIdentity
  cases hreq : firstClaim requestorCertificateClaimType principal.claims with
  | none => simp [expectedCode, happ, hconn, hreq, missingRequestorClaim, faultCodeOf]
  | some requestor =>
      simp only [deref_some, ok_bind, failsOnly_bind, failsOnly_ensure, ensure_eq_ok, bne_iff_ne]
      refine ⟨fun hsts => ?_, fun _ hsts => ⟨fun hclaims => ?_, fun _ hclaims => ?_⟩⟩
      · have hsts : requestor.value = constants.stsServiceCertificate.thumbprint := by
          simpa using hsts
        simp [expectedCode, happ, hconn, hreq, hsts, noMappedUser, faultCodeOf]
      · have hclaims : request.claims.getD [] = [] := by simpa using hclaims
        simp [expectedCode, happ, hconn, hreq, hsts, hclaims, expectedCvrClaim, faultCodeOf]
      · have hpasses : PassesChecks constants principal request :=
          ⟨⟨appliesTo, happ, hconn⟩, ⟨requestor, hreq, hsts⟩, by simpa using hclaims⟩
        rw [hpasses.expectedCode_eq]
        constructor
        · exact failsOnly_addUserClaims (hread hpasses) _ _
        · intro identity _
          simp only [generateBppClaim, failsOnly_bind, failsOnly_deref, failsOnly_pure,
            implies_true, and_true]
          intro _
          rfl

/-- `CreateToken` raises no fault when the element can be read. -/
theorem failsOnly_createToken (hfault : im.saml2.RaisesNoFault)
    (hread : Readable request.onBehalfOf) (now : DateTime) (d : SecurityTokenDescriptor) :
    FailsOnly (·.isFault = false) (createToken constants im now request d) := by
  have hsubject : FailsOnly (·.isFault = false) (createSamlSubject im d) := by
    simp only [createSamlSubject, failsOnly_bind, failsOnly_pure, implies_true, and_true]
    exact hfault.createSamlSubject d
  have hname (subject : Saml2Subject) (confirmation : Saml2SubjectConfirmation) :
      FailsOnly (·.isFault = false)
        (nameOnBehalfOf constants request.onBehalfOf subject confirmation) := by
    cases hobo : request.onBehalfOf with
    | none => simp
    | some element =>
        obtain ⟨token, htoken⟩ := hread element hobo
        simp only [nameOnBehalfOf, failsOnly_bind, failsOnly_deref, htoken, failsOnly_ok,
          failsOnly_pure, implies_true, and_true, true_and]
        refine ⟨fun _ => rfl, fun sender _ token' _ => ?_⟩
        cases token' with
        | saml2 token' =>
            simp only [subjectNameOf, failsOnly_bind, failsOnly_deref]
            exact ⟨fun _ => rfl, fun _ _ _ => rfl⟩
        | x509 certificate => simp [subjectNameOf]
        | other kind => simp [subjectNameOf]
  simp only [createToken, failsOnly_bind, failsOnly_pure, implies_true, and_true, failsOnly_deref]
  exact ⟨hsubject, fun subject _ => ⟨hname _ _, fun _ _ => ⟨fun _ => rfl, fun _ _ =>
    ⟨hfault.createIssuerNameIdentifier d, fun _ _ => ⟨hfault.getSigningCredentials d, fun _ _ =>
      ⟨hfault.createConditions _ _ d, fun _ _ => ⟨hfault.createAdvice d, fun _ _ =>
        hfault.createStatements d⟩⟩⟩⟩⟩⟩⟩

/-! ## The codes of the sequence -/

/-- Whenever the sequence fails, the fault on the wire has the message of the
exception as its reason, and the documented code. -/
def FaultCodes (constants : Constants) (im : IdentityModel)
    (describe : Scope → RequestSecurityToken → ClaimsIdentity → SecurityTokenDescriptor)
    (utcNow now : DateTime) (principal : ClaimsPrincipal) (request : RequestSecurityToken) : Prop :=
  ∀ ex, issuingSequence constants im describe utcNow now principal request = .error ex →
    ∀ version msg, provideFault (some ex) version msg = some {
      version := version
      fault := some ⟨ex.message, expectedCode constants principal request⟩
      action := faultAction }

theorem faultCodes_eq
    {describe : Scope → RequestSecurityToken → ClaimsIdentity → SecurityTokenDescriptor}
    {utcNow now : DateTime} :
    FaultCodes constants im describe utcNow now principal request ↔
      FailsOnly (faultCodeOf · = expectedCode constants principal request)
        (issuingSequence constants im describe utcNow now principal request) := by
  simp only [FaultCodes, FailsOnly, provideFault, Option.some.injEq, Message.mk.injEq,
    MessageFault.mk.injEq, true_and, and_true]
  constructor
  · intro h ex hex
    exact h ex hex ⟨""⟩ none
  · intro h ex hex version msg
    exact h ex hex

/-- A request whose element cannot be read is refused once it passes the
checks, with the code name that a fault without a code has. -/
theorem issuingSequence_of_unreadable
    {describe : Scope → RequestSecurityToken → ClaimsIdentity → SecurityTokenDescriptor}
    {utcNow now : DateTime} (hpasses : PassesChecks constants principal request)
    {element : SecurityTokenElement} (hobo : request.onBehalfOf = some element) {ex : Exception}
    (hget : element.getSecurityToken = .error ex) :
    issuingSequence constants im describe utcNow now principal request =
      .error (.faultOf ("Cannot read the onbehalfof token" ++ im.exceptionText ex)) := by
  obtain ⟨appliesTo, happ, hconn⟩ := hpasses.appliesTo
  obtain ⟨requestor, hreq, hensure⟩ := hpasses.requestor.checks_eq_ok
  have hscope := (getScope_eq_ok_iff constants request (withSecondaryParameters request)
    (scopeOf constants appliesTo)).mpr ⟨appliesTo, happ, hconn, rfl, rfl⟩
  have hclaims : (!(request.claims.getD []).isEmpty) = true := by simpa using hpasses.claims
  have hbranch (identity : ClaimsIdentity) :
      addUserClaims constants im requestor.value request.onBehalfOf identity =
        .error (.faultOf ("Cannot read the onbehalfof token" ++ im.exceptionText ex)) := by
    simp [addUserClaims, hobo, readOnBehalfOf, hget]
  simp only [issuingSequence, hscope, ok_bind, getOutputClaimsIdentity_withSecondaryParameters]
  simp only [getOutputClaimsIdentity, hreq, deref_some, ok_bind, hensure, hclaims, ensure_true,
    hbranch, error_bind]

/-- **Fault codes.** The documented codes leave the service unless the request
passes the checks and its on-behalf-of element cannot be read: that fault is
given a message and no code. -/
theorem faultCodes_iff (hfault : im.saml2.RaisesNoFault)
    (describe : Scope → RequestSecurityToken → ClaimsIdentity → SecurityTokenDescriptor)
    (utcNow now : DateTime) :
    FaultCodes constants im describe utcNow now principal request ↔
      (PassesChecks constants principal request → Readable request.onBehalfOf) := by
  rw [faultCodes_eq]
  constructor
  · intro h hpasses element hobo
    cases hget : element.getSecurityToken with
    | ok token => exact returns_ok token
    | error ex =>
        rw [issuingSequence_of_unreadable hpasses hobo hget, failsOnly_error,
          hpasses.expectedCode_eq, faultCodeOf_faultOf] at h
        exact absurd h (by decide)
  · intro hread
    simp only [issuingSequence, failsOnly_bind]
    constructor
    · intro ex hex
      rw [faultCodeOf_getScope hex]
      cases hconn : request.appliesTo.any isNoConnection with
      | true => simp [expectedCode, hconn]
      | false =>
          cases happ : request.appliesTo with
          | none => simp [expectedCode, happ]
          | some appliesTo =>
              -- `GetScope` does not fail for an address with a connection.
              rw [happ, Option.any_some] at hconn
              have hok := (getScope_eq_ok_iff constants request _ _).mpr
                ⟨appliesTo, happ, hconn, rfl, rfl⟩
              rw [hok] at hex
              cases hex
    · intro result hresult
      obtain ⟨scope, clientRequest⟩ := result
      obtain ⟨appliesTo, happ, hconn, -, rfl⟩ := (getScope_eq_ok_iff _ _ _ _).mp hresult
      rw [getOutputClaimsIdentity_withSecondaryParameters]
      refine ⟨failsOnly_getOutputClaimsIdentity utcNow happ hconn hread, fun subject hsubject => ?_⟩
      obtain ⟨requestor, bppValue, hreq, hsts, hclaims, hreadable, -⟩ :=
        (getOutputClaimsIdentity_eq_ok_iff _ _ _ _ _ _).mp hsubject
      have hpasses : PassesChecks constants principal request :=
        ⟨⟨appliesTo, happ, hconn⟩, ⟨requestor, hreq, hsts⟩, hclaims⟩
      rw [hpasses.expectedCode_eq]
      refine (failsOnly_createToken hfault ?_ now _).mono fun ex => faultCodeOf_of_isFault
      rw [onBehalfOf_withSecondaryParameters]
      exact hreadable

end Sequence

/-- A request without claims, on behalf of someone whose token can be read. -/
def claimlessRequest : RequestSecurityToken :=
  { requestOnBehalfOf (.other "Kerberos") with claims := none }

/-- It is refused, with the documented code. -/
theorem faultCodes_kerberos :
    (∃ message, issuingSequence sampleConstants Documented.identityModel
      (describeWith sampleConstants ⟨some 0, some 1⟩ none) 0 0 sampleClient claimlessRequest =
        .error (.fault message "5015")) ∧
    FaultCodes sampleConstants Documented.identityModel
      (describeWith sampleConstants ⟨some 0, some 1⟩ none) 0 0 sampleClient claimlessRequest :=
  ⟨⟨_, rfl⟩, (faultCodes_iff Documented.raisesNoFault _ 0 0).mpr fun _ element helement => by
    obtain rfl := Option.some.inj helement
    exact returns_ok _⟩

/-- A request on behalf of someone whose token cannot be read. -/
def unreadableRequest : RequestSecurityToken :=
  { sampleRequest with onBehalfOf := some ⟨.error (.other "ID4007")⟩ }

/-- It leaves with the code name of a fault that has no code. -/
theorem faultCode_unreadable_sender :
    ¬ FaultCodes sampleConstants Documented.identityModel
      (describeWith sampleConstants ⟨some 0, some 1⟩ none) 0 0 sampleClient unreadableRequest := by
  intro h
  have hpasses : PassesChecks sampleConstants sampleClient unreadableRequest :=
    ⟨⟨_, rfl, by decide⟩, ⟨_, rfl, by decide⟩, by decide⟩
  have hfault := h _ (issuingSequence_of_unreadable hpasses rfl rfl) ⟨"Soap12WSAddressing10"⟩ none
  rw [hpasses.expectedCode_eq] at hfault
  revert hfault
  decide

end KombitSamples.Sts
