import KombitSamples.Sts.CustomCertificateSecurityTokenHandler

/-!
# KombitSamples.Sts.WsTrustSecurityTokenService

The two callbacks by which the token service decides on a request:
`getScope`, which finds the relying party, and `getOutputClaimsIdentity`,
which decides whether the requestor is issued a token and with which
claims.

Each has one theorem that says everything about its success,
`getScope_eq_ok_iff` and `getOutputClaimsIdentity_eq_ok_iff`; the results
below are read off them.
-/

namespace KombitSamples.Sts

open Fallible

/-! ## GetScope -/

/-- The address that stands for a relying party without a connection. -/
def noConnectionAddress : String := "https://consumer.kombit.dk/noconnectionfound"

def isNoConnection (appliesTo : EndpointReference) : Bool :=
  Text.equalsIgnoreCase appliesTo.uri.absoluteUri noConnectionAddress

def checkIfErrorShouldBeThrown (appliesTo : Option EndpointReference) : Except Exception Unit := do
  let appliesTo ← deref .nullReference appliesTo
  ensure
    (.fault ("Path resolution: no connection '" ++ appliesTo.uri.absoluteUri ++ "' found") "5002")
    (!isNoConnection appliesTo)

/-- A setting of the secondary parameters, unless it is null or empty. -/
def unlessEmpty (secondary primary : Option String) : Option String :=
  if secondary.all (·.isEmpty) then primary else secondary

/-- The request after `GetScope`: the key type and the token type of the
secondary parameters take precedence. -/
def withSecondaryParameters (request : RequestSecurityToken) : RequestSecurityToken :=
  match request.secondaryParameters with
  | none => request
  | some secondary => { request with
      keyType := unlessEmpty secondary.keyType request.keyType
      tokenType := unlessEmpty secondary.tokenType request.tokenType }

/-- `GetScope`.  It also keeps the request, which it changes in place. -/
def getScope (constants : Constants) (request : RequestSecurityToken) :
    Except Exception (Scope × RequestSecurityToken) := do
  checkIfErrorShouldBeThrown request.appliesTo
  let appliesTo ← deref .nullReference request.appliesTo
  let scope : Scope := {
    appliesToAddress := appliesTo.uri.absoluteUri
    signingCredentials := constants.signingCredentials
    tokenEncryptionRequired := false
    symmetricKeyEncryptionRequired := false }
  pure (scope, withSecondaryParameters request)

/-- The scope of a relying party. -/
def scopeOf (constants : Constants) (appliesTo : EndpointReference) : Scope where
  appliesToAddress := appliesTo.uri.absoluteUri
  signingCredentials := constants.signingCredentials
  tokenEncryptionRequired := false
  symmetricKeyEncryptionRequired := false

/-- `GetScope` succeeds exactly for a request that names a relying party
with a connection. -/
theorem getScope_eq_ok_iff (constants : Constants) (request clientRequest : RequestSecurityToken)
    (scope : Scope) :
    getScope constants request = .ok (scope, clientRequest) ↔
      ∃ appliesTo, request.appliesTo = some appliesTo ∧ isNoConnection appliesTo = false ∧
        scope = scopeOf constants appliesTo ∧ clientRequest = withSecondaryParameters request := by
  simp only [getScope, checkIfErrorShouldBeThrown, bind_eq_ok, deref_eq_ok, ensure_eq_ok,
    pure_eq_ok, Bool.not_eq_true', Prod.mk.injEq]
  constructor
  · intro h
    obtain ⟨-, ⟨appliesTo, happ, hconn⟩, appliesTo', happ', hscope, hreq⟩ := h
    obtain rfl : appliesTo = appliesTo' := Option.some.inj (happ.symm.trans happ')
    exact ⟨appliesTo, happ, hconn, hscope.symm, hreq.symm⟩
  · intro h
    obtain ⟨appliesTo, happ, hconn, hscope, hreq⟩ := h
    exact ⟨(), ⟨appliesTo, happ, hconn⟩, appliesTo, happ, hscope.symm, hreq.symm⟩

section WithSecondaryParameters

variable (request : RequestSecurityToken)

/-- The secondary parameters leave everything but the two types alone. -/
@[simp] theorem appliesTo_withSecondaryParameters :
    (withSecondaryParameters request).appliesTo = request.appliesTo := by
  unfold withSecondaryParameters; split <;> rfl

@[simp] theorem lifetime_withSecondaryParameters :
    (withSecondaryParameters request).lifetime = request.lifetime := by
  unfold withSecondaryParameters; split <;> rfl

@[simp] theorem claims_withSecondaryParameters :
    (withSecondaryParameters request).claims = request.claims := by
  unfold withSecondaryParameters; split <;> rfl

@[simp] theorem onBehalfOf_withSecondaryParameters :
    (withSecondaryParameters request).onBehalfOf = request.onBehalfOf := by
  unfold withSecondaryParameters; split <;> rfl

end WithSecondaryParameters

/-! ## GetOutputClaimsIdentity -/

def assuranceLevel : String := "dk:gov:saml:attribute:AssuranceLevel"

def specVer : String := "dk:gov:saml:attribute:SpecVer"

def kombitSpecVer : String := "dk:gov:saml:attribute:KombitSpecVer"

def cvrNumberIdentifier : String := "dk:gov:saml:attribute:CvrNumberIdentifier"

def privilegesIntermediate : String := "dk:gov:saml:attribute:Privileges_intermediate"

/-- The fake claims of a user, who differs from another in the assurance
level only. -/
def userClaims (level : String) : List Claim :=
  [{ type := assuranceLevel, value := level },
   { type := specVer, value := "DK-SAML-2.0" },
   { type := kombitSpecVer, value := "1.0" },
   { type := cvrNumberIdentifier, value := "34051178-FID:54846685" }]

/-- The fake claims of the caller. -/
def callerClaims : List Claim := userClaims "1"

/-- The fake claims of the user a request is made on behalf of. -/
def onBehalfOfClaims : List Claim := userClaims "4"

def missingRequestorClaim : Exception := .argument
  "Missing requestor claim, please make sure that the request is using certificate authentication"

def noMappedUser (thumbprint : String) : Exception :=
  .fault ("No mapped user exists for thumbprint '" ++ thumbprint ++ "'") "5607"

def expectedCvrClaim : Exception := .fault
  "It is expected that the received STR must contain a CVR claim. Please check to make sure it includes the CVR claim."
  "5015"

/-- One turn of the loop over the principal's claims: name identifiers are
copied, and a CVR claim clears the flag `missingCvr`. -/
def copyClaim (acc : ClaimsIdentity × Bool) (claim : Claim) : ClaimsIdentity × Bool :=
  (if claim.type == ClaimTypes.nameIdentifier then acc.1.addClaim claim else acc.1,
   if claim.type == cvrNumberIdentifier then false else acc.2)

def addClaims (identity : ClaimsIdentity) (claims : List Claim) : ClaimsIdentity :=
  claims.foldl ClaimsIdentity.addClaim identity

def authenticationInstantClaim (im : IdentityModel) (utcNow : DateTime) : Claim where
  type := ClaimTypes.authenticationInstant
  value := im.formatInstant utcNow
  valueType := "http://www.w3.org/2001/XMLSchema#dateTime"

def authenticationMethodClaim : Claim where
  type := ClaimTypes.authenticationMethod
  value := authenticationMethodX509

/-- Read the token a request is made on behalf of.  One that is neither a
SAML 2.0 nor an X.509 token is only reported in the log. -/
def readOnBehalfOf (im : IdentityModel) (element : SecurityTokenElement) : Except Exception Unit :=
  match element.getSecurityToken with
  | .ok _ => .ok ()
  | .error ex => .error (.faultOf ("Cannot read the onbehalfof token" ++ im.exceptionText ex))

/-- `new Claim` rejects a null value. -/
def generateBppClaim (constants : Constants) : Except Exception Claim := do
  let value ← deref (.argumentNull "value") constants.bppValue
  pure { type := privilegesIntermediate, value := value }

/-- The branch on `OnBehalfOf` that adds the claims of a user. -/
def addUserClaims (constants : Constants) (im : IdentityModel) (thumbprint : String)
    (onBehalfOf : Option SecurityTokenElement) (identity : ClaimsIdentity) :
    Except Exception ClaimsIdentity :=
  match onBehalfOf with
  | some element => do
      readOnBehalfOf im element
      pure (addClaims identity onBehalfOfClaims)
  | none =>
      let identity :=
        if thumbprint = constants.aValidClientCertificate.thumbprint then
          addClaims identity callerClaims
        else identity
      let identity :=
        if thumbprint = constants.aValidOnBehalfOfCertificate.thumbprint then
          addClaims identity onBehalfOfClaims
        else identity
      pure identity

/-- `GetOutputClaimsIdentity`. -/
def getOutputClaimsIdentity (constants : Constants) (im : IdentityModel) (utcNow : DateTime)
    (principal : ClaimsPrincipal) (request : RequestSecurityToken) :
    Except Exception ClaimsIdentity := do
  let requestor ← deref missingRequestorClaim
    (firstClaim requestorCertificateClaimType principal.claims)
  ensure (noMappedUser requestor.value)
    (requestor.value != constants.stsServiceCertificate.thumbprint)
  -- The flag that the loop computes along with the copy is not read again.
  let claimsIdentity :=
    (principal.claims.foldl copyClaim ({ authenticationType := authenticationTypeX509 }, true)).1
  ensure expectedCvrClaim (!(request.claims.getD []).isEmpty)
  let claimsIdentity := claimsIdentity.addClaim (authenticationInstantClaim im utcNow)
  let claimsIdentity := claimsIdentity.addClaim authenticationMethodClaim
  let claimsIdentity ← addUserClaims constants im requestor.value request.onBehalfOf claimsIdentity
  let bppClaim ← generateBppClaim constants
  pure (claimsIdentity.addClaim bppClaim)

/-! ## What the loop and the branches compute -/

theorem addClaims_eq (identity : ClaimsIdentity) (claims : List Claim) :
    addClaims identity claims = { identity with claims := identity.claims ++ claims } := by
  induction claims generalizing identity with
  | nil => simp [addClaims]
  | cons c claims ih =>
      rw [addClaims, List.foldl_cons, ← addClaims, ih]
      simp [ClaimsIdentity.addClaim]

theorem addClaims_append (identity : ClaimsIdentity) (xs ys : List Claim) :
    addClaims identity (xs ++ ys) = addClaims (addClaims identity xs) ys := List.foldl_append

/-- The loop copies exactly the name identifiers, in order. -/
theorem foldl_copyClaim (claims : List Claim) (identity : ClaimsIdentity) (missingCvr : Bool) :
    (claims.foldl copyClaim (identity, missingCvr)).1 =
      addClaims identity (claimsOfType ClaimTypes.nameIdentifier claims) := by
  induction claims generalizing identity missingCvr with
  | nil => rfl
  | cons c claims ih =>
      rw [List.foldl_cons, copyClaim, ih]
      by_cases h : c.type = ClaimTypes.nameIdentifier
      · rw [claimsOfType_cons_self h, if_pos (by simpa using h)]
        rfl
      · rw [claimsOfType_cons_of_ne h, if_neg (by simpa using h)]

/-- The two checks that come first: the requestor is known, and is not the
service itself. -/
def KnownRequestor (constants : Constants) (principal : ClaimsPrincipal) : Prop :=
  ∃ requestor, firstClaim requestorCertificateClaimType principal.claims = some requestor ∧
    requestor.value ≠ constants.stsServiceCertificate.thumbprint

/-- A known requestor passes them. -/
theorem KnownRequestor.checks_eq_ok {constants : Constants} {principal : ClaimsPrincipal}
    (h : KnownRequestor constants principal) :
    ∃ requestor, firstClaim requestorCertificateClaimType principal.claims = some requestor ∧
      ensure (noMappedUser requestor.value)
        (requestor.value != constants.stsServiceCertificate.thumbprint) = .ok () := by
  obtain ⟨requestor, hreq, hsts⟩ := h
  refine ⟨requestor, hreq, ?_⟩
  rw [ensure_eq_ok, bne_iff_ne]
  exact hsts

/-- The user claims a request leads to: those of the on-behalf-of user, or
those that the requestor's own certificate selects. -/
def selectedClaims (constants : Constants) (thumbprint : String)
    (onBehalfOf : Option SecurityTokenElement) : List Claim :=
  match onBehalfOf with
  | some _ => onBehalfOfClaims
  | none =>
      (if thumbprint = constants.aValidClientCertificate.thumbprint then callerClaims else []) ++
      (if thumbprint = constants.aValidOnBehalfOfCertificate.thumbprint then onBehalfOfClaims
        else [])

/-- The on-behalf-of element of a request, if it has one, can be read. -/
def Readable (onBehalfOf : Option SecurityTokenElement) : Prop :=
  ∀ element, onBehalfOf = some element → Returns element.getSecurityToken

theorem readOnBehalfOf_eq_ok {im : IdentityModel} {element : SecurityTokenElement} {u : Unit} :
    readOnBehalfOf im element = .ok u ↔ Returns element.getSecurityToken := by
  unfold readOnBehalfOf
  split <;> simp_all

@[simp] theorem readable_none : Readable none := by simp [Readable]

@[simp] theorem readable_some {element : SecurityTokenElement} :
    Readable (some element) ↔ Returns element.getSecurityToken := by
  simp [Readable]

/-- The branch adds the selected claims, whenever the element can be read. -/
theorem addUserClaims_eq_ok_iff (constants : Constants) (im : IdentityModel) (thumbprint : String)
    (onBehalfOf : Option SecurityTokenElement) (identity result : ClaimsIdentity) :
    addUserClaims constants im thumbprint onBehalfOf identity = .ok result ↔
      Readable onBehalfOf ∧
        result = addClaims identity (selectedClaims constants thumbprint onBehalfOf) := by
  cases onBehalfOf with
  | some element =>
      simp only [addUserClaims, bind_eq_ok, readOnBehalfOf_eq_ok, pure_eq_ok, selectedClaims,
        readable_some, exists_const]
      rw [eq_comm (a := result)]
  | none =>
      simp only [addUserClaims, pure_eq_ok, selectedClaims, readable_none, true_and,
        addClaims_append]
      split <;> split <;> exact eq_comm

/-- The identity a request is issued a token for. -/
def outputIdentity (constants : Constants) (im : IdentityModel) (utcNow : DateTime)
    (principal : ClaimsPrincipal) (thumbprint : String)
    (onBehalfOf : Option SecurityTokenElement) (bppValue : String) : ClaimsIdentity where
  claims := claimsOfType ClaimTypes.nameIdentifier principal.claims ++
    [authenticationInstantClaim im utcNow, authenticationMethodClaim] ++
    selectedClaims constants thumbprint onBehalfOf ++
    [{ type := privilegesIntermediate, value := bppValue }]
  authenticationType := authenticationTypeX509

/-- No user claim names the subject. -/
theorem claimsOfType_nameIdentifier_selectedClaims (constants : Constants) (thumbprint : String)
    (onBehalfOf : Option SecurityTokenElement) :
    claimsOfType ClaimTypes.nameIdentifier (selectedClaims constants thumbprint onBehalfOf) = [] := by
  cases onBehalfOf with
  | some element => rfl
  | none =>
      rw [selectedClaims]
      split <;> split <;> rfl

/-- The names of an issued identity are those of the requestor. -/
theorem claimsOfType_nameIdentifier_outputIdentity (constants : Constants) (im : IdentityModel)
    (utcNow : DateTime) (principal : ClaimsPrincipal) (thumbprint : String)
    (onBehalfOf : Option SecurityTokenElement) (bppValue : String) :
    claimsOfType ClaimTypes.nameIdentifier (outputIdentity constants im utcNow principal thumbprint
      onBehalfOf bppValue).claims = claimsOfType ClaimTypes.nameIdentifier principal.claims := by
  simp only [outputIdentity, claimsOfType_append, claimsOfType_nameIdentifier_selectedClaims]
  have hself : claimsOfType ClaimTypes.nameIdentifier
      (claimsOfType ClaimTypes.nameIdentifier principal.claims) =
      claimsOfType ClaimTypes.nameIdentifier principal.claims := by
    simp [claimsOfType]
  rw [hself, List.append_nil, List.append_assoc]
  exact List.append_nil _

/-- The claim types by which users are told apart. -/
def userClaimTypes : List String := [assuranceLevel, specVer, kombitSpecVer, cvrNumberIdentifier]

/-- The user claims of an issued identity are the selected ones. -/
theorem claimsOfType_outputIdentity {type : String} (htype : type ∈ userClaimTypes)
    (constants : Constants) (im : IdentityModel) (utcNow : DateTime) (principal : ClaimsPrincipal)
    (thumbprint : String) (onBehalfOf : Option SecurityTokenElement) (bppValue : String) :
    claimsOfType type (outputIdentity constants im utcNow principal thumbprint onBehalfOf
      bppValue).claims = claimsOfType type (selectedClaims constants thumbprint onBehalfOf) := by
  have hne : type ≠ ClaimTypes.nameIdentifier ∧ type ≠ ClaimTypes.authenticationInstant ∧
      type ≠ ClaimTypes.authenticationMethod ∧ type ≠ privilegesIntermediate := by
    revert htype
    revert type
    decide
  obtain ⟨hname, hinstant, hmethod, hpriv⟩ := hne
  have hnone : claimsOfType type (claimsOfType ClaimTypes.nameIdentifier principal.claims) = [] := by
    simp only [claimsOfType, List.filter_filter]
    refine List.filter_eq_nil_iff.mpr fun c _ => ?_
    simp only [Bool.and_eq_true, beq_iff_eq, not_and]
    intro hc
    rw [hc]
    exact hname
  simp only [outputIdentity, claimsOfType_append, hnone, List.nil_append]
  rw [claimsOfType_cons_of_ne hinstant.symm, claimsOfType_cons_of_ne hmethod.symm,
    claimsOfType_cons_of_ne hpriv.symm]
  simp only [claimsOfType_nil, List.nil_append, List.append_nil]

/-- `GetOutputClaimsIdentity` succeeds exactly when the requestor is known
and not the service itself, the request has claims, its on-behalf-of element
can be read and a privilege profile is configured; the identity is then
`outputIdentity`. -/
theorem getOutputClaimsIdentity_eq_ok_iff (constants : Constants) (im : IdentityModel)
    (utcNow : DateTime) (principal : ClaimsPrincipal) (request : RequestSecurityToken)
    (identity : ClaimsIdentity) :
    getOutputClaimsIdentity constants im utcNow principal request = .ok identity ↔
      ∃ requestor bppValue,
        firstClaim requestorCertificateClaimType principal.claims = some requestor ∧
        requestor.value ≠ constants.stsServiceCertificate.thumbprint ∧
        request.claims.getD [] ≠ [] ∧ Readable request.onBehalfOf ∧
        constants.bppValue = some bppValue ∧
        identity = outputIdentity constants im utcNow principal requestor.value
          request.onBehalfOf bppValue := by
  simp only [getOutputClaimsIdentity, generateBppClaim, bind_eq_ok, deref_eq_ok, ensure_eq_ok,
    pure_eq_ok, foldl_copyClaim, addUserClaims_eq_ok_iff, addClaims_eq]
  have hnotEmpty : (!(request.claims.getD []).isEmpty) = true ↔ request.claims.getD [] ≠ [] := by
    simp
  simp only [bne_iff_ne, hnotEmpty]
  constructor
  · intro h
    obtain ⟨requestor, hreq, -, hsts, -, hclaims, _, ⟨hread, rfl⟩, _, ⟨bpp, hbpp, rfl⟩, hid⟩ := h
    refine ⟨requestor, bpp, hreq, hsts, hclaims, hread, hbpp, ?_⟩
    rw [← hid]
    simp [outputIdentity, ClaimsIdentity.addClaim]
  · intro h
    obtain ⟨requestor, bpp, hreq, hsts, hclaims, hread, hbpp, hid⟩ := h
    refine ⟨requestor, hreq, (), hsts, (), hclaims, _, ⟨hread, rfl⟩, _, ⟨bpp, hbpp, rfl⟩, ?_⟩
    rw [hid]
    simp [outputIdentity, ClaimsIdentity.addClaim]

end KombitSamples.Sts
