import KombitSamples.Sts.Constants

/-!
# KombitSamples.Sts.CustomCertificateSecurityTokenHandler

Validation of the client certificate of a request.

`validateToken` lets three certificates through, flattens the claims of the
base handler, swaps the first `NameIdentifier` for a fake one and adds a
claim that records the thumbprint.  `validateToken_eq_ok_iff` says all of
this at once; what it means for the claims of each type follows in
`claimsOfType_clientIdentity_*`.
-/

namespace KombitSamples.Sts

open Fallible

/-- The cast `(X509SecurityToken) token`. -/
def castX509 : SecurityToken → Except Exception X509Certificate2
  | .x509 certificate => .ok certificate
  | _ => .error (.invalidCast "Unable to cast object to type X509SecurityToken.")

/-- The three certificates that `validateToken` lets through. -/
def isValidThumbprint (constants : Constants) (thumbprint : String) : Bool :=
  !(thumbprint.isEmpty ||
    (thumbprint != constants.aValidClientCertificate.thumbprint
      && thumbprint != constants.aValidOnBehalfOfCertificate.thumbprint
      && thumbprint != constants.stsServiceCertificate.thumbprint))

def invalidClientCredentials (constants : Constants) (clientCert : X509Certificate2) : Exception :=
  .invalidOperation ("Invalid client credentials. Expected " ++
    Text.trim constants.aValidClientCertificate.thumbprint ' ' ++ " but received " ++
    Text.trim clientCert.thumbprint ' ')

/-- The format of the faked subject name. -/
def x509SubjectNameFormat : String := "urn:oasis:names:tc:SAML:1.1:nameid-format:X509SubjectName"

/-- The claim with the faked subject name of a certificate. -/
def nameIdentifierClaim (constants : Constants) (clientCert : X509Certificate2) : Claim where
  type := ClaimTypes.nameIdentifier
  value := constants.getSubjectNameId clientCert
  properties := [(samlNameIdentifierFormat, x509SubjectNameFormat)]

/-- The claim that says who executes the request. -/
def requestorClaim (clientCert : X509Certificate2) : Claim where
  type := requestorCertificateClaimType
  value := clientCert.thumbprint

/-- `ValidateToken` of the token service's certificate handler. -/
def validateToken (constants : Constants) (im : IdentityModel) (token : Option SecurityToken) :
    Except Exception (List ClaimsIdentity) := do
  let token ← deref (.argumentNull "token") token
  let clientCert ← castX509 token
  ensure (invalidClientCredentials constants clientCert)
    (isValidThumbprint constants clientCert.thumbprint)
  let validatedClaims ← im.validateX509 clientCert
  let claimsList := validatedClaims.flatMap (·.claims)
  -- `First` and `Remove` together take out the first name identifier only.
  let claimsList := claimsList.eraseP (·.type == ClaimTypes.nameIdentifier)
  let claimsList := claimsList ++ [nameIdentifierClaim constants clientCert]
  let claimsList := claimsList ++ [requestorClaim clientCert]
  pure [{ claims := claimsList, authenticationType := authenticationTypeX509 }]

/-! ## What a validated certificate carries -/

/-- The identity that validation makes of a certificate and the claims of
the base handler. -/
def clientIdentity (constants : Constants) (clientCert : X509Certificate2)
    (baseClaims : List Claim) : ClaimsIdentity where
  claims := baseClaims.eraseP (·.type == ClaimTypes.nameIdentifier) ++
    [nameIdentifierClaim constants clientCert] ++ [requestorClaim clientCert]
  authenticationType := authenticationTypeX509

/-- Validation succeeds exactly for the certificates that are let through
and that the base handler validates. -/
theorem validateToken_eq_ok_iff (constants : Constants) (im : IdentityModel)
    (cert : X509Certificate2) (identities : List ClaimsIdentity) :
    validateToken constants im (some (.x509 cert)) = .ok identities ↔
      isValidThumbprint constants cert.thumbprint = true ∧
      ∃ validatedClaims, im.validateX509 cert = .ok validatedClaims ∧
        identities = [clientIdentity constants cert (validatedClaims.flatMap (·.claims))] := by
  simp only [validateToken, castX509, deref_some, ok_bind, bind_eq_ok, ensure_eq_ok, pure_eq_ok]
  constructor
  · intro h
    obtain ⟨-, hvalid, validatedClaims, hbase, hidentities⟩ := h
    exact ⟨hvalid, validatedClaims, hbase, hidentities.symm⟩
  · intro h
    obtain ⟨hvalid, validatedClaims, hbase, hidentities⟩ := h
    exact ⟨(), hvalid, validatedClaims, hbase, hidentities.symm⟩

/-- A certificate that is let through is one of the three configured. -/
theorem isValidThumbprint_iff (constants : Constants) (thumbprint : String) :
    isValidThumbprint constants thumbprint = true ↔ thumbprint ≠ "" ∧
      (thumbprint = constants.aValidClientCertificate.thumbprint ∨
        thumbprint = constants.aValidOnBehalfOfCertificate.thumbprint ∨
        thumbprint = constants.stsServiceCertificate.thumbprint) := by
  simp only [isValidThumbprint, Bool.not_eq_true', Bool.or_eq_false_iff, Bool.and_eq_false_iff,
    bne_eq_false_iff_eq, or_assoc]
  simp

/-- One that is not the service's own is the client's or the on-behalf-of
user's. -/
theorem isUser_of_isValidThumbprint {constants : Constants} {thumbprint : String}
    (hvalid : isValidThumbprint constants thumbprint = true)
    (hsts : thumbprint ≠ constants.stsServiceCertificate.thumbprint) :
    thumbprint = constants.aValidClientCertificate.thumbprint ∨
      thumbprint = constants.aValidOnBehalfOfCertificate.thumbprint := by
  have hthree := ((isValidThumbprint_iff constants thumbprint).mp hvalid).2
  rw [← or_assoc] at hthree
  exact hthree.resolve_right hsts

section Claims

variable (constants : Constants) (cert : X509Certificate2) (baseClaims : List Claim)

theorem claims_clientIdentity : (clientIdentity constants cert baseClaims).claims =
    baseClaims.eraseP (·.type == ClaimTypes.nameIdentifier) ++
      [nameIdentifierClaim constants cert] ++ [requestorClaim cert] := rfl

/-- Of the name identifiers, the first gives way to the faked one; further
ones stay. -/
theorem claimsOfType_clientIdentity_nameIdentifier :
    claimsOfType ClaimTypes.nameIdentifier (clientIdentity constants cert baseClaims).claims =
      (claimsOfType ClaimTypes.nameIdentifier baseClaims).tail ++
        [nameIdentifierClaim constants cert] := by
  have hself : (nameIdentifierClaim constants cert).type = ClaimTypes.nameIdentifier := rfl
  have hne : (requestorClaim cert).type ≠ ClaimTypes.nameIdentifier := by
    change requestorCertificateClaimType ≠ _
    decide
  rw [claims_clientIdentity, claimsOfType_append, claimsOfType_append, claimsOfType_eraseP_self,
    claimsOfType_cons_self hself, claimsOfType_cons_of_ne hne, claimsOfType_nil, List.append_nil]

/-- The thumbprint is the last of the requestor claims. -/
theorem claimsOfType_clientIdentity_requestor :
    claimsOfType requestorCertificateClaimType (clientIdentity constants cert baseClaims).claims =
      claimsOfType requestorCertificateClaimType baseClaims ++ [requestorClaim cert] := by
  have hne : requestorCertificateClaimType ≠ ClaimTypes.nameIdentifier := by decide
  have hname : (nameIdentifierClaim constants cert).type ≠ requestorCertificateClaimType := hne.symm
  have hself : (requestorClaim cert).type = requestorCertificateClaimType := rfl
  rw [claims_clientIdentity, claimsOfType_append, claimsOfType_append,
    claimsOfType_eraseP_of_ne hne, claimsOfType_cons_of_ne hname, claimsOfType_cons_self hself,
    claimsOfType_nil, List.append_nil]

/-- When the base handler returns no requestor claim, the one found is the
certificate's. -/
theorem firstClaim_clientIdentity_requestor
    (hbase : claimsOfType requestorCertificateClaimType baseClaims = []) :
    firstClaim requestorCertificateClaimType (clientIdentity constants cert baseClaims).claims =
      some (requestorClaim cert) := by
  rw [firstClaim_eq_head?, claimsOfType_clientIdentity_requestor, hbase]
  rfl

end Claims

end KombitSamples.Sts
