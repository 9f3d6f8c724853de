import KombitSamples.Documented
import KombitSamples.Sts.Issue
import KombitSamples.Sts.OutputClaims

/-!
# KombitSamples.Sts.Attestation

What the service attests about whom, over pairs of issued tokens.

A `Route` is all that decides over the subject of a token and the user
attributes it states: the certificate of the requestor, and the token a
request is made on behalf of.  `attests_route` refines the service to its
routes; `consistent_iff` compares two routes, and `attestsConsistently_iff`
two issued tokens.
-/

namespace KombitSamples.Sts

open Fallible Saml2SecurityTokenHandler

/-! ## Routes -/

inductive Route where
  | direct (cert : X509Certificate2)
  | onBehalfOf (cert : X509Certificate2) (token : SecurityToken)

namespace Route

variable (constants : Constants)

/-- The name a route puts in the subject. -/
def subject : Route → String
  | .direct cert => constants.getSubjectNameId cert
  | .onBehalfOf cert token =>
      ((onBehalfOfName constants token).map (·.value)).getD (constants.getSubjectNameId cert)

/-- The user claims a route leads to. -/
def claims : Route → List Claim
  | .direct cert => selectedClaims constants cert.thumbprint none
  | .onBehalfOf _ _ => onBehalfOfClaims

/-- The route of a requestor who is issued a token. -/
def Authorised : Route → Prop
  | .direct cert => cert.thumbprint = constants.aValidClientCertificate.thumbprint ∨
      cert.thumbprint = constants.aValidOnBehalfOfCertificate.thumbprint
  | .onBehalfOf _ _ => True

/-- The client's own request. -/
def IsClient : Route → Prop
  | .direct cert => cert.thumbprint = constants.aValidClientCertificate.thumbprint
  | .onBehalfOf _ _ => False

/-- The client's own request, and one on behalf of a token with the client's
name. -/
def Clashes : Route → Route → Prop
  | .direct cert, .onBehalfOf cert' token =>
      cert.thumbprint = constants.aValidClientCertificate.thumbprint ∧
        subject constants (.onBehalfOf cert' token) = clientSubjectNameId
  | _, _ => False

variable {constants}

/-- The values of one type of user claim. -/
def values (constants : Constants) (route : Route) (type : String) : List String :=
  (claimsOfType type (route.claims constants)).map (·.value)

theorem subject_of_isClient {route : Route} (h : route.IsClient constants) :
    route.subject constants = clientSubjectNameId := by
  cases route with
  | direct cert => exact (constants.getSubjectNameId_eq_client_iff cert).mpr h
  | onBehalfOf cert token => exact h.elim

/-- Every route but the client's own leads to the claims of the on-behalf-of
user. -/
theorem claims_of_not_isClient {route : Route} (h : route.Authorised constants)
    (hclient : ¬ route.IsClient constants) : route.claims constants = onBehalfOfClaims := by
  cases route with
  | direct cert =>
      have hne : cert.thumbprint ≠ constants.aValidClientCertificate.thumbprint := hclient
      have hobo : cert.thumbprint = constants.aValidOnBehalfOfCertificate.thumbprint :=
        h.resolve_left hne
      rw [claims, selectedClaims, if_neg hne, if_pos hobo, List.nil_append]
  | onBehalfOf cert token => rfl

/-- The client's own routes all lead to the same claims, with an assurance
level that no other route leads to. -/
theorem claims_of_isClient {route : Route} (hclient : route.IsClient constants) :
    route.claims constants =
      selectedClaims constants constants.aValidClientCertificate.thumbprint none := by
  cases route with
  | direct cert => exact congrArg (selectedClaims constants · none) hclient
  | onBehalfOf cert token => exact hclient.elim

theorem mem_values_of_isClient {route : Route} (hclient : route.IsClient constants) :
    "1" ∈ route.values constants assuranceLevel := by
  rw [values, claims_of_isClient hclient, selectedClaims, if_pos rfl, claimsOfType_append,
    List.map_append, List.mem_append]
  exact Or.inl (by decide)

theorem not_mem_values_of_not_isClient {route : Route} (h : route.Authorised constants)
    (hclient : ¬ route.IsClient constants) : "1" ∉ route.values constants assuranceLevel := by
  rw [values, claims_of_not_isClient h hclient]
  decide

/-- Two authorised routes lead to the same values exactly when both are the
client's own, or neither is. -/
theorem values_eq_iff {r s : Route} (hr : r.Authorised constants) (hs : s.Authorised constants) :
    (∀ type ∈ userClaimTypes, r.values constants type = s.values constants type) ↔
      (r.IsClient constants ↔ s.IsClient constants) := by
  constructor
  · intro h
    -- The assurance level alone tells the client's own routes from the others.
    have hlevel := h assuranceLevel (by decide)
    constructor
    · intro hclient
      by_contra hnot
      have hmem := mem_values_of_isClient hclient
      rw [hlevel] at hmem
      exact not_mem_values_of_not_isClient hs hnot hmem
    · intro hclient
      by_contra hnot
      have hmem := mem_values_of_isClient hclient
      rw [← hlevel] at hmem
      exact not_mem_values_of_not_isClient hr hnot hmem
  · intro h type _
    by_cases hclient : r.IsClient constants
    · rw [values, values, claims_of_isClient hclient, claims_of_isClient (h.mp hclient)]
    · rw [values, values, claims_of_not_isClient hr hclient,
        claims_of_not_isClient hs (mt h.mpr hclient)]

/-- A route clashes with the client's own one when it gives the client's
name to someone else's attributes. -/
theorem clashes_iff {r s : Route} (hs : s.Authorised constants) :
    r.Clashes constants s ↔
      r.IsClient constants ∧ ¬ s.IsClient constants ∧
        s.subject constants = clientSubjectNameId := by
  cases r with
  | onBehalfOf cert token => simp [Clashes, IsClient]
  | direct cert =>
      cases s with
      | onBehalfOf cert' token => simp [Clashes, IsClient]
      | direct cert' =>
          simp [Clashes, IsClient, subject, constants.getSubjectNameId_eq_client_iff]

/-- Two routes agree about a common subject exactly when neither clashes
with the other. -/
theorem consistent_iff {r s : Route} (hr : r.Authorised constants)
    (hs : s.Authorised constants) :
    (r.subject constants = s.subject constants →
        ∀ type ∈ userClaimTypes, r.values constants type = s.values constants type) ↔
      ¬ r.Clashes constants s ∧ ¬ s.Clashes constants r := by
  rw [values_eq_iff hr hs, clashes_iff hs, clashes_iff hr]
  by_cases hcr : r.IsClient constants
  · by_cases hcs : s.IsClient constants
    · simp [hcr, hcs]
    · simp [hcr, hcs, subject_of_isClient hcr, eq_comm]
  · by_cases hcs : s.IsClient constants
    · simp [hcr, hcs, subject_of_isClient hcs]
    · simp [hcr, hcs]

end Route

/-! ## Issued tokens -/

/-- Issuing a token, from the validation of the requestor's certificate on. -/
def issueFor (constants : Constants) (im : IdentityModel) (clock : IssueClock)
    (cert : X509Certificate2) (request : RequestSecurityToken) :
    Except Exception Saml2SecurityToken := do
  let identities ← validateToken constants im (some (.x509 cert))
  issue constants im clock ⟨identities⟩ request

/-- The route of a request; the token it is made on behalf of is read. -/
def routeOf (cert : X509Certificate2) (request : RequestSecurityToken) : Except Exception Route :=
  match request.onBehalfOf with
  | none => .ok (.direct cert)
  | some element => do
      let token ← element.getSecurityToken
      pure (.onBehalfOf cert token)

/-- The base handler makes no claims of the service's own type. -/
def NoRequestorClaim (im : IdentityModel) : Prop :=
  ∀ cert validatedClaims, im.validateX509 cert = .ok validatedClaims →
    claimsOfType requestorCertificateClaimType (validatedClaims.flatMap (·.claims)) = []

section Issued

variable {constants : Constants} {im : IdentityModel} {clock : IssueClock}
  {cert : X509Certificate2} {request : RequestSecurityToken} {token : Saml2SecurityToken}

/-- The name of a requestor who is issued a token is the faked one alone: a
second name identifier does not get past the base class. -/
theorem nameIdentifiers_of_createSamlSubject (hnames : im.saml2.NamesSubject)
    {baseClaims : List Claim} {tokenDescriptor : SecurityTokenDescriptor}
    (hids : nameIdentifiers tokenDescriptor = claimsOfType ClaimTypes.nameIdentifier
      (ClaimsPrincipal.claims ⟨[clientIdentity constants cert baseClaims]⟩))
    (h : Returns (createSamlSubject im tokenDescriptor)) :
    nameIdentifiers tokenDescriptor = [nameIdentifierClaim constants cert] := by
  have hle := ((returns_createSamlSubject_iff hnames).mp h).1
  have hbase : (claimsOfType ClaimTypes.nameIdentifier baseClaims).length ≤ 1 := by
    rw [hids, ClaimsPrincipal.claims_singleton, claimsOfType_clientIdentity_nameIdentifier,
      List.length_append, List.length_tail, List.length_singleton] at hle
    omega
  rw [hids, nameIdentifiers_of_clientIdentity hbase]

/-- An issued token attests what its route says. -/
theorem attests_route (hnames : im.saml2.NamesSubject) (hstates : im.saml2.StatesAttributes)
    (hbase : NoRequestorClaim im)
    (h : issueFor constants im clock cert request = .ok token) :
    ∃ route, routeOf cert request = .ok route ∧ route.Authorised constants ∧
      token.nameId.map (·.value) = some (route.subject constants) ∧
      ∀ type ∈ userClaimTypes,
        attributeValues type token.assertion.statements = route.values constants type := by
  simp only [issueFor, bind_eq_ok, validateToken_eq_ok_iff, issue_eq_ok_iff] at h
  obtain ⟨-, ⟨hvalid, validatedClaims, hclaims, rfl⟩, ⟨i⟩⟩ := h
  have hreq := requestor_of_clientIdentity (hbase cert validatedClaims hclaims) i.requestor_eq
  have hthumb : i.requestor.value = cert.thumbprint := congrArg Claim.value hreq
  have hids := nameIdentifiers_of_createSamlSubject hnames
    (nameIdentifiers_descriptorOf ..) ⟨_, i.createdFrom.subject_eq⟩
  have hvalues (type : String) (htype : type ∈ userClaimTypes) :=
    i.attributeValues_eq hstates htype
  rw [hthumb] at hvalues
  have hcreate := createToken_eq_ok_iff.mpr ⟨i.createdFrom⟩
  cases hobo : request.onBehalfOf with
  | none =>
      refine ⟨.direct cert, by simp [routeOf, hobo], ?_, ?_, ?_⟩
      · have hsts := i.requestor_ne
        rw [hthumb] at hsts
        exact isUser_of_isValidThumbprint hvalid hsts
      · have hname := name_of_createToken_direct hnames
          ((onBehalfOf_withSecondaryParameters request).trans hobo) hcreate
        rw [hids] at hname
        exact hname
      · rw [hobo] at hvalues
        exact hvalues
  | some element =>
      obtain ⟨onBehalfOf, hget⟩ := i.readable element hobo
      refine ⟨.onBehalfOf cert onBehalfOf, by simp [routeOf, hobo, hget], trivial, ?_, ?_⟩
      · obtain ⟨sender, -, hsender, hname, -⟩ := names_of_createToken_onBehalfOf hnames
          ((onBehalfOf_withSecondaryParameters request).trans hobo) hget hcreate
        rw [hids] at hsender
        have hvalue : sender.value = constants.getSubjectNameId cert := Option.some.inj hsender
        rw [hname, Route.subject, ← hvalue]
        cases onBehalfOfName constants onBehalfOf <;> rfl
      · rw [hobo] at hvalues
        exact hvalues

end Issued

/-- Two tokens about the same subject state the same user attributes. -/
def AttestsConsistently (t u : Saml2SecurityToken) : Prop :=
  t.nameId.map (·.value) = u.nameId.map (·.value) →
    ∀ type ∈ userClaimTypes,
      attributeValues type t.assertion.statements = attributeValues type u.assertion.statements

/-- The first request is the client's own, and the second is on behalf of a
token with the client's name. -/
def ClashingRequests (constants : Constants) (cert cert' : X509Certificate2)
    (request request' : RequestSecurityToken) : Prop :=
  ∃ route route', routeOf cert request = .ok route ∧ routeOf cert' request' = .ok route' ∧
    route.Clashes constants route'

/-- **Attributes belong to the subject** exactly as long as no one is issued
a token on behalf of the client, whose own requests are answered with
another assurance level. -/
theorem attestsConsistently_iff {constants : Constants} {im : IdentityModel}
    (hnames : im.saml2.NamesSubject) (hstates : im.saml2.StatesAttributes)
    (hbase : NoRequestorClaim im) {clock clock' : IssueClock} {cert cert' : X509Certificate2}
    {request request' : RequestSecurityToken} {token token' : Saml2SecurityToken}
    (h : issueFor constants im clock cert request = .ok token)
    (h' : issueFor constants im clock' cert' request' = .ok token') :
    AttestsConsistently token token' ↔
      ¬ ClashingRequests constants cert cert' request request' ∧
        ¬ ClashingRequests constants cert' cert request' request := by
  obtain ⟨route, hroute, hauth, hname, hvalues⟩ := attests_route hnames hstates hbase h
  obtain ⟨route', hroute', hauth', hname', hvalues'⟩ := attests_route hnames hstates hbase h'
  have hclash : ClashingRequests constants cert cert' request request' ↔
      route.Clashes constants route' := by
    simp [ClashingRequests, hroute, hroute']
  have hclash' : ClashingRequests constants cert' cert request' request ↔
      route'.Clashes constants route := by
    simp [ClashingRequests, hroute, hroute']
  rw [hclash, hclash', ← Route.consistent_iff hauth hauth', AttestsConsistently, hname, hname',
    Option.some.injEq]
  refine imp_congr_right fun _ => forall₂_congr fun type htype => ?_
  rw [hvalues type htype, hvalues' type htype]

/-! ### Requests under the shipped settings -/

theorem noRequestorClaim_documented : NoRequestorClaim Documented.identityModel := by
  intro cert _ h
  cases h
  rfl

/-- What is attested about the client and what about the other user. -/
theorem attestsConsistently_direct :
    ∃ token token',
      issueFor sampleConstants Documented.identityModel ⟨0, 0, 0⟩
        sampleConstants.aValidClientCertificate sampleRequest = .ok token ∧
      issueFor sampleConstants Documented.identityModel ⟨0, 0, 0⟩
        sampleConstants.aValidOnBehalfOfCertificate sampleRequest = .ok token' ∧
      AttestsConsistently token token' := by
  obtain ⟨token, h⟩ : Returns (issueFor sampleConstants Documented.identityModel ⟨0, 0, 0⟩
      sampleConstants.aValidClientCertificate sampleRequest) := by decide
  obtain ⟨token', h'⟩ : Returns (issueFor sampleConstants Documented.identityModel ⟨0, 0, 0⟩
      sampleConstants.aValidOnBehalfOfCertificate sampleRequest) := by decide
  refine ⟨token, token', h, h', (attestsConsistently_iff Documented.namesSubject
    Documented.statesAttributes noRequestorClaim_documented h h').mpr ⟨?_, ?_⟩⟩
  · rintro ⟨_, _, ⟨⟩, ⟨⟩, ⟨⟩⟩
  · rintro ⟨_, _, ⟨⟩, ⟨⟩, ⟨⟩⟩

/-- What is attested about the client on its own request, and when the other
user asks on behalf of the client's certificate. -/
theorem not_attestsConsistently_onBehalfOf :
    ∃ token token',
      issueFor sampleConstants Documented.identityModel ⟨0, 0, 0⟩
        sampleConstants.aValidClientCertificate sampleRequest = .ok token ∧
      issueFor sampleConstants Documented.identityModel ⟨0, 0, 0⟩
        sampleConstants.aValidOnBehalfOfCertificate
        (requestOnBehalfOf (.x509 sampleConstants.aValidClientCertificate)) = .ok token' ∧
      ¬ AttestsConsistently token token' := by
  obtain ⟨token, h⟩ : Returns (issueFor sampleConstants Documented.identityModel ⟨0, 0, 0⟩
      sampleConstants.aValidClientCertificate sampleRequest) := by decide
  obtain ⟨token', h'⟩ : Returns (issueFor sampleConstants Documented.identityModel ⟨0, 0, 0⟩
      sampleConstants.aValidOnBehalfOfCertificate
      (requestOnBehalfOf (.x509 sampleConstants.aValidClientCertificate))) := by decide
  obtain ⟨_, ⟨⟩, -, hname, hvalues⟩ := attests_route Documented.namesSubject
    Documented.statesAttributes noRequestorClaim_documented h
  obtain ⟨_, ⟨⟩, -, hname', hvalues'⟩ := attests_route Documented.namesSubject
    Documented.statesAttributes noRequestorClaim_documented h'
  refine ⟨token, token', h, h', fun hconsistent => ?_⟩
  have hlevel := hconsistent (by rw [hname, hname']; decide) assuranceLevel (by decide)
  rw [hvalues _ (by decide), hvalues' _ (by decide)] at hlevel
  exact absurd hlevel (by decide)

end KombitSamples.Sts
