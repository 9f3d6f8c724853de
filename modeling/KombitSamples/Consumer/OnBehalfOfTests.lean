import KombitSamples.Consumer.TokenTransport
import KombitSamples.Sts.Delegation

/-!
# KombitSamples.Consumer.OnBehalfOfTests

The consumer's tests of requests on behalf of others, against the token service:
what it takes for a requestor to be issued a token, and what the tests ask of the
settings of both programs.

* `Deployed.returns_send_iff` — which requests of the consumer are issued a
  token;
* `sendRstWithProxyOnBehalfOf_iff` — on behalf of the owner of a certificate;
* `sendRstWithNormalOnBehalfOf_iff` — on behalf of the owner of a token that was
  issued before.
-/

namespace KombitSamples.Consumer

open Fallible Saml2SecurityTokenHandler

/-! ## What is relied on -/

/-- What the base classes are documented to do, as far as these tests go. -/
structure FollowsDocumentation (im : IdentityModel) : Prop where
  namesSubject : im.saml2.NamesSubject
  statesAttributes : im.saml2.StatesAttributes
  statesAttributesFirst : StatesAttributesFirst im.saml2
  returnsOnIssuerName : im.saml2.ReturnsOnIssuerName im.newUri
  copiesConditions : im.saml2.CopiesConditions im.newUri
  computesLifetime : im.service.ComputesLifetime
  plainClaims : ∀ cert validatedClaims, im.validateX509 cert = .ok validatedClaims →
    Sts.PlainClaims (validatedClaims.flatMap (·.claims))
  /-- A URI has a text, which reads back as the same URI. -/
  newUri_canonical : ∀ text uri, im.newUri text = .ok uri →
    uri.absoluteUri ≠ "" ∧ im.newUri uri.absoluteUri = .ok uri

theorem FollowsDocumentation.noRequestorClaim {im : IdentityModel} (h : FollowsDocumentation im) :
    Sts.NoRequestorClaim im :=
  fun cert validatedClaims hclaims => (h.plainClaims cert validatedClaims hclaims).no_requestor

/-! ## Who is issued a token -/

/-- The owner of the certificate is issued tokens for a relying party. -/
structure IsIssued (settings : TestSettings) (sts : Sts.Constants) (im : IdentityModel)
    (cert : X509Certificate2) (uri : Uri) : Prop where
  letIn : Returns (Sts.validateToken sts im (some (.x509 cert)))
  isUser : cert.thumbprint ≠ sts.stsServiceCertificate.thumbprint
  hasConnection : Sts.isNoConnection ⟨uri⟩ = false
  context : settings.anvenderContext.getD "" ≠ ""
  bppValue : sts.bppValue ≠ none
  baseAddress : sts.baseAddress ≠ ""

/-- The element has a token, and not a SAML 2.0 token without a name. -/
def NamesOnBehalfOf (onBehalfOf : Option SecurityTokenElement) : Prop :=
  ∀ element, onBehalfOf = some element →
    ∃ token, element.getSecurityToken = .ok token ∧ Sts.NamedIfSaml2 token

section Issued

variable {settings : TestSettings} {sts : Sts.Constants} {im : IdentityModel}
  {log : SoapMessageLog ClientRequest} {clock : Sts.IssueClock} {cert : X509Certificate2}
  {request : RequestSecurityToken} {token : Saml2SecurityToken} {uri : Uri}

/-- The service answers with a token exactly when it issues one. -/
theorem trust13Issue_eq_ok_iff :
    trust13Issue sts im clock cert request = .ok token ↔
      Sts.issueFor sts im clock cert request = .ok token := by
  unfold trust13Issue Sts.issueFor
  cases hvalid : Sts.validateToken sts im (some (.x509 cert)) with
  | error ex => simp
  | ok identities =>
      simp only [ok_bind]
      cases hissue : Sts.issue sts im clock ⟨identities⟩ request with
      | error ex => simp
      | ok issued => simp

theorem returns_trust13Issue_iff :
    Returns (trust13Issue sts im clock cert request) ↔
      Returns (Sts.issueFor sts im clock cert request) := by
  simp only [Returns, trust13Issue_eq_ok_iff]

/-- The only address of a request is that of its relying party. -/
theorem addressIsUri_of_appliesTo
    (huri : uri.absoluteUri ≠ "" ∧ im.newUri uri.absoluteUri = .ok uri)
    (happ : request.appliesTo = some ⟨uri⟩) : Sts.AddressIsUri im request := by
  intro appliesTo happ'
  obtain rfl := Option.some.inj (happ.symm.trans happ')
  exact huri

/-- A request that the service fills in is issued a token exactly when its
requestor is a user, it has a CVR claim, and so on. -/
theorem returns_issueFor_iff (hdoc : FollowsDocumentation im)
    (hfills : FillsIn sts im clock request) (happ : request.appliesTo = some ⟨uri⟩)
    (huri : uri.absoluteUri ≠ "" ∧ im.newUri uri.absoluteUri = .ok uri) :
    Returns (Sts.issueFor sts im clock cert request) ↔
      Returns (Sts.validateToken sts im (some (.x509 cert))) ∧
        cert.thumbprint ≠ sts.stsServiceCertificate.thumbprint ∧
        Sts.isNoConnection ⟨uri⟩ = false ∧ request.claims.getD [] ≠ [] ∧ sts.bppValue ≠ none ∧
        sts.baseAddress ≠ "" ∧ NamesOnBehalfOf request.onBehalfOf := by
  have haddress := addressIsUri_of_appliesTo huri happ
  have hname : ∀ identities, Sts.validateToken sts im (some (.x509 cert)) = .ok identities →
      claimsOfType ClaimTypes.nameIdentifier (ClaimsPrincipal.claims ⟨identities⟩) =
        [Sts.nameIdentifierClaim sts cert] := by
    intro identities hvalid
    obtain ⟨-, validatedClaims, hclaims, rfl⟩ := (Sts.validateToken_eq_ok_iff _ _ _ _).mp hvalid
    exact Sts.nameIdentifiers_of_clientIdentity
      (hdoc.plainClaims _ _ hclaims).nameIdentifier_le_one
  simp only [Sts.issueFor, returns_bind, Sts.returns_issue_iff hdoc.namesSubject
    hdoc.returnsOnIssuerName hdoc.computesLifetime haddress]
  constructor
  · intro h
    obtain ⟨identities, hvalid, hissuable⟩ := h
    have hreq := requestor_of_validateToken hdoc.noRequestorClaim hvalid
    obtain ⟨requestor, hrequestor, hne⟩ := hissuable.requestor
    obtain rfl := Option.some.inj (hreq.symm.trans hrequestor)
    obtain ⟨appliesTo, happ', hconn⟩ := hissuable.appliesTo
    obtain rfl := Option.some.inj (happ.symm.trans happ')
    exact ⟨⟨identities, hvalid⟩, hne, hconn, hissuable.claims, hissuable.bppValue,
      hissuable.issuerName, fun element helement => (hissuable.onBehalfOf element helement).2⟩
  · intro h
    obtain ⟨⟨identities, hvalid⟩, hne, hconn, hclaims, hbpp, hissuer, hobo⟩ := h
    have hreq := requestor_of_validateToken hdoc.noRequestorClaim hvalid
    refine ⟨identities, hvalid, {
      appliesTo := ⟨_, happ, hconn⟩
      lifetime := hfills.lifetime
      proof := hfills.proof
      requestor := ⟨_, hreq, hne⟩
      claims := hclaims
      bppValue := hbpp
      issuerName := hissuer
      nameIdentifier := ?_
      onBehalfOf := ?_ }⟩
    · rw [hname identities hvalid]
      have hvalue : (Sts.nameIdentifierClaim sts cert).value ≠ "" :=
        sts.getSubjectNameId_ne_empty cert
      exact ⟨Nat.le_refl _, by simpa using hvalue⟩
    · intro element helement
      rw [hname identities hvalid]
      exact ⟨List.cons_ne_nil _ _, hobo element helement⟩

/-- **The requests of the consumer.** One is issued a token exactly when its
sender is issued tokens, and the token it is on behalf of can be read and names
its owner. -/
theorem Deployed.returns_send_iff (h : Deployed settings sts im log)
    (hdoc : FollowsDocumentation im) {address : String} (haddress : im.newUri address = .ok uri)
    (onBehalfOf : Option SecurityTokenElement) :
    Returns (sendInAnvenderContext settings sts im log clock address onBehalfOf cert) ↔
      IsIssued settings sts im cert uri ∧ NamesOnBehalfOf onBehalfOf := by
  obtain ⟨request, happ, hobo, -, hclaims, hfills, hsent⟩ :=
    h.sent haddress clock onBehalfOf cert settings.anvenderContext
  have huri := hdoc.newUri_canonical _ _ haddress
  rw [sendInAnvenderContext, hsent, returns_trust13Issue_iff,
    returns_issueFor_iff hdoc hfills happ huri, hobo]
  constructor
  · intro hall
    obtain ⟨hvalid, hne, hconn, hcvr, hbpp, hbase, hnames⟩ := hall
    exact ⟨⟨hvalid, hne, hconn, mt hclaims.mpr hcvr, hbpp, hbase⟩, hnames⟩
  · intro hall
    obtain ⟨hissued, hnames⟩ := hall
    exact ⟨hissued.letIn, hissued.isUser, hissued.hasConnection, mt hclaims.mp hissued.context,
      hissued.bppValue, hissued.baseAddress, hnames⟩

/-- What the token was issued for. -/
theorem Deployed.issueFor_of_send (h : Deployed settings sts im log) {address : String}
    (haddress : im.newUri address = .ok uri) {onBehalfOf : Option SecurityTokenElement}
    (hsend : sendInAnvenderContext settings sts im log clock address onBehalfOf cert = .ok token) :
    ∃ request : RequestSecurityToken, request.appliesTo = some ⟨uri⟩ ∧
      request.onBehalfOf = onBehalfOf ∧ request.lifetime = none ∧
      Sts.issueFor sts im clock cert request = .ok token := by
  obtain ⟨request, happ, hobo, hlifetime, -, -, hsent⟩ :=
    h.sent haddress clock onBehalfOf cert settings.anvenderContext
  rw [sendInAnvenderContext, hsent, trust13Issue_eq_ok_iff] at hsend
  exact ⟨request, happ, hobo, hlifetime, hsend⟩

end Issued

/-! ## What is received -/

/-- The instants at which a test looks at the clock once its request is
answered. -/
structure Instants where
  received : DateTime
  asserted : DateTime
  validated : DateTime

section Received

variable {sts : Sts.Constants} {im : IdentityModel} {transport : TokenTransport}
  {clock : Sts.IssueClock} {cert : X509Certificate2} {request : RequestSecurityToken}
  {token : Saml2SecurityToken} {uri : Uri}

/-- An issued token is received as one with the same subject. -/
theorem tokenXml_received (hreads : transport.ReadsWhatIsSent)
    (h : Sts.issueFor sts im clock cert request = .ok token) (utcNow : DateTime) :
    ∃ issuerToken, (transport.received utcNow token).tokenXml =
      .saml2 ⟨token.assertion.onWire, issuerToken⟩ := by
  simp only [Sts.issueFor, bind_eq_ok, Sts.issue_eq_ok_iff] at h
  obtain ⟨identities, -, ⟨made⟩⟩ := h
  obtain ⟨subject, hsubject, -⟩ := made.createdFrom.exists_subject
  exact hreads.tokenXml_eq utcNow token (by rw [hsubject]; exact Option.some_ne_none subject)

/-- A token is valid from the instant at which its lifetime was computed. -/
theorem validFrom_received (hdoc : FollowsDocumentation im) (hreads : transport.ReadsWhatIsSent)
    (huri : uri.absoluteUri ≠ "" ∧ im.newUri uri.absoluteUri = .ok uri)
    (happ : request.appliesTo = some ⟨uri⟩) (hlifetime : request.lifetime = none)
    (h : Sts.issueFor sts im clock cert request = .ok token) (utcNow : DateTime) :
    (transport.received utcNow token).validFrom = clock.tokenLifetime.onWire := by
  simp only [Sts.issueFor, bind_eq_ok, Sts.issue_eq_ok_iff] at h
  obtain ⟨identities, -, ⟨made⟩⟩ := h
  have hrelying : made.appliesTo = ⟨uri⟩ := Option.some.inj (made.appliesTo_eq.symm.trans happ)
  have haddress : made.appliesTo.uri.absoluteUri ≠ "" ∧
      im.newUri made.appliesTo.uri.absoluteUri = .ok made.appliesTo.uri := by
    rw [hrelying]
    exact huri
  have hcreated := hdoc.computesLifetime.eq_of_ok _ _ _ _ made.lifetime_eq
  rw [hreads.validFrom_eq, made.conditions_eq hdoc.copiesConditions haddress, hcreated, hlifetime]
  rfl

/-- What the check of a received token amounts to. -/
theorem returns_validateIssuedToken_received_iff (hdoc : FollowsDocumentation im)
    (hreads : transport.ReadsWhatIsSent)
    (huri : uri.absoluteUri ≠ "" ∧ im.newUri uri.absoluteUri = .ok uri)
    (happ : request.appliesTo = some ⟨uri⟩) (hlifetime : request.lifetime = none)
    (h : Sts.issueFor sts im clock cert request = .ok token) (utcNow validated : DateTime) :
    Returns (validateIssuedToken validated (some (transport.received utcNow token))
        uri.absoluteUri [specVerAttribute]) ↔
      validated - clock.tokenLifetime.onWire < TimeSpan.fromMinutes 1 ∧
        NamesX509Subject request := by
  obtain ⟨issuerToken, hxml⟩ := tokenXml_received hreads h utcNow
  have hreceived : transport.received utcNow token =
      ⟨clock.tokenLifetime.onWire, .saml2 ⟨token.assertion.onWire, issuerToken⟩⟩ := by
    rw [← validFrom_received hdoc hreads huri happ hlifetime h utcNow, ← hxml]
  rw [hreceived, validateIssuedToken_onWire]
  exact validateIssuedToken_iff hdoc.namesSubject hdoc.statesAttributes
    hdoc.statesAttributesFirst hdoc.noRequestorClaim h happ validated clock.tokenLifetime.onWire

end Received

/-! ## The tests -/

/-- The settings of these tests. -/
structure OnBehalfOfSettings extends TestSettings where
  aValidOnBehalfOfCertificate : X509Certificate2
  bootstraptokenServiceBaseAddress : String

section Tests

variable (settings : OnBehalfOfSettings) (sts : Sts.Constants) (im : IdentityModel)
  (log : SoapMessageLog ClientRequest) (transport : TokenTransport)

/-- `SendRstWithProxyOnBehalfOfSuccessfully`. -/
def sendRstWithProxyOnBehalfOf (clock : Sts.IssueClock) (instants : Instants) :
    Except ClientException Unit := do
  let originalTokenElement : SecurityTokenElement :=
    ⟨.ok (.x509 settings.aValidOnBehalfOfCertificate)⟩
  let token ← sendInAnvenderContext settings.toTestSettings sts im log clock
    settings.serviceAddressUri.absoluteUri (some originalTokenElement) settings.clientCertificate
  let token := transport.received instants.received token
  (assertTrue (instants.asserted - token.validFrom < TimeSpan.fromMinutes 1)).mapError .thrown
  (validateIssuedToken instants.validated (some token) settings.serviceAddressUri.absoluteUri
    [specVerAttribute]).mapError .thrown

/-- `GenerateBootstrapToken`, with the instant at which the token is received. -/
def generateBootstrapToken (clock : Sts.IssueClock) (received : DateTime) :
    Except ClientException GenericXmlSecurityToken := do
  let token ← sendInAnvenderContext settings.toTestSettings sts im log clock
    settings.bootstraptokenServiceBaseAddress none settings.aValidOnBehalfOfCertificate
  pure (transport.received received token)

/-- `SendRstWithNormalOnBehalfOfSuccessfully`. -/
def sendRstWithNormalOnBehalfOf (bootstrapClock : Sts.IssueClock) (bootstrapReceived : DateTime)
    (clock : Sts.IssueClock) (instants : Instants) : Except ClientException Unit := do
  let originalToken ←
    generateBootstrapToken settings sts im log transport bootstrapClock bootstrapReceived
  let token ← sendInAnvenderContext settings.toTestSettings sts im log clock
    settings.serviceAddressUri.absoluteUri (some (transport.elementOf originalToken))
    settings.clientCertificate
  let token := transport.received instants.received token
  (validateIssuedToken instants.validated (some token) settings.serviceAddressUri.absoluteUri
    [specVerAttribute]).mapError .thrown

variable {settings sts im log transport}

theorem returns_mapError_iff {α : Type} {x : Except Exception α} :
    Returns (x.mapError ClientException.thrown) ↔ Returns x := by
  cases x with
  | error ex => simp [Except.mapError]
  | ok a => simp [Except.mapError]

theorem returns_assertTrue_iff {condition : Bool} :
    Returns (assertTrue condition) ↔ condition = true := by
  rw [assertTrue, Returns]
  simp only [ensure_eq_ok, exists_const]

/-- What a token that was sent is found to be. -/
theorem Deployed.received_of_send (h : Deployed settings.toTestSettings sts im log)
    (hdoc : FollowsDocumentation im) (hreads : transport.ReadsWhatIsSent)
    {clock : Sts.IssueClock} {cert : X509Certificate2} {address : String} {uri : Uri}
    (haddress : im.newUri address = .ok uri) {onBehalfOf : Option SecurityTokenElement}
    {token : Saml2SecurityToken}
    (hsend : sendInAnvenderContext settings.toTestSettings sts im log clock address onBehalfOf
      cert = .ok token) :
    ∃ request : RequestSecurityToken, request.onBehalfOf = onBehalfOf ∧
      (token.nameId.bind (·.format) = some Sts.x509SubjectNameUri ↔ NamesX509Subject request) ∧
      ∀ utcNow, (transport.received utcNow token).validFrom = clock.tokenLifetime.onWire ∧
        ∀ validated, Returns (validateIssuedToken validated
            (some (transport.received utcNow token)) uri.absoluteUri [specVerAttribute]) ↔
          validated - clock.tokenLifetime.onWire < TimeSpan.fromMinutes 1 ∧
            NamesX509Subject request := by
  have huri := hdoc.newUri_canonical _ _ haddress
  obtain ⟨request, happ, hobo, hlifetime, hissue⟩ := h.issueFor_of_send haddress hsend
  refine ⟨request, hobo, ?_, fun utcNow => ⟨?_, fun validated => ?_⟩⟩
  · exact format_of_issueFor_iff hdoc.namesSubject hdoc.statesAttributes hdoc.noRequestorClaim
      hissue
  · exact validFrom_received hdoc hreads huri happ hlifetime hissue utcNow
  · exact returns_validateIssuedToken_received_iff hdoc hreads huri happ hlifetime hissue utcNow
      validated

/-- The test with the certificate passes exactly when the client is issued tokens
for the service, and the token is looked at within a minute, both times. -/
theorem sendRstWithProxyOnBehalfOf_iff (h : Deployed settings.toTestSettings sts im log)
    (hdoc : FollowsDocumentation im) (hreads : transport.ReadsWhatIsSent)
    (clock : Sts.IssueClock) (instants : Instants) :
    Returns (sendRstWithProxyOnBehalfOf settings sts im log transport clock instants) ↔
      IsIssued settings.toTestSettings sts im settings.clientCertificate
          settings.serviceAddressUri ∧
        instants.asserted - clock.tokenLifetime.onWire < TimeSpan.fromMinutes 1 ∧
        instants.validated - clock.tokenLifetime.onWire < TimeSpan.fromMinutes 1 := by
  have hnamed : NamesOnBehalfOf (some ⟨.ok (.x509 settings.aValidOnBehalfOfCertificate)⟩) := by
    intro element helement
    obtain rfl := Option.some.inj helement
    exact ⟨_, rfl, trivial⟩
  refine (returns_bind_iff_and fun token hsend => ?_).trans
    (and_congr_left' ((h.returns_send_iff hdoc h.newUri_service _).trans (and_iff_left hnamed)))
  obtain ⟨request, hobo, -, hreceived⟩ := h.received_of_send hdoc hreads h.newUri_service hsend
  obtain ⟨hfrom, hcheck⟩ := hreceived instants.received
  have hformat : NamesX509Subject request := by
    intro element helement onBehalfOf hget
    rw [hobo] at helement
    obtain rfl := Option.some.inj helement
    simp at hget
  refine (returns_bind_iff_and fun _ _ => ?_).trans (and_congr_left' ?_)
  · rw [returns_mapError_iff, hcheck, and_iff_left hformat]
  · rw [returns_mapError_iff, returns_assertTrue_iff, hfrom, decide_eq_true_iff]

/-- The element with an issued token reads as a token with the same subject. -/
theorem getSecurityToken_elementOf (hreads : transport.ReadsWhatIsSent) {clock : Sts.IssueClock}
    {cert : X509Certificate2} {request : RequestSecurityToken} {token : Saml2SecurityToken}
    (hissue : Sts.issueFor sts im clock cert request = .ok token) (utcNow : DateTime) :
    ∃ onBehalfOf, (transport.elementOf (transport.received utcNow token)).getSecurityToken =
        .ok (.saml2 onBehalfOf) ∧ onBehalfOf.nameId = token.nameId := by
  obtain ⟨_, hxml⟩ := tokenXml_received hreads hissue utcNow
  obtain ⟨issuerToken, hget⟩ := hreads.getSecurityToken_eq _ _ hxml
  exact ⟨_, hget, Saml2SecurityToken.nameId_of_onWire rfl⟩

/-- A token of a requestor who asks for itself names its owner. -/
theorem namesOnBehalfOf_elementOf (hdoc : FollowsDocumentation im)
    (hreads : transport.ReadsWhatIsSent) {clock : Sts.IssueClock} {cert : X509Certificate2}
    {request : RequestSecurityToken} {token : Saml2SecurityToken}
    (hissue : Sts.issueFor sts im clock cert request = .ok token) (utcNow : DateTime) :
    NamesOnBehalfOf (some (transport.elementOf (transport.received utcNow token))) := by
  obtain ⟨route, -, -, hname, -⟩ := Sts.attests_route hdoc.namesSubject hdoc.statesAttributes
    hdoc.noRequestorClaim hissue
  have hnamed : token.nameId ≠ none := by
    intro hnone
    rw [hnone] at hname
    simp at hname
  obtain ⟨onBehalfOf, hget, hsame⟩ := getSecurityToken_elementOf hreads hissue utcNow
  intro element helement
  obtain rfl := Option.some.inj helement
  exact ⟨_, hget, Sts.namedIfSaml2_saml2_iff.mpr (by rwa [hsame])⟩

/-- The test with the token passes exactly when the owner of the other
certificate is issued tokens for the address of the bootstrap token, the client
is for the service, and the second token is looked at within a minute. -/
theorem sendRstWithNormalOnBehalfOf_iff (h : Deployed settings.toTestSettings sts im log)
    (hdoc : FollowsDocumentation im) (hreads : transport.ReadsWhatIsSent) {bootstrapUri : Uri}
    (hbootstrap : im.newUri settings.bootstraptokenServiceBaseAddress = .ok bootstrapUri)
    (bootstrapClock : Sts.IssueClock) (bootstrapReceived : DateTime) (clock : Sts.IssueClock)
    (instants : Instants) :
    Returns (sendRstWithNormalOnBehalfOf settings sts im log transport bootstrapClock
        bootstrapReceived clock instants) ↔
      IsIssued settings.toTestSettings sts im settings.aValidOnBehalfOfCertificate bootstrapUri ∧
        IsIssued settings.toTestSettings sts im settings.clientCertificate
          settings.serviceAddressUri ∧
        instants.validated - clock.tokenLifetime.onWire < TimeSpan.fromMinutes 1 := by
  have hnone : NamesOnBehalfOf none := by
    intro element helement
    simp at helement
  have hsent : Returns (generateBootstrapToken settings sts im log transport bootstrapClock
      bootstrapReceived) ↔ IsIssued settings.toTestSettings sts im
        settings.aValidOnBehalfOfCertificate bootstrapUri := by
    refine (returns_bind_iff_and fun _ _ => iff_true_intro (returns_ok _)).trans ?_
    rw [and_true, h.returns_send_iff hdoc hbootstrap none, and_iff_left hnone]
  refine (returns_bind_iff_and fun receivedToken hbootstrapped => ?_).trans (and_congr_left' hsent)
  obtain ⟨originalToken, horiginal, hpure⟩ := bind_eq_ok.mp hbootstrapped
  obtain rfl := Except.ok.inj hpure
  obtain ⟨_, -, -, -, hissue⟩ := h.issueFor_of_send hbootstrap horiginal
  obtain ⟨first, hself, hsubject, -⟩ := h.received_of_send hdoc hreads hbootstrap horiginal
  obtain ⟨onBehalfOf, hread, hsame⟩ :=
    getSecurityToken_elementOf hreads hissue bootstrapReceived
  have hnamed := namesOnBehalfOf_elementOf hdoc hreads hissue bootstrapReceived
  refine (returns_bind_iff_and fun token hsend => ?_).trans
    (and_congr_left' ((h.returns_send_iff hdoc h.newUri_service _).trans (and_iff_left hnamed)))
  obtain ⟨request, hobo, -, hreceived⟩ := h.received_of_send hdoc hreads h.newUri_service hsend
  have hformat : NamesX509Subject request := by
    intro element helement onBehalfOf' hget
    rw [hobo] at helement
    obtain rfl := Option.some.inj helement
    rw [hread] at hget
    obtain rfl := SecurityToken.saml2.inj (Except.ok.inj hget)
    rw [hsame]
    refine hsubject.mpr fun element helement => ?_
    rw [hself] at helement
    simp at helement
  rw [returns_mapError_iff, (hreceived instants.received).2, and_iff_left hformat]

end Tests

/-! ### Against the sample service -/

/-- The settings of the tests, with the certificates of the sample service. -/
def sampleOnBehalfOfSettings : OnBehalfOfSettings :=
  { sampleTestSettings with
    aValidOnBehalfOfCertificate := Sts.sampleConstants.aValidOnBehalfOfCertificate
    bootstraptokenServiceBaseAddress :=
      "https://service.projekt-stoettesystemerne.dk/kombit/service" }

theorem followsDocumentation_documented : FollowsDocumentation Documented.identityModel where
  namesSubject := Documented.namesSubject
  statesAttributes := Documented.statesAttributes
  statesAttributesFirst := statesAttributesFirst_documented
  returnsOnIssuerName := Documented.returnsOnIssuerName
  copiesConditions := Documented.copiesConditions
  computesLifetime := Documented.computesLifetime
  plainClaims _ _ hclaims := Sts.plainClaims_documented hclaims
  newUri_canonical text uri h := by
    change Documented.newUri text = .ok uri at h
    change _ ∧ Documented.newUri uri.absoluteUri = .ok uri
    unfold Documented.newUri at h ⊢
    split at h
    · next hcontains =>
        obtain rfl := Except.ok.inj h
        refine ⟨?_, by rw [if_pos hcontains]⟩
        rintro hempty
        rw [show text = "" from hempty] at hcontains
        exact absurd hcontains (by decide)
    · simp at h

/-- A channel that reads what is sent. -/
def sampleTransport : TokenTransport where
  received utcNow token :=
    { validFrom := ((token.assertion.conditions.bind (·.notBefore)).map (·.onWire)).getD utcNow
      tokenXml := .saml2 ⟨token.assertion.onWire, none⟩ }
  elementOf token := ⟨.ok token.tokenXml⟩

theorem readsWhatIsSent_sample : sampleTransport.ReadsWhatIsSent where
  validFrom_eq _ _ := rfl
  tokenXml_eq _ _ _ := ⟨none, rfl⟩
  getSecurityToken_eq _ saml2Token h := ⟨saml2Token.issuerToken, congrArg Except.ok h⟩

theorem sendRstWithProxyOnBehalfOf_sample :
    Returns (sendRstWithProxyOnBehalfOf sampleOnBehalfOfSettings Sts.sampleConstants
      Documented.identityModel anyRequestLog sampleTransport ⟨0, 0, 0⟩ ⟨0, 0, 0⟩) :=
  (sendRstWithProxyOnBehalfOf_iff deployed_sample followsDocumentation_documented
    readsWhatIsSent_sample _ _).mpr
      ⟨⟨by decide, by decide, by decide, by decide, by decide, by decide⟩, by decide, by decide⟩

/-- A minute later, counted from the millisecond, the second token is too old. -/
theorem sendRstWithNormalOnBehalfOf_sample :
    Returns (sendRstWithNormalOnBehalfOf sampleOnBehalfOfSettings Sts.sampleConstants
      Documented.identityModel anyRequestLog sampleTransport ⟨0, 0, 0⟩ 0
      ⟨12345, 12345, 12345⟩ ⟨0, 0, 600009999⟩) ∧
    ¬ Returns (sendRstWithNormalOnBehalfOf sampleOnBehalfOfSettings Sts.sampleConstants
      Documented.identityModel anyRequestLog sampleTransport ⟨0, 0, 0⟩ 0
      ⟨12345, 12345, 12345⟩ ⟨0, 0, 600010000⟩) := by
  have hbootstrap : Documented.identityModel.newUri
      sampleOnBehalfOfSettings.bootstraptokenServiceBaseAddress =
        .ok sampleOnBehalfOfSettings.serviceAddressUri := by decide
  have hiff := sendRstWithNormalOnBehalfOf_iff deployed_sample followsDocumentation_documented
    readsWhatIsSent_sample hbootstrap ⟨0, 0, 0⟩ 0 ⟨12345, 12345, 12345⟩
  rw [hiff, hiff]
  refine ⟨⟨⟨by decide, by decide, by decide, by decide, by decide, by decide⟩,
    ⟨by decide, by decide, by decide, by decide, by decide, by decide⟩, by decide⟩, ?_⟩
  rintro ⟨-, -, hlate⟩
  exact absurd hlate (by decide)

end KombitSamples.Consumer
