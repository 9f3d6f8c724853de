import KombitSamples.Consumer.OnBehalfOfTests
import KombitSamples.Federation

/-!
# KombitSamples.Consumer.ServiceTests

The consumer's test of all three programs: it has a token issued, checks it, calls
the service with it and checks the reply.

* `callService_eq_ok_iff`, `ServiceChannel.ping_of_log` — the channel to the
  service, which logs what it sends and receives;
* `returns_serve_issued_iff` — which calls with a token that the consumer was
  issued are served;
* `sendRstAndThenExecuteService_iff` — the deployments in which the test passes.
-/

namespace KombitSamples.Consumer

open Fallible Saml2SecurityTokenHandler

/-! ## The channel to the service -/

/-- What goes through the channel. -/
inductive ServiceMessage where
  | request (call : Federation.Call)
  | reply (reply : Service.Reply)

structure LogServiceMessageClientMessageInspector where
  receivedSoapMessageLogFile : String

namespace LogServiceMessageClientMessageInspector

/-- The constructor, with the setting `SoapMessageLogLocation`. -/
def create (soapMessageLogLocation : Option String) : LogServiceMessageClientMessageInspector where
  receivedSoapMessageLogFile := soapMessageLogLocation.getD "c:\\Temp\\"

/-- Where requests are logged. -/
def requestPath (inspector : LogServiceMessageClientMessageInspector) : String :=
  inspector.receivedSoapMessageLogFile ++ "kombit.Consumer.SentRequestToService.xml"

/-- Where replies are logged. -/
def replyPath (inspector : LogServiceMessageClientMessageInspector) : String :=
  inspector.receivedSoapMessageLogFile ++ "Kombit.Consumer.ReceivedResponseFromService.xml"

/-- `BeforeSendRequest`. -/
def beforeSendRequest (log : SoapMessageLog ServiceMessage)
    (inspector : LogServiceMessageClientMessageInspector) (call : Federation.Call) :
    Except Exception Unit :=
  log.writeAllText inspector.requestPath (log.toText (.request call))

/-- `AfterReceiveReply`. -/
def afterReceiveReply (log : SoapMessageLog ServiceMessage)
    (inspector : LogServiceMessageClientMessageInspector) (reply : Service.Reply) :
    Except Exception Unit :=
  log.writeAllText inspector.replyPath (log.toText (.reply reply))

end LogServiceMessageClientMessageInspector

/-- The settings of the test. -/
structure ServiceSettings extends TestSettings where
  serviceServiceEndpointIdentity : String
  serviceServiceCertificate : X509Certificate2
  bppValue : String

/-- The credentials of the channel to the service. -/
structure ServiceCredentials where
  supportInteractive : Bool
  useIdentityConfiguration : Bool
  scopedCertificates : List (Uri × X509Certificate2)
  certificateValidationMode : X509CertificateValidationMode
  revocationMode : X509RevocationMode

structure ServiceChannel where
  address : EndpointAddress
  credentials : ServiceCredentials
  protectionLevel : ProtectionLevel
  messageInspectors : List LogServiceMessageClientMessageInspector
  token : GenericXmlSecurityToken

/-- `GenerateServiceChannel`. -/
def generateServiceChannel (settings : ServiceSettings) (token : GenericXmlSecurityToken) :
    ServiceChannel where
  address := ⟨settings.serviceAddressUri, settings.serviceServiceEndpointIdentity⟩
  credentials := {
    supportInteractive := false
    useIdentityConfiguration := true
    scopedCertificates := [(settings.serviceAddressUri, settings.serviceServiceCertificate)]
    certificateValidationMode := .none
    revocationMode := .noCheck }
  protectionLevel := .sign
  messageInspectors :=
    if settings.enableSoapMessageLog then [.create settings.soapMessageLogLocation] else []
  token := token

/-- The code of the fault that the service answers an exception with. -/
def serviceFaultCodeOf : Exception → String
  | .fault _ code => code
  | _ => "InternalServiceFault"

section Channel

variable {programs : Federation.Settings} {im : IdentityModel} {call : Federation.Call}

/-- The service on a call, as the caller sees it. -/
def callService (programs : Federation.Settings) (im : IdentityModel) (call : Federation.Call) :
    Except ClientException Service.Reply :=
  match Service.validateToken programs.service im programs.configuration call.now
      (.saml2 (Service.readToken im call.assertion)) with
  | .error _ => .error .messageSecurityException
  | .ok identity =>
      match Service.ping programs.responseMessage programs.contracts
          ⟨some ⟨[identity]⟩, call.messageId⟩ call.request with
      | .error ex => .error (.faultException ex.message (serviceFaultCodeOf ex))
      | .ok reply => .ok reply

theorem callService_eq_ok_iff {reply : Service.Reply} :
    callService programs im call = .ok reply ↔ Federation.serve programs im call = .ok reply := by
  unfold callService Federation.serve
  cases hvalid : Service.validateToken programs.service im programs.configuration call.now
      (.saml2 (Service.readToken im call.assertion)) with
  | error ex => simp
  | ok identity =>
      simp only [ok_bind]
      cases hping : Service.ping programs.responseMessage programs.contracts
          ⟨some ⟨[identity]⟩, call.messageId⟩ call.request with
      | error ex => simp
      | ok reply => simp

/-- A call of `Ping` through the channel, which sends the XML of its token.  The
service takes nothing but a SAML 2.0 assertion. -/
def ServiceChannel.ping (programs : Federation.Settings) (im : IdentityModel)
    (log : SoapMessageLog ServiceMessage) (channel : ServiceChannel) (now : DateTime)
    (messageId : Option Service.UniqueId) (request : Service.Ping) :
    Except ClientException Service.Reply := do
  let assertion ← match channel.token.tokenXml with
    | .saml2 token => .ok token.assertion
    | _ => .error .messageSecurityException
  let call : Federation.Call := ⟨assertion, now, messageId, request⟩
  (channel.messageInspectors.forM (·.beforeSendRequest log call)).mapError .thrown
  let reply ← callService programs im call
  (channel.messageInspectors.forM (·.afterReceiveReply log reply)).mapError .thrown
  pure reply

/-- Logging, where it is possible, does not show. -/
theorem ServiceChannel.ping_of_log (programs : Federation.Settings) (im : IdentityModel)
    {log : SoapMessageLog ServiceMessage}
    (hlog : ∀ path text, log.writeAllText path text = .ok ()) (channel : ServiceChannel)
    {token : Saml2SecurityToken} (hxml : channel.token.tokenXml = .saml2 token) (now : DateTime)
    (messageId : Option Service.UniqueId) (request : Service.Ping) :
    channel.ping programs im log now messageId request =
      callService programs im ⟨token.assertion, now, messageId, request⟩ := by
  have hforM (write : LogServiceMessageClientMessageInspector → Except Exception Unit)
      (hwrite : ∀ inspector, write inspector = .ok ()) :
      (channel.messageInspectors.forM write).mapError ClientException.thrown = .ok () := by
    induction channel.messageInspectors with
    | nil => rfl
    | cons inspector inspectors ih =>
        rw [List.forM, hwrite, ok_bind]
        exact ih
  have hsent := hforM (fun inspector => inspector.beforeSendRequest log
    ⟨token.assertion, now, messageId, request⟩) fun inspector => hlog _ _
  simp only [ServiceChannel.ping, hxml, ok_bind, hsent]
  cases hcall : callService programs im ⟨token.assertion, now, messageId, request⟩ with
  | error ex => rfl
  | ok reply =>
      have hreceived := hforM (fun inspector => inspector.afterReceiveReply log reply)
        fun inspector => hlog _ _
      rw [ok_bind, hreceived]
      rfl

end Channel

/-! ## Which calls are served -/

/-- The deployment of the service, and the instant of the call, let a token in
that was issued for the consumer's service. -/
structure AcceptsIssued (serviceAddressUri : Uri) (programs : Federation.Settings)
    (im : IdentityModel) (clock : Sts.IssueClock) (now : DateTime) : Prop where
  signer : programs.sts.signingCertificate.thumbprint =
    programs.service.stsSigningCertificate.thumbprint
  not_early : clock.tokenLifetime.onWire ≤ now + programs.configuration.maxClockSkew
  not_late : now - programs.configuration.maxClockSkew <
    clock.tokenLifetime.onWire + TimeSpan.fromMinutes 10
  audience : ∃ address, Service.IsServiceAddress programs.service im address ∧
    address.equals serviceAddressUri.leftPart = true

/-- The service answers a request with the framework header of the consumer, for
the privileges that the token service is configured with. -/
structure AnswersPing (programs : Federation.Settings) : Prop where
  profile : programs.contracts.newFramework.profile = some Service.basicProfile
  privileges : ∀ bppValue, programs.sts.bppValue = some bppValue →
    ∃ groups, programs.contracts.parse bppValue = .ok groups ∧
      Returns (programs.contracts.toJsonString groups)

section Served

variable {programs : Federation.Settings} {im : IdentityModel} {clock : Sts.IssueClock}
  {cert : X509Certificate2} {request : RequestSecurityToken} {token : Saml2SecurityToken}
  {uri : Uri}

/-- The conditions of a token that was issued without a requested lifetime are met for
ten minutes, give or take the clock skew, at the relying party. -/
theorem returns_validateConditions_tenMinutes_iff (hdoc : FollowsDocumentation im)
    (hchecks : im.saml2.ChecksByConfiguration) {principal : ClaimsPrincipal}
    (made : Sts.IssuedFrom programs.sts im clock principal request token)
    (huri : uri.absoluteUri ≠ "" ∧ im.newUri uri.absoluteUri = .ok uri)
    (happ : request.appliesTo = some ⟨uri⟩) (hlifetime : request.lifetime = none)
    (hallowed : ∀ address, address ∈ programs.configuration.allowedAudienceUris ↔
      Service.IsServiceAddress programs.service im address)
    (hmode : programs.configuration.audienceMode = .always) (now : DateTime) :
    Returns (im.saml2.validateConditions programs.configuration now
        token.assertion.onWire.conditions) ↔
      clock.tokenLifetime.onWire ≤ now + programs.configuration.maxClockSkew ∧
        now - programs.configuration.maxClockSkew <
          clock.tokenLifetime.onWire + TimeSpan.fromMinutes 10 ∧
        ∃ address, Service.IsServiceAddress programs.service im address ∧
          address.equals uri.leftPart = true := by
  have hrelying : made.appliesTo = ⟨uri⟩ := Option.some.inj (made.appliesTo_eq.symm.trans happ)
  have hlife := hdoc.computesLifetime.eq_of_ok _ _ _ _ made.lifetime_eq
  have hconditions := made.conditions_eq hdoc.copiesConditions (by rw [hrelying]; exact huri)
  rw [hlife, hlifetime, hrelying] at hconditions
  rw [Saml2Assertion.conditions_onWire, hconditions, Option.map_some,
    hchecks.returns_validateConditions_iff _ _ _ hmode, ← DateTime.onWire_add_fromMinutes]
  simp only [InConditionsWindow, Saml2Conditions.onWire, SecurityTokenService.createdOf,
    SecurityTokenService.expiresOf, Option.bind_none, Option.getD_none, Option.map_some,
    Option.some.injEq, forall_eq', ne_eq, List.cons_ne_nil, not_false_eq_true, List.mem_singleton,
    forall_eq, exists_eq_left, hallowed, true_and, and_assoc]
  rfl

/-- A token that was issued without a requested lifetime is let in for ten
minutes, give or take the clock skew. -/
theorem returns_validateToken_issued_iff (hdoc : FollowsDocumentation im)
    (hchecks : im.saml2.ChecksByConfiguration) (hresolves : im.ResolvesSigner)
    {idConfig : SecurityTokenHandlerConfiguration} (hnone : Service.NoAudienceSettings idConfig)
    (hhost : Service.createServiceHost programs.service im idConfig = .ok programs.configuration)
    (huri : uri.absoluteUri ≠ "" ∧ im.newUri uri.absoluteUri = .ok uri)
    (happ : request.appliesTo = some ⟨uri⟩) (hlifetime : request.lifetime = none)
    (h : Sts.issueFor programs.sts im clock cert request = .ok token) (now : DateTime) :
    Returns (Service.validateToken programs.service im programs.configuration now
        (.saml2 (Service.readToken im token.assertion.onWire))) ↔
      AcceptsIssued uri programs im clock now := by
  obtain ⟨hallowed, htrusted, hmode⟩ := Service.of_createServiceHost hnone hhost
  simp only [Sts.issueFor, bind_eq_ok, Sts.issue_eq_ok_iff] at h
  obtain ⟨identities, -, ⟨made⟩⟩ := h
  have hsigner : (Service.readToken im token.assertion.onWire).issuerToken =
      some (.x509 programs.sts.signingCertificate) :=
    Service.issuerToken_readToken hdoc.returnsOnIssuerName hresolves made rfl
  have hvalid := returns_validateConditions_tenMinutes_iff hdoc hchecks made huri happ hlifetime
    hallowed hmode now
  rw [Service.returns_validateToken_iff_checks]
  constructor
  · intro hlet
    obtain ⟨_, ⟨⟩, ⟨certificate, hcertificate, hthumb⟩, _, _, _, -, hmet, -⟩ := hlet
    rw [hsigner] at hcertificate
    obtain rfl := IssuerToken.x509.inj (Option.some.inj hcertificate)
    obtain ⟨hearly, hlate, haudience⟩ := hvalid.mp hmet
    exact ⟨hthumb, hearly, hlate, haudience⟩
  · intro haccepts
    obtain ⟨subject, hsubject, hconfirmations⟩ := made.createdFrom.exists_subject
    have hread : token.assertion.onWire.subject = some subject.onWire := by
      rw [Saml2Assertion.subject_onWire, hsubject, Option.map_some]
    have hconfirmed : subject.onWire.subjectConfirmations ≠ [] := by
      simpa using hconfirmations
    have hmet := hvalid.mpr ⟨haccepts.not_early, haccepts.not_late, haccepts.audience⟩
    have htrust : Returns (im.saml2.validateIssuer programs.configuration now
        (.x509 programs.sts.signingCertificate) token.assertion.issuer) := by
      rw [hchecks.returns_validateIssuer_iff, htrusted, haccepts.signer]
      simp
    obtain ⟨issuer, hissuer⟩ := htrust
    have hclaims := hchecks.returns_createClaims issuer subject.nameId token.assertion.statements
    exact ⟨_, rfl, ⟨_, hsigner, haccepts.signer⟩, _, subject.onWire, issuer, hsigner, hmet, hread,
      hconfirmed, hissuer, hclaims⟩

/-- The operation returns for a caller with the one privilege claim. -/
theorem returns_ping_of_privileges_iff {identity : ClaimsIdentity} {bppValue : String}
    (hclaims : (claimsOfType Service.bppClaimType identity.claims).map (·.value) = [bppValue])
    (messageId : Option Service.UniqueId) (request : Service.Ping) :
    Returns (Service.ping programs.responseMessage programs.contracts
        ⟨some ⟨[identity]⟩, messageId⟩ request) ↔
      (∃ framework, request.framework = some framework ∧
        framework.profile = some Service.basicProfile) ∧
      ∃ groups, programs.contracts.parse bppValue = .ok groups ∧
        Returns (programs.contracts.toJsonString groups) := by
  obtain ⟨bpp, hcons, rfl⟩ := List.map_eq_singleton_iff.mp hclaims
  have hbpp : firstClaim Service.bppClaimType identity.claims = some bpp := by
    rw [firstClaim_eq_head?, hcons]
    rfl
  have hcontext : (∃ principal identity', some (⟨[identity]⟩ : ClaimsPrincipal) = some principal ∧
      principal.identity = some identity' ∧
      ∀ bpp, firstClaim Service.bppClaimType identity'.claims = some bpp →
        ∃ groups, programs.contracts.parse bpp.value = .ok groups ∧
          Returns (programs.contracts.toJsonString groups)) ↔
      ∃ groups, programs.contracts.parse bpp.value = .ok groups ∧
        Returns (programs.contracts.toJsonString groups) := by
    simp [ClaimsPrincipal.identity, hbpp]
  rw [← hcontext]
  constructor
  · intro h
    obtain ⟨reply, hreply⟩ := h
    have haccepted : Service.Accepted programs.contracts
      ⟨⟨some ⟨[identity]⟩, messageId⟩, request⟩ := Service.accepted_of_ping hreply
    exact ⟨haccepted.framework, haccepted.identity⟩
  · intro h
    have haccepted : Service.Accepted programs.contracts
      ⟨⟨some ⟨[identity]⟩, messageId⟩, request⟩ := ⟨h.1, h.2⟩
    obtain ⟨response, hping⟩ := Service.ping_of_accepted programs.responseMessage haccepted
    exact ⟨_, hping⟩

/-- A call with the consumer's framework header and a token that
was issued for its service is served exactly when the token is let in and the
privileges can be read. -/
theorem returns_serve_issued_iff (hdoc : FollowsDocumentation im)
    (hchecks : im.saml2.ChecksByConfiguration) (hresolves : im.ResolvesSigner)
    (hcreates : Federation.CreatesClaims im.saml2)
    {idConfig : SecurityTokenHandlerConfiguration} (hnone : Service.NoAudienceSettings idConfig)
    (hhost : Service.createServiceHost programs.service im idConfig = .ok programs.configuration)
    (huri : uri.absoluteUri ≠ "" ∧ im.newUri uri.absoluteUri = .ok uri)
    (happ : request.appliesTo = some ⟨uri⟩) (hlifetime : request.lifetime = none)
    (h : Sts.issueFor programs.sts im clock cert request = .ok token) (now : DateTime)
    (messageId : Option Service.UniqueId) (messageToPing : Option String) :
    Returns (Federation.serve programs im ⟨token.assertion.onWire, now, messageId,
        ⟨some programs.contracts.newFramework, messageToPing⟩⟩) ↔
      AcceptsIssued uri programs im clock now ∧ AnswersPing programs := by
  have haddress := addressIsUri_of_appliesTo huri happ
  have hsound : Federation.Issuance.Sound programs im ⟨cert, request, clock, token⟩ :=
    ⟨h, haddress⟩
  obtain ⟨bppValue, hbpp, hvalues⟩ := hsound.privileges hdoc.statesAttributes
  have hanswers : AnswersPing programs ↔
      (∃ framework, some programs.contracts.newFramework = some framework ∧
        framework.profile = some Service.basicProfile) ∧
      ∃ groups, programs.contracts.parse bppValue = .ok groups ∧
        Returns (programs.contracts.toJsonString groups) := by
    constructor
    · intro ha
      exact ⟨⟨_, rfl, ha.profile⟩, ha.privileges bppValue hbpp⟩
    · intro ha
      obtain ⟨⟨framework, hframework, hprofile⟩, hgroups⟩ := ha
      obtain rfl := Option.some.inj hframework
      refine ⟨hprofile, fun bppValue' hbpp' => ?_⟩
      obtain rfl := Option.some.inj (hbpp.symm.trans hbpp')
      exact hgroups
  rw [← returns_validateToken_issued_iff hdoc hchecks hresolves hnone hhost huri happ hlifetime h
    now, hanswers]
  refine returns_bind_iff_and fun identity hidentity => ?_
  obtain ⟨issuer, nameId, hclaims⟩ := Federation.createClaims_of_validateToken hidentity
  have hcreated := hcreates _ _ _ _ hclaims Service.bppClaimType (by decide)
  rw [show (Service.readToken im token.assertion.onWire).assertion.statements =
    token.assertion.statements from rfl, hvalues] at hcreated
  exact returns_ping_of_privileges_iff hcreated messageId _

/-- What the reply says. -/
theorem response_of_serve (hstates : im.saml2.StatesAttributes)
    (hcreates : Federation.CreatesClaims im.saml2) (haddress : Sts.AddressIsUri im request)
    (h : Sts.issueFor programs.sts im clock cert request = .ok token) {call : Federation.Call}
    (hcall : call.assertion = token.assertion.onWire) {reply : Service.Reply}
    (hserve : Federation.serve programs im call = .ok reply) :
    ∃ json, reply.response.messageToResponse = call.request.messageToPing.getD "" ++
      ("MessageId: " ++ Service.textOf call.messageId ++ ".\nBpp: " ++ json) := by
  have hsound : Federation.Issuance.Sound programs im ⟨cert, request, clock, token⟩ :=
    ⟨h, haddress⟩
  obtain ⟨bppValue, -, hvalues⟩ := hsound.privileges hstates
  obtain ⟨issuer, nameId, identity, hclaims, hping⟩ :=
    (Federation.served_of_serve hserve).answered
  have hcreated := hcreates _ _ _ _ hclaims Service.bppClaimType (by decide)
  rw [hcall, Saml2Assertion.statements_onWire, hvalues] at hcreated
  obtain ⟨_, json, -, -, rfl⟩ := Federation.reply_of_privileges hcreated hping
  exact ⟨json, rfl⟩

end Served

/-! ## SendRstAndThenExecuteServiceServiceSuccessfully -/

/-- `s.IndexOf(value, StringComparison.InvariantCultureIgnoreCase)`, if it is not
negative. -/
def indexOfIgnoreCase (s value : String) : Option Nat :=
  Replace.indexOf (value.toList.map Char.toUpper) (s.toList.map Char.toUpper)

def pingMessage : String := "Ping to service ...."

/-- The assertions on the text of the reply. -/
def assertResponse (messageToResponse : String) : Except Exception Unit := do
  assertTrue (!messageToResponse.isEmpty)
  assertTrue (Text.contains messageToResponse "MessageId:")
  assertTrue ((indexOfIgnoreCase messageToResponse "Bpp:").any (13 < ·))

section Test

variable (settings : ServiceSettings) (programs : Federation.Settings) (im : IdentityModel)
  (requestLog : SoapMessageLog ClientRequest) (serviceLog : SoapMessageLog ServiceMessage)
  (transport : TokenTransport)

/-- The second half of the test: the service is called at the instant `called`. -/
def executeService (token : GenericXmlSecurityToken) (called : DateTime)
    (messageId : Option Service.UniqueId) : Except ClientException Unit := do
  let result ← (generateServiceChannel settings token).ping programs im serviceLog called messageId
    ⟨some programs.contracts.newFramework, some pingMessage⟩
  let _ ← (programs.contracts.parse settings.bppValue).mapError .thrown
  (assertResponse result.response.messageToResponse).mapError .thrown

/-- `SendRstAndThenExecuteServiceServiceSuccessfully`. -/
def sendRstAndThenExecuteService (clock : Sts.IssueClock) (instants : Instants) (called : DateTime)
    (messageId : Option Service.UniqueId) : Except ClientException Unit := do
  let token ← sendInAnvenderContext settings.toTestSettings programs.sts im requestLog clock
    settings.serviceAddressUri.absoluteUri none settings.clientCertificate
  let token := transport.received instants.received token
  (validateIssuedToken instants.validated (some token) settings.serviceAddressUri.absoluteUri
    [specVerAttribute]).mapError .thrown
  executeService settings programs im serviceLog token called messageId

/-- The text `Bpp:` is found behind the message, in which there is no `B`. -/
theorem indexOf_bpp (before after : String) :
    (indexOfIgnoreCase (pingMessage ++ (before ++ "Bpp:" ++ after)) "Bpp:").any (13 < ·) =
      true := by
  have hupper : "Bpp:".toList.map Char.toUpper = 'B' :: ['P', 'P', ':'] := by decide
  have hnot : 'B' ∉ pingMessage.toList.map Char.toUpper := by decide
  have hlength : (pingMessage.toList.map Char.toUpper).length = 20 := by decide
  have hinfix : 'B' :: ['P', 'P', ':'] <:+:
      (before ++ "Bpp:" ++ after).toList.map Char.toUpper := by
    rw [String.toList_append, String.toList_append, List.map_append, List.map_append, hupper]
    exact List.infix_append _ _ _
  obtain ⟨index, hindex⟩ := Option.ne_none_iff_exists'.mp (Replace.indexOf_ne_none_iff.mpr hinfix)
  rw [indexOfIgnoreCase, hupper, String.toList_append, List.map_append,
    Replace.indexOf_append_of_not_mem hnot, hindex, hlength, Option.map_some, Option.any_some,
    decide_eq_true_eq]
  omega

/-- The assertions hold of every reply to that message. -/
theorem assertResponse_eq_ok (messageId json : String) :
    assertResponse (pingMessage ++ ("MessageId: " ++ messageId ++ ".\nBpp: " ++ json)) =
      .ok () := by
  have hcontains : Text.contains
      (pingMessage ++ ("MessageId: " ++ messageId ++ ".\nBpp: " ++ json)) "MessageId:" = true := by
    have hmiddle :=
      contains_middle pingMessage "MessageId:" (" " ++ messageId ++ ".\nBpp: " ++ json)
    have htext : pingMessage ++ "MessageId:" ++ (" " ++ messageId ++ ".\nBpp: " ++ json) =
        pingMessage ++ ("MessageId: " ++ messageId ++ ".\nBpp: " ++ json) := by
      rw [show "MessageId: " = "MessageId:" ++ " " from rfl]
      simp only [String.append_assoc]
    rwa [htext] at hmiddle
  have hindex := indexOf_bpp ("MessageId: " ++ messageId ++ ".\n") (" " ++ json)
  have htext : "MessageId: " ++ messageId ++ ".\n" ++ "Bpp:" ++ (" " ++ json) =
      "MessageId: " ++ messageId ++ ".\nBpp: " ++ json := by
    rw [show ".\nBpp: " = ".\n" ++ ("Bpp:" ++ " ") from rfl]
    simp only [String.append_assoc]
  rw [htext] at hindex
  have hempty : (pingMessage ++ ("MessageId: " ++ messageId ++ ".\nBpp: " ++ json)).isEmpty =
      false := by
    simp [pingMessage]
  rw [assertResponse, assertTrue, hempty, assertTrue, hcontains, assertTrue, hindex]
  rfl

variable {settings programs im requestLog serviceLog transport}

/-- The second half passes exactly when the call is served, and the consumer can
read the privileges of its own settings. -/
theorem returns_executeService_iff (hlog : ∀ path text, serviceLog.writeAllText path text = .ok ())
    (hdoc : FollowsDocumentation im) (hreads : transport.ReadsWhatIsSent)
    (hchecks : im.saml2.ChecksByConfiguration) (hresolves : im.ResolvesSigner)
    (hcreates : Federation.CreatesClaims im.saml2)
    {idConfig : SecurityTokenHandlerConfiguration} (hnone : Service.NoAudienceSettings idConfig)
    (hhost : Service.createServiceHost programs.service im idConfig = .ok programs.configuration)
    {uri : Uri} (huri : uri.absoluteUri ≠ "" ∧ im.newUri uri.absoluteUri = .ok uri)
    {clock : Sts.IssueClock} {cert : X509Certificate2} {request : RequestSecurityToken}
    (happ : request.appliesTo = some ⟨uri⟩) (hlifetime : request.lifetime = none)
    {token : Saml2SecurityToken}
    (hissue : Sts.issueFor programs.sts im clock cert request = .ok token)
    (received called : DateTime) (messageId : Option Service.UniqueId) :
    Returns (executeService settings programs im serviceLog (transport.received received token)
        called messageId) ↔
      (AcceptsIssued uri programs im clock called ∧ AnswersPing programs) ∧
        Returns (programs.contracts.parse settings.bppValue) := by
  have haddress := addressIsUri_of_appliesTo huri happ
  obtain ⟨issuerToken, hxml⟩ := tokenXml_received hreads hissue received
  rw [executeService, ServiceChannel.ping_of_log programs im hlog _ hxml]
  refine (returns_bind_iff_and fun reply hreply => ?_).trans (and_congr_left' ?_)
  · rw [callService_eq_ok_iff] at hreply
    obtain ⟨json, hjson⟩ :=
      response_of_serve hdoc.statesAttributes hcreates haddress hissue rfl hreply
    have hresponse : assertResponse reply.response.messageToResponse = .ok () := by
      rw [hjson]
      exact assertResponse_eq_ok _ json
    have hrest : Returns ((assertResponse reply.response.messageToResponse).mapError
        ClientException.thrown) := by
      rw [hresponse]
      exact returns_ok ()
    rw [returns_bind_iff_and fun _ _ => iff_true_intro hrest, and_true, returns_mapError_iff]
  · rw [← returns_serve_issued_iff hdoc hchecks hresolves hcreates hnone hhost huri happ hlifetime
      hissue called messageId (some pingMessage)]
    simp only [Returns, callService_eq_ok_iff]

/-- **All three programs.** The test passes exactly when the client is issued
tokens for the service, the token is looked at within a minute and used within
ten and the clock skew, the service trusts the signer and goes by the address that
the consumer uses, the header of the consumer has the basic profile, and the
privileges can be read that the token service and the consumer are configured with. -/
theorem sendRstAndThenExecuteService_iff
    (h : Deployed settings.toTestSettings programs.sts im requestLog)
    (hlog : ∀ path text, serviceLog.writeAllText path text = .ok ())
    (hdoc : FollowsDocumentation im) (hreads : transport.ReadsWhatIsSent)
    (hchecks : im.saml2.ChecksByConfiguration) (hresolves : im.ResolvesSigner)
    (hcreates : Federation.CreatesClaims im.saml2)
    {idConfig : SecurityTokenHandlerConfiguration} (hnone : Service.NoAudienceSettings idConfig)
    (hhost : Service.createServiceHost programs.service im idConfig = .ok programs.configuration)
    (clock : Sts.IssueClock) (instants : Instants) (called : DateTime)
    (messageId : Option Service.UniqueId) :
    Returns (sendRstAndThenExecuteService settings programs im requestLog serviceLog transport clock
        instants called messageId) ↔
      IsIssued settings.toTestSettings programs.sts im settings.clientCertificate
          settings.serviceAddressUri ∧
        instants.validated - clock.tokenLifetime.onWire < TimeSpan.fromMinutes 1 ∧
        (AcceptsIssued settings.serviceAddressUri programs im clock called ∧
          AnswersPing programs) ∧
        Returns (programs.contracts.parse settings.bppValue) := by
  have hself : NamesOnBehalfOf none := by
    intro element helement
    simp at helement
  have huri := hdoc.newUri_canonical _ _ h.newUri_service
  refine (returns_bind_iff_and fun token hsend => ?_).trans
    (and_congr_left' ((h.returns_send_iff hdoc h.newUri_service none).trans (and_iff_left hself)))
  obtain ⟨request, happ, hobo, hlifetime, hissue⟩ := h.issueFor_of_send h.newUri_service hsend
  have hformat : NamesX509Subject request := by
    intro element helement
    rw [hobo] at helement
    simp at helement
  refine (returns_bind_iff_and fun _ _ => ?_).trans (and_congr_left' ?_)
  · exact returns_executeService_iff hlog hdoc hreads hchecks hresolves hcreates hnone hhost huri
      happ hlifetime hissue instants.received called messageId
  · rw [returns_mapError_iff, returns_validateIssuedToken_received_iff hdoc hreads huri happ
      hlifetime hissue, and_iff_left hformat]

end Test

/-! ### Against the sample programs -/

/-- The settings of the test, with the certificates of the sample programs. -/
def sampleServiceSettings : ServiceSettings :=
  { sampleTestSettings with
    serviceServiceEndpointIdentity := "service"
    serviceServiceCertificate := { thumbprint := "4678237245FEDC8059D113675955DFB870D36BF4" }
    bppValue := "bpp" }

def anyServiceLog : SoapMessageLog ServiceMessage where
  toText _ := ""
  writeAllText _ _ := .ok ()

/-- A call within ten minutes and the clock skew passes, a later one does not. -/
theorem sendRstAndThenExecuteService_sample :
    Returns (sendRstAndThenExecuteService sampleServiceSettings Federation.sampleSettings
      Documented.identityModel anyRequestLog anyServiceLog sampleTransport ⟨0, 0, 0⟩ ⟨0, 0, 0⟩
      8999999999 none) ∧
    ¬ Returns (sendRstAndThenExecuteService sampleServiceSettings Federation.sampleSettings
      Documented.identityModel anyRequestLog anyServiceLog sampleTransport ⟨0, 0, 0⟩ ⟨0, 0, 0⟩
      9000000000 none) := by
  have hdeployed : Deployed sampleServiceSettings.toTestSettings Federation.sampleSettings.sts
      Documented.identityModel anyRequestLog := deployed_sample
  have hlog (path text : String) : anyServiceLog.writeAllText path text = .ok () := rfl
  have hiff := fun called => sendRstAndThenExecuteService_iff hdeployed hlog
    followsDocumentation_documented readsWhatIsSent_sample Documented.checksByConfiguration
    Documented.resolvesSigner Federation.createsClaims_documented ⟨rfl, rfl⟩
    Federation.createServiceHost_sample ⟨0, 0, 0⟩ ⟨0, 0, 0⟩ called none
  rw [hiff, hiff]
  refine ⟨⟨⟨by decide, by decide, by decide, by decide, by decide, by decide⟩, by decide,
    ⟨⟨rfl, by decide, by decide, ?_⟩, ⟨rfl, ?_⟩⟩, by decide⟩, ?_⟩
  · exact ⟨_, Or.inl rfl, by decide⟩
  · intro bppValue _
    exact ⟨_, rfl, returns_ok _⟩
  · rintro ⟨-, -, ⟨⟨-, -, hlate, -⟩, -⟩, -⟩
    exact absurd hlate (by decide)

end KombitSamples.Consumer
