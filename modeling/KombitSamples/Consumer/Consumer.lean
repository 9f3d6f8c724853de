import KombitSamples.Consumer.ConnectionHelper
import KombitSamples.Sts.Attestation
import KombitSamples.Sts.ExceptionThownHandler

/-!
# KombitSamples.Consumer.Consumer

The consumer against the token service: the requests it sends, the errors it
gets back, and what it checks of an issued token.

* `validateIssuedToken_iff` — which issued tokens pass the consumer's check;
* `handleCommonErrors_iff` — the deployments in which the consumer's test of the
  errors passes.
-/

namespace KombitSamples.Consumer

open Fallible Saml2SecurityTokenHandler

/-! ## ValidateIssuedToken -/

/-- The token that a channel hands out: the XML of the issued token, and the
instant from which it is valid. -/
structure GenericXmlSecurityToken where
  validFrom : DateTime
  tokenXml : SecurityToken
deriving DecidableEq, Repr

def assertionFailed : Exception := .other "Assert.True() Failure"

def assertTrue (condition : Bool) : Except Exception Unit := ensure assertionFailed condition

def indexOutOfRange : Exception := .argument "Index was out of range."

/-- `statement as Saml2AttributeStatement`. -/
def asAttributeStatement : Saml2Statement → Option (List Saml2Attribute)
  | .attributeStatement attributes => some attributes
  | .other _ => none

/-- `Statements[0] as Saml2AttributeStatement ?? Statements[1] as …`. -/
def attributeStatementOf (statements : List Saml2Statement) :
    Except Exception (Option (List Saml2Attribute)) := do
  let first ← deref indexOutOfRange statements[0]?
  match asAttributeStatement first with
  | some attributes => pure (some attributes)
  | none => do
      let second ← deref indexOutOfRange statements[1]?
      pure (asAttributeStatement second)

/-- `AttributeExistsInCollection`, which stops at the first match. -/
def attributeExistsInCollection (value : Saml2Attribute) :
    List Saml2Attribute → Except Exception Bool
  | [] => .ok false
  | saml2Attribute :: attributes =>
      if saml2Attribute.name = value.name then do
        let v ← deref indexOutOfRange saml2Attribute.values.head?
        let w ← deref indexOutOfRange value.values.head?
        if Text.trim v '/' = Text.trim w '/' then pure true
        else attributeExistsInCollection value attributes
      else attributeExistsInCollection value attributes

/-- One turn of the loop over the attributes that a token must have. -/
def assertExists (attributes : List Saml2Attribute) (saml2Attribute : Saml2Attribute) :
    Except Exception Unit := do
  let found ← attributeExistsInCollection saml2Attribute attributes
  assertTrue found

/-- `ValidateIssuedToken`. -/
def validateIssuedToken (utcNow : DateTime) (token : Option GenericXmlSecurityToken)
    (appliesTo : String) (mustHaveAttribute : List Saml2Attribute) : Except Exception Unit := do
  let token ← deref assertionFailed token
  assertTrue (utcNow - token.validFrom < TimeSpan.fromMinutes 1)
  let saml2Token ← match token.tokenXml with
    | .saml2 saml2Token => .ok saml2Token
    | _ => .error assertionFailed
  let attributeStatement ← attributeStatementOf saml2Token.assertion.statements
  let attributes ← deref assertionFailed attributeStatement
  mustHaveAttribute.forM (assertExists attributes)
  let first ← deref indexOutOfRange attributes.head?
  let nameFormat ← deref .nullReference first.nameFormat
  assertTrue (nameFormat.absoluteUri == Sts.basicNameFormat.absoluteUri)
  let subject ← deref .nullReference saml2Token.assertion.subject
  let nameId ← deref assertionFailed subject.nameId
  let format ← deref .nullReference nameId.format
  assertTrue (format.absoluteUri == Sts.x509SubjectNameFormat)
  let subjectConfirmation ← deref assertionFailed subject.subjectConfirmations.head?
  let data ← deref assertionFailed subjectConfirmation.subjectConfirmationData
  let recipient ← deref .nullReference data.recipient
  assertTrue (recipient.absoluteUri == appliesTo)

/-- The attribute that every call of `ValidateIssuedToken` asks for. -/
def specVerAttribute : Saml2Attribute where
  name := Sts.specVer
  values := ["DK-SAML-2.0"]

/-! ## The statements of an issued token -/

/-- `CreateStatements` starts with the attribute statement, when there is a
claim to state; it makes no other one, and no attribute without a value. -/
def StatesAttributesFirst (base : Saml2SecurityTokenHandler) : Prop :=
  ∀ d statements, base.createStatements d = .ok statements →
    (∃ claim ∈ d.subject.claims, claim.type ∉ notAttributes) →
    ∃ attributes rest, statements = .attributeStatement attributes :: rest ∧
      (∀ statement ∈ rest, asAttributeStatement statement = none) ∧
      ∀ saml2Attribute ∈ attributes, saml2Attribute.values ≠ []

/-- The attribute statement of an issued token, and its version of the
profile. -/
structure StatesSpecVer (attributes : List Saml2Attribute) : Prop where
  ne_nil : attributes ≠ []
  decorated : ∀ saml2Attribute ∈ attributes, saml2Attribute.values ≠ [] ∧
    saml2Attribute.nameFormat = some Sts.basicNameFormat
  specVer : valuesOf Sts.specVer attributes ≠ [] ∧
    ∀ value ∈ valuesOf Sts.specVer attributes, value = "DK-SAML-2.0"

theorem attributeValues_of_others {name : String} {statements : List Saml2Statement}
    (h : ∀ statement ∈ statements, asAttributeStatement statement = none) :
    attributeValues name statements = [] := by
  induction statements with
  | nil => rfl
  | cons statement statements ih =>
      cases statement with
      | attributeStatement attributes =>
          have hnone := h _ List.mem_cons_self
          simp [asAttributeStatement] at hnone
      | other kind =>
          rw [attributeValues]
          exact ih fun s hs => h s (List.mem_cons_of_mem _ hs)

/-- The attribute is found when it is the only value that the attributes give its
name. -/
theorem attributeExistsInCollection_eq_ok {name value : String} {nameFormat : Option Uri}
    {attributes : List Saml2Attribute} (hvalues : ∀ a ∈ attributes, a.values ≠ [])
    (hne : valuesOf name attributes ≠ []) (hall : ∀ v ∈ valuesOf name attributes, v = value) :
    attributeExistsInCollection ⟨name, nameFormat, [value]⟩ attributes = .ok true := by
  induction attributes with
  | nil => exact absurd rfl hne
  | cons a attributes ih =>
      rw [valuesOf_cons] at hne hall
      by_cases hname : a.name = name
      · obtain ⟨v, rest, hcons⟩ := List.exists_cons_of_ne_nil (hvalues a List.mem_cons_self)
        rw [if_pos hname] at hall
        have hv : v = value := hall v (by simp [hcons])
        simp [attributeExistsInCollection, hname, hcons, hv, pure, Except.pure]
      · rw [if_neg hname] at hne hall
        simp only [attributeExistsInCollection, hname, if_false]
        exact ih (fun b hb => hvalues b (List.mem_cons_of_mem a hb)) hne hall

/-- Every route to a token states the version of the profile. -/
theorem specVer_of_authorised {constants : Sts.Constants} {route : Sts.Route}
    (h : route.Authorised constants) :
    route.values constants Sts.specVer ≠ [] ∧
      ∀ value ∈ route.values constants Sts.specVer, value = "DK-SAML-2.0" := by
  have hcaller : (claimsOfType Sts.specVer Sts.callerClaims).map (·.value) = ["DK-SAML-2.0"] := by
    decide
  have hobo : (claimsOfType Sts.specVer Sts.onBehalfOfClaims).map (·.value) = ["DK-SAML-2.0"] := by
    decide
  cases route with
  | onBehalfOf cert token =>
      rw [Sts.Route.values, Sts.Route.claims, hobo]
      simp
  | direct cert =>
      rw [Sts.Route.values, Sts.Route.claims, Sts.selectedClaims, claimsOfType_append,
        List.map_append]
      unfold Sts.Route.Authorised at h
      by_cases hclient : cert.thumbprint = constants.aValidClientCertificate.thumbprint
      · rw [if_pos hclient, hcaller]
        split
        · simp [hobo]
        · simp
      · rw [if_neg hclient, if_pos (h.resolve_left hclient), hobo]
        simp

section Issued

variable {sts : Sts.Constants} {im : IdentityModel} {clock : Sts.IssueClock}
  {cert : X509Certificate2} {request : RequestSecurityToken} {token : Saml2SecurityToken}

/-- The statements of an issued token. -/
theorem statements_of_issueFor (hnames : im.saml2.NamesSubject)
    (hstates : im.saml2.StatesAttributes) (hfirst : StatesAttributesFirst im.saml2)
    (hbase : Sts.NoRequestorClaim im)
    (h : Sts.issueFor sts im clock cert request = .ok token) :
    ∃ attributes rest, token.assertion.statements = .attributeStatement attributes :: rest ∧
      StatesSpecVer attributes := by
  obtain ⟨route, -, hauth, -, hroute⟩ := Sts.attests_route hnames hstates hbase h
  simp only [Sts.issueFor, bind_eq_ok, Sts.issue_eq_ok_iff] at h
  obtain ⟨identities, -, ⟨made⟩⟩ := h
  have hnot : Sts.privilegesIntermediate ∉ notAttributes := by decide
  have hclaim : ∃ claim ∈ (Sts.outputIdentity sts im clock.authenticationInstant ⟨identities⟩
      made.requestor.value request.onBehalfOf made.bppValue).claims,
      claim.type ∉ notAttributes :=
    ⟨{ type := Sts.privilegesIntermediate, value := made.bppValue },
      List.mem_append_right _ List.mem_cons_self, hnot⟩
  obtain ⟨attributes, rest, hstatements, hrest, hvalues⟩ :=
    hfirst _ _ made.createdFrom.statements_eq hclaim
  have hformatted : token.assertion.statements = .attributeStatement
      (attributes.map Sts.withBasicNameFormat) :: rest.map Sts.formatStatement := by
    rw [congrArg (·.assertion.statements) made.createdFrom.token_eq, hstatements]
    rfl
  have hsame : attributeValues Sts.specVer token.assertion.statements =
      valuesOf Sts.specVer (attributes.map Sts.withBasicNameFormat) := by
    have hothers : ∀ statement ∈ rest.map Sts.formatStatement,
        asAttributeStatement statement = none := by
      intro statement hmem
      obtain ⟨s, hs, rfl⟩ := List.mem_map.mp hmem
      have hnone := hrest s hs
      cases s with
      | attributeStatement attributes => simp [asAttributeStatement] at hnone
      | other kind => rfl
    rw [hformatted, attributeValues, attributeValues_of_others hothers, List.append_nil]
  have hspec := specVer_of_authorised hauth
  rw [← hroute Sts.specVer (by decide), hsame] at hspec
  refine ⟨_, _, hformatted, ?_, ?_, hspec⟩
  · intro hnil
    rw [hnil] at hspec
    exact hspec.1 rfl
  · intro saml2Attribute hmem
    obtain ⟨a, ha, rfl⟩ := List.mem_map.mp hmem
    exact ⟨hvalues a ha, rfl⟩

/-- A SAML 2.0 token that the request is made on behalf of, if there is one,
names its owner as the subject of a certificate. -/
def NamesX509Subject (request : RequestSecurityToken) : Prop :=
  ∀ element, request.onBehalfOf = some element →
    ∀ onBehalfOf, element.getSecurityToken = .ok (.saml2 onBehalfOf) →
    onBehalfOf.nameId.bind (·.format) = some Sts.x509SubjectNameUri

/-- The subject of an issued token has the format of the service, except when it
is taken from a SAML 2.0 token. -/
theorem format_of_issueFor_iff (hnames : im.saml2.NamesSubject)
    (hstates : im.saml2.StatesAttributes) (hbase : Sts.NoRequestorClaim im)
    (h : Sts.issueFor sts im clock cert request = .ok token) :
    token.nameId.bind (·.format) = some Sts.x509SubjectNameUri ↔ NamesX509Subject request := by
  obtain ⟨route, -, -, hvalue, -⟩ := Sts.attests_route hnames hstates hbase h
  simp only [Sts.issueFor, bind_eq_ok, Sts.issue_eq_ok_iff] at h
  obtain ⟨identities, -, ⟨made⟩⟩ := h
  obtain ⟨base, -, hsubject⟩ := Sts.createSamlSubject_eq_ok_iff.mp made.createdFrom.subject_eq
  have hrenamed := made.createdFrom.renamed_eq
  rw [Sts.onBehalfOf_withSecondaryParameters] at hrenamed
  rw [made.createdFrom.nameId_eq] at hvalue ⊢
  unfold NamesX509Subject
  cases hobo : request.onBehalfOf with
  | none =>
      rw [hobo, Sts.nameOnBehalfOf_none, Except.ok.injEq, Prod.mk.injEq] at hrenamed
      rw [← hrenamed.1, hsubject] at hvalue ⊢
      cases hname : base.nameId with
      | none => simp [hname] at hvalue
      | some name => simp
  | some element =>
      rw [hobo, Sts.nameOnBehalfOf_some_eq_ok_iff] at hrenamed
      obtain ⟨sender, onBehalfOf, name, hsender, hget, hname, hresult⟩ := hrenamed
      have hformat : sender.format = some Sts.x509SubjectNameUri := by
        rw [hsubject] at hsender
        obtain ⟨baseName, -, rfl⟩ := Option.map_eq_some_iff.mp hsender
        rfl
      have hkept := Sts.subjectNameOf_eq_ok hname
      rw [(Prod.mk.inj hresult).1, Option.bind_some]
      simp only [Option.some.injEq, forall_eq', hget, Except.ok.injEq]
      cases onBehalfOf with
      | saml2 onBehalfOf =>
          simp only [SecurityToken.saml2.injEq, forall_eq']
          have hnamed : onBehalfOf.nameId = some name := by
            simp only [Sts.subjectNameOf, bind_eq_ok, deref_eq_ok] at hname
            obtain ⟨subject, hsome, hnamed⟩ := hname
            rw [Saml2SecurityToken.nameId, hsome, Option.bind_some, hnamed]
          rw [hnamed, Option.bind_some]
      | x509 certificate => simp [hkept, Sts.onBehalfOfName]
      | other kind => simp [hkept, Sts.onBehalfOfName, hformat]

/-- What the check of a token amounts to, when its statements and its first
confirmation are those of an issued one. -/
theorem returns_validateIssuedToken_iff {utcNow validFrom : DateTime} {appliesTo : Uri}
    {attributes : List Saml2Attribute} {rest : List Saml2Statement}
    (hstatements : token.assertion.statements = .attributeStatement attributes :: rest)
    (hspec : StatesSpecVer attributes) {data : Saml2SubjectConfirmationData}
    (hdata : token.confirmationData = some data) (hrecipient : data.recipient = some appliesTo) :
    Returns (validateIssuedToken utcNow (some ⟨validFrom, .saml2 token⟩) appliesTo.absoluteUri
        [specVerAttribute]) ↔
      utcNow - validFrom < TimeSpan.fromMinutes 1 ∧
        token.nameId.bind (·.format) = some Sts.x509SubjectNameUri := by
  have hfound : attributeExistsInCollection specVerAttribute attributes = .ok true :=
    attributeExistsInCollection_eq_ok (fun a ha => (hspec.decorated a ha).1) hspec.specVer.1
      hspec.specVer.2
  obtain ⟨first, others, hcons⟩ := List.exists_cons_of_ne_nil hspec.ne_nil
  have hformat : first.nameFormat = some Sts.basicNameFormat :=
    (hspec.decorated first (by simp [hcons])).2
  have hhead : attributes.head? = some first := by rw [hcons, List.head?_cons]
  obtain ⟨confirmation, hconfirmation, hsome⟩ := Option.bind_eq_some_iff.mp hdata
  obtain ⟨subject, hsubject, hfirst⟩ := Option.bind_eq_some_iff.mp hconfirmation
  have hnameId : token.nameId = subject.nameId := by
    rw [Saml2SecurityToken.nameId, hsubject, Option.bind_some]
  have hloop : [specVerAttribute].forM (assertExists attributes) = .ok () := by
    simp [List.forM, assertExists, hfound, assertTrue, pure, Except.pure]
  simp only [validateIssuedToken, attributeStatementOf, hstatements, List.getElem?_cons_zero,
    deref_some, ok_bind, asAttributeStatement, pure, Except.pure, hloop, hhead, hformat, hsubject,
    hfirst, hsome, hrecipient, assertTrue, beq_self_eq_true, ensure_true, returns_bind,
    ensure_eq_ok, decide_eq_true_eq, exists_const, returns_ok, and_true, deref_eq_ok, beq_iff_eq,
    hnameId, Option.bind_eq_some_iff]
  have huri (format : Uri) :
      format.absoluteUri = Sts.x509SubjectNameFormat ↔ format = Sts.x509SubjectNameUri := by
    constructor
    · intro htext
      exact congrArg Uri.mk htext
    · intro heq
      rw [heq]
      rfl
  simp only [huri, exists_eq_right]

/-- **The consumer's check.** An issued token passes it exactly in the first
minute after it becomes valid, unless its subject was taken from a SAML 2.0 token
that names it in another format. -/
theorem validateIssuedToken_iff (hnames : im.saml2.NamesSubject)
    (hstates : im.saml2.StatesAttributes) (hfirst : StatesAttributesFirst im.saml2)
    (hbase : Sts.NoRequestorClaim im)
    (h : Sts.issueFor sts im clock cert request = .ok token) {appliesTo : EndpointReference}
    (happ : request.appliesTo = some appliesTo) (utcNow validFrom : DateTime) :
    Returns (validateIssuedToken utcNow (some ⟨validFrom, .saml2 token⟩)
        appliesTo.uri.absoluteUri [specVerAttribute]) ↔
      utcNow - validFrom < TimeSpan.fromMinutes 1 ∧ NamesX509Subject request := by
  obtain ⟨attributes, rest, hstatements, hspec⟩ :=
    statements_of_issueFor hnames hstates hfirst hbase h
  have hformat := format_of_issueFor_iff hnames hstates hbase h
  simp only [Sts.issueFor, bind_eq_ok, Sts.issue_eq_ok_iff] at h
  obtain ⟨identities, -, ⟨made⟩⟩ := h
  have hrecipient : made.createdFrom.appliesTo = appliesTo := by
    have heq := made.createdFrom.appliesTo_eq
    rw [Sts.appliesTo_withSecondaryParameters, happ] at heq
    exact (Option.some.inj heq).symm
  have hdata := made.createdFrom.confirmationData_eq
  rw [hrecipient] at hdata
  rw [returns_validateIssuedToken_iff hstatements hspec hdata rfl, hformat]

end Issued

/-! ## SendRequestSecurityTokenRequest -/

/-- The settings that the tests add to those of the channels. -/
structure TestSettings extends Constants where
  stsBaseAddress : String
  serviceAddressUri : Uri
  clientCertificate : X509Certificate2
  anInvalidClientCertificate : X509Certificate2
  anvenderContext : Option String
  /-- `TokenTypes.OasisWssSaml2TokenProfile11`, of a package. -/
  oasisWssSaml2TokenProfile11 : String

/-- The request with what the callbacks of the service do not read. -/
structure ClientRequest extends RequestSecurityToken where
  requestType : String
  issuer : EndpointReference
  useKey : X509Certificate2
  dialect : Option String := none

/-- The request that `SendRequestSecurityTokenRequest` makes. -/
def rstOf (settings : TestSettings) (im : IdentityModel) (appliesTo : String)
    (onBehalfOf : Option SecurityTokenElement) (clientCertificate : X509Certificate2)
    (cvr : Option String) : Except Exception ClientRequest := do
  let appliesTo ← im.newUri appliesTo
  let issuer ← im.newUri settings.stsBaseAddress
  let rst : ClientRequest := {
    appliesTo := some ⟨appliesTo⟩
    requestType := "http://schemas.microsoft.com/idfx/requesttype/issue"
    tokenType := some settings.oasisWssSaml2TokenProfile11
    keyType := some "http://schemas.microsoft.com/idfx/keytype/asymmetric"
    issuer := ⟨issuer⟩
    useKey := clientCertificate
    onBehalfOf := onBehalfOf
    claims := some [] }
  match cvr with
  | none => pure rst
  | some cvr =>
      if cvr.isEmpty then pure rst
      else pure { rst with
        dialect := some "http://docs.oasis-open.org/wsfed/authorization/200706/authclaims"
        claims := some [⟨"dk:gov:saml:attribute:CvrNumberIdentifier", false, some cvr⟩] }

/-- What a call of the channel throws: the fault that the service answers with, a
`MessageSecurityException` when it refuses the security header, or an exception
of the client's own. -/
inductive ClientException where
  | faultException (message code : String)
  | messageSecurityException
  | thrown (ex : Exception)
deriving DecidableEq, Repr

/-- The service on a message with a request: the certificate in its header is
validated, and errors of the operation become faults. -/
def trust13Issue (sts : Sts.Constants) (im : IdentityModel) (clock : Sts.IssueClock)
    (clientCertificate : X509Certificate2) (request : RequestSecurityToken) :
    Except ClientException Saml2SecurityToken :=
  match Sts.validateToken sts im (some (.x509 clientCertificate)) with
  | .error _ => .error .messageSecurityException
  | .ok identities =>
      match Sts.issue sts im clock ⟨identities⟩ request with
      | .ok token => .ok token
      | .error ex => .error (.faultException ex.message (Sts.faultCodeOf ex))

/-- `SendRequestSecurityTokenRequest`, over a channel without an encoder of its
own. -/
def sendRequestSecurityTokenRequest (settings : TestSettings) (sts : Sts.Constants)
    (im : IdentityModel) (log : SoapMessageLog ClientRequest) (clock : Sts.IssueClock)
    (appliesTo : String) (onBehalfOf : Option SecurityTokenElement)
    (clientCertificate : X509Certificate2) (cvr : Option String)
    (messesagModifier : Option (MessageFunc ClientRequest)) :
    Except ClientException Saml2SecurityToken := do
  let rst ← (rstOf settings im appliesTo onBehalfOf clientCertificate cvr).mapError .thrown
  let client := generateStsCertificateClientChannel settings.toConstants clientCertificate
    messesagModifier (none : Option (Unit → Unit)) 0
  let sent ← (client.send log rst).mapError .thrown
  trust13Issue sts im clock clientCertificate sent.toRequestSecurityToken

/-- The overload that asks in the user context of the settings. -/
def sendInAnvenderContext (settings : TestSettings) (sts : Sts.Constants) (im : IdentityModel)
    (log : SoapMessageLog ClientRequest) (clock : Sts.IssueClock) (appliesTo : String)
    (onBehalfOf : Option SecurityTokenElement) (clientCertificate : X509Certificate2) :
    Except ClientException Saml2SecurityToken :=
  sendRequestSecurityTokenRequest settings sts im log clock appliesTo onBehalfOf clientCertificate
    settings.anvenderContext none

/-! ## HandleCommonErrorsWhenIssueToken -/

/-- `message.IndexOf(value, StringComparison.Ordinal) > 0`. -/
def indexOfIsPositive (message value : String) : Bool :=
  Text.contains message value && !Text.startsWith message value

/-- A request in a `try` whose `catch (FaultException e)` has assertions on the
code and the message. -/
def assertFault (code : String) (assertions : String → Bool)
    (sent : Except ClientException Saml2SecurityToken) : Except ClientException Unit :=
  match sent with
  | .error (.faultException message code') =>
      ensure (.thrown assertionFailed) (code' == code && assertions message)
  | .error ex => .error ex
  | .ok _ => .error (.thrown assertionFailed)

/-- `SendIssueRequestWhichWillReceiveConnectionNotFoundError`. -/
def receiveConnectionNotFoundError (settings : TestSettings) (sts : Sts.Constants)
    (im : IdentityModel) (log : SoapMessageLog ClientRequest) (clock : Sts.IssueClock) :
    Except ClientException Unit :=
  assertFault "5002"
    (fun message => Text.contains message "Path resolution: no connection" &&
      indexOfIsPositive message "https://consumer.kombit.dk/noconnectionfound")
    (sendInAnvenderContext settings sts im log clock
      "https://consumer.kombit.dk/noconnectionfound" none settings.clientCertificate)

/-- `SendIssueRequestWhichWillBeFailedBecauseOfAuthentication`. -/
def failedBecauseOfAuthentication (settings : TestSettings) (sts : Sts.Constants)
    (im : IdentityModel) (log : SoapMessageLog ClientRequest) (clock : Sts.IssueClock) :
    Except ClientException Unit :=
  assertFault "5607"
    (fun message => Text.contains message "No mapped user exists for thumbprint" &&
      indexOfIsPositive message settings.anInvalidClientCertificate.thumbprint)
    (sendInAnvenderContext settings sts im log clock settings.serviceAddressUri.absoluteUri none
      settings.anInvalidClientCertificate)

/-- `SendIssueRequestWhichWillBeFailedBecauseOfInvaidRst`. -/
def failedBecauseOfInvalidRst (settings : TestSettings) (sts : Sts.Constants)
    (im : IdentityModel) (log : SoapMessageLog ClientRequest) (clock : Sts.IssueClock) :
    Except ClientException Unit :=
  assertFault "5015"
    (fun message => Text.contains message
      "It is expected that the received STR must contain a CVR claim. Please check to make sure it includes the CVR claim.")
    (sendRequestSecurityTokenRequest settings sts im log clock
      settings.serviceAddressUri.absoluteUri none settings.clientCertificate (some "") none)

/-- `HandleCommonErrorsWhenIssueToken`, with the instants of its requests. -/
def handleCommonErrorsWhenIssueToken (settings : TestSettings) (sts : Sts.Constants)
    (im : IdentityModel) (log : SoapMessageLog ClientRequest)
    (clock₁ clock₂ clock₃ : Sts.IssueClock) : Except ClientException Unit := do
  receiveConnectionNotFoundError settings sts im log clock₁
  failedBecauseOfAuthentication settings sts im log clock₂
  failedBecauseOfInvalidRst settings sts im log clock₃

theorem assertFault_eq_ok {code : String} {assertions : String → Bool}
    {sent : Except ClientException Saml2SecurityToken} {u : Unit} :
    assertFault code assertions sent = .ok u ↔
      ∃ message, sent = .error (.faultException message code) ∧ assertions message = true := by
  cases sent with
  | ok token => simp [assertFault]
  | error ex =>
      cases ex with
      | faultException message code' =>
          rw [assertFault, ensure_eq_ok, Bool.and_eq_true, beq_iff_eq]
          simp
      | messageSecurityException => simp [assertFault]
      | thrown ex => simp [assertFault]

/-! ### The faults of the service -/

section Faults

variable {sts : Sts.Constants} {im : IdentityModel} {clock : Sts.IssueClock}
  {principal : ClaimsPrincipal} {request : RequestSecurityToken} {requestor : Claim}
  {appliesTo : EndpointReference}

/-- The request is refused with code 5002 before anything else is looked at. -/
theorem issue_of_noConnection (happ : request.appliesTo = some appliesTo)
    (hconn : Sts.isNoConnection appliesTo = true) :
    Sts.issue sts im clock principal request = .error (.fault
      ("Path resolution: no connection '" ++ appliesTo.uri.absoluteUri ++ "' found") "5002") := by
  have hscope : Sts.getScope sts request = .error (.fault
      ("Path resolution: no connection '" ++ appliesTo.uri.absoluteUri ++ "' found") "5002") := by
    simp [Sts.getScope, Sts.checkIfErrorShouldBeThrown, happ, hconn]
  rw [Sts.issue, hscope, error_bind]

/-- Filling in the descriptor does not fail. -/
structure FillsIn (sts : Sts.Constants) (im : IdentityModel) (clock : Sts.IssueClock)
    (request : RequestSecurityToken) : Prop where
  lifetime : Returns (im.service.getTokenLifetime (Sts.wsTrustServiceConfiguration sts im)
    clock.tokenLifetime request.lifetime)
  proof : Returns (im.service.getProofToken (Sts.withSecondaryParameters request))

/-- What is left to decide over a request to a relying party with a connection. -/
theorem FillsIn.issue_eq (hfills : FillsIn sts im clock request)
    (happ : request.appliesTo = some appliesTo) (hconn : Sts.isNoConnection appliesTo = false) :
    ∃ describe : ClaimsIdentity → SecurityTokenDescriptor,
      Sts.issue sts im clock principal request =
        Sts.getOutputClaimsIdentity sts im clock.authenticationInstant principal request >>=
          fun subject => Sts.createToken sts im clock.createToken
            (Sts.withSecondaryParameters request) (describe subject) := by
  obtain ⟨lifetime, hlifetime⟩ := hfills.lifetime
  obtain ⟨proof, hproof⟩ := hfills.proof
  have hscope := (Sts.getScope_eq_ok_iff sts request (Sts.withSecondaryParameters request)
    (Sts.scopeOf sts appliesTo)).mpr ⟨appliesTo, happ, hconn, rfl, rfl⟩
  refine ⟨Sts.describeWith sts lifetime proof (Sts.scopeOf sts appliesTo)
    (Sts.withSecondaryParameters request), ?_⟩
  rw [Sts.issue_eq_issuingSequence hlifetime hproof, Sts.issuingSequence, hscope]
  simp only [ok_bind, Sts.getOutputClaimsIdentity_withSecondaryParameters]

/-- The service itself is not a user. -/
theorem getOutputClaimsIdentity_of_service
    (hreq : firstClaim Sts.requestorCertificateClaimType principal.claims = some requestor)
    (hsts : requestor.value = sts.stsServiceCertificate.thumbprint) (utcNow : DateTime) :
    Sts.getOutputClaimsIdentity sts im utcNow principal request =
      .error (Sts.noMappedUser requestor.value) := by
  have hne : (requestor.value != sts.stsServiceCertificate.thumbprint) = false := by simp [hsts]
  rw [Sts.getOutputClaimsIdentity, hreq, deref_some, ok_bind, hne, ensure_false, error_bind]

/-- A request without claims has no CVR claim. -/
theorem getOutputClaimsIdentity_of_noClaims
    (hreq : firstClaim Sts.requestorCertificateClaimType principal.claims = some requestor)
    (hsts : requestor.value ≠ sts.stsServiceCertificate.thumbprint)
    (hclaims : request.claims.getD [] = []) (utcNow : DateTime) :
    Sts.getOutputClaimsIdentity sts im utcNow principal request = .error Sts.expectedCvrClaim := by
  have hne : (requestor.value != sts.stsServiceCertificate.thumbprint) = true := by simp [hsts]
  rw [Sts.getOutputClaimsIdentity, hreq, deref_some, ok_bind, hne, ensure_true, ok_bind, hclaims,
    List.isEmpty_nil, Bool.not_true, ensure_false, error_bind]

/-- A request on behalf of no one is refused with its documented code. -/
theorem FillsIn.faultCodeOf_issue (hfills : FillsIn sts im clock request)
    (hfault : im.saml2.RaisesNoFault) (hobo : request.onBehalfOf = none)
    (happ : request.appliesTo = some appliesTo) (hconn : Sts.isNoConnection appliesTo = false)
    {ex : Exception} (h : Sts.issue sts im clock principal request = .error ex) :
    Sts.faultCodeOf ex = Sts.expectedCode sts principal request := by
  have hread : Sts.Readable request.onBehalfOf := by simp [hobo]
  obtain ⟨describe, hissue⟩ := @FillsIn.issue_eq _ _ _ principal _ _ hfills happ hconn
  rw [hissue, bind_eq_error] at h
  cases h with
  | inl hclaims =>
      exact Sts.failsOnly_getOutputClaimsIdentity clock.authenticationInstant happ hconn
        (fun _ => hread) ex hclaims
  | inr hcreate =>
      obtain ⟨subject, hsubject, hcreate⟩ := hcreate
      obtain ⟨requestor, -, hreq, hsts, hclaims, -⟩ :=
        (Sts.getOutputClaimsIdentity_eq_ok_iff _ _ _ _ _ _).mp hsubject
      have hpasses : Sts.PassesChecks sts principal request :=
        ⟨⟨appliesTo, happ, hconn⟩, ⟨requestor, hreq, hsts⟩, hclaims⟩
      have hread' : Sts.Readable (Sts.withSecondaryParameters request).onBehalfOf := by simp [hobo]
      rw [hpasses.expectedCode_eq]
      exact Sts.faultCodeOf_of_isFault (Sts.failsOnly_createToken hfault hread' _ _ ex hcreate)

/-- The documented refusal of a request on behalf of no one. -/
def refusal (sts : Sts.Constants) (cert : X509Certificate2) (request : RequestSecurityToken)
    (appliesTo : EndpointReference) : Option Exception :=
  if Sts.isNoConnection appliesTo then some (.fault
    ("Path resolution: no connection '" ++ appliesTo.uri.absoluteUri ++ "' found") "5002")
  else if cert.thumbprint = sts.stsServiceCertificate.thumbprint then
    some (Sts.noMappedUser cert.thumbprint)
  else if request.claims.getD [] = [] then some Sts.expectedCvrClaim
  else none

variable {cert : X509Certificate2}

/-- A requestor who is let in names its own certificate. -/
theorem requestor_of_validateToken (hbase : Sts.NoRequestorClaim im)
    {identities : List ClaimsIdentity}
    (h : Sts.validateToken sts im (some (.x509 cert)) = .ok identities) :
    firstClaim Sts.requestorCertificateClaimType (ClaimsPrincipal.claims ⟨identities⟩) =
      some (Sts.requestorClaim cert) := by
  obtain ⟨-, validatedClaims, hclaims, rfl⟩ := (Sts.validateToken_eq_ok_iff _ _ _ _).mp h
  rw [ClaimsPrincipal.claims_singleton]
  exact Sts.firstClaim_clientIdentity_requestor sts cert _ (hbase cert validatedClaims hclaims)

theorem FillsIn.issue_of_refusal (hfills : FillsIn sts im clock request)
    (happ : request.appliesTo = some appliesTo)
    (hreq : firstClaim Sts.requestorCertificateClaimType principal.claims =
      some (Sts.requestorClaim cert)) {ex : Exception}
    (h : refusal sts cert request appliesTo = some ex) :
    Sts.issue sts im clock principal request = .error ex := by
  unfold refusal at h
  split at h
  · next hconn =>
      rw [← Option.some.inj h]
      exact issue_of_noConnection happ hconn
  · next hconn =>
      obtain ⟨describe, hissue⟩ :=
        @FillsIn.issue_eq _ _ _ principal _ _ hfills happ (by simpa using hconn)
      split at h
      · next hsts =>
          rw [hissue, getOutputClaimsIdentity_of_service hreq hsts, error_bind, ← Option.some.inj h]
          rfl
      · next hsts =>
          split at h
          · next hclaims =>
              rw [hissue, getOutputClaimsIdentity_of_noClaims hreq hsts hclaims, error_bind,
                ← Option.some.inj h]
          · contradiction

/-- Without a documented refusal, the general code is the documented one. -/
theorem expectedCode_of_refusal (happ : request.appliesTo = some appliesTo)
    (hreq : firstClaim Sts.requestorCertificateClaimType principal.claims =
      some (Sts.requestorClaim cert))
    (h : refusal sts cert request appliesTo = none) :
    Sts.isNoConnection appliesTo = false ∧ Sts.expectedCode sts principal request = "5050" := by
  unfold refusal at h
  split at h
  · contradiction
  · next hconn =>
      split at h
      · contradiction
      · next hsts =>
          split at h
          · contradiction
          · next hclaims =>
              have hconn : Sts.isNoConnection appliesTo = false := by simpa using hconn
              have hpasses : Sts.PassesChecks sts principal request :=
                ⟨⟨appliesTo, happ, hconn⟩, ⟨_, hreq, hsts⟩, hclaims⟩
              exact ⟨hconn, hpasses.expectedCode_eq⟩

/-- An exception with another code than the general one is a fault. -/
theorem message_and_faultCodeOf_iff {ex : Exception} {message code : String}
    (hcode : code ≠ "5050") :
    ex.message = message ∧ Sts.faultCodeOf ex = code ↔ ex = .fault message code := by
  cases ex with
  | fault message' code' =>
      rw [Exception.fault.injEq]
      exact Iff.rfl
  | _ => simp [Sts.faultCodeOf, hcode.symm]

/-- The faults with a code of their own are the documented refusals of the
requestors who are let in. -/
theorem FillsIn.trust13Issue_eq_fault_iff (hfills : FillsIn sts im clock request)
    (hfault : im.saml2.RaisesNoFault) (hbase : Sts.NoRequestorClaim im)
    (hobo : request.onBehalfOf = none) (happ : request.appliesTo = some appliesTo)
    {message code : String} (hcode : code ≠ "5050") :
    trust13Issue sts im clock cert request = .error (.faultException message code) ↔
      Returns (Sts.validateToken sts im (some (.x509 cert))) ∧
        refusal sts cert request appliesTo = some (.fault message code) := by
  unfold trust13Issue
  cases hvalid : Sts.validateToken sts im (some (.x509 cert)) with
  | error ex => simp
  | ok identities =>
      have hreq := requestor_of_validateToken hbase hvalid
      simp only [returns_ok, true_and]
      cases hrefusal : refusal sts cert request appliesTo with
      | some ex =>
          have hissue : Sts.issue sts im clock ⟨identities⟩ request = .error ex :=
            hfills.issue_of_refusal happ hreq hrefusal
          rw [hissue]
          simp only [Except.error.injEq, ClientException.faultException.injEq, Option.some.injEq]
          exact message_and_faultCodeOf_iff hcode
      | none =>
          obtain ⟨hconn, hexpected⟩ := expectedCode_of_refusal happ hreq hrefusal
          cases hissue : Sts.issue sts im clock ⟨identities⟩ request with
          | ok token => simp
          | error ex =>
              have hcodeOf := hfills.faultCodeOf_issue hfault hobo happ hconn hissue
              simp only [Except.error.injEq, ClientException.faultException.injEq, reduceCtorEq,
                iff_false, not_and, hcodeOf, hexpected]
              intro _
              exact hcode.symm

end Faults

/-! ### The deployments that are tested -/

/-- What the tests rely on outside of what they test: the log is written, the
addresses are URIs, and the service fills in every request of the consumer. -/
structure Deployed (settings : TestSettings) (sts : Sts.Constants) (im : IdentityModel)
    (log : SoapMessageLog ClientRequest) : Prop where
  writeAllText : ∀ path text, Returns (log.writeAllText path text)
  newUri_noConnection : im.newUri Sts.noConnectionAddress = .ok ⟨Sts.noConnectionAddress⟩
  newUri_service : im.newUri settings.serviceAddressUri.absoluteUri =
    .ok settings.serviceAddressUri
  newUri_sts : Returns (im.newUri settings.stsBaseAddress)
  lifetime : ∀ now, Returns (im.service.getTokenLifetime
    (Sts.wsTrustServiceConfiguration sts im) now none)
  proof : ∀ request : RequestSecurityToken,
    request.keyType = some "http://schemas.microsoft.com/idfx/keytype/asymmetric" →
    Returns (im.service.getProofToken request)

section Deployed

variable {settings : TestSettings} {sts : Sts.Constants} {im : IdentityModel}
  {log : SoapMessageLog ClientRequest}

/-- The request that the service receives. -/
theorem Deployed.sent (h : Deployed settings sts im log) {address : String} {uri : Uri}
    (haddress : im.newUri address = .ok uri) (clock : Sts.IssueClock)
    (onBehalfOf : Option SecurityTokenElement) (cert : X509Certificate2) (cvr : Option String) :
    ∃ request : RequestSecurityToken, request.appliesTo = some ⟨uri⟩ ∧
      request.onBehalfOf = onBehalfOf ∧ request.lifetime = none ∧
      (request.claims.getD [] = [] ↔ cvr.getD "" = "") ∧ FillsIn sts im clock request ∧
      sendRequestSecurityTokenRequest settings sts im log clock address onBehalfOf cert cvr none =
        trust13Issue sts im clock cert request := by
  obtain ⟨issuer, hissuer⟩ := h.newUri_sts
  have hsend (rst : ClientRequest) :
      (generateStsCertificateClientChannel settings.toConstants cert none
        (none : Option (Unit → Unit)) 0).send log rst = .ok rst := by
    rw [send_generated]
    split
    · exact beforeSendRequest_eq_ok_iff.mpr ⟨rfl, h.writeAllText _ _, fun hne => absurd rfl hne⟩
    · rfl
  have hrst : ∃ rst : ClientRequest, rstOf settings im address onBehalfOf cert cvr = .ok rst ∧
      rst.appliesTo = some ⟨uri⟩ ∧ rst.onBehalfOf = onBehalfOf ∧ rst.lifetime = none ∧
      rst.secondaryParameters = none ∧
      rst.keyType = some "http://schemas.microsoft.com/idfx/keytype/asymmetric" ∧
      (rst.claims.getD [] = [] ↔ cvr.getD "" = "") := by
    cases cvr with
    | none => simp [rstOf, haddress, hissuer, pure, Except.pure]
    | some cvr =>
        by_cases hempty : cvr = ""
        · simp [rstOf, haddress, hissuer, hempty, pure, Except.pure]
        · simp [rstOf, haddress, hissuer, hempty, pure, Except.pure]
  obtain ⟨rst, hrst, happ, hobo, hlifetime, hsecondary, hkey, hclaims⟩ := hrst
  refine ⟨rst.toRequestSecurityToken, happ, hobo, hlifetime, hclaims, ⟨?_, ?_⟩, ?_⟩
  · rw [hlifetime]
    exact h.lifetime _
  · rw [Sts.withSecondaryParameters, hsecondary]
    exact h.proof _ hkey
  · rw [sendRequestSecurityTokenRequest, hrst]
    simp only [Except.mapError, ok_bind, hsend]

theorem contains_self (s : String) : Text.contains s s = true := by simp [Text.contains]

/-- What stands in the middle of a text is contained in it. -/
theorem contains_middle (before s after : String) :
    Text.contains (before ++ s ++ after) s = true := by
  have hinfix : s.toList <:+: (before ++ s ++ after).toList :=
    ⟨before.toList, after.toList, by simp⟩
  exact decide_eq_true hinfix

/-- A text does not start with another one whose first character is different. -/
theorem startsWith_eq_false {message value : String} {c d : Char}
    (hmessage : message.toList.head? = some c) (hvalue : value.toList.head? = some d)
    (hne : c ≠ d) : Text.startsWith message value = false := by
  obtain ⟨ms, hmessage⟩ := List.head?_eq_some_iff.mp hmessage
  obtain ⟨vs, hvalue⟩ := List.head?_eq_some_iff.mp hvalue
  rw [Text.startsWith, hmessage, hvalue, List.isPrefixOf_cons_cons, beq_false_of_ne hne.symm,
    Bool.false_and]

/-- The assertions are made on the documented refusal of a requestor who is let
in. -/
theorem Deployed.assertFault_eq_ok_iff (h : Deployed settings sts im log)
    (hbase : Sts.NoRequestorClaim im) (hfault : im.saml2.RaisesNoFault) {address : String}
    {uri : Uri} (haddress : im.newUri address = .ok uri) (clock : Sts.IssueClock)
    (cert : X509Certificate2) (cvr : Option String) :
    ∃ request : RequestSecurityToken, (request.claims.getD [] = [] ↔ cvr.getD "" = "") ∧
      ∀ code assertions, code ≠ "5050" →
        (assertFault code assertions (sendRequestSecurityTokenRequest settings sts im log clock
            address none cert cvr none) = .ok () ↔
          Returns (Sts.validateToken sts im (some (.x509 cert))) ∧
            ∃ message, refusal sts cert request ⟨uri⟩ = some (.fault message code) ∧
              assertions message = true) := by
  obtain ⟨request, happ, hobo, -, hclaims, hfills, hsent⟩ := h.sent haddress clock none cert cvr
  refine ⟨request, hclaims, fun code assertions hcode => ?_⟩
  simp only [assertFault_eq_ok, hsent,
    hfills.trust13Issue_eq_fault_iff hfault hbase hobo happ hcode, and_assoc, exists_and_left]

/-- The first test: the client certificate is let in. -/
theorem Deployed.connectionNotFound_iff (h : Deployed settings sts im log)
    (hbase : Sts.NoRequestorClaim im) (hfault : im.saml2.RaisesNoFault) (clock : Sts.IssueClock) :
    receiveConnectionNotFoundError settings sts im log clock = .ok () ↔
      Returns (Sts.validateToken sts im (some (.x509 settings.clientCertificate))) := by
  obtain ⟨request, -, hiff⟩ := h.assertFault_eq_ok_iff hbase hfault h.newUri_noConnection clock
    settings.clientCertificate settings.anvenderContext
  have hconn : Sts.isNoConnection ⟨⟨Sts.noConnectionAddress⟩⟩ = true := by decide
  have hassertions : (Text.contains
        ("Path resolution: no connection '" ++ Sts.noConnectionAddress ++ "' found")
        "Path resolution: no connection" &&
      indexOfIsPositive ("Path resolution: no connection '" ++ Sts.noConnectionAddress ++ "' found")
        Sts.noConnectionAddress) = true := by
    decide
  refine (hiff "5002" _ (by decide)).trans (and_iff_left ?_)
  exact ⟨_, by rw [refusal, if_pos hconn], hassertions⟩

/-- The assertions of the second test hold of the message for a thumbprint. -/
theorem noMappedUser_assertions {thumbprint : String} (hne : thumbprint ≠ "")
    (hhex : ∀ c ∈ thumbprint.toList, c ∈ "0123456789ABCDEF".toList) :
    (Text.contains ("No mapped user exists for thumbprint '" ++ thumbprint ++ "'")
        "No mapped user exists for thumbprint" &&
      indexOfIsPositive ("No mapped user exists for thumbprint '" ++ thumbprint ++ "'")
        thumbprint) = true := by
  have htext : Text.contains ("No mapped user exists for thumbprint '" ++ thumbprint ++ "'")
      "No mapped user exists for thumbprint" = true := by
    have hmiddle := contains_middle "" "No mapped user exists for thumbprint"
      (" '" ++ thumbprint ++ "'")
    rw [String.empty_append, ← String.append_assoc, ← String.append_assoc] at hmiddle
    exact hmiddle
  have hstarts : Text.startsWith ("No mapped user exists for thumbprint '" ++ thumbprint ++ "'")
      thumbprint = false := by
    have htoList : thumbprint.toList ≠ [] := by simpa using hne
    obtain ⟨d, digits, hcons⟩ := List.exists_cons_of_ne_nil htoList
    have hdigit := hhex d (by simp [hcons])
    have hne : 'N' ≠ d := by
      rintro rfl
      exact absurd hdigit (by decide)
    have hhead : ("No mapped user exists for thumbprint '" ++ thumbprint ++ "'").toList.head? =
        some 'N' := by
      rw [String.append_assoc, String.toList_append, List.head?_append]
      rfl
    exact startsWith_eq_false hhead (by rw [hcons, List.head?_cons]) hne
  rw [indexOfIsPositive, htext, contains_middle, hstarts]
  rfl

theorem thumbprint_ne_empty {cert : X509Certificate2}
    (h : Returns (Sts.validateToken sts im (some (.x509 cert)))) : cert.thumbprint ≠ "" := by
  obtain ⟨identities, hvalid⟩ := h
  have hthree := ((Sts.validateToken_eq_ok_iff _ _ _ _).mp hvalid).1
  exact ((Sts.isValidThumbprint_iff sts cert.thumbprint).mp hthree).1

/-- The second test: the invalid certificate is let in, and is the service's. -/
theorem Deployed.authentication_iff (h : Deployed settings sts im log)
    (hbase : Sts.NoRequestorClaim im) (hfault : im.saml2.RaisesNoFault) (clock : Sts.IssueClock)
    (hhex : ∀ c ∈ settings.anInvalidClientCertificate.thumbprint.toList,
      c ∈ "0123456789ABCDEF".toList) :
    failedBecauseOfAuthentication settings sts im log clock = .ok () ↔
      Returns (Sts.validateToken sts im (some (.x509 settings.anInvalidClientCertificate))) ∧
        Sts.isNoConnection ⟨settings.serviceAddressUri⟩ = false ∧
        settings.anInvalidClientCertificate.thumbprint = sts.stsServiceCertificate.thumbprint := by
  obtain ⟨request, -, hiff⟩ := h.assertFault_eq_ok_iff hbase hfault h.newUri_service clock
    settings.anInvalidClientCertificate settings.anvenderContext
  refine (hiff "5607" _ (by decide)).trans (and_congr_right fun hvalid => ?_)
  constructor
  · intro hmessage
    obtain ⟨message, hrefusal, -⟩ := hmessage
    unfold refusal at hrefusal
    split at hrefusal
    · simp at hrefusal
    · next hconn =>
        split at hrefusal
        · next hsts => exact ⟨by simpa using hconn, hsts⟩
        · split at hrefusal
          · simp [Sts.expectedCvrClaim] at hrefusal
          · contradiction
  · intro hcase
    obtain ⟨hconn, hsts⟩ := hcase
    have hassertions := noMappedUser_assertions (thumbprint_ne_empty hvalid) hhex
    refine ⟨_, ?_, hassertions⟩
    rw [refusal, hconn, if_neg Bool.false_ne_true, if_pos hsts, Sts.noMappedUser]

/-- The third test: the client certificate is let in, and is not the service's. -/
theorem Deployed.invalidRst_iff (h : Deployed settings sts im log)
    (hbase : Sts.NoRequestorClaim im) (hfault : im.saml2.RaisesNoFault) (clock : Sts.IssueClock) :
    failedBecauseOfInvalidRst settings sts im log clock = .ok () ↔
      Returns (Sts.validateToken sts im (some (.x509 settings.clientCertificate))) ∧
        Sts.isNoConnection ⟨settings.serviceAddressUri⟩ = false ∧
        settings.clientCertificate.thumbprint ≠ sts.stsServiceCertificate.thumbprint := by
  obtain ⟨request, hclaims, hiff⟩ := h.assertFault_eq_ok_iff hbase hfault h.newUri_service clock
    settings.clientCertificate (some "")
  have hempty := hclaims.mpr rfl
  refine (hiff "5015" _ (by decide)).trans (and_congr_right fun _ => ?_)
  constructor
  · intro hmessage
    obtain ⟨message, hrefusal, -⟩ := hmessage
    unfold refusal at hrefusal
    split at hrefusal
    · simp at hrefusal
    · next hconn =>
        split at hrefusal
        · simp [Sts.noMappedUser] at hrefusal
        · next hsts => exact ⟨by simpa using hconn, hsts⟩
  · intro hcase
    obtain ⟨hconn, hsts⟩ := hcase
    refine ⟨_, ?_, contains_self _⟩
    rw [refusal, hconn, if_neg Bool.false_ne_true, if_neg hsts, if_pos hempty, Sts.expectedCvrClaim]

/-- The deployments in which every error is the expected one. -/
structure ExpectsErrors (settings : TestSettings) (sts : Sts.Constants) (im : IdentityModel) :
    Prop where
  client : Returns (Sts.validateToken sts im (some (.x509 settings.clientCertificate)))
  client_ne : settings.clientCertificate.thumbprint ≠ sts.stsServiceCertificate.thumbprint
  invalid : Returns (Sts.validateToken sts im (some (.x509 settings.anInvalidClientCertificate)))
  invalid_eq : settings.anInvalidClientCertificate.thumbprint = sts.stsServiceCertificate.thumbprint
  service : Sts.isNoConnection ⟨settings.serviceAddressUri⟩ = false

/-- **The test of the errors** passes exactly when the client certificate is let
in, the invalid one is let in as the service's own, and the service has a
connection. -/
theorem handleCommonErrors_iff (h : Deployed settings sts im log)
    (hbase : Sts.NoRequestorClaim im) (hfault : im.saml2.RaisesNoFault)
    (hhex : ∀ c ∈ settings.anInvalidClientCertificate.thumbprint.toList,
      c ∈ "0123456789ABCDEF".toList) (clock₁ clock₂ clock₃ : Sts.IssueClock) :
    Returns (handleCommonErrorsWhenIssueToken settings sts im log clock₁ clock₂ clock₃) ↔
      ExpectsErrors settings sts im := by
  have hreturns (x : Except ClientException Unit) : Returns x ↔ x = .ok () :=
    ⟨fun ⟨_, hx⟩ => hx, fun hx => ⟨(), hx⟩⟩
  rw [hreturns, handleCommonErrorsWhenIssueToken]
  simp only [bind_eq_ok, exists_const, h.connectionNotFound_iff hbase hfault,
    h.authentication_iff hbase hfault _ hhex, h.invalidRst_iff hbase hfault]
  constructor
  · intro htests
    obtain ⟨hclient, ⟨hinvalid, hconn, heq⟩, -, -, hne⟩ := htests
    exact ⟨hclient, hne, hinvalid, heq, hconn⟩
  · intro he
    exact ⟨he.client, ⟨he.invalid, he.service, he.invalid_eq⟩, he.client, he.service, he.client_ne⟩

end Deployed

/-! ### Against the sample service -/

/-- The settings of tests with the certificates of the sample service. -/
def sampleTestSettings : TestSettings :=
  { sampleConstants with
    stsBaseAddress := "https://adgangsstyring.test-stoettesystemerne.dk/"
    serviceAddressUri := ⟨"https://service.projekt-stoettesystemerne.dk/kombit/service"⟩
    clientCertificate := Sts.sampleConstants.aValidClientCertificate
    anInvalidClientCertificate := Sts.sampleConstants.stsServiceCertificate
    anvenderContext := some "01234567"
    oasisWssSaml2TokenProfile11 := "http://docs.oasis-open.org/wss/" ++
      "oasis-wss-saml-token-profile-1.1#SAMLV2.0" }

/-- A log of requests that takes everything. -/
def anyRequestLog : SoapMessageLog ClientRequest where
  toText _ := ""
  writeAllText _ _ := .ok ()

theorem deployed_sample :
    Deployed sampleTestSettings Sts.sampleConstants Documented.identityModel anyRequestLog where
  writeAllText path text := returns_ok ()
  newUri_noConnection := by decide
  newUri_service := by decide
  newUri_sts := by decide
  lifetime now := by
    refine ⟨_, Documented.getTokenLifetime_eq_ok_iff.mpr ⟨?_, ?_, ?_, ?_, rfl⟩⟩ <;>
      simp only [SecurityTokenService.expiresOf, SecurityTokenService.createdOf, Option.bind_none,
        Option.getD_none, Sts.wsTrustServiceConfiguration, TimeSpan.fromMinutes,
        TimeSpan.fromSeconds] <;> grind
  proof request _ := returns_ok _

/-- With the certificate of the service as the invalid one, the test passes. -/
theorem handleCommonErrors_sample :
    Returns (handleCommonErrorsWhenIssueToken sampleTestSettings Sts.sampleConstants
      Documented.identityModel anyRequestLog ⟨0, 0, 0⟩ ⟨0, 0, 0⟩ ⟨0, 0, 0⟩) := by
  have hall : sampleTestSettings.anInvalidClientCertificate.thumbprint.toList.all
      (fun c => "0123456789ABCDEF".toList.contains c) = true := by decide
  have hhex : ∀ c ∈ sampleTestSettings.anInvalidClientCertificate.thumbprint.toList,
      c ∈ "0123456789ABCDEF".toList := by
    simpa only [List.all_eq_true, List.contains_iff_mem] using hall
  exact (handleCommonErrors_iff deployed_sample Sts.noRequestorClaim_documented
    Documented.raisesNoFault hhex _ _ _).mpr ⟨by decide, by decide, by decide, rfl, by decide⟩

theorem statesAttributesFirst_documented : StatesAttributesFirst Documented.saml2 := by
  intro d statements h _
  obtain rfl := Except.ok.inj h
  refine ⟨_, [], rfl, by simp, ?_⟩
  intro saml2Attribute hmem
  obtain ⟨claim, -, rfl⟩ := List.mem_map.mp hmem
  exact List.cons_ne_nil _ _

end KombitSamples.Consumer
